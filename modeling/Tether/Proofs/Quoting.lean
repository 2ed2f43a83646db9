import Mathlib.Data.List.Infix
import Mathlib.Tactic.SplitIfs
import Tether.Toml.Text
import Tether.Toml.Writer

/-! Strings of TOML read back as they were written, in each of the four styles. The styles with
three quotes end at the first three in a row, so what they hold may have two in a row at most, and
up to two that belong to the string may stand right before the end. -/

namespace Tether.Toml

open Toml.Text Writer

/-! ### Characters -/

theorem isPlain_of_not_isControl {c : Char} (plain : ¬ isControl c) (inLine : c ≠ '\n') :
    isPlain c := by
  simp only [isControl, Bool.or_eq_true, Bool.and_eq_true, decide_eq_true_eq, not_or, not_and,
    not_not] at plain
  simp only [isPlain, Bool.or_eq_true, Bool.and_eq_true, decide_eq_true_eq]
  by_cases tab : c = '\t'
  · exact .inl tab
  · refine .inr ⟨Char.not_lt.mp fun low => ?_, plain.2⟩
    exact inLine (plain.1 ⟨low, tab⟩)

theorem ofHex?_hexFour {c : Char} (control : isControl c) : ofHex? (hexFour c.toNat) = some c := by
  have codes : ∀ n < 128, ofHex? (hexFour n) = some (Char.ofNat n) := by decide +kernel
  have small : c.toNat < 128 := by
    simp only [isControl, Bool.or_eq_true, Bool.and_eq_true, decide_eq_true_eq] at control
    rcases control with ⟨⟨low, -⟩, -⟩ | rfl
    · have low : c.toNat < 32 := low
      omega
    · decide
  rw [codes _ small, Char.ofNat_toNat]

/-- What a character is written as between double quotes, and how many quotes then stand there in
a row, if `run` of them stood there before. -/
inductive Piece (lines : Bool) (run : Nat) : Char → List Char → Nat → Prop where
  | quote (many : lines) (free : run < 2) : Piece lines run '"' ['"'] (run + 1)
  | newline (many : lines) : Piece lines run '\n' ['\n'] 0
  | escape {c : Char} {code : List Char} (reads : ∀ rest, escape (code ++ rest) = some (c, rest))
      (stays : ∀ rest, joined? (code ++ rest) = none) : Piece lines run c ('\\' :: code) 0
  | plain {c : Char} (plain : isPlain c) (bare : c ≠ '"' ∧ c ≠ '\\') : Piece lines run c [c] 0

theorem escaped_cons (lines : Bool) (run : Nat) (c : Char) (r : List Char) :
    ∃ text next, Piece lines run c text next ∧
      escaped lines run (c :: r) = text ++ escaped lines next r := by
  have letter (code d : Char) (reads : ∀ rest, escape (code :: rest) = some (d, rest))
      (stays : ∀ rest, joined? (code :: rest) = none) : Piece lines run d ['\\', code] 0 :=
    @Piece.escape lines run d [code] reads stays
  rw [escaped]
  split_ifs with quote free backslash newline many tab back feed ret control
  · subst quote
    rw [Bool.and_eq_true, decide_eq_true_eq] at free
    exact ⟨_, _, .quote free.1 free.2, rfl⟩
  · subst quote
    exact ⟨_, _, letter '"' '"' (fun _ => rfl) (fun _ => rfl), rfl⟩
  · subst backslash
    exact ⟨_, _, letter '\\' '\\' (fun _ => rfl) (fun _ => rfl), rfl⟩
  · subst newline
    exact ⟨_, _, .newline many, rfl⟩
  · subst newline
    exact ⟨_, _, letter 'n' '\n' (fun _ => rfl) (fun _ => rfl), rfl⟩
  · subst tab
    exact ⟨_, _, letter 't' '\t' (fun _ => rfl) (fun _ => rfl), rfl⟩
  · subst back
    exact ⟨_, _, letter 'b' '\x08' (fun _ => rfl) (fun _ => rfl), rfl⟩
  · subst feed
    exact ⟨_, _, letter 'f' '\x0c' (fun _ => rfl) (fun _ => rfl), rfl⟩
  · subst ret
    exact ⟨_, _, letter 'r' '\r' (fun _ => rfl) (fun _ => rfl), rfl⟩
  · refine ⟨'\\' :: 'u' :: hexFour c.toNat, 0, .escape (fun rest => ?_) fun _ => rfl, rfl⟩
    change (ofHex? (hexFour c.toNat)).map (·, rest) = some (c, rest)
    rw [ofHex?_hexFour control]
    rfl
  · exact ⟨_, _, .plain (isPlain_of_not_isControl control newline) ⟨quote, backslash⟩, rfl⟩

/-! ### Strings on one line -/

theorem basic_of_escape {text rest : List Char} {c : Char} (reads : escape text = some (c, rest))
    (fuel : Nat) : basic (fuel + 1) ('\\' :: text) =
      (basic fuel rest).map fun (s, rest) => (c :: s, rest) := by
  cases found : basic fuel rest <;> simp [basic, reads, found]

theorem basic_of_plain {c : Char} (plain : isPlain c) (bare : c ≠ '"' ∧ c ≠ '\\') (fuel : Nat)
    (rest : List Char) : basic (fuel + 1) (c :: rest) =
      (basic fuel rest).map fun (s, rest) => (c :: s, rest) := by
  simp [basic, plain, bare.1, bare.2]

theorem basic_escaped (run : Nat) (cs rest : List Char) {fuel : Nat}
    (long : (escaped false run cs).length < fuel) :
    basic fuel (escaped false run cs ++ '"' :: rest) = some (cs, rest) := by
  induction cs generalizing run fuel with
  | nil =>
    obtain ⟨fuel, rfl⟩ := Nat.exists_eq_add_of_lt long
    rfl
  | cons c r ih =>
    obtain ⟨text, next, piece, written⟩ := escaped_cons false run c r
    obtain ⟨fuel, rfl⟩ := Nat.exists_eq_succ_of_ne_zero (Nat.ne_zero_of_lt long)
    rw [written, List.length_append] at long
    rw [written, List.append_assoc]
    cases piece with
    | quote many => cases many
    | newline many => cases many
    | escape reads =>
      have short : (escaped false 0 r).length < fuel := by
        simp only [List.length_cons] at long
        omega
      rw [List.cons_append, basic_of_escape (reads _), ih 0 short]
      rfl
    | plain plain bare =>
      have short : (escaped false 0 r).length < fuel := by
        simp only [List.length_cons] at long
        omega
      rw [List.singleton_append, basic_of_plain plain bare, ih 0 short]
      rfl

theorem literal_append {cs : List Char} (plain : ∀ c ∈ cs, isPlain c ∧ c ≠ '\'')
    (rest : List Char) : literal (cs ++ '\'' :: rest) = some (cs, rest) := by
  induction cs with
  | nil => rfl
  | cons c r ih =>
    rw [List.forall_mem_cons] at plain
    simp [literal, plain.1.1, plain.1.2, ih plain.2]

/-! ### Strings on several lines -/

theorem closing?_of_ne {q c : Char} (other : c ≠ q) (cs : List Char) :
    closing? q (c :: cs) = none := by
  match cs with
  | [] | [_] => rfl
  | _ :: _ :: _ => simp [closing?, other]

/-- Three quotes close a string, with those that stand right before them and belong to it. If
something else comes first they do not close it yet. -/
theorem closing?_append {q : Char} {body rest : List Char} (stops : rest.head? ≠ some q)
    (few : ¬ [q, q, q] <+: body) :
    (∃ n, body = List.replicate n q ∧
        closing? q (body ++ q :: q :: q :: rest) = some (body, rest)) ∨
      body ≠ [] ∧ closing? q (body ++ q :: q :: q :: rest) = none := by
  match body with
  | [] =>
    refine .inl ⟨0, rfl, ?_⟩
    match rest with
    | [] => simp [closing?]
    | [d] => simpa [closing?] using stops
    | d :: e :: r =>
      have other : d ≠ q := by simpa using stops
      simp [closing?, other]
  | [a] =>
    by_cases first : a = q
    · subst first
      refine .inl ⟨1, rfl, ?_⟩
      match rest with
      | [] => simp [closing?]
      | e :: r =>
        have other : e ≠ a := by simpa using stops
        simp [closing?, other]
    · exact .inr ⟨by simp, by simp [closing?, first]⟩
  | [a, b] =>
    by_cases both : a = q ∧ b = q
    · obtain ⟨rfl, rfl⟩ := both
      exact .inl ⟨2, rfl, by simp [closing?]⟩
    · exact .inr ⟨by simp, by simpa [closing?] using both⟩
  | a :: b :: c :: t =>
    have differs : ¬ (a = q ∧ b = q ∧ c = q) := by
      rintro ⟨rfl, rfl, rfl⟩
      exact few ⟨t, rfl⟩
    exact .inr ⟨by simp, by simp [closing?, differs]⟩

theorem newline?_of_plain {c : Char} (plain : isPlain c) (rest : List Char) :
    newline? (c :: rest) = none := by
  have bare : c ≠ '\n' ∧ c ≠ '\r' :=
    ⟨fun same => absurd (same ▸ plain) (by decide), fun same => absurd (same ▸ plain) (by decide)⟩
  unfold newline?
  split
  · next same => exact absurd (List.cons.inj same).1 bare.1
  · next same => exact absurd (List.cons.inj same).1 bare.2
  · rfl

section

variable {fuel : Nat} {c : Char} {cs : List Char}

theorem literalLines_of_closing {found : List Char × List Char}
    (closed : closing? '\'' cs = some found) : literalLines (fuel + 1) cs = some found := by
  simp only [literalLines.eq_def, closed]

theorem literalLines_newline (goesOn : closing? '\'' ('\n' :: cs) = none) :
    literalLines (fuel + 1) ('\n' :: cs) =
      (literalLines fuel cs).map fun (s, rest) => ('\n' :: s, rest) := by
  simp only [literalLines.eq_def (fuel + 1), goesOn, newline?]

theorem literalLines_plain (goesOn : closing? '\'' (c :: cs) = none) (plain : isPlain c) :
    literalLines (fuel + 1) (c :: cs) =
      (literalLines fuel cs).map fun (s, rest) => (c :: s, rest) := by
  simp only [literalLines.eq_def (fuel + 1), goesOn, newline?_of_plain plain, plain, if_true]

theorem basicLines_of_closing {found : List Char × List Char}
    (closed : closing? '"' cs = some found) : basicLines (fuel + 1) cs = some found := by
  simp only [basicLines.eq_def, closed]

theorem basicLines_newline (goesOn : closing? '"' ('\n' :: cs) = none) :
    basicLines (fuel + 1) ('\n' :: cs) =
      (basicLines fuel cs).map fun (s, rest) => ('\n' :: s, rest) := by
  simp only [basicLines.eq_def (fuel + 1), goesOn, newline?]

theorem basicLines_plain (goesOn : closing? '"' (c :: cs) = none) (plain : isPlain c)
    (bare : c ≠ '\\') : basicLines (fuel + 1) (c :: cs) =
      (basicLines fuel cs).map fun (s, rest) => (c :: s, rest) := by
  simp [basicLines.eq_def (fuel + 1), goesOn, newline?_of_plain plain, plain]

theorem basicLines_escape {rest : List Char} (reads : escape cs = some (c, rest))
    (stays : joined? cs = none) : basicLines (fuel + 1) ('\\' :: cs) =
      (basicLines fuel rest).map fun (s, rest) => (c :: s, rest) := by
  cases found : basicLines fuel rest <;>
    simp [basicLines.eq_def (fuel + 1), closing?_of_ne, newline?, stays, reads, found]

end

theorem quote_of_escaped {run : Nat} {cs t : List Char} (quote : escaped true run cs = '"' :: t) :
    ∃ r, cs = '"' :: r ∧ run < 2 ∧ t = escaped true (run + 1) r := by
  cases cs with
  | nil => cases quote
  | cons c r =>
    obtain ⟨text, next, piece, written⟩ := escaped_cons true run c r
    rw [written] at quote
    cases piece with
    | quote many free => exact ⟨r, rfl, free, (List.cons.inj quote).2.symm⟩
    | newline => exact absurd (List.cons.inj quote).1 (by decide)
    | escape => exact absurd (List.cons.inj quote).1 (by decide)
    | plain _ bare => exact absurd (List.cons.inj quote).1 bare.1

theorem eq_of_escaped_eq_quotes {n run : Nat} {cs : List Char}
    (quotes : escaped true run cs = List.replicate n '"') : cs = List.replicate n '"' := by
  induction n generalizing run cs with
  | zero =>
    cases cs with
    | nil => rfl
    | cons c r =>
      obtain ⟨text, next, piece, written⟩ := escaped_cons true run c r
      rw [written] at quotes
      cases piece <;> cases quotes
  | succ n ih =>
    obtain ⟨r, rfl, -, rest⟩ := quote_of_escaped quotes
    rw [ih rest.symm, List.replicate_succ]

theorem not_begins_three_quotes_escaped (run : Nat) (cs : List Char) :
    ¬ ['"', '"', '"'] <+: escaped true run cs := by
  rintro ⟨t, quotes⟩
  obtain ⟨r, rfl, -, second⟩ := quote_of_escaped quotes.symm
  obtain ⟨r, rfl, -, third⟩ := quote_of_escaped second.symm
  obtain ⟨r, rfl, full, -⟩ := quote_of_escaped third.symm
  omega

theorem le_longestRun (q : Char) (run : Nat) (cs : List Char) : run ≤ longestRun q run cs := by
  fun_induction longestRun q run cs with
  | case1 => exact Nat.le_refl _
  | case2 run r ih => omega
  | case3 run c r other ih => exact Nat.le_max_left _ _

theorem longestRun_mono (q : Char) {run run' : Nat} (more : run ≤ run') (cs : List Char) :
    longestRun q run cs ≤ longestRun q run' cs := by
  induction cs generalizing run run' with
  | nil => exact more
  | cons c r ih =>
    rw [longestRun, longestRun]
    split
    · exact ih (Nat.succ_le_succ more)
    · omega

theorem longestRun_le_cons (q c : Char) (cs : List Char) :
    longestRun q 0 cs ≤ longestRun q 0 (c :: cs) := by
  rw [longestRun]
  split
  · exact longestRun_mono q (Nat.zero_le 1) cs
  · exact Nat.le_max_right _ _

theorem not_begins_three_quotes {q : Char} {cs : List Char} (few : longestRun q 0 cs ≤ 2) :
    ¬ [q, q, q] <+: cs := by
  rintro ⟨t, rfl⟩
  have many := le_longestRun q 3 t
  simp [longestRun] at few
  omega

theorem literalLines_append {cs rest : List Char} (stops : rest.head? ≠ some '\'')
    (plain : ∀ c ∈ cs, isPlain c ∨ c = '\n') (few : longestRun '\'' 0 cs ≤ 2)
    {fuel : Nat} (long : cs.length < fuel) :
    literalLines fuel (cs ++ '\'' :: '\'' :: '\'' :: rest) = some (cs, rest) := by
  induction cs generalizing fuel with
  | nil =>
    obtain ⟨fuel, rfl⟩ := Nat.exists_eq_succ_of_ne_zero (Nat.ne_zero_of_lt long)
    rcases closing?_append stops (not_begins_three_quotes few) with ⟨n, -, closed⟩ | ⟨some, -⟩
    · exact literalLines_of_closing closed
    · exact absurd rfl some
  | cons c r ih =>
    obtain ⟨fuel, rfl⟩ := Nat.exists_eq_succ_of_ne_zero (Nat.ne_zero_of_lt long)
    rw [List.forall_mem_cons] at plain
    have short : r.length < fuel := Nat.lt_of_succ_lt_succ long
    have later := ih plain.2 (Nat.le_trans (longestRun_le_cons _ c r) few) short
    rcases closing?_append stops (not_begins_three_quotes few) with ⟨n, -, closed⟩ | ⟨-, goesOn⟩
    · exact literalLines_of_closing closed
    · rw [List.cons_append] at goesOn ⊢
      rcases plain.1 with plain | rfl
      · rw [literalLines_plain goesOn plain, later]
        rfl
      · rw [literalLines_newline goesOn, later]
        rfl

theorem basicLines_escaped {run : Nat} {cs rest : List Char} (stops : rest.head? ≠ some '"')
    {fuel : Nat} (long : (escaped true run cs).length < fuel) :
    basicLines fuel (escaped true run cs ++ '"' :: '"' :: '"' :: rest) = some (cs, rest) := by
  induction cs generalizing run fuel with
  | nil =>
    obtain ⟨fuel, rfl⟩ := Nat.exists_eq_succ_of_ne_zero (Nat.ne_zero_of_lt long)
    rcases closing?_append stops (not_begins_three_quotes_escaped run []) with
      ⟨n, -, closed⟩ | ⟨some, -⟩
    · exact basicLines_of_closing closed
    · exact absurd rfl some
  | cons c r ih =>
    obtain ⟨fuel, rfl⟩ := Nat.exists_eq_succ_of_ne_zero (Nat.ne_zero_of_lt long)
    rcases closing?_append stops (not_begins_three_quotes_escaped run (c :: r)) with
      ⟨n, quotes, closed⟩ | ⟨-, goesOn⟩
    · rw [basicLines_of_closing closed, quotes, eq_of_escaped_eq_quotes quotes]
    obtain ⟨text, next, piece, written⟩ := escaped_cons true run c r
    rw [written, List.length_append] at long
    rw [written, List.append_assoc] at goesOn ⊢
    have later : 0 < text.length → basicLines fuel
        (escaped true next r ++ '"' :: '"' :: '"' :: rest) = some (r, rest) := fun some =>
      ih (by omega)
    cases piece with
    | quote =>
      rw [List.singleton_append] at goesOn ⊢
      rw [basicLines_plain goesOn (by decide) (by decide), later Nat.one_pos]
      rfl
    | newline =>
      rw [List.singleton_append] at goesOn ⊢
      rw [basicLines_newline goesOn, later Nat.one_pos]
      rfl
    | escape reads stays =>
      rw [List.cons_append, basicLines_escape (reads _) (stays _), later (Nat.succ_pos _)]
      rfl
    | plain plain bare =>
      rw [List.singleton_append] at goesOn ⊢
      rw [basicLines_plain goesOn plain bare.2, later Nat.one_pos]
      rfl

/-! ### All styles -/

theorem forall_of_not_any {p : Char → Bool} {cs : List Char} (none : cs.any p = false) :
    ∀ c ∈ cs, ¬ p c := by
  simpa using none

theorem ne_of_longestRun_eq_zero {q : Char} {cs : List Char} (none : longestRun q 0 cs = 0) :
    ∀ c ∈ cs, c ≠ q := by
  induction cs with
  | nil => simp
  | cons c r ih =>
    rw [longestRun] at none
    split at none
    · have some := le_longestRun q (0 + 1) r
      omega
    · next other =>
      rw [List.forall_mem_cons]
      exact ⟨other, ih (by omega)⟩

theorem plain_of_style_literal {cs : List Char} (style : (Shape.of cs).style = .literal) :
    cs ≠ [] ∧ ∀ c ∈ cs, isPlain c ∧ c ≠ '\'' := by
  unfold Shape.style at style
  split_ifs at style with basic literal
  simp only [Shape.of, Bool.and_eq_true, Bool.not_eq_true', decide_eq_true_eq,
    List.contains_eq_mem, decide_eq_false_iff_not] at literal
  constructor
  · rintro rfl
    exact basic (by decide)
  · intro c mem
    have inLine : c ≠ '\n' := fun same => literal.2 (same ▸ mem)
    exact ⟨isPlain_of_not_isControl (forall_of_not_any literal.1.1 c mem) inLine,
      ne_of_longestRun_eq_zero literal.1.2 c mem⟩

theorem plain_of_style_literalLines {cs : List Char}
    (style : (Shape.of cs).style = .literalLines) :
    (∀ c ∈ cs, isPlain c ∨ c = '\n') ∧ longestRun '\'' 0 cs ≤ 2 := by
  unfold Shape.style at style
  split_ifs at style with _ _ _ lines
  simp only [Shape.of, Bool.and_eq_true, Bool.not_eq_true'] at lines
  refine ⟨fun c mem => ?_, of_decide_eq_true lines.2⟩
  by_cases inLine : c = '\n'
  · exact .inr inLine
  · exact .inl (isPlain_of_not_isControl (forall_of_not_any lines.1 c mem) inLine)

theorem string_basic {text : List Char} (once : ¬ ['"', '"'] <+: text) :
    string ('"' :: text) =
      (basic (text.length + 1) text).map fun (s, rest) => (String.ofList s, rest) := by
  unfold string
  split
  · next r same => exact absurd ⟨r, (List.cons.inj same).2.symm⟩ once
  · next r _ same => rw [(List.cons.inj same).2]
  · next same => exact absurd (List.cons.inj same).1 (by decide)
  · next same => exact absurd (List.cons.inj same).1 (by decide)
  · next other _ _ => exact absurd rfl (other text)

theorem string_literal {text : List Char} (once : ¬ ['\'', '\''] <+: text) :
    string ('\'' :: text) = (literal text).map fun (s, rest) => (String.ofList s, rest) := by
  unfold string
  split
  · next same => exact absurd (List.cons.inj same).1 (by decide)
  · next same => exact absurd (List.cons.inj same).1 (by decide)
  · next r same => exact absurd ⟨r, (List.cons.inj same).2.symm⟩ once
  · next r _ same => rw [(List.cons.inj same).2]
  · next other => exact absurd rfl (other text)

theorem not_begins_two_quotes_escaped {cs rest : List Char} (stops : rest.head? ≠ some '"') :
    ¬ ['"', '"'] <+: escaped false 0 cs ++ '"' :: rest := by
  rintro ⟨t, quotes⟩
  cases cs with
  | nil =>
    simp only [escaped, List.nil_append, List.cons_append, List.cons.injEq, true_and] at quotes
    exact stops (by rw [← quotes]; rfl)
  | cons c r =>
    obtain ⟨text, next, piece, written⟩ := escaped_cons false 0 c r
    rw [written] at quotes
    cases piece with
    | quote many => cases many
    | newline many => cases many
    | escape => exact absurd (List.cons.inj quotes).1 (by decide)
    | plain _ bare => exact bare.1 (List.cons.inj quotes).1.symm

theorem not_begins_single_quotes {cs rest : List Char} (some : cs ≠ [])
    (other : ∀ c ∈ cs, c ≠ '\'') : ¬ ['\'', '\''] <+: cs ++ '\'' :: rest := by
  rintro ⟨t, quotes⟩
  obtain ⟨c, r, rfl⟩ := List.exists_cons_of_ne_nil some
  exact other c List.mem_cons_self (List.cons.inj quotes).1.symm

theorem newline?_escaped_append {cs : List Char} (inLine : '\n' ∉ cs) (rest : List Char) :
    newline? (escaped true 0 cs ++ '"' :: rest) = none := by
  cases cs with
  | nil => rfl
  | cons c r =>
    obtain ⟨text, next, piece, written⟩ := escaped_cons true 0 c r
    rw [written]
    cases piece with
    | quote => rfl
    | newline => exact absurd List.mem_cons_self inLine
    | escape => rfl
    | plain plain => exact newline?_of_plain plain _

theorem newline?_append_of_plain {cs : List Char} (plain : ∀ c ∈ cs, isPlain c ∨ c = '\n')
    (inLine : '\n' ∉ cs) (rest : List Char) : newline? (cs ++ '\'' :: rest) = none := by
  cases cs with
  | nil => rfl
  | cons c r =>
    have first := (plain c List.mem_cons_self).resolve_right fun same =>
      inLine (same ▸ List.mem_cons_self)
    exact newline?_of_plain first _

/-- Between three quotes one line end is written in front if the string has any, and else there
is none at the front to be passed over. -/
theorem firstNewline_written {cs body : List Char}
    (begins : '\n' ∉ cs → newline? body = none) :
    firstNewline ((if (Shape.of cs).newline then ['\n'] else []) ++ body) = body := by
  by_cases has : '\n' ∈ cs
  · simp [Shape.of, has, firstNewline, newline?]
  · simp [Shape.of, has, firstNewline, begins has]

theorem length_lt_append (cs rest : List Char) : cs.length < (cs ++ rest).length + 1 := by
  rw [List.length_append]
  omega

theorem length_lt_opened (opening cs rest : List Char) :
    cs.length < (opening ++ (cs ++ rest)).length + 1 := by
  rw [List.length_append, List.length_append]
  omega

theorem string_basicLines (text : List Char) : string ('"' :: '"' :: '"' :: text) =
    (basicLines (text.length + 1) (firstNewline text)).map fun (s, rest) =>
      (String.ofList s, rest) := rfl

theorem string_literalLines (text : List Char) : string ('\'' :: '\'' :: '\'' :: text) =
    (literalLines (text.length + 1) (firstNewline text)).map fun (s, rest) =>
      (String.ofList s, rest) := rfl

/-- A string reads back as it is quoted, whatever follows it but another quote. -/
theorem string_quoted (s : String) {rest : List Char}
    (stops : rest.head? ≠ some '"' ∧ rest.head? ≠ some '\'') :
    string (quoted s ++ rest) = some (s, rest) := by
  unfold quoted
  cases style : (Shape.of s.toList).style with
  | basic =>
    simp only [style, List.cons_append, List.append_assoc, List.nil_append]
    rw [string_basic (not_begins_two_quotes_escaped stops.1),
      basic_escaped _ _ _ (length_lt_append _ _)]
    simp
  | literal =>
    obtain ⟨some, plain⟩ := plain_of_style_literal style
    simp only [style, List.cons_append, List.append_assoc, List.nil_append]
    rw [string_literal (not_begins_single_quotes some fun c mem => (plain c mem).2),
      literal_append plain]
    simp
  | basicLines =>
    simp only [style, List.cons_append, List.append_assoc, List.nil_append]
    rw [string_basicLines,
      firstNewline_written fun inLine => newline?_escaped_append inLine _,
      basicLines_escaped stops.1 (length_lt_opened _ _ _)]
    simp
  | literalLines =>
    obtain ⟨plain, few⟩ := plain_of_style_literalLines style
    simp only [style, List.cons_append, List.append_assoc, List.nil_append]
    rw [string_literalLines,
      firstNewline_written fun inLine => newline?_append_of_plain plain inLine _,
      literalLines_append stops.2 plain few (length_lt_opened _ _ _)]
    simp

end Tether.Toml
