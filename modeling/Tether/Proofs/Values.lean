import Tether.Proofs.Numeral
import Tether.Proofs.Quoting

/-! Texts and arrays of TOML read back as they were written, at any depth that leaves brackets for
them. What a value is followed by tells the reader that it is over. -/

namespace Tether.Toml

open Toml.Text Writer

/-- A value behind the equals sign of its key, up to the end of its line, reads back as it was
written. -/
def ReadsBack (v : Value) : Prop :=
  ∀ rest : List Char,
    let text := skipBlanks (' ' :: (Writer.value v ++ '\n' :: rest))
    Reader.value (text.length + 1) (depthLimit - 1) text = some (v, '\n' :: rest)

/-- Characters that no reader passes over before a value. -/
def isSolid (c : Char) : Bool := !isBlank c && c ≠ '\n' && c ≠ '\r' && c ≠ '#' && c ≠ ']'

/-- What may follow a value: the end of its line, a comma or a closing bracket. -/
def EndsValue (rest : List Char) : Prop :=
  rest.head? = some '\n' ∨ rest.head? = some ',' ∨ rest.head? = some ']'

/-- A value is read off the front of a text as it was written, with `depth` brackets left. -/
structure Scans (depth : Nat) (v : Value) : Prop where
  begins : ∃ c text, Writer.value v = c :: text ∧ isSolid c
  scans : ∀ fuel rest, (Writer.value v).length < fuel → EndsValue rest →
    Reader.value fuel depth (Writer.value v ++ rest) = some (v, rest)

/-! ### Blanks -/

theorem isSolid_iff {c : Char} :
    isSolid c ↔ isBlank c = false ∧ c ≠ '\n' ∧ c ≠ '\r' ∧ c ≠ '#' ∧ c ≠ ']' := by
  simp [isSolid, and_assoc]

theorem skipBlanks_append {bs : List Char} (blank : ∀ b ∈ bs, isBlank b) (cs : List Char) :
    skipBlanks (bs ++ cs) = skipBlanks cs :=
  List.dropWhile_append_of_pos blank

theorem skipBlanks_of_not_isBlank {c : Char} (solid : isBlank c = false) (cs : List Char) :
    skipBlanks (c :: cs) = c :: cs := by
  simp [skipBlanks, solid]

theorem newline?_of_ne {c : Char} (other : c ≠ '\n' ∧ c ≠ '\r') (cs : List Char) :
    newline? (c :: cs) = none := by
  unfold newline?
  split
  · next same => exact absurd (List.cons.inj same).1 other.1
  · next same => exact absurd (List.cons.inj same).1 other.2
  · rfl

theorem skipLines_of_skipBlanks {fuel : Nat} {cs rest : List Char} {c : Char}
    (skipped : skipBlanks cs = c :: rest) (other : c ≠ '\n' ∧ c ≠ '\r' ∧ c ≠ '#') :
    skipLines (fuel + 1) cs = c :: rest := by
  rw [skipLines, skipped]
  split
  · next same => exact absurd (List.cons.inj same).1 other.2.2
  · rw [newline?_of_ne ⟨other.1, other.2.1⟩]

theorem skipLines_newline (fuel : Nat) (cs : List Char) :
    skipLines (fuel + 1) ('\n' :: cs) = skipLines fuel cs := rfl

/-! ### Texts -/

theorem quoted_eq_cons (s : String) : ∃ c text, quoted s = c :: text ∧ (c = '"' ∨ c = '\'') := by
  unfold quoted
  cases style : (Shape.of s.toList).style with
  | basic | basicLines => exact ⟨'"', _, by simp only [style]; rfl, .inl rfl⟩
  | literal | literalLines => exact ⟨'\'', _, by simp only [style]; rfl, .inr rfl⟩

theorem not_quote_of_endsValue {rest : List Char} (ends : EndsValue rest) :
    rest.head? ≠ some '"' ∧ rest.head? ≠ some '\'' := by
  rcases ends with next | next | next <;> simp [next]

theorem scans_text (depth : Nat) (s : String) : Scans depth (.text s) where
  begins := by
    obtain ⟨c, text, written, quote⟩ := quoted_eq_cons s
    exact ⟨c, text, by rw [Writer.value, written], by rcases quote with rfl | rfl <;> decide⟩
  scans fuel rest long ends := by
    obtain ⟨c, text, written, quote⟩ := quoted_eq_cons s
    have reads := string_quoted s (not_quote_of_endsValue ends)
    obtain ⟨fuel, rfl⟩ := Nat.exists_eq_succ_of_ne_zero (Nat.ne_zero_of_lt long)
    rw [Writer.value, written, List.cons_append] at *
    rw [Reader.value.eq_def]
    simp only [quote, if_true, reads]
    rfl

/-! ### Arrays -/

section

variable {fuel depth : Nat} {cs text r rest : List Char} {c : Char} {v : Value} {vs : List Value}

theorem items_last (skipped : skipLines cs.length cs = c :: text) (more : c ≠ ']')
    (item : Reader.value fuel depth (c :: text) = some (v, ']' :: rest)) :
    Reader.items (fuel + 1) depth cs = some ([v], rest) := by
  have closed : skipLines (rest.length + 1) (']' :: rest) = ']' :: rest :=
    skipLines_of_skipBlanks (skipBlanks_of_not_isBlank rfl rest) (by decide)
  rw [Reader.items.eq_def]
  simp [skipped, more, item, closed]

theorem items_next (skipped : skipLines cs.length cs = c :: text) (more : c ≠ ']')
    (item : Reader.value fuel depth (c :: text) = some (v, ',' :: r))
    (items : Reader.items fuel depth r = some (vs, rest)) :
    Reader.items (fuel + 1) depth cs = some (v :: vs, rest) := by
  have comma : skipLines (r.length + 1) (',' :: r) = ',' :: r :=
    skipLines_of_skipBlanks (skipBlanks_of_not_isBlank rfl r) (by decide)
  rw [Reader.items.eq_def]
  simp [skipped, more, item, comma, items]

end

/-- A line of its own is passed over up to the item that it holds. -/
theorem skipLines_itemLine {c : Char} (solid : isSolid c) (text : List Char) :
    skipLines ("\n    ".toList ++ c :: text).length ("\n    ".toList ++ c :: text) = c :: text := by
  obtain ⟨blank, line, ret, comment, -⟩ := isSolid_iff.mp solid
  have skipped : skipBlanks ([' ', ' ', ' ', ' '] ++ c :: text) = c :: text := by
    rw [skipBlanks_append (by simp [isBlank]), skipBlanks_of_not_isBlank blank]
  change skipLines (_ + 1) ('\n' :: ([' ', ' ', ' ', ' '] ++ c :: text)) = _
  rw [skipLines_newline]
  exact skipLines_of_skipBlanks skipped ⟨line, ret, comment⟩

theorem itemLines_cons (v : Value) (vs : List Value) :
    itemLines (v :: vs) = "\n    ".toList ++ Writer.value v ++ ',' :: itemLines vs := rfl

theorem length_itemLines (v : Value) (vs : List Value) :
    (itemLines (v :: vs)).length = (Writer.value v).length + (itemLines vs).length + 6 := by
  have margin : "\n    ".toList.length = 5 := rfl
  rw [itemLines_cons, List.length_append, List.length_append, margin, List.length_cons]
  omega

theorem items_itemLines {depth : Nat} {vs : List Value} (all : ∀ v ∈ vs, Scans depth v)
    (rest : List Char) {fuel : Nat} (long : (itemLines vs).length < fuel) :
    Reader.items fuel depth (itemLines vs ++ '\n' :: ']' :: rest) = some (vs, rest) := by
  induction vs generalizing fuel with
  | nil =>
    obtain ⟨fuel, rfl⟩ := Nat.exists_eq_succ_of_ne_zero (Nat.ne_zero_of_lt long)
    rfl
  | cons v vs ih =>
    obtain ⟨fuel, rfl⟩ := Nat.exists_eq_succ_of_ne_zero (Nat.ne_zero_of_lt long)
    rw [List.forall_mem_cons] at all
    obtain ⟨c, text, written, solid⟩ := all.1.begins
    rw [length_itemLines] at long
    have item := all.1.scans fuel (',' :: (itemLines vs ++ '\n' :: ']' :: rest)) (by omega)
      (.inr (.inl rfl))
    have short : (itemLines vs).length < fuel := by omega
    have items := ih all.2 short
    rw [written, List.cons_append] at item
    rw [itemLines_cons, written, List.append_assoc, List.append_assoc]
    exact items_next (skipLines_itemLine solid _) (isSolid_iff.mp solid).2.2.2.2 item items

theorem items_closing {fuel depth : Nat} (steps : 0 < fuel) (rest : List Char) :
    Reader.items fuel depth (']' :: rest) = some ([], rest) := by
  obtain ⟨fuel, rfl⟩ := Nat.exists_eq_succ_of_ne_zero (Nat.ne_of_gt steps)
  rfl

theorem items_single {depth : Nat} {v : Value} (scans : Scans depth v) (rest : List Char)
    {fuel : Nat} (long : (Writer.value v).length + 1 < fuel) :
    Reader.items fuel depth (Writer.value v ++ ']' :: rest) = some ([v], rest) := by
  obtain ⟨fuel, rfl⟩ := Nat.exists_eq_succ_of_ne_zero (Nat.ne_zero_of_lt long)
  obtain ⟨c, text, written, solid⟩ := scans.begins
  obtain ⟨blank, line, ret, comment, more⟩ := isSolid_iff.mp solid
  have item := scans.scans fuel (']' :: rest) (by omega) (.inr (.inr rfl))
  rw [written, List.cons_append] at item ⊢
  refine items_last ?_ more item
  exact skipLines_of_skipBlanks (skipBlanks_of_not_isBlank blank _) ⟨line, ret, comment⟩

theorem Scans.array {depth : Nat} {vs : List Value} {text : List Char}
    (written : Writer.value (.array vs) = '[' :: text)
    (items : ∀ fuel rest, text.length < fuel →
      Reader.items fuel depth (text ++ rest) = some (vs, rest)) :
    Scans (depth + 1) (.array vs) where
  begins := ⟨'[', text, written, rfl⟩
  scans fuel rest long ends := by
    rw [written, List.length_cons] at long
    obtain ⟨fuel, rfl⟩ := Nat.exists_eq_succ_of_ne_zero (Nat.ne_zero_of_lt long)
    rw [written, List.cons_append, Reader.value.eq_def]
    simp [items fuel rest (Nat.lt_of_succ_lt_succ long)]

/-- An array takes one bracket more than its items. -/
theorem scans_array {depth : Nat} {vs : List Value} (all : ∀ v ∈ vs, Scans depth v) :
    Scans (depth + 1) (.array vs) := by
  rcases vs with _ | ⟨v, _ | ⟨w, vs⟩⟩
  · have written : Writer.value (.array []) = ['[', ']'] := by rw [Writer.value]
    refine .array written fun fuel rest long => ?_
    exact items_closing (Nat.zero_lt_of_lt long) rest
  · have written : Writer.value (.array [v]) = '[' :: (Writer.value v ++ [']']) := by
      rw [Writer.value]
      rfl
    refine .array written fun fuel rest long => ?_
    rw [List.length_append] at long
    rw [List.append_assoc]
    exact items_single (all v List.mem_cons_self) rest long
  · have written : Writer.value (.array (v :: w :: vs)) =
        '[' :: (itemLines (v :: w :: vs) ++ ['\n', ']']) := by
      rw [Writer.value]
      · rfl
      · simp
    refine .array written fun fuel rest long => ?_
    rw [List.length_append] at long
    rw [List.append_assoc]
    exact items_itemLines all rest (Nat.lt_of_le_of_lt (Nat.le_add_right _ _) long)

/-! ### Behind a key -/

theorem readsBack_of_begins {v : Value}
    (begins : ∃ c text, Writer.value v = c :: text ∧ isSolid c)
    (reads : ∀ fuel rest, (Writer.value v).length < fuel →
      Reader.value fuel (depthLimit - 1) (Writer.value v ++ '\n' :: rest) =
        some (v, '\n' :: rest)) : ReadsBack v := by
  intro rest
  obtain ⟨c, text, written, solid⟩ := begins
  have skipped : skipBlanks (' ' :: (Writer.value v ++ '\n' :: rest)) =
      Writer.value v ++ '\n' :: rest := by
    rw [written]
    have margin : ∀ b ∈ [' '], isBlank b := by simp [isBlank]
    exact (skipBlanks_append margin _).trans
      (skipBlanks_of_not_isBlank (isSolid_iff.mp solid).1 _)
  rw [skipped]
  exact reads _ _ (length_lt_append _ _)

theorem Scans.readsBack {v : Value} (scans : Scans (depthLimit - 1) v) : ReadsBack v :=
  readsBack_of_begins scans.begins fun fuel _ long => scans.scans fuel _ long (.inl rfl)

theorem readsBack_text (s : String) : ReadsBack (.text s) := (scans_text _ s).readsBack

theorem isSolid_of_isDigit {c : Char} (digit : c.isDigit) : isSolid c := by
  have other (d : Char) (no : d.isDigit = false) : c ≠ d := ne_of_isDigit digit no
  simp [isSolid, isBlank, other ' ' rfl, other '\t' rfl, other '\n' rfl, other '\r' rfl,
    other '#' rfl, other ']' rfl]

theorem readsBack_integer {n : Nat} (fits : Scalar.inRange n) : ReadsBack (.integer n) := by
  apply readsBack_of_begins
  · obtain ⟨c, r, digits, digit⟩ := (isNumeral_toDigits n).eq_cons
    exact ⟨c, r, by rw [writer_value_integer, digits], isSolid_of_isDigit digit⟩
  · intro fuel rest long
    obtain ⟨fuel, rfl⟩ := Nat.exists_eq_succ_of_ne_zero (Nat.ne_zero_of_lt long)
    exact value_integer fits fuel _ rest

/-- A float that is written with a point reads back if it is the one nearest to its digits. -/
theorem readsBack_real {x : Float} (whole fraction : List Char)
    (written : Writer.value (.real x) = whole ++ '.' :: fraction) (numeral : IsNumeral whole)
    (digits : ∀ c ∈ fraction, c.isDigit) (some : fraction ≠ [])
    (near : Decimal.nearest (Scalar.ofDigits 10 (whole ++ fraction)) (-fraction.length) = x)
    (finite : x.isInf = false) : ReadsBack (.real x) := by
  obtain ⟨c, r, eq, digit⟩ := numeral.eq_cons
  apply readsBack_of_begins
  · exact ⟨c, _, by rw [written, eq, List.cons_append], isSolid_of_isDigit digit⟩
  · intro fuel rest long
    obtain ⟨fuel, rfl⟩ := Nat.exists_eq_succ_of_ne_zero (Nat.ne_zero_of_lt long)
    have noMoment := moment_append (.inr rfl) (fraction ++ '\n' :: rest) numeral.digits
    have real := real_fraction numeral digits some rest near finite
    rw [written, List.append_assoc, List.cons_append]
    rw [eq, List.cons_append] at noMoment real ⊢
    rw [value_of_isDigit digit, noMoment, real]

/-- Pairs of texts, however many. -/
theorem readsBack_pairs (pairs : List (String × String)) :
    ReadsBack (.array (pairs.map fun (a, b) => .array [.text a, .text b])) := by
  have pair (a b : String) : Scans (depthLimit - 2) (.array [.text a, .text b]) := by
    refine scans_array fun v mem => ?_
    rcases List.mem_cons.mp mem with rfl | mem
    · exact scans_text (depthLimit - 3) a
    · rw [List.mem_singleton.mp mem]
      exact scans_text (depthLimit - 3) b
  apply Scans.readsBack
  refine scans_array fun v mem => ?_
  obtain ⟨⟨a, b⟩, -, rfl⟩ := List.mem_map.mp mem
  exact pair a b

end Tether.Toml
