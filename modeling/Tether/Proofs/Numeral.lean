import Mathlib.Tactic.SplitIfs
import Tether.Toml.Reader
import Tether.Toml.Writer

/-! Whole numbers of TOML read back as they were written. A run of digits is neither a date nor a
float, and no zero leads it unless it stands alone. -/

namespace Tether.Toml

open Scalar

theorem ne_of_isDigit {c d : Char} (digit : c.isDigit) (no : d.isDigit = false) : c ≠ d := by
  rintro rfl
  exact absurd digit (by simp [no])

theorem digitValue_of_isDigit {c : Char} (digit : c.isDigit) :
    digitValue c = c.toNat - '0'.toNat := by
  rw [digitValue, if_pos digit]
  rfl

theorem ofDigits_toDigits (n : Nat) : ofDigits 10 (Nat.toDigits 10 n) = n := by
  have same : ∀ (ds : List Char) (init : Nat), (∀ c ∈ ds, c.isDigit) →
      ds.foldl (fun n d => n * 10 + digitValue d) init = Nat.ofDigitChars 10 ds init := by
    intro ds
    induction ds with
    | nil => intro init _; rfl
    | cons c r ih =>
      intro init digits
      rw [List.forall_mem_cons] at digits
      rw [List.foldl_cons, Nat.ofDigitChars_cons, ih _ digits.2, digitValue_of_isDigit digits.1,
        Nat.mul_comm]
  rw [ofDigits, same _ 0 fun c mem => Nat.isDigit_of_mem_toDigits (by decide) (by decide) mem,
    Nat.ofDigitChars_ten_toDigits]

/-- Digits as a whole number is written: no zero leads unless it stands alone. -/
structure IsNumeral (ds : List Char) : Prop where
  digits : ∀ c ∈ ds, c.isDigit
  ne_nil : ds ≠ []
  canonical : ds.head? = some '0' → ds = ['0']

theorem head?_toDigits_ne_zero {n : Nat} (pos : 0 < n) : (Nat.toDigits 10 n).head? ≠ some '0' := by
  induction n using Nat.strongRecOn with
  | ind n ih =>
    have single : ∀ d < 10, 0 < d → d.digitChar ≠ '0' := by decide
    rw [Nat.toDigits_eq_if (by decide)]
    split
    · next small => simpa using single n small pos
    · next large =>
      have shorter := ih (n / 10) (by omega) (by omega)
      have more : Nat.toDigits 10 (n / 10) ≠ [] := Nat.toDigits_ne_nil
      obtain ⟨c, r, digits⟩ := List.exists_cons_of_ne_nil more
      rw [digits] at shorter ⊢
      exact shorter

theorem isNumeral_toDigits (n : Nat) : IsNumeral (Nat.toDigits 10 n) where
  digits _ mem := Nat.isDigit_of_mem_toDigits (by decide) (by decide) mem
  ne_nil := Nat.toDigits_ne_nil
  canonical leads := by
    rcases Nat.eq_zero_or_pos n with rfl | pos
    · rfl
    · exact absurd leads (head?_toDigits_ne_zero pos)

theorem IsNumeral.eq_cons {ds : List Char} (numeral : IsNumeral ds) :
    ∃ c r, ds = c :: r ∧ c.isDigit := by
  obtain ⟨c, r, rfl⟩ := List.exists_cons_of_ne_nil numeral.ne_nil
  exact ⟨c, r, rfl, numeral.digits c List.mem_cons_self⟩

/-! ### Digits up to the end of the line or to a point -/

section

variable {ds : List Char} {stop : Char} (ends : stop = '\n' ∨ stop = '.') (rest : List Char)

include ends

theorem moreDigits_append (digits : ∀ c ∈ ds, c.isDigit) :
    moreDigits Char.isDigit (ds ++ stop :: rest) = some (ds, stop :: rest) := by
  induction ds with
  | nil => rcases ends with rfl | rfl <;> rfl
  | cons c r ih =>
    rw [List.forall_mem_cons] at digits
    have bare : c ≠ '_' := ne_of_isDigit digits.1 rfl
    rw [List.cons_append, moreDigits]
    · simp [digits.1, ih digits.2]
    · simp [bare]
    · simp

theorem wholeDigits_append (numeral : IsNumeral ds) :
    wholeDigits (ds ++ stop :: rest) = some (ds, stop :: rest) := by
  obtain ⟨c, r, rfl, digit⟩ := numeral.eq_cons
  by_cases zero : c = '0'
  · have alone := numeral.canonical (by rw [List.head?_cons, zero])
    rw [alone]
    rfl
  · have digits := List.forall_mem_cons.mp numeral.digits
    rw [List.cons_append, wholeDigits, Scalar.digits, if_pos digit,
      moreDigits_append ends rest digits.2]
    · rfl
    · simp [zero]

theorem mark_append {c : Char} (other : c = '-' ∨ c = ':') (digits : ∀ c ∈ ds, c.isDigit) :
    mark c (ds ++ stop :: rest) = none := by
  cases ds with
  | nil => rcases ends with rfl | rfl <;> rcases other with rfl | rfl <;> rfl
  | cons d r =>
    have no : c.isDigit = false := by rcases other with rfl | rfl <;> rfl
    have differs := ne_of_isDigit (digits d List.mem_cons_self) no
    simp [mark, differs.symm]

/-- A run of digits is too short for a part of a date or a time, or goes on behind it. -/
theorem fixed_append (k : Nat) (digits : ∀ c ∈ ds, c.isDigit) :
    fixed k (ds ++ stop :: rest) = none ∨
      ∃ n, fixed k (ds ++ stop :: rest) = some (n, ds.drop k ++ stop :: rest) := by
  by_cases short : k ≤ ds.length
  · refine .inr ⟨ofDigits 10 (ds.take k), ?_⟩
    have all : (ds.take k).all Char.isDigit :=
      List.all_eq_true.mpr fun c mem => digits c (List.mem_of_mem_take mem)
    rw [fixed, List.take_append_of_le_length short, List.drop_append_of_le_length short,
      if_pos ⟨List.length_take_of_le short, all⟩]
  · refine .inl (if_neg fun found => ?_)
    have inside : stop ∈ (ds ++ stop :: rest).take k := by
      rw [List.take_append, List.mem_append]
      obtain ⟨j, more⟩ := Nat.exists_eq_add_of_lt (Nat.lt_of_not_le short)
      have some : k - ds.length = j + 1 := by omega
      rw [some]
      exact .inr List.mem_cons_self
    have digit := List.all_eq_true.mp found.2 stop inside
    rcases ends with rfl | rfl <;> exact absurd digit (by decide)

theorem moment_append (digits : ∀ c ∈ ds, c.isDigit) : moment (ds ++ stop :: rest) = none := by
  have left (k : Nat) : ∀ c ∈ ds.drop k, c.isDigit := fun c mem =>
    digits c (List.mem_of_mem_drop mem)
  have noDate : date (ds ++ stop :: rest) = none := by
    rcases fixed_append ends rest 4 digits with none | ⟨n, some⟩
    · simp [date, none]
    · simp [date, some, mark_append ends rest (.inl rfl) (left 4)]
  have noTime : time (ds ++ stop :: rest) = none := by
    rcases fixed_append ends rest 2 digits with none | ⟨n, some⟩
    · simp [time, none]
    · simp [time, some, mark_append ends rest (.inr rfl) (left 2)]
  simp [moment, noDate, noTime]

end

/-! ### Numbers without a sign -/

section

variable {ds : List Char} (numeral : IsNumeral ds)

include numeral

theorem sign_append (rest : List Char) : sign (ds ++ rest) = (false, ds ++ rest) := by
  obtain ⟨c, r, rfl, digit⟩ := numeral.eq_cons
  rw [List.cons_append, sign]
  · simp [ne_of_isDigit digit (d := '-') rfl]
  · simp [ne_of_isDigit digit (d := '+') rfl]

theorem special_append (rest : List Char) : special (ds ++ rest) = none := by
  obtain ⟨c, r, rfl, digit⟩ := numeral.eq_cons
  rw [List.cons_append, special.eq_def]
  split
  · next same => exact absurd (List.cons.inj same).1 (ne_of_isDigit digit rfl)
  · next same => exact absurd (List.cons.inj same).1 (ne_of_isDigit digit rfl)
  · rfl

theorem real_append (rest : List Char) : real (ds ++ '\n' :: rest) = none := by
  simp [real, sign_append numeral, special_append numeral,
    wholeDigits_append (.inl rfl) rest numeral]

theorem real_fraction {fraction : List Char} (digits : ∀ c ∈ fraction, c.isDigit)
    (some : fraction ≠ []) (rest : List Char) {x : Float}
    (near : Decimal.nearest (ofDigits 10 (ds ++ fraction)) (-fraction.length) = x)
    (finite : x.isInf = false) :
    real (ds ++ '.' :: (fraction ++ '\n' :: rest)) = .some (x, '\n' :: rest) := by
  obtain ⟨c, r, rfl⟩ := List.exists_cons_of_ne_nil some
  have more := moreDigits_append (.inl rfl) rest fun d mem => digits d (List.mem_cons_of_mem c mem)
  have first := digits c List.mem_cons_self
  have read : Scalar.digits Char.isDigit (c :: r ++ '\n' :: rest) =
      .some (c :: r, '\n' :: rest) := by
    rw [List.cons_append, Scalar.digits, if_pos first, more]
    rfl
  simp only [real, sign_append numeral, special_append numeral,
    wholeDigits_append (.inr rfl) _ numeral, Option.bind_eq_bind, Option.bind_some, read,
    Option.map_some]
  have near : Decimal.nearest (ofDigits 10 (ds ++ c :: r)) (0 - (c :: r).length) = x := by
    rwa [Int.zero_sub]
  change (if (Decimal.nearest _ (0 - (c :: r).length)).isInf && !false then none
    else pure (Decimal.nearest _ (0 - (c :: r).length), '\n' :: rest)) = _
  rw [near, finite]
  rfl

theorem eq_newline_of_append {rest r : List Char} {d : Char}
    (same : ds ++ '\n' :: rest = '0' :: d :: r) : d = '\n' := by
  have leads : ds.head? = some '0' := by
    obtain ⟨c, t, rfl, -⟩ := numeral.eq_cons
    rw [List.head?_cons, (List.cons.inj same).1]
  rw [numeral.canonical leads] at same
  exact (List.cons.inj (List.cons.inj same).2).1.symm

theorem integer_append (fits : inRange (ofDigits 10 ds)) (rest : List Char) :
    integer (ds ++ '\n' :: rest) = some ((ofDigits 10 ds : Int), '\n' :: rest) := by
  unfold integer
  split
  · next same => exact absurd (eq_newline_of_append numeral same) (by decide)
  · next same => exact absurd (eq_newline_of_append numeral same) (by decide)
  · next same => exact absurd (eq_newline_of_append numeral same) (by decide)
  · simp [sign_append numeral, wholeDigits_append (.inl rfl) rest numeral, fits]

end

/-- Where a number begins, nothing but dates and numbers is looked for. -/
theorem value_of_isDigit {c : Char} (digit : c.isDigit) (fuel depth : Nat) (r : List Char) :
    Reader.value (fuel + 1) depth (c :: r) =
      match moment (c :: r) with
      | some (written, rest) => some (.moment written, rest)
      | none =>
        match real (c :: r) with
        | some (x, rest) => some (.real x, rest)
        | none => (integer (c :: r)).map fun (n, rest) => (.integer n, rest) := by
  have other (d : Char) (no : d.isDigit = false) : c ≠ d := ne_of_isDigit digit no
  rw [Reader.value.eq_def]
  simp only [other '"' rfl, other '\'' rfl, other '[' rfl, other '\x7b' rfl, or_self, if_false]
  split
  · exact absurd rfl (other 't' rfl)
  · exact absurd rfl (other 'f' rfl)
  · rfl

theorem writer_value_integer (n : Nat) : Writer.value (.integer n) = Nat.toDigits 10 n := by
  rw [Writer.value]
  change (Nat.repr n).toList = _
  rw [Nat.repr_eq_ofList_toDigits, String.toList_ofList]

/-- A whole number in front of a line end reads back as it is written. -/
theorem value_integer {n : Nat} (fits : inRange n) (fuel depth : Nat) (rest : List Char) :
    Reader.value (fuel + 1) depth (Writer.value (.integer n) ++ '\n' :: rest) =
      some (.integer n, '\n' :: rest) := by
  have numeral := isNumeral_toDigits n
  have reads := integer_append numeral (by rwa [ofDigits_toDigits]) rest
  have noMoment := moment_append (.inl rfl) rest numeral.digits
  have noReal := real_append numeral rest
  rw [ofDigits_toDigits] at reads
  rw [writer_value_integer]
  obtain ⟨c, r, digits, digit⟩ := numeral.eq_cons
  rw [digits, List.cons_append] at reads noMoment noReal ⊢
  rw [value_of_isDigit digit, noMoment, noReal, reads]
  rfl

end Tether.Toml
