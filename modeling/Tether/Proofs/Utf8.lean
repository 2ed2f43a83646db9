import Mathlib.Data.List.Flatten
import Mathlib.Tactic.SplitIfs
import Tether.Text.Utf8

/-! A character keeps its bytes to itself: read from the front of any bytes, it takes exactly
the bytes it was written as and has the value it had. So decoding undoes encoding, and a text
without ill-formed pieces is decoded without loss. -/

namespace Tether.Text.Utf8

/-! ### Ranges of bytes -/

theorem leadLength_eq_one {a : UInt8} (h : a.toNat ≤ 0x7F) : leadLength a = 1 := by
  simp only [leadLength, UInt8.le_iff_toNat_le, UInt8.reduceToNat, h, if_true]

theorem leadLength_eq_two {a : UInt8} (h : 0xC2 ≤ a.toNat) (h' : a.toNat ≤ 0xDF) :
    leadLength a = 2 := by
  simp only [leadLength, UInt8.le_iff_toNat_le, UInt8.lt_iff_toNat_lt, UInt8.reduceToNat]
  rw [if_neg (by omega), if_neg (by omega), if_pos h']

theorem leadLength_eq_three {a : UInt8} (h : 0xE0 ≤ a.toNat) (h' : a.toNat ≤ 0xEF) :
    leadLength a = 3 := by
  simp only [leadLength, UInt8.le_iff_toNat_le, UInt8.lt_iff_toNat_lt, UInt8.reduceToNat]
  rw [if_neg (by omega), if_neg (by omega), if_neg (by omega), if_pos h']

theorem leadLength_eq_four {a : UInt8} (h : 0xF0 ≤ a.toNat) (h' : a.toNat ≤ 0xF4) :
    leadLength a = 4 := by
  simp only [leadLength, UInt8.le_iff_toNat_le, UInt8.lt_iff_toNat_lt, UInt8.reduceToNat]
  rw [if_neg (by omega), if_neg (by omega), if_neg (by omega), if_neg (by omega), if_pos h']

theorem isTail_iff {b : UInt8} : isTail b = true ↔ 0x80 ≤ b.toNat ∧ b.toNat ≤ 0xBF := by
  simp [isTail, UInt8.le_iff_toNat_le]

theorem isSecond_iff {a b : UInt8} : isSecond a b = true ↔
    0x80 ≤ b.toNat ∧ b.toNat ≤ 0xBF ∧ (a.toNat = 0xE0 → 0xA0 ≤ b.toNat) ∧
      (a.toNat = 0xED → b.toNat ≤ 0x9F) ∧ (a.toNat = 0xF0 → 0x90 ≤ b.toNat) ∧
      (a.toNat = 0xF4 → b.toNat ≤ 0x8F) := by
  simp only [isSecond, isTail, ← UInt8.toNat_inj, UInt8.reduceToNat, UInt8.le_iff_toNat_le]
  split_ifs <;> simp only [Bool.and_eq_true, decide_eq_true_eq] <;> omega

theorem zero_ne_of_leadLength {a : UInt8} {n : Nat} (h : leadLength a = n + 2) : 0 ≠ a := by
  rintro rfl
  change 1 = n + 2 at h
  omega

theorem zero_ne_of_isTail {b : UInt8} (h : isTail b) : 0 ≠ b := by
  rintro rfl
  exact absurd h (by decide)

theorem zero_ne_of_isSecond {a b : UInt8} (h : isSecond a b) : 0 ≠ b := by
  rintro rfl
  have low := (isSecond_iff.mp h).1
  exact absurd low (by decide)

/-! ### One character -/

/-- The bytes of one well-formed character, and its number. -/
inductive Layout : List UInt8 → Nat → Prop where
  | one {a : UInt8} {n : Nat} : leadLength a = 1 → n = a.toNat → Layout [a] n
  | two {a b : UInt8} {n : Nat} : leadLength a = 2 → isSecond a b →
      n = a.toNat % 32 * 64 + b.toNat % 64 → Layout [a, b] n
  | three {a b c : UInt8} {n : Nat} : leadLength a = 3 → isSecond a b → isTail c →
      n = a.toNat % 16 * 4096 + b.toNat % 64 * 64 + c.toNat % 64 → Layout [a, b, c] n
  | four {a b c d : UInt8} {n : Nat} : leadLength a = 4 → isSecond a b → isTail c → isTail d →
      n = a.toNat % 8 * 262144 + b.toNat % 64 * 4096 + c.toNat % 64 * 64 + d.toNat % 64 →
      Layout [a, b, c, d] n

theorem toNat_ofNat_of_lt {n : Nat} (h : n < 256) : (UInt8.ofNat n).toNat = n := by
  simp [Nat.mod_eq_of_lt h]

/-- A character is written in as many bytes as its number needs. Surrogates and numbers above
0x10FFFF are no characters, and the narrower ranges of second bytes leave them out. -/
theorem layout_encodeChar (c : Char) : Layout (encodeChar c) c.toNat := by
  have valid := c.valid
  simp only [UInt32.isValidChar, Nat.isValidChar] at valid
  change Layout (String.utf8EncodeChar c) c.val.toNat
  fun_cases String.utf8EncodeChar c with
  | case1 v h =>
    have ha := toNat_ofNat_of_lt (n := v) (by omega)
    exact Layout.one (leadLength_eq_one (by omega)) ha.symm
  | case2 v h h' =>
    have ha := toNat_ofNat_of_lt (n := v / 64 % 32 + 0xC0) (by omega)
    have hb := toNat_ofNat_of_lt (n := v % 64 + 0x80) (by omega)
    refine Layout.two (leadLength_eq_two ?_ ?_) (isSecond_iff.mpr ?_) ?_
    all_goals omega
  | case3 v h h' h'' =>
    have ha := toNat_ofNat_of_lt (n := v / 4096 % 16 + 0xE0) (by omega)
    have hb := toNat_ofNat_of_lt (n := v / 64 % 64 + 0x80) (by omega)
    have hc := toNat_ofNat_of_lt (n := v % 64 + 0x80) (by omega)
    refine Layout.three (leadLength_eq_three ?_ ?_) (isSecond_iff.mpr ?_) (isTail_iff.mpr ?_) ?_
    all_goals omega
  | case4 v h h' h'' =>
    have ha := toNat_ofNat_of_lt (n := v / 262144 % 8 + 0xF0) (by omega)
    have hb := toNat_ofNat_of_lt (n := v / 4096 % 64 + 0x80) (by omega)
    have hc := toNat_ofNat_of_lt (n := v / 64 % 64 + 0x80) (by omega)
    have hd := toNat_ofNat_of_lt (n := v % 64 + 0x80) (by omega)
    refine Layout.four (leadLength_eq_four ?_ ?_) (isSecond_iff.mpr ?_) (isTail_iff.mpr ?_)
      (isTail_iff.mpr ?_) ?_
    all_goals omega

namespace Layout

theorem length_pos {bs : List UInt8} {n : Nat} (h : Layout bs n) : 0 < bs.length := by
  cases h <;> simp

theorem charLength_append {bs : List UInt8} {n : Nat} (h : Layout bs n) (r : List UInt8) :
    charLength (bs ++ r) = bs.length := by
  cases h with
  | one ha => simp only [List.cons_append, charLength.eq_def, ha]; rfl
  | two ha hb => simp only [List.cons_append, charLength.eq_def, ha, hb]; rfl
  | three ha hb hc => simp only [List.cons_append, charLength.eq_def, ha, hb, hc]; rfl
  | four ha hb hc hd => simp only [List.cons_append, charLength.eq_def, ha, hb, hc, hd]; rfl

theorem charValue_append {bs : List UInt8} {n : Nat} (h : Layout bs n) (r : List UInt8) :
    charValue bs.length (bs ++ r) = Char.ofNat n := by
  -- `rfl` would compare the numbers by counting, so the body is opened by its equation.
  cases h <;> subst n
  all_goals
    simp only [List.length_cons, List.length_nil, List.cons_append, List.nil_append,
      charValue.eq_def, Nat.reduceAdd]

theorem zero_notMem {bs : List UInt8} {n : Nat} (h : Layout bs n) (pos : 0 < n) :
    0 ∉ bs := by
  cases h with
  | one ha hn =>
    rw [List.mem_singleton]
    rintro rfl
    exact absurd hn (Nat.ne_of_gt pos)
  | two ha hb => simp [zero_ne_of_leadLength ha, zero_ne_of_isSecond hb]
  | three ha hb hc =>
    simp [zero_ne_of_leadLength ha, zero_ne_of_isSecond hb, zero_ne_of_isTail hc]
  | four ha hb hc hd =>
    simp [zero_ne_of_leadLength ha, zero_ne_of_isSecond hb, zero_ne_of_isTail hc,
      zero_ne_of_isTail hd]

end Layout

/-! ### Texts -/

/-- Bytes that encode some text. -/
def WellFormed (bs : List UInt8) : Prop := ∃ s : String, bs = encode s

/-- The bytes of a character in front of others are taken as they were written. -/
theorem encodeChar_taken (c : Char) (r : List UInt8) :
    ∃ a t, encodeChar c = a :: t ∧ charLength (a :: (t ++ r)) = t.length + 1 ∧
      charValue (t.length + 1) (a :: (t ++ r)) = c := by
  have layout := layout_encodeChar c
  have length := layout.charLength_append r
  have value := layout.charValue_append r
  rw [Char.ofNat_toNat] at value
  obtain ⟨a, t, bytes⟩ := List.exists_cons_of_ne_nil (List.ne_nil_of_length_pos layout.length_pos)
  rw [bytes] at length value
  exact ⟨a, t, bytes, length, value⟩

theorem decodeLossyAfter_eq_drop (n : Nat) (bs : List UInt8) :
    decodeLossyAfter n bs = decodeLossyAfter 0 (bs.drop n) := by
  induction n generalizing bs with
  | zero => rfl
  | succ n ih =>
    cases bs with
    | nil => rfl
    | cons b r => exact ih r

theorem decodeLossyAfter_encodeChar_append (c : Char) (r : List UInt8) :
    decodeLossyAfter 0 (encodeChar c ++ r) = c :: decodeLossyAfter 0 r := by
  obtain ⟨a, t, bytes, length, value⟩ := encodeChar_taken c r
  rw [bytes, List.cons_append]
  simp only [decodeLossyAfter, length, value]
  rw [decodeLossyAfter_eq_drop, List.drop_left]

theorem decodeLossy_encode (s : String) : decodeLossy (encode s) = s := by
  have chars : ∀ cs : List Char, decodeLossyAfter 0 (cs.flatMap encodeChar) = cs := by
    intro cs
    induction cs with
    | nil => rfl
    | cons c r ih => rw [List.flatMap_cons, decodeLossyAfter_encodeChar_append, ih]
  rw [decodeLossy, encode, chars, String.ofList_toList]

theorem decodeAfter?_eq_drop (n : Nat) (bs : List UInt8) :
    decodeAfter? n bs = decodeAfter? 0 (bs.drop n) := by
  induction n generalizing bs with
  | zero => rfl
  | succ n ih =>
    cases bs with
    | nil => rfl
    | cons b r => exact ih r

theorem decodeAfter?_encodeChar_append (c : Char) (r : List UInt8) :
    decodeAfter? 0 (encodeChar c ++ r) = (decodeAfter? 0 r).map (c :: ·) := by
  obtain ⟨a, t, bytes, length, value⟩ := encodeChar_taken c r
  rw [bytes, List.cons_append]
  simp only [decodeAfter?, length, value]
  rw [decodeAfter?_eq_drop, List.drop_left]

theorem decode?_encode (s : String) : decode? (encode s) = some s := by
  have chars : ∀ cs : List Char, decodeAfter? 0 (cs.flatMap encodeChar) = some cs := by
    intro cs
    induction cs with
    | nil => rfl
    | cons c r ih => rw [List.flatMap_cons, decodeAfter?_encodeChar_append, ih]; rfl
  rw [decode?, encode, chars, Option.map_some, String.ofList_toList]

theorem encodeChar_nul : encodeChar '\x00' = [0] := rfl

theorem zero_notMem_encodeChar {c : Char} (h : c ≠ '\x00') : 0 ∉ encodeChar c := by
  apply (layout_encodeChar c).zero_notMem
  rw [Nat.pos_iff_ne_zero]
  intro zero
  exact h (Char.ext (UInt32.toNat_inj.mp zero))

theorem width_ofList_le_of_sublist {cs ds : List Char} (h : cs.Sublist ds) :
    width (String.ofList cs) ≤ width (String.ofList ds) := by
  rw [width, width, encode_ofList, encode_ofList]
  exact (h.flatMap encodeChar).length_le

end Tether.Text.Utf8
