import Tether.Proofs.Boundary
import Tether.Text.Form

/-! Form encoding. What was written is read back, whatever the text. A text that was not written
so is read as it stands exactly where it holds no plus sign and no percent code: a plus sign turns
into a blank, and each percent code makes the text shorter, while nothing makes it longer. -/

namespace Tether.Text

namespace Utf8

/-! ### How many characters bytes are read as -/

/-- All bytes of a broken piece but the first may continue a character. -/
theorem isTail_of_mem_broken {a x : UInt8} {r : List UInt8}
    (mem : x ∈ r.take (brokenLength (a :: r) - 1)) : isTail x := by
  rw [brokenLength.eq_def] at mem
  dsimp only at mem
  split at mem
  · split at mem
    · next second =>
      obtain rfl := List.mem_singleton.mp mem
      exact isTail_of_isSecond second
    · cases mem
  · next b c _ _ =>
    split at mem
    · next second =>
      split at mem
      · next third =>
        have either : x = b ∨ x = c := by simpa using mem
        rcases either with rfl | rfl
        · exact isTail_of_isSecond second
        · exact third
      · obtain rfl := List.mem_singleton.mp mem
        exact isTail_of_isSecond second
    · cases mem
  · split at mem
    · next second =>
      obtain rfl := List.mem_singleton.mp mem
      exact isTail_of_isSecond second
    · cases mem
  · cases mem

/-- Bytes that continue a character end before one that continues none. -/
theorem eq_nil_of_tails {bs rest : List UInt8} {n : Nat} (beyond : bs.length < n)
    (lead : ∀ b ∈ rest.head?, ¬ isTail b) (tails : ∀ b ∈ (bs ++ rest).take n, isTail b) :
    rest = [] := by
  cases rest with
  | nil => rfl
  | cons b r =>
    obtain ⟨k, rfl⟩ := Nat.exists_eq_add_of_lt beyond
    refine absurd (tails b ?_) (lead b rfl)
    rw [Nat.add_assoc, List.take_length_add_append]
    exact List.mem_append_right _ List.mem_cons_self

/-- Where a byte follows that continues no character, bytes are read as no more characters than
they are. -/
theorem length_decodeLossyAfter_append_le {bs rest : List UInt8} {skip : Nat}
    (inside : skip ≤ bs.length) (lead : ∀ b ∈ rest.head?, ¬ isTail b) :
    (decodeLossyAfter skip (bs ++ rest)).length ≤
      bs.length - skip + (decodeLossyAfter 0 rest).length := by
  induction bs generalizing skip with
  | nil =>
    obtain rfl : skip = 0 := by simpa using inside
    simp
  | cons a r ih =>
    cases skip with
    | succ k => simpa [decodeLossyAfter] using ih (Nat.le_of_succ_le_succ inside)
    | zero =>
      -- One character for the byte and those that continue it, all of them before the rest.
      have piece : ∀ n, (∀ b ∈ (r ++ rest).take n, isTail b) →
          (decodeLossyAfter n (r ++ rest)).length ≤
            r.length + (decodeLossyAfter 0 rest).length := by
        intro n tails
        by_cases short : n ≤ r.length
        · have := ih short
          omega
        · have beyond := Nat.not_le.mp short
          obtain rfl := eq_nil_of_tails beyond lead tails
          rw [List.append_nil, decodeLossyAfter_eq_drop, List.drop_of_length_le (by omega)]
          simp [decodeLossyAfter]
      rw [List.cons_append, decodeLossyAfter]
      split
      · have := piece _ fun b mem => isTail_of_mem_broken (a := a) mem
        simp only [List.length_cons]
        omega
      · next n found =>
        have := piece n fun b mem => isTail_of_mem_take found mem
        simp only [List.length_cons]
        omega

/-- A character is a byte of its own, or all of its bytes are beyond ASCII, as it is. -/
theorem encodeChar_cases (c : Char) :
    (c.toNat < 0x80 ∧ encodeChar c = [UInt8.ofNat c.toNat]) ∨
      (0x80 ≤ c.toNat ∧ ∀ b ∈ encodeChar c, 0x80 ≤ b.toNat) := by
  change (c.val.toNat < 0x80 ∧ String.utf8EncodeChar c = [UInt8.ofNat c.val.toNat]) ∨
    (0x80 ≤ c.val.toNat ∧ ∀ b ∈ String.utf8EncodeChar c, 0x80 ≤ b.toNat)
  fun_cases String.utf8EncodeChar c with
  | case1 v h => exact .inl ⟨by omega, rfl⟩
  | case2 v h h' =>
    refine .inr ⟨by omega, ?_⟩
    simp
    omega
  | case3 v h h' h'' =>
    refine .inr ⟨by omega, ?_⟩
    simp
    omega
  | case4 v h h' h'' =>
    refine .inr ⟨by omega, ?_⟩
    simp
    omega

end Utf8

namespace Form

open Utf8

/-- A digit of a percent code. -/
def isHexDigit (c : Char) : Bool :=
  ('0' ≤ c && c ≤ '9') || ('A' ≤ c && c ≤ 'F') || ('a' ≤ c && c ≤ 'f')

theorem isHexDigit_iff {c : Char} : isHexDigit c ↔
    (0x30 ≤ c.toNat ∧ c.toNat ≤ 0x39) ∨ (0x41 ≤ c.toNat ∧ c.toNat ≤ 0x46) ∨
      (0x61 ≤ c.toNat ∧ c.toNat ≤ 0x66) := by
  have val : c.val.toNat = c.toNat := rfl
  simp only [isHexDigit, Char.le_def, UInt32.le_iff_toNat_le, val, Bool.or_eq_true,
    Bool.and_eq_true, decide_eq_true_eq, or_assoc]
  rfl

theorem isSome_hexValue?_iff {b : UInt8} : (hexValue? b).isSome ↔
    (0x30 ≤ b.toNat ∧ b.toNat ≤ 0x39) ∨ (0x41 ≤ b.toNat ∧ b.toNat ≤ 0x46) ∨
      (0x61 ≤ b.toNat ∧ b.toNat ≤ 0x66) := by
  simp only [hexValue?, UInt8.le_iff_toNat_le, UInt8.reduceToNat, Bool.and_eq_true,
    decide_eq_true_eq]
  split_ifs <;> simp <;> omega

/-- A digit is told by the first byte of its character. -/
theorem isSome_hexValue?_encodeChar {c : Char} {b : UInt8} {r : List UInt8}
    (bytes : encodeChar c = b :: r) : (hexValue? b).isSome ↔ isHexDigit c := by
  rw [isSome_hexValue?_iff, isHexDigit_iff]
  rcases encodeChar_cases c with ⟨ascii, one⟩ | ⟨beyond, high⟩
  · rw [one] at bytes
    obtain ⟨rfl, -⟩ := List.cons.inj bytes
    rw [toNat_ofNat_of_lt (by omega)]
  · have first := high b (bytes ▸ List.mem_cons_self)
    omega

theorem encodeChar_of_isHexDigit {c : Char} (digit : isHexDigit c) :
    ∃ b v, encodeChar c = [b] ∧ hexValue? b = some v := by
  have range := isHexDigit_iff.mp digit
  rcases encodeChar_cases c with ⟨-, one⟩ | ⟨beyond, -⟩
  · obtain ⟨v, value⟩ := Option.isSome_iff_exists.mp
      ((isSome_hexValue?_encodeChar one).mpr digit)
    exact ⟨_, v, one, value⟩
  · omega

theorem decodeBytes_of_ne {b : UInt8} (ne : b ≠ 0x25) (r : List UInt8) :
    decodeBytes (b :: r) = (if b = 0x2B then 0x20 else b) :: decodeBytes r := by
  rw [decodeBytes]
  intro _ _ _ h
  exact absurd h ne

theorem decodeBytes_code {a b : UInt8} {x y : Nat} (high : hexValue? a = some x)
    (low : hexValue? b = some y) (r : List UInt8) :
    decodeBytes (0x25 :: a :: b :: r) = UInt8.ofNat (16 * x + y) :: decodeBytes r := by
  rw [decodeBytes]
  simp [high, low]

theorem decodeBytes_stray {r : List UInt8}
    (stray : ∀ a b t, r = a :: b :: t → hexValue? a = none ∨ hexValue? b = none) :
    decodeBytes (0x25 :: r) = 0x25 :: decodeBytes r := by
  rcases r with _ | ⟨a, _ | ⟨b, t⟩⟩
  · rfl
  · rfl
  · rw [decodeBytes]
    rcases stray a b t rfl with h | h
    · simp [h]
    · simp [h]

theorem decodeBytes_append {bs : List UInt8} (plain : ∀ b ∈ bs, b ≠ 0x25 ∧ b ≠ 0x2B)
    (r : List UInt8) : decodeBytes (bs ++ r) = bs ++ decodeBytes r := by
  induction bs with
  | nil => rfl
  | cons b bs ih =>
    have first := plain b List.mem_cons_self
    rw [List.cons_append, decodeBytes_of_ne first.1, if_neg first.2,
      ih fun x mem => plain x (List.mem_cons_of_mem b mem), List.cons_append]

/-! ### Percent codes in a text -/

/-- A percent code is at the front. -/
def BeginsCode (cs : List Char) : Prop :=
  ∃ a b, isHexDigit a ∧ isHexDigit b ∧ ['%', a, b] <+: cs

/-- There is a percent code. -/
def HasCode (cs : List Char) : Prop :=
  ∃ a b, isHexDigit a ∧ isHexDigit b ∧ ['%', a, b] <:+: cs

theorem not_hasCode_nil : ¬ HasCode [] := by
  rintro ⟨a, b, -, -, code⟩
  cases List.eq_nil_of_infix_nil code

theorem hasCode_cons_iff {c : Char} {r : List Char} :
    HasCode (c :: r) ↔ BeginsCode (c :: r) ∨ HasCode r := by
  simp only [HasCode, BeginsCode, List.infix_cons_iff, and_or_left, exists_or]

/-- What a character that belongs to no percent code is read as. -/
def unplus (c : Char) : Char := if c = '+' then ' ' else c

theorem ne_of_encodeChar {c : Char} {b : UInt8} {k : Nat} (ascii : k < 0x80)
    (other : c ≠ Char.ofNat k) (mem : b ∈ encodeChar c) : b ≠ UInt8.ofNat k := by
  rintro rfl
  have low := toNat_ofNat_of_lt (n := k) (by omega)
  rcases encodeChar_cases c with ⟨small, one⟩ | ⟨-, high⟩
  · rw [one, List.mem_singleton, ← UInt8.toNat_inj, low, toNat_ofNat_of_lt (by omega)] at mem
    rw [mem, Char.ofNat_toNat] at other
    exact other rfl
  · have := high _ mem
    omega

/-- Two digits are told by the first two bytes behind a percent sign. -/
theorem beginsCode_of_isSome {r : List Char} {a b : UInt8} {t : List UInt8}
    (bytes : r.flatMap encodeChar = a :: b :: t) (high : (hexValue? a).isSome)
    (low : (hexValue? b).isSome) : BeginsCode ('%' :: r) := by
  cases r with
  | nil => cases bytes
  | cons c r =>
    obtain ⟨x, s, front, -⟩ := encodeChar_eq_cons c
    rw [List.flatMap_cons, front, List.cons_append, List.cons.injEq] at bytes
    obtain ⟨rfl, bytes⟩ := bytes
    have digit := (isSome_hexValue?_encodeChar front).mp high
    obtain ⟨y, v, one, -⟩ := encodeChar_of_isHexDigit digit
    obtain ⟨-, rfl⟩ := List.cons.inj (front.symm.trans one)
    cases r with
    | nil => cases bytes
    | cons d r =>
      obtain ⟨z, u, second, -⟩ := encodeChar_eq_cons d
      rw [List.nil_append, List.flatMap_cons, second, List.cons_append, List.cons.injEq] at bytes
      obtain ⟨rfl, -⟩ := bytes
      exact ⟨c, d, digit, (isSome_hexValue?_encodeChar second).mp low, r, rfl⟩

theorem decodeBytes_of_beginsCode {cs : List Char} (code : BeginsCode cs) :
    ∃ a b r v, cs = '%' :: a :: b :: r ∧
      decodeBytes (cs.flatMap encodeChar) = v :: decodeBytes (r.flatMap encodeChar) := by
  obtain ⟨a, b, high, low, r, rfl⟩ := code
  obtain ⟨x, v, one, hx⟩ := encodeChar_of_isHexDigit high
  obtain ⟨y, w, two, hy⟩ := encodeChar_of_isHexDigit low
  have sign : encodeChar '%' = [0x25] := rfl
  refine ⟨a, b, r, UInt8.ofNat (16 * v + w), rfl, ?_⟩
  rw [List.flatMap_append, List.flatMap_cons, List.flatMap_cons, List.flatMap_cons, sign, one, two]
  exact decodeBytes_code hx hy _

theorem decodeBytes_cons {c : Char} {r : List Char} (plain : ¬ BeginsCode (c :: r)) :
    decodeBytes ((c :: r).flatMap encodeChar) =
      encodeChar (unplus c) ++ decodeBytes (r.flatMap encodeChar) := by
  rw [List.flatMap_cons]
  by_cases sign : c = '%'
  · subst sign
    refine decodeBytes_stray fun a b t bytes => ?_
    cases high : hexValue? a with
    | none => exact .inl rfl
    | some x =>
      cases low : hexValue? b with
      | none => exact .inr rfl
      | some y =>
        have code := beginsCode_of_isSome bytes (by rw [high]; rfl) (by rw [low]; rfl)
        exact absurd code plain
  by_cases plus : c = '+'
  · subst plus
    exact decodeBytes_of_ne (by decide) _
  · rw [unplus, if_neg plus]
    exact decodeBytes_append (fun b mem => ⟨ne_of_encodeChar (k := 0x25) (by decide) sign mem,
      ne_of_encodeChar (k := 0x2B) (by decide) plus mem⟩) _

/-! ### What a text is read as -/

/-- The characters that bytes in front of a text are read as, together with it, are no more than
both are; percent codes make them fewer. -/
theorem length_decode_le (cs : List Char) (bs : List UInt8) :
    (decodeLossyAfter 0 (bs ++ decodeBytes (cs.flatMap encodeChar))).length ≤
        bs.length + cs.length ∧
      (HasCode cs → (decodeLossyAfter 0 (bs ++ decodeBytes (cs.flatMap encodeChar))).length <
        bs.length + cs.length) := by
  induction size : cs.length using Nat.strongRecOn generalizing cs bs with
  | ind n ih =>
    subst size
    by_cases code : BeginsCode cs
    · obtain ⟨a, b, r, v, rfl, decoded⟩ := decodeBytes_of_beginsCode code
      have rest := (ih r.length (by simp only [List.length_cons]; omega) r (bs ++ [v]) rfl).1
      rw [List.append_assoc, List.singleton_append, ← decoded, List.length_append,
        List.length_singleton] at rest
      simp only [List.length_cons]
      omega
    · cases cs with
      | nil =>
        have lead : ∀ b ∈ ([] : List UInt8).head?, ¬ isTail b := by simp
        have whole := length_decodeLossyAfter_append_le (Nat.zero_le bs.length) lead
        exact ⟨whole, fun some => absurd some not_hasCode_nil⟩
      | cons c r =>
        have lead : ∀ b ∈ (encodeChar (unplus c) ++ decodeBytes (r.flatMap encodeChar)).head?,
            ¬ isTail b := by
          obtain ⟨a, t, bytes, lead, -⟩ := encodeChar_eq_cons (unplus c)
          simpa [bytes] using lead
        have whole := length_decodeLossyAfter_append_le (Nat.zero_le bs.length) lead
        rw [decodeLossyAfter_encodeChar_append, ← decodeBytes_cons code, List.length_cons] at whole
        have rest := ih r.length (Nat.lt_succ_self _) r [] rfl
        rw [List.nil_append, List.length_nil] at rest
        rw [hasCode_cons_iff, or_iff_right code, List.length_cons]
        refine ⟨by omega, fun later => ?_⟩
        have fewer := rest.2 later
        omega

/-- Without percent codes only plus signs are read otherwise. -/
theorem decode_of_not_hasCode {cs : List Char} (none : ¬ HasCode cs) :
    decode cs = String.ofList (cs.map unplus) := by
  have chars : decodeLossyAfter 0 (decodeBytes (cs.flatMap encodeChar)) = cs.map unplus := by
    induction cs with
    | nil => rfl
    | cons c r ih =>
      rw [hasCode_cons_iff, not_or] at none
      rw [decodeBytes_cons none.1, decodeLossyAfter_encodeChar_append, ih none.2, List.map_cons]
  rw [decode, decodeLossy, chars]

theorem map_unplus_eq_self_iff {cs : List Char} : cs.map unplus = cs ↔ '+' ∉ cs := by
  induction cs with
  | nil => simp
  | cons c r ih =>
    rw [List.map_cons, List.cons_eq_cons, ih, List.mem_cons, not_or, unplus]
    refine and_congr_left fun _ => ?_
    split
    · next plus => simp [plus]
    · next other => simpa using Ne.symm other

theorem decode_eq_self_iff {cs : List Char} :
    decode cs = String.ofList cs ↔ '+' ∉ cs ∧ ¬ HasCode cs := by
  by_cases code : HasCode cs
  · have fewer := (length_decode_le cs []).2 code
    refine iff_of_false (fun same => ?_) (fun both => both.2 code)
    rw [decode, decodeLossy] at same
    have := congrArg String.toList same
    rw [String.toList_ofList, String.toList_ofList] at this
    simp [this] at fewer
  · rw [decode_of_not_hasCode code, ← String.toList_inj, String.toList_ofList,
      String.toList_ofList, map_unplus_eq_self_iff, and_iff_left code]

/-! ### What was written is read back -/

theorem hexDigit_spec : ∀ n : Fin 16, encodeChar (hexDigit n) = [UInt8.ofNat (hexDigit n).toNat] ∧
    hexValue? (UInt8.ofNat (hexDigit n).toNat) = some n.val ∧
    hexDigit n ≠ '&' ∧ hexDigit n ≠ '=' := by
  decide

theorem isPlain_iff {b : UInt8} : isPlain b ↔
    (0x30 ≤ b.toNat ∧ b.toNat ≤ 0x39) ∨ (0x41 ≤ b.toNat ∧ b.toNat ≤ 0x5A) ∨
      (0x61 ≤ b.toNat ∧ b.toNat ≤ 0x7A) ∨ b.toNat = 0x2A ∨ b.toNat = 0x2D ∨ b.toNat = 0x2E ∨
      b.toNat = 0x5F := by
  simp only [isPlain, UInt8.le_iff_toNat_le, ← UInt8.toNat_inj, UInt8.reduceToNat, Bool.or_eq_true,
    Bool.and_eq_true, decide_eq_true_eq, beq_iff_eq, or_assoc]

theorem toNat_charOfNat {n : Nat} (ascii : n < 0x80) : (Char.ofNat n).toNat = n := by
  have valid : n.isValidChar := .inl (by omega)
  rw [Char.ofNat, dif_pos valid]
  rfl

/-- A byte is read back from what it is written as. -/
theorem decodeBytes_encodeByte (b : UInt8) (r : List UInt8) :
    decodeBytes ((encodeByte b).flatMap encodeChar ++ r) = b :: decodeBytes r := by
  rw [encodeByte]
  split
  · next blank =>
    subst blank
    exact decodeBytes_of_ne (by decide) r
  split
  · next plain =>
    have range := isPlain_iff.mp plain
    have char := toNat_charOfNat (n := b.toNat) (by omega)
    have one : encodeChar (Char.ofNat b.toNat) = [b] := by
      rcases encodeChar_cases (Char.ofNat b.toNat) with ⟨-, one⟩ | ⟨beyond, -⟩
      · rw [one, char, UInt8.ofNat_toNat]
      · omega
    have sign : b ≠ 0x25 := by
      rintro rfl
      revert plain
      decide
    have plus : b ≠ 0x2B := by
      rintro rfl
      revert plain
      decide
    rw [List.flatMap_singleton, one, List.singleton_append, decodeBytes_of_ne sign, if_neg plus]
  · have bound := b.toNat_lt
    obtain ⟨high, hx, -⟩ := hexDigit_spec ⟨b.toNat / 16, by omega⟩
    obtain ⟨low, hy, -⟩ := hexDigit_spec ⟨b.toNat % 16, by omega⟩
    have sign : encodeChar '%' = [0x25] := rfl
    have whole : UInt8.ofNat (16 * (b.toNat / 16) + b.toNat % 16) = b := by
      rw [Nat.div_add_mod, UInt8.ofNat_toNat]
    rw [percent, List.flatMap_cons, List.flatMap_cons, List.flatMap_singleton, sign, high, low]
    exact (decodeBytes_code hx hy r).trans (by rw [whole])

theorem notMem_encodeByte (b : UInt8) : '&' ∉ encodeByte b ∧ '=' ∉ encodeByte b := by
  rw [encodeByte]
  split
  · decide
  split
  · next plain =>
    have range := isPlain_iff.mp plain
    have char := toNat_charOfNat (n := b.toNat) (by omega)
    rw [List.mem_singleton, List.mem_singleton, ← Char.toNat_inj, ← Char.toNat_inj, char]
    change 0x26 ≠ b.toNat ∧ 0x3D ≠ b.toNat
    omega
  · have bound := b.toNat_lt
    obtain ⟨-, -, high⟩ := hexDigit_spec ⟨b.toNat / 16, by omega⟩
    obtain ⟨-, -, low⟩ := hexDigit_spec ⟨b.toNat % 16, by omega⟩
    simp [percent, high.1.symm, high.2.symm, low.1.symm, low.2.symm]

theorem decode_encode (s : String) : decode (encode s) = s := by
  have bytes : ∀ bs : List UInt8,
      decodeBytes ((bs.flatMap encodeByte).flatMap encodeChar) = bs := by
    intro bs
    induction bs with
    | nil => rfl
    | cons b r ih => rw [List.flatMap_cons, List.flatMap_append, decodeBytes_encodeByte, ih]
  rw [decode, encode, bytes, decodeLossy_encode]

theorem notMem_encode (s : String) : '&' ∉ encode s ∧ '=' ∉ encode s := by
  simp only [encode, List.mem_flatMap, not_exists, not_and]
  exact ⟨fun b _ => (notMem_encodeByte b).1, fun b _ => (notMem_encodeByte b).2⟩

/-! ### The parts of a query -/

theorem split_ne_nil (sep : Char) (cs : List Char) : split sep cs ≠ [] := by
  cases cs with
  | nil => simp [split]
  | cons c r =>
    rw [split]
    split
    · simp
    · split <;> simp

theorem split_append (sep : Char) (xs ys : List Char) :
    split sep (xs ++ sep :: ys) = split sep xs ++ split sep ys := by
  induction xs with
  | nil => simp [split]
  | cons c r ih =>
    rw [List.cons_append, split, split, ih]
    split
    · rfl
    · cases parts : split sep r with
      | nil => exact absurd parts (split_ne_nil sep r)
      | cons part others => rfl

theorem split_of_notMem {sep : Char} {cs : List Char} (one : sep ∉ cs) : split sep cs = [cs] := by
  induction cs with
  | nil => rfl
  | cons c r ih =>
    rw [List.mem_cons, not_or] at one
    rw [split, if_neg (Ne.symm one.1), ih one.2]

theorem read_append (xs ys : List Char) : read (xs ++ '&' :: ys) = read xs ++ read ys := by
  rw [read, split_append, List.filter_append, List.map_append, read, read]

theorem read_of_notMem {cs : List Char} (one : '&' ∉ cs) (some : cs ≠ []) :
    read cs = [pair cs] := by
  simp [read, split_of_notMem one, some]

/-- The first equality sign ends the name. -/
theorem pair_append {name : List Char} (ends : '=' ∉ name) (value : List Char) :
    pair (name ++ '=' :: value) = (decode name, decode value) := by
  have inside : ∀ c ∈ name, decide (c ≠ '=') = true := by
    intro c mem
    simpa using fun same : c = '=' => ends (same ▸ mem)
  rw [pair, List.takeWhile_append_of_pos inside, List.dropWhile_append_of_pos inside]
  simp

/-- Parameters are read back from the query that they are written as. -/
theorem read_write (ps : List (String × String)) : read (write ps).toList = ps := by
  rw [write, String.toList_ofList]
  induction ps with
  | nil => rfl
  | cons p ps ih =>
    obtain ⟨name, value⟩ := p
    have first : read (encode name ++ '=' :: encode value) = [(name, value)] := by
      rw [read_of_notMem, pair_append (notMem_encode name).2, decode_encode, decode_encode]
      · simp [(notMem_encode name).1, (notMem_encode value).1]
      · simp
    cases ps with
    | nil => simpa using first
    | cons q ps =>
      rw [List.map_cons] at ih
      rw [List.map_cons, List.map_cons, List.intercalate_cons_cons, List.append_assoc,
        List.singleton_append, read_append, ih]
      exact congrArg (· ++ q :: ps) first

end Form

end Tether.Text
