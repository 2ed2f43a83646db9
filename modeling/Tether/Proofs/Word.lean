import Mathlib.Algebra.Ring.Nat
import Mathlib.Data.List.Induction
import Tether.Wire.Word

/-! Whole numbers as bytes are read back as they were, up to the size that the bytes have room
for; and bytes that were read as a number are written as they were. -/

namespace Tether.Wire.Word

theorem ofLittleEndian_littleEndian (n v : Nat) :
    ofLittleEndian (littleEndian n v) = v % 256 ^ n := by
  induction n generalizing v with
  | zero => simp [littleEndian, ofLittleEndian, Nat.mod_one]
  | succ n ih =>
    rw [littleEndian, ofLittleEndian, ih, Nat.pow_succ, Nat.mul_comm (256 ^ n), Nat.mod_mul]
    simp

theorem ofLittleEndian_lt (bs : List UInt8) : ofLittleEndian bs < 256 ^ bs.length := by
  induction bs with
  | nil => simp [ofLittleEndian]
  | cons b r ih =>
    have hb := b.toNat_lt
    simp only [ofLittleEndian, List.length_cons, Nat.pow_succ]
    omega

theorem littleEndian_ofLittleEndian (bs : List UInt8) :
    littleEndian bs.length (ofLittleEndian bs) = bs := by
  induction bs with
  | nil => rfl
  | cons b r ih =>
    have hb := b.toNat_lt
    have low : UInt8.ofNat (b.toNat + 256 * ofLittleEndian r) = b := by
      rw [← UInt8.toNat_inj, UInt8.toNat_ofNat']
      omega
    have high : (b.toNat + 256 * ofLittleEndian r) / 256 = ofLittleEndian r := by omega
    rw [ofLittleEndian, List.length_cons, littleEndian, low, high, ih]

/-! ### Words of four and of eight bytes -/

theorem ofNat_ofLittleEndian_four (w : UInt32) :
    UInt32.ofNat (ofLittleEndian (littleEndian 4 w.toNat)) = w := by
  have bound : w.toNat < 256 ^ 4 := w.toNat_lt
  rw [ofLittleEndian_littleEndian, Nat.mod_eq_of_lt bound, UInt32.ofNat_toNat]

theorem ofNat_ofLittleEndian_eight (w : UInt64) :
    UInt64.ofNat (ofLittleEndian (littleEndian 8 w.toNat)) = w := by
  have bound : w.toNat < 256 ^ 8 := w.toNat_lt
  rw [ofLittleEndian_littleEndian, Nat.mod_eq_of_lt bound, UInt64.ofNat_toNat]

theorem littleEndian_four_ofNat {bs : List UInt8} (h : bs.length = 4) :
    littleEndian 4 (UInt32.ofNat (ofLittleEndian bs)).toNat = bs := by
  have bound := ofLittleEndian_lt bs
  rw [h] at bound
  rw [UInt32.toNat_ofNat_of_lt' bound, ← h, littleEndian_ofLittleEndian]

theorem littleEndian_eight_ofNat {bs : List UInt8} (h : bs.length = 8) :
    littleEndian 8 (UInt64.ofNat (ofLittleEndian bs)).toNat = bs := by
  have bound := ofLittleEndian_lt bs
  rw [h] at bound
  rw [UInt64.toNat_ofNat_of_lt' bound, ← h, littleEndian_ofLittleEndian]

/-! ### Most significant byte first -/

theorem ofBigEndian_concat (bs : List UInt8) (b : UInt8) :
    ofBigEndian (bs ++ [b]) = ofBigEndian bs * 256 + b.toNat := by
  rw [ofBigEndian, List.foldl_append]
  rfl

theorem shiftedIn_concat (bs : List UInt8) (b : UInt8) :
    shiftedIn (bs ++ [b]) = shiftedIn bs <<< 8 ||| b.toUInt32 := by
  rw [shiftedIn, List.foldl_append]
  rfl

theorem ofBigEndian_lt (bs : List UInt8) : ofBigEndian bs < 256 ^ bs.length := by
  induction bs using List.reverseRecOn with
  | nil => exact Nat.one_pos
  | append_singleton bs b ih =>
    have low := b.toNat_lt
    rw [ofBigEndian_concat, List.length_append, List.length_singleton, Nat.pow_succ]
    omega

/-- Four bytes can be shifted into a word of 32 bits before one is lost at its high end. -/
theorem toNat_shiftedIn {bs : List UInt8} (short : bs.length ≤ 4) :
    (shiftedIn bs).toNat = ofBigEndian bs := by
  induction bs using List.reverseRecOn with
  | nil => rfl
  | append_singleton bs b ih =>
    rw [List.length_append, List.length_singleton] at short
    have before := ih (by omega)
    have room : ofBigEndian bs < 2 ^ 24 :=
      calc ofBigEndian bs < 256 ^ bs.length := ofBigEndian_lt bs
        _ ≤ 256 ^ 3 := Nat.pow_le_pow_right (by decide) (by omega)
    have kept : ofBigEndian bs <<< 8 % 2 ^ 32 = ofBigEndian bs <<< 8 := by
      rw [Nat.shiftLeft_eq]
      omega
    calc (shiftedIn (bs ++ [b])).toNat
        = ofBigEndian bs <<< 8 % 2 ^ 32 ||| b.toNat := by
          rw [shiftedIn_concat, UInt32.toNat_or, UInt32.toNat_shiftLeft, before,
            UInt8.toNat_toUInt32]
          rfl
      _ = ofBigEndian bs <<< 8 + b.toNat := by
          rw [kept, Nat.shiftLeft_add_eq_or_of_lt b.toNat_lt]
      _ = ofBigEndian (bs ++ [b]) := by rw [ofBigEndian_concat, Nat.shiftLeft_eq]

end Tether.Wire.Word
