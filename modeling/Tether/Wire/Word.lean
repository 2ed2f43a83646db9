/-! Whole numbers as bytes: a fixed number of bytes least significant first, and any number
of bytes most significant first. -/

namespace Tether.Wire.Word

/-- The `n` low-order bytes of `v`, least significant first. -/
def littleEndian : Nat → Nat → List UInt8
  | 0, _ => []
  | n + 1, v => UInt8.ofNat v :: littleEndian n (v / 256)

/-- The number whose bytes are given least significant first. -/
def ofLittleEndian : List UInt8 → Nat
  | [] => 0
  | b :: r => b.toNat + 256 * ofLittleEndian r

/-- The number whose bytes are given most significant first. -/
def ofBigEndian (bs : List UInt8) : Nat := bs.foldl (fun acc b => acc * 256 + b.toNat) 0

/-- A word of 32 bits into which bytes are shifted one after another, at its low end. -/
def shiftedIn (bs : List UInt8) : UInt32 := bs.foldl (fun acc b => acc <<< 8 ||| b.toUInt32) 0

@[simp] theorem length_littleEndian (n v : Nat) : (littleEndian n v).length = n := by
  induction n generalizing v with
  | zero => rfl
  | succ n ih => simp [littleEndian, ih]

end Tether.Wire.Word
