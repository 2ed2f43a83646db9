/-! Writing floats: the fewest digits that read back as the same float, and of those the
nearest; a tie goes up. Always positional. -/

namespace Tether.Decimal

/-- A finite positive float as `m * 2 ^ q`. -/
structure Dyadic where
  m : Nat
  q : Int
  /-- Whether the gap to the next smaller float is half the gap to the next larger one. -/
  narrowBelow : Bool

/-- The magnitude of the float with these bits, if it is finite. -/
def Dyadic.ofBits (bits : UInt64) : Option Dyadic :=
  let fraction : Nat := bits.toNat % Nat.pow 2 52
  let exponent : Nat := bits.toNat / Nat.pow 2 52 % 2048
  if exponent = 2047 then none
  else if exponent = 0 then some ⟨fraction, -1074, false⟩
  else some ⟨Nat.pow 2 52 + fraction, (exponent : Int) - 1075, fraction = 0 && exponent != 1⟩

/-- The number `n * 2 ^ q` in units of `10 ^ k / 4`, as a quotient of whole numbers. -/
def inQuarters (n : Nat) (q k : Int) : Nat × Nat :=
  (n * Nat.pow 2 q.toNat * Nat.pow 10 (-k).toNat, Nat.pow 2 (-q).toNat * Nat.pow 10 k.toNat)

/-- The multiple of `10 ^ k` nearest to the float among those that round to it. -/
def Dyadic.onGrid? (d : Dyadic) (k : Int) : Option Nat :=
  let (value, unit) := inQuarters (4 * d.m) d.q k
  let (low, _) := inQuarters (4 * d.m - if d.narrowBelow then 1 else 2) d.q k
  let (high, _) := inQuarters (4 * d.m + 2) d.q k
  let inside (n : Nat) : Bool :=
    if d.m % 2 = 0 then low ≤ 4 * unit * n && 4 * unit * n ≤ high
    else low < 4 * unit * n && 4 * unit * n < high
  let below := value / (4 * unit)
  let upper := below + 1
  let nearerBelow := value - 4 * unit * below < 4 * unit * upper - value
  match below != 0 && inside below, inside upper with
  | true, true => some (if nearerBelow then below else upper)
  | true, false => some below
  | false, true => some upper
  | false, false => none

/-- A power of ten above every float `m * 2 ^ q`. -/
def Dyadic.scale (d : Dyadic) : Int := ((d.m.log2 + 1 : Nat) + d.q) * 30103 / 100000 + 2

/-- The shortest digits of a positive float, with the power of ten they count. -/
def Dyadic.shortest (d : Dyadic) : Nat × Int :=
  let found := (List.range 24).findSome? fun (i : Nat) =>
    let k := d.scale - (i : Nat)
    (d.onGrid? k).map (·, k)
  found.getD (0, 0)

/-- The text of `n * 10 ^ k`, with no exponent and no trailing zeros after the point. -/
def positional (n : Nat) (k : Int) : String :=
  let digits := Nat.toDigits 10 n
  if 0 ≤ k then String.ofList (digits ++ List.replicate k.toNat '0')
  else
    let places := (-k).toNat
    let digits := List.replicate (places + 1 - digits.length) '0' ++ digits
    let whole := digits.take (digits.length - places)
    let fraction := (digits.drop (digits.length - places)).reverse.dropWhile (· = '0')
    if fraction = [] then String.ofList whole
    else String.ofList (whole ++ '.' :: fraction.reverse)

/-- The plain text of a float: `NaN`, `inf`, or positional digits; the sign of zero shows. -/
def plain (x : Float) : String :=
  let bits := x.toBits
  let sign := if bits.toNat / Nat.pow 2 63 = 1 then "-" else ""
  if x.isNaN then "NaN"
  else match Dyadic.ofBits bits with
    | none => sign ++ "inf"
    | some d =>
      if d.m = 0 then sign ++ "0"
      else
        let (n, k) := d.shortest
        sign ++ positional n k

/-- Whether a float is a whole number. -/
def isWhole (x : Float) : Bool :=
  match Dyadic.ofBits x.toBits with
  | none => false
  | some d => d.m % Nat.pow 2 (-d.q).toNat = 0

end Tether.Decimal
