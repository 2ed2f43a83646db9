import Tether.Json.Reader

/-! JSON numbers. A whole number in reach of 64 bits keeps its value. Any other number is
a float, made from at most 64 bits of leading digits and one multiplication or division by
a power of ten, so its last bit may differ from the nearest float. -/

namespace Tether.Json

inductive Number where
  /-- A whole number below 2^64. -/
  | natural (n : Nat)
  /-- A whole number from -2^63 to -1. -/
  | negative (n : Int)
  | real (x : Float)

namespace Number

/-- Value of a digit. -/
def digitValue (b : UInt8) : Nat := b.toNat - 0x30

/-- Adds digits while the value stays below 2^64; answers with the digits left over. -/
def accumulate (n : Nat) : List UInt8 → Nat × List UInt8
  | [] => (n, [])
  | d :: ds =>
    if n * 10 + digitValue d < UInt64.size then accumulate (n * 10 + digitValue d) ds
    else (n, d :: ds)

/-- `x * 10 ^ e` in steps that a float can take; beyond the largest float it is refused. -/
def scaled (x : Float) (e : Int) : Except Fault Float :=
  if 308 < e then
    if x == 0.0 then .ok x else .error .malformed
  else if 0 ≤ e then
    let y := x * Float.ofScientific 1 false e.toNat
    if y.isInf then .error .malformed else .ok y
  else if -308 ≤ e then .ok (x / Float.ofScientific 1 false (-e).toNat)
  else if x == 0.0 then .ok x
  else scaled (x / Float.ofScientific 1 false 308) (e + 308)
termination_by (-e).toNat

/-- The value of a number, given by its sign, its digits before and after the point, and
its exponent. -/
def ofParts (negative : Bool) (whole : List UInt8) (fraction : Option (List UInt8))
    (exponent : Option Int) : Except Fault Number := do
  let (n, dropped) := accumulate 0 whole
  if fraction.isNone ∧ exponent.isNone ∧ dropped = [] then
    if ¬ negative then return .natural n
    else if 1 ≤ n ∧ n ≤ UInt64.size / 2 then return .negative (-n)
    else return .real (-(UInt64.ofNat n).toFloat)
  else
    let digits := fraction.getD []
    let (n, rest) := accumulate n digits
    let places : Int := dropped.length - (digits.length - rest.length : Nat)
    let x ← scaled (UInt64.ofNat n).toFloat (places + exponent.getD 0)
    return .real (if negative then -x else x)

end Number

namespace Reader

/-- The digits at the front. -/
def digits : Reader (List UInt8) := fun bs => .ok (bs.takeWhile isDigit, bs.dropWhile isDigit)

/-- At least one digit. -/
def someDigits : Reader (List UInt8) := fun bs =>
  match bs with
  | [] => .error .eof
  | b :: _ => if isDigit b then digits bs else .error .malformed

/-- The digits before the point: no zero leads unless it stands alone. -/
def wholeDigits : Reader (List UInt8) := do
  let ds ← someDigits
  match ds with
  | 0x30 :: _ :: _ => fail .malformed
  | _ => return ds

/-- The exponent after its letter. -/
def exponent : Reader Int := do
  let sign := (← get).head?
  if sign = some 0x2B ∨ sign = some 0x2D then skipByte
  let ds ← someDigits
  let n : Nat := ds.foldl (fun n d => n * 10 + Number.digitValue d) 0
  return if sign = some 0x2D then -n else n

/-- A number as it is written; the next byte is a digit or a minus sign. -/
def numberParts : Reader (Bool × List UInt8 × Option (List UInt8) × Option Int) := do
  let negative := (← get).head? = some 0x2D
  if negative then skipByte
  let whole ← wholeDigits
  let mut fraction := none
  if (← get).head? = some 0x2E then
    skipByte
    fraction := some (← someDigits)
  let mut power := none
  let next := (← get).head?
  if next = some 0x65 ∨ next = some 0x45 then
    skipByte
    power := some (← exponent)
  return (negative, whole, fraction, power)

/-- A number. -/
def number : Reader Number := do
  let (negative, whole, fraction, power) ← numberParts
  match Number.ofParts negative whole fraction power with
  | .ok n => return n
  | .error e => fail e

/-- Passes over a number that is not decoded: it may be out of range, and the end of the
text counts as a byte that does not fit. -/
def skipNumber : Reader Unit := fun bs =>
  match numberParts bs with
  | .ok (_, rest) => .ok ((), rest)
  | .error _ => .error .malformed

end Reader

end Tether.Json
