/-! Reading decimal numbers as floating-point numbers: the nearest one, ties to even. -/

namespace Tether.Decimal

/-- Number of decimal digits, 0 for zero. -/
def digitCount (m : Nat) : Nat := if m = 0 then 0 else (Nat.toDigits 10 m).length

/-- The float nearest to `m * 10 ^ e`. Beyond the finite range the answer is settled by the
digit count, so no large power is built. -/
def nearest (m : Nat) (e : Int) : Float :=
  if m = 0 then 0.0
  else if digitCount m + e > 310 then 1.0 / 0.0
  else if digitCount m + e < -330 then 0.0
  else if 0 ≤ e then Float.ofScientific m false e.toNat
  else Float.ofScientific m true (-e).toNat

/-- The number that decimal digits write. -/
def ofDigits (ds : List Char) : Nat :=
  ds.foldl (fun n d => n * 10 + (d.toNat - '0'.toNat)) 0

/-- The whole number that a nonempty run of ASCII digits writes. -/
def natural? (cs : List Char) : Option Nat :=
  if cs ≠ [] ∧ cs.all Char.isDigit then some (ofDigits cs) else none

/-- A whole number with an optional sign. -/
def integer? : List Char → Option Int
  | '-' :: cs => (natural? cs).map fun n => -(n : Int)
  | '+' :: cs => (natural? cs).map Int.ofNat
  | cs => (natural? cs).map Int.ofNat

/-- Splits an unsigned decimal into the digits before the point, those after it, and the
exponent. -/
def parts? (cs : List Char) : Option (List Char × List Char × Int) :=
  let whole := cs.takeWhile Char.isDigit
  let rest := cs.dropWhile Char.isDigit
  let (fraction, rest) := match rest with
    | '.' :: r => (r.takeWhile Char.isDigit, r.dropWhile Char.isDigit)
    | r => ([], r)
  if whole = [] ∧ fraction = [] then none
  else match rest with
    | [] => some (whole, fraction, 0)
    | c :: r => if c = 'e' ∨ c = 'E' then (integer? r).map (whole, fraction, ·) else none

/-- The float nearest to an unsigned decimal. -/
def unsigned? (cs : List Char) : Option Float :=
  (parts? cs).map fun (whole, fraction, e) =>
    nearest (ofDigits (whole ++ fraction)) (e - fraction.length)

/-- The float that a text writes: a decimal with an optional sign and exponent, `inf` or
`nan`. -/
def float? (cs : List Char) : Option Float :=
  let (negative, body) := match cs with
    | '-' :: r => (true, r)
    | '+' :: r => (false, r)
    | r => (false, r)
  let magnitude :=
    if body = ['i', 'n', 'f'] then some (1.0 / 0.0)
    else if body = ['n', 'a', 'n'] then some (0.0 / 0.0)
    else unsigned? body
  magnitude.map fun x => if negative then -x else x

end Tether.Decimal
