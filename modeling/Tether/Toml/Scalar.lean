import Tether.Decimal.Nearest

/-! Numbers and dates of TOML, each read from the front of a text. -/

namespace Tether.Toml

/-- Reads something from the front of a text and answers with the rest. -/
abbrev Scan (α : Type) := List Char → Option (α × List Char)

namespace Scalar

def isHexDigit (c : Char) : Bool :=
  c.isDigit || ('a' ≤ c && c ≤ 'f') || ('A' ≤ c && c ≤ 'F')

def isOctalDigit (c : Char) : Bool := '0' ≤ c && c ≤ '7'

def isBinaryDigit (c : Char) : Bool := c = '0' || c = '1'

def digitValue (c : Char) : Nat :=
  if c.isDigit then c.toNat - 48 else if 'a' ≤ c then c.toNat - 87 else c.toNat - 55

def ofDigits (base : Nat) (ds : List Char) : Nat :=
  ds.foldl (fun n d => n * base + digitValue d) 0

/-- Digits after the first one; an underscore may stand between two digits. -/
def moreDigits (isDigit : Char → Bool) : List Char → Option (List Char × List Char)
  | [] => some ([], [])
  | '_' :: d :: r =>
    if isDigit d then (moreDigits isDigit r).map fun (ds, rest) => (d :: ds, rest) else none
  | ['_'] => none
  | c :: r =>
    if isDigit c then (moreDigits isDigit r).map fun (ds, rest) => (c :: ds, rest)
    else some ([], c :: r)

/-- One digit or more. -/
def digits (isDigit : Char → Bool) : Scan (List Char)
  | [] => none
  | c :: r =>
    if isDigit c then (moreDigits isDigit r).map fun (ds, rest) => (c :: ds, rest) else none

/-- Decimal digits in which no zero leads unless it stands alone. -/
def wholeDigits : Scan (List Char)
  | '0' :: r => some (['0'], r)
  | cs => digits Char.isDigit cs

/-- A sign, if there is one: whether it is a minus. -/
def sign : List Char → Bool × List Char
  | '-' :: r => (true, r)
  | '+' :: r => (false, r)
  | cs => (false, cs)

/-- Whole numbers have to fit 64 bits with a sign. -/
def inRange (n : Int) : Bool := Int64.minValue.toInt ≤ n && n ≤ Int64.maxValue.toInt

/-- A whole number with a base mark, or a signed decimal one. -/
def integer (cs : List Char) : Option (Int × List Char) := do
  let (n, rest) ← (match cs with
    | '0' :: 'x' :: r => (digits isHexDigit r).map fun (ds, rest) => ((ofDigits 16 ds : Int), rest)
    | '0' :: 'o' :: r =>
      (digits isOctalDigit r).map fun (ds, rest) => ((ofDigits 8 ds : Int), rest)
    | '0' :: 'b' :: r =>
      (digits isBinaryDigit r).map fun (ds, rest) => ((ofDigits 2 ds : Int), rest)
    | cs =>
      let (negative, r) := sign cs
      (wholeDigits r).map fun (ds, rest) =>
        (if negative then -(ofDigits 10 ds : Int) else ofDigits 10 ds, rest))
  if inRange n then return (n, rest) else none

/-- The exponent of a float, after its letter. -/
def exponent (cs : List Char) : Option (Int × List Char) := do
  let (negative, r) := sign cs
  let (ds, rest) ← digits Char.isDigit r
  let n : Int := ofDigits 10 ds
  return (if negative then -n else n, rest)

/-- `inf` or `nan`. -/
def special : Scan Float
  | 'i' :: 'n' :: 'f' :: r => some (1.0 / 0.0, r)
  | 'n' :: 'a' :: 'n' :: r => some (0.0 / 0.0, r)
  | _ => none

/-- A float: it has a fraction, an exponent or both, or is written as a word. A decimal too
large to be finite is refused, unless it is negative. -/
def real (cs : List Char) : Option (Float × List Char) := do
  let (negative, r) := sign cs
  match special r with
  | some (x, rest) => return (if negative then -x else x, rest)
  | none =>
    let (whole, r) ← wholeDigits r
    let (fraction, hasFraction, r) ← (match r with
      | '.' :: r => (digits Char.isDigit r).map fun (ds, r) => (ds, true, r)
      | r => some ([], false, r))
    let (e, hasExponent, rest) ← (match r with
      | 'e' :: r | 'E' :: r => (exponent r).map fun (e, r) => (e, true, r)
      | r => some (0, false, r))
    if !hasFraction && !hasExponent then none
    else
      let x := Decimal.nearest (ofDigits 10 (whole ++ fraction)) (e - fraction.length)
      if x.isInf && !negative then none
      else return (if negative then -x else x, rest)

/-- Exactly `n` decimal digits. -/
def fixed (n : Nat) (cs : List Char) : Option (Nat × List Char) :=
  let ds := cs.take n
  if ds.length = n ∧ ds.all Char.isDigit then some (ofDigits 10 ds, cs.drop n) else none

/-- One given character. -/
def mark (c : Char) : List Char → Option (List Char)
  | d :: r => if c = d then some r else none
  | [] => none

def daysIn (year month : Nat) : Nat :=
  if month = 2 then
    if year % 4 = 0 ∧ (year % 100 ≠ 0 ∨ year % 400 = 0) then 29 else 28
  else if month = 4 ∨ month = 6 ∨ month = 9 ∨ month = 11 then 30
  else 31

/-- A day of the calendar; answers with the text behind it. -/
def date (cs : List Char) : Option (List Char) := do
  let (year, r) ← fixed 4 cs
  let (month, r) ← fixed 2 (← mark '-' r)
  let (day, r) ← fixed 2 (← mark '-' r)
  if 1 ≤ month ∧ month ≤ 12 ∧ 1 ≤ day ∧ day ≤ daysIn year month then return r else none

/-- A time of day; answers with the text behind it. -/
def time (cs : List Char) : Option (List Char) := do
  let (hour, r) ← fixed 2 cs
  let (minute, r) ← fixed 2 (← mark ':' r)
  let (second, r) ← fixed 2 (← mark ':' r)
  if hour ≤ 23 ∧ minute ≤ 59 ∧ second ≤ 60 then
    match r with
    | '.' :: r =>
      let rest := r.dropWhile Char.isDigit
      if rest.length < r.length then return rest else none
    | r => return r
  else none

/-- The distance from universal time. -/
def offset (cs : List Char) : Option (List Char) :=
  match cs with
  | 'Z' :: r | 'z' :: r => some r
  | '+' :: r | '-' :: r => do
    let (hour, r) ← fixed 2 r
    let (minute, r) ← fixed 2 (← mark ':' r)
    if hour ≤ 23 ∧ minute ≤ 59 then return r else none
  | r => some r

/-- A date, a time, or a date and a time with or without an offset. -/
def moment (cs : List Char) : Option (String × List Char) := do
  let rest ← (match date cs with
    | none => time cs
    | some r =>
      match r with
      | c :: after =>
        if c = 'T' ∨ c = 't' ∨ c = ' ' then
          match time after with
          | none => some r
          | some r => offset r
        else some r
      | [] => some [])
  return (String.ofList (cs.take (cs.length - rest.length)), rest)

end Scalar

end Tether.Toml
