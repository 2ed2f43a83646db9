import Tether.Text.Utf8

/-! Form encoding, the writing of parameters in a query: `name=value` pairs joined by `&`, blanks
as `+`, and every byte that could be misread as `%` with two hexadecimal digits. -/

namespace Tether.Text.Form

/-- Bytes that stand for themselves. -/
def isPlain (b : UInt8) : Bool :=
  (0x30 ≤ b && b ≤ 0x39) || (0x41 ≤ b && b ≤ 0x5A) || (0x61 ≤ b && b ≤ 0x7A)
    || b == 0x2A || b == 0x2D || b == 0x2E || b == 0x5F

/-- A digit below 16, in upper case. -/
def hexDigit (n : Nat) : Char := Char.ofNat (if n < 10 then 0x30 + n else 0x37 + n)

def percent (b : UInt8) : List Char :=
  ['%', hexDigit (b.toNat / 16), hexDigit (b.toNat % 16)]

def encodeByte (b : UInt8) : List Char :=
  if b = 0x20 then ['+'] else if isPlain b then [Char.ofNat b.toNat] else percent b

def encode (s : String) : List Char := (Utf8.encode s).flatMap encodeByte

/-- Parameters as one query. -/
def write (ps : List (String × String)) : String :=
  String.ofList (['&'].intercalate (ps.map fun (name, value) => encode name ++ '=' :: encode value))

def hexValue? (b : UInt8) : Option Nat :=
  if 0x30 ≤ b && b ≤ 0x39 then some (b.toNat - 0x30)
  else if 0x41 ≤ b && b ≤ 0x46 then some (b.toNat - 0x37)
  else if 0x61 ≤ b && b ≤ 0x66 then some (b.toNat - 0x57)
  else none

/-- Undoes `+` and percent codes. A `%` without two digits stays. -/
def decodeBytes : List UInt8 → List UInt8
  | [] => []
  | 0x25 :: a :: b :: r =>
    match hexValue? a, hexValue? b with
    | some x, some y => UInt8.ofNat (16 * x + y) :: decodeBytes r
    | _, _ => 0x25 :: decodeBytes (a :: b :: r)
  | c :: r => (if c = 0x2B then 0x20 else c) :: decodeBytes r

def decode (cs : List Char) : String :=
  Utf8.decodeLossy (decodeBytes (cs.flatMap Utf8.encodeChar))

/-- The parts between the separators. -/
def split (sep : Char) : List Char → List (List Char)
  | [] => [[]]
  | c :: r =>
    if c = sep then [] :: split sep r
    else
      match split sep r with
      | part :: parts => (c :: part) :: parts
      | [] => [[c]]

/-- Name and value, parted at the first `=`; without one the value is empty. -/
def pair (part : List Char) : String × String :=
  (decode (part.takeWhile (· ≠ '=')), decode ((part.dropWhile (· ≠ '=')).drop 1))

/-- The parameters of a query. -/
def read (query : List Char) : List (String × String) :=
  ((split '&' query).filter (· ≠ [])).map pair

end Tether.Text.Form
