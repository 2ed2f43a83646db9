import Tether.Json.Fault
import Tether.Text.Utf8

/-! Reading JSON from bytes, asked for one type at a time. A reader looks only as far as it
has to: the first fault from the left is the answer, and a value of the wrong type is read
to its end first when it is a scalar. -/

namespace Tether.Json

open Text

/-- Reads a value from the front of a text. -/
abbrev Reader (α : Type) := StateT (List UInt8) (Except Fault) α

namespace Reader

def fail {α : Type} (e : Fault) : Reader α := fun _ => .error e

/-- Blanks between tokens. -/
def isSpace (b : UInt8) : Bool := b = 0x20 || b = 0x0A || b = 0x09 || b = 0x0D

def isDigit (b : UInt8) : Bool := 0x30 ≤ b && b ≤ 0x39

/-- The next byte that is not blank, left in place. -/
def peek : Reader (Option UInt8) := fun bs =>
  let rest := bs.dropWhile isSpace
  .ok (rest.head?, rest)

/-- The next byte that is not blank, left in place; the text may not end here. -/
def peekByte : Reader UInt8 := do
  match ← peek with
  | some b => return b
  | none => fail .eof

/-- Passes over one byte. -/
def skipByte : Reader Unit := modify List.tail

/-- The exact rest of a word whose first letter is known. -/
def word : List UInt8 → Reader Unit
  | [], bs => .ok ((), bs)
  | _ :: _, [] => .error .eof
  | c :: cs, b :: bs => if b = c then word cs bs else .error .malformed

/-! ### Strings -/

/-- Value of a hexadecimal digit. -/
def hexDigit? (b : UInt8) : Option Nat :=
  if 0x30 ≤ b && b ≤ 0x39 then some (b.toNat - 0x30)
  else if 0x41 ≤ b && b ≤ 0x46 then some (b.toNat - 0x37)
  else if 0x61 ≤ b && b ≤ 0x66 then some (b.toNat - 0x57)
  else none

/-- Value of four hexadecimal digits. -/
def hexQuad? (a b c d : UInt8) : Option Nat := do
  return (← hexDigit? a) * 4096 + (← hexDigit? b) * 256 + (← hexDigit? c) * 16 + (← hexDigit? d)

/-- The character that a one-letter escape stands for. -/
def shortEscape? (b : UInt8) : Option UInt8 :=
  if b = 0x22 || b = 0x5C || b = 0x2F then some b
  else if b = 0x62 then some 0x08
  else if b = 0x66 then some 0x0C
  else if b = 0x6E then some 0x0A
  else if b = 0x72 then some 0x0D
  else if b = 0x74 then some 0x09
  else none

/-- The code point of a surrogate pair. -/
def pairValue (high low : Nat) : Nat := 0x10000 + (high - 0xD800) * 0x400 + (low - 0xDC00)

/-- The bytes of a string after its opening quote, and the text behind its closing quote.
`done` holds the bytes read so far, last first. Escapes must name whole characters. -/
def stringBytes (done : List UInt8) : List UInt8 → Except Fault (List UInt8 × List UInt8)
  | [] => .error .eof
  | 0x22 :: r => .ok (done.reverse, r)
  | 0x5C :: 0x75 :: a :: b :: c :: d :: r =>
    match hexQuad? a b c d with
    | none => .error .malformed
    | some n =>
      if 0xDC00 ≤ n ∧ n ≤ 0xDFFF then .error .malformed
      else if 0xD800 ≤ n ∧ n ≤ 0xDBFF then
        match r with
        | 0x5C :: 0x75 :: a' :: b' :: c' :: d' :: r' =>
          match hexQuad? a' b' c' d' with
          | none => .error .malformed
          | some low =>
            if 0xDC00 ≤ low ∧ low ≤ 0xDFFF then
              stringBytes ((Utf8.encodeChar (Char.ofNat (pairValue n low))).reverse ++ done) r'
            else .error .malformed
        | [] => .error .eof
        | [0x5C] => .error .eof
        | 0x5C :: 0x75 :: _ => .error .eof
        | _ => .error .malformed
      else stringBytes ((Utf8.encodeChar (Char.ofNat n)).reverse ++ done) r
  | 0x5C :: 0x75 :: _ => .error .eof
  | [0x5C] => .error .eof
  | 0x5C :: e :: r =>
    match shortEscape? e with
    | none => .error .malformed
    | some b => stringBytes (b :: done) r
  | b :: r => if b < 0x20 then .error .malformed else stringBytes (b :: done) r

/-- A string after its opening quote; its bytes have to be well-formed text. -/
def stringBody : Reader String := fun bs => do
  let (body, rest) ← stringBytes [] bs
  match Utf8.decode? body with
  | some s => return (s, rest)
  | none => .error .malformed

/-- Passes over a string after its opening quote. Escapes are checked for their form only
and the bytes not at all, since nothing is decoded. -/
def skipStringBody : List UInt8 → Except Fault (List UInt8)
  | [] => .error .eof
  | 0x22 :: r => .ok r
  | 0x5C :: 0x75 :: a :: b :: c :: d :: r =>
    match hexQuad? a b c d with
    | none => .error .malformed
    | some _ => skipStringBody r
  | 0x5C :: 0x75 :: _ => .error .eof
  | [0x5C] => .error .eof
  | 0x5C :: e :: r => if (shortEscape? e).isSome then skipStringBody r else .error .malformed
  | b :: r => if b < 0x20 then .error .malformed else skipStringBody r

end Reader

end Tether.Json
