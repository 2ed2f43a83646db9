import Tether.Text.Utf8

/-! What may stand in a header line of a request. -/

namespace Tether.Text.Header

/-- Bytes of a value: everything but control characters, of which a tab is allowed. -/
def isValueByte (b : UInt8) : Bool := (0x20 ≤ b && b != 0x7F) || b == 0x09

def isValue (s : String) : Bool := (Utf8.encode s).all isValueByte

/-- Bytes of a name: letters, digits and the signs of a token. -/
def isNameByte (b : UInt8) : Bool :=
  (0x30 ≤ b && b ≤ 0x39) || (0x41 ≤ b && b ≤ 0x5A) || (0x61 ≤ b && b ≤ 0x7A)
    || [0x21, 0x23, 0x24, 0x25, 0x26, 0x27, 0x2A, 0x2B, 0x2D, 0x2E, 0x5E, 0x5F, 0x60, 0x7C,
      0x7E].contains b

/-- Longest name, in bytes. -/
def nameLimit : Nat := 65535

def isName (s : String) : Bool :=
  let bytes := Utf8.encode s
  bytes ≠ [] && bytes.length ≤ nameLimit && bytes.all isNameByte

/-- Names are compared in lower case. -/
def fold (s : String) : String := s.map Char.toLower

end Tether.Text.Header
