/-! UTF-8 on lists of bytes: how many bytes the character at the front takes,
strict decoding, and decoding that puts U+FFFD for each maximal ill-formed piece.
Everything is read off one byte at a time, so each function recurses on the list itself. -/

namespace Tether.Text.Utf8

/-- Number of bytes of a character that begins with `a`; 0 if no character does. -/
def leadLength (a : UInt8) : Nat :=
  if a ≤ 0x7F then 1
  else if a < 0xC2 then 0
  else if a ≤ 0xDF then 2
  else if a ≤ 0xEF then 3
  else if a ≤ 0xF4 then 4
  else 0

/-- A byte that may continue a character. -/
def isTail (b : UInt8) : Bool := 0x80 ≤ b && b ≤ 0xBF

/-- Whether `b` may follow the first byte `a`. Four first bytes narrow the range, so that
overlong forms, surrogates and values above U+10FFFF are ill-formed. -/
def isSecond (a b : UInt8) : Bool :=
  if a = 0xE0 then 0xA0 ≤ b && b ≤ 0xBF
  else if a = 0xED then 0x80 ≤ b && b ≤ 0x9F
  else if a = 0xF0 then 0x90 ≤ b && b ≤ 0xBF
  else if a = 0xF4 then 0x80 ≤ b && b ≤ 0x8F
  else isTail b

/-- Number of bytes of the well-formed character at the front; 0 if there is none. -/
def charLength : List UInt8 → Nat
  | [] => 0
  | a :: r =>
    match leadLength a, r with
    | 1, _ => 1
    | 2, b :: _ => if isSecond a b then 2 else 0
    | 3, b :: c :: _ => if isSecond a b && isTail c then 3 else 0
    | 4, b :: c :: d :: _ => if isSecond a b && isTail c && isTail d then 4 else 0
    | _, _ => 0

/-- Number of bytes that one replacement character stands for when the front is ill-formed:
the longest piece that some well-formed character begins with, and at least one byte. -/
def brokenLength : List UInt8 → Nat
  | [] => 0
  | a :: r =>
    match leadLength a, r with
    | 3, b :: _ => if isSecond a b then 2 else 1
    | 4, b :: c :: _ => if isSecond a b then (if isTail c then 3 else 2) else 1
    | 4, b :: _ => if isSecond a b then 2 else 1
    | _, _ => 1

/-- The character that the first `n` bytes encode. -/
def charValue : Nat → List UInt8 → Char
  | 1, a :: _ => Char.ofNat a.toNat
  | 2, a :: b :: _ => Char.ofNat (a.toNat % 32 * 64 + b.toNat % 64)
  | 3, a :: b :: c :: _ =>
    Char.ofNat (a.toNat % 16 * 4096 + b.toNat % 64 * 64 + c.toNat % 64)
  | 4, a :: b :: c :: d :: _ =>
    Char.ofNat (a.toNat % 8 * 262144 + b.toNat % 64 * 4096 + c.toNat % 64 * 64 + d.toNat % 64)
  | _, _ => '\uFFFD'

/-- The bytes of a character. -/
def encodeChar (c : Char) : List UInt8 := String.utf8EncodeChar c

/-- The bytes of a text. -/
def encode (s : String) : List UInt8 := s.toList.flatMap encodeChar

/-- Strict decoding after the next `skip` bytes, which belong to a character already read. -/
def decodeAfter? : Nat → List UInt8 → Option (List Char)
  | _, [] => some []
  | skip + 1, _ :: r => decodeAfter? skip r
  | 0, a :: r =>
    match charLength (a :: r) with
    | 0 => none
    | n + 1 => (decodeAfter? n r).map (charValue (n + 1) (a :: r) :: ·)

/-- The text that the bytes encode, if they are well-formed throughout. -/
def decode? (bs : List UInt8) : Option String := (decodeAfter? 0 bs).map String.ofList

/-- Lossy decoding after the next `skip` bytes, which are already accounted for. -/
def decodeLossyAfter : Nat → List UInt8 → List Char
  | _, [] => []
  | skip + 1, _ :: r => decodeLossyAfter skip r
  | 0, a :: r =>
    match charLength (a :: r) with
    | 0 => '\uFFFD' :: decodeLossyAfter (brokenLength (a :: r) - 1) r
    | n + 1 => charValue (n + 1) (a :: r) :: decodeLossyAfter n r

/-- The text of the bytes, with U+FFFD for each ill-formed piece. -/
def decodeLossy (bs : List UInt8) : String := String.ofList (decodeLossyAfter 0 bs)

/-- Length of a text in bytes. -/
def width (s : String) : Nat := (encode s).length

theorem encode_ofList (cs : List Char) : encode (String.ofList cs) = cs.flatMap encodeChar := by
  simp [encode]

end Tether.Text.Utf8
