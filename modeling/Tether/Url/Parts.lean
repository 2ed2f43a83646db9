import Tether.Text.Utf8

/-! The parts of an address that a request needs: scheme, authority, and the path with the query.
A fragment is cut off. -/

namespace Tether.Url

structure Parts where
  scheme : Option (List UInt8)
  /-- Host and port, perhaps after a user and an `@`. -/
  authority : List UInt8
  /-- Path and query. -/
  target : List UInt8
  deriving DecidableEq, Repr

namespace Parts

def isAlphanumeric (b : UInt8) : Bool :=
  (0x30 ≤ b && b ≤ 0x39) || (0x41 ≤ b && b ≤ 0x5A) || (0x61 ≤ b && b ≤ 0x7A)

/-- Bytes of a scheme: letters, digits, `+`, `-` and `.`. -/
def isSchemeByte (b : UInt8) : Bool := isAlphanumeric b || b == 0x2B || b == 0x2D || b == 0x2E

/-- The reserved and the unreserved characters of an address. -/
def isAddressByte (b : UInt8) : Bool :=
  isAlphanumeric b || b == 0x21 || b == 0x23 || b == 0x24 || (0x26 ≤ b && b ≤ 0x2F)
    || b == 0x3A || b == 0x3B || b == 0x3D || b == 0x3F || b == 0x40 || b == 0x5B || b == 0x5D
    || b == 0x5F || b == 0x7E

/-- Bytes of a path. Some that should be percent codes are let through. -/
def isPathByte (b : UInt8) : Bool :=
  b == 0x21 || b == 0x22 || (0x24 ≤ b && b ≤ 0x3B) || b == 0x3D || (0x40 ≤ b && b ≤ 0x5F)
    || (0x61 ≤ b && b ≤ 0x7E) || 0x7F ≤ b

/-- Bytes of a query. -/
def isQueryByte (b : UInt8) : Bool :=
  b == 0x21 || (0x24 ≤ b && b ≤ 0x3B) || b == 0x3D || 0x3F ≤ b

/-- Longest address, in bytes. -/
def sizeLimit : Nat := 65534

/-- Longest scheme, in bytes. -/
def schemeLimit : Nat := 64

/-- Parts the scheme from the rest; nothing if it is too long. -/
def scheme? (s : List UInt8) : Option (Option (List UInt8) × List UInt8) :=
  let name := s.takeWhile isSchemeByte
  let rest := s.dropWhile isSchemeByte
  if [0x3A, 0x2F, 0x2F].isPrefixOf rest ∧ s.length > 3 then
    if name.length > schemeLimit then none else some (some name, rest.drop 3)
  else some (none, s)

/-- What has been seen of an authority. -/
structure Seen where
  colons : Nat
  opened : Bool
  closed : Bool
  percent : Bool
  /-- The last byte was an `@`. -/
  atSign : Bool

def Seen.nothing : Seen := ⟨0, false, false, false, false⟩

/-- One more byte of an authority. What stands before an `@` is a user, and what stands in
brackets is a numeric host: colons and percent codes in them do not count. -/
def Seen.next? (s : Seen) (b : UInt8) : Option Seen :=
  let s := { s with atSign := false }
  if b = 0x3A then if s.colons ≥ 8 then none else some { s with colons := s.colons + 1 }
  else if b = 0x5B then if s.percent || s.opened then none else some { s with opened := true }
  else if b = 0x5D then
    if !s.opened || s.closed then none
    else some { s with closed := true, colons := 0, percent := false }
  else if b = 0x40 then some { s with colons := 0, percent := false, atSign := true }
  else if b = 0x25 then some { s with percent := true }
  else if isAddressByte b then some s
  else none

/-- Whether an authority may end here. -/
def Seen.complete (s : Seen) : Bool :=
  s.opened == s.closed && s.colons ≤ 1 && !s.atSign && !s.percent

/-- Parts the authority from the rest, which begins with `/`, `?` or `#` or is empty. -/
def authority? (seen : Seen) : List UInt8 → Option (List UInt8 × List UInt8)
  | [] => if seen.complete then some ([], []) else none
  | b :: r =>
    if b = 0x2F ∨ b = 0x3F ∨ b = 0x23 then
      if seen.complete then some ([], b :: r) else none
    else
      (seen.next? b).bind fun seen =>
        (authority? seen r).map fun (a, rest) => (b :: a, rest)

/-- The path and the query without the fragment, if all bytes are allowed. -/
def target? (s : List UInt8) : Option (List UInt8) :=
  let s := s.takeWhile (· ≠ 0x23)
  let path := s.takeWhile (· ≠ 0x3F)
  let query := (s.dropWhile (· ≠ 0x3F)).drop 1
  if path.all isPathByte && query.all isQueryByte then some s else none

/-- The parts of an address that names a host. Without a scheme there is an authority only. -/
def ofText? (text : String) : Option Parts :=
  let s := Text.Utf8.encode text
  if s.length > sizeLimit then none
  else
    (scheme? s).bind fun (scheme, rest) =>
      (authority? .nothing rest).bind fun (authority, rest) =>
        if authority = [] then none
        else if s = [0x2A] then none
        else if scheme.isNone ∧ rest ≠ [] then none
        else (target? rest).map fun target => ⟨scheme, authority, target⟩

end Parts

end Tether.Url
