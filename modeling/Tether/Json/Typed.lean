import Tether.Json.Skip

/-! Readers for the types that messages and settings are made of. A record may be written as
an object, with keys in any order and unknown keys passed over, or as an array of its members
in order. -/

namespace Tether.Json.Reader

/-- Refuses the value at the front for its type. A scalar is read first, so that one which is
no JSON is refused for that. -/
def mismatch {α : Type} (b : UInt8) : Reader α :=
  if b = 0x2D || isDigit b then number *> fail .shape
  else if b = 0x22 then skipByte *> stringBody *> fail .shape
  else if b = 0x5B || b = 0x7B then fail .shape
  else skipScalar b *> fail .shape

/-- A whole number from 0 to `max`. -/
def natural (max : Nat) : Reader Nat := do
  let b ← peekByte
  if b = 0x2D || isDigit b then
    match ← number with
    | .natural n => if n ≤ max then return n else fail .shape
    | _ => fail .shape
  else mismatch b

/-- A number as a float. -/
def real : Reader Float := do
  let b ← peekByte
  if b = 0x2D || isDigit b then
    match ← number with
    | .natural n => return (UInt64.ofNat n).toFloat
    | .negative n => return -(UInt64.ofNat n.natAbs).toFloat
    | .real x => return x
  else mismatch b

def string : Reader String := do
  let b ← peekByte
  if b = 0x22 then skipByte *> stringBody else mismatch b

/-- A value, or nothing for `null`. -/
def optional {α : Type} (value : Reader α) : Reader (Option α) := do
  if (← peek) = some 0x6E then
    skipByte
    word [0x75, 0x6C, 0x6C]
    return none
  else return some (← value)

/-- Whether another element of an array follows. A comma is taken with it. -/
def hasElement (first : Bool) : Reader Bool := do
  let b ← peekByte
  if b = 0x5D then return false
  else if first then return true
  else if b = 0x2C then
    skipByte
    if (← peekByte) = 0x5D then fail .malformed else return true
  else fail .malformed

/-- Whether another member of an object follows; if so, its quote is the next byte. -/
def hasKey (first : Bool) : Reader Bool := do
  let b ← peekByte
  if b = 0x7D then return false
  else if first then
    if b = 0x22 then return true else fail .malformed
  else if b = 0x2C then
    skipByte
    if (← peekByte) = 0x22 then return true else fail .malformed
  else fail .malformed

/-- The closing byte of a container that has been read to its last element. -/
def closing (b : UInt8) : Reader Unit := do
  if (← peekByte) = b then skipByte else fail .malformed

def colon : Reader Unit := closing 0x3A

/-- The elements of an array after its opening bracket. -/
def elements {α : Type} (value : Reader α) : Nat → Bool → Reader (List α)
  | 0, _ => fail .eof
  | fuel + 1, first => do
    if ← hasElement first then
      let x ← value
      let xs ← elements value fuel false
      return x :: xs
    else return []

/-- An array of values of one type. -/
def list {α : Type} (value : Reader α) : Reader (List α) := do
  let b ← peekByte
  if b = 0x5B then
    skipByte
    let bs ← get
    let xs ← elements value (bs.length + 1) true
    closing 0x5D
    return xs
  else mismatch b

/-- An array of exactly two values. -/
def pair {α β : Type} (left : Reader α) (right : Reader β) : Reader (α × β) := do
  let b ← peekByte
  if b = 0x5B then
    skipByte
    if !(← hasElement true) then fail .shape
    let x ← left
    if !(← hasElement false) then fail .shape
    let y ← right
    closing 0x5D
    return (x, y)
  else mismatch b

/-- A member of a record under construction. -/
structure Member (σ : Type) where
  name : String
  read : σ → Reader σ

/-- Reads members in their order, as many as the array holds. -/
def inOrder {σ : Type} (s : σ) : Bool → List (Member σ) → Reader σ
  | _, [] => return s
  | first, m :: ms => do
    if ← hasElement first then inOrder (← m.read s) false ms else return s

/-- Reads the members of an object. A known key may come once; a second one is refused before
its value is looked at. -/
def byName {σ : Type} (members : List (Member σ)) : Nat → Bool → List String → σ → Reader σ
  | 0, _, _, _ => fail .eof
  | fuel + 1, first, seen, s => do
    if ← hasKey first then
      skipByte
      let key ← stringBody
      match members.find? (·.name = key) with
      | none =>
        colon
        skipValue
        byName members fuel false seen s
      | some m =>
        if key ∈ seen then fail .shape
        colon
        byName members fuel false (key :: seen) (← m.read s)
    else return s

/-- A record. Members start from `s`; `finish` refuses a record that lacks one. -/
def record {σ α : Type} (members : List (Member σ)) (s : σ) (finish : σ → Option α) :
    Reader α := do
  let b ← peekByte
  if b = 0x5B then
    skipByte
    let s ← inOrder s true members
    match finish s with
    | none => fail .shape
    | some a =>
      closing 0x5D
      return a
  else if b = 0x7B then
    skipByte
    let bs ← get
    let s ← byName members (bs.length + 1) true [] s
    match finish s with
    | none => fail .shape
    | some a =>
      closing 0x7D
      return a
  else mismatch b

/-- One of several words, written as a string, or as an object with that one key and `null`. -/
def choice {α : Type} (named : String → Option α) : Reader α := do
  let b ← peekByte
  if b = 0x22 then
    variant
  else if b = 0x7B then
    skipByte
    let a ← variant
    colon
    let b ← peekByte
    if b = 0x6E then skipByte *> word [0x75, 0x6C, 0x6C] else mismatch b
    closing 0x7D
    return a
  else fail .malformed
where
  /-- The word itself. -/
  variant : Reader α := do
    match named (← string) with
    | some a => return a
    | none => fail .shape

/-- A whole text: one value with nothing but blanks around it. -/
def whole {α : Type} (value : Reader α) (bs : List UInt8) : Except Fault α := do
  let (a, rest) ← value bs
  if rest.dropWhile isSpace = [] then return a else .error .malformed

end Tether.Json.Reader
