import Tether.Json.Number

/-! Passing over a value that nobody asked for. Nesting is kept on a list, so it may be of
any depth. -/

namespace Tether.Json.Reader

/-- A container that is still open. -/
inductive Open where
  | array
  | object

/-- What may come next inside the containers that are open. -/
inductive Awaited where
  | value
  /-- A value, or the end of the array just opened. -/
  | valueOrEnd
  | key
  /-- A key, or the end of the object just opened. -/
  | keyOrEnd
  | commaOrEnd

/-- The closing byte of a container. -/
def Open.close : Open → UInt8
  | .array => 0x5D
  | .object => 0x7D

/-- What comes after a comma. -/
def Open.afterComma : Open → Awaited
  | .array => .value
  | .object => .key

/-- Passes over a string after its opening quote. -/
def skipString : Reader Unit := fun bs => (skipStringBody bs).map ((), ·)

/-- Passes over a value that is no container. -/
def skipScalar (b : UInt8) : Reader Unit :=
  if b = 0x6E then skipByte *> word [0x75, 0x6C, 0x6C]
  else if b = 0x74 then skipByte *> word [0x72, 0x75, 0x65]
  else if b = 0x66 then skipByte *> word [0x61, 0x6C, 0x73, 0x65]
  else if b = 0x2D || isDigit b then skipNumber
  else if b = 0x22 then skipByte *> skipString
  else fail .malformed

/-- Passes over a key and the colon behind it; the quote is the next byte. -/
def skipKey : Reader Unit := do
  skipByte
  skipString
  if (← peekByte) = 0x3A then skipByte else fail .malformed

/-- Passes over the rest of the open containers. Each step takes at least one byte, so the
number of bytes bounds the number of steps. -/
def skipOpen : Nat → List Open → Awaited → Reader Unit
  | 0, _, _ => fail .eof
  | fuel + 1, stack, awaited => do
    let b ← peekByte
    match awaited, stack with
    | .value, _ | .valueOrEnd, [] => value fuel stack b
    | .valueOrEnd, top :: rest =>
      if b = top.close then skipByte *> next fuel rest else value fuel stack b
    | .key, _ | .keyOrEnd, [] => key fuel stack b
    | .keyOrEnd, top :: rest =>
      if b = top.close then skipByte *> next fuel rest else key fuel stack b
    | .commaOrEnd, [] => return ()
    | .commaOrEnd, top :: rest =>
      if b = 0x2C then skipByte *> skipOpen fuel stack top.afterComma
      else if b = top.close then skipByte *> next fuel rest
      else fail .malformed
where
  /-- Goes on after a value. -/
  next (fuel : Nat) : List Open → Reader Unit
    | [] => return ()
    | stack => skipOpen fuel stack .commaOrEnd
  /-- Passes over a scalar or opens a container. -/
  value (fuel : Nat) (stack : List Open) (b : UInt8) : Reader Unit :=
    if b = 0x5B then skipByte *> skipOpen fuel (.array :: stack) .valueOrEnd
    else if b = 0x7B then skipByte *> skipOpen fuel (.object :: stack) .keyOrEnd
    else skipScalar b *> next fuel stack
  /-- Passes over a key. -/
  key (fuel : Nat) (stack : List Open) (b : UInt8) : Reader Unit :=
    if b = 0x22 then skipKey *> skipOpen fuel stack .value else fail .malformed

/-- Passes over one value of any kind. -/
def skipValue : Reader Unit := do
  let bs ← get
  skipOpen (bs.length + 1) [] .value

end Tether.Json.Reader
