import Tether.Wire.Message

/-! A frame written with all its steps in sight. Each part is put behind what the buffer holds, and
what has been put there stays, whatever comes later; and the number of spaces behind a text is a
difference that is taken for granted, so the writing breaks off where a text is wider than its
slot. That a fault finds the buffer as it was, and that nothing breaks off, is for the order of the
steps to see to. -/

namespace Tether.Wire

open Text

/-- A writing into a buffer ends with a value or with a fault, both together with what the buffer
holds then, or breaks off. -/
abbrev Writing (α : Type) := ExceptT Fault (StateT (List UInt8) Option) α

namespace Writing

/-- What a writing comes to in a buffer. -/
def into {α : Type} (w : Writing α) (buffer : List UInt8) : Option (Except Fault α × List UInt8) :=
  w.run.run buffer

/-- Puts bytes behind those of the buffer. -/
def put (bs : List UInt8) : Writing Unit := modify (· ++ bs)

/-- Goes on after a check that holds. -/
def checked (check : Except Fault Unit) : Writing Unit := ExceptT.mk (pure check)

/-- Goes on with a number that is taken to be there. -/
def granted (n : Option Nat) : Writing Nat := ExceptT.lift (StateT.lift n)

/-- What is left of `n` without `m`, if `m` is no more. -/
def difference? (n m : Nat) : Option Nat := if m ≤ n then some (n - m) else none

/-- A text, and spaces up to the width of its slot. -/
def text (field : Field) (s : String) : Writing Unit := do
  put (Utf8.encode s)
  let spaces ← granted (difference? field.width (Utf8.width s))
  put (List.replicate spaces 0x20)

/-- A whole number, as many bytes of it as its slot is wide. -/
def number (field : Field) (n : Nat) : Writing Unit := put (Word.littleEndian field.width n)

def header (h : Header) : Writing Unit := do
  checked (checkWidth .schemaVersion h.schema)
  checked (checkWidth .sessionId h.session)
  number .messageType h.kind.code.toNat
  text .schemaVersion h.schema
  text .sessionId h.session
  number .createdDate h.created.toNat
  number .sequenceNumber h.sequence.toUInt64.toNat
  number .payloadLength h.declared.toNat

/-- A frame; the buffer is a new one. -/
def message (m : Message) : Writing Unit := do
  if m.payload.length > maxPayload then throw (.payloadTooLarge m.payload.length)
  header { m.toHeader with declared := UInt32.ofNat m.payload.length }
  put m.payload

end Writing

end Tether.Wire
