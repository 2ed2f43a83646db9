import Tether.Wire.Message

/-! A frame read with all its accesses in sight. Some ranges of bytes are taken after a check, and
a fault says which check failed; others are taken for granted, as are differences of lengths, and
there the reading breaks off where the bytes are not enough. So whether an access can go out of
bounds is told by what the reading comes to. -/

namespace Tether.Wire

open Text

/-- One past the last byte of a part of the frame. -/
def Field.stop (field : Field) : Nat := field.offset + field.width

/-- The parts of the header, in order. -/
def Field.slots : List Field :=
  [.messageType, .schemaVersion, .sessionId, .createdDate, .sequenceNumber, .payloadLength]

example : Field.slots.map (fun field => (field.name, field.offset, field.stop)) =
    [("MessageType", 0, 4), ("SchemaVersion", 4, 8), ("SessionId", 8, 40), ("CreatedDate", 40, 48),
      ("SequenceNumber", 48, 56), ("PayloadLength", 56, 60)] := rfl

/-- A reading of bytes ends with a value or with a fault, or breaks off. -/
abbrev Reading (α : Type) := ExceptT Fault Option α

namespace Reading

/-- A reading that has come to its end. -/
def ended {α : Type} (result : Except Fault α) : Reading α := ExceptT.mk (some result)

/-- The bytes from `start` to `stop`, if they are there. -/
def range? (src : List UInt8) (start stop : Nat) : Option (List UInt8) :=
  if start ≤ stop ∧ stop ≤ src.length then some ((src.drop start).take (stop - start)) else none

/-- The bytes from `start` to `stop`, taken for granted. -/
def range (src : List UInt8) (start stop : Nat) : Reading (List UInt8) :=
  ExceptT.mk ((range? src start stop).map .ok)

/-- What is left of `n` without `m`, which is taken to be no more. -/
def difference (n m : Nat) : Reading Nat := ExceptT.mk (if m ≤ n then some (.ok (n - m)) else none)

/-- The whole number in the first `n` bytes, least significant first. -/
def word (n : Nat) (bs : List UInt8) : Reading Nat := do
  return Word.ofLittleEndian (← range bs 0 n)

/-- The bytes of a slot, or the fault that names it. -/
def slot (src : List UInt8) (field : Field) : Reading (List UInt8) :=
  match range? src field.offset field.stop with
  | some bs => return bs
  | none => throw (.malformed field field.offset field.stop src.length)

/-- The place of the last element with a property. -/
def lastIdx? {α : Type} (p : α → Bool) (xs : List α) : Option Nat :=
  (xs.reverse.findIdx? p).map (xs.length - 1 - ·)

/-- The bytes from the first to the last that is no NUL. -/
def nulTrimmed (raw : List UInt8) : Reading (List UInt8) :=
  let start := (raw.findIdx? (· != 0)).getD raw.length
  let stop := (lastIdx? (· != 0) raw).elim start (· + 1)
  range raw start stop

def text (raw : List UInt8) : Reading String := do
  return trimBlank (Utf8.decodeLossy (← nulTrimmed raw))

def header (src : List UInt8) : Reading Header := do
  let kind ← word Field.messageType.width (← slot src .messageType)
  let schema ← text (← slot src .schemaVersion)
  let session ← text (← slot src .sessionId)
  let created ← word Field.createdDate.width (← slot src .createdDate)
  let sequence ← word Field.sequenceNumber.width (← slot src .sequenceNumber)
  let declared ← word Field.payloadLength.width (← slot src .payloadLength)
  return {
    kind := Kind.ofCode (UInt32.ofNat kind)
    schema := schema
    session := session
    created := UInt64.ofNat created
    sequence := (UInt64.ofNat sequence).toInt64
    declared := UInt32.ofNat declared }

def message (src : List UInt8) : Reading Message := do
  let header ← header src
  let available ← difference src.length headerSize
  if header.declared.toNat > available then
    throw (.malformed .payload headerSize (headerSize + header.declared.toNat) src.length)
  else
    let payload ← range src headerSize src.length
    return { header with declared := UInt32.ofNat payload.length, payload := payload }

end Reading

end Tether.Wire
