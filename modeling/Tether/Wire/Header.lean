import Tether.Text.Blank
import Tether.Text.Utf8
import Tether.Wire.Fault
import Tether.Wire.Kind
import Tether.Wire.Word

/-! The header in front of every payload: 60 bytes, whole numbers least significant byte
first, texts padded with spaces to the width of their slot. Reading takes NULs and then
white space off both ends of a text. -/

namespace Tether.Wire

open Text

/-- Number of bytes of a header slot; the payload has no fixed width. -/
def Field.width : Field → Nat
  | .messageType => 4
  | .schemaVersion => 4
  | .sessionId => 32
  | .createdDate => 8
  | .sequenceNumber => 8
  | .payloadLength => 4
  | .payload => 0

/-- Where a part of the frame begins: after all the parts before it. -/
def Field.offset : Field → Nat
  | .messageType => 0
  | .schemaVersion => 4
  | .sessionId => 8
  | .createdDate => 40
  | .sequenceNumber => 48
  | .payloadLength => 56
  | .payload => 60

/-- Number of bytes of a header. -/
def headerSize : Nat := 60

structure Header where
  kind : Kind
  schema : String
  session : String
  /-- Milliseconds since 1970; zero means "missing". -/
  created : UInt64
  sequence : Int64
  /-- Payload length as declared. -/
  declared : UInt32
  deriving DecidableEq, Repr

/-- Refuses a text that is wider than its slot. -/
def checkWidth (field : Field) (s : String) : Except Fault Unit :=
  if Utf8.width s > field.width then .error (.tooLong field (Utf8.width s) field.width)
  else .ok ()

/-- The bytes of a text, filled up with spaces to its slot. -/
def padded (field : Field) (s : String) : List UInt8 :=
  Utf8.encode s ++ List.replicate (field.width - Utf8.width s) 0x20

/-- The text in a slot. -/
def slotText (raw : List UInt8) : String :=
  trimBlank (Utf8.decodeLossy (trimBoth (· == 0) raw))

/-- The bytes of a slot, or the fault that names it. -/
def slot (src : List UInt8) (field : Field) : Except Fault (List UInt8) :=
  if field.offset + field.width ≤ src.length then
    .ok ((src.drop field.offset).take field.width)
  else .error (.malformed field field.offset (field.offset + field.width) src.length)

namespace Header

/-- The bytes of a header whose texts fit. -/
def bytes (h : Header) : List UInt8 :=
  Word.littleEndian Field.messageType.width h.kind.code.toNat
    ++ padded .schemaVersion h.schema
    ++ padded .sessionId h.session
    ++ Word.littleEndian Field.createdDate.width h.created.toNat
    ++ Word.littleEndian Field.sequenceNumber.width h.sequence.toUInt64.toNat
    ++ Word.littleEndian Field.payloadLength.width h.declared.toNat

/-- The 60 bytes of a header; the schema version is checked before the session id. -/
def encode (h : Header) : Except Fault (List UInt8) := do
  checkWidth .schemaVersion h.schema
  checkWidth .sessionId h.session
  return h.bytes

/-- Appends a header to a buffer. On a fault the buffer stays as it is. -/
def appendTo (h : Header) (buffer : List UInt8) : Except Fault Unit × List UInt8 :=
  match h.encode with
  | .ok bs => (.ok (), buffer ++ bs)
  | .error e => (.error e, buffer)

/-- Reads a header from the front of `src`, slot by slot. -/
def decode (src : List UInt8) : Except Fault Header := do
  let kind ← slot src .messageType
  let schema ← slot src .schemaVersion
  let session ← slot src .sessionId
  let created ← slot src .createdDate
  let sequence ← slot src .sequenceNumber
  let declared ← slot src .payloadLength
  return {
    kind := Kind.ofCode (UInt32.ofNat (Word.ofLittleEndian kind))
    schema := slotText schema
    session := slotText session
    created := UInt64.ofNat (Word.ofLittleEndian created)
    sequence := (UInt64.ofNat (Word.ofLittleEndian sequence)).toInt64
    declared := UInt32.ofNat (Word.ofLittleEndian declared) }

end Header

end Tether.Wire
