import Tether.Wire.Header

/-! A frame: a header and the payload behind it. -/

namespace Tether.Wire

/-- Schema version that outbound frames carry unless the settings say otherwise. -/
def defaultSchema : String := "1.01"

structure Message extends Header where
  payload : List UInt8
  deriving DecidableEq, Repr

namespace Message

/-- A frame of local output. -/
def output (schema session : String) (sequence : Int64) (created : UInt64)
    (payload : List UInt8) : Message where
  kind := .output
  schema := schema
  session := session
  created := created
  sequence := sequence
  declared := UInt32.ofNat payload.length
  payload := payload

/-- The bytes of a frame. The declared length is taken from the payload, whatever the
message declares, and its bound is checked before the texts. -/
def encode (m : Message) : Except Fault (List UInt8) :=
  if m.payload.length > maxPayload then .error (.payloadTooLarge m.payload.length)
  else do
    let header ← { m.toHeader with declared := UInt32.ofNat m.payload.length : Header }.encode
    return header ++ m.payload

/-- Reads a frame. The declared payload has to be there; the payload is all that is there. -/
def decode (src : List UInt8) : Except Fault Message := do
  let header ← Header.decode src
  if header.declared.toNat > src.length - headerSize then
    .error (.malformed .payload headerSize (headerSize + header.declared.toNat) src.length)
  else
    let payload := src.drop headerSize
    return { header with declared := UInt32.ofNat payload.length, payload := payload }

/-- A frame has to say when it was made. -/
def validate (m : Message) : Except Fault Unit :=
  if m.created = 0 then .error .missingDate else .ok ()

end Message

end Tether.Wire
