import Tether.Json.Fault

/-! What can be wrong with a frame or with the payload of a control message.
A fault is a cause; `message` is its one wording. -/

namespace Tether.Wire

/-- The parts of a frame, in the order of their offsets. -/
inductive Field where
  | messageType
  | schemaVersion
  | sessionId
  | createdDate
  | sequenceNumber
  | payloadLength
  | payload
  deriving DecidableEq, Repr

def Field.name : Field → String
  | .messageType => "MessageType"
  | .schemaVersion => "SchemaVersion"
  | .sessionId => "SessionId"
  | .createdDate => "CreatedDate"
  | .sequenceNumber => "SequenceNumber"
  | .payloadLength => "PayloadLength"
  | .payload => "Payload"

/-- Largest payload that the length field can declare. -/
def maxPayload : Nat := UInt32.size - 1

/-- Why a frame or payload is refused. -/
inductive Fault where
  /-- A field would end beyond the bytes that are there. -/
  | malformed (field : Field) (offset stop available : Nat)
  /-- A text is wider than its slot; both counted in bytes. -/
  | tooLong (field : Field) (length max : Nat)
  /-- A payload of `size` bytes exceeds `maxPayload`. -/
  | payloadTooLarge (size : Nat)
  /-- The creation time is zero. -/
  | missingDate
  /-- A control payload means nothing. -/
  | invalidPayload (reason : String)
  /-- A control payload is not the JSON it should be. -/
  | json (cause : Json.Fault)
  deriving DecidableEq, Repr

/-- The kind of a cause, in one word. -/
def Fault.kind : Fault → String
  | .malformed .. => "MalformedFrame"
  | .tooLong .. => "FieldTooLong"
  | .payloadTooLarge _ => "PayloadTooLarge"
  | .missingDate => "MissingCreatedDate"
  | .invalidPayload _ => "InvalidPayload"
  | .json _ => "Json"

def Fault.message : Fault → String
  | .malformed field offset stop available =>
    "Malformed frame: " ++ field.name ++ " needs bytes " ++ toString offset ++ ".."
      ++ toString stop ++ ", frame has " ++ toString available
  | .tooLong field length max =>
    "Field " ++ field.name ++ " is " ++ toString length ++ " bytes, maximum is " ++ toString max
  | .payloadTooLarge size =>
    "Payload too large: " ++ toString size ++ " bytes exceeds maximum of "
      ++ toString maxPayload ++ " bytes"
  | .missingDate => "CreatedDate is missing"
  | .invalidPayload reason => "Invalid payload: " ++ reason
  | .json _ => "JSON payload error"

end Tether.Wire
