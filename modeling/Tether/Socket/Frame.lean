import Tether.Socket.ReadLoop
import Tether.Text.Utf8
import Tether.Wire.Word

/-! The frames of a socket connection as bytes, and how a client reads them: headers first, then
whole frames, then messages that may have come in fragments. -/

namespace Tether.Socket

structure Frame where
  final : Bool
  /-- Some of the three reserved bits are set. -/
  reserved : Bool
  opcode : Nat
  masked : Bool
  payload : List UInt8
  deriving DecidableEq, Repr

namespace Frame

def ofText (bytes : List UInt8) : Frame := ⟨true, false, 1, false, bytes⟩

def ofBinary (bytes : List UInt8) : Frame := ⟨true, false, 2, false, bytes⟩

def ofPing (bytes : List UInt8) : Frame := ⟨true, false, 9, false, bytes⟩

def ofPong (bytes : List UInt8) : Frame := ⟨true, false, 10, false, bytes⟩

/-- A close frame, with a code and a reason if there is a code. -/
def ofClose (code : Option Nat) (reason : String) : Frame :=
  ⟨true, false, 8, false, match code with
    | none => []
    | some code => (Wire.Word.littleEndian 2 code).reverse ++ Text.Utf8.encode reason⟩

/-- The length in the second byte, and the bytes of a longer length behind it. -/
def lengthBytes (n : Nat) : UInt8 × List UInt8 :=
  if n < 126 then (UInt8.ofNat n, [])
  else if n < 65536 then (126, (Wire.Word.littleEndian 2 n).reverse)
  else (127, (Wire.Word.littleEndian 8 n).reverse)

/-- The bytes of a frame that is not masked. -/
def encode (f : Frame) : List UInt8 :=
  let first := (if f.final then 128 else 0) + f.opcode
  let (second, more) := lengthBytes f.payload.length
  UInt8.ofNat first :: second :: more ++ f.payload

/-- What a client cannot accept. -/
inductive Flaw where
  | opcode (n : Nat)
  | reservedBits
  | masked
  | fragmentedControl
  | controlSize
  | nothingToContinue
  | fragmentExpected (text : Bool)
  | closePayload
  | utf8
  /-- The connection went away without a close frame. -/
  | reset
  deriving DecidableEq, Repr

def Flaw.message : Flaw → String
  | .utf8 => "UTF-8 encoding error"
  | .opcode n => rule ("Encountered invalid opcode: " ++ toString n)
  | .reservedBits => rule "Reserved bits are non-zero"
  | .masked => rule "Received a masked frame from server"
  | .fragmentedControl => rule "Fragmented control frame"
  | .controlSize => rule "Control frame too big (payload must be 125 bytes or less)"
  | .nothingToContinue => rule "Continue frame but nothing to continue"
  | .fragmentExpected text =>
    rule ("While waiting for more fragments received: " ++ if text then "TEXT" else "BINARY")
  | .closePayload => rule "Invalid close sequence"
  | .reset => rule "Connection reset without closing handshake"
where
  rule (s : String) : String := "WebSocket protocol error: " ++ s

/-- Applies a mask of four bytes. -/
def unmask (mask payload : List UInt8) : List UInt8 :=
  if mask = [] then payload
  else payload.zipIdx.map fun (b, i) => b ^^^ mask.getD (i % 4) 0

/-- The frame at the front, once all of it is there. A bad opcode is found with the header. -/
def next? (bs : List UInt8) : Option (Except Flaw (Frame × List UInt8)) :=
  match bs with
  | first :: second :: rest =>
    let short := second.toNat % 128
    let width := if short = 126 then 2 else if short = 127 then 8 else 0
    let maskWidth := if second.toNat ≥ 128 then 4 else 0
    if rest.length < width + maskWidth then none
    else
      let size := if width = 0 then short else Wire.Word.ofBigEndian (rest.take width)
      let mask := (rest.drop width).take maskWidth
      let body := rest.drop (width + maskWidth)
      let opcode := first.toNat % 16
      if opcode ∉ [0, 1, 2, 8, 9, 10] then some (.error (.opcode opcode))
      else if body.length < size then none
      else some (.ok ({
        final := first.toNat ≥ 128
        reserved := first.toNat / 16 % 8 ≠ 0
        opcode := opcode
        masked := maskWidth ≠ 0
        payload := unmask mask (body.take size) }, body.drop size))
  | _ => none

end Frame

/-- Why a peer closes. -/
structure CloseReason where
  code : Nat
  text : String
  deriving DecidableEq, Repr

namespace CloseReason

/-- Codes that a peer may send. -/
def isAllowed (code : Nat) : Bool :=
  [1000, 1001, 1002, 1003, 1007, 1008, 1009, 1010, 1011, 1012, 1013].contains code
    || (3000 ≤ code && code < 5000)

def codeName (code : Nat) : String :=
  match code with
  | 1000 => "Normal"
  | 1001 => "Away"
  | 1002 => "Protocol"
  | 1003 => "Unsupported"
  | 1007 => "Invalid"
  | 1008 => "Policy"
  | 1009 => "Size"
  | 1010 => "Extension"
  | 1011 => "Error"
  | 1012 => "Restart"
  | 1013 => "Again"
  | _ => (if code < 4000 then "Iana(" else "Library(") ++ toString code ++ ")"

/-- A reason in quotes. -/
def escapeChar (c : Char) : List Char :=
  if c = '"' ∨ c = '\\' then ['\\', c]
  else if c = '\n' then ['\\', 'n']
  else if c = '\r' then ['\\', 'r']
  else if c = '\t' then ['\\', 't']
  else if c.val = 0 then ['\\', '0']
  else if c.val < 0x20 ∨ c.val = 0x7F then
    ['\\', 'u', '\x7b'] ++ Nat.toDigits 16 c.toNat ++ ['\x7d']
  else [c]

/-- The reason that counts: one under a code that is not allowed is a violation itself. -/
def effective (r : CloseReason) : CloseReason :=
  if isAllowed r.code then r else ⟨1002, "Protocol violation"⟩

def describe : Option CloseReason → String
  | none => "None"
  | some r =>
    "Some(CloseFrame \x7b code: " ++ codeName r.code ++ ", reason: \"" ++
      String.ofList (r.text.toList.flatMap escapeChar) ++ "\" \x7d)"

/-- The reason in a close frame. -/
def ofPayload (payload : List UInt8) : Except Frame.Flaw (Option CloseReason) :=
  match payload with
  | [] => .ok none
  | [_] => .error .closePayload
  | a :: b :: text =>
    match Text.Utf8.decode? text with
    | none => .error .utf8
    | some text => .ok (some (effective ⟨a.toNat * 256 + b.toNat, text⟩))

end CloseReason

/-- The bytes that come in on a connection, and how far they have been read. -/
structure Inflow where
  bytes : List UInt8
  /-- Nothing comes after the bytes. -/
  finished : Bool
  /-- The fragments of a message so far, and whether it is text. -/
  fragments : Option (Bool × List UInt8)
  /-- The peer has sent a close frame. -/
  closing : Bool
  /-- No read gives anything any more. -/
  spent : Bool
  deriving DecidableEq, Repr

namespace Inflow

def start : Inflow := ⟨[], false, none, false, false⟩

/-- Whether text that goes on may begin like this. -/
def mayGoOn (bs : List UInt8) : Bool :=
  (List.range 4).any fun k =>
    let tail := bs.drop (bs.length - k)
    (Text.Utf8.decode? (bs.take (bs.length - k))).isSome
      && (tail = [] || (Text.Utf8.brokenLength tail = tail.length
        && tail.length < Text.Utf8.leadLength (tail.headD 0)))

/-- A message that is complete, or has to go on. -/
def message (i : Inflow) (text final : Bool) (bytes : List UInt8) :
    Except Frame.Flaw (Option ReadResult × Inflow) :=
  if final then
    if text ∧ (Text.Utf8.decode? bytes).isNone then .error .utf8
    else .ok (some (if text then .text bytes else .binary bytes), { i with fragments := none })
  else if text ∧ ¬ mayGoOn bytes then .error .utf8
  else .ok (none, { i with fragments := some (text, bytes) })

/-- What a whole frame comes to. -/
def accept (i : Inflow) (f : Frame) : Except Frame.Flaw (Option ReadResult × Inflow) :=
  if f.reserved then .error .reservedBits
  else if f.masked then .error .masked
  else if f.opcode ≥ 8 then
    if ¬ f.final then .error .fragmentedControl
    else if f.payload.length > 125 then .error .controlSize
    else if f.opcode = 8 then
      match CloseReason.ofPayload f.payload with
      | .error e => .error e
      | .ok reason =>
        .ok (some (.closed (CloseReason.describe reason)), { i with closing := true })
    else .ok (some .control, i)
  else
    match f.opcode, i.fragments with
    | 0, none => .error .nothingToContinue
    | 0, some (text, bytes) => i.message text f.final (bytes ++ f.payload)
    | opcode, some _ => .error (.fragmentExpected (opcode = 1))
    | opcode, none => i.message (opcode = 1) f.final f.payload

/-- One read: what it gives, if there is something to read, and the payload of a ping that has
to be answered. After a failure nothing is read any more. -/
def read? (i : Inflow) : Option (Option ReadResult × Option (List UInt8) × Inflow) :=
  if i.spent then some (some .ended, none, i)
  else if i.closing then
    if i.finished then some (some .ended, none, { i with spent := true }) else none
  else
    match Frame.next? i.bytes with
    | some (.error flaw) => some (some (.failed flaw.message), none, { i with spent := true })
    | some (.ok (f, rest)) =>
      match { i with bytes := rest }.accept f with
      | .error flaw => some (some (.failed flaw.message), none, { i with spent := true })
      | .ok (result, i) =>
        some (result, if f.opcode = 9 then some f.payload else none, i)
    | none =>
      if i.finished then
        some (some (.failed Frame.Flaw.reset.message), none, { i with spent := true })
      else none

end Inflow

end Tether.Socket
