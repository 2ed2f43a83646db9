import Tether.Provider
import Tether.Socket.Channel
import Tether.Socket.Frame
import Tether.Socket.Handshake

/-! A socket channel and a peer that serves it. The peer takes connections, sends and closes;
after each of its moves the read loop runs until it waits for more. -/

namespace Tether.Socket

/-- A frame as the peer gets it. -/
inductive Received where
  | ping (bytes : List UInt8)
  | pong (bytes : List UInt8)
  | binary (bytes : List UInt8)
  | close (code : Option Nat)
  /-- The connection has ended. -/
  | gone
  deriving DecidableEq, Repr

/-- What keepalive pings hold. -/
def keepalive : List UInt8 := Text.Utf8.encode "keepalive"

structure Timeline where
  config : Config
  headers : Option (Provider Headers)
  /-- Whether the peer takes connections. -/
  listening : Bool
  channel : Channel
  inflow : Inflow
  loop : ReadLoop
  /-- Events that the owner has not taken, the oldest first. -/
  events : List Inbound
  /-- Payloads of pings that were answered, the last first. -/
  pongs : List (List UInt8)

namespace Timeline

def start (config : Config) (headers : Option (Provider Headers)) (listening : Bool) : Timeline where
  config := config
  headers := headers
  listening := listening
  channel := .closed
  inflow := .start
  loop := { ReadLoop.start config.readErrorLimit with shutdown := true, phase := .ended }
  events := []
  pongs := []

/-- The extra headers of a handshake, which are asked for anew each time. -/
def extra (t : Timeline) : Headers × Timeline :=
  match t.headers with
  | none => ([], t)
  | some p =>
    let (found, p) := p.resolve
    (found.getD [], { t with headers := some p })

/-- Opens the channel. The request reaches the peer if the peer listens. -/
def openChannel (t : Timeline) : Option Request × Timeline :=
  let (extra, t) := t.extra
  let reached := t.listening && Transport.ofUrl? t.config.url = some .plain
  let (_, channel, written) :=
    t.channel.step t.config (.opens extra "" (if reached then .ok () else .error ""))
  match written with
  | .handshake _ request :: _ =>
    (some request, { t with
      channel := channel
      inflow := .start
      loop := .start t.config.readErrorLimit })
  | _ => (none, { t with channel := channel })

/-- Lets the read loop run, for at most `fuel` reads. -/
def runFor : Nat → Timeline → Timeline
  | 0, t => t
  | fuel + 1, t =>
    if t.loop.phase ≠ .waiting then t
    else
      match t.inflow.read? with
      | none => t
      | some (result, pong, inflow) =>
        let (loop, passed) := match result with
          | some r => t.loop.turn r
          | none => (t.loop, [])
        runFor fuel { t with
          inflow := inflow
          loop := loop
          events := t.events ++ passed
          pongs := pong.toList ++ t.pongs }

/-- Lets the read loop run until it waits: one read for each two bytes at most, and at the end
as many as it takes to give up. -/
def settle (t : Timeline) : Timeline :=
  runFor (t.inflow.bytes.length + t.loop.limit + 2) t

/-- The peer sends bytes. -/
def peerBytes (t : Timeline) (bytes : List UInt8) : Timeline :=
  if t.channel.active then
    { t with inflow := { t.inflow with bytes := t.inflow.bytes ++ bytes } }.settle
  else t

/-- The peer sends a frame; its answer, if it is a ping, comes back. -/
def peerFrame (t : Timeline) (f : Frame) : Option (List UInt8) × Timeline :=
  let t := { t with pongs := [] }.peerBytes f.encode
  (t.pongs.head?, t)

/-- The peer goes away. -/
def peerGone (t : Timeline) : Timeline :=
  { t with inflow := { t.inflow with finished := true } }.settle

/-- The peer closes with a handshake. -/
def peerClose (t : Timeline) (code : Option Nat) (reason : String) : Timeline :=
  (t.peerBytes (Frame.ofClose code reason).encode).peerGone

/-- What a write to the connection gives. After the peer's close frame nothing is written; how
that is put depends on whether the read loop went on to the end. -/
def writeAnswer (t : Timeline) : Except String Unit :=
  if t.inflow.spent ∧ t.inflow.finished then .error "Trying to work with closed connection"
  else if t.inflow.closing then
    .error "WebSocket protocol error: Sending after closing is not allowed"
  else .ok ()

/-- Sends data, and what the peer gets. -/
def send (t : Timeline) (data : List UInt8) :
    Except ChannelFault Unit × Option Received × Timeline :=
  let (answer, channel, written) := t.channel.step t.config (.sends data t.writeAnswer)
  let received := match written, answer with
    | [.data _ bytes], .ok () => some (Received.binary bytes)
    | _, _ => none
  (answer, received, { t with channel := channel })

/-- Closes the channel, and what the peer gets. -/
def close (t : Timeline) : Except ChannelFault Unit × Received × Timeline :=
  let (answer, channel, written) := t.channel.step t.config (.closes .done)
  let alive := t.writeAnswer.isOk
  (answer, if written ≠ [] ∧ alive then .close none else .gone,
    { t with channel := channel, loop := (t.loop.step .shutdown).1 })

/-- The owner takes events. -/
def takeEvents (t : Timeline) (n : Nat) : List Inbound × Timeline :=
  (t.events.take n, { t with events := t.events.drop n })

end Timeline

end Tether.Socket
