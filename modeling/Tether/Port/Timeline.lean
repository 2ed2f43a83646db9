import Tether.Port.Forward

/-! A forwarded port with a local peer at the other end of its connections. The peer listens,
takes connections, writes, reads and closes; after each of its moves everything runs until
nothing more happens. All of it runs on one thread, so an aborted pump is gone at once. -/

namespace Tether.Port

open Wire

/-- A connection between the forwarded port and its peer. -/
structure Connection where
  /-- Bytes on their way to the peer. -/
  outbound : List UInt8
  /-- Bytes on their way to the forwarded port. -/
  inbound : List UInt8
  peerClosed : Bool
  /-- The peer has refused bytes that came after its end. -/
  reset : Bool
  deriving DecidableEq, Repr

namespace Connection

def fresh : Connection := ⟨[], [], false, false⟩

/-- The forwarded port writes. The first write after the peer's end still goes through. -/
def write (c : Connection) (bytes : List UInt8) : Except String Unit × Connection :=
  if bytes = [] then (.ok (), c)
  else if c.reset then (.error "Broken pipe (os error 32)", c)
  else if c.peerClosed then (.ok (), { c with reset := true })
  else (.ok (), { c with outbound := c.outbound ++ bytes })

/-- What a read gives, if there is something to read; no bytes are the end. -/
def read? (c : Connection) (packet : Nat) : Option (List UInt8 × Connection) :=
  if c.reset then some ([], c)
  else if c.inbound ≠ [] then
    some (c.inbound.take packet, { c with inbound := c.inbound.drop packet })
  else if c.peerClosed then some ([], c)
  else none

end Connection

structure Timeline where
  forward : Forward
  /-- Why a dial fails; nothing if the peer listens. -/
  refusal : Option String
  connections : List Connection
  /-- Connections that the peer has yet to take, the oldest first. -/
  backlog : List Nat
  /-- The connection that the peer uses. -/
  current : Option Nat
  active : Bool
  failSends : Bool
  panicSends : Bool
  /-- Data that the channel took, the last first. -/
  sent : List (List UInt8)
  /-- What became of the last frame. -/
  handled : Option (Except Causes Unit)
  /-- How the plugin last ended. -/
  result : Option (PluginResult PortExit)

namespace Timeline

def start (addr : String) (rate : SendRate) (refusal : Option String) (active : Bool) :
    Timeline where
  forward := .start addr rate
  refusal := refusal
  connections := []
  backlog := []
  current := none
  active := active
  failSends := false
  panicSends := false
  sent := []
  handled := none
  result := none

/-- What the channel makes of data. -/
def channelAnswer (t : Timeline) : SendAnswer :=
  if t.panicSends then .panicked "send exploded"
  else if t.failSends then .refused (.framing "refused")
  else .sent

/-- How the plugin ended, if it has. -/
def resultOf (f : Forward) : Option (PluginResult PortExit) :=
  match f.stage with
  | .returned r => some r
  | _ => none

/-- One event of the forwarded port. -/
def tell (t : Timeline) (e : Forward.Event) : Timeline :=
  let (f, effects) := t.forward.step e
  effects.foldl (fun t effect =>
    match effect with
    | .handled r => { t with handled := some r }
    | .sent bytes => if t.channelAnswer = .sent then { t with sent := bytes :: t.sent } else t
    | .dialing _ | .wrote .. | .dropped _ => t) { t with forward := f, result := (resultOf f).or t.result }

/-- A dial: the connection waits for the peer to take it. -/
def dial (t : Timeline) : Except String Unit × Timeline :=
  match t.refusal with
  | some reason => (.error reason, t)
  | none => (.ok (), { t with
      connections := t.connections ++ [.fresh]
      backlog := t.backlog ++ [t.connections.length] })

def connection (t : Timeline) (i : Nat) : Connection := t.connections.getD i .fresh

def setConnection (t : Timeline) (i : Nat) (c : Connection) : Timeline :=
  { t with connections := t.connections.set i c }

/-- A write to the connection that has a writing end. -/
def write (t : Timeline) (m : Message) : Except String Unit × Timeline :=
  match m.kind, t.forward.writer with
  | .input, some i =>
    let (answer, c) := (t.connection i).write m.payload
    (answer, t.setConnection i c)
  | _, _ => (.ok (), t)

/-- What the handler of frames does next, if anything. -/
def nextOfHandler (t : Timeline) : Option Timeline :=
  match t.forward.holder, t.forward.handling with
  | .handler _, _ =>
    let (answer, t) := t.dial
    some (t.tell (.redialed answer))
  | .nobody, some (_, .arrived) => some (t.tell .checked)
  | _, some (m, .passed) =>
    let (answer, t) := t.write m
    some (t.tell (.applied answer))
  | _, _ => none

/-- What the pump does next, if anything. -/
def nextOfPump (t : Timeline) : Option Timeline :=
  t.forward.pump.bind fun p =>
    match p.phase with
    | .looking => some (t.tell (.pump (.looked t.active)))
    | .dozing => if t.active then some (t.tell (.pump .woke)) else none
    | .reading =>
      ((t.connection p.connection).read? t.forward.flow.packet).map fun (bytes, c) =>
        (t.setConnection p.connection c).tell (.pump (.read bytes))
    | .lost => some (t.tell (.pump .parked))
    | .parked => t.forward.told?.map fun r => t.tell (.pump (.resumed r))
    | .sending _ => some (t.tell (.pump (.answered t.channelAnswer)))
    | .pausing => some (t.tell (.pump .woke))
    | .finished _ => none

/-- What the plugin does next, if anything. -/
def nextOfPlugin (t : Timeline) : Option Timeline :=
  match t.forward.stage with
  | .dialing =>
    let (answer, t) := t.dial
    some (t.tell (.dialed answer))
  | .running =>
    if t.forward.flag.isTerminal ∨ (t.forward.pump.bind Pump.ended?).isSome then
      some (t.tell (.looked true))
    else none
  | .ending _ =>
    if t.forward.pump.isSome then some (t.tell (.reaped false))
    else if t.forward.holder = .nobody then some (t.tell .unlinked)
    else none
  | .stopping _ => some (t.tell .stopped)
  | _ => none

/-- Lets everything run, for at most `fuel` events. -/
def runFor : Nat → Timeline → Timeline
  | 0, t => t
  | fuel + 1, t =>
    match t.nextOfPlugin.or (t.nextOfHandler.or t.nextOfPump) with
    | some t => runFor fuel t
    | none => t

/-- Events until nothing more happens: four for each read, and some for a new connection. -/
def settle (t : Timeline) : Timeline :=
  runFor (4 * t.connections.foldl (fun n c => n + c.inbound.length) 0 + 40) t

/-- The peer takes the oldest connection that waits for it. -/
def accept (t : Timeline) : Bool × Timeline :=
  match t.backlog with
  | [] => (false, t)
  | i :: rest => (true, { t with backlog := rest, current := some i })

/-- Starts the plugin under a new flag; the peer takes the first connection at once. -/
def execute (t : Timeline) (flag : CancelState) : Timeline :=
  (t.tell (.started flag)).settle.accept.2

/-- An inbound frame. -/
def frame (t : Timeline) (m : Message) : Except Causes Unit × Timeline :=
  let t := ({ t with handled := none }.tell (.arrived m)).settle
  (t.handled.getD (.ok ()), t)

/-- The peer writes. -/
def peerSend (t : Timeline) (bytes : List UInt8) : Timeline :=
  match t.current with
  | none => t
  | some i =>
    let c := t.connection i
    if c.peerClosed then t
    else (t.setConnection i { c with inbound := c.inbound ++ bytes }).settle

/-- The peer reads `n` bytes, or finds that fewer will come. -/
def peerReceive (t : Timeline) (n : Nat) : Option (List UInt8) × Timeline :=
  match t.current with
  | none => (none, t)
  | some i =>
    let c := t.connection i
    if c.peerClosed ∨ c.outbound.length < n then (none, t)
    else (some (c.outbound.take n), t.setConnection i { c with outbound := c.outbound.drop n })

/-- The peer closes its connection; bytes that it has not read reset it. -/
def peerClose (t : Timeline) : Timeline :=
  match t.current with
  | none => t
  | some i =>
    let c := t.connection i
    ({ t with current := none }.setConnection i
      { c with peerClosed := true, reset := c.outbound ≠ [] }).settle

/-- Nobody listens any more; dials fail for this reason. -/
def refuse (t : Timeline) (reason : String) : Timeline := { t with refusal := some reason }

/-- The channel changes. -/
def setChannel (t : Timeline) (active failSends panicSends : Bool) : Timeline :=
  { t with active := active, failSends := failSends, panicSends := panicSends }.settle

/-- Someone sets the cancel flag. -/
def cancel (t : Timeline) (next : CancelState) : Bool × Timeline :=
  ((t.forward.flag.set next).1, (t.tell (.cancelled next)).settle)

def running (t : Timeline) : Bool :=
  match t.forward.stage with
  | .unstarted | .returned _ => false
  | _ => true

/-- Forgets the sends so far. -/
def clear (t : Timeline) : Timeline := { t with sent := [] }

end Timeline

end Tether.Port
