import Tether.Session.Basic

/-! A session with a scripted transport on a virtual clock of milliseconds. Whatever can
happen at the current time happens before the clock moves; timers due at one time go off in
the order in which they were set. -/

namespace Tether.Session

/-- A transport that does as it is told. -/
structure Transport where
  active : Bool
  opens : Nat
  closes : Nat
  /-- Refuses this many openings. -/
  refuseOpens : Nat
  failSends : Bool
  failClose : Bool
  deriving DecidableEq, Repr

namespace Transport

def idle : Transport := ⟨false, 0, 0, 0, false, false⟩

/-- An opening, and its answer. -/
def dial (t : Transport) : Except ChannelFault Unit × Transport :=
  let t := { t with opens := t.opens + 1 }
  if 0 < t.refuseOpens then
    (.error (.connect "ws://mock" "refused"), { t with refuseOpens := t.refuseOpens - 1 })
  else (.ok (), { t with active := true })

/-- A closing, and its answer. It closes even if it says that it failed. -/
def hangUp (t : Transport) : Except ChannelFault Unit × Transport :=
  (if t.failClose then .error (.close "mock") else .ok (),
    { t with closes := t.closes + 1, active := false })

/-- Whether a frame goes through. -/
def accepts (t : Transport) : Bool := t.active && !t.failSends

end Transport

/-- When a timer goes off, and its place among all timers set so far. -/
structure Timer where
  due : Nat
  order : Nat
  deriving DecidableEq, Repr

def Timer.before (a b : Timer) : Bool := a.due < b.due || (a.due = b.due && a.order < b.order)

structure Timeline where
  config : Config
  session : Session
  transport : Transport
  /-- Milliseconds since the start. -/
  now : Nat
  /-- Timers set so far. -/
  timers : Nat
  /-- The next second of silence. -/
  second : Option Timer
  /-- The end of a pause. -/
  pause : Option Timer
  /-- The transport's last answer to the dispatcher. -/
  answer : Option Bool
  /-- Messages passed to the plugin, the last first. -/
  delivered : List Wire.Message
  /-- Frames that the transport accepted, the last first. -/
  sent : List (List UInt8)

namespace Timeline

def start (config : Config) : Timeline where
  config := config
  session := .start
  transport := .idle
  now := 0
  timers := 0
  second := none
  pause := none
  answer := none
  delivered := []
  sent := []

/-- A timer that goes off at a time. -/
def setTimer (t : Timeline) (due : Nat) : Timer × Timeline :=
  (⟨due, t.timers⟩, { t with timers := t.timers + 1 })

/-- Carries out one effect of the session. -/
def perform (t : Timeline) : Effect → Timeline
  | .transmit frame => if t.transport.accepts then { t with sent := frame :: t.sent } else t
  | .deliver m => { t with delivered := m :: t.delivered }
  | .hangUp =>
    let (result, transport) := t.transport.hangUp
    { t with transport := transport, answer := some result.isOk }
  | .dial =>
    let (result, transport) := t.transport.dial
    { t with transport := transport, answer := some result.isOk }
  | .pause length =>
    let (timer, t) := t.setTimer (length.endMillis t.now)
    { t with pause := some timer }

/-- Lets the session make a step and carries out what it does. -/
def feed (t : Timeline) (e : Event) : Timeline :=
  let (session, effects) := step t.config t.session e
  effects.foldl perform { t with session := session }

/-- Whether a timer has gone off. -/
def isDue (t : Timeline) (timer : Option Timer) : Bool :=
  timer.any (·.due ≤ t.now)

/-- What the dispatcher does next at the current time. A recovery first looks whether it is to go
on. -/
def next? (t : Timeline) : Option Event :=
  if t.session.isOver && t.session.dispatcher.isRecovering then some .noticed
  else match t.session.dispatcher with
  | .handling => some (.handled true)
  | .hangingUp _ => t.answer.map .hungUp
  | .redialing _ => t.answer.map .redialed
  | .pausing _ => if t.isDue t.pause then some .woken else none
  | .ready => if t.session.queue = [] then none else some (.taken false)
  | _ => none

/-- Lets the dispatcher go on until it has to wait, for at most `fuel` steps. -/
def settleFor : Nat → Timeline → Timeline
  | 0, t => t
  | fuel + 1, t =>
    match t.next? with
    | none => t
    | some e => settleFor fuel (t.feed e)

/-- Lets the dispatcher go on until it has to wait. An event takes three steps at most, and every
refused opening three more. -/
def settle (t : Timeline) : Timeline :=
  let t := settleFor (3 * (t.session.queue.length + t.transport.refuseOpens + 2)) t
  match t.session.watchdog, t.second with
  | .running, none =>
    let (timer, t) := t.setTimer (t.now + 1000)
    { t with second := some timer }
  | _, _ => t

/-- Passes a second of silence on to the session and waits for the next. -/
def fireSecond (t : Timeline) : Timeline :=
  let t := t.feed .ticked
  let (timer, t) := t.setTimer (t.now + 1000)
  { t with second := some timer }.settle

/-- The timers that someone waits for. -/
def pending (t : Timeline) : Option Timer × Option Timer :=
  (match t.session.watchdog with
    | .running => t.second
    | _ => none,
   match t.session.dispatcher with
    | .pausing _ => t.pause
    | _ => none)

/-- Moves the clock, letting timers go off on the way; `fuel` bounds their number. -/
def advanceTo (target : Nat) : Nat → Timeline → Timeline
  | 0, t => { t with now := target }
  | fuel + 1, t =>
    match t.pending with
    | (some second, some pause) =>
      if second.before pause then fire fuel t second fireSecond else fire fuel t pause settle
    | (some second, none) => fire fuel t second fireSecond
    | (none, some pause) => fire fuel t pause settle
    | (none, none) => { t with now := target }
where
  /-- Goes on to a timer if it is due by then. -/
  fire (fuel : Nat) (t : Timeline) (timer : Timer) (act : Timeline → Timeline) : Timeline :=
    if timer.due ≤ target then
      advanceTo target fuel (act { t with now := max t.now timer.due })
    else { t with now := target }

/-- Sleeps for some milliseconds. Each of them sees at most two timers. -/
def sleep (t : Timeline) (ms : Nat) : Timeline :=
  advanceTo (t.now + ms) (2 * ms + 4) t

/-- Sends data and lets the frame reach the transport. -/
def send (t : Timeline) (data : List UInt8) (created : UInt64) :
    Except ChannelFault Unit × Timeline :=
  let (result, session, effects) := Session.send t.config t.session data created
  (result, effects.foldl perform { t with session := session })

/-- A caller opens the transport. -/
def openTransport (t : Timeline) : Except ChannelFault Unit × Timeline :=
  let (result, transport) := t.transport.dial
  let session := (step t.config t.session (.opened result.isOk)).1
  (result, { t with transport := transport, session := session }.settle)

/-- A caller closes the session. -/
def close (t : Timeline) : Except ChannelFault Unit × Timeline :=
  let (result, transport) := t.transport.hangUp
  let session := (step t.config t.session .closed).1
  (result, { t with transport := transport, session := session }.settle)

/-- A caller closes and opens the transport. -/
def reconnect (t : Timeline) : Except ChannelFault Unit × Timeline :=
  let (result, transport) := t.transport.hangUp.2.dial
  let session := (step t.config t.session (.reconnected result.isOk)).1
  (result, { t with transport := transport, session := session }.settle)

/-- The owner lets go of the session. -/
def release (t : Timeline) : Timeline := (t.feed .released).settle

/-- What becomes of an event that the transport reports. -/
inductive Arrival where
  | queued
  | full
  | gone
  deriving DecidableEq, Repr

/-- The transport reports an event; the dispatcher does not run yet. -/
def report (t : Timeline) (e : Inbound) : Arrival × Timeline :=
  let arrival : Arrival :=
    if t.session.dispatcher = .ended then .gone
    else if t.config.capacity ≤ t.session.queue.length then .full
    else .queued
  (arrival, t.feed (.arrived e))

/-- Someone sets the cancel flag. -/
def cancel (t : Timeline) (next : CancelState) : Bool × Timeline :=
  ((cancelWith t.session next).1, (t.feed (.cancelled next)).settle)

/-- Forgets what was delivered and sent so far. -/
def clear (t : Timeline) : Timeline := { t with delivered := [], sent := [] }

end Timeline

end Tether.Session
