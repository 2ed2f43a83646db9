import Tether.Cancel
import Tether.Fault
import Tether.Retry
import Tether.Wire.Message

/-! The channel of one session. It numbers and frames outbound data, routes inbound frames to
the plugin, re-establishes a lost transport, and cancels a session that has gone quiet.

A session is a state and total steps between its await points: what a caller asks for, what the
transport and the plugin answer, what arrives, and what the clock brings. Anything that can happen
in between is another step, so an interleaving is a list of steps. A recovery that waits when the
session ends sees that in a step of its own; what else it waits for may come first, and then it goes
on until it would pause. -/

namespace Tether

/-- What a transport reports. -/
inductive Inbound where
  | frame (bytes : List UInt8)
  /-- The connection is lost. -/
  | lost (cause : ChannelFault)
  deriving DecidableEq, Repr

namespace Session

/-- What a session is set up with. -/
structure Config where
  /-- Channel id, stamped on every outbound frame. -/
  id : String
  /-- Schema version, stamped on every outbound frame. -/
  schema : String
  /-- Seconds of silence that are tolerated. -/
  idleLimit : Nat
  /-- How a lost transport is re-established. -/
  retry : Retry.Plan
  /-- Number of inbound events that may wait. -/
  capacity : Nat

/-- The task that takes inbound events one by one. -/
inductive Dispatcher where
  /-- The transport has not been open yet. -/
  | waiting
  /-- Takes the next event. -/
  | ready
  /-- The plugin handles a message. -/
  | handling
  /-- Closes the transport and awaits its answer. -/
  | hangingUp (progress : Retry.Progress)
  /-- Opens the transport and awaits its answer. -/
  | redialing (progress : Retry.Progress)
  /-- Pauses before the next try. -/
  | pausing (progress : Retry.Progress)
  | ended
  deriving DecidableEq, Repr

/-- Whether a lost transport is being re-established. -/
def Dispatcher.isRecovering : Dispatcher → Bool
  | .hangingUp _ | .redialing _ | .pausing _ => true
  | _ => false

/-- The task that counts seconds of silence. -/
inductive Watchdog where
  | waiting
  | running
  | ended
  deriving DecidableEq, Repr

end Session

structure Session where
  /-- Number of the next outbound frame. -/
  sequence : Int64
  /-- Seconds since the last valid inbound frame. -/
  idle : Nat
  cancel : CancelState
  /-- The session was closed, or given up by its owner. -/
  shutdown : Bool
  /-- The owner has let go; a dispatcher at work still holds on. -/
  released : Bool
  dispatcher : Session.Dispatcher
  watchdog : Session.Watchdog
  /-- Inbound events not yet taken. -/
  queue : List Inbound
  deriving DecidableEq, Repr

namespace Session

/-- A session before its transport was first opened. -/
def start : Session where
  sequence := 0
  idle := 0
  cancel := .running
  shutdown := false
  released := false
  dispatcher := .waiting
  watchdog := .waiting
  queue := []

/-- What a session does to the world around it by itself. What a caller does to the transport
through the session is told by the step of that caller. -/
inductive Effect where
  /-- Hands a frame to the transport. -/
  | transmit (frame : List UInt8)
  /-- Passes a message to the plugin. -/
  | deliver (m : Wire.Message)
  /-- Closes the transport; how that ends does not matter. -/
  | hangUp
  /-- Opens the transport. -/
  | dial
  /-- Sleeps before the next try. -/
  | pause (length : Duration)
  deriving DecidableEq, Repr

/-! ### Outbound data -/

/-- The frame for outbound data under the next number. -/
def frameOf (c : Config) (s : Session) (data : List UInt8) (created : UInt64) :
    Except Wire.Fault (List UInt8) :=
  (Wire.Message.output c.schema c.id s.sequence created data).encode

/-- Uses up a number. -/
def advance (s : Session) : Session := { s with sequence := s.sequence + 1 }

/-- Sends data. Empty data is nothing to send. Data that cannot be framed takes no number;
data that can takes one, whether or not the transport accepts the frame. -/
def send (c : Config) (s : Session) (data : List UInt8) (created : UInt64) :
    Except ChannelFault Unit × Session × List Effect :=
  if data = [] then (.ok (), s, [])
  else match frameOf c s data created with
    | .error e => (.error (.framing e.message), s, [])
    | .ok frame => (.ok (), s.advance, [.transmit frame])

/-! ### Inbound frames -/

/-- The message of an inbound frame that is well-formed and dated. -/
def valid? (bytes : List UInt8) : Option Wire.Message :=
  match Wire.Message.decode bytes with
  | .error _ => none
  | .ok m =>
    match m.validate with
    | .error _ => none
    | .ok () => some m

/-- The message that an inbound frame brings to the plugin. -/
def routed? (bytes : List UInt8) : Option Wire.Message :=
  (valid? bytes).filter fun m => m.kind.isRouted

/-! ### Ends -/

/-- Ends the watchdog if it runs. -/
def stopWatchdog (s : Session) : Session :=
  { s with watchdog := match s.watchdog with
    | .running => .ended
    | w => w }

/-- Ends both tasks, but lets the plugin finish what it handles, and a recovery look up from what it
does. Events that were not taken are gone with the dispatcher. -/
def shutDown (s : Session) : Session :=
  stopWatchdog { s with
    shutdown := true
    dispatcher := match s.dispatcher with
      | .ready => .ended
      | d => d
    queue := match s.dispatcher with
      | .ready => []
      | _ => s.queue }

/-- Goes back to the queue, unless the session was closed or let go meanwhile. -/
def resume (s : Session) : Session :=
  let s := { s with dispatcher := .ready }
  if s.shutdown || s.released then shutDown s else s

/-- Tells the session how it ends, and says whether that was news. An end stops the watchdog. -/
def cancelWith (s : Session) (next : CancelState) : Bool × Session :=
  let (moved, state) := s.cancel.set next
  let s := { s with cancel := state }
  (moved, if state.isTerminal then stopWatchdog s else s)

/-! ### Steps -/

/-- What happens to a session, other than sending. -/
inductive Event where
  /-- A caller opened the transport, and it answered. -/
  | opened (ok : Bool)
  /-- A caller closed and opened the transport, and the opening was answered. -/
  | reconnected (ok : Bool)
  /-- A caller closed the session and its transport. -/
  | closed
  /-- The owner let go of the session. -/
  | released
  /-- The transport reported something. -/
  | arrived (e : Inbound)
  /-- The dispatcher takes the next event. If that is a loss and the session is over, either of
  the two may be seen first. -/
  | taken (endFirst : Bool)
  /-- The plugin is done with a message, or has rejected it. -/
  | handled (ok : Bool)
  /-- The transport answered the closing before a redial. -/
  | hungUp (ok : Bool)
  /-- The transport answered a redial. -/
  | redialed (ok : Bool)
  /-- A pause between two redials is over. -/
  | woken
  /-- A recovery sees that the session is over. -/
  | noticed
  /-- A second has passed. -/
  | ticked
  /-- Someone set the cancel flag. -/
  | cancelled (next : CancelState)
  deriving DecidableEq, Repr

/-- The first successful opening starts both tasks; they end at once if the session is over. -/
def opened (s : Session) : Session :=
  match s.dispatcher with
  | .waiting =>
    if s.shutdown then { s with dispatcher := .ended, watchdog := .ended, queue := [] }
    else { s with
      dispatcher := .ready
      watchdog := if s.cancel.isTerminal then .ended else .running }
  | _ => s

/-- The owner lets go. A dispatcher at work finishes that first. -/
def release (s : Session) : Session :=
  let s := { s with released := true }
  if s.dispatcher = .handling || s.dispatcher.isRecovering then s
  else { shutDown s with dispatcher := .ended, queue := [] }

/-- Whether an event that the transport reports is taken in. -/
def hasRoom (c : Config) (s : Session) : Bool :=
  s.dispatcher ≠ .ended && s.queue.length < c.capacity

/-- Takes in an event if there is room. -/
def arrive (c : Config) (s : Session) (e : Inbound) : Session :=
  if hasRoom c s then { s with queue := s.queue ++ [e] } else s

/-- Handles one event. A valid frame ends the silence, and is delivered if it is of a kind
for the plugin; a lost transport starts a recovery. -/
def handle (s : Session) (endFirst : Bool) : Inbound → Session × List Effect
  | .frame bytes =>
    match valid? bytes with
    | none => (s, [])
    | some m =>
      if m.kind.isRouted then ({ s with idle := 0, dispatcher := .handling }, [.deliver m])
      else ({ s with idle := 0 }, [])
  | .lost _ =>
    if endFirst && s.cancel.isTerminal then (s, [])
    else ({ s with dispatcher := .hangingUp .start }, [.hangUp])

/-- Takes the next event, if the dispatcher is free for it. -/
def take (s : Session) (endFirst : Bool) : Session × List Effect :=
  match s.dispatcher, s.queue with
  | .ready, e :: queue => handle { s with queue := queue } endFirst e
  | _, _ => (s, [])

/-- Goes on after a message, whatever the plugin made of it. -/
def handled (s : Session) : Session :=
  match s.dispatcher with
  | .handling => resume s
  | _ => s

/-- Opens the transport once it is closed, or has failed to close. -/
def hungUp (s : Session) : Session × List Effect :=
  match s.dispatcher with
  | .hangingUp p => ({ s with dispatcher := .redialing p }, [.dial])
  | _ => (s, [])

/-- Whether a recovery has reason to stop: the session is over or was closed. -/
def isOver (s : Session) : Bool := s.cancel.isTerminal || s.shutdown

/-- Goes on after the answer to a redial: back to the queue, to a pause, or to the end of the
session. Whoever is about to pause looks up, and does not pause when there is reason to stop. -/
def redialed (c : Config) (s : Session) (ok : Bool) : Session × List Effect :=
  match s.dispatcher with
  | .redialing p =>
    if ok then (resume s, [])
    else match Retry.afterFailure c.retry p with
      | .giveUp => ((cancelWith (resume s) .canceled).2, [])
      | .pause length p =>
        if s.isOver then (resume s, [])
        else ({ s with dispatcher := .pausing p }, [.pause length])
  | _ => (s, [])

/-- Tries again after a pause. -/
def wake (s : Session) : Session × List Effect :=
  match s.dispatcher with
  | .pausing p => ({ s with dispatcher := .hangingUp p }, [.hangUp])
  | _ => (s, [])

/-- Leaves a recovery that has reason to stop. -/
def notice (s : Session) : Session :=
  if s.isOver && s.dispatcher.isRecovering then resume s else s

/-- Counts a second; one more than the limit ends the session. -/
def tick (c : Config) (s : Session) : Session :=
  match s.watchdog with
  | .running =>
    let s := { s with idle := s.idle + 1 }
    if s.idle > c.idleLimit then (cancelWith s .canceled).2 else s
  | _ => s

def step (c : Config) (s : Session) : Event → Session × List Effect
  | .opened ok => (if ok then opened s else s, [])
  | .reconnected _ => (s, [])
  | .closed => (shutDown s, [])
  | .released => (release s, [])
  | .arrived e => (arrive c s e, [])
  | .taken endFirst => take s endFirst
  | .handled _ => (handled s, [])
  | .hungUp _ => hungUp s
  | .redialed ok => redialed c s ok
  | .woken => wake s
  | .noticed => (notice s, [])
  | .ticked => (tick c s, [])
  | .cancelled next => ((cancelWith s next).2, [])

/-- Runs steps one after another, keeping their effects. -/
def run (c : Config) (s : Session) : List Event → Session × List Effect
  | [] => (s, [])
  | e :: es =>
    let (s', effects) := step c s e
    let (s'', more) := run c s' es
    (s'', effects ++ more)

theorem run_cons (c : Config) (s : Session) (e : Event) (es : List Event) :
    run c s (e :: es) = ((run c (step c s e).1 es).1,
      (step c s e).2 ++ (run c (step c s e).1 es).2) := rfl

theorem run_append (c : Config) (s : Session) (es fs : List Event) :
    run c s (es ++ fs) =
      ((run c (run c s es).1 fs).1, (run c s es).2 ++ (run c (run c s es).1 fs).2) := by
  induction es generalizing s with
  | nil => rfl
  | cons e es ih => simp [run, ih, List.append_assoc]

end Session

end Tether
