import Tether.Flow
import Tether.Port.Pump
import Tether.Wire.Message

/-! A forwarded port: one local connection after another, bridged onto a session. The dialing
plugin, the handler of inbound frames and the pump share a link state and the writing end of
the connection, each under a lock of its own. What happens under one lock is one event here, and
between two events anything else may happen. Aborting the pump only asks for its end: a pump that
another thread is running at that moment goes on until it next waits, and nobody waits for it. -/

namespace Tether.Port

open Wire

/-- What the link lock guards. -/
inductive Link where
  /-- Not dialed yet, or torn down. -/
  | idle
  | connected
  /-- The pump has parked, under this ticket; the next frame dials again. -/
  | awaiting (ticket : Nat)
  deriving DecidableEq, Repr

/-- Who holds the link lock from one event to another: whoever dials. -/
inductive Holder where
  | nobody
  | plugin
  /-- The frame handler dials for the pump that parked under this ticket. -/
  | handler (ticket : Nat)
  deriving DecidableEq, Repr

/-- How far the handler of a frame has come. -/
inductive Handling where
  | arrived
  /-- It found the link connected and goes on to the writing end. -/
  | passed
  deriving DecidableEq, Repr

/-- How far the plugin has come. -/
inductive Stage where
  | unstarted
  | dialing
  | running
  /-- The race is decided and the pump is aborted; the plugin asks for the link lock. -/
  | ending (r : PluginResult PortExit)
  /-- The link is torn down, and the writing end is yet to be taken away. -/
  | stopping (r : PluginResult PortExit)
  | returned (r : PluginResult PortExit)
  deriving DecidableEq, Repr

/-- Whether the race is decided. -/
def Stage.isDecided : Stage → Bool
  | .ending _ | .stopping _ | .returned _ => true
  | _ => false

theorem Stage.ne_running {s : Stage} (decided : s.isDecided = true) : s ≠ .running := by
  intro running
  rw [running] at decided
  cases decided

structure Forward where
  /-- The address that is dialed. -/
  addr : String
  flow : Flow
  link : Link
  holder : Holder
  /-- The connection whose writing end is there. -/
  writer : Option Nat
  /-- Connections made so far; they are numbered from 0. -/
  connections : Nat
  /-- Times the pump has parked so far. -/
  tickets : Nat
  /-- What the last dial for a parked pump gave, under its ticket. -/
  reply : Option (Nat × Except String Nat)
  /-- The pump, also while it is aborted and not gone yet. -/
  pump : Option Pump
  /-- The inbound frame that is being handled. -/
  handling : Option (Message × Handling)
  flag : CancelState
  stage : Stage

namespace Forward

def start (addr : String) (rate : SendRate) : Forward where
  addr := addr
  flow := .start Flow.portPacket rate
  link := .idle
  holder := .nobody
  writer := none
  connections := 0
  tickets := 0
  reply := none
  pump := none
  handling := none
  flag := .running
  stage := .unstarted

inductive Event where
  /-- The plugin starts under a new flag and takes the link lock to dial. It is started again only
  when nothing of its last pump is left. -/
  | started (flag : CancelState)
  /-- The plugin's dial is done; an error has a reason. -/
  | dialed (answer : Except String Unit)
  /-- An inbound frame. -/
  | arrived (m : Message)
  /-- The handler looks at the link. -/
  | checked
  /-- The handler's dial is done. -/
  | redialed (answer : Except String Unit)
  /-- The handler does what its frame asks for; `answer` is what writing gives. -/
  | applied (answer : Except String Unit)
  | pump (e : Pump.Event)
  /-- Someone sets the flag. -/
  | cancelled (next : CancelState)
  /-- The plugin looks at the flag and at the pump. -/
  | looked (flagFirst : Bool)
  /-- The aborted pump is gone, perhaps on its way to park: it had set the link and was waiting for
  the writing end. -/
  | reaped (parking : Bool)
  /-- The plugin finds the link lock free and tears the link down. -/
  | unlinked
  /-- The plugin takes the writing end away and returns. -/
  | stopped

/-- What others see of an event. -/
inductive Effect where
  /-- Someone dials: the plugin, or the handler for the pump that parked under this ticket. -/
  | dialing (ticket : Option Nat)
  /-- A frame is handled. -/
  | handled (r : Except Causes Unit)
  /-- Data is handed to a connection. -/
  | wrote (connection : Nat) (bytes : List UInt8)
  /-- Data is handed to the session channel. -/
  | sent (bytes : List UInt8)
  /-- A frame asks for writing and finds no writing end. -/
  | dropped (bytes : List UInt8)

/-- A connection comes up; its writing end is put in place. -/
def connect (f : Forward) : Forward :=
  { f with link := .connected, writer := some f.connections, connections := f.connections + 1 }

/-- The handler finishes its frame. -/
def finish (f : Forward) (r : Except Causes Unit) : Forward × List Effect :=
  ({ f with handling := none }, [.handled r])

/-- The handler looks at the link: frames are dropped while there is none, and the first one
after the pump has parked dials. -/
def check (f : Forward) (m : Message) : Forward × List Effect :=
  match f.link with
  | .idle => f.finish (.ok ())
  | .connected => ({ f with handling := some (m, .passed) }, [])
  | .awaiting ticket =>
    ({ f with link := .connected, holder := .handler ticket }, [.dialing (some ticket)])

/-- The handler's dial is done, and the pump is told. -/
def redial (f : Forward) (m : Message) (ticket : Nat) : Except String Unit → Forward × List Effect
  | .ok () =>
    ({ f.connect with
      holder := .nobody
      reply := some (ticket, .ok f.connections)
      handling := some (m, .passed) }, [])
  | .error reason =>
    { f with link := .idle, holder := .nobody, reply := some (ticket, .error reason) }.finish
      (.error ⟨"Failed to reconnect to " ++ f.addr ++ ": " ++ reason, []⟩)

/-- The handler does what its frame asks for. -/
def apply (f : Forward) (m : Message) (answer : Except String Unit) : Forward × List Effect :=
  match m.kind with
  | .input =>
    match f.writer with
    | none =>
      let (f, done) := f.finish (.ok ())
      (f, .dropped m.payload :: done)
    | some connection =>
      let (f, done) := f.finish (answer.mapError fun reason =>
        ⟨"Unable to write to " ++ f.addr, [reason]⟩)
      (f, .wrote connection m.payload :: done)
  | .status => { f with flow := f.flow.applyStatus m.payload }.finish (.ok ())
  | _ => f.finish (.ok ())

/-- What a parked pump is told, if there is something to tell: what the dial under its ticket
gave, or that nobody will dial for it. -/
def told? (f : Forward) : Option (Except String Nat) :=
  match f.reply with
  | some (ticket, r) => if ticket + 1 = f.tickets then some r else abandoned f
  | none => abandoned f
where
  abandoned (f : Forward) : Option (Except String Nat) :=
    if f.link = .awaiting (f.tickets - 1) ∨ f.holder = .handler (f.tickets - 1) then none
    else some (.error "reconnect abandoned")

/-- An event of the pump. Parking takes the link lock, and the pump resumes with what it is
told. -/
def stepPump (f : Forward) (p : Pump) (e : Pump.Event) : Forward × List Effect :=
  let next := p.step f.flow.packet f.addr e
  match e with
  | .parked =>
    if p.phase = .lost ∧ f.holder = .nobody then
      ({ f with
        pump := some next
        link := .awaiting f.tickets
        tickets := f.tickets + 1
        writer := none }, [])
    else (f, [])
  | .resumed _ =>
    match f.told? with
    | some r =>
      ({ f with pump := some (p.step f.flow.packet f.addr (.resumed r)) }, [])
    | none => (f, [])
  | _ => ({ f with pump := some next }, (p.sends f.flow.packet e).map .sent)

/-- The aborted pump is gone. It leaves a link behind that it has set on its way to park. -/
def reap (f : Forward) (p : Pump) (parking : Bool) : Forward :=
  if parking ∧ p.phase = .lost ∧ f.holder = .nobody then
    { f with pump := none, link := .awaiting f.tickets, tickets := f.tickets + 1 }
  else { f with pump := none }

/-- One event; one that is not possible now changes nothing. -/
def step (f : Forward) : Event → Forward × List Effect
  | .started flag =>
    match f.stage, f.holder, f.pump with
    | .unstarted, .nobody, none | .returned _, .nobody, none =>
      ({ f with stage := .dialing, holder := .plugin, flag := flag }, [.dialing none])
    | _, _, _ => (f, [])
  | .dialed answer =>
    match f.stage, answer with
    | .dialing, .ok () =>
      ({ f.connect with
        holder := .nobody
        stage := .running
        pump := some (.start f.connections) }, [])
    | .dialing, .error reason =>
      ({ f with
        holder := .nobody
        stage := .returned (.openPortFailed, some (.openPort f.addr reason)) }, [])
    | _, _ => (f, [])
  | .arrived m =>
    match f.handling with
    | none => ({ f with handling := some (m, .arrived) }, [])
    | some _ => (f, [])
  | .checked =>
    match f.handling, f.holder with
    | some (m, .arrived), .nobody => f.check m
    | _, _ => (f, [])
  | .redialed answer =>
    match f.handling, f.holder with
    | some (m, _), .handler ticket => f.redial m ticket answer
    | _, _ => (f, [])
  | .applied answer =>
    match f.handling with
    | some (m, .passed) => f.apply m answer
    | _ => (f, [])
  | .pump e =>
    match f.pump with
    | some p => f.stepPump p e
    | none => (f, [])
  | .cancelled next => ({ f with flag := (f.flag.set next).2 }, [])
  | .looked flagFirst =>
    match f.stage with
    | .running =>
      match (⟨f.flag, f.pump.bind Pump.ended?, none⟩ : Race PortExit).look flagFirst with
      | some r => ({ f with stage := .ending r }, [])
      | none => (f, [])
    | _ => (f, [])
  | .reaped parking =>
    match f.stage.isDecided, f.pump with
    | true, some p => (f.reap p parking, [])
    | _, _ => (f, [])
  | .unlinked =>
    match f.stage, f.holder with
    | .ending r, .nobody => ({ f with link := .idle, stage := .stopping r }, [])
    | _, _ => (f, [])
  | .stopped =>
    match f.stage with
    | .stopping r => ({ f with stage := .returned r, writer := none }, [])
    | _ => (f, [])

/-- Runs events one after another, keeping what others see. -/
def run (f : Forward) : List Event → Forward × List Effect
  | [] => (f, [])
  | e :: es =>
    let (f', seen) := f.step e
    let (f'', more) := run f' es
    (f'', seen ++ more)

theorem run_append (f : Forward) (es fs : List Event) :
    f.run (es ++ fs) =
      (((f.run es).1.run fs).1, (f.run es).2 ++ ((f.run es).1.run fs).2) := by
  induction es generalizing f with
  | nil => rfl
  | cons e es ih => simp [run, ih, List.append_assoc]

end Forward

end Tether.Port
