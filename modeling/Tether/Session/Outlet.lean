import Tether.Session.Senders
import Tether.Settings.Basic

/-! The sending end of a session in the hands of a plugin, whose pump awaits each of its calls
before it makes the next. -/

namespace Tether.Session

/-- How many inbound events may wait. -/
def inboundCapacity : Nat := 256

/-- A session of an agent with these settings. -/
def Config.ofSettings (s : Settings) (id : String) : Config where
  id := id
  schema := s.session.schema
  idleLimit := s.session.idleTimeout.seconds
  retry := s.reconnect.plan
  capacity := inboundCapacity

structure Outlet where
  senders : Senders
  /-- The call that the pump awaits. -/
  pending : Option Nat

namespace Outlet

def start : Outlet := ⟨.start, none⟩

/-- What happens to the call under way, and to the session. -/
inductive Event where
  /-- The call gets the lock; the clock shows `created`. -/
  | locked (created : UInt64)
  /-- The transport answers to the frame that it was handed. -/
  | answered (ok : Bool)
  /-- Something else happens to the session. -/
  | session (e : Session.Event)

/-- The pump makes a call. -/
def send (o : Outlet) (data : List UInt8) : Outlet :=
  ⟨o.senders.called data, some o.senders.calls.length⟩

def step (c : Config) (o : Outlet) : Event → Outlet
  | .locked created =>
    match o.pending with
    | some call => { o with senders := o.senders.step c (.locked call created) }
    | none => o
  | .answered ok => { o with senders := o.senders.step c (.answered ok) }
  | .session e => { o with senders := o.senders.step c (.other e) }

/-- What the call that the pump awaits has come to. -/
def result? (o : Outlet) : Option (Except ChannelFault Unit) :=
  match o.pending.bind (o.senders.calls[·]?) with
  | some ⟨_, .returned result⟩ => some result
  | _ => none

/-- The pump has heard what its call came to. -/
def settle (o : Outlet) : Outlet := { o with pending := none }

end Outlet

end Tether.Session
