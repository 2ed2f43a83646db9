import Tether.Session.Basic
import Tether.Shell.Pump

/-! A shell session's way out: what the process writes goes through the pump and the channel to
the transport. Reads, wake-ups, sends and whatever else happens to the channel come in any
order. -/

namespace Tether.Shell

/-- The bytes that a read gives. -/
def ReadResult.bytes : ReadResult → List UInt8
  | .chunk bytes => bytes
  | _ => []

/-- What a process wrote, as its reader saw it: nothing comes behind the end. -/
def output (results : List ReadResult) : List UInt8 :=
  (results.takeWhile (· ≠ .ended)).flatMap ReadResult.bytes

structure Relay where
  pump : Pump
  session : Session
  /-- Frames handed to the transport, in order. -/
  sent : List (List UInt8)

namespace Relay

/-- A new pump on a channel that may have been used before. -/
def start (s : Session) : Relay := ⟨.start, s, []⟩

inductive Event where
  /-- The reader gets a result. -/
  | read (result : ReadResult)
  /-- The pump's sleep is over. -/
  | woken
  /-- The pump sends what it has, if it is ready; the clock shows `created`. -/
  | turned (created : UInt64)
  /-- Something else happens to the channel. -/
  | other (e : Session.Event)

/-- The results that the reader got. -/
def results (es : List Event) : List ReadResult :=
  es.filterMap fun
    | .read result => some result
    | _ => none

/-- The frames among what a channel does. -/
def transmitted (effects : List Session.Effect) : List (List UInt8) :=
  effects.filterMap fun
    | .transmit frame => some frame
    | _ => none

/-- Sends what the pump offers and tells it what came of it. -/
def turn (c : Session.Config) (r : Relay) (created : UInt64) : Relay :=
  match r.pump.offer? with
  | none => r
  | some data =>
    let (result, session, effects) := r.session.send c data created
    { pump := r.pump.turn (.ofResult result)
      session := session
      sent := r.sent ++ transmitted effects }

def step (c : Session.Config) (r : Relay) : Event → Relay
  | .read result => { r with pump := r.pump.read result }
  | .woken => { r with pump := r.pump.wake }
  | .turned created => r.turn c created
  | .other e => { r with session := (r.session.step c e).1 }

def run (c : Session.Config) (r : Relay) (es : List Event) : Relay := es.foldl (step c) r

end Relay

end Tether.Shell
