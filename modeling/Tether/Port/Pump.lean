import Tether.Plugin.Race
import Tether.Plugin.SendAnswer

/-! The pump of a forwarded port. It reads from the local connection while the session channel
is active, sends what it reads, and pauses between two sends. When a connection is over it parks
until it is given another one. -/

namespace Tether.Port

namespace Pump

inductive Phase where
  /-- About to look whether the channel is active. -/
  | looking
  /-- Sleeps because the channel is not active. -/
  | dozing
  /-- A read is under way. -/
  | reading
  /-- The connection is over, and the pump has yet to park. -/
  | lost
  /-- Waits for another connection. -/
  | parked
  | sending (bytes : List UInt8)
  | pausing
  | finished (how : PumpEnd PortExit)
  deriving DecidableEq, Repr

inductive Event where
  /-- Looks whether the channel is active. -/
  | looked (active : Bool)
  /-- The read is done; no bytes mean that the connection is over. -/
  | read (bytes : List UInt8)
  | answered (a : SendAnswer)
  /-- A sleep is over. -/
  | woke
  | parked
  /-- Another connection, or why there is none. -/
  | resumed (r : Except String Nat)
  deriving Repr

end Pump

structure Pump where
  phase : Pump.Phase
  /-- Number of the connection that is read. -/
  connection : Nat
  deriving DecidableEq, Repr

namespace Pump

def start (connection : Nat) : Pump := ⟨.looking, connection⟩

/-- Goes on after a send. -/
def afterSend (p : Pump) : SendAnswer → Pump
  | .sent => { p with phase := .pausing }
  | .refused cause =>
    { p with phase := .finished (.returned (.ioSocketError, some (.ioSocket cause.message))) }
  | .panicked text => { p with phase := .finished (.panicked text) }

/-- Goes on after parking. -/
def afterParking (p : Pump) (addr : String) : Except String Nat → Pump
  | .ok connection => ⟨.looking, connection⟩
  | .error reason =>
    { p with phase := .finished (.returned (.readPortFailed, some (.readPort addr reason))) }

/-- One event; one that does not fit the phase changes nothing. A read gives at most `packet`
bytes. -/
def step (p : Pump) (packet : Nat) (addr : String) : Event → Pump
  | .looked active =>
    match p.phase with
    | .looking => { p with phase := if active then .reading else .dozing }
    | _ => p
  | .read bytes =>
    match p.phase with
    | .reading =>
      if bytes = [] then { p with phase := .lost }
      else if bytes.length ≤ packet then { p with phase := .sending bytes }
      else p
    | _ => p
  | .answered a =>
    match p.phase with
    | .sending _ => p.afterSend a
    | _ => p
  | .woke =>
    match p.phase with
    | .dozing | .pausing => { p with phase := .looking }
    | _ => p
  | .parked =>
    match p.phase with
    | .lost => { p with phase := .parked }
    | _ => p
  | .resumed r =>
    match p.phase with
    | .parked => p.afterParking addr r
    | _ => p

/-- The data handed to the channel on an event. -/
def sends (p : Pump) (packet : Nat) : Event → List (List UInt8)
  | .read bytes =>
    if p.phase = .reading ∧ bytes ≠ [] ∧ bytes.length ≤ packet then [bytes] else []
  | _ => []

/-- How the pump ended. -/
def ended? (p : Pump) : Option (PumpEnd PortExit) :=
  match p.phase with
  | .finished e => some e
  | _ => none

end Pump

end Tether.Port
