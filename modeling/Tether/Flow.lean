import Tether.Rate
import Tether.Wire.Status

/-! The throttle of a pump: a packet size and the pause between packets. Status frames
change the pause while the pump runs. -/

namespace Tether

structure Flow where
  /-- Largest read, in bytes. -/
  packet : Nat
  /-- Milliseconds between two sends. -/
  interval : Nat
  deriving DecidableEq, Repr

namespace Flow

def start (packet : Nat) (rate : SendRate) : Flow := ⟨packet, rate.interval packet⟩

/-- Largest read of a shell. -/
def shellPacket : Nat := 1024

/-- Largest read of a forwarded port. -/
def portPacket : Nat := 2048

/-- Switches to a new rate and answers with the new pause; rate 0 changes nothing. -/
def setRate (f : Flow) (bps : Nat) : Option Nat × Flow :=
  if bps = 0 then (none, f)
  else (some (SendRate.interval ⟨bps⟩ f.packet), start f.packet ⟨bps⟩)

/-- Obeys a status payload; one that sets no rate changes nothing. -/
def applyStatus (f : Flow) (payload : List UInt8) : Flow :=
  match Wire.Status.ofPayload payload with
  | .ok (.setRate bps) => (f.setRate bps.toNat).2
  | _ => f

/-- A try to change a throttle. -/
inductive Change where
  | rate (bps : UInt32)
  | status (payload : List UInt8)
  deriving DecidableEq, Repr

/-- The rate that a change brings about, if it brings one about: no rate is zero, and a status
writes its rate in one to four bytes behind the code. -/
def Change.rate? : Change → Option SendRate
  | rate bps => if bps = 0 then none else some ⟨bps.toNat⟩
  | status [] => none
  | status (code :: bytes) =>
    let bps := Wire.Word.ofBigEndian bytes
    if code = Wire.setRateCode ∧ 1 ≤ bytes.length ∧ bytes.length ≤ 4 ∧ bps ≠ 0 then some ⟨bps⟩
    else none

def apply (f : Flow) : Change → Flow
  | .rate bps => (f.setRate bps.toNat).2
  | .status payload => f.applyStatus payload

def run (f : Flow) (cs : List Change) : Flow := cs.foldl apply f

end Flow

end Tether
