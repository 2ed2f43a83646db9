import Tether.Port.Pump

/-! The way out of a forwarded port: what comes in on its connections goes through one buffer to
the session channel. A read fills the front of the buffer and leaves the rest as it was. Bytes
come in, the channel changes and connections end whenever they like. -/

namespace Tether.Port

structure Intake where
  pump : Pump
  buffer : List UInt8
  /-- Whether the channel is active. -/
  active : Bool
  /-- What has come in on each connection and is not read yet. -/
  unread : Nat → List UInt8

namespace Intake

/-- A new pump on its first connection. -/
def start (packet connection : Nat) (active : Bool) : Intake :=
  ⟨.start connection, List.replicate packet 0, active, fun _ => []⟩

inductive Event where
  /-- Bytes come in on a connection. -/
  | arrived (connection : Nat) (bytes : List UInt8)
  /-- The channel becomes active, or stops being it. -/
  | switched (active : Bool)
  /-- The pump looks whether the channel is active. -/
  | looked
  /-- A sleep is over. -/
  | woke
  /-- The read gives this many bytes. -/
  | got (count : Nat)
  /-- The read finds the connection over; an error has a reason. -/
  | ended (reason : Option String)
  | answered (a : SendAnswer)
  | parked
  /-- What a dial for the parked pump gave, or nothing when nobody will dial for it. -/
  | resumed (r : Option (Except String Nat))

inductive Effect where
  /-- A read is begun; the channel is active or not. -/
  | begun (active : Bool)
  /-- A read is done. -/
  | read (connection : Nat) (bytes : List UInt8)
  /-- Data is handed to the channel. -/
  | sent (bytes : List UInt8)
  /-- The parked pump is given another connection. -/
  | resumed (connection : Nat)
  deriving DecidableEq, Repr

/-- What the pump makes of an event. -/
def told (i : Intake) (addr : String) (e : Pump.Event) : Intake × List Effect :=
  let next := i.pump.step i.buffer.length addr e
  let begun := if i.pump.phase ≠ .reading ∧ next.phase = .reading then [.begun i.active] else []
  ({ i with pump := next }, (i.pump.sends i.buffer.length e).map .sent ++ begun)

/-- Bytes of the connection move to the front of the buffer. -/
def fill (i : Intake) (count : Nat) : Intake :=
  let waiting := i.unread i.pump.connection
  { i with
    buffer := waiting.take count ++ i.buffer.drop count
    unread := fun k => if k = i.pump.connection then waiting.drop count else i.unread k }

/-- Whether the read that is under way may give this many bytes. -/
def Readable (i : Intake) (count : Nat) : Prop :=
  i.pump.phase = .reading ∧ 0 < count ∧ count ≤ i.buffer.length ∧
    count ≤ (i.unread i.pump.connection).length

instance (i : Intake) (count : Nat) : Decidable (i.Readable count) := by
  unfold Readable
  infer_instance

/-- One event; one that is not possible now changes nothing. -/
def step (addr : String) (i : Intake) : Event → Intake × List Effect
  | .arrived connection bytes =>
    ({ i with unread := fun k => if k = connection then i.unread k ++ bytes else i.unread k }, [])
  | .switched active => ({ i with active := active }, [])
  | .looked => i.told addr (.looked i.active)
  | .woke => i.told addr .woke
  | .got count =>
    if i.Readable count then
      let filled := i.fill count
      let (next, effects) := filled.told addr (.read (filled.buffer.take count))
      (next, .read i.pump.connection ((i.unread i.pump.connection).take count) :: effects)
    else (i, [])
  | .ended _ => i.told addr (.read [])
  | .answered a => i.told addr (.answered a)
  | .parked => i.told addr .parked
  | .resumed r =>
    let (next, effects) := i.told addr (.resumed (r.getD (.error "reconnect abandoned")))
    match i.pump.phase, r with
    | .parked, some (.ok connection) => (next, .resumed connection :: effects)
    | _, _ => (next, effects)

/-- Runs events one after another, keeping what can be seen of them. -/
def run (addr : String) (i : Intake) : List Event → Intake × List Effect
  | [] => (i, [])
  | e :: es =>
    let (i', seen) := i.step addr e
    let (i'', more) := run addr i' es
    (i'', seen ++ more)

/-- What came in on a connection. -/
def arrivals (connection : Nat) (es : List Event) : List UInt8 :=
  es.flatMap fun
    | .arrived k bytes => if k = connection then bytes else []
    | _ => []

/-- The reads that were done, in order, each with its connection. -/
def reads (seen : List Effect) : List (Nat × List UInt8) :=
  seen.filterMap fun
    | .read connection bytes => some (connection, bytes)
    | _ => none

/-- The data that was handed to the channel, in order. -/
def payloads (seen : List Effect) : List (List UInt8) :=
  seen.filterMap fun
    | .sent bytes => some bytes
    | _ => none

/-- What was read from a connection. -/
def taken (connection : Nat) (seen : List Effect) : List UInt8 :=
  (reads seen).flatMap fun (k, bytes) => if k = connection then bytes else []

end Intake

end Tether.Port
