import Tether.Session.History

/-! The read loop of one connection. It passes on what data frames hold and gives the
connection up after a number of failed reads with no data frame between them. The loop waits in two
places, for a read and for room for an event. The channel may let go of the connection at any
moment, also after a read and before anything has come of it. -/

namespace Tether.Socket

/-- What a read from a connection gives. -/
inductive ReadResult where
  | binary (bytes : List UInt8)
  | text (bytes : List UInt8)
  /-- A ping, a pong or another frame that holds no data. -/
  | control
  /-- The peer closes, with a description of its frame. -/
  | closed (frame : String)
  | failed (reason : String)
  | ended
  deriving DecidableEq, Repr

namespace ReadResult

def data? : ReadResult → Option (List UInt8)
  | binary bytes | text bytes => some bytes
  | _ => none

def failure? : ReadResult → Option String
  | closed frame => some ("closed by peer: " ++ frame)
  | failed reason => some reason
  | ended => some "connection closed"
  | _ => none

end ReadResult

namespace ReadLoop

inductive Phase where
  /-- Waits for a read, or to be let go. -/
  | waiting
  /-- A read is done, and nothing has come of it yet. -/
  | holding (r : ReadResult)
  /-- Waits until there is room for an event. -/
  | passing (e : Inbound)
  | ended
  deriving DecidableEq, Repr

end ReadLoop

structure ReadLoop where
  /-- Failed reads after which the connection is given up. -/
  limit : Nat
  /-- Failed reads since the last data frame. -/
  failures : Nat
  /-- The channel has let go of the connection. -/
  shutdown : Bool
  phase : ReadLoop.Phase
  /-- What reads will give, as far as the connection has it. -/
  unread : List ReadResult
  deriving DecidableEq, Repr

namespace ReadLoop

def start (limit : Nat) : ReadLoop := ⟨limit, 0, false, .waiting, []⟩

inductive Event where
  /-- The connection has something for one more read. -/
  | ready (r : ReadResult)
  /-- The loop looks whether the connection is let go of, and else for a read. -/
  | polled
  /-- The loop goes on with the read that it holds. -/
  | sorted
  /-- There is room for the event, or nobody takes events any more. -/
  | passed (alive : Bool)
  /-- The channel lets go of the connection. -/
  | shutdown
  deriving DecidableEq, Repr

/-- Once the connection is let go of, its reads are not looked at. -/
def poll (l : ReadLoop) : ReadLoop :=
  match l.phase with
  | .waiting =>
    if l.shutdown then { l with phase := .ended }
    else
      match l.unread with
      | [] => l
      | r :: rest => { l with phase := .holding r, unread := rest }
  | _ => l

/-- What comes of a read. The last failure is told, unless the connection was let go of before
that. -/
def sort (l : ReadLoop) (r : ReadResult) : ReadLoop :=
  match r.data?, r.failure? with
  | some bytes, _ => { l with failures := 0, phase := .passing (.frame bytes) }
  | none, some reason =>
    if l.failures + 1 ≥ l.limit then
      { l with
        failures := l.failures + 1
        phase := if l.shutdown then .ended else .passing (.lost (.receive reason)) }
    else { l with failures := l.failures + 1, phase := .waiting }
  | none, none => { l with phase := .waiting }

/-- The event is passed on, if someone takes it. After a data frame the loop reads on. -/
def pass (l : ReadLoop) (alive : Bool) : ReadLoop × Option Inbound :=
  match l.phase with
  | .passing (.frame bytes) =>
    if alive then ({ l with phase := .waiting }, some (.frame bytes))
    else ({ l with phase := .ended }, none)
  | .passing (.lost cause) =>
    ({ l with phase := .ended }, if alive then some (.lost cause) else none)
  | _ => (l, none)

/-- One event; one that is not possible now changes nothing. -/
def step (l : ReadLoop) : Event → ReadLoop × Option Inbound
  | .ready r => ({ l with unread := l.unread ++ [r] }, none)
  | .polled => (l.poll, none)
  | .sorted =>
    match l.phase with
    | .holding r => (l.sort r, none)
    | _ => (l, none)
  | .passed alive => l.pass alive
  | .shutdown => ({ l with shutdown := true }, none)

/-- Runs events one after another, keeping what is passed on. -/
def run (l : ReadLoop) : List Event → ReadLoop × List Inbound
  | [] => (l, [])
  | e :: es =>
    let (l', seen) := l.step e
    let (l'', more) := run l' es
    (l'', seen.toList ++ more)

/-- A loop that waits is given a read, and there is room for what comes of it. -/
def turn (l : ReadLoop) (r : ReadResult) : ReadLoop × List Inbound :=
  l.run [.ready r, .polled, .sorted, .passed true]

/-! ### Histories -/

/-- What the connection had for reads, in order. -/
def brought (es : List Event) : List ReadResult :=
  es.filterMap fun
    | .ready r => some r
    | _ => none

/-- The read that is done and not sorted. -/
def held (l : ReadLoop) : List ReadResult :=
  match l.phase with
  | .holding r => [r]
  | _ => []

/-- The event that waits for room. -/
def leaving (l : ReadLoop) : List Inbound :=
  match l.phase with
  | .passing e => [e]
  | _ => []

def sorted? (l : ReadLoop) : Event → Option ReadResult
  | .sorted =>
    match l.phase with
    | .holding r => some r
    | _ => none
  | _ => none

/-- The reads that the loop went on with, in order. -/
def reads (l : ReadLoop) (es : List Event) : List ReadResult :=
  Session.observe (fun l e => (step l e).1) sorted? l es

/-- Those of them that the loop went on with before the connection was let go of. -/
def earlyReads (l : ReadLoop) (es : List Event) : List ReadResult :=
  Session.observe (fun l e => (step l e).1)
    (fun l e => if l.shutdown then none else sorted? l e) l es

/-- Somewhere `limit` reads fail with no data frame between them, the last one for this reason. -/
def GivesUp (limit : Nat) (reads : List ReadResult) (reason : String) : Prop :=
  ∃ span, span <:+: reads ∧ (∀ r ∈ span, r.data? = none) ∧
    (span.filterMap ReadResult.failure?).length = limit ∧
    (span.filterMap ReadResult.failure?).getLast? = some reason

/-- The loop can do nothing by itself. -/
def AtRest (l : ReadLoop) : Prop :=
  (l.step .polled).1 = l ∧ (l.step .sorted).1 = l ∧ (l.step (.passed true)).1 = l

end ReadLoop

end Tether.Socket
