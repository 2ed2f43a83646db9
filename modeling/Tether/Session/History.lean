import Tether.Session.Senders

/-! What an onlooker notes down of a session: which events were taken in, which ones the dispatcher
took from the queue, which messages reached the plugin, and how long the session has been silent.
No step of a session looks at any of this. -/

namespace Tether

open Wire

/-- The message that an inbound event brings to the plugin. -/
def Inbound.routed? : Inbound → Option Message
  | .frame bytes => Session.routed? bytes
  | .lost _ => none

/-- Whether an inbound event is a frame that can be read and says when it was made. -/
def Inbound.isValid : Inbound → Bool
  | .frame bytes =>
    match Message.decode bytes with
    | .ok m => m.created ≠ 0
    | .error _ => false
  | .lost _ => false

namespace Session

/-- Notes down what `see` shows of each step of a run. -/
def observe {σ ε α : Type} (step : σ → ε → σ) (see : σ → ε → Option α) (s : σ) : List ε → List α
  | [] => []
  | e :: es => (see s e).toList ++ observe step see (step s e) es

/-! ### The way of an event -/

/-- The event that a step takes in. -/
def accepted? (c : Config) (s : Session) : Event → Option Inbound
  | .arrived e => if hasRoom c s then some e else none
  | _ => none

/-- The event that a step takes from the queue. -/
def taken? (s : Session) : Event → Option Inbound
  | .taken _ =>
    match s.dispatcher with
    | .ready => s.queue.head?
    | _ => none
  | _ => none

/-- The events that the dispatcher took, in that order. -/
def taken (c : Config) (s : Session) (es : List Event) : List Inbound :=
  observe (fun s e => (step c s e).1) taken? s es

def Effect.message? : Effect → Option Message
  | .deliver m => some m
  | _ => none

/-- The messages passed to the plugin, in order. -/
def delivered (effects : List Effect) : List Message := effects.filterMap Effect.message?

/-- What begins, breaks and lengthens a silence. -/
inductive Mark where
  /-- The transport was opened. -/
  | opened
  /-- A valid frame was dispatched. -/
  | heard
  | second
  deriving DecidableEq, Repr

def mark? (s : Session) (e : Event) : Option Mark :=
  match e with
  | .opened true => some .opened
  | .ticked => some .second
  | e => if (taken? s e).any Inbound.isValid then some .heard else none

/-- A mark lengthens or breaks a silence. Only the first opening begins one. -/
def afterMark (silence : Option Nat) : Mark → Option Nat
  | .opened => some (silence.getD 0)
  | .heard => silence.map fun _ => 0
  | .second => silence.map (· + 1)

/-- Seconds since the last valid frame, or since the first opening if there was none; nothing
before that opening. -/
def silence (ms : List Mark) : Option Nat := ms.foldl afterMark none

/-- Whether some silence went on for more than `limit` seconds. -/
def Overdue (limit : Nat) (ms : List Mark) : Prop :=
  ∃ before n, before <+: ms ∧ silence before = some n ∧ limit < n

/-- What ends a session other than silence. -/
def otherEnd? (c : Config) (s : Session) (e : Event) : Option Event :=
  match e, s.dispatcher with
  | .closed, _ | .released, _ => some e
  | .cancelled next, _ => if next.isTerminal then some e else none
  | .redialed false, .redialing p =>
    if Retry.afterFailure c.retry p = .giveUp then some e else none
  | _, _ => none

namespace Senders

/-- What a step of a session shows, in a run with senders. -/
def observe {α : Type} (c : Config) (see : Session → Session.Event → Option α) (l : Senders)
    (es : List Event) : List α :=
  Session.observe (step c) (fun l e =>
    match e with
    | .other e => see l.session e
    | _ => none) l es

end Senders

end Session

end Tether
