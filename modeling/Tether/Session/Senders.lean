import Tether.Session.Basic

/-! Several callers that send at once. A call with data waits for the lock on the number, and
whoever gets it next is open. Under the lock the data is framed; a frame is handed to the
transport, and the lock is held until the transport has answered. Everything else that happens
to the session, losses and redials of the transport among it, may come in between. -/

namespace Tether.Session

/-- How far a call that sends data has come. -/
inductive CallPhase where
  /-- Waits for the lock. -/
  | waiting
  /-- Holds the lock while its frame is with the transport. -/
  | sending
  | returned (result : Except ChannelFault Unit)

structure Call where
  data : List UInt8
  phase : CallPhase

/-- A call that got the lock, and when. -/
structure Turn where
  call : Nat
  data : List UInt8
  created : UInt64

structure Senders where
  session : Session
  /-- The calls made so far, each known by its index. -/
  calls : List Call
  /-- The calls that got the lock so far, in order. -/
  served : List Turn
  /-- The call that holds the lock. -/
  holder : Option Nat
  /-- The frames handed to the transport, in order. -/
  handed : List (List UInt8)
  /-- What the transport answered to them, as far as it has: whether it took the frame. -/
  answers : List Bool

namespace Senders

def start : Senders := ⟨.start, [], [], none, [], []⟩

inductive Event where
  /-- A caller sends data. -/
  | called (data : List UInt8)
  /-- A waiting call gets the lock; the clock shows `created`. -/
  | locked (call : Nat) (created : UInt64)
  /-- The transport answers to the frame that it was handed. -/
  | answered (ok : Bool)
  /-- Something else happens to the session. -/
  | other (e : Session.Event)

/-- Takes a call in. Empty data is nothing to send. -/
def called (l : Senders) (data : List UInt8) : Senders :=
  let phase : CallPhase := if data = [] then .returned (.ok ()) else .waiting
  { l with calls := l.calls ++ [Call.mk data phase] }

/-- Moves a call on. -/
def moveOn (l : Senders) (call : Nat) (phase : CallPhase) : Senders :=
  { l with calls := l.calls.modify call fun k => { k with phase := phase } }

/-- Notes that a call got the lock, and moves it on. -/
def serve (l : Senders) (t : Turn) (phase : CallPhase) : Senders :=
  { l.moveOn t.call phase with served := l.served ++ [t] }

/-- Gives the lock to a call, if it is free and the call waits for it. Data that cannot be framed
gives it back at once. -/
def lock (c : Config) (l : Senders) (call : Nat) (created : UInt64) : Senders :=
  match l.holder, l.calls[call]? with
  | none, some ⟨data, .waiting⟩ =>
    let t : Turn := ⟨call, data, created⟩
    match frameOf c l.session data created with
    | .error e => l.serve t (.returned (.error (.framing e.message)))
    | .ok frame => { l.serve t .sending with holder := some call, handed := l.handed ++ [frame] }
  | _, _ => l

/-- Lets the holder of the lock return, whatever the transport answered. -/
def answer (l : Senders) (ok : Bool) : Senders :=
  match l.holder with
  | none => l
  | some call =>
    { l.moveOn call (.returned (.ok ())) with
      session := l.session.advance
      holder := none
      answers := l.answers ++ [ok] }

def step (c : Config) (l : Senders) : Event → Senders
  | .called data => l.called data
  | .locked call created => l.lock c call created
  | .answered ok => l.answer ok
  | .other e => { l with session := (l.session.step c e).1 }

def run (c : Config) (l : Senders) (es : List Event) : Senders := es.foldl (step c) l

theorem lock_session (c : Config) (l : Senders) (call : Nat) (created : UInt64) :
    (l.lock c call created).session = l.session := by
  unfold lock
  repeat' split
  all_goals rfl

theorem answer_session (l : Senders) (ok : Bool) :
    (l.answer ok).session = l.session ∨ (l.answer ok).session = l.session.advance := by
  unfold answer
  split
  · exact .inl rfl
  · exact .inr rfl

/-- Which of the frames got this answer, counted from 0. -/
def answeredWith (l : Senders) (ok : Bool) : List Nat :=
  (List.range l.answers.length).filter fun k => l.answers[k]? = some ok

/-- The frames that got this answer, in order. -/
def framesWith (l : Senders) (ok : Bool) : List (List UInt8) :=
  (l.answeredWith ok).filterMap fun k => l.handed[k]?

end Senders

end Tether.Session
