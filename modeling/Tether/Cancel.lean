/-! Cancel flags. A flag runs until it is first told how it ends, and keeps that end.
Handles are names for flags: several may name one flag. -/

namespace Tether

inductive CancelState where
  | running
  /-- Timed out, or lost its transport. -/
  | canceled
  /-- Asked to finish. -/
  | completed
  deriving DecidableEq, Repr, Inhabited

namespace CancelState

def isTerminal : CancelState → Bool
  | running => false
  | _ => true

def name : CancelState → String
  | running => "running"
  | canceled => "canceled"
  | completed => "completed"

/-- The flag and its state as a diagnostic text. -/
def debug (s : CancelState) : String :=
  let word := match s with
    | running => "Running"
    | canceled => "Canceled"
    | completed => "Completed"
  "CancelFlag \x7b state: " ++ word ++ " \x7d"

/-- Moves a running flag to a terminal state, and says whether it moved. -/
def set (s next : CancelState) : Bool × CancelState :=
  if next.isTerminal ∧ ¬ s.isTerminal then (true, next) else (false, s)

/-- The state that a waiter gets at once, if any. -/
def wait (s : CancelState) : Option CancelState :=
  if s.isTerminal then some s else none

end CancelState

/-- Flags, each known by its index. -/
structure Flags where
  states : List CancelState
  deriving DecidableEq, Repr

namespace Flags

def get (fs : Flags) (flag : Nat) : CancelState := fs.states.getD flag .running

/-- Adds a running flag and answers with its index. -/
def fresh (fs : Flags) : Nat × Flags := (fs.states.length, ⟨fs.states ++ [.running]⟩)

/-- Tells one flag how it ends, and says whether it moved. -/
def set (fs : Flags) (flag : Nat) (next : CancelState) : Bool × Flags :=
  let (moved, s) := (fs.get flag).set next
  (moved, ⟨fs.states.set flag s⟩)

end Flags

/-- Handles onto flags, in the order they were made. -/
structure Handles where
  flags : Flags
  /-- The flag that each handle names. -/
  targets : List Nat
  deriving DecidableEq, Repr

namespace Handles

/-- What can be done with handles. -/
inductive Event where
  /-- A handle onto a new flag. -/
  | fresh
  /-- Another handle onto the same flag. -/
  | clone (handle : Nat)
  /-- Gives up a handle; later ones move down. -/
  | drop (handle : Nat)
  | set (handle : Nat) (next : CancelState)
  | wait (handle : Nat)
  deriving DecidableEq, Repr

/-- What a step answers. -/
inductive Answer where
  /-- The index of a new handle. -/
  | made (handle : Nat)
  | moved (yes : Bool)
  /-- The state of a flag that has ended, or nothing while it runs. -/
  | ready (state : Option CancelState)
  | nothing
  deriving DecidableEq, Repr

/-- One handle onto one running flag. -/
def one : Handles := ⟨⟨[.running]⟩, [0]⟩

/-- The flag that a handle names. -/
def target (h : Handles) (handle : Nat) : Option Nat := h.targets[handle]?

/-- The state seen through a handle. -/
def state (h : Handles) (handle : Nat) : CancelState :=
  (h.target handle).elim .running h.flags.get

/-- The states seen through all handles. -/
def states (h : Handles) : List CancelState := h.targets.map h.flags.get

def step (h : Handles) : Event → Answer × Handles
  | .fresh =>
    let (flag, flags) := h.flags.fresh
    (.made h.targets.length, ⟨flags, h.targets ++ [flag]⟩)
  | .clone i =>
    match h.target i with
    | some flag => (.made h.targets.length, { h with targets := h.targets ++ [flag] })
    | none => (.nothing, h)
  | .drop i => (.nothing, { h with targets := h.targets.eraseIdx i })
  | .set i next =>
    match h.target i with
    | some flag =>
      let (moved, flags) := h.flags.set flag next
      (.moved moved, { h with flags := flags })
    | none => (.moved false, h)
  | .wait i => (.ready (h.state i).wait, h)

/-- Runs steps one after another, keeping their answers. -/
def run (h : Handles) : List Event → List Answer × Handles
  | [] => ([], h)
  | e :: es =>
    let (a, h') := h.step e
    let (as, h'') := run h' es
    (a :: as, h'')

end Handles

end Tether
