import Mathlib.Logic.Function.Basic
import Tether.Registry

/-! The registry as those see it who use it: calls one after another and their answers, and beside
it a book that says for every id which flag is under it, and for every flag how it is. -/

namespace Tether.Registry

inductive Event where
  | insert (id : String) (flag : Nat)
  | remove (id : String)
  | contains (id : String)
  | stop (id : String)
  | stopAll
  /-- Someone who holds a flag tells it how it ends. -/
  | told (flag : Nat) (next : CancelState)
  deriving DecidableEq, Repr

inductive Answer where
  | done (result : Except SessionFault Unit)
  /-- The flag that was under the id. -/
  | removed (flag : Option Nat)
  | held (yes : Bool)
  | moved (yes : Bool)

def step (r : Registry) : Event → Answer × Registry
  | .insert id flag =>
    let (result, r) := r.insert id flag
    (.done result, r)
  | .remove id =>
    let (flag, r) := r.remove id
    (.removed flag, r)
  | .contains id => (.held (r.contains id), r)
  | .stop id =>
    let (result, r) := r.stop id
    (.done result, r)
  | .stopAll => (.done (.ok ()), r.stopAll)
  | .told flag next =>
    let (moved, r) := r.setFlag flag next
    (.moved moved, r)

theorem step_insert (r : Registry) (id : String) (flag : Nat) :
    r.step (.insert id flag) = (.done (r.insert id flag).1, (r.insert id flag).2) := rfl

theorem step_remove (r : Registry) (id : String) :
    r.step (.remove id) = (.removed (r.find? id), (r.remove id).2) := rfl

theorem step_stop (r : Registry) (id : String) :
    r.step (.stop id) = (.done (r.stop id).1, (r.stop id).2) := rfl

theorem step_told (r : Registry) (flag : Nat) (next : CancelState) :
    r.step (.told flag next) = (.moved (r.setFlag flag next).1, (r.setFlag flag next).2) := rfl

/-- Calls one after another, with their answers. -/
def run (r : Registry) : List Event → List Answer × Registry
  | [] => ([], r)
  | e :: es =>
    let (a, r) := r.step e
    let (as, r) := r.run es
    (a :: as, r)

/-- The flag that an event brings along is one of the first `n`. -/
def Event.Names (n : Nat) : Event → Prop
  | .insert _ flag | .told flag _ => flag < n
  | _ => True

/-- A map from ids to flags, and the states of all flags. -/
structure Book where
  under : String → Option Nat
  state : Nat → CancelState

namespace Book

/-- Some flags complete, if they are still running. -/
def complete (b : Book) (those : Nat → Prop) [DecidablePred those] : Book :=
  { b with state := fun flag =>
      if those flag ∧ b.state flag = .running then .completed else b.state flag }

open Classical in
noncomputable def step (b : Book) : Event → Answer × Book
  | .insert id flag =>
    match b.under id with
    | some _ => (.done (.error (.alreadyExists id)), b)
    | none => (.done (.ok ()), { b with under := Function.update b.under id (some flag) })
  | .remove id => (.removed (b.under id), { b with under := Function.update b.under id none })
  | .contains id => (.held (b.under id).isSome, b)
  | .stop id =>
    match b.under id with
    | some flag => (.done (.ok ()), b.complete (· = flag))
    | none => (.done (.error (.notFound id)), b)
  | .stopAll => (.done (.ok ()), b.complete fun flag => ∃ id, b.under id = some flag)
  | .told flag next =>
    if b.state flag = .running ∧ next ≠ .running then
      (.moved true, { b with state := Function.update b.state flag next })
    else (.moved false, b)

noncomputable def run (b : Book) : List Event → List Answer × Book
  | [] => ([], b)
  | e :: es =>
    let (a, b) := b.step e
    let (as, b) := b.run es
    (a :: as, b)

end Book

/-- The book of a registry. -/
def book (r : Registry) : Book := ⟨r.find?, r.flags.get⟩

end Tether.Registry
