import Tether.Cancel
import Tether.Fault

/-! The registry of running sessions: a finite map from session ids to cancel flags.
The flags live beside it, since one flag may be registered twice or not at all. -/

namespace Tether

structure Registry where
  flags : Flags
  /-- Registered ids, each once, with the flag of its session. -/
  entries : List (String × Nat)
  deriving DecidableEq, Repr

namespace Registry

/-- No sessions yet, and these flags. -/
def empty (flags : Flags) : Registry := ⟨flags, []⟩

/-- The flag registered under an id. -/
def find? (r : Registry) (id : String) : Option Nat := r.entries.lookup id

def contains (r : Registry) (id : String) : Bool := (r.find? id).isSome

/-- Registers a session; an id that is taken stays as it is. -/
def insert (r : Registry) (id : String) (flag : Nat) : Except SessionFault Unit × Registry :=
  if r.contains id then (.error (.alreadyExists id), r)
  else (.ok (), { r with entries := r.entries ++ [(id, flag)] })

/-- Forgets a session and answers with its flag. -/
def remove (r : Registry) (id : String) : Option Nat × Registry :=
  (r.find? id, { r with entries := r.entries.filter (·.1 ≠ id) })

/-- Tells a flag how it ends, whether it is registered or not. -/
def setFlag (r : Registry) (flag : Nat) (next : CancelState) : Bool × Registry :=
  let (moved, flags) := r.flags.set flag next
  (moved, { r with flags := flags })

/-- Asks one session to finish. -/
def stop (r : Registry) (id : String) : Except SessionFault Unit × Registry :=
  match r.find? id with
  | none => (.error (.notFound id), r)
  | some flag => (.ok (), (r.setFlag flag .completed).2)

/-- Asks every session to finish. -/
def stopAll (r : Registry) : Registry :=
  r.entries.foldl (fun r entry => (r.setFlag entry.2 .completed).2) r

/-- The ids, by bytes. -/
def ids (r : Registry) : List String := (r.entries.map (·.1)).mergeSort (· ≤ ·)

def size (r : Registry) : Nat := r.entries.length

end Registry

end Tether
