import Tether.Cancel

/-! What is known of handles from the events alone: which new flag each of them goes back to, and
what was asked of each flag through them. How a flag takes it is not told here. -/

namespace Tether.Handles

/-- No handles. -/
def empty : Handles := ⟨⟨[]⟩, []⟩

/-- The handles after some events. -/
def after (es : List Event) : Handles := (empty.run es).2

example : after [.fresh] = one := rfl

/-- A flag is known by how many flags were made before it. -/
structure Chronicle where
  made : Nat
  /-- The flag of each handle. -/
  owners : List Nat
  /-- The states that each flag was told to take, in order. -/
  asked : Nat → List CancelState

namespace Chronicle

def note (c : Chronicle) : Event → Chronicle
  | .fresh => { c with made := c.made + 1, owners := c.owners ++ [c.made] }
  | .clone i => { c with owners := c.owners ++ (c.owners[i]?).toList }
  | .drop i => { c with owners := c.owners.eraseIdx i }
  | .set i next =>
    { c with asked := fun flag =>
        if c.owners[i]? = some flag then c.asked flag ++ [next] else c.asked flag }
  | .wait _ => c

def of (es : List Event) : Chronicle := es.foldl note ⟨0, [], fun _ => []⟩

/-- The first end that a flag was told to take. -/
def first? (c : Chronicle) (flag : Nat) : Option CancelState :=
  (c.asked flag).find? CancelState.isTerminal

end Chronicle

/-- What an event set and reported as set: a flag, and its end. -/
def granted? (h : Handles) (e : Event) : Option (Nat × CancelState) :=
  match e, (h.step e).1 with
  | .set i next, .moved true => (h.target i).map (·, next)
  | _, _ => none

/-- All that events set and reported as set, in order. -/
def granted (h : Handles) : List Event → List (Nat × CancelState)
  | [] => []
  | e :: es => (h.granted? e).toList ++ (h.step e).2.granted es

end Tether.Handles
