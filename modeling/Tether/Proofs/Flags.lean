import Tether.Cancel

/-! One flag, and many flags of which one is set. -/

namespace Tether

/-- A flag after an end was asked for, or was not. -/
def CancelState.after (s : CancelState) (asked : Option CancelState) : CancelState :=
  asked.elim s fun next => (s.set next).2

theorem CancelState.after_after (s : CancelState) (asked : Option CancelState) :
    (s.after asked).after asked = s.after asked := by
  cases asked with
  | none => rfl
  | some next => cases s <;> cases next <;> rfl

theorem CancelState.after_of_moved {s t : CancelState} {asked : Option CancelState}
    (moved : t = s ∨ t = s.after asked) : t.after asked = s.after asked := by
  rcases moved with rfl | rfl
  · rfl
  · exact after_after s asked

/-- The flag has the first end that was asked for. -/
theorem CancelState.after_head? {h : List CancelState} {asked : Option CancelState}
    (ends : ∀ a ∈ h, a.isTerminal = true) (asks : ∀ a, asked = some a → a.isTerminal = true) :
    (h.head?.getD .running).after asked = (h ++ asked.toList).head?.getD .running := by
  cases asked with
  | none => rw [Option.toList_none, List.append_nil]; rfl
  | some next =>
    cases h with
    | nil =>
      have terminal := asks next rfl
      cases next with
      | running => cases terminal
      | canceled => rfl
      | completed => rfl
    | cons a h =>
      have terminal := ends a List.mem_cons_self
      simp [after, set, terminal]

namespace Flags

variable (fs : Flags) (flag : Nat) (next : CancelState)

@[simp] theorem length_states_set : (fs.set flag next).2.states.length = fs.states.length :=
  List.length_set

theorem get_set_self (made : flag < fs.states.length) :
    (fs.set flag next).2.get flag = ((fs.get flag).set next).2 := by
  simp [set, get, made]

theorem get_set_of_ne {other : Nat} (ne : other ≠ flag) :
    (fs.set flag next).2.get other = fs.get other := by
  simp [set, get, List.getElem?_set_ne ne.symm]

/-- Setting one flag of many. -/
theorem get_set {fs : Flags} {flag : Nat} (made : flag < fs.states.length) (other : Nat)
    (next : CancelState) :
    (fs.set other next).2.get flag =
      (fs.get flag).after (if flag = other then some next else none) := by
  split
  · next same =>
    subst same
    exact get_set_self fs flag next made
  · next ne => exact get_set_of_ne fs other next ne

end Flags

end Tether
