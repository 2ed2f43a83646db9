import Mathlib.Data.List.Induction

/-! Lists as tables of entries, where something is found under a key, and as histories, where
something stands at one place. -/

namespace Tether

variable {β γ : Type}

theorem lookup_eq_none {key : String} {es : List (String × β)}
    (new : key ∉ es.map Prod.fst) : es.lookup key = none := by
  rw [List.lookup_eq_none_iff]
  intro e mem
  have differs : key ≠ e.1 := fun same => new (same ▸ List.mem_map_of_mem mem)
  simpa using differs

theorem lookup_filter (p : String → Bool) (l : List (String × β)) (k : String) :
    (l.filter fun e => p e.1).lookup k = if p k then l.lookup k else none := by
  induction l with
  | nil => simp
  | cons e l ih =>
    obtain ⟨key, b⟩ := e
    by_cases same : k = key
    · subst same
      cases selected : p k <;> simp [selected, ih]
    · have other : (k == key) = false := by simpa using same
      cases selected : p key <;> simp [List.lookup_cons, selected, other, ih]

theorem lookup_map (f : String → β → γ) (l : List (String × β)) (k : String) :
    (l.map fun e => (e.1, f e.1 e.2)).lookup k = (l.lookup k).map (f k) := by
  induction l with
  | nil => rfl
  | cons e l ih =>
    obtain ⟨key, b⟩ := e
    by_cases same : k = key
    · subst same
      simp
    · have other : (k == key) = false := by simpa using same
      simp [List.lookup_cons, other, ih]

/-- An element of a history is its last one or is from before. -/
theorem concat_eq_append_cons_iff {xs before between : List β} {x y : β} :
    xs ++ [x] = before ++ y :: between ↔
      (xs = before ∧ x = y ∧ between = []) ∨
        ∃ rest, between = rest ++ [x] ∧ xs = before ++ y :: rest := by
  constructor
  · intro split
    cases between using List.reverseRecOn with
    | nil =>
      obtain ⟨same, last⟩ := List.append_inj' split rfl
      exact .inl ⟨same, List.head_eq_of_cons_eq last, rfl⟩
    | append_singleton rest _ =>
      rw [← List.cons_append, ← List.append_assoc] at split
      obtain ⟨same, last⟩ := List.append_inj' split rfl
      rw [← List.head_eq_of_cons_eq last]
      exact .inr ⟨rest, rfl, same⟩
  · rintro (⟨rfl, rfl, rfl⟩ | ⟨rest, rfl, rfl⟩)
    · rfl
    · rw [List.append_assoc]
      rfl

end Tether
