import Mathlib.Data.List.Nodup
import Tether.Proofs.Flags
import Tether.Registry

/-! The registry as a finite map. While every id has one entry, what is found under an id is that
entry. Telling flags how they end leaves the entries as they are. -/

namespace Tether

namespace Registry

/-- No id has two entries. -/
def Distinct (r : Registry) : Prop := (r.entries.map Prod.fst).Nodup

variable {r : Registry} {id : String} {flag : Nat}

theorem contains_iff : r.contains id = true ↔ id ∈ r.entries.map Prod.fst := by
  rw [contains, find?, Option.isSome_iff_ne_none, ne_eq, List.lookup_eq_none_iff, List.mem_map]
  simp only [bne_iff_ne, ne_eq, not_forall, not_not, exists_prop, eq_comm (a := id)]

theorem Distinct.eq_of_mem (h : r.Distinct) {e e' : String × Nat} (mem : e ∈ r.entries)
    (mem' : e' ∈ r.entries) (same : e.1 = e'.1) : e = e' :=
  List.inj_on_of_nodup_map h mem mem' same

theorem Distinct.find?_eq_some_iff (h : r.Distinct) :
    r.find? id = some flag ↔ (id, flag) ∈ r.entries := by
  constructor
  · intro found
    obtain ⟨before, after, entries, -⟩ := List.lookup_eq_some_iff.mp found
    rw [entries]
    exact List.mem_append_right _ List.mem_cons_self
  · intro mem
    have taken : r.contains id = true := contains_iff.mpr (List.mem_map_of_mem mem)
    obtain ⟨other, found⟩ := Option.isSome_iff_exists.mp taken
    obtain ⟨before, after, entries, -⟩ := List.lookup_eq_some_iff.mp found
    have mem' : (id, other) ∈ r.entries := by
      rw [entries]
      exact List.mem_append_right _ List.mem_cons_self
    cases h.eq_of_mem mem mem' rfl
    exact found

theorem insert_of_contains (taken : r.contains id = true) (flag : Nat) :
    r.insert id flag = (.error (.alreadyExists id), r) := by
  rw [insert, if_pos taken]

theorem insert_of_free (free : r.contains id = false) (flag : Nat) :
    r.insert id flag = (.ok (), { r with entries := r.entries ++ [(id, flag)] }) := by
  rw [insert, if_neg (by rw [free]; exact Bool.false_ne_true)]

theorem mem_entries_remove {e : String × Nat} :
    e ∈ (r.remove id).2.entries ↔ e ∈ r.entries ∧ e.1 ≠ id := by
  simp [remove]

theorem Distinct.insert (h : r.Distinct) (id : String) (flag : Nat) :
    (r.insert id flag).2.Distinct := by
  cases taken : r.contains id with
  | true => rwa [insert_of_contains taken]
  | false =>
    rw [insert_of_free taken]
    have fresh : id ∉ r.entries.map Prod.fst := by
      rw [← contains_iff, taken]
      exact Bool.false_ne_true
    rw [Distinct, List.map_append]
    refine List.Nodup.append h (List.nodup_singleton _) ?_
    intro other mem single
    cases List.mem_singleton.mp single
    exact fresh mem

theorem Distinct.remove (h : r.Distinct) (id : String) : (r.remove id).2.Distinct :=
  h.sublist (List.filter_sublist.map _)

/-! ### Flags -/

@[simp] theorem entries_setFlag (next : CancelState) :
    (r.setFlag flag next).2.entries = r.entries := rfl

@[simp] theorem entries_stop : (r.stop id).2.entries = r.entries := by
  unfold stop
  split <;> rfl

theorem stop_of_find? (found : r.find? id = some flag) :
    r.stop id = (.ok (), (r.setFlag flag .completed).2) := by
  rw [stop, found]

theorem length_stop : (r.stop id).2.flags.states.length = r.flags.states.length := by
  unfold stop
  split
  · rfl
  · exact Flags.length_states_set _ _ _

/-- Telling flags one after another leaves the entries and the number of flags alone. -/
theorem setFlags_kept (flags : List Nat) (next : CancelState) (r : Registry) :
    (flags.foldl (fun r flag => (r.setFlag flag next).2) r).entries = r.entries ∧
      (flags.foldl (fun r flag => (r.setFlag flag next).2) r).flags.states.length =
        r.flags.states.length := by
  induction flags generalizing r with
  | nil => exact ⟨rfl, rfl⟩
  | cons flag flags ih =>
    obtain ⟨entries, length⟩ := ih (r.setFlag flag next).2
    exact ⟨entries.trans (entries_setFlag next), length.trans (Flags.length_states_set _ _ _)⟩

theorem stopAll_eq (r : Registry) :
    r.stopAll = (r.entries.map Prod.snd).foldl (fun r flag => (r.setFlag flag .completed).2) r := by
  rw [List.foldl_map]
  rfl

@[simp] theorem entries_stopAll : r.stopAll.entries = r.entries := by
  rw [stopAll_eq]
  exact (setFlags_kept _ _ _).1

theorem length_stopAll : r.stopAll.flags.states.length = r.flags.states.length := by
  rw [stopAll_eq]
  exact (setFlags_kept _ _ _).2

theorem get_stop (made : flag < r.flags.states.length) (id : String) :
    (r.stop id).2.flags.get flag =
      (r.flags.get flag).after (if r.find? id = some flag then some .completed else none) := by
  cases found : r.find? id with
  | none =>
    rw [stop, found]
    rfl
  | some other =>
    rw [stop_of_find? found]
    simp only [Option.some_inj, eq_comm (a := other)]
    exact Flags.get_set made other .completed

theorem get_setFlags (flags : List Nat) (next : CancelState) (made : flag < r.flags.states.length) :
    (flags.foldl (fun r flag => (r.setFlag flag next).2) r).flags.get flag =
      (r.flags.get flag).after (if flag ∈ flags then some next else none) := by
  induction flags generalizing r with
  | nil => rfl
  | cons other flags ih =>
    have set : (r.setFlag other next).2.flags.get flag = _ := Flags.get_set made other next
    rw [List.foldl_cons, ih (by rwa [setFlag, Flags.length_states_set]), set]
    by_cases same : flag = other
    · rw [if_pos same, if_pos (List.mem_cons.mpr (.inl same))]
      split
      · exact CancelState.after_after _ _
      · rfl
    · rw [if_neg same]
      simp only [List.mem_cons, same, false_or]
      rfl

end Registry

end Tether
