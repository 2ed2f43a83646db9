import Tether.Proofs.Lists
import Tether.Proofs.Registry
import Tether.Registry.Book

/-! The registry as a finite map from ids to flags. Every call does to the registry what it does to
the book, and gives the same answer, however many ids share a flag. -/

namespace Tether

theorem CancelState.after_completed (s : CancelState) (p : Prop) [Decidable p] :
    s.after (if p then some .completed else none) =
      if p ∧ s = .running then .completed else s := by
  by_cases hit : p <;> cases s <;> simp [hit, after, set, isTerminal]

theorem CancelState.set_eq (s next : CancelState) :
    s.set next = if s = .running ∧ next ≠ .running then (true, next) else (false, s) := by
  cases s <;> cases next <;> rfl

theorem Flags.get_of_length_le {fs : Flags} {flag : Nat} (past : fs.states.length ≤ flag) :
    fs.get flag = .running := by
  rw [get, List.getD_eq_getElem?_getD, List.getElem?_eq_none past]
  rfl

namespace Registry

variable {r : Registry} {id : String} {flag n : Nat}

/-! ### Ids -/

theorem contains_of_find? (found : r.find? id = some flag) : r.contains id = true := by
  rw [contains, found]
  rfl

theorem contains_eq_false_iff : r.contains id = false ↔ r.find? id = none := by
  rw [contains, Option.isSome_eq_false_iff, Option.isNone_iff_eq_none]

theorem find?_insert (free : r.find? id = none) (flag : Nat) :
    (r.insert id flag).2.find? = Function.update r.find? id (some flag) := by
  rw [insert_of_free (contains_eq_false_iff.mpr free)]
  funext other
  change (r.entries ++ [(id, flag)]).lookup other = _
  rw [List.lookup_append]
  by_cases same : other = id
  · subst same
    have free : r.entries.lookup other = none := free
    simp [free]
  · have ne : (other == id) = false := by simpa using same
    simp [List.lookup_cons, ne, Function.update_of_ne same, find?]

theorem find?_remove (r : Registry) (id : String) :
    (r.remove id).2.find? = Function.update r.find? id none := by
  funext other
  change (r.entries.filter fun e => decide (e.1 ≠ id)).lookup other = _
  rw [lookup_filter fun k => decide (k ≠ id)]
  by_cases same : other = id
  · subst same
    simp
  · simp [same, find?]

/-- Every id has one entry, and every entry a flag that is there. -/
structure Sound (n : Nat) (r : Registry) : Prop where
  distinct : r.Distinct
  length : r.flags.states.length = n
  made : ∀ e ∈ r.entries, e.2 < n

theorem sound_empty (states : List CancelState) : Sound states.length (empty ⟨states⟩) where
  distinct := List.nodup_nil
  length := rfl
  made := nofun

theorem Sound.lt_of_find? (s : Sound n r) (found : r.find? id = some flag) : flag < n :=
  s.made (id, flag) (s.distinct.find?_eq_some_iff.mp found)

theorem Sound.mem_flags_iff (s : Sound n r) :
    flag ∈ r.entries.map Prod.snd ↔ ∃ id, r.find? id = some flag := by
  simp [s.distinct.find?_eq_some_iff]

theorem Sound.insert (s : Sound n r) (made : flag < n) (id : String) :
    Sound n (r.insert id flag).2 := by
  cases taken : r.contains id with
  | true => rwa [insert_of_contains taken]
  | false =>
    have distinct := s.distinct.insert id flag
    rw [insert_of_free taken] at distinct ⊢
    refine ⟨distinct, s.length, fun e mem => ?_⟩
    rcases List.mem_append.mp mem with old | new
    · exact s.made e old
    · cases List.mem_singleton.mp new
      exact made

theorem Sound.of_entries {r' : Registry} (s : Sound n r) (entries : r'.entries = r.entries)
    (length : r'.flags.states.length = r.flags.states.length) : Sound n r' := by
  refine ⟨?_, length.trans s.length, ?_⟩
  · rw [Distinct, entries]
    exact s.distinct
  · rw [entries]
    exact s.made

theorem Sound.step (s : Sound n r) {e : Event} (names : e.Names n) : Sound n (r.step e).2 := by
  cases e with
  | insert id flag => exact s.insert names id
  | remove id =>
    exact ⟨s.distinct.remove id, s.length, fun e mem => s.made e (mem_entries_remove.mp mem).1⟩
  | contains id => exact s
  | stop id => exact s.of_entries entries_stop length_stop
  | stopAll => exact s.of_entries entries_stopAll length_stopAll
  | told flag next => exact s.of_entries rfl (Flags.length_states_set ..)

/-! ### States -/

theorem find?_eq_of_entries {r' : Registry} (same : r'.entries = r.entries) :
    r'.find? = r.find? := by
  funext id
  rw [find?, find?, same]

/-- Telling flags that are there to complete is what the book says of it. -/
theorem book_of_after {r' : Registry} {those : Nat → Prop} [DecidablePred those]
    (entries : r'.entries = r.entries)
    (length : r'.flags.states.length = r.flags.states.length)
    (there : ∀ flag, those flag → flag < r.flags.states.length)
    (after : ∀ flag < r.flags.states.length, r'.flags.get flag =
      (r.flags.get flag).after (if those flag then some .completed else none)) :
    r'.book = r.book.complete those := by
  have states : r'.flags.get = (r.book.complete those).state := by
    funext flag
    by_cases made : flag < r.flags.states.length
    · rw [after flag made, CancelState.after_completed]
      rfl
    · have outside : ¬ those flag := fun hit => made (there flag hit)
      have past : r.flags.states.length ≤ flag := Nat.le_of_not_lt made
      rw [Flags.get_of_length_le (length ▸ past), Book.complete]
      simp [outside, book, Flags.get_of_length_le past]
  rw [book, find?_eq_of_entries entries, states]
  rfl

theorem Sound.book_stop (s : Sound n r) (found : r.find? id = some flag) :
    (r.stop id).2.book = r.book.complete (· = flag) := by
  apply book_of_after entries_stop length_stop
  · rintro _ rfl
    rw [s.length]
    exact s.lt_of_find? found
  · intro other made
    rw [get_stop made, found]
    simp [eq_comm]

theorem Sound.book_stopAll (s : Sound n r) [DecidablePred fun flag => ∃ id, r.find? id = some flag] :
    r.stopAll.book = r.book.complete fun flag => ∃ id, r.find? id = some flag := by
  apply book_of_after entries_stopAll length_stopAll
  · rintro flag ⟨id, found⟩
    rw [s.length]
    exact s.lt_of_find? found
  · intro flag made
    rw [stopAll_eq, get_setFlags _ _ made]
    simp only [s.mem_flags_iff]

theorem Sound.book_setFlag (s : Sound n r) (made : flag < n) (next : CancelState) :
    ((r.setFlag flag next).1, (r.setFlag flag next).2.book) =
      if r.flags.get flag = .running ∧ next ≠ .running then
        (true, { r.book with state := Function.update r.book.state flag next })
      else (false, r.book) := by
  have there : flag < r.flags.states.length := s.length ▸ made
  have self := Flags.get_set_self r.flags flag next there
  have others : (r.setFlag flag next).2.flags.get =
      Function.update r.flags.get flag ((r.flags.get flag).set next).2 := by
    funext other
    by_cases same : other = flag
    · subst same
      rw [Function.update_self]
      exact self
    · rw [Function.update_of_ne same]
      exact Flags.get_set_of_ne r.flags flag next same
  have moved : (r.setFlag flag next).1 = ((r.flags.get flag).set next).1 := rfl
  rw [book, others, moved, CancelState.set_eq]
  split
  · rfl
  · rw [Function.update_eq_self]
    rfl

/-! ### Calls -/

open Classical in
/-- One call does to the registry what it does to the book. -/
theorem Sound.book_step (s : Sound n r) {e : Event} (names : e.Names n) :
    ((r.step e).1, (r.step e).2.book) = r.book.step e := by
  cases e with
  | insert id flag =>
    rw [step_insert]
    cases under : r.find? id with
    | none =>
      have vacant := contains_eq_false_iff.mpr under
      have result : (r.insert id flag).1 = .ok () := by rw [insert_of_free vacant]
      have states : (r.insert id flag).2.flags = r.flags := by rw [insert_of_free vacant]
      rw [result, book, find?_insert under, states]
      simp [Book.step, book, under]
    | some other =>
      rw [insert_of_contains (contains_of_find? under)]
      simp [Book.step, book, under]
  | remove id =>
    rw [step_remove, book, find?_remove]
    rfl
  | contains id => rfl
  | stop id =>
    rw [step_stop]
    cases under : r.find? id with
    | none =>
      have result : r.stop id = (.error (.notFound id), r) := by rw [stop, under]
      rw [result]
      simp [Book.step, book, under]
    | some flag =>
      have result : (r.stop id).1 = .ok () := by rw [stop_of_find? under]
      rw [result, s.book_stop under]
      simp [Book.step, book, under]
  | stopAll =>
    exact congrArg (Prod.mk _) s.book_stopAll
  | told flag next =>
    rw [step_told]
    have told := s.book_setFlag names next
    by_cases effective : r.flags.get flag = .running ∧ next ≠ .running
    · rw [if_pos effective] at told
      obtain ⟨moved, after⟩ := Prod.mk.inj told
      rw [moved, after]
      exact (if_pos effective).symm
    · rw [if_neg effective] at told
      obtain ⟨moved, after⟩ := Prod.mk.inj told
      rw [moved, after]
      exact (if_neg effective).symm

theorem Sound.book_run (s : Sound n r) {es : List Event} (names : ∀ e ∈ es, e.Names n) :
    ((r.run es).1, (r.run es).2.book) = r.book.run es ∧ Sound n (r.run es).2 := by
  induction es generalizing r with
  | nil => exact ⟨rfl, s⟩
  | cons e es ih =>
    obtain ⟨named, later⟩ := List.forall_mem_cons.mp names
    obtain ⟨same, sound⟩ := ih (s.step named) later
    have first := s.book_step named
    refine ⟨?_, sound⟩
    rw [Book.run, ← first]
    change _ = ((r.step e).1 :: ((r.step e).2.book.run es).1, ((r.step e).2.book.run es).2)
    rw [← same]
    rfl

/-- What was put under an id stays there until it is taken away. -/
theorem find?_step (found : r.find? id = some flag) {e : Event} (other : e ≠ .remove id) :
    (r.step e).2.find? id = some flag := by
  cases e with
  | insert id' flag' =>
    rw [step_insert]
    cases under : r.find? id' with
    | none =>
      have ne : id ≠ id' := by
        rintro rfl
        cases found.symm.trans under
      rw [find?_insert under, Function.update_of_ne ne, found]
    | some _ => rwa [insert_of_contains (contains_of_find? under)]
  | remove id' =>
    have ne : id ≠ id' := fun same => other (congrArg _ same.symm)
    rw [step_remove, find?_remove, Function.update_of_ne ne, found]
  | stop id' => rwa [step_stop, find?_eq_of_entries entries_stop]
  | stopAll => exact (congrFun (find?_eq_of_entries entries_stopAll) id).trans found
  | contains _ | told _ _ => exact found

theorem find?_run (found : r.find? id = some flag) {es : List Event} (kept : .remove id ∉ es) :
    (r.run es).2.find? id = some flag := by
  induction es generalizing r with
  | nil => exact found
  | cons e es ih =>
    obtain ⟨other, later⟩ := not_or.mp fun mem => kept (List.mem_cons.mpr mem)
    exact ih (find?_step found (Ne.symm other)) later

theorem run_append (r : Registry) (es es' : List Event) :
    (r.run (es ++ es')).2 = ((r.run es).2.run es').2 := by
  induction es generalizing r with
  | nil => rfl
  | cons e es ih => exact ih (r.step e).2

theorem mem_ids_iff : id ∈ r.ids ↔ (r.find? id).isSome = true := by
  rw [ids, List.mem_mergeSort]
  exact contains_iff.symm

theorem Distinct.nodup_ids (h : r.Distinct) : r.ids.Nodup :=
  (List.mergeSort_perm _ _).nodup_iff.mpr h

theorem length_ids : r.ids.length = r.size := by
  rw [ids, List.length_mergeSort, List.length_map, size]

/-- Flags in any states, and any calls on a registry that begins empty: it answers as the book does
and comes to what the book comes to. Each id is listed once, just if a flag is under it. The flag
that was put under a free id is the one that is given back when the id is freed. -/
theorem behaves_as_map (states : List CancelState) (es : List Event)
    (names : ∀ e ∈ es, e.Names states.length) :
    let start := empty ⟨states⟩
    let r := (start.run es).2
    ((start.run es).1, r.book) = (Book.mk (fun _ => none) (Flags.get ⟨states⟩)).run es ∧
    r.ids.Nodup ∧ r.ids.length = r.size ∧
    (∀ id, id ∈ r.ids ↔ (r.book.under id).isSome = true) ∧
    ∀ before id flag between, es = before ++ .insert id flag :: between →
      (start.run before).2.contains id = false → .remove id ∉ between →
      (r.step (.remove id)).1 = .removed (some flag) ∧
      (r.step (.remove id)).2.contains id = false := by
  intro start r
  obtain ⟨same, sound⟩ := (sound_empty states).book_run names
  refine ⟨same, sound.distinct.nodup_ids, length_ids, fun _ => mem_ids_iff, ?_⟩
  rintro before id flag between rfl free kept
  have inserted : ((start.run before).2.step (.insert id flag)).2.find? id = some flag := by
    rw [step_insert, find?_insert (contains_eq_false_iff.mp free), Function.update_self]
  have parts : r = ((start.run before).2.run (.insert id flag :: between)).2 := run_append ..
  have found : r.find? id = some flag := by
    rw [parts]
    exact find?_run inserted kept
  rw [step_remove, found]
  refine ⟨rfl, contains_eq_false_iff.mpr ?_⟩
  rw [find?_remove, Function.update_self]

/-- Two ids share a flag, one flag has ended before, and one is under no id. -/
def shared : List Event :=
  [.insert "a" 0, .insert "b" 0, .insert "a" 1, .insert "c" 1, .stop "b", .stop "d", .stopAll,
    .remove "a", .told 2 .canceled, .contains "a"]

theorem shared_behaves :
    let start := empty ⟨[.running, .canceled, .running]⟩
    (∀ e ∈ shared, e.Names 3) ∧
    (start.run shared).2 =
      ⟨⟨[.completed, .canceled, .canceled]⟩, [("b", 0), ("c", 1)]⟩ ∧
    ((start.run shared).1, (start.run shared).2.book) =
      (Book.mk (fun _ => none) (Flags.get ⟨[.running, .canceled, .running]⟩)).run shared := by
  have names : ∀ e ∈ shared, e.Names 3 := by simp [shared, Event.Names]
  exact ⟨names, by decide, (behaves_as_map [.running, .canceled, .running] shared names).1⟩

end Registry

end Tether
