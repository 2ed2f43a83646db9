import Tether.Job.Basic
import Tether.Proofs.Registry

/-! Jobs that share a registry. A job enters it once and takes away what it entered, so at every
moment the entries are those of the jobs in between and those that others made. -/

namespace Tether

namespace Job

/-! ### One job -/

/-- The entry that a job has in the registry. -/
def holding (j : Job) : Option (String × Nat) :=
  if j.isRegistered then some (j.id, j.flag) else none

/-- What an event of a job does to the registry: nothing, unless the job enters it or leaves
it. -/
inductive Moves (j : Job) (r : Registry) (j' : Job) : Registry → Prop where
  | stays : j'.holding = j.holding → Moves j r j' r
  | enters : r.contains j.id = false → j.holding = none → j'.holding = some (j.id, j.flag) →
      Moves j r j' { r with entries := r.entries ++ [(j.id, j.flag)] }
  | leaves : j.holding = some (j.id, j.flag) → j'.holding = none → Moves j r j' (r.remove j.id).2

/-- What a job has done by the time it is to report a code. -/
inductive Worked : String → List Effect → Prop where
  /-- Its id does not fit, or is taken. -/
  | refused {code : String} : code = initFailedCode ∨ code = duplicateCode → Worked code []
  | uncreated : Worked initFailedCode [.create]
  | unopened : Worked openFailedCode [.create, .dial]
  /-- Its plugin ran to its end, and the channel was closed. -/
  | ran (code : String) : Worked code [.create, .dial, .execute, .hangUp]

/-- What a job has done by the time it has come to a phase. -/
inductive Course (id : String) : Phase → List Effect → Prop where
  | fresh : Course id .fresh []
  | registered : Course id .registered [.create]
  | dialing : Course id .dialing [.create, .dial]
  | delaying : Course id .delaying [.create, .dial]
  | running : Course id .running [.create, .dial, .execute]
  | closing (code : String) : Course id (.closing code) [.create, .dial, .execute, .hangUp]
  | leaving {code : String} {path : List Effect} :
      Worked code path → Course id (.leaving code) path
  | reporting {code : String} {path : List Effect} :
      Worked code path → Course id (.reporting code) path
  /-- The one report is the last thing that a job does. -/
  | done {code : String} {path : List Effect} :
      Worked code path → Course id (.done code) (path ++ [.report ⟨id, code⟩])

variable (j : Job) (r : Registry) (e : Event)

theorem register_id : (j.register r).1.id = j.id ∧ (j.register r).1.flag = j.flag := by
  unfold register
  repeat' split
  all_goals exact ⟨rfl, rfl⟩

theorem step_id : (j.step r e).1.id = j.id ∧ (j.step r e).1.flag = j.flag := by
  unfold step
  split
  · exact register_id j r
  all_goals repeat' split
  all_goals exact ⟨rfl, rfl⟩

theorem register_flags : (j.register r).2.1.flags = r.flags := by
  unfold register
  split
  · rfl
  · cases taken : r.contains j.id with
    | true => rw [Registry.insert_of_contains taken]
    | false => rw [Registry.insert_of_free taken]

theorem step_flags : (j.step r e).2.1.flags = r.flags := by
  unfold step
  split
  · exact register_flags j r
  all_goals repeat' split
  all_goals rfl

theorem register_moves (id : String) (flag : Nat) :
    Moves ⟨id, flag, .fresh⟩ r (register ⟨id, flag, .fresh⟩ r).1
      (register ⟨id, flag, .fresh⟩ r).2.1 := by
  unfold register
  split
  · exact .stays rfl
  · dsimp only
    cases taken : r.contains id with
    | true =>
      rw [Registry.insert_of_contains taken]
      exact .stays rfl
    | false =>
      rw [Registry.insert_of_free taken]
      exact .enters taken rfl rfl

theorem step_moves : Moves j r (j.step r e).1 (j.step r e).2.1 := by
  obtain ⟨id, flag, phase⟩ := j
  cases phase with
  | fresh =>
    cases e with
    | begun => exact register_moves r id flag
    | _ => exact .stays rfl
  | registered =>
    cases e with
    | created fine => cases fine <;> exact .stays rfl
    | _ => exact .stays rfl
  | dialing =>
    cases e with
    | opened fine => cases fine <;> exact .stays rfl
    | _ => exact .stays rfl
  | leaving code =>
    cases e with
    | left => exact .leaves rfl rfl
    | _ => exact .stays rfl
  | _ => cases e <;> exact .stays rfl

theorem register_course :
    Course j.id (j.register r).1.phase (j.register r).2.2 := by
  unfold register
  split
  · exact .reporting (.refused (.inl rfl))
  · cases taken : r.contains j.id with
    | true =>
      rw [Registry.insert_of_contains taken]
      exact .reporting (.refused (.inr rfl))
    | false =>
      rw [Registry.insert_of_free taken]
      exact .registered

theorem step_course {path : List Effect} (h : Course j.id j.phase path) :
    Course j.id (j.step r e).1.phase (path ++ (j.step r e).2.2) := by
  obtain ⟨id, flag, phase⟩ := j
  -- An event that does not fit the phase adds nothing to the path.
  have same : Course id phase (path ++ []) := by rwa [List.append_nil]
  cases h with
  | fresh =>
    cases e with
    | begun => exact register_course _ r
    | _ => exact same
  | registered =>
    cases e with
    | created fine =>
      cases fine with
      | true => exact .dialing
      | false => exact .leaving .uncreated
    | _ => exact same
  | dialing =>
    cases e with
    | opened fine =>
      cases fine with
      | true => exact .delaying
      | false => exact .leaving .unopened
    | _ => exact same
  | delaying =>
    cases e with
    | delayed => exact .running
    | _ => exact same
  | running =>
    cases e with
    | ended code => exact .closing code
    | _ => exact same
  | closing code =>
    cases e with
    | closed => exact .leaving (.ran code)
    | _ => exact same
  | leaving worked =>
    cases e with
    | left =>
      rw [← List.append_nil path] at worked
      exact .reporting worked
    | _ => exact same
  | reporting worked =>
    cases e with
    | reported fine => exact .done worked
    | _ => exact same
  | done worked => cases e <;> exact same

/-! ### The end of a job -/

/-- How far a phase is from the start. -/
def Phase.rank : Phase → Nat
  | .fresh => 0
  | .registered => 1
  | .dialing => 2
  | .delaying => 3
  | .running => 4
  | .closing _ => 5
  | .leaving _ => 6
  | .reporting _ => 7
  | .done _ => 8

/-- The rank of the phase that an event is for. -/
def Event.rank : Event → Nat
  | .begun => 0
  | .created _ => 1
  | .opened _ => 2
  | .delayed => 3
  | .ended _ => 4
  | .closed => 5
  | .left => 6
  | .reported _ => 7

theorem register_rank : 0 < (j.register r).1.phase.rank := by
  unfold register
  repeat' split
  all_goals exact Nat.zero_lt_succ _

/-- No event takes a job back, and the one that a phase waits for takes it on. -/
theorem step_rank : j.phase.rank ≤ (j.step r e).1.phase.rank ∧
    (e.rank ≤ j.phase.rank → e.rank < (j.step r e).1.phase.rank) := by
  obtain ⟨id, flag, phase⟩ := j
  cases phase with
  | fresh =>
    cases e with
    | begun => exact ⟨Nat.zero_le _, fun _ => register_rank _ r⟩
    | _ => simp [step, Phase.rank, Event.rank]
  | registered =>
    cases e with
    | created fine => cases fine <;> simp [step, Phase.rank, Event.rank]
    | _ => simp [step, Phase.rank, Event.rank]
  | dialing =>
    cases e with
    | opened fine => cases fine <;> simp [step, Phase.rank, Event.rank]
    | _ => simp [step, Phase.rank, Event.rank]
  | _ => cases e <;> simp [step, Phase.rank, Event.rank]

/-- The events of a job from its start to its end, under these answers. -/
def lifetime (created opened : Bool) (code : String) (reported : Bool) : List Event :=
  [.begun, .created created, .opened opened, .delayed, .ended code, .closed, .left,
    .reported reported]

end Job

namespace Jobs

/-! ### The registry -/

/-- The entry that the job with this index has in the registry. -/
def holding (s : Jobs) (i : Nat) : Option (String × Nat) := (s.jobs[i]?).bind Job.holding

/-- The jobs and the registry agree, where others have made the entries `guests`. -/
structure Agreeing (guests : List (String × Nat)) (s : Jobs) : Prop where
  distinct : s.registry.Distinct
  entries : ∀ entry, entry ∈ s.registry.entries ↔
    entry ∈ guests ∨ ∃ i, s.holding i = some entry
  /-- Each job has a flag of its own. -/
  own : (s.jobs.map Job.flag).Nodup
  foreign : ∀ entry ∈ guests, entry.2 ∉ s.jobs.map Job.flag
  made : ∀ flag, flag ∈ s.jobs.map Job.flag ∨ flag ∈ guests.map Prod.snd →
    flag < s.registry.flags.states.length

theorem agreeing_start (flags : Flags) : Agreeing [] (start (.empty flags)) where
  distinct := List.nodup_nil
  entries := by simp [start, Registry.empty, holding]
  own := List.nodup_nil
  foreign := nofun
  made := by simp [start]

variable {guests : List (String × Nat)} {s : Jobs}

theorem holding_eq_some_iff {i : Nat} {entry : String × Nat} :
    s.holding i = some entry ↔
      ∃ j, s.jobs[i]? = some j ∧ j.isRegistered = true ∧ entry = (j.id, j.flag) := by
  simp only [holding, Option.bind_eq_some_iff, Job.holding]
  constructor
  · rintro ⟨j, found, entered⟩
    split at entered
    · next registered => exact ⟨j, found, registered, (Option.some.inj entered).symm⟩
    · cases entered
  · rintro ⟨j, found, registered, rfl⟩
    exact ⟨j, found, if_pos registered⟩

theorem holding_set_self {i : Nat} {j j' : Job} (found : s.jobs[i]? = some j) (r : Registry) :
    holding ⟨r, s.jobs.set i j'⟩ i = j'.holding := by
  rw [holding, List.getElem?_set_self (List.getElem?_eq_some_iff.mp found).1]
  rfl

theorem holding_set_of_ne {i k : Nat} (ne : i ≠ k) (j' : Job) (r : Registry) :
    holding ⟨r, s.jobs.set i j'⟩ k = s.holding k := by
  rw [holding, List.getElem?_set_ne ne]
  rfl

theorem exists_holding_set {i : Nat} {j j' : Job} (found : s.jobs[i]? = some j) {r : Registry}
    {entry : String × Nat} : (∃ k, holding ⟨r, s.jobs.set i j'⟩ k = some entry) ↔
      j'.holding = some entry ∨ ∃ k, k ≠ i ∧ s.holding k = some entry := by
  constructor
  · rintro ⟨k, entered⟩
    by_cases own : i = k
    · subst own
      rw [holding_set_self found] at entered
      exact .inl entered
    · rw [holding_set_of_ne own] at entered
      exact .inr ⟨k, Ne.symm own, entered⟩
  · rintro (entered | ⟨k, other, entered⟩)
    · exact ⟨i, by rwa [holding_set_self found]⟩
    · exact ⟨k, by rwa [holding_set_of_ne (Ne.symm other)]⟩

theorem exists_holding {i : Nat} {j : Job} (found : s.jobs[i]? = some j)
    {entry : String × Nat} : (∃ k, s.holding k = some entry) ↔
      j.holding = some entry ∨ ∃ k, k ≠ i ∧ s.holding k = some entry := by
  obtain ⟨lt, rfl⟩ := List.getElem?_eq_some_iff.mp found
  rw [← exists_holding_set found (r := s.registry), List.set_getElem_self]

theorem map_flag_set {i : Nat} {j j' : Job} (found : s.jobs[i]? = some j)
    (flag : j'.flag = j.flag) : (s.jobs.set i j').map Job.flag = s.jobs.map Job.flag := by
  obtain ⟨lt, rfl⟩ := List.getElem?_eq_some_iff.mp found
  rw [List.map_set, flag, ← List.getElem_map Job.flag (h := by rwa [List.length_map]),
    List.set_getElem_self]

namespace Agreeing

variable (h : Agreeing guests s)

include h

theorem eq_of_flag {i k : Nat} {j j' : Job} (found : s.jobs[i]? = some j)
    (found' : s.jobs[k]? = some j') (same : j.flag = j'.flag) : i = k := by
  have left : (s.jobs.map Job.flag)[i]? = some j.flag := by rw [List.getElem?_map, found]; rfl
  have right : (s.jobs.map Job.flag)[k]? = some j.flag := by
    rw [List.getElem?_map, found', same]; rfl
  have lt := (List.getElem?_eq_some_iff.mp left).1
  exact (List.getElem?_inj lt h.own).mp (left.trans right.symm)

theorem mem_of_registered {i : Nat} {j : Job} (found : s.jobs[i]? = some j)
    (registered : j.isRegistered = true) : (j.id, j.flag) ∈ s.registry.entries :=
  (h.entries _).mpr (.inr ⟨i, holding_eq_some_iff.mpr ⟨j, found, registered, rfl⟩⟩)

/-- Of the entries under the id of a registered job, the job's own is the only one. -/
theorem eq_of_id {i : Nat} {j : Job} (found : s.jobs[i]? = some j)
    (registered : j.isRegistered = true) {entry : String × Nat}
    (mem : entry ∈ s.registry.entries) (same : entry.1 = j.id) : entry = (j.id, j.flag) :=
  h.distinct.eq_of_mem mem (h.mem_of_registered found registered) same

theorem eq_of_registered {i k : Nat} {j j' : Job} (found : s.jobs[i]? = some j)
    (found' : s.jobs[k]? = some j') (registered : j.isRegistered = true)
    (registered' : j'.isRegistered = true) (same : j.id = j'.id) : i = k := by
  have one := h.eq_of_id found' registered' (h.mem_of_registered found registered) same
  exact h.eq_of_flag found found' (congrArg Prod.snd one)

theorem find?_eq_some_iff (id : String) (flag : Nat) :
    s.registry.find? id = some flag ↔ (id, flag) ∈ guests ∨
      ∃ (i : Nat) (j : Job),
        s.jobs[i]? = some j ∧ j.isRegistered = true ∧ j.id = id ∧ j.flag = flag := by
  rw [h.distinct.find?_eq_some_iff, h.entries]
  simp only [holding_eq_some_iff, Prod.mk.injEq, eq_comm (a := id), eq_comm (a := flag)]

theorem stop {i : Nat} {j : Job} (found : s.jobs[i]? = some j)
    (registered : j.isRegistered = true) :
    let stopped := (s.step (.stop j.id)).1.registry.flags
    (stopped.get j.flag).isTerminal = true ∧
      ∀ flag, flag ≠ j.flag → stopped.get flag = s.registry.flags.get flag := by
  have own := h.distinct.find?_eq_some_iff.mpr (h.mem_of_registered found registered)
  have made := h.made j.flag (.inl (List.mem_map_of_mem (List.mem_of_getElem? found)))
  simp only [Jobs.step, Registry.stop_of_find? own, Registry.setFlag]
  refine ⟨?_, fun flag ne => Flags.get_set_of_ne _ _ _ ne⟩
  rw [Flags.get_set_self _ _ _ made]
  cases s.registry.flags.get j.flag <;> rfl

/-- An event of a job leaves alone what is not the job's. -/
theorem frame {i : Nat} {j : Job} (found : s.jobs[i]? = some j) (e : Job.Event) :
    let r := (s.step (.job i e)).1.registry
    r.flags = s.registry.flags ∧ ∀ entry, entry ≠ (j.id, j.flag) →
      (entry ∈ r.entries ↔ entry ∈ s.registry.entries) := by
  simp only [Jobs.step, found]
  refine ⟨j.step_flags s.registry e, fun entry other => ?_⟩
  have moves := j.step_moves s.registry e
  generalize (j.step s.registry e).1 = j', (j.step s.registry e).2.1 = r at moves
  cases moves with
  | stays => exact Iff.rfl
  | enters => rw [List.mem_append, List.mem_singleton, or_iff_left other]
  | leaves entered none =>
    have registered := (h.entries _).mpr (.inr ⟨i, by rw [holding, found]; exact entered⟩)
    rw [Registry.mem_entries_remove, and_iff_left_iff_imp]
    exact fun mem clash => other (h.distinct.eq_of_mem mem registered clash)

/-- Telling flags how they end and making new ones changes nothing here. -/
theorem of_entries {r : Registry} (entries : r.entries = s.registry.entries)
    (length : s.registry.flags.states.length ≤ r.flags.states.length) :
    Agreeing guests { s with registry := r } where
  distinct := by rw [Registry.Distinct, entries]; exact h.distinct
  entries entry := by rw [entries]; exact h.entries entry
  own := h.own
  foreign := h.foreign
  made flag mem := Nat.lt_of_lt_of_le (h.made flag mem) length

theorem arrives (id : String) :
    Agreeing guests (s.step (.arrives id)).1 where
  distinct := h.distinct
  entries entry := by
    refine (h.entries entry).trans (or_congr_right ?_)
    -- The new job has no entry yet.
    have fresh : ∀ i, holding (s.step (.arrives id)).1 i = s.holding i := by
      intro i
      simp only [step, holding, List.getElem?_append, List.getElem?_singleton]
      split
      · rfl
      · next new =>
        rw [List.getElem?_eq_none (Nat.not_lt.mp new)]
        split <;> rfl
    simp only [fresh]
  own := by
    have new : s.registry.flags.states.length ∉ s.jobs.map Job.flag := fun mem =>
      Nat.lt_irrefl _ (h.made _ (.inl mem))
    simp only [step, Flags.fresh, List.map_append, List.map_cons, List.map_nil]
    refine List.Nodup.append h.own (List.nodup_singleton _) ?_
    intro flag mem single
    cases List.mem_singleton.mp single
    exact new mem
  foreign entry mem := by
    simp only [step, Flags.fresh, List.map_append, List.map_cons, List.map_nil, List.mem_append,
      List.mem_singleton, not_or]
    refine ⟨h.foreign entry mem, fun same => ?_⟩
    have made := h.made entry.2 (.inr (List.mem_map_of_mem mem))
    omega
  made flag mem := by
    simp only [step, Flags.fresh, List.map_append, List.map_cons, List.map_nil, List.mem_append,
      List.mem_singleton, List.length_append, List.length_singleton] at mem ⊢
    rcases mem with (old | new) | guest
    · have made := h.made flag (.inl old)
      omega
    · omega
    · have made := h.made flag (.inr guest)
      omega

/-- Someone who runs no job takes an id that is free, under a flag that no job has. -/
theorem enter {id : String} {flag : Nat} (free : s.registry.contains id = false)
    (foreign : flag ∉ s.jobs.map Job.flag) (made : flag < s.registry.flags.states.length) :
    Agreeing (guests ++ [(id, flag)])
      { s with registry := { s.registry with
        entries := s.registry.entries ++ [(id, flag)] } } where
  distinct := by
    have inserted := h.distinct.insert id flag
    rwa [Registry.insert_of_free free] at inserted
  entries entry := by
    rw [List.mem_append, List.mem_append, h.entries, or_right_comm]
    rfl
  own := h.own
  foreign entry mem := by
    rcases List.mem_append.mp mem with old | new
    · exact h.foreign entry old
    · rwa [List.mem_singleton.mp new]
  made other mem := by
    rw [List.map_append, List.mem_append, ← or_assoc] at mem
    rcases mem with old | new
    · exact h.made other old
    · rwa [List.mem_singleton.mp new]

theorem reserve (id : String) :
    Agreeing (guests ++ s.reserved (.reserve id)) (s.step (.reserve id)).1 := by
  let r : Registry := { s.registry with flags := s.registry.flags.fresh.2 }
  let flag := s.registry.flags.states.length
  have made : flag < r.flags.states.length := by simp [r, flag, Flags.fresh]
  have longer : Agreeing guests { s with registry := r } := h.of_entries rfl (Nat.le_of_lt made)
  have foreign : flag ∉ s.jobs.map Job.flag := fun mem =>
    Nat.lt_irrefl _ (h.made flag (.inl mem))
  change Agreeing (guests ++ if r.contains id = true then [] else [(id, flag)])
    { s with registry := (r.insert id flag).2 }
  cases taken : r.contains id with
  | true =>
    rw [Registry.insert_of_contains taken, if_pos rfl, List.append_nil]
    exact longer
  | false =>
    rw [Registry.insert_of_free taken, if_neg Bool.false_ne_true]
    exact longer.enter taken foreign made

theorem move {i : Nat} {j j' : Job} (found : s.jobs[i]? = some j) {r : Registry}
    (moves : Job.Moves j s.registry j' r) (flag : j'.flag = j.flag)
    (flags : r.flags = s.registry.flags) :
    Agreeing guests ⟨r, s.jobs.set i j'⟩ := by
  have same := map_flag_set found flag
  -- Only the entries are left to compare.
  suffices r.Distinct ∧ ∀ entry, entry ∈ r.entries ↔
      entry ∈ guests ∨ ∃ k, holding ⟨r, s.jobs.set i j'⟩ k = some entry from {
    distinct := this.1
    entries := this.2
    own := by rw [same]; exact h.own
    foreign := by rw [same]; exact h.foreign
    made := by rw [same, flags]; exact h.made }
  simp only [exists_holding_set found]
  cases moves with
  | stays entry =>
    refine ⟨h.distinct, fun e => ?_⟩
    rw [h.entries, exists_holding found, entry]
  | enters free none entered =>
    have distinct := h.distinct.insert j.id j.flag
    rw [Registry.insert_of_free free] at distinct
    refine ⟨distinct, fun e => ?_⟩
    rw [List.mem_append, h.entries, exists_holding found, none, entered]
    simp only [List.mem_singleton, reduceCtorEq, false_or, Option.some.injEq, eq_comm (a := e)]
    rw [or_assoc, or_comm (b := (j.id, j.flag) = e)]
  | leaves entered none =>
    have registered := (h.entries _).mpr (.inr ⟨i, by rw [holding, found]; exact entered⟩)
    refine ⟨h.distinct.remove j.id, fun e => ?_⟩
    rw [Registry.mem_entries_remove, h.entries, exists_holding found, none, entered]
    simp only [reduceCtorEq, false_or, Option.some.injEq]
    constructor
    · rintro ⟨guest | own | other, ne⟩
      · exact .inl guest
      · exact absurd (congrArg Prod.fst own.symm) ne
      · exact .inr other
    · rintro (guest | ⟨k, ne, other⟩)
      · refine ⟨.inl guest, fun clash => h.foreign e guest ?_⟩
        rw [h.distinct.eq_of_mem ((h.entries e).mpr (.inl guest)) registered clash]
        exact List.mem_map_of_mem (List.mem_of_getElem? found)
      · refine ⟨.inr (.inr ⟨k, ne, other⟩), fun clash => ne ?_⟩
        have mem := (h.entries e).mpr (.inr ⟨k, other⟩)
        obtain ⟨j', found', -, rfl⟩ := holding_eq_some_iff.mp other
        exact h.eq_of_flag found' found
          (congrArg Prod.snd (h.distinct.eq_of_mem mem registered clash))

theorem step (e : Event) : Agreeing (guests ++ s.reserved e) (s.step e).1 := by
  have quiet : ∀ {s'}, s.reserved e = [] → Agreeing guests s' →
      Agreeing (guests ++ s.reserved e) s' := by
    intro s' none h'
    rwa [none, List.append_nil]
  cases e with
  | arrives id => exact quiet rfl (h.arrives id)
  | job i e =>
    refine quiet rfl ?_
    simp only [Jobs.step]
    split
    · exact h
    · next j found =>
      exact h.move found (j.step_moves s.registry e) (j.step_id s.registry e).2
        (j.step_flags s.registry e)
  | stop id =>
    exact quiet rfl
      (h.of_entries Registry.entries_stop (Nat.le_of_eq Registry.length_stop.symm))
  | stopAll =>
    exact quiet rfl
      (h.of_entries Registry.entries_stopAll (Nat.le_of_eq Registry.length_stopAll.symm))
  | flagged flag next =>
    exact quiet rfl (h.of_entries rfl (Nat.le_of_eq (Flags.length_states_set _ _ _).symm))
  | reserve id => exact h.reserve id

theorem run (es : List Event) : Agreeing (guests ++ s.reservations es) (s.run es).1 := by
  induction es generalizing guests s with
  | nil =>
    rw [reservations, List.append_nil]
    exact h
  | cons e es ih =>
    rw [reservations, ← List.append_assoc]
    exact ih (h.step e)

end Agreeing

/-! ### What jobs do -/

/-- What the job with this index has done. -/
def trail (i : Nat) (seen : List (Nat × Job.Effect)) : List Job.Effect :=
  seen.filterMap fun (k, effect) => if k = i then some effect else none

theorem trail_append (i : Nat) (seen more : List (Nat × Job.Effect)) :
    trail i (seen ++ more) = trail i seen ++ trail i more :=
  List.filterMap_append

theorem trail_own (i : Nat) (effects : List Job.Effect) :
    trail i (effects.map (i, ·)) = effects := by
  have kept : ∀ effect ∈ effects, (if i = i then some effect else none) = some effect :=
    fun _ _ => if_pos rfl
  rw [trail, List.filterMap_map]
  exact (List.filterMap_congr kept).trans List.filterMap_some

theorem trail_other {i k : Nat} (ne : k ≠ i) (effects : List Job.Effect) :
    trail i (effects.map (k, ·)) = [] := by
  rw [trail, List.filterMap_map, List.filterMap_eq_nil_iff]
  exact fun effect _ => if_neg ne

/-- Every job has done what belongs to its phase. -/
structure Coursed (s : Jobs) (seen : List (Nat × Job.Effect)) : Prop where
  course : ∀ i j, s.jobs[i]? = some j → Job.Course j.id j.phase (trail i seen)
  unborn : ∀ i, s.jobs.length ≤ i → trail i seen = []

theorem coursed_start (r : Registry) : Coursed (start r) [] :=
  ⟨by simp [start], fun _ _ => rfl⟩

theorem Coursed.step {seen : List (Nat × Job.Effect)} (h : Coursed s seen) (e : Event) :
    Coursed (s.step e).1 (seen ++ (s.step e).2) := by
  have quiet : Coursed s (seen ++ []) := by rwa [List.append_nil]
  cases e with
  | arrives id =>
    refine ⟨fun i j found => ?_, fun i new => ?_⟩
    · simp only [Jobs.step, List.append_nil, List.getElem?_append] at found ⊢
      split at found
      · exact h.course i j found
      · next new =>
        rw [List.getElem?_singleton] at found
        split at found
        · cases found
          rw [h.unborn i (Nat.not_lt.mp new)]
          exact .fresh
        · cases found
    · simp only [Jobs.step, List.append_nil, List.length_append, List.length_singleton] at new ⊢
      exact h.unborn i (by omega)
  | job k e =>
    simp only [Jobs.step]
    split
    · exact quiet
    · next j found =>
      have length : (s.jobs.set k (j.step s.registry e).1).length = s.jobs.length :=
        List.length_set
      refine ⟨fun i j' found' => ?_, fun i new => ?_⟩
      · rw [trail_append]
        by_cases own : k = i
        · subst own
          rw [List.getElem?_set_self (List.getElem?_eq_some_iff.mp found).1] at found'
          cases found'
          rw [trail_own, (j.step_id s.registry e).1]
          exact j.step_course s.registry e (h.course k j found)
        · rw [List.getElem?_set_ne own] at found'
          rw [trail_other own, List.append_nil]
          exact h.course i j' found'
      · dsimp only at new
        rw [length] at new
        have lt := (List.getElem?_eq_some_iff.mp found).1
        rw [trail_append, trail_other (by omega), List.append_nil]
        exact h.unborn i new
  | _ => exact ⟨quiet.course, quiet.unborn⟩

theorem Coursed.run {seen : List (Nat × Job.Effect)} (h : Coursed s seen) (es : List Event) :
    Coursed (s.run es).1 (seen ++ (s.run es).2) := by
  induction es generalizing s seen with
  | nil =>
    rw [Jobs.run, List.append_nil]
    exact h
  | cons e es ih =>
    have later := ih (h.step e)
    rw [List.append_assoc] at later
    exact later

/-- What a job reports. -/
def reports (path : List Job.Effect) : List Outcome :=
  path.filterMap fun
    | .report o => some o
    | _ => none

theorem reports_of_worked {code : String} {path : List Job.Effect} (h : Job.Worked code path) :
    reports path = [] := by
  cases h <;> rfl

theorem reports_of_course {id : String} {phase : Job.Phase} {path : List Job.Effect}
    (h : Job.Course id phase path) (flag : Nat) :
    reports path = ((Job.code? ⟨id, flag, phase⟩).map (Outcome.mk id)).toList := by
  cases h with
  | leaving worked => exact reports_of_worked worked
  | reporting worked => exact reports_of_worked worked
  | done worked =>
    have none := reports_of_worked worked
    rw [reports] at none ⊢
    rw [List.filterMap_append, none]
    rfl
  | _ => rfl

/-! ### How jobs end -/

/-- The job with this index, after an event. -/
def told (i : Nat) (j : Job) (r : Registry) : Event → Job
  | .job k e => if k = i then (j.step r e).1 else j
  | _ => j

theorem getElem?_step {i : Nat} {j : Job} (found : s.jobs[i]? = some j) (e : Event) :
    (s.step e).1.jobs[i]? = some (told i j s.registry e) := by
  have lt := (List.getElem?_eq_some_iff.mp found).1
  cases e with
  | arrives id => exact (List.getElem?_append_left lt).trans found
  | job k e =>
    by_cases own : k = i
    · subst own
      simp only [step, found, told, if_pos]
      exact List.getElem?_set_self lt
    · cases other : s.jobs[k]? with
      | none => simp [step, told, other, own, found]
      | some j' => simp [step, told, other, own, List.getElem?_set_ne own, found]
  | _ => exact found

theorem rank_told (i : Nat) (j : Job) (r : Registry) (e : Event) :
    j.phase.rank ≤ (told i j r e).phase.rank := by
  unfold told
  split
  · split
    · exact (j.step_rank r _).1
    · exact Nat.le_refl _
  · exact Nat.le_refl _

/-- A job that is given the events of all the phases that it has yet to pass is done, whatever
else happens. -/
theorem rank_run {i : Nat} {evs : List Job.Event} {more : List Event} {j : Job}
    (found : s.jobs[i]? = some j) {k : Nat} (passed : k ≤ j.phase.rank)
    (due : evs.map Job.Event.rank = List.range' k (8 - k))
    (given : (evs.map (Event.job i)).Sublist more) :
    ∃ j', (s.run more).1.jobs[i]? = some j' ∧ 8 ≤ j'.phase.rank := by
  induction more generalizing s evs k j with
  | nil =>
    obtain rfl : evs = [] := List.map_eq_nil_iff.mp (List.sublist_nil.mp given)
    have none : 8 - k = 0 := by simpa using (congrArg List.length due).symm
    exact ⟨j, found, by omega⟩
  | cons e more ih =>
    have next := getElem?_step found e
    rcases List.sublist_cons_iff.mp given with later | ⟨rest, now, later⟩
    · exact ih next (Nat.le_trans passed (rank_told i j s.registry e)) due later
    · obtain ⟨ev, evs, rfl, rfl, rfl⟩ := List.map_eq_cons_iff.mp now
      -- The event that is due now takes the job past its phase.
      have left : 8 - k = 8 - (k + 1) + 1 := by
        have length := congrArg List.length due
        simp at length
        omega
      rw [left, List.range'_succ, List.map_cons, List.cons.injEq] at due
      refine ih next ?_ due.2 later
      have taken := (j.step_rank s.registry ev).2 (by omega)
      have same : told i j s.registry (.job i ev) = (j.step s.registry ev).1 := if_pos rfl
      rwa [due.1, ← same] at taken

theorem done_of_rank {phase : Job.Phase} (all : 8 ≤ phase.rank) : ∃ code, phase = .done code := by
  cases phase with
  | done code => exact ⟨code, rfl⟩
  | _ => simp [Job.Phase.rank] at all

/-- Whatever happens from now on, this code is what the job with this index reports. -/
def EndsWith (s : Jobs) (i : Nat) (code : String) : Prop :=
  ∀ more, ∃ j, (s.run more).1.jobs[i]? = some j ∧
    (j.phase = .reporting code ∨ j.phase = .done code)

theorem told_reporting {i : Nat} {j : Job} {code : String}
    (ends : j.phase = .reporting code ∨ j.phase = .done code) (r : Registry) (e : Event) :
    (told i j r e).phase = .reporting code ∨ (told i j r e).phase = .done code := by
  obtain ⟨id, flag, phase⟩ := j
  unfold told
  split
  · next k e =>
    split
    · rcases ends with rfl | rfl
      · cases e with
        | reported fine => exact .inr rfl
        | _ => exact .inl rfl
      · cases e <;> exact .inr rfl
    · exact ends
  · exact ends

theorem endsWith_of_reporting {i : Nat} {j : Job} {code : String}
    (found : s.jobs[i]? = some j) (ends : j.phase = .reporting code ∨ j.phase = .done code) :
    s.EndsWith i code := by
  intro more
  induction more generalizing s j with
  | nil => exact ⟨j, found, ends⟩
  | cons e more ih => exact ih (getElem?_step found e) (told_reporting ends s.registry e)

/-- A job that is refused leaves the registry alone and reports why. -/
theorem refused {i : Nat} {j : Job} (found : s.jobs[i]? = some j) (fresh : j.phase = .fresh)
    {code : String}
    (refused : j.register s.registry = (j.refuse code, s.registry, [])) :
    let s' := (s.step (.job i .begun)).1
    s'.registry = s.registry ∧ s'.EndsWith i code := by
  have stepped : j.step s.registry .begun = (j.refuse code, s.registry, []) := by
    unfold Job.step
    rw [fresh]
    exact refused
  have next := getElem?_step found (.job i .begun)
  rw [told, if_pos rfl, stepped] at next
  refine ⟨?_, endsWith_of_reporting next (.inl rfl)⟩
  simp only [step, found, stepped]

theorem register_of_wide {j : Job} (wide : Wire.Field.sessionId.width < Text.Utf8.width j.id)
    (r : Registry) : j.register r = (j.refuse initFailedCode, r, []) := by
  rw [Job.register, Wire.SessionId.ofText, dif_neg (Nat.not_le.mpr wide)]

theorem register_of_taken {j : Job} (fits : Text.Utf8.width j.id ≤ Wire.Field.sessionId.width)
    {r : Registry} (taken : r.contains j.id = true) :
    j.register r = (j.refuse duplicateCode, r, []) := by
  rw [Job.register, Wire.SessionId.ofText, dif_pos fits]
  simp only [Registry.insert_of_contains taken]

/-- At every moment the registry holds what others have reserved and the jobs between their
registration and their removal, each under its own flag, at most one for an id; stopping an id
reaches its job. No event of a job touches a flag or the entry of anybody else. A job whose id is
too wide or taken changes nothing. Each job goes its course, reports its own code once it is
done and nothing before, and is done once it has been given its events. -/
theorem registry_exact (flags : Flags) (es : List Event) :
    let s := ((start (.empty flags)).run es).1
    let seen := ((start (.empty flags)).run es).2
    let guests := (start (.empty flags)).reservations es
    (∀ id flag, s.registry.find? id = some flag ↔ (id, flag) ∈ guests ∨
      ∃ (i : Nat) (j : Job),
        s.jobs[i]? = some j ∧ j.isRegistered = true ∧ j.id = id ∧ j.flag = flag) ∧
    (∀ (i k : Nat) (j j' : Job), s.jobs[i]? = some j → s.jobs[k]? = some j' → i ≠ k →
      j.flag ≠ j'.flag ∧ ¬ (j.isRegistered = true ∧ j'.isRegistered = true ∧ j.id = j'.id)) ∧
    (∀ (i : Nat) (j : Job), s.jobs[i]? = some j → j.isRegistered = true →
      let stopped := (s.step (.stop j.id)).1.registry.flags
      (stopped.get j.flag).isTerminal = true ∧
        ∀ flag, flag ≠ j.flag → stopped.get flag = s.registry.flags.get flag) ∧
    (∀ (i : Nat) (j : Job) (e : Job.Event), s.jobs[i]? = some j →
      let r := (s.step (.job i e)).1.registry
      r.flags = s.registry.flags ∧ ∀ entry, entry ≠ (j.id, j.flag) →
        (entry ∈ r.entries ↔ entry ∈ s.registry.entries)) ∧
    (∀ (i : Nat) (j : Job), s.jobs[i]? = some j → j.phase = .fresh →
      let s' := (s.step (.job i .begun)).1
      (Wire.Field.sessionId.width < Text.Utf8.width j.id →
        s'.registry = s.registry ∧ s'.EndsWith i initFailedCode) ∧
      (Text.Utf8.width j.id ≤ Wire.Field.sessionId.width → s.registry.contains j.id = true →
        s'.registry = s.registry ∧ s'.EndsWith i duplicateCode)) ∧
    (∀ (i : Nat) (j : Job), s.jobs[i]? = some j →
      Job.Course j.id j.phase (trail i seen) ∧
      reports (trail i seen) = (j.code?.map (Outcome.mk j.id)).toList) ∧
    (∀ (i : Nat) (j : Job), s.jobs[i]? = some j → ∀ created opened code reported more,
      ((Job.lifetime created opened code reported).map (Event.job i)).Sublist more →
      ∃ j' code', (s.run more).1.jobs[i]? = some j' ∧ j'.phase = .done code') := by
  intro s seen guests
  have agreeing : Agreeing guests s := by
    have run := (agreeing_start flags).run es
    rwa [List.nil_append] at run
  have coursed : Coursed s seen := by
    have run := (coursed_start (.empty flags)).run es
    rwa [List.nil_append] at run
  refine ⟨agreeing.find?_eq_some_iff, ?_, ?_, ?_, ?_, ?_, ?_⟩
  · intro i k j j' found found' ne
    exact ⟨fun same => ne (agreeing.eq_of_flag found found' same),
      fun ⟨registered, registered', same⟩ =>
        ne (agreeing.eq_of_registered found found' registered registered' same)⟩
  · intro i j found registered
    exact agreeing.stop found registered
  · intro i j e found
    exact agreeing.frame found e
  · intro i j found fresh
    exact ⟨fun wide => refused found fresh (register_of_wide wide _),
      fun fits taken => refused found fresh (register_of_taken fits taken)⟩
  · intro i j found
    have course := coursed.course i j found
    exact ⟨course, reports_of_course course j.flag⟩
  · intro i j found created opened code reported more given
    obtain ⟨j', found', all⟩ := rank_run found (Nat.zero_le _) rfl given
    obtain ⟨code', done⟩ := done_of_rank all
    exact ⟨j', code', found', done⟩

/-- An id is reserved, a job runs, and one with the same id and one with the reserved id have
yet to begin. -/
def crowded : List Event :=
  [.reserve "kept", .arrives "s-1", .arrives "s-1", .arrives "kept", .job 0 .begun,
    .job 0 (.created true), .job 0 (.opened true), .job 0 .delayed]

/-- What becomes of the three jobs after that. -/
def wound : List Event :=
  [.job 1 .begun, .job 0 .begun, .job 0 (.created true), .job 0 (.opened true), .job 0 .delayed,
    .stop "s-1", .job 1 (.reported false), .job 0 (.ended "Notified"), .job 0 .closed,
    .job 0 .left, .job 2 .begun, .job 0 (.reported false)]

theorem crowded_registered :
    let s := ((start (.empty ⟨[]⟩)).run crowded).1
    let first : Job := ⟨"s-1", 1, .running⟩
    let second : Job := ⟨"s-1", 2, .fresh⟩
    s.jobs[0]? = some first ∧ s.jobs[1]? = some second ∧
      s.registry.find? "s-1" = some 1 ∧ s.registry.find? "kept" = some 0 ∧
      ((s.step (.stop "s-1")).1.registry.flags.get 1).isTerminal = true ∧
      (s.step (.job 1 .begun)).1.registry = s.registry ∧
      (s.step (.job 1 .begun)).1.EndsWith 1 duplicateCode ∧
      Job.Course "s-1" .running [.create, .dial, .execute] ∧
      ∃ j code, (s.run wound).1.jobs[0]? = some j ∧ j.phase = .done code := by
  intro s first second
  obtain ⟨find, -, stop, -, refuse, course, done⟩ := registry_exact ⟨[]⟩ crowded
  have running : s.jobs[0]? = some first := by decide
  have fresh : s.jobs[1]? = some second := by decide
  have registered : s.registry.find? "s-1" = some 1 :=
    (find "s-1" 1).mpr (.inr ⟨0, first, running, rfl, rfl, rfl⟩)
  have taken : s.registry.contains "s-1" = true := by rw [Registry.contains, registered]; rfl
  have refused := (refuse 1 second fresh rfl).2 (by decide) taken
  refine ⟨running, fresh, registered, (find "kept" 0).mpr (.inl (by decide)),
    (stop 0 first running rfl).1, refused.1, refused.2, (course 0 first running).1, ?_⟩
  exact done 0 first running true true "Notified" false wound (by decide)

end Jobs

end Tether
