import Mathlib.Data.List.Induction
import Tether.Cancel.Chronicle
import Tether.Proofs.Flags

/-! Handles onto flags, in any number and under any events. What a handle shows is the first end that
its flag was told to take through any handle onto it, and of all that it was told only this is
answered as effective. -/

namespace Tether

theorem Flags.get_fresh (fs : Flags) (flag : Nat) : fs.fresh.2.get flag = fs.get flag := by
  rcases Nat.lt_trichotomy flag fs.states.length with old | new | none
  · simp [fresh, get, List.getElem?_append_left old]
  · simp [fresh, get, new]
  · have past : ¬ flag < (fs.states ++ [CancelState.running]).length := by
      rw [List.length_append, List.length_singleton]
      omega
    simp [fresh, get, List.getElem?_eq_none (Nat.le_of_not_lt past),
      List.getElem?_eq_none (Nat.le_of_lt none)]

namespace Handles

variable {h : Handles}

theorem run_concat (h : Handles) (es : List Event) (e : Event) :
    (h.run (es ++ [e])).2 = ((h.run es).2.step e).2 := by
  induction es generalizing h with
  | nil => rfl
  | cons e' es ih => exact ih (h.step e').2

theorem after_concat (es : List Event) (e : Event) :
    after (es ++ [e]) = ((after es).step e).2 := run_concat empty es e

theorem granted_concat (h : Handles) (es : List Event) (e : Event) :
    h.granted (es ++ [e]) = h.granted es ++ ((h.run es).2.granted? e).toList := by
  induction es generalizing h with
  | nil => exact List.append_nil _
  | cons e' es ih =>
    rw [List.cons_append, granted, ih, ← List.append_assoc]
    rfl

theorem step_set {i flag : Nat} (onto : h.target i = some flag) (next : CancelState) :
    h.step (.set i next) =
      (.moved ((h.flags.get flag).set next).1, { h with flags := (h.flags.set flag next).2 }) := by
  rw [step, onto]
  rfl

theorem step_set_of_none {i : Nat} (gone : h.target i = none) (next : CancelState) :
    h.step (.set i next) = (.moved false, h) := by
  rw [step, gone]

theorem step_clone (i : Nat) :
    (h.step (.clone i)).2 = { h with targets := h.targets ++ (h.target i).toList } := by
  cases onto : h.target i with
  | none => simp [step, onto]
  | some flag => simp [step, onto]

namespace Chronicle

variable (c : Chronicle)

theorem of_concat (es : List Event) (e : Event) : of (es ++ [e]) = (of es).note e := by
  rw [of, List.foldl_append]
  rfl

theorem isTerminal_of_first? {flag : Nat} {s : CancelState} (first : c.first? flag = some s) :
    s.isTerminal = true := List.find?_some first

theorem asked_note_set (i flag : Nat) (next : CancelState) :
    (c.note (.set i next)).asked flag =
      if c.owners[i]? = some flag then c.asked flag ++ [next] else c.asked flag := rfl

theorem first?_note_set (i flag : Nat) (next : CancelState) :
    (c.note (.set i next)).first? flag =
      if c.owners[i]? = some flag ∧ next.isTerminal ∧ c.first? flag = none then some next
      else c.first? flag := by
  rw [first?, asked_note_set]
  by_cases onto : c.owners[i]? = some flag
  · rw [if_pos onto, List.find?_append, ← first?]
    cases c.first? flag with
    | some s => simp
    | none => cases ends : next.isTerminal <;> simp [onto, ends]
  · simp [onto, first?]

/-- The state of a flag that takes the first end it is told to take. -/
def state (flag : Nat) : CancelState := (c.first? flag).getD .running

theorem set_state (flag : Nat) (next : CancelState) :
    (c.state flag).set next =
      if next.isTerminal ∧ c.first? flag = none then (true, next) else (false, c.state flag) := by
  cases first : c.first? flag with
  | none => simp [state, first, CancelState.set, CancelState.isTerminal]
  | some s =>
    have ends := c.isTerminal_of_first? first
    simp [state, first, CancelState.set, ends]

theorem state_note_set (i flag : Nat) (next : CancelState) :
    (c.note (.set i next)).state flag =
      if c.owners[i]? = some flag then ((c.state flag).set next).2 else c.state flag := by
  rw [state, first?_note_set, set_state]
  by_cases onto : c.owners[i]? = some flag
  · rw [if_pos onto]
    by_cases first : next.isTerminal ∧ c.first? flag = none
    · rw [if_pos ⟨onto, first⟩, if_pos first]
      rfl
    · rw [if_neg fun all => first all.2, if_neg first]
      rfl
  · rw [if_neg fun all => onto all.1, if_neg onto]
    rfl

/-- What the events tell is what there is. -/
structure Tells (c : Chronicle) (h : Handles) : Prop where
  made : h.flags.states.length = c.made
  owners : h.targets = c.owners
  bounded : ∀ flag ∈ c.owners, flag < c.made
  states : ∀ flag, h.flags.get flag = c.state flag
  silent : ∀ flag, c.made ≤ flag → c.asked flag = []

theorem tells_empty : Tells (of []) empty where
  made := rfl
  owners := rfl
  bounded := nofun
  states _ := rfl
  silent _ _ := rfl

variable {c}

theorem Tells.set (t : Tells c h) (i : Nat) (next : CancelState) :
    Tells (c.note (.set i next)) (h.step (.set i next)).2 := by
  cases onto : h.target i with
  | none =>
    have unowned : c.owners[i]? = none := by rw [← t.owners]; exact onto
    have same : c.note (.set i next) = c := by simp [note, unowned]
    rwa [same, step_set_of_none onto]
  | some flag =>
    have owned : c.owners[i]? = some flag := by rw [← t.owners]; exact onto
    have made : flag < h.flags.states.length := by
      rw [t.made]
      exact t.bounded flag (List.mem_of_getElem? owned)
    rw [step_set onto]
    refine ⟨(Flags.length_states_set ..).trans t.made, t.owners, t.bounded, fun other => ?_,
      fun other new => ?_⟩
    · rw [state_note_set, owned]
      by_cases same : flag = other
      · subst same
        rw [if_pos rfl, ← t.states]
        exact Flags.get_set_self _ _ _ made
      · rw [if_neg fun eq => same (Option.some.inj eq), ← t.states]
        exact Flags.get_set_of_ne _ _ _ (Ne.symm same)
    · have older : flag ≠ other := by
        have := t.bounded flag (List.mem_of_getElem? owned)
        exact Nat.ne_of_lt (Nat.lt_of_lt_of_le this new)
      rw [asked_note_set, if_neg fun eq => older (Option.some.inj (owned.symm.trans eq))]
      exact t.silent other new

theorem Tells.step (t : Tells c h) (e : Event) : Tells (c.note e) (h.step e).2 := by
  cases e with
  | fresh =>
    refine ⟨?_, ?_, fun flag mem => ?_, fun flag => ?_, fun flag new => ?_⟩
    · exact List.length_append.trans (congrArg (· + 1) t.made)
    · exact congrArg₂ (· ++ [·]) t.owners t.made
    · rcases List.mem_append.mp mem with old | new
      · exact Nat.lt_succ_of_lt (t.bounded flag old)
      · cases List.mem_singleton.mp new
        exact Nat.lt_succ_self _
    · exact (Flags.get_fresh _ _).trans (t.states flag)
    · exact t.silent flag (Nat.le_of_succ_le new)
  | clone i =>
    rw [step_clone]
    refine ⟨t.made, ?_, fun flag mem => ?_, t.states, t.silent⟩
    · rw [target, t.owners]
      rfl
    · rcases List.mem_append.mp mem with old | copy
      · exact t.bounded flag old
      · exact t.bounded flag (List.mem_of_getElem? (Option.mem_toList.mp copy))
  | drop i =>
    exact ⟨t.made, congrArg (·.eraseIdx i) t.owners,
      fun flag mem => t.bounded flag (List.mem_of_mem_eraseIdx mem), t.states, t.silent⟩
  | set i next => exact t.set i next
  | wait i => exact t

theorem tells_after (es : List Event) : Tells (of es) (after es) := by
  induction es using List.reverseRecOn with
  | nil => exact tells_empty
  | append_singleton es e ih =>
    rw [of_concat, after_concat]
    exact ih.step e

theorem Tells.state_eq (t : Tells c h) {i flag : Nat} (owned : c.owners[i]? = some flag) :
    h.state i = c.state flag := by
  rw [Handles.state, target, t.owners, owned]
  exact t.states flag

theorem Tells.set_answer (t : Tells c h) {i flag : Nat} (owned : c.owners[i]? = some flag)
    (next : CancelState) :
    (h.step (.set i next)).1 = .moved (decide (next.isTerminal ∧ c.first? flag = none)) := by
  have onto : h.target i = some flag := by rw [target, t.owners, owned]
  rw [step_set onto, t.states, set_state]
  split
  · next first => rw [decide_eq_true first]
  · next late => rw [decide_eq_false late]

/-- A telling is granted if it is the first one to end the flag. -/
theorem Tells.granted?_set (t : Tells c h) {i flag : Nat} (owned : c.owners[i]? = some flag)
    (next : CancelState) :
    h.granted? (.set i next) =
      if next.isTerminal ∧ c.first? flag = none then some (flag, next) else none := by
  have onto : h.target i = some flag := by rw [target, t.owners, owned]
  unfold granted?
  rw [t.set_answer owned next]
  by_cases first : next.isTerminal ∧ c.first? flag = none
  · simp [first, onto]
  · rw [if_neg first, decide_eq_false first]

theorem Tells.granted_step (t : Tells c h) (e : Event) (flag : Nat) :
    (c.first? flag).toList.map (flag, ·) ++ (h.granted? e).toList.filter (·.1 = flag) =
      ((c.note e).first? flag).toList.map (flag, ·) := by
  cases e with
  | set i next =>
    rw [first?_note_set]
    cases owned : c.owners[i]? with
    | none =>
      have gone : h.target i = none := by rw [target, t.owners, owned]
      have nothing : h.granted? (.set i next) = none := by
        unfold granted?
        rw [step_set_of_none gone]
      simp [nothing]
    | some other =>
      rw [t.granted?_set owned]
      by_cases same : other = flag
      · subst same
        by_cases first : next.isTerminal ∧ c.first? other = none
        · simp [first]
        · simp [first]
      · by_cases first : next.isTerminal ∧ c.first? other = none
        · simp [first, same]
        · simp [first, same]
  | fresh | clone i | drop i | wait i => exact List.append_nil _

/-- All that was granted of a flag is the first end that it was told to take. -/
theorem filter_granted (es : List Event) (flag : Nat) :
    (empty.granted es).filter (·.1 = flag) = ((of es).first? flag).toList.map (flag, ·) := by
  induction es using List.reverseRecOn with
  | nil => rfl
  | append_singleton es e ih =>
    rw [granted_concat, List.filter_append, ih, of_concat]
    exact (tells_after es).granted_step e flag

theorem first?_note {flag : Nat} {s : CancelState} (first : c.first? flag = some s) (e : Event) :
    (c.note e).first? flag = some s := by
  cases e with
  | set i next => rw [first?_note_set, if_neg (by simp [first]), first]
  | fresh | clone i | drop i | wait i => exact first

theorem first?_later {es : List Event} {flag : Nat} {s : CancelState}
    (first : (of es).first? flag = some s) (later : List Event) :
    (of (es ++ later)).first? flag = some s := by
  induction later using List.reverseRecOn with
  | nil => rwa [List.append_nil]
  | append_singleton later e ih =>
    rw [← List.append_assoc, of_concat]
    exact first?_note ih e

end Chronicle

theorem set_running (h : Handles) (i : Nat) : (h.step (.set i .running)).1 = .moved false := by
  cases onto : h.target i with
  | none => rw [step_set_of_none onto]
  | some flag => rw [step_set onto]; rfl

theorem state_set_of_ne (h : Handles) {i j : Nat} (apart : h.target i ≠ h.target j)
    (next : CancelState) : (h.step (.set i next)).2.state j = h.state j := by
  cases onto : h.target i with
  | none => rw [step_set_of_none onto]
  | some flag =>
    rw [step_set onto]
    change (h.target j).elim .running (h.flags.set flag next).2.get = h.state j
    rw [state]
    cases other : h.target j with
    | none => rfl
    | some otherFlag =>
      have ne : otherFlag ≠ flag := by
        rintro rfl
        exact apart (onto.trans other.symm)
      exact Flags.get_set_of_ne _ _ _ ne

theorem wait_eq_ready_iff (h : Handles) {i : Nat} {s : CancelState} :
    (h.step (.wait i)).1 = .ready (some s) ↔ s.isTerminal ∧ h.state i = s := by
  rw [step, CancelState.wait]
  constructor
  · intro ready
    split at ready
    · next ended =>
      cases ready
      exact ⟨ended, rfl⟩
    · cases ready
  · rintro ⟨ended, rfl⟩
    rw [if_pos ended]

/-- Handles after any events. Each is onto the flag that it goes back to, by itself or by what it was
copied from. It shows the first end that this flag was told to take through any handle onto it, and
a running flag as long as there was none; that end stays whatever comes later. Of each flag just this
telling is answered as effective, running is no end, and no telling shows through a handle onto
another flag. A wait is over at once if the flag has ended, and then it gives that end. -/
theorem handles_exact (es : List Event) :
    let h := after es
    let c := Chronicle.of es
    h.targets = c.owners ∧
    (∀ i flag, c.owners[i]? = some flag → h.state i = (c.first? flag).getD .running) ∧
    (∀ flag s, c.first? flag = some s →
      ∀ later, (Chronicle.of (es ++ later)).first? flag = some s) ∧
    (∀ flag, (empty.granted es).filter (·.1 = flag) = (c.first? flag).toList.map (flag, ·)) ∧
    (∀ i flag next, c.owners[i]? = some flag →
      (h.step (.set i next)).1 = .moved (decide (next.isTerminal ∧ c.first? flag = none))) ∧
    (∀ i, (h.step (.set i .running)).1 = .moved false) ∧
    (∀ i j next, h.target i ≠ h.target j → (h.step (.set i next)).2.state j = h.state j) ∧
    ∀ i s, (h.step (.wait i)).1 = .ready (some s) ↔ s.isTerminal ∧ h.state i = s := by
  intro h c
  have tells := Chronicle.tells_after es
  exact ⟨tells.owners, fun _ _ owned => tells.state_eq owned,
    fun _ _ first later => Chronicle.first?_later first later, Chronicle.filter_granted es,
    fun _ _ next owned => tells.set_answer owned next, set_running h,
    fun _ _ next apart => state_set_of_ne h apart next, fun _ _ => wait_eq_ready_iff h⟩

end Handles

end Tether
