import Mathlib.Data.ENat.Lattice
import Mathlib.Tactic.SplitIfs
import Tether.Backoff
import Tether.Proofs.Retry
import Tether.Retry.Loop

/-! How often a retry loop calls, and how long it pauses. After `i` failures its counters stand at
numbers that depend on `i` alone, so the loop can be told round by round: it ends with the first
round that succeeds or uses up the attempts, and before that each round is a call and a pause. -/

namespace Tether.Retry

open Classical in
/-- The least number with a property, infinite if there is none. -/
noncomputable def least (P : ℕ → Prop) : ℕ∞ := if h : ∃ n, P n then (Nat.find h : ℕ∞) else ⊤

theorem le_least_iff {P : ℕ → Prop} {n : ℕ} : (n : ℕ∞) ≤ least P ↔ ∀ m < n, ¬ P m := by
  classical
  unfold least
  split
  · next found => rw [Nat.cast_le, Nat.le_find_iff]
  · next none => exact iff_of_true le_top fun m _ holds => none ⟨m, holds⟩

theorem least_eq_coe_iff {P : ℕ → Prop} {n : ℕ} :
    least P = n ↔ P n ∧ ∀ m < n, ¬ P m := by
  classical
  unfold least
  split
  · next found => rw [Nat.cast_inj, Nat.find_eq_iff]
  · next none => exact iff_of_false (ENat.top_ne_natCast n) fun h => none ⟨n, h.1⟩

theorem least_add_one_eq_iff {P : ℕ → Prop} {n : ℕ} :
    least P + 1 = (n + 1 : ℕ) ↔ P n ∧ ∀ m < n, ¬ P m := by
  rw [← least_eq_coe_iff, Nat.cast_add, Nat.cast_one]
  exact (ENat.add_left_injective_of_ne_top ENat.one_ne_top).eq_iff

theorem least_or (P Q : ℕ → Prop) : least (fun n => P n ∨ Q n) = min (least P) (least Q) := by
  refine ENat.eq_of_forall_natCast_le_iff fun n => ?_
  simp only [le_min_iff, le_least_iff, not_or, imp_and, forall_and]

theorem least_le (n : ℕ) : least (n ≤ ·) = n :=
  least_eq_coe_iff.mpr ⟨Nat.le_refl n, fun _ before => Nat.not_le.mpr before⟩

theorem least_false : least (fun _ => False) = ⊤ := dif_neg fun found => found.elim fun _ => id

/-! ### The counters -/

section

variable (plan : Plan)

/-- The least attempt whose pause is the longest. -/
noncomputable def Plan.cap : ℕ∞ := least fun n => (plan.delay n).2 = true

/-- The attempt that the pause after `i` more failures is counted as. -/
noncomputable def Plan.exponent (i : ℕ) : ℕ := (min (i : ℕ∞) (min plan.cap counterMax)).toNat

theorem Plan.exponent_of_le_cap {i : ℕ} (uncapped : ((min i counterMax : ℕ) : ℕ∞) ≤ plan.cap) :
    plan.exponent i = min i counterMax := by
  rw [exponent, min_left_comm, ← Nat.mono_cast.map_min, min_eq_right uncapped, ENat.toNat_natCast]

theorem Plan.exponent_of_cap {i n : ℕ} (capped : plan.cap = n) (early : n ≤ min i counterMax) :
    plan.exponent i = n := by
  rw [exponent, capped, ← Nat.mono_cast.map_min, ← Nat.mono_cast.map_min, ENat.toNat_natCast]
  omega

/-- The counter moves on with each failure, until the longest pause or the largest number. -/
theorem Plan.exponent_succ (i : ℕ) :
    plan.exponent (i + 1) = if (plan.delay (plan.exponent i)).2 then plan.exponent i
      else min (plan.exponent i + 1) counterMax := by
  by_cases reached : plan.cap ≤ (min i counterMax : ℕ)
  · obtain ⟨n, capped⟩ :=
      ENat.ne_top_iff_exists.mp (ne_top_of_le_ne_top (ENat.natCast_ne_top _) reached)
    rw [← capped, Nat.cast_le] at reached
    have now := plan.exponent_of_cap capped.symm reached
    have next := plan.exponent_of_cap (i := i + 1) capped.symm (by omega)
    rw [now, next, if_pos (least_eq_coe_iff.mp capped.symm).1]
  · have beyond : ((min i counterMax + 1 : ℕ) : ℕ∞) ≤ plan.cap := by
      rw [Nat.cast_add, Nat.cast_one]
      exact ENat.natCast_add_one_le_iff.mpr (lt_of_not_ge reached)
    have uncapped := le_least_iff.mp beyond _ (Nat.lt_succ_self _)
    have now := plan.exponent_of_le_cap (le_trans (Nat.cast_le.mpr (Nat.le_succ _)) beyond)
    have next := plan.exponent_of_le_cap (i := i + 1)
      (le_trans (Nat.cast_le.mpr (by omega)) beyond)
    rw [now, next, if_neg uncapped]
    omega

/-- The counters after `i` failures. -/
noncomputable def Plan.progress (i : ℕ) : Progress := ⟨plan.exponent i, min i counterMax⟩

theorem Plan.progress_zero : plan.progress 0 = .start := by
  have exponent := plan.exponent_of_le_cap (i := 0) (by simp)
  rw [progress, exponent, Nat.zero_min]
  rfl

end

variable {φ ε α : Type} (plan : Plan) (pauseOf : Float → Duration → Except φ Duration)
  (rounds : ℕ → Round ε α)

/-- Whether round `i` is the last one, if it is reached. -/
def Ends (i : ℕ) : Prop :=
  (rounds i).result.isOk ∨ (plan.limit ≠ 0 ∧ plan.limit.toNat ≤ i + 1)

theorem least_ends : least (Ends plan rounds) + 1 =
    if plan.limit = 0 then least (fun i => (rounds i).result.isOk) + 1
    else min (least (fun i => (rounds i).result.isOk) + 1) plan.limit.toNat := by
  unfold Ends
  rw [least_or]
  split
  · next unlimited => simp [unlimited, least_false]
  · next limited =>
    have spent : (fun n => plan.limit ≠ 0 ∧ plan.limit.toNat ≤ n + 1) =
        (plan.limit.toNat - 1 ≤ ·) := by
      funext n
      exact propext ⟨fun h => by omega, fun h => ⟨limited, by omega⟩⟩
    have positive : 0 < plan.limit.toNat := Nat.pos_of_ne_zero fun zero =>
      limited (UInt32.toNat_inj.mp zero)
    rw [spent, least_le, ← min_add_add_right, ← Nat.cast_one (R := ℕ∞), ← Nat.cast_add,
      Nat.sub_add_cancel positive]

theorem afterFailure_progress (i : ℕ) : afterFailure plan (plan.progress i) =
    if plan.limit ≠ 0 ∧ plan.limit.toNat ≤ i + 1 then .giveUp
    else .pause (plan.delay (plan.exponent i)).1 (plan.progress (i + 1)) := by
  have small := limit_le_counterMax plan
  have counts : min (min i counterMax + 1) counterMax = min (i + 1) counterMax := by omega
  have limits : plan.limit.toNat ≤ min (i + 1) counterMax ↔ plan.limit.toNat ≤ i + 1 := by omega
  simp only [afterFailure, Plan.progress, counts, limits, plan.exponent_succ i]
  rfl

/-- The pause after round `i`, if there is one. -/
noncomputable def pauseAt (i : ℕ) : Except φ Duration :=
  pauseOf (rounds i).share (plan.delay (plan.exponent i)).1

/-- A call, and its pause if that can be made. -/
def callThen (pause : Except φ Duration) : List Action :=
  .call :: pause.toOption.toList.map .pause

/-- What the loop does in round `i` if it goes on. -/
noncomputable def roundOf (i : ℕ) : List Action := callThen (pauseAt plan pauseOf rounds i)

/-- Round `i` is not the last one. -/
def GoesOn (i : ℕ) : Prop := ¬ Ends plan rounds i ∧ (pauseAt plan pauseOf rounds i).isOk

theorem loopFrom_of_failed {i : ℕ} (failed : ¬ Ends plan rounds i) (rest : List (Round ε α)) :
    loopFrom plan pauseOf (plan.progress i) (rounds i :: rest) =
      match pauseAt plan pauseOf rounds i with
      | .error fault => ([.call], some (.panicked fault))
      | .ok length => (.call :: .pause length ::
          (loopFrom plan pauseOf (plan.progress (i + 1)) rest).1,
        (loopFrom plan pauseOf (plan.progress (i + 1)) rest).2) := by
  obtain ⟨failed, left⟩ := not_or.mp failed
  have next := (afterFailure_progress plan i).trans (if_neg left)
  cases result : (rounds i).result with
  | ok a => exact absurd (result ▸ rfl) failed
  | error e =>
    simp only [loopFrom, result, next]
    rfl

theorem loopFrom_of_goes_on {i : ℕ} (goesOn : GoesOn plan pauseOf rounds i)
    (rest : List (Round ε α)) :
    loopFrom plan pauseOf (plan.progress i) (rounds i :: rest) =
      (roundOf plan pauseOf rounds i ++ (loopFrom plan pauseOf (plan.progress (i + 1)) rest).1,
        (loopFrom plan pauseOf (plan.progress (i + 1)) rest).2) := by
  obtain ⟨failed, paused⟩ := goesOn
  rw [loopFrom_of_failed plan pauseOf rounds failed, roundOf]
  cases made : pauseAt plan pauseOf rounds i with
  | error fault => simp [made, Except.isOk, Except.toBool] at paused
  | ok length => rfl

theorem loopFrom_of_ends {i : ℕ} (ends : Ends plan rounds i) (rest : List (Round ε α)) :
    loopFrom plan pauseOf (plan.progress i) (rounds i :: rest) =
      ([.call], some (.returned (rounds i).result)) := by
  cases result : (rounds i).result with
  | ok a => simp only [loopFrom, result]
  | error e =>
    have spent := ends.resolve_left (by simp [result, Except.isOk, Except.toBool])
    have next := (afterFailure_progress plan i).trans (if_pos spent)
    simp only [loopFrom, result, next]

/-- The first rounds, none of which is the last. -/
theorem loopFrom_of_going_on {i n : ℕ} (rest : List (Round ε α))
    (goesOn : ∀ j ∈ List.range' i n, GoesOn plan pauseOf rounds j) :
    loopFrom plan pauseOf (plan.progress i) ((List.range' i n).map rounds ++ rest) =
      ((List.range' i n).flatMap (roundOf plan pauseOf rounds) ++
          (loopFrom plan pauseOf (plan.progress (i + n)) rest).1,
        (loopFrom plan pauseOf (plan.progress (i + n)) rest).2) := by
  induction n generalizing i with
  | zero => rfl
  | succ n ih =>
    rw [List.range'_succ, List.forall_mem_cons] at goesOn
    rw [List.range'_succ, List.map_cons, List.cons_append,
      loopFrom_of_goes_on plan pauseOf rounds goesOn.1, ih goesOn.2, List.flatMap_cons,
      List.append_assoc, Nat.add_assoc, Nat.add_comm 1]

/-- The loop on the results of its first `n` calls, counted from its start. -/
noncomputable def firstRounds (n : ℕ) : List Action × Option (Ending φ ε α) :=
  loopFrom plan pauseOf .start ((List.range n).map rounds)

theorem firstRounds_of_going_on {n : ℕ} (goesOn : ∀ i < n, GoesOn plan pauseOf rounds i) :
    firstRounds plan pauseOf rounds n =
      ((List.range n).flatMap (roundOf plan pauseOf rounds), none) := by
  have all := loopFrom_of_going_on plan pauseOf rounds (i := 0) [] (n := n) fun j inside =>
    goesOn j (by simpa using inside)
  rw [plan.progress_zero, ← List.range_eq_range', List.append_nil] at all
  rw [firstRounds, all]
  simp [loopFrom]

/-- After the first rounds, what the loop does in round `m` is all that it still does if that is
the last one. -/
theorem firstRounds_of_last {m n : ℕ} (goesOn : ∀ i < m, GoesOn plan pauseOf rounds i)
    {ending : Ending φ ε α} (last : ∀ rest, loopFrom plan pauseOf (plan.progress m)
      (rounds m :: rest) = ([.call], some ending)) (late : m < n) :
    firstRounds plan pauseOf rounds n =
      ((List.range m).flatMap (roundOf plan pauseOf rounds) ++ [.call], some ending) := by
  obtain ⟨k, rfl⟩ := Nat.exists_eq_add_of_lt late
  have cut : List.range (m + k + 1) = List.range' 0 m ++ m :: List.range' (m + 1) k := by
    rw [List.range_eq_range', Nat.add_assoc, ← List.range'_append, List.range'_succ]
    simp
  have front := loopFrom_of_going_on plan pauseOf rounds (i := 0) (n := m)
    (rounds m :: (List.range' (m + 1) k).map rounds) fun j inside =>
      goesOn j (by simpa using inside)
  rw [Nat.zero_add, last, plan.progress_zero] at front
  rw [firstRounds, cut, List.map_append, List.map_cons, front, List.range_eq_range']

/-- A loop that may go on for ever does not return an error. -/
theorem loopFrom_of_unlimited {plan : Plan} (unlimited : plan.limit = 0) (p : Progress)
    (rs : List (Round ε α)) (e : ε) :
    (loopFrom plan pauseOf p rs).2 ≠ some (.returned (.error e)) := by
  induction rs generalizing p with
  | nil => simp [loopFrom]
  | cons r rs ih =>
    cases result : r.result with
    | ok a => simp [loopFrom, result]
    | error e' =>
      have next : ∃ length p', afterFailure plan p = .pause length p' :=
        ⟨_, _, if_neg fun spent => spent.1 unlimited⟩
      obtain ⟨length, p', next⟩ := next
      simp only [loopFrom, result, next]
      cases pauseOf r.share length with
      | error fault => simp
      | ok length => exact ih p'

/-! ### The trace of a loop -/

theorem flatMap_roundOf_plainly (n : ℕ) :
    ((List.range n).flatMap (roundOf plan plainly rounds)).count .call = n ∧
      ((List.range n).flatMap (roundOf plan plainly rounds)).filterMap Action.length? =
        (List.range n).map fun i => (plan.delay (plan.exponent i)).1 := by
  have round : ∀ i, roundOf plan plainly rounds i =
      [.call, .pause (plan.delay (plan.exponent i)).1] := fun _ => rfl
  induction n with
  | zero => exact ⟨rfl, rfl⟩
  | succ n ih =>
    rw [List.range_succ, List.flatMap_append, List.flatMap_singleton, round, List.count_append,
      List.filterMap_append, List.map_append, ih.1, ih.2]
    exact ⟨rfl, rfl⟩

/-- What the trace of the first `n` results shows before and after the last of them. -/
theorem call_firstRounds :
    (∀ n : ℕ, n < least (Ends plan rounds) + 1 →
      call plan (((List.range n).map rounds).map Round.result) =
        ⟨n, (List.range n).map fun i => (plan.delay (plan.exponent i)).1, none⟩) ∧
      ∀ m : ℕ, least (Ends plan rounds) + 1 = (m + 1 : ℕ) → ∀ n > m,
        call plan (((List.range n).map rounds).map Round.result) =
          ⟨m + 1, (List.range m).map fun i => (plan.delay (plan.exponent i)).1,
            some (rounds m).result⟩ := by
  have goesOn {i : ℕ} (failed : ¬ Ends plan rounds i) : GoesOn plan plainly rounds i :=
    ⟨failed, rfl⟩
  constructor
  · intro n early
    have failed := le_least_iff.mp (Order.le_of_lt_add_one early)
    have run := firstRounds_of_going_on plan plainly rounds fun i before => goesOn (failed i before)
    rw [firstRounds] at run
    rw [call, callFrom_eq, run, (flatMap_roundOf_plainly plan rounds n).1,
      (flatMap_roundOf_plainly plan rounds n).2]
    rfl
  · intro m finite n late
    obtain ⟨ends, failed⟩ := least_add_one_eq_iff.mp finite
    have run := firstRounds_of_last plan plainly rounds (fun i before => goesOn (failed i before))
      (loopFrom_of_ends plan plainly rounds ends) late
    rw [firstRounds] at run
    rw [call, callFrom_eq, run, List.count_append, List.filterMap_append,
      (flatMap_roundOf_plainly plan rounds m).1, (flatMap_roundOf_plainly plan rounds m).2]
    simp [Action.length?, Ending.result?]

end Tether.Retry

namespace Tether.Backoff

open Retry

theorem delay_of_capped {b : Backoff} {attempt : ℕ} (capped : (b.delay attempt).2) :
    (b.delay attempt).1 = b.max := by
  simp only [delay] at capped ⊢
  split at capped
  · next reached => rw [if_pos reached]
  · cases capped

variable {ε α : Type}

/-- A loop calls up to the first success, and no more often than it may. Before its last call each
call is followed by one pause. If that cannot be made, the loop ends there in a panic. Without
jitter every pause can be made; it is the one of the attempt counted, which stands still once the
longest pause is reached. -/
theorem calls_and_pauses (b : Backoff) (rounds : ℕ → Round ε α) :
    let succeeds : ℕ∞ := least (fun i => (rounds i).result.isOk) + 1
    let calls : ℕ∞ := if b.maxAttempts = 0 then succeeds else min succeeds b.maxAttempts.toNat
    let cap : ℕ∞ := least fun attempt => (b.delay attempt).2
    let attempt (i : ℕ) : ℕ := (min (i : ℕ∞) (min cap counterMax)).toNat
    let delay (i : ℕ) : Duration := (b.delay (attempt i)).1
    let pause (i : ℕ) : Except Overrun Duration := b.lengthen (rounds i).share (delay i)
    let before (i : ℕ) : List Action := (List.range i).flatMap fun j => callThen (pause j)
    let run (n : ℕ) := loopFrom b.plan b.lengthen .start ((List.range n).map rounds)
    let trace (n : ℕ) := call b.plan (((List.range n).map rounds).map Round.result)
    (∀ n : ℕ, n < calls → (∀ i < n, (pause i).isOk) → run n = (before n, none)) ∧
      (∀ m : ℕ, calls = (m + 1 : ℕ) →
        ((∀ i < m, (pause i).isOk) →
          ∀ n > m, run n = (before m ++ [.call], some (.returned (rounds m).result))) ∧
        ((rounds m).result.isOk ↔ b.maxAttempts = 0 ∨ succeeds ≤ b.maxAttempts.toNat)) ∧
      (∀ m : ℕ, (m + 1 : ℕ) < calls → (∀ i < m, (pause i).isOk) →
        ∀ fault, pause m = .error fault →
          ∀ n > m, run n = (before m ++ [.call], some (.panicked fault))) ∧
      (b.maxAttempts = 0 → ∀ n e, (run n).2 ≠ some (.returned (.error e))) ∧
      (∀ i, (b.hasJitter = false → pause i = .ok (delay i)) ∧
        (cap ≤ i → cap ≤ counterMax → delay i = b.max)) ∧
      (∀ n : ℕ, n < calls → trace n = ⟨n, (List.range n).map delay, none⟩) ∧
      ∀ m : ℕ, calls = (m + 1 : ℕ) →
        ∀ n > m, trace n = ⟨m + 1, (List.range m).map delay, some (rounds m).result⟩ := by
  intro succeeds calls cap attempt delay pause before run trace
  have last : least (Ends b.plan rounds) + 1 = calls := least_ends b.plan rounds
  have traces := call_firstRounds b.plan rounds
  rw [last] at traces
  have failed {n : ℕ} (early : n < calls) : ∀ i < n, ¬ Ends b.plan rounds i :=
    le_least_iff.mp (Order.le_of_lt_add_one (last ▸ early))
  refine ⟨fun n early paused => ?_, fun m finite => ⟨fun paused n late => ?_, ?_⟩,
    fun m more paused fault broken n late => ?_, fun unlimited n => ?_, fun i => ⟨?_, ?_⟩, traces⟩
  · exact firstRounds_of_going_on b.plan b.lengthen rounds fun i inside =>
      ⟨failed early i inside, paused i inside⟩
  · obtain ⟨ends, before⟩ := least_add_one_eq_iff.mp (last.trans finite)
    exact firstRounds_of_last b.plan b.lengthen rounds
      (fun i inside => ⟨before i inside, paused i inside⟩)
      (loopFrom_of_ends b.plan b.lengthen rounds ends) late
  · rw [finite, least_add_one_eq_iff] at last
    constructor
    · intro ok
      have first : succeeds = calls := by
        rw [finite]
        exact least_add_one_eq_iff.mpr ⟨ok, fun i before ok => last.2 i before (.inl ok)⟩
      refine or_iff_not_imp_left.mpr fun limited => ?_
      rw [first]
      simp only [calls, if_neg limited]
      exact min_le_right _ _
    · intro lucky
      have first : succeeds = calls := by
        rcases lucky with unlimited | early
        · simp only [calls, if_pos unlimited]
        · simp only [calls, min_eq_left early, ite_self]
      exact (least_add_one_eq_iff.mp (first.trans finite)).1
  · have going : ∀ i < m + 1, ¬ Ends b.plan rounds i := failed more
    refine firstRounds_of_last b.plan b.lengthen rounds
      (fun i inside => ⟨going i (Nat.lt_succ_of_lt inside), paused i inside⟩) (fun rest => ?_) late
    rw [loopFrom_of_failed b.plan b.lengthen rounds (going m (Nat.lt_succ_self m))]
    have broken : pauseAt b.plan b.lengthen rounds m = .error fault := broken
    rw [broken]
  · exact loopFrom_of_unlimited b.lengthen unlimited .start _
  · exact fun steady => lengthen_of_steady steady _ _
  · intro reached early
    obtain ⟨c, capped⟩ := ENat.ne_top_iff_exists.mp
      (ne_top_of_le_ne_top (ENat.natCast_ne_top i) reached)
    have found : b.plan.cap = c := capped.symm
    rw [← capped, Nat.cast_le] at reached early
    have still : attempt i = c := b.plan.exponent_of_cap found (le_min reached early)
    simp only [delay, still]
    exact delay_of_capped (least_eq_coe_iff.mp found).1

/-- With jitter a pause is longer, by the share that chance takes of a half. -/
example : loopFrom standard.plan { standard with jitter := 0.5 }.lengthen .start
    [(⟨.error "refused", 0.5⟩ : Round String Unit), ⟨.ok (), 0.5⟩] =
      ([.call, .pause (.ofMillis 125), .call], some (.returned (.ok ()))) := rfl

/-- A jitter that is no number makes no length of time. -/
example : { standard with jitter := 0.0 / 0.0 }.lengthen 0.5 (.ofMillis 100) = .error .addition :=
  rfl

/-- Pauses as long as can be, with jitter. -/
def endless : Backoff where
  initial := ⟨Duration.bound - 1⟩
  max := ⟨Duration.bound - 1⟩
  multiplier := 1.0
  jitter := 1.0
  maxAttempts := 2

/-- Such settings are in order, and the operation would succeed the second time. But the pause
before that overflows, so it is called once. -/
theorem endless_panics :
    endless.validate.isOk ∧
      loopFrom endless.plan endless.lengthen .start
        [(⟨.error "refused", 0.5⟩ : Round String Unit), ⟨.ok (), 0.5⟩] =
          ([.call], some (.panicked .sum)) := by
  have next : afterFailure endless.plan .start = .pause endless.max ⟨0, 1⟩ := by decide +kernel
  have broken : endless.lengthen 0.5 endless.max = .error .sum := rfl
  refine ⟨by decide +kernel, ?_⟩
  simp only [loopFrom, next, broken]

end Tether.Backoff
