import Mathlib.Data.List.Induction
import Tether.Socket.ReadLoop

/-! What a read loop tells of its reads. The invariant ties what was passed on to the reads that the
loop went on with, and the failure count to the failures since the last data frame. As long as the
loop goes on, no such streak has come to the limit; so the first that does is the last thing
told. -/

namespace Tether.Socket

namespace ReadLoop

/-! ### Failures in a row -/

/-- The failures since the last data frame, in order. -/
def streak (rs : List ReadResult) : List String :=
  rs.foldl (fun texts r => if r.data?.isSome then [] else texts ++ r.failure?.toList) []

theorem streak_concat (rs : List ReadResult) (r : ReadResult) :
    streak (rs ++ [r]) = if r.data?.isSome then [] else streak rs ++ r.failure?.toList := by
  rw [streak, List.foldl_append]
  rfl

theorem streak_append (rs : List ReadResult) {span : List ReadResult}
    (dataless : ∀ r ∈ span, r.data? = none) :
    streak (rs ++ span) = streak rs ++ span.filterMap ReadResult.failure? := by
  induction span using List.reverseRecOn with
  | nil => simp
  | append_singleton span r ih =>
    rw [List.forall_mem_append, List.forall_mem_singleton] at dataless
    rw [← List.append_assoc, streak_concat, ih dataless.1, dataless.2, List.filterMap_append]
    cases failure : r.failure? <;> simp [failure]

/-- A streak is what failed in a stretch without data frames at the end. -/
theorem exists_streak (rs : List ReadResult) : ∃ before span, rs = before ++ span ∧
    (∀ r ∈ span, r.data? = none) ∧ span.filterMap ReadResult.failure? = streak rs := by
  induction rs using List.reverseRecOn with
  | nil => exact ⟨[], [], rfl, nofun, rfl⟩
  | append_singleton rs r ih =>
    rw [streak_concat]
    cases data : r.data? with
    | some bytes => exact ⟨rs ++ [r], [], (List.append_nil _).symm, nofun, rfl⟩
    | none =>
      obtain ⟨before, span, rfl, dataless, failures⟩ := ih
      refine ⟨before, span ++ [r], (List.append_assoc _ _ _), ?_, ?_⟩
      · rw [List.forall_mem_append, List.forall_mem_singleton]
        exact ⟨dataless, data⟩
      · rw [List.filterMap_append, failures]
        cases failure : r.failure? <;> simp [failure]

/-- If no streak came to the limit before, giving up is a matter of the last one. -/
theorem givesUp_iff {limit : Nat} {rs : List ReadResult} {reason : String}
    (within : ∀ early, early <+: rs → early ≠ rs → (streak early).length < limit)
    (most : (streak rs).length ≤ limit) :
    GivesUp limit rs reason ↔
      (streak rs).length = limit ∧ (streak rs).getLast? = some reason := by
  constructor
  · rintro ⟨span, ⟨before, after, rfl⟩, dataless, count, last⟩
    have failures := streak_append before dataless
    have long : limit ≤ (streak (before ++ span)).length := by
      rw [failures, List.length_append, count]
      exact Nat.le_add_left _ _
    have all : before ++ span = before ++ span ++ after := by
      by_contra more
      exact absurd (within _ (List.prefix_append _ _) more) (Nat.not_lt.mpr long)
    rw [← all, failures, List.length_append, count] at most
    obtain none : streak before = [] := List.length_eq_zero_iff.mp (by omega)
    rw [← all, failures, none]
    exact ⟨count, last⟩
  · rintro ⟨count, last⟩
    obtain ⟨before, span, rfl, dataless, failures⟩ := exists_streak rs
    exact ⟨span, List.suffix_append _ _ |>.isInfix, dataless, failures ▸ count, failures ▸ last⟩

/-! ### The loop -/

/-- Whether the loop has given up, as far as anyone is told: none of the reads before the
connection was let go of was one too many, or the last of them was. -/
inductive Verdict (limit : Nat) (early : List ReadResult) (l : ReadLoop) :
    Option String → Prop where
  | going : (streak early).length < limit → (∀ cause, l.phase ≠ .passing (.lost cause)) →
      (l.phase ≠ .ended → l.failures < limit) → (l.phase = .ended → l.shutdown = true) →
      Verdict limit early l none
  | lost {reason : String} : (streak early).length = limit →
      (streak early).getLast? = some reason →
      l.phase = .passing (.lost (.receive reason)) ∨ l.phase = .ended →
      Verdict limit early l (some reason)

def errorEvent (reason : String) : Inbound := .lost (.receive reason)

/-- What holds of a loop after the events `es`. -/
structure Told (limit : Nat) (es : List Event) (reads early : List ReadResult)
    (seen : List Inbound) (error : Option String) (l : ReadLoop) : Prop where
  bound : l.limit = limit
  kept : reads ++ l.held ++ l.unread = brought es
  passed : seen ++ l.leaving =
    (reads.filterMap ReadResult.data?).map .frame ++ (error.map errorEvent).toList
  failures : l.failures = (streak reads).length
  upToDate : l.shutdown = false → early = reads
  within : ∀ rs, rs <+: early → rs ≠ early → (streak rs).length < limit
  verdict : Verdict limit early l error

theorem told_start {limit : Nat} (positive : 1 ≤ limit) :
    Told limit [] [] [] [] none (start limit) where
  bound := rfl
  kept := rfl
  passed := rfl
  failures := rfl
  upToDate _ := rfl
  within _ front ne := absurd (List.prefix_nil.mp front) ne
  verdict := .going positive nofun (fun _ => positive) nofun

theorem brought_append (es fs : List Event) : brought (es ++ fs) = brought es ++ brought fs :=
  List.filterMap_append

variable {limit : Nat} {es : List Event} {reads early : List ReadResult} {seen : List Inbound}
  {error : Option String} {l : ReadLoop}

/-- What a read adds to those before the connection was let go of. -/
def inTime (l : ReadLoop) (r : ReadResult) : List ReadResult := if l.shutdown then [] else [r]

theorem within_inTime (within : ∀ rs, rs <+: early → rs ≠ early → (streak rs).length < limit)
    (below : (streak early).length < limit) (l : ReadLoop) (r : ReadResult) :
    ∀ rs, rs <+: early ++ l.inTime r → rs ≠ early ++ l.inTime r →
      (streak rs).length < limit := by
  unfold inTime
  cases l.shutdown with
  | true => simpa using within
  | false =>
    intro rs front ne
    rcases List.prefix_concat_iff.mp front with rfl | front
    · exact absurd rfl ne
    · by_cases all : rs = early
      · rwa [all]
      · exact within rs front all

namespace Told

variable (h : Told limit es reads early seen error l)

include h

/-- The reads stay as they are, and so does what has been told of them. -/
theorem onward {e : Event} {l' : ReadLoop} {seen' : List Inbound} (bound : l'.limit = l.limit)
    (kept : l'.held ++ l'.unread = l.held ++ l.unread ++ brought [e])
    (passed : seen' ++ l'.leaving = seen ++ l.leaving) (failures : l'.failures = l.failures)
    (shutdown : l'.shutdown = false → l.shutdown = false) (verdict : Verdict limit early l' error) :
    Told limit (es ++ [e]) reads early seen' error l' where
  bound := bound.trans h.bound
  kept := by
    rw [List.append_assoc, kept, brought_append, ← h.kept]
    simp only [List.append_assoc]
  passed := passed.trans h.passed
  failures := failures.trans h.failures
  upToDate on := h.upToDate (shutdown on)
  within := h.within
  verdict := verdict

theorem ready (r : ReadResult) :
    Told limit (es ++ [.ready r]) reads early seen error { l with unread := l.unread ++ [r] } := by
  refine h.onward rfl (List.append_assoc _ _ _).symm rfl rfl id ?_
  cases h.verdict with
  | going below silent counting gone => exact .going below silent counting gone
  | lost count last phase => exact .lost count last phase

theorem shutdown :
    Told limit (es ++ [.shutdown]) reads early seen error { l with shutdown := true } := by
  refine h.onward rfl (List.append_nil _).symm rfl rfl nofun ?_
  cases h.verdict with
  | going below silent counting gone => exact .going below silent counting fun _ => rfl
  | lost count last phase => exact .lost count last phase

theorem aside {e : Event} (nothing : brought [e] = []) :
    Told limit (es ++ [e]) reads early seen error l :=
  h.onward rfl (by rw [nothing, List.append_nil]) rfl rfl id h.verdict

theorem polled : Told limit (es ++ [.polled]) reads early seen error l.poll := by
  unfold poll
  split
  · next waiting =>
    have going : (streak early).length < limit ∧ l.failures < limit ∧ error = none := by
      cases h.verdict with
      | going below silent counting gone => exact ⟨below, counting (by simp [waiting]), rfl⟩
      | lost count last phase => simp [waiting] at phase
    obtain ⟨below, counting, rfl⟩ := going
    split
    · next gone =>
      exact h.onward rfl (by simp [held, waiting, brought]) (by simp [leaving, waiting]) rfl id
        (.going below nofun (fun on => absurd rfl on) fun _ => gone)
    · split
      · exact h.aside rfl
      · next r rest unread =>
        exact h.onward rfl (by simp [held, waiting, unread, brought]) (by simp [leaving, waiting])
          rfl id (.going below nofun (fun _ => counting) nofun)
  · exact h.aside rfl

theorem of_holding {r : ReadResult} (holding : l.phase = .holding r) :
    (streak early).length < limit ∧ l.failures < limit ∧ error = none := by
  cases h.verdict with
  | going below silent counting gone => exact ⟨below, counting (by simp [holding]), rfl⟩
  | lost count last phase => simp [holding] at phase

/-- A read that is sorted may be told, or may be one too many. -/
theorem sortedTo {r : ReadResult} (holding : l.phase = .holding r) {error' : Option String}
    {l' : ReadLoop} (bound : l'.limit = l.limit) (kept : l'.held ++ l'.unread = l.unread)
    (shutdown : l'.shutdown = l.shutdown)
    (leaving : l'.leaving = (r.data?.map Inbound.frame).toList ++ (error'.map errorEvent).toList)
    (failures : l'.failures = (streak (reads ++ [r])).length)
    (verdict : Verdict limit (early ++ l.inTime r) l' error') :
    Told limit (es ++ [.sorted]) (reads ++ [r]) (early ++ l.inTime r) seen error' l' where
  bound := bound.trans h.bound
  kept := by
    have before := h.kept
    rw [held, holding] at before
    rw [List.append_assoc, kept, before, brought_append]
    exact (List.append_nil _).symm
  passed := by
    have before := h.passed
    obtain ⟨-, -, rfl⟩ := h.of_holding holding
    rw [ReadLoop.leaving, holding, List.append_nil] at before
    rw [leaving, before]
    cases data : r.data? <;> simp [data]
  failures := failures
  upToDate on := by
    rw [shutdown] at on
    rw [h.upToDate on, inTime, on]
    rfl
  within := within_inTime h.within (h.of_holding holding).1 l r
  verdict := verdict

/-- Nothing is told of a read that is one too many after the connection was let go of. -/
theorem below_inTime {r : ReadResult} (holding : l.phase = .holding r)
    (fine : l.shutdown = true ∨ (streak (reads ++ [r])).length < limit) :
    (streak (early ++ l.inTime r)).length < limit := by
  unfold inTime
  cases gone : l.shutdown with
  | true => simpa using (h.of_holding holding).1
  | false =>
    rw [h.upToDate gone]
    exact fine.resolve_left (by simp [gone])

theorem sorted {r : ReadResult} (holding : l.phase = .holding r) : ∃ error',
    Told limit (es ++ [.sorted]) (reads ++ [r]) (early ++ l.inTime r) seen error' (l.sort r) := by
  obtain ⟨below, counting, rfl⟩ := h.of_holding holding
  have failures := h.failures
  unfold sort
  cases data : r.data? with
  | some bytes =>
    have cleared : streak (reads ++ [r]) = [] := by
      rw [streak_concat, data]
      rfl
    have fine := h.below_inTime holding (.inr (by rw [cleared]; exact Nat.zero_lt_of_lt below))
    exact ⟨none, h.sortedTo holding rfl rfl rfl (by simp [leaving, data]) (by rw [cleared]; rfl)
      (.going fine nofun (fun _ => Nat.zero_lt_of_lt below) nofun)⟩
  | none =>
    cases failure : r.failure? with
    | none =>
      have same : streak (reads ++ [r]) = streak reads := by
        rw [streak_concat, data, failure]
        exact List.append_nil _
      have fine := h.below_inTime holding (.inr (by rw [same, ← failures]; exact counting))
      exact ⟨none, h.sortedTo holding rfl rfl rfl (by simp [leaving, data]) (by rw [same, failures])
        (.going fine nofun (fun _ => counting) nofun)⟩
    | some reason =>
      have longer : streak (reads ++ [r]) = streak reads ++ [reason] := by
        rw [streak_concat, data, failure]
        rfl
      have count : (streak (reads ++ [r])).length = l.failures + 1 := by
        rw [longer, failures, List.length_append, List.length_singleton]
      rw [h.bound]
      dsimp only
      by_cases many : l.failures + 1 ≥ limit
      · rw [if_pos many]
        cases gone : l.shutdown with
        | true =>
          have fine := h.below_inTime holding (.inl gone)
          exact ⟨none, h.sortedTo holding h.bound.symm rfl gone.symm (by simp [leaving, data])
            count.symm (.going fine nofun (fun on => absurd rfl on) fun _ => rfl)⟩
        | false =>
          have all : early ++ l.inTime r = reads ++ [r] := by
            rw [h.upToDate gone, inTime, gone]
            rfl
          refine ⟨some reason, h.sortedTo holding h.bound.symm rfl gone.symm
            (by simp [leaving, data, errorEvent]) count.symm (.lost ?_ ?_ (.inl rfl))⟩
          · rw [all]
            omega
          · rw [all, longer, List.getLast?_concat]
      · rw [if_neg many]
        have fine := h.below_inTime holding (.inr (by omega))
        exact ⟨none, h.sortedTo holding h.bound.symm rfl rfl (by simp [leaving, data]) count.symm
          (.going fine nofun (fun _ => Nat.not_le.mp many) nofun)⟩

theorem passes : Told limit (es ++ [.passed true]) reads early (seen ++ (l.pass true).2.toList)
    error (l.pass true).1 := by
  unfold pass
  split
  · next bytes passing =>
    refine h.onward rfl (by simp [held, passing, brought]) (by simp [leaving, passing]) rfl id ?_
    cases h.verdict with
    | going below silent counting gone =>
      exact .going below nofun (fun _ => counting (by simp [passing])) nofun
    | lost count last phase => simp [passing] at phase
  · next cause passing =>
    refine h.onward rfl (by simp [held, passing, brought]) (by simp [leaving, passing]) rfl id ?_
    cases h.verdict with
    | going below silent counting gone => exact absurd passing (silent cause)
    | lost count last phase => exact .lost count last (.inr rfl)
  · simpa using h.aside (e := .passed true) rfl

theorem step {e : Event} (alive : e ≠ .passed false) : ∃ error',
    Told limit (es ++ [e]) (reads ++ (sorted? l e).toList)
      (early ++ (if l.shutdown then none else sorted? l e).toList)
      (seen ++ (l.step e).2.toList) error' (l.step e).1 := by
  cases e with
  | ready r => exact ⟨error, by simpa [sorted?, ReadLoop.step] using h.ready r⟩
  | polled => exact ⟨error, by simpa [sorted?, ReadLoop.step] using h.polled⟩
  | sorted =>
    simp only [sorted?, ReadLoop.step]
    split
    · next r holding =>
      obtain ⟨error', told⟩ := h.sorted holding
      refine ⟨error', ?_⟩
      rw [inTime] at told
      cases gone : l.shutdown <;> simpa [gone] using told
    · exact ⟨error, by simpa using h.aside (e := .sorted) rfl⟩
  | passed taken =>
    cases taken with
    | true => exact ⟨error, by simpa [sorted?, ReadLoop.step] using h.passes⟩
    | false => exact absurd rfl alive
  | shutdown => exact ⟨error, by simpa [sorted?, ReadLoop.step] using h.shutdown⟩

theorem run {fs : List Event} (alive : .passed false ∉ fs) : ∃ error',
    Told limit (es ++ fs) (reads ++ l.reads fs) (early ++ l.earlyReads fs) (seen ++ (l.run fs).2)
      error' (l.run fs).1 := by
  induction fs generalizing es reads early seen error l with
  | nil =>
    refine ⟨error, ?_⟩
    simpa [ReadLoop.run, ReadLoop.reads, earlyReads, Session.observe] using h
  | cons e fs ih =>
    rw [List.mem_cons, not_or] at alive
    obtain ⟨error', told⟩ := h.step (Ne.symm alive.1)
    obtain ⟨error'', told⟩ := ih told alive.2
    refine ⟨error'', ?_⟩
    simp only [List.append_assoc] at told
    exact told

end Told

theorem sort_phase_ne (l : ReadLoop) (r r' : ReadResult) : (l.sort r).phase ≠ .holding r' := by
  unfold sort
  repeat' split
  all_goals nofun

theorem AtRest.phase {l : ReadLoop} (rest : l.AtRest) :
    l.phase = .ended ∨ l.phase = .waiting ∧ l.unread = [] := by
  obtain ⟨polled, sorted, passed⟩ := rest
  cases phase : l.phase with
  | waiting =>
    simp only [ReadLoop.step, poll, phase] at polled
    split at polled
    · rw [← polled] at phase
      cases phase
    · split at polled
      · next unread => exact .inr ⟨rfl, unread⟩
      · rw [← polled] at phase
        cases phase
  | holding r =>
    simp only [ReadLoop.step, phase] at sorted
    rw [← sorted] at phase
    exact absurd phase (sort_phase_ne l r r)
  | passing e =>
    simp only [ReadLoop.step, pass, phase] at passed
    cases e <;> (rw [← passed] at phase; cases phase)
  | ended => exact .inl rfl

/-- What a loop passes on is what the data frames hold that it has read, in order, and after
that at most one loss. It tells the loss if and only if `limit` reads failed with no data frame
between them before the connection was let go of, with the reason of the last one. It goes on with
all that there is to read, until it gives up or is let go. -/
theorem loop_exact {limit : Nat} (positive : 1 ≤ limit) {es : List Event}
    (alive : .passed false ∉ es) :
    let l := (start limit).run es
    let reads := (start limit).reads es
    (∃ error : Option String,
      l.2 ++ l.1.leaving = (reads.filterMap ReadResult.data?).map .frame ++
        (error.map fun reason => Inbound.lost (.receive reason)).toList ∧
      (∀ reason, error = some reason ↔
        GivesUp limit ((start limit).earlyReads es) reason) ∧
      (l.1.phase = .ended → l.1.shutdown = true ∨ error.isSome)) ∧
    reads ++ l.1.held ++ l.1.unread = brought es ∧
    (l.1.AtRest → l.1.leaving = [] ∧ (l.1.phase = .ended ∨ reads = brought es)) := by
  intro l reads
  obtain ⟨error, told⟩ := (told_start positive).run alive
  simp only [List.nil_append] at told
  refine ⟨⟨error, told.passed, fun reason => ?_, fun ended => ?_⟩, told.kept, fun rest => ?_⟩
  · have most : (streak ((start limit).earlyReads es)).length ≤ limit := by
      cases told.verdict with
      | going below _ _ _ => exact Nat.le_of_lt below
      | lost count _ _ => exact Nat.le_of_eq count
    rw [givesUp_iff told.within most]
    cases told.verdict with
    | going below _ _ _ => simp [Nat.ne_of_lt below]
    | lost count last _ => simp [count, last]
  · cases told.verdict with
    | going _ _ _ gone => exact .inl (gone ended)
    | lost _ _ _ => exact .inr rfl
  · rcases rest.phase with ended | ⟨waiting, unread⟩
    · exact ⟨by rw [leaving, ended], .inl ended⟩
    · have kept := told.kept
      rw [held, waiting, unread, List.append_nil, List.append_nil] at kept
      exact ⟨by rw [leaving, waiting], .inr kept⟩

/-- A loop that has the time for `n` reads. -/
def turns (n : Nat) : List Event := (List.replicate n [.polled, .sorted, .passed true]).flatten

/-- A failure, a data frame, and two failures with a ping between them. -/
def flaky : List Event :=
  [.ready (.failed "reset"), .ready (.binary [1]), .ready (.closed "None"), .ready .control] ++
    turns 4 ++ [.ready .ended, .ready (.text [2]), .polled]

/-- After the second of the two failures the loop gives up, and leaves the rest unread. If the
connection is let go of before the loop goes on with that failure, nothing is told of it. -/
theorem flaky_exact :
    let l := (start 2).run (flaky ++ turns 1)
    let l' := (start 2).run (flaky ++ [.shutdown] ++ turns 1)
    (1 ≤ 2 ∧ .passed false ∉ flaky ++ turns 1 ∧ .passed false ∉ flaky ++ [.shutdown] ++ turns 1) ∧
      l.2 = [.frame [1], .lost (.receive "connection closed")] ∧ l.1.unread = [.text [2]] ∧
      GivesUp 2 ((start 2).earlyReads (flaky ++ turns 1)) "connection closed" ∧
      l'.2 = [.frame [1]] ∧
      ∀ reason, ¬ GivesUp 2 ((start 2).earlyReads (flaky ++ [.shutdown] ++ turns 1)) reason := by
  intro l l'
  have positive : 1 ≤ 2 := by decide
  have alive : .passed false ∉ flaky ++ turns 1 := by decide
  have alive' : .passed false ∉ flaky ++ [.shutdown] ++ turns 1 := by decide
  obtain ⟨⟨error, passed, tells, -⟩, -, -⟩ := loop_exact positive alive
  obtain ⟨⟨error', passed', tells', -⟩, -, -⟩ := loop_exact positive alive'
  have lost : error = some "connection closed" := by
    have seen : l.2 ++ l.1.leaving = [.frame [1]] ++ [.lost (.receive "connection closed")] := by
      decide
    have data : (((start 2).reads (flaky ++ turns 1)).filterMap
        ReadResult.data?).map Inbound.frame = [.frame [1]] := by decide
    rw [seen, data, List.append_cancel_left_eq] at passed
    cases error with
    | none => cases passed
    | some reason => cases passed; rfl
  have silent : error' = none := by
    have seen : l'.2 ++ l'.1.leaving = [.frame [1]] ++ [] := by decide
    have data : (((start 2).reads (flaky ++ [.shutdown] ++ turns 1)).filterMap
        ReadResult.data?).map Inbound.frame = [.frame [1]] := by decide
    rw [seen, data, List.append_cancel_left_eq] at passed'
    cases error' with
    | none => rfl
    | some reason => cases passed'
  refine ⟨⟨positive, alive, alive'⟩, by decide, by decide, (tells _).mp lost, by decide, ?_⟩
  intro reason givesUp
  rw [silent] at tells'
  cases (tells' reason).mpr givesUp

end ReadLoop

end Tether.Socket
