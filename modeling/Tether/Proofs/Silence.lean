import Tether.Proofs.History
import Tether.Proofs.Session

/-! The end of a silent session. The watchdog counts the seconds since the session was opened or
last got a valid frame; the second that is one too many ends the session, and no second before it
does. Nothing else that may happen meanwhile touches the count. -/

namespace Tether.Session

open Wire

/-! ### Silence in a history -/

theorem silence_concat (ms : List Mark) (m : Mark) :
    silence (ms ++ [m]) = afterMark (silence ms) m := by
  rw [silence, List.foldl_append]
  rfl

theorem Overdue.append {limit : Nat} {ms : List Mark} (h : Overdue limit ms) (more : List Mark) :
    Overdue limit (ms ++ more) := by
  obtain ⟨before, n, start, silent, exceeded⟩ := h
  exact ⟨before, n, start.trans (List.prefix_append ms more), silent, exceeded⟩

/-- A silence becomes too long with the last mark, or has been so before. -/
theorem overdue_concat {limit : Nat} {ms : List Mark} {m : Mark} :
    Overdue limit (ms ++ [m]) ↔
      Overdue limit ms ∨ ∃ n, afterMark (silence ms) m = some n ∧ limit < n := by
  rw [← silence_concat]
  constructor
  · rintro ⟨before, n, start, silent, exceeded⟩
    rcases List.prefix_concat_iff.mp start with rfl | earlier
    · exact .inr ⟨n, silent, exceeded⟩
    · exact .inl ⟨before, n, earlier, silent, exceeded⟩
  · rintro (earlier | ⟨n, silent, exceeded⟩)
    · exact earlier.append [m]
    · exact ⟨_, n, List.prefix_rfl, silent, exceeded⟩

/-! ### The count of a session -/

/-- How a session that nothing has ended keeps count; `ms` is what happened so far. -/
structure Counting (c : Config) (ms : List Mark) (s : Session) : Prop where
  goesOn : Open s
  running : s.cancel = .running
  patient : ¬ Overdue c.idleLimit ms
  count : (silence ms = none ∧ s.idle = 0 ∧ s.dispatcher = .waiting ∧ s.watchdog = .waiting) ∨
    (silence ms = some s.idle ∧ s.idle ≤ c.idleLimit ∧ s.dispatcher ≠ .waiting ∧
      s.watchdog = .running)

namespace Counting

variable {c : Config} {ms : List Mark} {s : Session} (h : Counting c ms s)

include h

/-- The count only looks at the clock, at the tasks and at the flag. -/
theorem of_same {s' : Session} (goesOn : Open s') (idle : s'.idle = s.idle)
    (watchdog : s'.watchdog = s.watchdog) (cancel : s'.cancel = s.cancel)
    (waiting : s'.dispatcher = .waiting ↔ s.dispatcher = .waiting) : Counting c ms s' where
  goesOn := goesOn
  running := cancel.trans h.running
  patient := h.patient
  count := by
    rw [idle, watchdog, waiting, Ne, waiting]
    exact h.count

/-- A task at work may go on to other work. -/
theorem move (working : s.dispatcher ≠ .waiting) {d : Dispatcher} (busy : d ≠ .waiting)
    (alive : d ≠ .ended) : Counting c ms { s with dispatcher := d } :=
  h.of_same ⟨h.goesOn.shutdown, h.goesOn.released, alive⟩ rfl rfl rfl (iff_of_false busy working)

/-- A valid frame breaks the silence. -/
theorem heard {s' : Session} (listening : s.dispatcher ≠ .waiting) (goesOn : Open s')
    (idle : s'.idle = 0) (watchdog : s'.watchdog = s.watchdog) (cancel : s'.cancel = s.cancel)
    (still : s'.dispatcher ≠ .waiting) : Counting c (ms ++ [.heard]) s' := by
  obtain ⟨silent, -, -, counts⟩ := h.count.resolve_left fun unopened =>
    listening unopened.2.2.1
  have broken : afterMark (silence ms) .heard = some 0 := by
    rw [silent]
    rfl
  exact {
    goesOn := goesOn
    running := cancel.trans h.running
    patient := by
      rw [overdue_concat, broken]
      rintro (overdue | ⟨n, ⟨⟩, exceeded⟩)
      · exact h.patient overdue
      · exact absurd exceeded (Nat.not_lt_zero _)
    count := by
      rw [silence_concat, broken, idle, watchdog]
      exact .inr ⟨rfl, Nat.zero_le _, still, counts⟩ }

theorem handle (ready : s.dispatcher = .ready) (endFirst : Bool) (x : Inbound) :
    Counting c (ms ++ if x.isValid then [.heard] else []) (handle s endFirst x).1 := by
  have listening : s.dispatcher ≠ .waiting := by simp [ready]
  have goesOn := h.goesOn.afterHandle endFirst x
  cases x with
  | frame bytes =>
    rw [isValid_frame]
    cases read : valid? bytes with
    | none =>
      rw [handle_unread s endFirst read]
      simpa using h
    | some m =>
      cases routed : m.kind.isRouted with
      | true =>
        rw [handle_routed s endFirst read routed] at goesOn ⊢
        exact h.heard listening goesOn rfl rfl rfl (by simp)
      | false =>
        rw [handle_unrouted s endFirst read routed] at goesOn ⊢
        exact h.heard listening goesOn rfl rfl rfl listening
  | lost cause =>
    rw [handle_lost h.running]
    simpa [Inbound.isValid] using h.move listening (by simp) (by simp)

theorem resume (working : s.dispatcher ≠ .waiting) : Counting c ms (resume s) := by
  rw [h.goesOn.resume]
  exact h.move working (by simp) (by simp)

/-- A second lengthens the silence, or is the one that is too many. -/
theorem tick : Counting c (ms ++ [.second]) (tick c s) ∨
    Overdue c.idleLimit (ms ++ [.second]) ∧ (Session.tick c s).cancel = .canceled := by
  rcases h.count with ⟨unopened, idle, waiting, watchdog⟩ | ⟨silent, within, listening, watchdog⟩
  · have still : afterMark (silence ms) .second = none := by
      rw [unopened]
      rfl
    left
    have same : Session.tick c s = s := by simp [Session.tick, watchdog]
    rw [same]
    exact { h with
      patient := by
        rw [overdue_concat, still]
        simpa using h.patient
      count := .inl ⟨(silence_concat ms .second).trans still, idle, waiting, watchdog⟩ }
  · have longer : afterMark (silence ms) .second = some (s.idle + 1) := by
      rw [silent]
      rfl
    by_cases exceeded : c.idleLimit < s.idle + 1
    · right
      refine ⟨overdue_concat.mpr (.inr ⟨_, longer, exceeded⟩), ?_⟩
      simp [Session.tick, watchdog, exceeded, h.running, CancelState.set, CancelState.isTerminal]
    · left
      have counted : Session.tick c s = { s with idle := s.idle + 1 } := by
        simp [Session.tick, watchdog, exceeded]
      rw [counted]
      exact {
        goesOn := ⟨h.goesOn.shutdown, h.goesOn.released, h.goesOn.dispatcher⟩
        running := h.running
        patient := by
          rw [overdue_concat, longer]
          rintro (overdue | ⟨n, ⟨⟩, long⟩)
          · exact h.patient overdue
          · exact exceeded long
        count := .inr ⟨(silence_concat ms .second).trans longer, Nat.not_lt.mp exceeded,
          listening, watchdog⟩ }

/-- The first opening begins the count; another one changes nothing. -/
theorem opened : Counting c (ms ++ [.opened]) (opened s) := by
  rcases h.count with ⟨unopened, idle, waiting, watchdog⟩ | ⟨silent, within, listening, watchdog⟩
  · have begun : afterMark (silence ms) .opened = some 0 := by
      rw [unopened]
      rfl
    have started : Session.opened s = { s with dispatcher := .ready, watchdog := .running } := by
      simp [Session.opened, waiting, h.goesOn.shutdown, h.running, CancelState.isTerminal]
    rw [started]
    exact {
      goesOn := ⟨h.goesOn.shutdown, h.goesOn.released, by simp⟩
      running := h.running
      patient := by
        rw [overdue_concat, begun]
        rintro (overdue | ⟨n, ⟨⟩, exceeded⟩)
        · exact h.patient overdue
        · exact absurd exceeded (Nat.not_lt_zero _)
      count := .inr ⟨by rw [silence_concat, begun, idle], by simp [idle], by simp, rfl⟩ }
  · have kept : afterMark (silence ms) .opened = some s.idle := by
      rw [silent]
      rfl
    rw [opened_of_started listening]
    exact { h with
      patient := by
        rw [overdue_concat, kept]
        rintro (overdue | ⟨n, ⟨⟩, exceeded⟩)
        · exact h.patient overdue
        · exact absurd within (Nat.not_le.mpr exceeded)
      count := .inr ⟨(silence_concat ms .opened).trans kept, within, listening, watchdog⟩ }

end Counting

/-- Either the count goes on, or the session ended because some silence was too long. -/
def Watched (c : Config) (ms : List Mark) (s : Session) : Prop :=
  Counting c ms s ∨ Overdue c.idleLimit ms ∧ s.cancel = .canceled

/-- A step does to the count what it adds to the history, unless it ends the session for another
reason. -/
theorem Counting.step {c : Config} {ms : List Mark} {s : Session} (h : Counting c ms s) {e : Event}
    (quiet : otherEnd? c s e = none) :
    Watched c (ms ++ (mark? s e).toList) (step c s e).1 := by
  have unmarked : ∀ s', Counting c ms s' → Watched c (ms ++ []) s' := by
    intro s' counting
    rw [List.append_nil]
    exact .inl counting
  cases e with
  | opened ok =>
    cases ok with
    | true => exact .inl h.opened
    | false => exact unmarked s h
  | reconnected ok => exact unmarked s h
  | closed => cases quiet
  | released => cases quiet
  | arrived x =>
    refine unmarked _ ?_
    simp only [Session.step, arrive]
    split
    · exact h.of_same ⟨h.goesOn.shutdown, h.goesOn.released, h.goesOn.dispatcher⟩ rfl rfl rfl
        Iff.rfl
    · exact h
  | taken endFirst =>
    cases ready : s.dispatcher with
    | ready =>
      cases waiting : s.queue with
      | nil => simpa [mark?, taken?, Session.step, take, ready, waiting] using unmarked s h
      | cons x queue =>
        have left : Counting c ms { s with queue := queue } :=
          h.of_same ⟨h.goesOn.shutdown, h.goesOn.released, h.goesOn.dispatcher⟩ rfl rfl rfl Iff.rfl
        have marked : (mark? s (.taken endFirst)).toList = if x.isValid then [.heard] else [] := by
          cases valid : x.isValid <;> simp [mark?, taken?, ready, waiting, valid]
        rw [marked, step_taken c ready waiting]
        exact .inl (left.handle ready endFirst x)
    | _ => simpa [mark?, taken?, Session.step, take, ready] using unmarked s h
  | handled ok =>
    refine unmarked _ ?_
    simp only [Session.step, handled]
    split
    · next working => exact h.resume (by simp [working])
    · exact h
  | hungUp ok =>
    refine unmarked _ ?_
    simp only [Session.step, hungUp]
    split
    · next working => exact h.move (by simp [working]) (by simp) (by simp)
    · exact h
  | redialed ok =>
    refine unmarked _ ?_
    cases working : s.dispatcher with
    | redialing p =>
      have busy : s.dispatcher ≠ .waiting := by simp [working]
      cases ok with
      | true => simpa [Session.step, redialed, working] using h.resume busy
      | false =>
        cases next : Retry.afterFailure c.retry p with
        | giveUp => simp [otherEnd?, working, next] at quiet
        | pause length p' =>
          simpa [Session.step, redialed, working, next, h.goesOn.not_isOver h.running]
            using h.move busy (d := .pausing p') (by simp) (by simp)
    | _ => simpa [Session.step, redialed, working] using h
  | woken =>
    refine unmarked _ ?_
    simp only [Session.step, wake]
    split
    · next working => exact h.move (by simp [working]) (by simp) (by simp)
    · exact h
  | noticed =>
    refine unmarked _ ?_
    simpa only [Session.step, h.goesOn.notice h.running] using h
  | ticked => exact h.tick
  | cancelled next =>
    have harmless : next = .running := by
      cases next <;> simp_all [otherEnd?, CancelState.isTerminal]
    have running : ¬ (s.cancel.set next).2.isTerminal := by
      rw [harmless, h.running]
      decide
    refine unmarked _ ?_
    simpa [Session.step, cancelWith_of_running running] using h

theorem Watched.step {c : Config} {ms : List Mark} {s : Session} (h : Watched c ms s) {e : Event}
    (quiet : otherEnd? c s e = none) : Watched c (ms ++ (mark? s e).toList) (step c s e).1 := by
  rcases h with counting | ⟨overdue, canceled⟩
  · exact counting.step quiet
  · have terminal : s.cancel.isTerminal := by rw [canceled]; rfl
    exact .inr ⟨overdue.append _, (step_cancel_of_terminal c terminal e).trans canceled⟩

/-- Calls that send data do not count for anything. -/
theorem Watched.advance {c : Config} {ms : List Mark} {s : Session} (h : Watched c ms s) :
    Watched c ms s.advance := by
  rcases h with counting | ended
  · exact .inl (counting.of_same
      ⟨counting.goesOn.shutdown, counting.goesOn.released, counting.goesOn.dispatcher⟩
      rfl rfl rfl Iff.rfl)
  · exact .inr ended

/-! ### A run with senders -/

namespace Senders

/-- A frame that the plugin rejects breaks the silence; a frame without a date, one that cannot be
read, data sent, a reconnect and a second opening do not. -/
def interrupted : List Event :=
  [.other (.opened true), .other .ticked,
    .other (.arrived (.frame plainFrame)), .other (.taken false), .other (.handled false),
    .other .ticked,
    .other (.arrived (.frame (List.replicate 60 0))), .other (.taken false),
    .other (.arrived (.frame [7])), .other (.taken false),
    .called [7], .locked 0 1, .answered true,
    .other (.reconnected true), .other (.opened true)]

end Senders

end Tether.Session
