import Tether.Session.Basic

/-! What the steps of a session leave alone. Only sending moves the number of the next frame,
nothing moves a flag that has reached its end, and only closing or letting go ends the
dispatcher. -/

namespace Tether.Session

@[simp] theorem advance_sequence (s : Session) : s.advance.sequence = s.sequence + 1 := rfl

/-! ### The flag, and what no step undoes -/

@[simp] theorem resume_cancel (s : Session) : (resume s).cancel = s.cancel := by
  unfold resume
  dsimp only
  split <;> rfl

@[simp] theorem cancelWith_cancel (s : Session) (next : CancelState) :
    (cancelWith s next).2.cancel = (s.cancel.set next).2 := by
  unfold cancelWith
  dsimp only
  split <;> rfl

/-- What a flag says does not move the dispatcher. -/
@[simp] theorem cancelWith_dispatcher (s : Session) (next : CancelState) :
    (cancelWith s next).2.dispatcher = s.dispatcher := by
  unfold cancelWith
  dsimp only
  split <;> rfl

theorem opened_of_started {s : Session} (started : s.dispatcher ≠ .waiting) : opened s = s := by
  cases d : s.dispatcher <;> simp_all [opened]

theorem handled_of_idle {s : Session} (idle : s.dispatcher ≠ .handling) : handled s = s := by
  cases d : s.dispatcher <;> simp_all [handled]

theorem step_taken (c : Config) {s : Session} (ready : s.dispatcher = .ready) {x : Inbound}
    {queue : List Inbound} (next : s.queue = x :: queue) (endFirst : Bool) :
    step c s (.taken endFirst) = handle { s with queue := queue } endFirst x := by
  simp [step, take, ready, next]

/-- Setting the flag to what does not end it does nothing. -/
theorem cancelWith_of_running {s : Session} {next : CancelState}
    (running : ¬ (s.cancel.set next).2.isTerminal) : (cancelWith s next).2 = s := by
  have same : (s.cancel.set next).2 = s.cancel := by
    unfold CancelState.set at running ⊢
    split at running <;> simp_all
  unfold cancelWith
  dsimp only
  rw [if_neg running, same]

theorem tick_dispatcher (c : Config) (s : Session) : (tick c s).dispatcher = s.dispatcher := by
  unfold tick
  split
  · dsimp only
    split
    · exact cancelWith_dispatcher _ _
    · rfl
  · rfl

/-- What no step undoes. -/
structure Kept (s s' : Session) : Prop where
  sequence : s'.sequence = s.sequence
  shutdown : s.shutdown → s'.shutdown
  started : s'.dispatcher = .waiting → s.dispatcher = .waiting

theorem Kept.refl (s : Session) : Kept s s := ⟨rfl, id, id⟩

theorem Kept.trans {s t u : Session} (first : Kept s t) (then' : Kept t u) : Kept s u :=
  ⟨then'.sequence.trans first.sequence, then'.shutdown ∘ first.shutdown,
    first.started ∘ then'.started⟩

theorem shutDown_kept (s : Session) : Kept s (shutDown s) := by
  refine ⟨rfl, fun _ => rfl, ?_⟩
  cases d : s.dispatcher <;> simp [shutDown, stopWatchdog, d]

theorem resume_kept (s : Session) : Kept s (resume s) := by
  unfold resume
  dsimp only
  split
  · exact ⟨rfl, fun _ => rfl, by simp [shutDown, stopWatchdog]⟩
  · exact ⟨rfl, id, by simp⟩

theorem cancelWith_kept (s : Session) (next : CancelState) : Kept s (cancelWith s next).2 := by
  unfold cancelWith
  dsimp only
  split <;> exact ⟨rfl, id, id⟩

theorem handle_kept (s : Session) (endFirst : Bool) (x : Inbound) :
    Kept s (handle s endFirst x).1 ∧ (handle s endFirst x).1.cancel = s.cancel := by
  unfold handle
  repeat' split
  all_goals exact ⟨⟨rfl, id, by simp⟩, rfl⟩

/-- A step undoes nothing, and it moves the flag by setting it. -/
theorem step_cases (c : Config) (s : Session) (e : Event) : ∃ s' : Session,
    Kept s s' ∧ s'.cancel = s.cancel ∧
      ((step c s e).1 = s' ∨ ∃ next, (step c s e).1 = (cancelWith s' next).2) := by
  have kept : ∀ s' : Session, Kept s s' → s'.cancel = s.cancel → ∃ t : Session,
      Kept s t ∧ t.cancel = s.cancel ∧ (s' = t ∨ ∃ next, s' = (cancelWith t next).2) :=
    fun s' keeps cancel => ⟨s', keeps, cancel, .inl rfl⟩
  have same := kept s (.refl s) rfl
  cases e with
  | opened ok =>
    cases ok with
    | true =>
      by_cases waiting : s.dispatcher = .waiting
      · simp only [step, ↓reduceIte, opened, waiting]
        split <;> exact kept _ ⟨rfl, id, by simp⟩ rfl
      · rw [step, if_pos rfl, opened_of_started waiting]
        exact same
    | false => exact same
  | reconnected ok => exact same
  | closed => exact kept _ (shutDown_kept s) rfl
  | released =>
    simp only [step, release]
    split
    · exact kept _ ⟨rfl, id, id⟩ rfl
    · exact kept _ ⟨rfl, fun _ => rfl, by simp⟩ rfl
  | arrived e =>
    simp only [step, arrive]
    split
    · exact kept _ ⟨rfl, id, id⟩ rfl
    · exact same
  | taken endFirst =>
    simp only [step, take]
    split
    · next x queue _ _ =>
      have left : Kept s { s with queue := queue } := ⟨rfl, id, id⟩
      obtain ⟨keeps, cancel⟩ := handle_kept { s with queue := queue } endFirst x
      exact kept _ (left.trans keeps) cancel
    · exact same
  | handled ok =>
    simp only [step, handled]
    split
    · exact kept _ (resume_kept s) (resume_cancel s)
    · exact same
  | hungUp ok =>
    simp only [step, hungUp]
    split
    · exact kept _ ⟨rfl, id, by simp⟩ rfl
    · exact same
  | redialed ok =>
    simp only [step, redialed]
    repeat' split
    · exact kept _ (resume_kept s) (resume_cancel s)
    · exact ⟨resume s, resume_kept s, resume_cancel s, .inr ⟨_, rfl⟩⟩
    · exact kept _ (resume_kept s) (resume_cancel s)
    · exact kept _ ⟨rfl, id, by simp⟩ rfl
    · exact same
  | woken =>
    simp only [step, wake]
    split
    · exact kept _ ⟨rfl, id, by simp⟩ rfl
    · exact same
  | noticed =>
    simp only [step, notice]
    split
    · exact kept _ (resume_kept s) (resume_cancel s)
    · exact same
  | ticked =>
    simp only [step, tick]
    repeat' split
    · exact ⟨{ s with idle := s.idle + 1 }, ⟨rfl, id, id⟩, rfl, .inr ⟨_, rfl⟩⟩
    · exact kept _ ⟨rfl, id, id⟩ rfl
    · exact same
  | cancelled next => exact ⟨s, .refl s, rfl, .inr ⟨next, rfl⟩⟩

theorem step_kept (c : Config) (s : Session) (e : Event) : Kept s (step c s e).1 := by
  obtain ⟨s', keeps, -, same | ⟨next, set⟩⟩ := step_cases c s e
  · rwa [same]
  · rw [set]
    exact keeps.trans (cancelWith_kept s' next)

theorem step_sequence (c : Config) (s : Session) (e : Event) :
    (step c s e).1.sequence = s.sequence := (step_kept c s e).sequence

/-- A flag at its end stays there. -/
theorem step_cancel_of_terminal (c : Config) {s : Session} (terminal : s.cancel.isTerminal)
    (e : Event) : (step c s e).1.cancel = s.cancel := by
  obtain ⟨s', -, cancel, same | ⟨next, set⟩⟩ := step_cases c s e
  · rw [same, cancel]
  · rw [set, cancelWith_cancel, cancel]
    simp [CancelState.set, terminal]

theorem run_cancel_of_terminal (c : Config) {s : Session} (terminal : s.cancel.isTerminal)
    (es : List Event) : (run c s es).1.cancel = s.cancel := by
  induction es generalizing s with
  | nil => rfl
  | cons e es ih =>
    have kept := step_cancel_of_terminal c terminal e
    rw [run, ih (by rw [kept]; exact terminal), kept]

/-! ### A session that is over -/

/-- Once closed, a session takes no event; once let go, it ends as soon as it is at rest. -/
structure Orderly (s : Session) : Prop where
  closed : s.shutdown → s.dispatcher ≠ .ready
  letGo : s.released → s.dispatcher ≠ .waiting ∧ s.dispatcher ≠ .ready

namespace Orderly

variable {s : Session}

/-- Work goes on in a session that was not closed. -/
theorem of_work {s' : Session} (notClosed : s'.shutdown = false) (busy : s'.dispatcher ≠ .waiting)
    (working : s'.released → s'.dispatcher ≠ .ready) : Orderly s' :=
  ⟨by simp [notClosed], fun released => ⟨busy, working released⟩⟩

theorem of_ended (ended : s.dispatcher = .ended) : Orderly s :=
  ⟨by simp [ended], by simp [ended]⟩

theorem of_recovering (recovering : s.dispatcher.isRecovering) : Orderly s := by
  constructor
  · rintro - ready
    simp [ready, Dispatcher.isRecovering] at recovering
  · rintro -
    constructor <;> intro other <;> simp [other, Dispatcher.isRecovering] at recovering

theorem resume (s : Session) : Orderly (resume s) := by
  unfold Session.resume
  dsimp only
  split
  · exact of_ended rfl
  · next goesOn =>
    obtain ⟨notClosed, held⟩ := Bool.or_eq_false_iff.mp (Bool.eq_false_iff.mpr goesOn)
    exact of_work notClosed (by simp) (by simp [held])

theorem cancelWith (h : Orderly s) (next : CancelState) : Orderly (cancelWith s next).2 := by
  unfold Session.cancelWith
  dsimp only
  split <;> exact ⟨h.closed, h.letGo⟩

theorem shutDown (h : Orderly s) : Orderly (shutDown s) := by
  cases d : s.dispatcher with
  | ready => exact of_ended (by simp [Session.shutDown, stopWatchdog, d])
  | _ =>
    have same : (Session.shutDown s).dispatcher = s.dispatcher := by
      simp [Session.shutDown, stopWatchdog, d]
    exact ⟨fun _ => by simp [same, d], fun released => same ▸ h.letGo released⟩

theorem notClosed (h : Orderly s) (ready : s.dispatcher = .ready) : s.shutdown = false := by
  rw [← Bool.not_eq_true]
  exact fun shut => h.closed shut ready

theorem release (h : Orderly s) : Orderly (release s) := by
  unfold Session.release
  dsimp only
  split
  · next busy =>
    refine ⟨h.closed, fun _ => ?_⟩
    cases d : s.dispatcher <;> simp [d, Dispatcher.isRecovering] at busy ⊢
  · exact of_ended rfl

theorem handle (h : Orderly s) (ready : s.dispatcher = .ready) (endFirst : Bool) (x : Inbound) :
    Orderly (handle s endFirst x).1 := by
  have goesOn := h.notClosed ready
  have held : s.released ≠ true := fun released => (h.letGo released).2 ready
  unfold Session.handle
  repeat' split
  all_goals exact of_work goesOn (by simp [ready]) fun released => absurd released held

theorem step (h : Orderly s) (c : Config) (e : Event) : Orderly (step c s e).1 := by
  have working : ∀ d : Dispatcher, d.isRecovering → Orderly { s with dispatcher := d } :=
    fun _ recovering => of_recovering recovering
  cases e with
  | opened ok =>
    cases ok with
    | true =>
      cases d : s.dispatcher with
      | waiting =>
        have held : s.released ≠ true := fun released => (h.letGo released).1 d
        simp only [Session.step, ↓reduceIte, opened, d]
        split
        · exact of_ended rfl
        · next goesOn =>
          exact of_work (by simpa using goesOn) (by simp) fun released => absurd released held
      | _ =>
        rw [Session.step, if_pos rfl, opened_of_started (by simp [d])]
        exact h
    | false => exact h
  | reconnected ok => exact h
  | closed => exact h.shutDown
  | released => exact h.release
  | arrived x =>
    simp only [Session.step, arrive]
    split
    · exact ⟨h.closed, h.letGo⟩
    · exact h
  | taken endFirst =>
    simp only [Session.step, take]
    split
    · next x queue ready _ =>
      have left : Orderly { s with queue := queue } := ⟨h.closed, h.letGo⟩
      exact left.handle ready endFirst x
    · exact h
  | handled ok =>
    simp only [Session.step, handled]
    split
    · exact resume s
    · exact h
  | hungUp ok =>
    simp only [Session.step, hungUp]
    split
    · exact working _ rfl
    · exact h
  | redialed ok =>
    simp only [Session.step, redialed]
    repeat' split
    · exact resume s
    · exact (resume s).cancelWith _
    · exact resume s
    · exact working _ rfl
    · exact h
  | woken =>
    simp only [Session.step, wake]
    split
    · exact working _ rfl
    · exact h
  | noticed =>
    simp only [Session.step, notice]
    split
    · exact resume s
    · exact h
  | ticked =>
    have counted : Orderly { s with idle := s.idle + 1 } := ⟨h.closed, h.letGo⟩
    simp only [Session.step, tick]
    repeat' split
    · exact counted.cancelWith _
    · exact counted
    · exact h
  | cancelled next => exact h.cancelWith next

theorem run (h : Orderly s) (c : Config) (es : List Event) : Orderly (run c s es).1 := by
  induction es generalizing s with
  | nil => exact h
  | cons e es ih => exact ih (h.step c e)

end Orderly

/-! ### A session that goes on -/

/-- Neither closed nor let go. -/
structure Open (s : Session) : Prop where
  shutdown : s.shutdown = false
  released : s.released = false
  dispatcher : s.dispatcher ≠ .ended

namespace Open

variable {s : Session} (h : Open s)

include h

theorem resume : resume s = { s with dispatcher := .ready } := by
  simp [Session.resume, h.shutdown, h.released]

theorem not_isOver (running : s.cancel = .running) : s.isOver = false := by
  simp [isOver, running, h.shutdown, CancelState.isTerminal]

theorem notice (running : s.cancel = .running) : notice s = s := by
  simp [Session.notice, h.not_isOver running]

theorem afterCancel (next : CancelState) : Open (Session.cancelWith s next).2 := by
  unfold Session.cancelWith
  dsimp only
  split <;> exact ⟨h.shutdown, h.released, h.dispatcher⟩

theorem afterResume : Open (Session.resume s) := by
  rw [h.resume]
  exact ⟨h.shutdown, h.released, by simp⟩

theorem afterHandle (endFirst : Bool) (e : Inbound) : Open (handle s endFirst e).1 := by
  unfold handle
  repeat' split
  all_goals exact ⟨h.shutdown, h.released, by simp [h.dispatcher]⟩

/-- Only closing and letting go keep a session from going on. -/
theorem afterStep (c : Config) (e : Event) (notClosed : e ≠ .closed) (held : e ≠ .released) :
    Open (step c s e).1 := by
  cases e with
  | opened ok =>
    simp only [step, opened]
    repeat' split
    · next shut => exact absurd (h.shutdown.symm.trans shut) (by decide)
    · exact ⟨h.shutdown, h.released, by simp⟩
    · exact ⟨h.shutdown, h.released, by simp⟩
    all_goals exact h
  | reconnected ok => exact h
  | closed => exact absurd rfl notClosed
  | released => exact absurd rfl held
  | arrived e =>
    simp only [step, arrive]
    split
    · exact ⟨h.shutdown, h.released, h.dispatcher⟩
    · exact h
  | taken endFirst =>
    simp only [step, take]
    split
    · next e queue ready _ =>
      have left : Open { s with queue := queue } := ⟨h.shutdown, h.released, h.dispatcher⟩
      exact left.afterHandle endFirst e
    · exact h
  | handled ok =>
    simp only [step, handled]
    split
    · exact h.afterResume
    · exact h
  | hungUp ok =>
    simp only [step, hungUp]
    split
    · exact ⟨h.shutdown, h.released, by simp⟩
    · exact h
  | redialed ok =>
    simp only [step, redialed]
    repeat' split
    · exact h.afterResume
    · exact h.afterResume.afterCancel _
    · exact h.afterResume
    · exact ⟨h.shutdown, h.released, by simp⟩
    · exact h
  | woken =>
    simp only [step, wake]
    split
    · exact ⟨h.shutdown, h.released, by simp⟩
    · exact h
  | noticed =>
    simp only [step, Session.notice]
    split
    · exact h.afterResume
    · exact h
  | ticked =>
    have counted : Open { s with idle := s.idle + 1 } := ⟨h.shutdown, h.released, h.dispatcher⟩
    simp only [step, tick]
    repeat' split
    · exact counted.afterCancel _
    · exact counted
    · exact h
  | cancelled next => exact h.afterCancel next

end Open

end Tether.Session
