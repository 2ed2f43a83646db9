import Tether.Proofs.History
import Tether.Proofs.Retry
import Tether.Session.Recovery

/-! Re-establishing a lost transport. The invariant is that nothing which happens on the way can
end the session, so the recovery goes the way that the retry loop goes on the same answers. -/

namespace Tether.Session

/-! ### What happens meanwhile -/

/-- A session that goes on, and that `es` does not end. -/
structure Undisturbed (c : Config) (s : Session) (es : List Event) : Prop where
  goesOn : Open s
  running : s.cancel = .running
  busy : s.dispatcher = .ready ∨ s.dispatcher.isRecovering
  patient : .ticked ∈ es → s.idle + es.count .ticked ≤ c.idleLimit

namespace Undisturbed

variable {c : Config} {s : Session} {e : Event} {es : List Event}

theorem tail (h : Undisturbed c s (e :: es)) {s' : Session} (goesOn : Open s')
    (cancel : s'.cancel = s.cancel) (busy : s'.dispatcher = .ready ∨ s'.dispatcher.isRecovering)
    (idle : s'.idle + es.count .ticked ≤ s.idle + (e :: es).count .ticked) :
    Undisturbed c s' es where
  goesOn := goesOn
  running := cancel.trans h.running
  busy := busy
  patient ticked := Nat.le_trans idle (h.patient (List.mem_cons_of_mem e ticked))

theorem move (h : Undisturbed c s (e :: es)) (timeless : e ≠ .ticked) {d : Dispatcher}
    (busy : d = .ready ∨ d.isRecovering) : Undisturbed c { s with dispatcher := d } es := by
  refine h.tail ⟨h.goesOn.shutdown, h.goesOn.released, ?_⟩ rfl busy ?_
  · rintro rfl
    simp [Dispatcher.isRecovering] at busy
  · exact Nat.le_of_eq (by rw [List.count_cons_of_ne timeless])

theorem not_waiting (h : Undisturbed c s es) :
    s.dispatcher ≠ .waiting ∧ s.dispatcher ≠ .handling := by
  rcases h.busy with ready | recovering
  · simp [ready]
  · constructor <;> intro other <;> simp [other, Dispatcher.isRecovering] at recovering

theorem tick (h : Undisturbed c s (.ticked :: es)) :
    tick c s = s ∨ tick c s = { s with idle := s.idle + 1 } := by
  have patient := h.patient List.mem_cons_self
  rw [List.count_cons_self] at patient
  unfold Session.tick
  split
  · right
    exact if_neg (by dsimp only; omega)
  · exact .inl rfl

/-- What does not concern the dispatcher passes it by. -/
theorem outside (h : Undisturbed c s (e :: es)) (outside : e.isOutside) :
    (step c s e).2 = [] ∧ (step c s e).1.dispatcher = s.dispatcher ∧
      Undisturbed c (step c s e).1 es := by
  obtain ⟨started, idle⟩ := h.not_waiting
  have count := List.count_le_count_cons (a := Event.ticked) (b := e) (l := es)
  have same : ∀ s', s' = s → s'.dispatcher = s.dispatcher ∧ Undisturbed c s' es := by
    rintro s' rfl
    exact ⟨rfl, h.tail h.goesOn rfl h.busy (by omega)⟩
  cases e with
  | opened ok =>
    refine ⟨rfl, same _ ?_⟩
    cases ok with
    | true => exact opened_of_started started
    | false => rfl
  | reconnected ok => exact ⟨rfl, same _ rfl⟩
  | arrived x =>
    have goesOn := h.goesOn.afterStep c (.arrived x) (by simp) (by simp)
    refine ⟨rfl, ?_⟩
    simp only [step, arrive] at goesOn ⊢
    split
    · next room =>
      rw [if_pos room] at goesOn
      exact ⟨rfl, h.tail goesOn rfl h.busy (Nat.add_le_add_left count _)⟩
    · exact same _ rfl
  | handled ok => exact ⟨rfl, same _ (handled_of_idle idle)⟩
  | noticed => exact ⟨rfl, same _ (h.goesOn.notice h.running)⟩
  | ticked =>
    refine ⟨rfl, ?_⟩
    rcases h.tick with stopped | counted
    · exact same _ stopped
    · simp only [step, counted]
      refine ⟨trivial, h.tail ⟨h.goesOn.shutdown, h.goesOn.released, h.goesOn.dispatcher⟩ rfl
        h.busy ?_⟩
      rw [List.count_cons_self]
      dsimp only
      omega
  | cancelled next =>
    have harmless : next = .running := by
      cases next <;> simp_all [Event.isOutside, CancelState.isTerminal]
    refine ⟨rfl, same _ (cancelWith_of_running ?_)⟩
    rw [harmless, h.running]
    decide
  | _ => cases outside

theorem run_outside {more : List Event} (h : Undisturbed c s (es ++ more))
    (outside : ∀ e ∈ es, e.isOutside) :
    (run c s es).2 = [] ∧ (run c s es).1.dispatcher = s.dispatcher ∧
      Undisturbed c (run c s es).1 more := by
  induction es generalizing s with
  | nil => exact ⟨rfl, rfl, h⟩
  | cons e es ih =>
    rw [List.forall_mem_cons] at outside
    obtain ⟨silent, still, stepped⟩ := h.outside outside.1
    obtain ⟨quiet, stays, rest⟩ := ih stepped outside.2
    exact ⟨by rw [run_cons, silent, quiet]; rfl, stays.trans still, rest⟩

/-- Up to the next event that the recovery waits for, nothing happens to it. -/
theorem await (h : Undisturbed c s es) (known : ∀ e ∈ es, e.isAwaited ∨ e.isOutside)
    {rest : List Event} (awaited : es.filter Event.isAwaited = e :: rest) :
    ∃ t after, Undisturbed c t (e :: after) ∧ t.dispatcher = s.dispatcher ∧
      after.filter Event.isAwaited = rest ∧ (∀ e ∈ after, e.isAwaited ∨ e.isOutside) ∧
      run c s es = run c t (e :: after) := by
  -- Everything before the first awaited event is outside.
  obtain ⟨before, after, rfl, passed, -, later⟩ := List.filter_eq_cons_iff.mp awaited
  have outside : ∀ e ∈ before, e.isOutside := fun e mem =>
    (known e (List.mem_append_left _ mem)).resolve_left (by simpa using passed e mem)
  obtain ⟨silent, still, undisturbed⟩ := h.run_outside outside
  refine ⟨_, after, undisturbed, still, later,
    fun e mem => known e (List.mem_append_right _ (List.mem_cons_of_mem _ mem)), ?_⟩
  rw [run_append, silent, List.nil_append]

/-- A reconnect gets as far as the answer to its dial. -/
theorem reconnect (h : Undisturbed c s es) (known : ∀ e ∈ es, e.isAwaited ∨ e.isOutside)
    {p : Retry.Progress} (begun : s.dispatcher = .hangingUp p) {closed dialed : Bool}
    {rest : List Event}
    (awaited : es.filter Event.isAwaited = .hungUp closed :: .redialed dialed :: rest) :
    ∃ t after, Undisturbed c t (.redialed dialed :: after) ∧ t.dispatcher = .redialing p ∧
      after.filter Event.isAwaited = rest ∧ (∀ e ∈ after, e.isAwaited ∨ e.isOutside) ∧
      run c s es = ((run c t (.redialed dialed :: after)).1,
        .dial :: (run c t (.redialed dialed :: after)).2) := by
  obtain ⟨t, after, undisturbed, still, later, known, same⟩ := h.await known awaited
  rw [begun] at still
  have opens := undisturbed.move (d := .redialing p) (by simp) (.inr rfl)
  obtain ⟨t', after', undisturbed', still', later', known', same'⟩ := opens.await known later
  refine ⟨t', after', undisturbed', still', later', known', ?_⟩
  rw [same, run, step, hungUp, still]
  dsimp only
  rw [same']
  rfl

end Undisturbed

/-- A dispatcher that waits for the next event stays there, whether or not the session is over. -/
theorem step_outside_of_ready {c : Config} {s : Session} (ready : s.dispatcher = .ready) {e : Event}
    (outside : e.isOutside) : (step c s e).2 = [] ∧ (step c s e).1.dispatcher = .ready := by
  cases e with
  | opened ok =>
    refine ⟨rfl, ?_⟩
    cases ok <;> simp [step, opened, ready]
  | reconnected ok => exact ⟨rfl, ready⟩
  | arrived x =>
    refine ⟨rfl, ?_⟩
    simp only [step, arrive]
    split <;> exact ready
  | handled ok => exact ⟨rfl, by simp [step, handled, ready]⟩
  | noticed =>
    refine ⟨rfl, ?_⟩
    rw [← ready]
    simp [step, notice, ready, Dispatcher.isRecovering]
  | ticked => exact ⟨rfl, (tick_dispatcher c s).trans ready⟩
  | cancelled next => exact ⟨rfl, (cancelWith_dispatcher s next).trans ready⟩
  | _ => cases outside

theorem run_outside_of_ready {c : Config} {s : Session} (ready : s.dispatcher = .ready)
    {es : List Event} (outside : ∀ e ∈ es, e.isOutside) :
    (run c s es).2 = [] ∧ (run c s es).1.dispatcher = .ready := by
  induction es generalizing s with
  | nil => exact ⟨rfl, ready⟩
  | cons e es ih =>
    rw [List.forall_mem_cons] at outside
    obtain ⟨silent, still⟩ := step_outside_of_ready (c := c) ready outside.1
    obtain ⟨quiet, stays⟩ := ih still outside.2
    exact ⟨by rw [run_cons, silent, quiet]; rfl, stays⟩

/-! ### The recovery -/

/-- Where a recovery leaves a session. -/
structure Settled (r : Except Unit Unit) (s : Session) : Prop where
  ready : s.dispatcher = .ready
  cancel : s.cancel = if r.isOk then .running else .canceled

/-- The recovery ends with the answer to a dial. -/
theorem Undisturbed.settle {c : Config} {s : Session} {ok : Bool} {es : List Event}
    (h : Undisturbed c s (.redialed ok :: es)) {p : Retry.Progress}
    (dialing : s.dispatcher = .redialing p)
    (last : ok = false → Retry.afterFailure c.retry p = .giveUp)
    (outside : ∀ e ∈ es, e.isOutside) :
    (run c s (.redialed ok :: es)).2 = [] ∧
      Settled (if ok then .ok () else .error ()) (run c s (.redialed ok :: es)).1 := by
  rw [run_cons]
  cases ok with
  | true =>
    have stepped : step c s (.redialed true) = ({ s with dispatcher := .ready }, []) := by
      simp [step, redialed, dialing, h.goesOn.resume]
    have back := h.move (d := .ready) (by simp) (.inl rfl)
    rw [← List.append_nil es] at back
    obtain ⟨silent, still, undisturbed⟩ := back.run_outside outside
    rw [stepped]
    exact ⟨silent, still, undisturbed.running⟩
  | false =>
    have stepped : step c s (.redialed false) = ((cancelWith (resume s) .canceled).2, []) := by
      simp [step, redialed, dialing, last rfl]
    have canceled : (cancelWith (resume s) .canceled).2.cancel = .canceled := by
      rw [cancelWith_cancel, resume_cancel, h.running]
      rfl
    have ready : (cancelWith (resume s) .canceled).2.dispatcher = .ready := by
      rw [cancelWith_dispatcher, h.goesOn.resume]
    obtain ⟨silent, still⟩ := run_outside_of_ready (c := c) ready outside
    have terminal : (cancelWith (resume s) .canceled).2.cancel.isTerminal := by
      rw [canceled]
      rfl
    rw [stepped]
    exact ⟨silent, still, (run_cancel_of_terminal c terminal es).trans canceled⟩

theorem outside_of_known {es : List Event} (known : ∀ e ∈ es, e.isAwaited ∨ e.isOutside)
    (none : es.filter Event.isAwaited = []) : ∀ e ∈ es, e.isOutside := fun e mem =>
  (known e mem).resolve_left (List.filter_eq_nil_iff.mp none e mem)

theorem Undisturbed.last {c : Config} {s : Session} {es : List Event} (h : Undisturbed c s es)
    (known : ∀ e ∈ es, e.isAwaited ∨ e.isOutside) {p : Retry.Progress}
    (begun : s.dispatcher = .hangingUp p) {closed dialed : Bool}
    (awaited : es.filter Event.isAwaited = [.hungUp closed, .redialed dialed])
    (last : dialed = false → Retry.afterFailure c.retry p = .giveUp) :
    (run c s es).2 = [.dial] ∧ Settled (if dialed then .ok () else .error ()) (run c s es).1 := by
  obtain ⟨t, after, undisturbed, dialing, later, known, same⟩ := h.reconnect known begun awaited
  obtain ⟨silent, settled⟩ := undisturbed.settle dialing last (outside_of_known known later)
  rw [same, silent]
  exact ⟨rfl, settled⟩

/-- A failed reconnect is followed by a pause and the next one. -/
theorem Undisturbed.retry {c : Config} {s : Session} {es : List Event} (h : Undisturbed c s es)
    (known : ∀ e ∈ es, e.isAwaited ∨ e.isOutside) {p p' : Retry.Progress} {length : Duration}
    (begun : s.dispatcher = .hangingUp p) (next : Retry.afterFailure c.retry p = .pause length p')
    {closed : Bool} {rest : List Event}
    (awaited : es.filter Event.isAwaited = .hungUp closed :: .redialed false :: .woken :: rest) :
    ∃ t after, Undisturbed c t after ∧ t.dispatcher = .hangingUp p' ∧
      after.filter Event.isAwaited = rest ∧ (∀ e ∈ after, e.isAwaited ∨ e.isOutside) ∧
      run c s es = ((run c t after).1, .dial :: .pause length :: .hangUp :: (run c t after).2) := by
  obtain ⟨t, after, undisturbed, dialing, later, known, same⟩ := h.reconnect known begun awaited
  have failed : step c t (.redialed false) =
      ({ t with dispatcher := .pausing p' }, [.pause length]) := by
    simp [step, redialed, dialing, next, undisturbed.goesOn.not_isOver undisturbed.running]
  have pauses := undisturbed.move (d := .pausing p') (by simp) (.inr rfl)
  obtain ⟨t', after', undisturbed', pausing, later', known', same'⟩ := pauses.await known later
  have wakes : step c t' .woken = ({ t' with dispatcher := .hangingUp p' }, [.hangUp]) := by
    simp [step, wake, pausing]
  refine ⟨_, after', undisturbed'.move (d := .hangingUp p') (by simp) (.inr rfl), rfl, later',
    known', ?_⟩
  rw [same, run_cons, failed, same', run_cons, wakes]
  rfl

end Tether.Session
