import Tether.Proofs.Recovery

/-! The dispatcher as a filter. Of the events that it takes, in order of arrival, the plugin gets
the messages; nothing that an event brings and nothing that the plugin answers keeps it from the
next one. -/

namespace Tether.Session

/-! ### Serving a queue -/

/-- A session that goes on and is free for the next event of its queue. -/
structure AtRest (s : Session) (queue : List Inbound) : Prop where
  goesOn : Open s
  running : s.cancel = .running
  ready : s.dispatcher = .ready
  queue : s.queue = queue

theorem AtRest.skip {c : Config} {s : Session} {bytes : List UInt8} {queue : List Inbound}
    (h : AtRest s (.frame bytes :: queue)) (unrouted : routed? bytes = none) (endFirst : Bool) :
    (step c s (.taken endFirst)).2 = [] ∧ AtRest (step c s (.taken endFirst)).1 queue := by
  rw [step_taken c h.ready h.queue]
  have goesOn : Open { s with queue := queue } :=
    ⟨h.goesOn.shutdown, h.goesOn.released, h.goesOn.dispatcher⟩
  cases read : valid? bytes with
  | none =>
    rw [handle_unread _ _ read]
    exact ⟨rfl, goesOn, h.running, h.ready, rfl⟩
  | some m =>
    have other : m.kind.isRouted = false := by
      simpa [routed?, read, Option.filter] using unrouted
    rw [handle_unrouted _ _ read other]
    exact ⟨rfl, ⟨goesOn.shutdown, goesOn.released, goesOn.dispatcher⟩, h.running, h.ready, rfl⟩

/-- The plugin gets a message, and whatever it answers the dispatcher goes on. -/
theorem AtRest.deliver {c : Config} {s : Session} {bytes : List UInt8} {queue : List Inbound}
    {m : Wire.Message} (h : AtRest s (.frame bytes :: queue)) (routed : routed? bytes = some m)
    (endFirst ok : Bool) :
    (run c s [.taken endFirst, .handled ok]).2 = [.deliver m] ∧
      AtRest (run c s [.taken endFirst, .handled ok]).1 queue := by
  obtain ⟨read, routed⟩ := valid?_of_routed? routed
  have working : Open { s with queue := queue, idle := 0, dispatcher := .handling } :=
    ⟨h.goesOn.shutdown, h.goesOn.released, by simp⟩
  have back : handled { s with queue := queue, idle := 0, dispatcher := .handling } =
      { s with queue := queue, idle := 0, dispatcher := .ready } := working.resume
  rw [run_cons, step_taken c h.ready h.queue, handle_routed _ _ read routed, run_cons, step, back]
  exact ⟨rfl, ⟨h.goesOn.shutdown, h.goesOn.released, by simp [run]⟩, h.running, rfl, rfl⟩

theorem step_cancel_of_dispatch (c : Config) (s : Session) :
    (∀ x, (step c s (.arrived x)).1.cancel = s.cancel) ∧
      (∀ endFirst, (step c s (.taken endFirst)).1.cancel = s.cancel) ∧
      ∀ ok, (step c s (.handled ok)).1.cancel = s.cancel := by
  refine ⟨fun x => ?_, fun endFirst => ?_, fun ok => ?_⟩
  · simp only [step, arrive]
    split <;> rfl
  · simp only [step, take]
    split
    · exact (handle_kept _ _ _).2
    · rfl
  · simp only [step, handled]
    split
    · exact resume_cancel s
    · rfl

end Tether.Session
