import Tether.Proofs.Session
import Tether.Session.History

/-! The way of an inbound event. It is taken in, waits its turn in the queue, and is taken once; a
message reaches the plugin when its frame is taken. Only the end of the dispatcher drops what still
waits. -/

namespace Tether.Session

open Wire

/-! ### What brings a message -/

theorem isValid_frame (bytes : List UInt8) :
    (Inbound.frame bytes).isValid = (valid? bytes).isSome := by
  simp only [Inbound.isValid, valid?]
  cases Message.decode bytes with
  | error e => rfl
  | ok m => by_cases undated : m.created = 0 <;> simp [Message.validate, undated]

theorem valid?_of_routed? {bytes : List UInt8} {m : Message} (routed : routed? bytes = some m) :
    valid? bytes = some m ∧ m.kind.isRouted = true :=
  Option.filter_eq_some_iff.mp routed

/-- The shortest frame that reaches the plugin: a header of zeros with a date. -/
def plainFrame : List UInt8 := List.replicate 40 0 ++ 1 :: List.replicate 19 0

/-! ### One event -/

theorem handle_unread (s : Session) (endFirst : Bool) {bytes : List UInt8}
    (unread : valid? bytes = none) : handle s endFirst (.frame bytes) = (s, []) := by
  simp [handle, unread]

theorem handle_routed (s : Session) (endFirst : Bool) {bytes : List UInt8} {m : Message}
    (read : valid? bytes = some m) (routed : m.kind.isRouted = true) :
    handle s endFirst (.frame bytes) =
      ({ s with idle := 0, dispatcher := .handling }, [.deliver m]) := by
  simp [handle, read, routed]

theorem handle_unrouted (s : Session) (endFirst : Bool) {bytes : List UInt8} {m : Message}
    (read : valid? bytes = some m) (unrouted : m.kind.isRouted = false) :
    handle s endFirst (.frame bytes) = ({ s with idle := 0 }, []) := by
  simp [handle, read, unrouted]

theorem handle_lost {s : Session} (running : s.cancel = .running) (endFirst : Bool)
    (cause : ChannelFault) :
    handle s endFirst (.lost cause) = ({ s with dispatcher := .hangingUp .start }, [.hangUp]) := by
  simp [handle, running, CancelState.isTerminal]

/-- A dispatcher that has ended takes nothing in and nothing out. -/
theorem step_of_ended {c : Config} {s : Session} (ended : s.dispatcher = .ended) (e : Event) :
    accepted? c s e = none ∧ taken? s e = none ∧ (step c s e).1.dispatcher = .ended := by
  refine ⟨?_, ?_, ?_⟩
  · cases e with
    | arrived x => simp [accepted?, hasRoom, ended]
    | _ => rfl
  · cases e with
    | taken endFirst => simp [taken?, ended]
    | _ => rfl
  · cases e with
    | opened ok => cases ok <;> simp [step, opened, ended]
    | arrived x => simp [step, arrive, hasRoom, ended]
    | ticked => exact (tick_dispatcher c s).trans ended
    | cancelled next => exact (cancelWith_dispatcher s next).trans ended
    | _ =>
      simp [step, shutDown, release, take, handled, hungUp, redialed, wake, notice,
        stopWatchdog, Dispatcher.isRecovering, ended]

/-! ### A run -/

end Tether.Session
