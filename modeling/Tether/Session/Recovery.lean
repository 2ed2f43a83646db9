import Tether.Session.History

/-! What a recovery does to the transport, and what the world does meanwhile: it answers the
recovery and lets its pauses pass, and between these things happen that have nothing to do with
it. -/

namespace Tether.Session

/-- What the transport answers to one reconnect. -/
structure Attempt where
  hungUp : Bool
  dialed : Bool
  deriving DecidableEq, Repr

/-- What a reconnect gives; whether the transport closed does not matter. -/
def Attempt.result (a : Attempt) : Except Unit Unit := if a.dialed then .ok () else .error ()

/-- The answers to reconnects that follow one another, and the ends of the pauses between them. -/
def script : List Attempt → List Event
  | [] => []
  | [a] => [.hungUp a.hungUp, .redialed a.dialed]
  | a :: as => .hungUp a.hungUp :: .redialed a.dialed :: .woken :: script as

/-- What a recovery may wait for. -/
def Event.isAwaited : Event → Bool
  | .hungUp _ | .redialed _ | .woken => true
  | _ => false

/-- What concerns neither a recovery nor the dispatcher, and does not end the session; a second
may do that if the session has been silent for long. -/
def Event.isOutside : Event → Bool
  | .opened _ | .reconnected _ | .arrived _ | .handled _ | .noticed | .ticked => true
  | .cancelled next => !next.isTerminal
  | _ => false

/-- One reconnect after a pause. -/
def again (length : Duration) : List Effect := [.pause length, .hangUp, .dial]

/-- What happens while the dispatcher serves the events of a queue. The plugin answers as it
likes, and each loss is recovered from. -/
inductive Served (c : Config) : List Inbound → List Event → Prop where
  | nil : Served c [] []
  | skipped {bytes : List UInt8} {queue : List Inbound} {es : List Event} (endFirst : Bool)
      (unrouted : routed? bytes = none) (served : Served c queue es) :
      Served c (.frame bytes :: queue) (.taken endFirst :: es)
  | delivered {bytes : List UInt8} {m : Wire.Message} {queue : List Inbound} {es : List Event}
      (endFirst ok : Bool) (routed : routed? bytes = some m) (served : Served c queue es) :
      Served c (.frame bytes :: queue) (.taken endFirst :: .handled ok :: es)
  | recovered {cause : ChannelFault} {attempts : List Attempt} {queue : List Inbound}
      {es : List Event} (endFirst : Bool)
      (settled : (Retry.call c.retry (attempts.map Attempt.result)).result = some (.ok ()))
      (served : Served c queue es) :
      Served c (.lost cause :: queue) (.taken endFirst :: (script (attempts.take
        (Retry.call c.retry (attempts.map Attempt.result)).calls) ++ es))

end Tether.Session
