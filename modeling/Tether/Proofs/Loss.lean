import Tether.Proofs.Dispatch

/-! A lost transport, from its loss to the end of the recovery: how often the session reconnects,
what becomes of the flag and of the queue, and that an end of the session ends the recovery. -/

namespace Tether.Session

/-! ### The end of a session during a recovery -/

/-- Opens a session, whose transport is lost before a frame is taken. -/
def lossy : List Senders.Event :=
  [.other (.opened true), .other (.arrived (.lost .closed)),
    .other (.arrived (.frame plainFrame))]

/-- The same session in the pause after its first try, at the end of its patience. -/
def waits : List Senders.Event :=
  lossy ++ [.other (.taken false), .other (.hungUp true), .other (.redialed false), .other .ticked]

end Tether.Session
