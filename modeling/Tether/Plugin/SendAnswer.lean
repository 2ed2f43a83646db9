import Tether.Fault

/-! What comes of handing data to a session channel. -/

namespace Tether

inductive SendAnswer where
  | sent
  | refused (cause : ChannelFault)
  | panicked (text : String)
  deriving DecidableEq, Repr

/-- The answer of a channel that did not panic. -/
def SendAnswer.ofResult : Except ChannelFault Unit → SendAnswer
  | .ok () => .sent
  | .error cause => .refused cause

end Tether
