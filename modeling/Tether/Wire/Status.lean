import Tether.Wire.Fault
import Tether.Wire.Word

/-! The payload of a status frame: a code, and for code 7 a send rate in 1 to 4 bytes. -/

namespace Tether.Wire

inductive Status where
  /-- Send this many bits a second; 0 leaves the rate alone. -/
  | setRate (bps : UInt32)
  /-- A code that means nothing here. -/
  | other (code : UInt8)
  deriving DecidableEq, Repr

/-- The code that sets the send rate. -/
def setRateCode : UInt8 := 7

def Status.ofPayload : List UInt8 → Except Fault Status
  | [] => .error (.invalidPayload "empty status payload")
  | code :: rate =>
    if code ≠ setRateCode then .ok (.other code)
    else if rate.length = 0 ∨ rate.length > 4 then
      .error (.invalidPayload
        ("send rate must be 1 to 4 bytes, got " ++ toString rate.length))
    else .ok (.setRate (UInt32.ofNat (Word.ofBigEndian rate)))

end Tether.Wire
