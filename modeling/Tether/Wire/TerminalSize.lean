import Tether.Json.Typed
import Tether.Json.Writer
import Tether.Wire.Fault

/-! The payload of a frame that sets the terminal size. -/

namespace Tether.Wire

structure TerminalSize where
  cols : UInt32
  rows : UInt32
  deriving DecidableEq, Repr

namespace TerminalSize

/-- A side as a terminal takes it: at most 65535. -/
def clamp (n : UInt32) : Nat := min n.toNat 65535

open Json.Reader in
/-- Reads both sides; neither may be missing. -/
def reader : Json.Reader TerminalSize :=
  let side : Json.Reader UInt32 := do return UInt32.ofNat (← natural (UInt32.size - 1))
  record
    [⟨"cols", fun s => do return (some (← side), s.2)⟩,
      ⟨"rows", fun s => do return (s.1, some (← side))⟩]
    ((none, none) : Option UInt32 × Option UInt32)
    fun s => do return ⟨← s.1, ← s.2⟩

def ofPayload (payload : List UInt8) : Except Fault TerminalSize :=
  match Json.Reader.whole reader payload with
  | .ok size => .ok size
  | .error e => .error (.json e)

def toJson (s : TerminalSize) : Json.Value :=
  .object [("cols", .number s.cols.toNat), ("rows", .number s.rows.toNat)]

end TerminalSize

end Tether.Wire
