/-! Send rates and the pause they leave between two packets. -/

namespace Tether

/-- Bits per second that a session may send. -/
structure SendRate where
  bps : Nat
  deriving DecidableEq, Repr

namespace SendRate

/-- A kilobit is 1024 bits. The words are multiplied as in a build that does not check for
overflow. -/
def ofKbps (kbps : UInt64) : SendRate := ⟨(kbps * 1024).toNat⟩

/-- Rate in kilobits where none is configured. -/
def defaultKbps : UInt64 := 200

def standard : SendRate := ofKbps defaultKbps

/-- Milliseconds between two packets of `packet` bytes: at least one packet a second, and an
empty packet counts as one byte. -/
def interval (rate : SendRate) (packet : Nat) : Nat :=
  1000 / max 1 (rate.bps / 8 / max 1 packet)

/-- Packets that go out in a second. -/
def packets (rate : SendRate) (packet : Nat) : Nat := max 1 (rate.bps / 8 / max 1 packet)

theorem packets_pos (rate : SendRate) (packet : Nat) : 0 < rate.packets packet :=
  Nat.lt_of_lt_of_le Nat.one_pos (Nat.le_max_left ..)

/-- A quotient of words; there is none by zero. -/
def quotient? (n d : UInt64) : Option UInt64 := if d = 0 then none else some (n / d)

/-- The pause as words of 64 bits come to it, one division after another. -/
def pause? (bps packet : UInt64) : Option UInt64 := do
  let bytes ← quotient? bps 8
  let packets ← quotient? bytes (max 1 packet)
  quotient? 1000 (max 1 packets)

def display (rate : SendRate) : String := toString rate.bps ++ "bps"

end SendRate

end Tether
