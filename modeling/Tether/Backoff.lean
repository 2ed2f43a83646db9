import Tether.Decimal.Shortest
import Tether.Duration
import Tether.Retry

/-! Exponential backoff: how long to pause before which attempt. -/

namespace Tether

namespace Duration

/-- The length in seconds. -/
def toFloat (d : Duration) : Float :=
  Float.ofNat d.seconds + Float.ofNat (d.nanos % 1000000000) / 1000000000.0

/-- So many seconds, to the nearest nanosecond, an even one at a tie. There is no such length if
they are negative, infinite, no number or too many. -/
def ofFloat? (seconds : Float) : Option Duration := do
  if seconds < 0.0 then none
  let x ← Decimal.Dyadic.ofBits seconds.toBits
  let scaled := 1000000000 * x.m * Nat.pow 2 x.q.toNat
  let unit := Nat.pow 2 (-x.q).toNat
  let below := scaled / unit
  let rest := 2 * (scaled % unit)
  ofNanos? (if unit < rest ∨ rest = unit ∧ below % 2 = 1 then below + 1 else below)

end Duration

structure Backoff where
  /-- Pause before the first repetition. -/
  initial : Duration
  /-- Longest pause. -/
  max : Duration
  /-- Growth from one pause to the next. -/
  multiplier : Float
  /-- Largest random addition, as a share of the pause. -/
  jitter : Float
  /-- Failures after which to give up; 0 never gives up. -/
  maxAttempts : UInt32

namespace Backoff

def standard : Backoff where
  initial := .ofMillis 100
  max := .ofMillis 2000
  multiplier := 2.0
  jitter := 0.0
  maxAttempts := 10

/-- Settings that make no sense, in the order in which they are looked for. -/
inductive Flaw where
  | multiplier (x : Float)
  | jitter (x : Float)
  | initialExceedsMax

def Flaw.message : Flaw → String
  | .multiplier x => "backoff multiplier " ++ Decimal.plain x ++ " is below 1.0"
  | .jitter x => "backoff jitter " ++ Decimal.plain x ++ " is outside 0.0..=1.0"
  | .initialExceedsMax => "backoff initial delay exceeds max delay"

def validate (b : Backoff) : Except Flaw Unit :=
  if b.multiplier < 1.0 then .error (.multiplier b.multiplier)
  else if ¬ (0.0 ≤ b.jitter ∧ b.jitter ≤ 1.0) then .error (.jitter b.jitter)
  else if b.max.nanos < b.initial.nanos then .error .initialExceedsMax
  else .ok ()

/-- Powers by squaring: `acc * a ^ n` for positive `n`, where `n` has at most `bits` bits. -/
def powerFrom (a acc : Float) : Nat → Nat → Float
  | 0, _ => acc
  | bits + 1, n =>
    let acc := if n % 2 = 1 then acc * a else acc
    if n / 2 = 0 then acc else powerFrom (a * a) acc bits (n / 2)

/-- `a ^ n`, multiplied in the order of squaring. -/
def power (a : Float) (n : Nat) : Float := powerFrom a 1.0 (n.log2 + 1) n

/-- Largest exponent that a growth factor is raised to. -/
def maxExponent : Nat := UInt32.size / 2 - 1

/-- Pause before repetition `attempt`, counted from 0 and without jitter, and whether the
longest pause has been reached. Both are compared as floats, and what is not a finite number
of nanoseconds counts as reached. -/
def delay (b : Backoff) (attempt : Nat) : Duration × Bool :=
  let nanos := Float.ofNat b.initial.nanos * power b.multiplier (min attempt maxExponent)
  if ¬ nanos.isFinite ∨ nanos ≥ Float.ofNat b.max.nanos then (b.max, true)
  else (⟨nanos.toUInt64.toNat⟩, false)

/-- The retry loop with these pauses. -/
def plan (b : Backoff) : Retry.Plan := ⟨b.delay, b.maxAttempts⟩

/-- Whether a pause gets a random addition. -/
def hasJitter (b : Backoff) : Bool := ¬ (b.jitter ≤ 0.0)

/-- Why a pause cannot be made longer. -/
inductive Overrun where
  /-- The addition is no length of time. -/
  | addition
  /-- The sum is too long. -/
  | sum
  deriving DecidableEq, Repr

def Overrun.message : Overrun → String
  | .addition => "cannot convert float seconds to Duration: value is either too big or NaN"
  | .sum => "overflow when adding durations"

/-- The pause with its random addition, if there is jitter. Chance gives the share of the largest
addition, which is not negative. What cannot be made longer ends in a panic. -/
def lengthen (b : Backoff) (share : Float) (pause : Duration) : Except Overrun Duration :=
  if b.hasJitter then
    match Duration.ofFloat? (b.jitter * share * pause.toFloat) with
    | none => .error .addition
    | some extra =>
      match Duration.ofNanos? (pause.nanos + extra.nanos) with
      | none => .error .sum
      | some whole => .ok whole
  else .ok pause

theorem lengthen_of_steady {b : Backoff} (steady : b.hasJitter = false) (share : Float)
    (pause : Duration) : b.lengthen share pause = .ok pause := by
  rw [lengthen, steady]
  rfl

end Backoff

end Tether
