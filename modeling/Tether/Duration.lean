/-! Lengths of time, exact to the nanosecond. -/

namespace Tether

structure Duration where
  nanos : Nat
  deriving DecidableEq, Repr

namespace Duration

def ofSeconds (s : Nat) : Duration := ⟨s * 1000000000⟩

def ofMillis (ms : Nat) : Duration := ⟨ms * 1000000⟩

/-- Whole seconds, the rest cut off. -/
def seconds (d : Duration) : Nat := d.nanos / 1000000000

/-- Whole milliseconds, the rest cut off. -/
def millis (d : Duration) : Nat := d.nanos / 1000000

/-- The first whole millisecond at or after `start` plus the duration. -/
def endMillis (d : Duration) (start : Nat) : Nat := start + (d.nanos + 999999) / 1000000

/-- Time since a moment, both in milliseconds; none since one that lies ahead. -/
def elapsed (now since : Nat) : Duration := ofMillis (now - since)

/-- This many nanoseconds are too long: the seconds of a length are a word of 64 bits. -/
def bound : Nat := UInt64.size * 1000000000

/-- So many nanoseconds, if they are not too long. -/
def ofNanos? (n : Nat) : Option Duration := if n < bound then some ⟨n⟩ else none

@[simp] theorem millis_ofMillis (ms : Nat) : (ofMillis ms).millis = ms := by
  simp [ofMillis, millis]

end Duration

end Tether
