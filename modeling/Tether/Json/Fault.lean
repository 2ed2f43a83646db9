/-! The three ways in which a JSON text fails. -/

namespace Tether.Json

/-- A text ends too early, or is no JSON, or is JSON of another shape than asked for.
Reading goes from left to right and stops at the first fault. -/
inductive Fault where
  | eof
  | malformed
  | shape
  deriving DecidableEq, Repr

end Tether.Json
