import Tether.Duration

/-! Repeating an operation until it succeeds or the attempts run out. The pauses are a
function of the attempt number that also says when the longest pause is reached. -/

namespace Tether.Retry

structure Plan where
  /-- The pause before repetition `n`, and whether it is the longest. -/
  delay : Nat → Duration × Bool
  /-- Failures after which to give up; 0 never gives up. -/
  limit : UInt32

/-- How far a loop has come. -/
structure Progress where
  /-- Number of the next pause; it stands still once the longest is reached. -/
  attempt : Nat
  /-- Failures so far. -/
  failed : Nat
  deriving DecidableEq, Repr

def Progress.start : Progress := ⟨0, 0⟩

/-- Counters stop at the largest 32-bit number. -/
def counterMax : Nat := UInt32.size - 1

/-- What follows a failure. -/
inductive Next where
  | giveUp
  | pause (length : Duration) (progress : Progress)
  deriving DecidableEq, Repr

/-- Counts a failure: gives up at the limit, else pauses. -/
def afterFailure (plan : Plan) (p : Progress) : Next :=
  let failed := min (p.failed + 1) counterMax
  if plan.limit ≠ 0 ∧ plan.limit.toNat ≤ failed then .giveUp
  else
    let (length, capped) := plan.delay p.attempt
    .pause length ⟨if capped then p.attempt else min (p.attempt + 1) counterMax, failed⟩

/-- What happened in a loop. -/
structure Trace (ε α : Type) where
  /-- Calls made. -/
  calls : Nat
  /-- Pauses taken, in order. -/
  pauses : List Duration
  /-- The answer; none while results are still awaited. -/
  result : Option (Except ε α)

/-- Runs the loop on the results of its calls. A loop that wants more results than there are
has no answer yet. -/
def callFrom {ε α : Type} (plan : Plan) (p : Progress) : List (Except ε α) → Trace ε α
  | [] => ⟨0, [], none⟩
  | .ok a :: _ => ⟨1, [], some (.ok a)⟩
  | .error e :: rest =>
    match afterFailure plan p with
    | .giveUp => ⟨1, [], some (.error e)⟩
    | .pause length p' =>
      let t := callFrom plan p' rest
      ⟨t.calls + 1, length :: t.pauses, t.result⟩

/-- Runs the loop from its start. -/
def call {ε α : Type} (plan : Plan) (results : List (Except ε α)) : Trace ε α :=
  callFrom plan .start results

/-- When each call is made and when the loop ends, in milliseconds from its start. -/
def timesFrom (now : Nat) : List Duration → List Nat
  | [] => [now]
  | d :: ds => now :: timesFrom (d.endMillis now) ds

end Tether.Retry
