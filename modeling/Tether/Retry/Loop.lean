import Tether.Retry

/-! The retry loop as the world sees it: its calls and pauses in their order. What a call gives, and
the share that chance takes in a pause, come from outside. -/

namespace Tether.Retry

inductive Action where
  | call
  | pause (length : Duration)
  deriving DecidableEq, Repr

def Action.length? : Action → Option Duration
  | .call => none
  | .pause length => some length

/-- What comes from outside in one round. -/
structure Round (ε α : Type) where
  result : Except ε α
  /-- The share that chance takes in the pause, if there is one: 0 or more, and less than 1. -/
  share : Float

/-- How a loop ends. -/
inductive Ending (φ ε α : Type) where
  | returned (result : Except ε α)
  /-- A pause could not be made. -/
  | panicked (fault : φ)

def Ending.result? {φ ε α : Type} : Ending φ ε α → Option (Except ε α)
  | .returned result => some result
  | .panicked _ => none

variable {φ ε α : Type}

/-- Runs the loop through rounds, up to its end or as far as the rounds go. A pause is made from its
share and from the length that the plan gives it. -/
def loopFrom (plan : Plan) (pauseOf : Float → Duration → Except φ Duration) (p : Progress) :
    List (Round ε α) → List Action × Option (Ending φ ε α)
  | [] => ([], none)
  | r :: rest =>
    match r.result with
    | .ok a => ([.call], some (.returned (.ok a)))
    | .error e =>
      match afterFailure plan p with
      | .giveUp => ([.call], some (.returned (.error e)))
      | .pause length p' =>
        match pauseOf r.share length with
        | .error fault => ([.call], some (.panicked fault))
        | .ok length =>
          let (actions, ending) := loopFrom plan pauseOf p' rest
          (.call :: .pause length :: actions, ending)

/-- A loop that pauses just as long as the plan says. -/
def plainly (_ : Float) (length : Duration) : Except Empty Duration := .ok length

/-- The calls, the pauses and the answer of a loop with plain pauses are those of its trace. -/
theorem callFrom_eq (plan : Plan) (p : Progress) (rounds : List (Round ε α)) :
    callFrom plan p (rounds.map Round.result) =
      ⟨(loopFrom plan plainly p rounds).1.count .call,
        (loopFrom plan plainly p rounds).1.filterMap Action.length?,
        (loopFrom plan plainly p rounds).2.bind Ending.result?⟩ := by
  induction rounds generalizing p with
  | nil => rfl
  | cons r rest ih =>
    obtain ⟨result | result, share⟩ := r
    · cases next : afterFailure plan p with
      | giveUp => simp [callFrom, loopFrom, next, Action.length?, Ending.result?]
      | pause length p' =>
        simp [callFrom, loopFrom, next, ih, List.filterMap_cons, Action.length?, plainly]
    · rfl

end Tether.Retry
