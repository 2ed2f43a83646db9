/-! TOML documents as trees. -/

namespace Tether.Toml

inductive Value where
  | text (s : String)
  | integer (n : Int)
  | real (x : Float)
  | boolean (b : Bool)
  /-- A date, a time or both, as written. -/
  | moment (written : String)
  | array (items : List Value)
  | table (entries : List (String × Value))

/-- Keys with their values; a key comes once. -/
abbrev Table := List (String × Value)

namespace Value

/-- A whole number from 0 to `max`. -/
def natural? (max : Nat) : Value → Option Nat
  | integer n => if 0 ≤ n ∧ n ≤ max then some n.toNat else none
  | _ => none

/-- A number as a float. -/
def real? : Value → Option Float
  | real x => some x
  | integer n => some (Float.ofInt n)
  | _ => none

def text? : Value → Option String
  | text s => some s
  | _ => none

/-- The first two texts of an array; what follows them is not looked at. -/
def textPair? : Value → Option (String × String)
  | array (a :: b :: _) => do return (← a.text?, ← b.text?)
  | _ => none

/-- An array of pairs of texts. -/
def textPairs? : Value → Option (List (String × String))
  | array items => items.mapM textPair?
  | _ => none

/-- How to find the members of a record: under their names in a table, or at their places in
an array. -/
def members? (names : List String) : Value → Option (String → Option Value)
  | table entries => some fun name => entries.lookup name
  | array items => some fun name => items[names.idxOf name]?
  | _ => none

/-- A member that may be missing: then it is `default`. -/
def orDefault {α : Type} (read : Value → Option α) (default : α) : Option Value → Option α
  | none => some default
  | some v => read v

end Value

end Tether.Toml
