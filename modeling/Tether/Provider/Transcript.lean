import Tether.Provider

/-! What is heard while a provider is asked. Every answer is noted down when it is given, with the
way to the one who gave it, so the answers of a chain's providers come before its own. -/

namespace Tether.Provider

variable {α : Type}

/-- An answer, and the way to its giver: at each chain, the place of the provider to turn to. -/
structure Reply (α : Type) where
  path : List Nat
  value : Option α
  deriving DecidableEq, Repr

/-- A reply as it is heard from the chain in which its way begins at place `k`. -/
def Reply.under (k : Nat) (r : Reply α) : Reply α := ⟨k :: r.path, r.value⟩

mutual

/-- Asks a provider and notes down what is heard. -/
def consult : Provider α → List (Reply α) × Option α × Provider α
  | source name answer calls =>
    ([⟨[], answer calls⟩], answer calls, source name answer (calls + 1))
  | constant value => ([⟨[], value⟩], value, constant value)
  | chain (some v) providers => ([⟨[], some v⟩], some v, chain (some v) providers)
  | chain none providers =>
    let (heard, found, providers) := consultFrom 0 providers
    (heard ++ [⟨[], found⟩], found, chain found providers)

/-- Asks the providers from place `k` on, up to the first that has a value. -/
def consultFrom (k : Nat) : List (Provider α) → List (Reply α) × Option α × List (Provider α)
  | [] => ([], none, [])
  | p :: ps =>
    match consult p with
    | (heard, some v, p') => (heard.map (.under k), some v, p' :: ps)
    | (heard, none, p') =>
      let (later, found, ps') := consultFrom (k + 1) ps
      (heard.map (.under k) ++ later, found, p' :: ps')

end

/-- Everything that is heard when a provider is asked, its own answer last. -/
def transcript (p : Provider α) : List (Reply α) := (consult p).1

def transcriptFrom (k : Nat) (ps : List (Provider α)) : List (Reply α) := (consultFrom k ps).1

/-- Those of a chain's providers that it asks, if it asks them: up to the first with a value. -/
def asked (ps : List (Provider α)) : List (Provider α) :=
  ps.take (ps.findIdx (fun p => (resolve p).1.isSome) + 1)

/-! ### Providers inside providers -/

/-- The providers that a provider can turn to. -/
def providers : Provider α → List (Provider α)
  | chain _ ps => ps
  | _ => []

/-- The provider at the end of a way. -/
def at? (p : Provider α) : List Nat → Option (Provider α)
  | [] => some p
  | k :: path => (p.providers[k]?).bind fun q => q.at? path

def isChain : Provider α → Bool
  | chain _ _ => true
  | _ => false

/-- The value that a chain holds. -/
def held : Provider α → Option α
  | chain cached _ => cached
  | _ => none

/-! ### One call after another -/

/-- What can be asked of the outermost chain. -/
inductive Call where
  | resolve
  | invalidate
  deriving DecidableEq, Repr

def step (p : Provider α) : Call → Provider α
  | .resolve => (resolve p).2
  | .invalidate => p.invalidate

def heard (p : Provider α) : Call → List (Reply α)
  | .resolve => p.transcript
  | .invalidate => []

def after (p : Provider α) (calls : List Call) : Provider α := calls.foldl step p

/-- Everything that is heard during some calls. -/
def record (p : Provider α) : List Call → List (Reply α)
  | [] => []
  | c :: cs => p.heard c ++ (p.step c).record cs

/-- What was heard from the end of a way. -/
def answersOf (path : List Nat) (rs : List (Reply α)) : List (Option α) :=
  (rs.filter (·.path = path)).map (·.value)

end Tether.Provider
