/-! Providers of a value that may be missing. A chain asks its providers in order and keeps
the first value it gets until it is told to forget it. -/

namespace Tether

/-- Extra header lines, as name and value. -/
abbrev Headers := List (String × String)

inductive Provider (α : Type) where
  /-- Answers its `n`-th request, from 0, with `answer n`; `calls` requests came so far. -/
  | source (name : String) (answer : Nat → Option α) (calls : Nat)
  /-- Always has the same answer. -/
  | constant (value : Option α)
  | chain (cached : Option α) (providers : List (Provider α))

instance {α : Type} : Inhabited (Provider α) := ⟨.constant none⟩

namespace Provider

variable {α : Type}

mutual

/-- Asks a provider; a chain that holds a value asks nobody. -/
def resolve : Provider α → Option α × Provider α
  | source name answer calls => (answer calls, source name answer (calls + 1))
  | constant value => (value, constant value)
  | chain (some v) providers => (some v, chain (some v) providers)
  | chain none providers =>
    let (found, providers) := resolveFirst providers
    (found, chain found providers)

/-- Asks providers in order up to the first that has a value. -/
def resolveFirst : List (Provider α) → Option α × List (Provider α)
  | [] => (none, [])
  | p :: ps =>
    match resolve p with
    | (some v, p') => (some v, p' :: ps)
    | (none, p') =>
      let (found, ps') := resolveFirst ps
      (found, p' :: ps')

end

/-- Makes a chain forget its value; the chains inside it keep theirs. -/
def invalidate : Provider α → Provider α
  | chain _ providers => chain none providers
  | p => p

def name : Provider α → String
  | source name _ _ => name
  | constant _ => "static"
  | chain _ _ => "chain"

/-- Number of providers that a chain asks directly. -/
def size : Provider α → Nat
  | chain _ providers => providers.length
  | _ => 0

mutual

/-- Requests that each source got so far, from left to right. -/
def calls : Provider α → List Nat
  | source _ _ n => [n]
  | constant _ => []
  | chain _ providers => callsAll providers

def callsAll : List (Provider α) → List Nat
  | [] => []
  | p :: ps => calls p ++ callsAll ps

end

/-- Headers fixed in the settings; an empty list is no value. -/
def fixedHeaders (headers : Headers) : Provider Headers :=
  constant (if headers = [] then none else some headers)

/-- Answers from a list, the last of them again and again. -/
def scripted (name : String) (answers : List (Option α)) : Provider α :=
  source name (fun n => (answers[min n (answers.length - 1)]?).join) 0

/-- A chain that has not been asked yet. -/
def ofList (providers : List (Provider α)) : Provider α := chain none providers

end Provider

end Tether
