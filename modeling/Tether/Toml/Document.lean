import Tether.Toml.Text
import Tether.Toml.Value

/-! Tables under construction, and how keys and headers may add to them. A table may be given
once: by its header, by dotted keys or in braces. A longer header may imply it beforehand. -/

namespace Tether.Toml

/-- How a table came about. -/
inductive Origin where
  /-- By its own header, or the document itself. -/
  | header
  /-- By a longer header. -/
  | implied
  /-- By dotted keys. -/
  | dotted
  deriving DecidableEq, BEq

/-- What a key stands for while the document is being read. -/
inductive Node where
  | value (v : Value)
  | table (origin : Origin) (entries : List (String × Node))
  /-- Tables under one repeated header; new keys go to the last. -/
  | tables (items : List (List (String × Node)))

namespace Node

abbrev Entries := List (String × Node)

/-- Replaces the entry of a key, or adds one at the end. -/
def put (key : String) (n : Node) : Entries → Entries
  | [] => [(key, n)]
  | (k, m) :: es => if k = key then (k, n) :: es else (k, m) :: put key n es

/-- Applies a change to the last element. -/
def changeLast {α : Type} (f : α → Option α) : List α → Option (List α)
  | [] => none
  | [x] => (f x).map ([·])
  | x :: xs => (changeLast f xs).map (x :: ·)

/-- Sets a key, given as path and last part, in a table that takes new keys if `addable`.
The path makes dotted tables, and may enter only tables made like that or implied by a
header. -/
def assign (addable : Bool) (es : Entries) : List String → String → Value → Option Entries
  | [], key, v =>
    if addable ∧ (es.lookup key).isNone then some (put key (.value v) es) else none
  | part :: path, key, v =>
    match es.lookup part with
    | none => (assign true [] path key v).map fun inner => put part (.table .dotted inner) es
    | some (.value _) => none
    | some (.tables items) =>
      (changeLast (fun es => assign false es path key v) items).map fun items =>
        put part (.tables items) es
    | some (.table .header _) => none
    | some (.table origin inner) =>
      (assign (origin == .dotted) inner path key v).map fun inner =>
        put part (.table origin inner) es

/-- Goes down a header path, implying tables on the way, and changes the table at its end. -/
def within (es : Entries) (f : Entries → Option Entries) : List String → Option Entries
  | [] => f es
  | part :: path =>
    match es.lookup part with
    | none => (within [] f path).map fun inner => put part (.table .implied inner) es
    | some (.value _) => none
    | some (.tables items) =>
      (changeLast (fun es => within es f path) items).map fun items => put part (.tables items) es
    | some (.table origin inner) =>
      (within inner f path).map fun inner => put part (.table origin inner) es

/-- Opens a table by its header. -/
def openTable (key : String) (es : Entries) : Option Entries :=
  match es.lookup key with
  | none => some (put key (.table .header []) es)
  | some (.table .implied inner) => some (put key (.table .header inner) es)
  | some _ => none

/-- Opens another table under a repeated header. -/
def openItem (key : String) (es : Entries) : Option Entries :=
  match es.lookup key with
  | none => some (put key (.tables [[]]) es)
  | some (.tables items) => some (put key (.tables (items ++ [[]])) es)
  | some _ => none

mutual

/-- The finished value of a node. -/
def toValue : Node → Value
  | .value v => v
  | .table _ es => .table (toEntries es)
  | .tables items => .array (toItems items)

def toEntries : List (String × Node) → List (String × Value)
  | [] => []
  | (k, n) :: es => (k, toValue n) :: toEntries es

def toItems : List (List (String × Node)) → List Value
  | [] => []
  | es :: items => .table (toEntries es) :: toItems items

end

end Node

/-- Where the reader of a document stands. -/
structure Document where
  root : Node.Entries
  /-- The header that new keys belong to. -/
  header : List String

namespace Document

def empty : Document := ⟨[], []⟩

/-- Splits a nonempty list before its last element. -/
def splitLast : List String → Option (List String × String)
  | [] => none
  | [x] => some ([], x)
  | x :: xs => (splitLast xs).map fun (init, last) => (x :: init, last)

/-- Changes the table that new keys go to. -/
def changeCurrent (d : Document) (f : Node.Entries → Option Node.Entries) : Option Document := do
  let root ← Node.within d.root f d.header
  return { d with root := root }

/-- Adds a key to the current table. -/
def assign (d : Document) (key : List String) (v : Value) : Option Document := do
  let (path, last) ← splitLast key
  d.changeCurrent fun es => Node.assign true es path last v

/-- Goes on under a new header. -/
def enter (d : Document) (repeated : Bool) (header : List String) : Option Document := do
  let (path, last) ← splitLast header
  let add := if repeated then Node.openItem last else Node.openTable last
  let root ← Node.within d.root add path
  return ⟨root, header⟩

end Document

end Tether.Toml
