import Tether.Toml.Document

/-! Reading TOML documents. -/

namespace Tether.Toml.Reader

open Tether.Toml.Text

mutual

/-- A value. `depth` counts the brackets it may still open; `fuel` bounds the steps. -/
def value : (fuel depth : Nat) → Scan Value
  | 0, _, _ => none
  | _ + 1, _, [] => none
  | fuel + 1, depth, c :: r =>
    if c = '"' ∨ c = '\'' then (string (c :: r)).map fun (s, rest) => (.text s, rest)
    else if c = '[' then
      match depth with
      | 0 => none
      | depth + 1 => (items fuel depth r).map fun (vs, rest) => (.array vs, rest)
    else if c = '\x7b' then
      match depth with
      | 0 => none
      | depth + 1 => do
        let (entries, rest) ← (match skipBlanks r with
          | '\x7d' :: rest => some ([], rest)
          | r => members fuel depth [] r)
        return (.table (Node.toEntries entries), rest)
    else match c, r with
      | 't', 'r' :: 'u' :: 'e' :: rest => some (.boolean true, rest)
      | 'f', 'a' :: 'l' :: 's' :: 'e' :: rest => some (.boolean false, rest)
      | c, r =>
        match Scalar.moment (c :: r) with
        | some (written, rest) => some (.moment written, rest)
        | none =>
          match Scalar.real (c :: r) with
          | some (x, rest) => some (.real x, rest)
          | none => (Scalar.integer (c :: r)).map fun (n, rest) => (.integer n, rest)

/-- The items of an array after its bracket, or after a comma. -/
def items : (fuel depth : Nat) → Scan (List Value)
  | 0, _, _ => none
  | fuel + 1, depth, cs =>
    match skipLines cs.length cs with
    | ']' :: rest => some ([], rest)
    | cs => do
      let (v, r) ← value fuel depth cs
      match skipLines r.length r with
      | ']' :: rest => return ([v], rest)
      | ',' :: r =>
        let (vs, rest) ← items fuel depth r
        return (v :: vs, rest)
      | _ => none

/-- The members in braces, at least one, after the brace or a comma. -/
def members : (fuel depth : Nat) → Node.Entries → Scan Node.Entries
  | 0, _, _, _ => none
  | fuel + 1, depth, es, cs => do
    let (path, r) ← key cs
    let r ← Scalar.mark '=' r
    let (v, r) ← value fuel depth (skipBlanks r)
    let (path, last) ← Document.splitLast path
    let es ← Node.assign true es path last v
    match skipBlanks r with
    | '\x7d' :: rest => return (es, rest)
    | ',' :: r => members fuel depth es r
    | _ => none

end

/-- A key with its value and the end of its line. -/
def pair (cs : List Char) : Option (List String × Value × List Char) := do
  let (path, r) ← key cs
  let r := skipBlanks (← Scalar.mark '=' r)
  let (v, r) ← value (r.length + 1) (depthLimit - 1) r
  return (path, v, ← lineEnd r)

/-- A header: whether it is repeated, and its key. -/
def header (cs : List Char) : Option (Bool × List String × List Char) :=
  match cs with
  | '[' :: '[' :: r => do
    let (path, r) ← key r
    let r ← Scalar.mark ']' (← Scalar.mark ']' r)
    return (true, path, ← lineEnd r)
  | '[' :: r => do
    let (path, r) ← key r
    return (false, path, ← lineEnd (← Scalar.mark ']' r))
  | _ => none

/-- The lines of a document. Each takes at least one character. -/
def lines : Nat → Document → List Char → Option Document
  | 0, _, _ => none
  | fuel + 1, d, cs =>
    match skipBlanks cs with
    | [] => some d
    | '[' :: r => do
      let (repeated, path, rest) ← header ('[' :: r)
      lines fuel (← d.enter repeated path) rest
    | c :: r =>
      if c = '#' ∨ c = '\n' ∨ c = '\r' then do
        lines fuel d (← lineEnd (c :: r))
      else do
        let (path, v, rest) ← pair (c :: r)
        lines fuel (← d.assign path v) rest

end Reader

/-- The table that a text writes. A byte order mark in front is passed over. -/
def read? (s : String) : Option Table :=
  let cs := match s.toList with
    | '\uFEFF' :: r => r
    | cs => cs
  (Reader.lines (cs.length + 1) .empty cs).map fun d => Node.toEntries d.root

end Tether.Toml
