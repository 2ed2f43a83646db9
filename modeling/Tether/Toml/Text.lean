import Tether.Toml.Scalar

/-! The four kinds of TOML strings, comments and line ends. -/

namespace Tether.Toml.Text

/-- Blanks within a line. -/
def isBlank (c : Char) : Bool := c = ' ' || c = '\t'

/-- Characters that may stand anywhere in a line: no control character but the tab. -/
def isPlain (c : Char) : Bool := c = '\t' || (' ' ≤ c && c ≠ '\x7f')

def skipBlanks (cs : List Char) : List Char := cs.dropWhile isBlank

/-- A line end, if one is next. -/
def newline? : List Char → Option (List Char)
  | '\n' :: r => some r
  | '\r' :: '\n' :: r => some r
  | _ => none

/-- Passes over a comment, up to its line end. -/
def skipComment : List Char → List Char
  | '#' :: r => r.dropWhile isPlain
  | cs => cs

/-- The end of a line: blanks, perhaps a comment, and a line end or the end of the text. -/
def lineEnd (cs : List Char) : Option (List Char) :=
  match skipComment (skipBlanks cs) with
  | [] => some []
  | r => newline? r

/-- Blanks, line ends and comments, as between the items of an array. The number of steps is
bounded by the number of characters. -/
def skipLines : Nat → List Char → List Char
  | 0, cs => cs
  | fuel + 1, cs =>
    match skipBlanks cs with
    | '#' :: r =>
      match newline? (r.dropWhile isPlain) with
      | some r => skipLines fuel r
      | none => '#' :: r
    | r =>
      match newline? r with
      | some r => skipLines fuel r
      | none => r

/-- The character with a code given in hexadecimal, if there is one. -/
def ofHex? (ds : List Char) : Option Char :=
  if ds.all Scalar.isHexDigit then
    let n := Scalar.ofDigits 16 ds
    if n.isValidChar then some (Char.ofNat n) else none
  else none

/-- A character given by an escape, after its backslash. -/
def escape : Scan Char
  | 'b' :: r => some ('\x08', r)
  | 't' :: r => some ('\t', r)
  | 'n' :: r => some ('\n', r)
  | 'f' :: r => some ('\x0c', r)
  | 'r' :: r => some ('\r', r)
  | '"' :: r => some ('"', r)
  | '\\' :: r => some ('\\', r)
  | 'u' :: a :: b :: c :: d :: r => (ofHex? [a, b, c, d]).map (·, r)
  | 'U' :: a :: b :: c :: d :: e :: f :: g :: h :: r =>
    (ofHex? [a, b, c, d, e, f, g, h]).map (·, r)
  | _ => none

/-- The rest of a string between single quotes. -/
def literal : Scan (List Char)
  | [] => none
  | '\'' :: r => some ([], r)
  | c :: r => if isPlain c then (literal r).map fun (s, rest) => (c :: s, rest) else none

/-- The rest of a string between double quotes. The number of steps is bounded by the number
of characters. -/
def basic : Nat → Scan (List Char)
  | 0, _ => none
  | _ + 1, [] => none
  | _ + 1, '"' :: r => some ([], r)
  | fuel + 1, '\\' :: r => do
    let (c, r) ← escape r
    let (s, rest) ← basic fuel r
    return (c :: s, rest)
  | fuel + 1, c :: r =>
    if isPlain c then (basic fuel r).map fun (s, rest) => (c :: s, rest) else none

/-- The end of a string between three quotes `q`, which may hold up to two of them itself. -/
def closing? (q : Char) : List Char → Option (List Char × List Char)
  | a :: b :: c :: r =>
    if a = q ∧ b = q ∧ c = q then
      match r with
      | d :: e :: r' =>
        if d = q then (if e = q then some ([q, q], r') else some ([q], e :: r'))
        else some ([], r)
      | [d] => if d = q then some ([q], []) else some ([], r)
      | [] => some ([], r)
    else none
  | _ => none

/-- The rest of a string between three single quotes. -/
def literalLines : Nat → Scan (List Char)
  | 0, _ => none
  | fuel + 1, cs =>
    match closing? '\'' cs with
    | some found => some found
    | none =>
      match newline? cs with
      | some r => (literalLines fuel r).map fun (s, rest) => ('\n' :: s, rest)
      | none =>
        match cs with
        | [] => none
        | c :: r =>
          if isPlain c then (literalLines fuel r).map fun (s, rest) => (c :: s, rest) else none

/-- Whether blanks and then a line end come next: a backslash before them joins lines. -/
def joined? (cs : List Char) : Option (List Char) := newline? (skipBlanks cs)

/-- Passes over blanks and line ends. -/
def skipSpace : List Char → List Char
  | '\r' :: '\n' :: r => skipSpace r
  | c :: r => if isBlank c ∨ c = '\n' then skipSpace r else c :: r
  | [] => []

/-- The rest of a string between three double quotes. -/
def basicLines : Nat → Scan (List Char)
  | 0, _ => none
  | fuel + 1, cs =>
    match closing? '"' cs with
    | some found => some found
    | none =>
      match newline? cs with
      | some r => (basicLines fuel r).map fun (s, rest) => ('\n' :: s, rest)
      | none =>
        match cs with
        | [] => none
        | '\\' :: r =>
          match joined? r with
          | some r => basicLines fuel (skipSpace r)
          | none => do
            let (c, r) ← escape r
            let (s, rest) ← basicLines fuel r
            return (c :: s, rest)
        | c :: r =>
          if isPlain c then (basicLines fuel r).map fun (s, rest) => (c :: s, rest) else none

/-- Passes over a line end right after the opening quotes. -/
def firstNewline (cs : List Char) : List Char := (newline? cs).getD cs

/-- A string of any kind, from its opening quote on. -/
def string (cs : List Char) : Option (String × List Char) :=
  let found := match cs with
    | '"' :: '"' :: '"' :: r => basicLines (r.length + 1) (firstNewline r)
    | '"' :: r => basic (r.length + 1) r
    | '\'' :: '\'' :: '\'' :: r => literalLines (r.length + 1) (firstNewline r)
    | '\'' :: r => literal r
    | _ => none
  found.map fun (s, rest) => (String.ofList s, rest)

/-- Characters of a key that needs no quotes. -/
def isBare (c : Char) : Bool :=
  c.isAlphanum || c = '-' || c = '_'

/-- One part of a key. -/
def keyPart (cs : List Char) : Option (String × List Char) :=
  match cs with
  | '"' :: r => (basic (r.length + 1) r).map fun (s, rest) => (String.ofList s, rest)
  | '\'' :: r => (literal r).map fun (s, rest) => (String.ofList s, rest)
  | cs =>
    let bare := cs.takeWhile isBare
    if bare = [] then none else some (String.ofList bare, cs.dropWhile isBare)

/-- The parts of a key, divided by points; blanks around each are passed over. -/
def keyParts : Nat → Scan (List String)
  | 0, _ => none
  | fuel + 1, cs => do
    let (part, r) ← keyPart (skipBlanks cs)
    match skipBlanks r with
    | '.' :: r =>
      let (parts, rest) ← keyParts fuel r
      return (part :: parts, rest)
    | r => return ([part], r)

/-- Parts of a key and open brackets of a value: fewer than this many. -/
def depthLimit : Nat := 80

/-- A key with all its parts. -/
def key (cs : List Char) : Option (List String × List Char) := do
  let (parts, rest) ← keyParts (cs.length + 1) cs
  if parts.length < depthLimit then return (parts, rest) else none

end Tether.Toml.Text
