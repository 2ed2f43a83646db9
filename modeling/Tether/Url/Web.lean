import Tether.Text.Form

/-! Addresses of the web, read as forgivingly as browsers do: blanks around them go, backslashes
count as slashes, dot segments are resolved, and what may not stand in an address becomes
percent codes. -/

namespace Tether.Url

structure Web where
  secured : Bool
  /-- Host and port. -/
  authority : String
  path : String
  query : Option String
  deriving DecidableEq, Repr

namespace Web

/-- Control characters and blanks at the ends, and tabs and line ends anywhere, do not count. -/
def clean (cs : List Char) : List Char :=
  let isEdge (c : Char) : Bool := c.val ≤ 0x20
  let inner := ((cs.dropWhile isEdge).reverse.dropWhile isEdge).reverse
  inner.filter fun c => c ≠ '\t' && c ≠ '\n' && c ≠ '\r'

/-- Percent codes for the characters of a class, for control characters and for everything
beyond ASCII. -/
def escape (unsafeChars : List Char) (cs : List Char) : List Char :=
  cs.flatMap fun c =>
    if c.val ≤ 0x20 || 0x7F ≤ c.val || unsafeChars.contains c then
      (Text.Utf8.encodeChar c).flatMap Text.Form.percent
    else [c]

/-- Characters that a path does not hold. -/
def pathUnsafe : List Char := ['"', '#', '<', '>', '?', '^', '`', '\x7b', '\x7d']

/-- Characters that a query does not hold. -/
def queryUnsafe : List Char := ['"', '#', '<', '>', '\'']

def isSlash (c : Char) : Bool := c = '/' || c = '\\'

/-- The segments between slashes. -/
def segments : List Char → List (List Char)
  | [] => [[]]
  | c :: r =>
    if isSlash c then [] :: segments r
    else
      match segments r with
      | part :: parts => (c :: part) :: parts
      | [] => [[c]]

/-- The number of dots of a dot segment, of which some may be percent codes. -/
def dots? (part : List Char) : Option Nat :=
  match String.toLower (String.ofList part) with
  | "." | "%2e" => some 1
  | ".." | ".%2e" | "%2e." | "%2e%2e" => some 2
  | _ => none

/-- Resolves dot segments; `done` holds the segments so far, the last first. -/
def resolve (done : List (List Char)) : List (List Char) → List (List Char)
  | [] => done.reverse
  | [last] =>
    match dots? last with
    | none => (last :: done).reverse
    | some 1 => ([] :: done).reverse
    | some _ => ([] :: done.drop 1).reverse
  | part :: parts =>
    match dots? part with
    | none => resolve (part :: done) parts
    | some 1 => resolve done parts
    | some _ => resolve (done.drop 1) parts

/-- The path, from what stands between the authority and the query. -/
def pathOf (cs : List Char) : String :=
  let parts := resolve [] (segments (cs.drop 1))
  String.ofList (parts.flatMap fun part => '/' :: escape pathUnsafe part)

/-- Characters that no host holds. -/
def isHostChar (c : Char) : Bool :=
  c.val > 0x20 && c.val < 0x7F && !(['#', '%', '/', '<', '>', '?', '@', '\\', '^', '|'].contains c)

/-- Host and port. The port is a number below 65536. -/
def authority? (cs : List Char) : Option String :=
  let cs := (cs.reverse.takeWhile (· ≠ '@')).reverse
  let host := cs.takeWhile (· ≠ ':')
  let port := (cs.dropWhile (· ≠ ':')).drop 1
  if host = [] || !host.all isHostChar || !port.all Char.isDigit then none
  else
    match (String.ofList port).toNat? with
    | some n =>
      if n > 65535 then none
      else some (String.toLower (String.ofList host) ++ (if n = 80 then "" else ":" ++ toString n))
    | none => some (String.toLower (String.ofList host))

/-- The scheme, and what stands behind its colon and slashes. -/
def scheme? (cs : List Char) : Option (Bool × List Char) :=
  let name := String.toLower (String.ofList (cs.takeWhile (· ≠ ':')))
  let rest := ((cs.dropWhile (· ≠ ':')).drop 1).dropWhile isSlash
  if !cs.contains ':' then none
  else if name = "http" then some (false, rest)
  else if name = "https" then some (true, rest)
  else none

def ofText? (text : String) : Option Web :=
  (scheme? (clean text.toList)).bind fun (secured, rest) =>
    let rest := rest.takeWhile (· ≠ '#')
    let beforeQuery := rest.takeWhile (· ≠ '?')
    let query := if rest.contains '?' then some ((rest.dropWhile (· ≠ '?')).drop 1) else none
    let isHost (c : Char) : Bool := !isSlash c
    (authority? (beforeQuery.takeWhile isHost)).map fun authority => {
      secured := secured
      authority := authority
      path := pathOf (beforeQuery.dropWhile isHost)
      query := query.map fun q => String.ofList (escape queryUnsafe q) }

/-- Appends parameters to the query. -/
def addQuery (w : Web) (ps : List (String × String)) : Web :=
  let old := w.query.getD ""
  { w with query := some (if old = "" then Text.Form.write ps else old ++ "&" ++ Text.Form.write ps) }

/-- Path and query, as a request line holds them. -/
def target (w : Web) : String :=
  w.path ++ match w.query with
    | none => ""
    | some q => "?" ++ q

end Web

end Tether.Url
