import Tether.Decimal.Shortest
import Tether.Toml.Scalar
import Tether.Toml.Value

/-! Writing TOML documents: plain keys first, then a section for each table. An array of two
items or more has each on a line of its own. -/

namespace Tether.Toml.Writer

/-- What decides how a string is quoted. -/
structure Shape where
  /-- A backslash occurs. -/
  backslash : Bool
  newline : Bool
  /-- A control character other than tab and newline occurs. -/
  control : Bool
  /-- Longest run of single quotes. -/
  singles : Nat
  /-- Longest run of double quotes. -/
  doubles : Nat

def isControl (c : Char) : Bool := (c < ' ' && c ≠ '\t' && c ≠ '\n') || c = '\x7f'

/-- Longest run of `q`, given the length of the run just before. -/
def longestRun (q : Char) (run : Nat) : List Char → Nat
  | [] => run
  | c :: r => if c = q then longestRun q (run + 1) r else max run (longestRun q 0 r)

def Shape.of (cs : List Char) : Shape where
  backslash := cs.contains '\\'
  newline := cs.contains '\n'
  control := cs.any isControl
  singles := longestRun '\'' 0 cs
  doubles := longestRun '"' 0 cs

/-- How a string is quoted. -/
inductive Style where
  | basic
  | literal
  | basicLines
  | literalLines
  deriving DecidableEq

/-- The first style that needs no escapes, double quotes before single ones; if none does,
double quotes with escapes. -/
def Shape.style (s : Shape) : Style :=
  if !s.control && !s.backslash && s.doubles = 0 && !s.newline then .basic
  else if !s.control && s.singles = 0 && !s.newline then .literal
  else if !s.control && !s.backslash && s.doubles ≤ 2 then .basicLines
  else if !s.control && s.singles ≤ 2 then .literalLines
  else if s.newline then .basicLines
  else .basic

def hexDigit (n : Nat) : Char := (Nat.digitChar n).toUpper

/-- Four hexadecimal digits. -/
def hexFour (n : Nat) : List Char :=
  [hexDigit (n / 4096 % 16), hexDigit (n / 256 % 16), hexDigit (n / 16 % 16), hexDigit (n % 16)]

/-- A string's characters between double quotes. In the style with lines, newlines stand for
themselves, and so do up to two double quotes in a row; `run` of them came just before. -/
def escaped (lines : Bool) (run : Nat) : List Char → List Char
  | [] => []
  | c :: r =>
    if c = '"' then
      if lines && run < 2 then '"' :: escaped lines (run + 1) r
      else '\\' :: '"' :: escaped lines 0 r
    else if c = '\\' then '\\' :: '\\' :: escaped lines 0 r
    else if c = '\n' then
      if lines then '\n' :: escaped lines 0 r else '\\' :: 'n' :: escaped lines 0 r
    else if c = '\t' then '\\' :: 't' :: escaped lines 0 r
    else if c = '\x08' then '\\' :: 'b' :: escaped lines 0 r
    else if c = '\x0c' then '\\' :: 'f' :: escaped lines 0 r
    else if c = '\r' then '\\' :: 'r' :: escaped lines 0 r
    else if isControl c then '\\' :: 'u' :: (hexFour c.toNat ++ escaped lines 0 r)
    else c :: escaped lines 0 r

/-- A quoted string. -/
def quoted (s : String) : List Char :=
  let cs := s.toList
  let shape := Shape.of cs
  let first := if shape.newline then ['\n'] else []
  match shape.style with
  | .basic => '"' :: escaped false 0 cs ++ ['"']
  | .literal => '\'' :: cs ++ ['\'']
  | .basicLines => ['"', '"', '"'] ++ first ++ escaped true 0 cs ++ ['"', '"', '"']
  | .literalLines => ['\'', '\'', '\''] ++ first ++ cs ++ ['\'', '\'', '\'']

/-- A float: whole ones keep a point. The sign of a NaN is not written. -/
def real (x : Float) : List Char :=
  if x.isNaN then "nan".toList
  else if Decimal.isWhole x then (Decimal.plain x).toList ++ ['.', '0']
  else (Decimal.plain x).toList

mutual

/-- A value as it stands behind its key. -/
def value : Value → List Char
  | .text s => quoted s
  | .integer n => (toString n).toList
  | .real x => real x
  | .boolean b => (toString b).toList
  | .moment written => written.toList
  | .array [] => ['[', ']']
  | .array [v] => '[' :: value v ++ [']']
  | .array (v :: vs) => '[' :: itemLines (v :: vs) ++ ['\n', ']']
  | .table entries => "\x7b ".toList ++ inBraces entries ++ " \x7d".toList

/-- The items of a longer array. -/
def itemLines : List Value → List Char
  | [] => []
  | v :: vs => "\n    ".toList ++ value v ++ ',' :: itemLines vs

/-- The members of a table inside a value. -/
def inBraces : List (String × Value) → List Char
  | [] => []
  | [(k, v)] => k.toList ++ " = ".toList ++ value v
  | (k, v) :: es => k.toList ++ " = ".toList ++ value v ++ ", ".toList ++ inBraces es

end

def isTable : Value → Bool
  | .table _ => true
  | _ => false

/-- A line for each key. -/
def keyLines (entries : Table) : List Char :=
  entries.flatMap fun (k, v) => k.toList ++ " = ".toList ++ value v ++ ['\n']

/-- A section for a table. -/
def section? : String × Value → List Char
  | (k, .table entries) => '\n' :: '[' :: k.toList ++ [']', '\n'] ++ keyLines entries
  | _ => []

/-- The text of a document whose tables hold no tables themselves. -/
def document (t : Table) : String :=
  String.ofList (keyLines (t.filter fun e => !isTable e.2) ++ t.flatMap section?)

end Tether.Toml.Writer
