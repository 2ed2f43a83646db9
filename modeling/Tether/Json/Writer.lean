/-! Compact JSON text. Quotes, backslashes and control characters are escaped, everything
else stands for itself. -/

namespace Tether.Json

/-- A value to be written. -/
inductive Value where
  | null
  | number (n : Int)
  | text (s : String)
  | array (items : List Value)
  | object (members : List (String × Value))

def hexDigit (n : Nat) : Char := Nat.digitChar n

/-- A character inside a string. -/
def escapeChar (c : Char) : List Char :=
  if c = '"' then ['\\', '"']
  else if c = '\\' then ['\\', '\\']
  else if c.val = 0x08 then ['\\', 'b']
  else if c.val = 0x09 then ['\\', 't']
  else if c.val = 0x0A then ['\\', 'n']
  else if c.val = 0x0C then ['\\', 'f']
  else if c.val = 0x0D then ['\\', 'r']
  else if c.val < 0x20 then
    ['\\', 'u', '0', '0', hexDigit (c.toNat / 16), hexDigit (c.toNat % 16)]
  else [c]

def quoted (s : String) : String :=
  String.ofList ('"' :: s.toList.flatMap escapeChar ++ ['"'])

mutual

/-- The text of a value, with no blanks. -/
def Value.render : Value → String
  | .null => "null"
  | .number n => toString n
  | .text s => quoted s
  | .array items => "[" ++ renderItems items ++ "]"
  | .object members => "\x7b" ++ renderMembers members ++ "\x7d"

def renderItems : List Value → String
  | [] => ""
  | [v] => v.render
  | v :: vs => v.render ++ "," ++ renderItems vs

def renderMembers : List (String × Value) → String
  | [] => ""
  | [(k, v)] => quoted k ++ ":" ++ v.render
  | (k, v) :: ms => quoted k ++ ":" ++ v.render ++ "," ++ renderMembers ms

end

end Tether.Json
