/-! Command lines parted into words: quotes, backslashes, and comments that begin where a word
would. Nothing is expanded. -/

namespace Tether.Shell.Words

/-- Where in a command line a character stands. `word` is the word so far, backwards. -/
inductive Place where
  | between
  | comment
  | word (word : List Char)
  /-- Behind a backslash. -/
  | escaped (word : List Char)
  | single (word : List Char)
  | double (word : List Char)
  /-- Behind a backslash in double quotes. -/
  | doubleEscaped (word : List Char)
  deriving DecidableEq, Repr

/-- Characters between words. -/
def isGap (c : Char) : Bool := c = ' ' || c = '\t' || c = '\n'

/-- Characters that lose their meaning behind a backslash in double quotes. -/
def isDoubleSpecial (c : Char) : Bool := c = '$' || c = '`' || c = '"' || c = '\\'

/-- A character of a word, outside of quotes. -/
def inWord (word : List Char) (c : Char) : Place :=
  if c = '"' then .double word
  else if c = '\'' then .single word
  else if c = '\\' then .escaped word
  else .word (c :: word)

/-- The place behind one more character, and the word that it ends. -/
def step (p : Place) (c : Char) : Place × Option (List Char) :=
  match p with
  | .between =>
    (if isGap c then .between else if c = '#' then .comment else inWord [] c, none)
  | .comment => (if c = '\n' then .between else .comment, none)
  | .word word => if isGap c then (.between, some word.reverse) else (inWord word c, none)
  | .escaped word => (.word (if c = '\n' then word else c :: word), none)
  | .single word => (if c = '\'' then .word word else .single (c :: word), none)
  | .double word =>
    (if c = '"' then .word word
      else if c = '\\' then .doubleEscaped word
      else .double (c :: word), none)
  | .doubleEscaped word =>
    (.double (if isDoubleSpecial c then c :: word
      else if c = '\n' then word
      else c :: '\\' :: word), none)

/-- The words from a place on; nothing if a quote or a backslash is left open. -/
def wordsFrom (p : Place) : List Char → Option (List String)
  | [] =>
    match p with
    | .between | .comment => some []
    | .word word => some [String.ofList word.reverse]
    | _ => none
  | c :: r =>
    let (next, ended) := step p c
    (wordsFrom next r).map fun words => (ended.map String.ofList).toList ++ words

/-- The words of a command line. -/
def split? (line : String) : Option (List String) := wordsFrom .between line.toList

end Tether.Shell.Words
