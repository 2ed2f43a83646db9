import Tether.Rate

/-! The command line of the agent: options of its own, then a shell session or a port session
with options of theirs. -/

namespace Tether.CommandLine

/-- A session that is asked for. -/
inductive Command where
  | shell (sessionId url : String) (command : Option String) (flowLimit : Option Nat)
  | port (sessionId url : String) (host : Option String) (port : Nat) (flowLimit : Option Nat)
  deriving DecidableEq, Repr

structure Invocation where
  /-- The settings file, where it is not the default one. -/
  config : Option String
  command : Command
  deriving DecidableEq, Repr

/-- What a command line comes to. -/
inductive Parsed where
  | run (i : Invocation)
  /-- Help or the version is asked for. -/
  | help
  | misuse
  deriving DecidableEq, Repr

/-- The options of a command: their long names, and the short ones that some have. -/
abbrev Options := List (String × Option Char)

/-- Values given so far, under the long names. -/
abbrev Values := List (String × String)

/-- One word of a command line, as the options of a command see it. -/
inductive Word where
  /-- An option with its value. -/
  | given (name value : String)
  /-- An option whose value is the next word. -/
  | awaits (name : String)
  | help
  | version
  /-- A word that is no option. -/
  | plain (text : String)
  | unknown
  deriving DecidableEq, Repr

/-- A long option, with a value behind `=` if there is one. -/
def longWord (options : Options) (text : List Char) : Word :=
  let name := String.ofList (text.takeWhile (· ≠ '='))
  let value := if text.contains '=' then
    some (String.ofList ((text.dropWhile (· ≠ '=')).drop 1)) else none
  match name, value with
  | "help", none => .help
  | "version", none => .version
  | name, value =>
    if options.any (·.1 = name) then value.elim (.awaits name) (.given name) else .unknown

/-- A short option, with a value right behind it if there is one. -/
def shortWord (options : Options) (c : Char) (rest : List Char) : Word :=
  if c = 'h' then .help
  else if c = 'V' then .version
  else
    match options.find? (·.2 = some c) with
    | none => .unknown
    | some (name, _) =>
      match rest with
      | [] => .awaits name
      | '=' :: value => .given name (String.ofList value)
      | value => .given name (String.ofList value)

def wordOf (options : Options) (text : String) : Word :=
  match text.toList with
  | '-' :: '-' :: [] => .unknown
  | '-' :: '-' :: name => longWord options name
  | '-' :: c :: rest => shortWord options c rest
  | _ => .plain text

/-- Whether a word can be the value of an option: it does not look like an option. -/
def isValue (text : String) : Bool :=
  match text.toList with
  | '-' :: _ :: _ => false
  | _ => true

/-- Takes an option, which must not be given twice. -/
def take (values : Values) (name value : String) : Option Values :=
  if values.any (·.1 = name) then none else some (values ++ [(name, value)])

/-- What comes of reading options. -/
inductive Reading where
  /-- All words are read. -/
  | finished (values : Values)
  /-- A word that is no option, and the words behind it. -/
  | stopped (values : Values) (word : String) (rest : List String)
  | help
  | misuse
  deriving Repr

/-- Reads options up to a word that is none. The version is told only where the agent's own
options are read. -/
def options (known : Options) (hasVersion : Bool) (values : Values) : List String → Reading
  | [] => .finished values
  | text :: rest =>
    match wordOf known text with
    | .help => .help
    | .version => if hasVersion then .help else .misuse
    | .unknown => .misuse
    | .plain text => .stopped values text rest
    | .given name value =>
      match take values name value with
      | some values => options known hasVersion values rest
      | none => .misuse
    | .awaits name =>
      match rest with
      | [] => .misuse
      | value :: rest =>
        if isValue value then
          match take values name value with
          | some values => options known hasVersion values rest
          | none => .misuse
        else .misuse

def agentOptions : Options := [("log-level", none), ("config", some 'c')]

def shellOptions : Options :=
  [("session-id", none), ("url", none), ("command", none), ("flow-limit", none)]

def portOptions : Options :=
  [("session-id", none), ("url", none), ("host", none), ("port", none), ("flow-limit", none)]

/-- A number below a limit; a plus sign may stand before it. -/
def number? (limit : Nat) (text : String) : Option Nat :=
  let digits := match text.toList with
    | '+' :: r => r
    | cs => cs
  if digits = [] || !digits.all Char.isDigit then none
  else
    let n := digits.foldl (fun n c => n * 10 + (c.toNat - 48)) 0
    if n < limit then some n else none

/-- A number that need not be given. -/
def optional? (limit : Nat) (values : Values) (name : String) : Option (Option Nat) :=
  match values.lookup name with
  | none => some none
  | some text => (number? limit text).map some

def shellCommand? (values : Values) : Option Command := do
  let id ← values.lookup "session-id"
  let url ← values.lookup "url"
  let limit ← optional? UInt64.size values "flow-limit"
  return .shell id url (values.lookup "command") limit

def portCommand? (values : Values) : Option Command := do
  let id ← values.lookup "session-id"
  let url ← values.lookup "url"
  let port ← (values.lookup "port").bind (number? UInt16.size)
  let limit ← optional? UInt64.size values "flow-limit"
  return .port id url (values.lookup "host") port limit

/-- Reads the options of a command, to the end. -/
def command (agent : Values) (known : Options) (finish : Values → Option Command)
    (words : List String) : Parsed :=
  match options known false [] words with
  | .help => .help
  | .misuse | .stopped .. => .misuse
  | .finished values =>
    match finish values with
    | some c => .run ⟨agent.lookup "config", c⟩
    | none => .misuse

/-- Help is told about the agent, about one of its commands, or about itself. -/
def helpFor : List String → Parsed
  | [] | ["shell"] | ["port"] | ["help"] => .help
  | _ => .misuse

def parse (words : List String) : Parsed :=
  match options agentOptions true [] words with
  | .help => .help
  | .misuse | .finished _ => .misuse
  | .stopped agent "shell" rest => command agent shellOptions shellCommand? rest
  | .stopped agent "port" rest => command agent portOptions portCommand? rest
  | .stopped _ "help" rest => helpFor rest
  | .stopped .. => .misuse

/-- The send rate under a limit; 0 is no limit. -/
def rate (limit : Option Nat) (standard : SendRate) : SendRate :=
  match limit.filter (0 < ·) with
  | some bps => ⟨bps⟩
  | none => standard

end Tether.CommandLine
