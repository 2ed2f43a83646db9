import Tether.Fault
import Tether.Settings.Basic
import Tether.Shell.Words
import Tether.Text.Blank

/-! What a shell session runs: the command that was asked for, or a default shell that has to be
one of the listed ones. -/

namespace Tether.Shell

/-- What there is to know of the system that processes are started on. -/
structure System where
  /-- Whether there is a file at a path. -/
  pathExists : String → Bool
  /-- The list of login shells, if it can be read. -/
  loginShells : Option String
  /-- The variable that names the user's shell. -/
  userShell : Option String
  /-- The variable that names the language. -/
  language : Option String

/-- Shells that are allowed whether they are login shells or not. -/
def allowedShells : List String :=
  ["/bin/sh", "/bin/bash", "/bin/zsh", "/bin/fish", "/bin/dash", "/bin/ksh",
    "/usr/bin/sh", "/usr/bin/bash", "/usr/bin/zsh", "/usr/bin/fish", "/usr/bin/dash",
    "/usr/bin/ksh", "/usr/local/bin/bash", "/usr/local/bin/zsh", "/usr/local/bin/fish"]

/-- The shell where nothing names one. -/
def fallbackShell : String := "/bin/sh"

/-- Lower case, as far as it leads to an ASCII letter: besides the ASCII letters themselves that
is the Kelvin sign. -/
def lowerChar (c : Char) : Char := if c.val = 0x212A then 'k' else c.toLower

def lower (s : String) : String := String.ofList (s.toList.map lowerChar)

/-- Whether a path is an allowed shell; upper and lower case do not matter. -/
def isAllowed (shell : String) : Bool := allowedShells.any fun s => lower s = lower shell

/-- The lines of a text, without line ends. A line end at the end begins no other line. -/
def lines (cs : List Char) : List (List Char) :=
  match cs with
  | [] => []
  | c :: r =>
    if c = '\n' then [] :: lines r
    else
      match lines r with
      | line :: rest => (c :: line) :: rest
      | [] => [[c]]

/-- Whether a text lists a shell on a line of its own that is no comment. -/
def lists (text shell : String) : Bool :=
  (lines text.toList).any fun line =>
    let line := Text.trimBoth Text.isBlank line
    line.head? ≠ some '#' && line = shell.toList

def quotedList (paths : List String) : String :=
  "[" ++ String.intercalate ", " (paths.map fun p => "\"" ++ p ++ "\"") ++ "]"

/-- Accepts a default shell that is there and is allowed or listed. -/
def checkShell (sys : System) (shell : String) : Except Causes String :=
  if isAllowed shell then
    if sys.pathExists shell then .ok shell
    else .error ⟨"Shell '" ++ shell ++ "' does not exist", []⟩
  else if sys.loginShells.any (lists · shell) && sys.pathExists shell then .ok shell
  else .error ⟨"Shell '" ++ shell ++ "' is not in the allowed shell list. Allowed shells: "
    ++ quotedList allowedShells, []⟩

/-- A program and what it is started with. -/
structure Launch where
  program : String
  arguments : List String
  /-- Variables set on top of the agent's own, the later ones winning. -/
  environment : List (String × String)
  deriving DecidableEq, Repr

namespace Launch

/-- Language where none is set. -/
def defaultLanguage : String := "C.UTF-8"

/-- Program and arguments of a command line. -/
def ofCommand (command : String) : Except Causes (String × List String) :=
  match Words.split? command with
  | none => .error ⟨"Failed to split command line: " ++ command, []⟩
  | some [] => .error ⟨"Command line is empty", []⟩
  | some (program :: arguments) => .ok (program, arguments)

/-- The default shell: the one in the settings, else the user's, else the fallback. -/
def defaultShell (sys : System) (settings : ShellSettings) : Except Causes (String × List String) :=
  let wanted := (settings.defaultShell.or sys.userShell).getD fallbackShell
  match checkShell sys wanted with
  | .ok shell => .ok (shell, [])
  | .error e => .error ⟨"Invalid shell requested: " ++ wanted, e.context :: e.deeper⟩

def ofRequest (sys : System) (settings : ShellSettings) (command : Option String)
    (env : List (String × String)) : Except Causes Launch :=
  let what := match command with
    | some command => ofCommand command
    | none => defaultShell sys settings
  what.map fun (program, arguments) => {
    program := program
    arguments := arguments
    environment :=
      (if sys.language.all (· = "") then [("LANG", defaultLanguage)] else [])
        ++ settings.defaultEnv ++ env }

end Launch

end Tether.Shell
