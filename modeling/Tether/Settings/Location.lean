/-! Where the settings file is by default. -/

namespace Tether.Settings

/-- A path below a directory, with one slash between them. -/
def join (dir file : String) : String :=
  if dir = "" ∨ dir.endsWith "/" then dir ++ file else dir ++ "/" ++ file

def isAbsolute (path : String) : Bool := path.startsWith "/"

/-- The directory for settings: the one that the desktop standard names if that is absolute,
else `.config` at home, else none. -/
def baseDirectory (configured home : Option String) : Option String :=
  match configured.filter isAbsolute with
  | some dir => some dir
  | none => (home.filter (· ≠ "")).map (join · ".config")

/-- The agent's own directory. -/
def directory (configured home : Option String) : String :=
  join ((baseDirectory configured home).getD ".") "session-agent"

/-- The settings file. -/
def path (configured home : Option String) : String :=
  join (directory configured home) "agent.toml"

end Tether.Settings
