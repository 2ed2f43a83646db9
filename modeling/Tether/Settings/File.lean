import Tether.Settings.Toml
import Tether.Toml.Reader
import Tether.Toml.Writer

/-! The settings file: what is in its place, and what loading and saving make of that. -/

namespace Tether

/-- What stands at the path of the settings file. -/
inductive FileState where
  | absent
  | directory
  | file (content : List UInt8)
  deriving DecidableEq, Repr

/-- Why settings cannot be loaded or saved. -/
inductive SettingsFault where
  | notFound (path : String)
  | invalid (reason : String)
  /-- The file is not TOML, or holds something else than settings. -/
  | unreadable
  /-- A number is too large to be written. -/
  | unwritable
  deriving DecidableEq, Repr

def SettingsFault.message : SettingsFault → String
  | .notFound path => "Config file not found: " ++ path
  | .invalid reason => "Invalid config: " ++ reason
  | .unreadable => "TOML parse error"
  | .unwritable => "TOML serialize error"

namespace Settings

/-- The text of a file, or why it cannot be read. -/
def readFile (path : String) : FileState → Except SettingsFault String
  | .absent => .error (.notFound path)
  | .directory => .error (.invalid "Failed to read config: Is a directory (os error 21)")
  | .file content =>
    match Text.Utf8.decode? content with
    | some s => .ok s
    | none => .error (.invalid "Failed to read config: stream did not contain valid UTF-8")

/-- Settings from the text of a file. -/
def ofText (s : String) : Except SettingsFault Settings :=
  match (Toml.read? s).bind ofToml? with
  | some settings => .ok settings
  | none => .error .unreadable

/-- Loads settings as they are written. -/
def load (path : String) (state : FileState) : Except SettingsFault Settings := do
  ofText (← readFile path state)

/-- Loads settings that keep the rules. A file that is not there stands for the defaults; any
other fault is passed on. -/
def loadValid (path : String) (state : FileState) : Except SettingsFault Settings := do
  let settings ← match load path state with
    | .error (.notFound _) => .ok standard
    | other => other
  match settings.validate with
  | .ok () => return settings
  | .error flaw => .error (.invalid flaw.message)

/-- The text of a settings file. -/
def toText (s : Settings) : Except SettingsFault String :=
  match s.toToml? with
  | some t => .ok (Toml.Writer.document t)
  | none => .error .unwritable

/-- Saves settings. If they cannot be written, what is there stays. -/
def save (s : Settings) (state : FileState) : Except SettingsFault Unit × FileState :=
  match s.toText with
  | .error e => (.error e, state)
  | .ok text =>
    match state with
    | .directory =>
      (.error (.invalid "Failed to write config: Is a directory (os error 21)"), .directory)
    | _ => (.ok (), .file (Text.Utf8.encode text))

end Settings

end Tether
