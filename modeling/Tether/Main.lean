import Tether.Program
import Tether.Settings.Location

/-! The executable. It reads the settings file and runs the session that the command line asks
for. No transport is linked in, so every address is out of reach and a session that gets that
far ends with the code for a channel that cannot be opened. -/

namespace Tether

def usage : String := String.intercalate "\n" [
  "Bridges a shell or a local port onto a remote session channel",
  "",
  "Usage: session-agent [OPTIONS] <COMMAND>",
  "",
  "Commands:",
  "  shell  Run an interactive shell session",
  "  port   Forward a local TCP port",
  "  help   Print this message or the help of the given subcommand(s)",
  "",
  "Options:",
  "      --log-level <LOG_LEVEL>  Log level (error, warn, info, debug, trace) [default: info]",
  "  -c, --config <CONFIG>        Path to configuration file",
  "  -h, --help                   Print help",
  "  -V, --version                Print version"]

/-- What stands at a path. -/
def readState (path : String) : IO FileState := do
  try
    return .file (← IO.FS.readBinFile path).toList
  catch
    | .noFileOrDirectory .. => return .absent
    | _ => return .directory

/-- The path that the command line names for the settings, if it does. -/
def namedConfig (words : List String) : Option String :=
  match CommandLine.parse words with
  | .run i => i.config
  | _ => none

end Tether

open Tether in
def main (words : List String) : IO UInt32 := do
  let defaultConfig := Settings.path (← IO.getEnv "XDG_CONFIG_HOME") (← IO.getEnv "HOME")
  let state ← readState ((namedConfig words).getD defaultConfig)
  let world : Program.World := {
    file := fun _ => state
    defaultConfig := defaultConfig
    serves := fun _ => false
    system := ⟨fun _ => false, none, ← IO.getEnv "SHELL", ← IO.getEnv "LANG"⟩
    starts := fun _ => false
    answers := fun _ => false }
  let exit := Program.run world words
  match exit with
  | .help => IO.println usage
  | .misuse => IO.eprintln usage
  | _ =>
    match exit.errorLine with
    | some line => IO.eprintln line
    | none => pure ()
  return UInt32.ofNat exit.status
