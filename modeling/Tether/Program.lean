import Tether.CommandLine
import Tether.Job.Timeline
import Tether.Port.Address
import Tether.Settings.File
import Tether.Shell.Launch

/-! The program: one command line in, one session, one exit status out. What the session meets
outside is given as a world. -/

namespace Tether.Program

structure World where
  /-- What stands at a path. -/
  file : String → FileState
  /-- Where settings are read from if the command line does not say. -/
  defaultConfig : String
  /-- Whether a session service takes connections at an address. -/
  serves : String → Bool
  system : Shell.System
  /-- Whether a program can be started. -/
  starts : String → Bool
  /-- Whether something listens at a host and port. -/
  answers : String → Bool

/-- How the program ends. -/
inductive Exit where
  | success
  | help
  | misuse
  /-- It failed, for this reason. -/
  | failure (reason : String)
  deriving DecidableEq, Repr

def Exit.status : Exit → Nat
  | .success | .help => 0
  | .misuse => 2
  | .failure _ => 1

/-- What is told about a failure. -/
def Exit.errorLine : Exit → Option String
  | .failure reason => some ("Error: " ++ reason)
  | _ => none

/-- What the plugin of a shell session comes to. -/
def shellScript (w : World) (settings : ShellSettings) (command : Option String) : Job.Script :=
  match Shell.Launch.ofRequest w.system settings command [] with
  | .error _ => .ends [] ShellExit.openPtyFailed.text
  | .ok launch =>
    .ends [] (if w.starts launch.program then ShellExit.ok else ShellExit.openPtyFailed).text

/-- What the plugin of a port session comes to. -/
def portScript (w : World) (host : String) (port : Nat) : Job.Script :=
  if w.answers (Port.address host port) then .waits [] else .refusedPort

/-- The scene of a command. -/
def scene (w : World) (a : Agent) (c : CommandLine.Command) : Job.Scene :=
  let (id, url, script) := match c with
    | .shell id url command _ => (id, url, shellScript w a.settings.shell command)
    | .port id url host port _ =>
      (id, url, portScript w (host.getD a.settings.port.defaultHost) port)
  { agent := a
    id := id
    url := url
    listening := w.serves url
    serverFrames := []
    script := script
    stops := false }

/-- Runs one session. -/
def runSession (w : World) (a : Agent) (c : CommandLine.Command) : Exit :=
  match ((scene w a c).play true).outcome? with
  | none => .failure "Failed to initialize agent"
  | some o =>
    if o.status = .success then .success
    else .failure ("Session " ++ o.channelId ++ " failed: " ++ o.errorCode)

def run (w : World) (words : List String) : Exit :=
  match CommandLine.parse words with
  | .help => .help
  | .misuse => .misuse
  | .run i =>
    let path := i.config.getD w.defaultConfig
    match Settings.loadValid path (w.file path) with
    | .error _ => .failure ("Failed to load config from \"" ++ path ++ "\"")
    | .ok settings =>
      match Agent.start settings with
      | .error _ => .failure "Failed to initialize agent"
      | .ok a => runSession w a i.command

end Tether.Program
