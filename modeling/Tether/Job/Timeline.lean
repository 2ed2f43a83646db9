import Tether.Agent
import Tether.Job.Basic
import Tether.Plugin.Race
import Tether.Session.Outlet
import Tether.Session.Timeline
import Tether.Socket.Handshake
import Tether.Url.Channel

/-! One job from start to end, with a scripted plugin and a service that takes its connection. -/

namespace Tether.Job

/-- What the plugin of a job does. -/
inductive Script where
  /-- Dials a port that refuses. -/
  | refusedPort
  /-- Sends data, takes the inbound messages and ends with a code. -/
  | ends (sends : List (List UInt8)) (code : String)
  /-- Sends data, takes the inbound messages and waits for the cancel flag. -/
  | waits (sends : List (List UInt8))
  deriving Repr

structure Scene where
  agent : Agent
  id : String
  /-- The base address of the service. -/
  url : String
  listening : Bool
  /-- Frames that the service sends right after the handshake. -/
  serverFrames : List (List UInt8)
  script : Script
  /-- Stops the session once the plugin has come that far. -/
  stops : Bool

/-- What is seen of a job. -/
structure Seen where
  jobs : Jobs
  /-- What the jobs did, in order. -/
  effects : List (Nat × Effect)
  /-- The request of the handshake that reached the service. -/
  request : Option Socket.Request
  /-- The session, once its channel was open. -/
  session : Option Session.Timeline
  /-- Whether the id was registered while the plugin ran, and how stopping it went. -/
  stopped : Option (Bool × Except SessionFault Unit)

namespace Scene

/-- The address of the session. -/
def channelUrl (s : Scene) : String := Url.channel s.url s.id

def socket (s : Scene) : Socket.Config := .ofSettings s.channelUrl s.agent.settings

def tell (seen : Seen) (e : Jobs.Event) : Seen :=
  let (jobs, effects) := seen.jobs.step e
  { seen with jobs := jobs, effects := seen.effects ++ effects }

/-- The one job is the first. -/
def tellJob (seen : Seen) (e : Event) : Seen := tell seen (.job 0 e)

def phase (seen : Seen) : Phase := (seen.jobs.jobs[0]?).elim .fresh (·.phase)

/-- The session after the handshake, and the service's frames in it. -/
def openSession (s : Scene) : Session.Timeline :=
  let config := Session.Config.ofSettings s.agent.settings s.id
  let opened := (Session.Timeline.start config).openTransport.2
  s.serverFrames.foldl (fun t bytes => (t.report (.frame bytes)).2.settle) opened

/-- The code of a plugin that waits for the flag, which the session's limit sets if nobody
else does. -/
def waited (flag : CancelState) : String :=
  (CancelState.pluginResult (γ := PortExit) (flag.set .canceled).2).1.text

/-- The plugin runs and ends. -/
def runPlugin (s : Scene) (seen : Seen) (t : Session.Timeline) : Seen :=
  let send (sends : List (List UInt8)) : Session.Timeline :=
    sends.foldl (fun t data => (t.send data 1).2) t
  let stop (seen : Seen) : Seen :=
    if s.stops then
      let answer := (seen.jobs.registry.stop s.id).1
      tell { seen with stopped := some (seen.jobs.registry.contains s.id, answer) } (.stop s.id)
    else seen
  match s.script with
  | .refusedPort => tellJob { seen with session := some t } (.ended PortExit.openPortFailed.text)
  | .ends sends code =>
    tellJob (stop { seen with session := some (send sends) }) (.ended code)
  | .waits sends =>
    let seen := stop { seen with session := some (send sends) }
    let flag := seen.jobs.registry.flags.get ((seen.jobs.jobs[0]?).elim 0 (·.flag))
    tellJob seen (.ended (waited flag))

/-- Dials, if the job got that far, and goes on to the plugin's end. -/
def dial (s : Scene) (seen : Seen) : Seen :=
  let provider := s.agent.handshakeHeaders
  let extra := (provider.bind fun p => p.resolve.1).getD []
  let request := (Socket.Request.build? s.socket extra).filter fun _ =>
    s.listening && Socket.Transport.ofUrl? s.channelUrl = some .plain
  match request with
  | none => tellJob seen (.opened false)
  | some request =>
    let seen := tellJob (tellJob { seen with request := some request } (.opened true)) .delayed
    tellJob (s.runPlugin seen s.openSession) .closed

/-- Plays the scene. A report that fails changes nothing. -/
def play (s : Scene) (reportFine : Bool) : Seen :=
  let start : Seen := ⟨.start s.agent.registry, [], none, none, none⟩
  let seen := tellJob (tell start (.arrives s.id)) .begun
  let seen := match phase seen with
    | .registered => tellJob seen (.created s.socket.isDialable)
    | _ => seen
  let seen := match phase seen with
    | .dialing => s.dial seen
    | _ => seen
  tellJob (tellJob seen .left) (.reported reportFine)

end Scene

namespace Seen

/-- The outcome that the job returned. -/
def outcome? (seen : Seen) : Option Outcome :=
  (seen.jobs.jobs[0]?).bind fun j => j.code?.map (⟨j.id, ·⟩)

/-- The outcomes that were reported, in order. -/
def reports (seen : Seen) : List Outcome :=
  seen.effects.filterMap fun (_, e) =>
    match e with
    | .report o => some o
    | _ => none

/-- Whether the plugin was started. -/
def started (seen : Seen) : Bool := seen.effects.any (·.2 = .execute)

end Seen

end Tether.Job
