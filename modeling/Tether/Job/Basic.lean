import Tether.Outcome
import Tether.Registry
import Tether.Wire.SessionId

/-! Jobs. A job runs one session from its registration to its report, and many of them share one
registry. Between two events of a job anything may happen to the others. -/

namespace Tether

/-- Another session with the same id is running. -/
def duplicateCode : String := "Session_id_duplicate"

/-- The channel could not be created. -/
def initFailedCode : String := "Init_channel_failed"

/-- The channel could not be opened. -/
def openFailedCode : String := "Open_channel_failed"

namespace Job

/-- How far a job has come. -/
inductive Phase where
  | fresh
  /-- Registered; the channel is yet to be created. -/
  | registered
  | dialing
  /-- The channel is open; the plugin waits a while. -/
  | delaying
  /-- The plugin runs. -/
  | running
  | closing (code : String)
  /-- Yet to leave the registry. -/
  | leaving (code : String)
  | reporting (code : String)
  | done (code : String)
  deriving DecidableEq, Repr

/-- What happens next to a job. -/
inductive Event where
  /-- Checks the id and registers. -/
  | begun
  /-- The channel is created, or its address or headers are no good. -/
  | created (fine : Bool)
  | opened (fine : Bool)
  | delayed
  /-- The plugin ends with an exit code. -/
  | ended (code : String)
  | closed
  | left
  /-- The outcome is reported, or the report fails; nothing depends on that. -/
  | reported (fine : Bool)
  deriving DecidableEq, Repr

/-- What a job does to the world around it. -/
inductive Effect where
  | create
  | dial
  /-- Starts the plugin. -/
  | execute
  | hangUp
  | report (o : Outcome)
  deriving DecidableEq, Repr

end Job

structure Job where
  id : String
  /-- The job's cancel flag. -/
  flag : Nat
  phase : Job.Phase
  deriving DecidableEq, Repr

namespace Job

/-- Whether the job is between registration and removal. -/
def isRegistered (j : Job) : Bool :=
  match j.phase with
  | .registered | .dialing | .delaying | .running | .closing _ | .leaving _ => true
  | _ => false

/-- The exit code that the job returned, once it is done. -/
def code? (j : Job) : Option String :=
  match j.phase with
  | .done code => some code
  | _ => none

/-- Goes on to report a code without having registered. -/
def refuse (j : Job) (code : String) : Job := { j with phase := .reporting code }

/-- Checks the id, which has to fit a frame, and registers under the job's own flag. -/
def register (j : Job) (r : Registry) : Job × Registry × List Effect :=
  match Wire.SessionId.ofText j.id with
  | .error _ => (j.refuse initFailedCode, r, [])
  | .ok _ =>
    match r.insert j.id j.flag with
    | (.ok (), r) => ({ j with phase := .registered }, r, [.create])
    | (.error _, r) => (j.refuse duplicateCode, r, [])

/-- One event; one that does not fit the phase changes nothing. -/
def step (j : Job) (r : Registry) (e : Event) : Job × Registry × List Effect :=
  match j.phase, e with
  | .fresh, .begun => j.register r
  | .registered, .created fine =>
    if fine then ({ j with phase := .dialing }, r, [.dial])
    else ({ j with phase := .leaving initFailedCode }, r, [])
  | .dialing, .opened fine =>
    if fine then ({ j with phase := .delaying }, r, [])
    else ({ j with phase := .leaving openFailedCode }, r, [])
  | .delaying, .delayed => ({ j with phase := .running }, r, [.execute])
  | .running, .ended code => ({ j with phase := .closing code }, r, [.hangUp])
  | .closing code, .closed => ({ j with phase := .leaving code }, r, [])
  | .leaving code, .left =>
    ({ j with phase := .reporting code }, (r.remove j.id).2, [])
  | .reporting code, .reported _ =>
    ({ j with phase := .done code }, r, [.report ⟨j.id, code⟩])
  | _, _ => (j, r, [])

end Job

/-- The jobs of an agent, known by their index, and the registry that they share. -/
structure Jobs where
  registry : Registry
  jobs : List Job
  deriving DecidableEq, Repr

namespace Jobs

/-- No jobs yet; ids may be registered from outside. -/
def start (r : Registry) : Jobs := ⟨r, []⟩

inductive Event where
  /-- A new job, with a flag of its own. -/
  | arrives (id : String)
  | job (index : Nat) (e : Job.Event)
  /-- Someone asks a session to finish. -/
  | stop (id : String)
  | stopAll
  /-- A watchdog, a limit or a lost transport sets the flag of a job. -/
  | flagged (flag : Nat) (next : CancelState)
  /-- Someone who runs no job registers an id, with a flag of its own. -/
  | reserve (id : String)
  deriving DecidableEq, Repr

/-- One event, and what the jobs do, each under its index. -/
def step (s : Jobs) : Event → Jobs × List (Nat × Job.Effect)
  | .arrives id =>
    let (flag, flags) := s.registry.flags.fresh
    (⟨{ s.registry with flags := flags }, s.jobs ++ [⟨id, flag, .fresh⟩]⟩, [])
  | .job index e =>
    match s.jobs[index]? with
    | none => (s, [])
    | some j =>
      let (j, r, effects) := j.step s.registry e
      (⟨r, s.jobs.set index j⟩, effects.map (index, ·))
  | .stop id => ({ s with registry := (s.registry.stop id).2 }, [])
  | .stopAll => ({ s with registry := s.registry.stopAll }, [])
  | .flagged flag next => ({ s with registry := (s.registry.setFlag flag next).2 }, [])
  | .reserve id =>
    let (flag, flags) := s.registry.flags.fresh
    ({ s with registry := ({ s.registry with flags := flags }.insert id flag).2 }, [])

/-- The entry that someone who runs no job gets on an event. -/
def reserved (s : Jobs) : Event → List (String × Nat)
  | .reserve id =>
    if s.registry.contains id then [] else [(id, s.registry.flags.states.length)]
  | _ => []

/-- Runs events one after another, keeping what the jobs do. -/
def run (s : Jobs) : List Event → Jobs × List (Nat × Job.Effect)
  | [] => (s, [])
  | e :: es =>
    let (s', seen) := s.step e
    let (s'', more) := run s' es
    (s'', seen ++ more)

/-- The entries that were made by those who run no job. -/
def reservations (s : Jobs) : List Event → List (String × Nat)
  | [] => []
  | e :: es => s.reserved e ++ (s.step e).1.reservations es

end Jobs

end Tether
