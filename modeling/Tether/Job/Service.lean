import Tether.Job.Basic
import Tether.Session.Outlet

/-! A job together with its plugin and its session. The job sees of its plugin only the exit
code; the plugin sees of the session only what comes of its calls. -/

namespace Tether

/-- A plugin as its job runs it. -/
structure Plugin (π ε : Type) where
  start : π
  /-- One event, at the sending end of a session. -/
  step : π → Session.Outlet → ε → π × Session.Outlet
  /-- The exit code, once there is one. -/
  code? : π → Option String

structure Service (π : Type) where
  job : Job
  registry : Registry
  plugin : π
  outlet : Session.Outlet

namespace Service

variable {π ε : Type}

def start (p : Plugin π ε) (id : String) (flag : Nat) (r : Registry) : Service π :=
  ⟨⟨id, flag, .fresh⟩, r, p.start, .start⟩

inductive Event (ε : Type) where
  | job (e : Job.Event)
  | plugin (e : ε)
  | channel (e : Session.Outlet.Event)
  /-- Other jobs and the flags leave the registry like this. -/
  | elsewhere (r : Registry)

/-- An event of the job. -/
def tell (s : Service π) (e : Job.Event) : Service π :=
  let (job, registry, _) := s.job.step s.registry e
  { s with job := job, registry := registry }

/-- One event. The plugin runs only while its job says so, and the job goes on with no other code
than that of its plugin. -/
def step (p : Plugin π ε) (settings : Settings) (s : Service π) : Event ε → Service π
  | .job (.ended code) => if p.code? s.plugin = some code then s.tell (.ended code) else s
  | .job e => s.tell e
  | .plugin e =>
    if s.job.phase = .running then
      let (plugin, outlet) := p.step s.plugin s.outlet e
      { s with plugin := plugin, outlet := outlet }
    else s
  | .channel e => { s with outlet := s.outlet.step (.ofSettings settings s.job.id) e }
  | .elsewhere r => { s with registry := r }

def run (p : Plugin π ε) (settings : Settings) (s : Service π) (es : List (Event ε)) :
    Service π :=
  es.foldl (step p settings) s

end Service

end Tether
