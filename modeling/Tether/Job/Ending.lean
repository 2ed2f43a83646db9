import Tether.Job.Service
import Tether.Plugin.Race
import Tether.Session.History

/-! A session and its one flag. The limit of the job, the registry and the session channel may ask
for an end; whoever asks first sets the flag, and the plugin races its pump against it. All of them
hold the one flag, so whatever sets it here is seen by all at once. -/

namespace Tether

/-- A plugin that races its pump against its flag. -/
structure Racer (π ε γ : Type) extends Plugin π ε where
  flag : π → CancelState
  /-- The race, while it is open. -/
  race? : π → Option (Race γ)
  /-- What the plugin has come to, returned or not. -/
  result? : π → Option (PluginResult γ)
  told : CancelState → ε
  /-- The plugin looks at the flag and at its pump. -/
  looks : Bool → ε
  /-- Whether an event can happen by itself to a plugin that is started once, under its flag. -/
  admits : π → ε → Bool
  /-- The task of the pump panics. -/
  panic : String → π → π

/-- The end that a session asks for by itself: it has been silent for too long, or gives up a lost
transport. -/
def Session.asks? (c : Config) (s : Session) : Event → Option CancelState
  | .ticked =>
    if s.watchdog = .running ∧ c.idleLimit < s.idle + 1 then some .canceled else none
  | .redialed false =>
    match s.dispatcher with
    | .redialing p => if Retry.afterFailure c.retry p = .giveUp then some .canceled else none
    | _ => none
  | _ => none

/-- The job's flag. -/
def Service.flag {π : Type} (s : Service π) : CancelState := s.registry.flags.get s.job.flag

namespace Ending

variable {π ε γ : Type}

inductive Event (ε : Type) where
  | service (e : Service.Event ε)
  /-- The session has lasted as long as it may. -/
  | limit
  /-- Someone asks a session to finish. -/
  | stop (id : String)
  | stopAll
  /-- Someone who has not seen the end yet asks for one. -/
  | belated (next : CancelState)
  | panics (text : String)

def look (p : Racer π ε γ) (first : Bool) : Event ε := .service (.plugin (p.looks first))

/-- A job with a flag of its own. -/
def start (p : Racer π ε γ) (id : String) (r : Registry) : Service π :=
  let (flag, flags) := r.flags.fresh
  .start p.toPlugin id flag { r with flags := flags }

/-- Whether an event of the service is none of setting the flag. -/
def admits (p : Racer π ε γ) (s : Service π) : Service.Event ε → Bool
  | .job _ => true
  | .plugin e => p.admits s.plugin e
  | .channel (.session (.cancelled _)) => false
  | .channel _ => true
  | .elsewhere r =>
    r.flags.get s.job.flag = s.flag ∧ s.registry.flags.states.length ≤ r.flags.states.length

/-- The end that an event asks of the job's flag, if it does. The limit is lifted when the plugin
has returned, but may be running out just then. -/
def asks? (settings : Settings) (s : Service π) : Event ε → Option CancelState
  | .service (.channel (.session e)) =>
    s.outlet.senders.session.asks? (.ofSettings settings s.job.id) e
  | .limit =>
    match s.job.phase with
    | .running | .closing _ => some .canceled
    | _ => none
  | .stop id => if s.registry.find? id = some s.job.flag then some .completed else none
  | .stopAll =>
    if s.job.flag ∈ s.registry.entries.map Prod.snd then some .completed else none
  | .belated next => if s.flag.isTerminal ∧ next.isTerminal then some next else none
  | _ => none

/-- What an event does where it happens. -/
def act (p : Racer π ε γ) (settings : Settings) (s : Service π) : Event ε → Service π
  | .service e => if admits p s e then s.step p.toPlugin settings e else s
  | .stop id => { s with registry := (s.registry.stop id).2 }
  | .stopAll => { s with registry := s.registry.stopAll }
  | .panics text =>
    if s.job.phase = .running then { s with plugin := p.panic text s.plugin } else s
  | .limit | .belated _ => s

/-- Sets the flag for all who hold it. -/
def ask (p : Racer π ε γ) (settings : Settings) (s : Service π) (next : CancelState) :
    Service π :=
  { s with
    registry := (s.registry.setFlag s.job.flag next).2
    outlet := s.outlet.step (.ofSettings settings s.job.id) (.session (.cancelled next))
    plugin := (p.step s.plugin s.outlet (p.told next)).1 }

def step (p : Racer π ε γ) (settings : Settings) (s : Service π) (e : Event ε) : Service π :=
  (asks? settings s e).elim (act p settings s e) (ask p settings (act p settings s e))

def run (p : Racer π ε γ) (settings : Settings) (s : Service π) (es : List (Event ε)) :
    Service π :=
  es.foldl (step p settings) s

/-- The ends that were asked of the job's flag, in order. -/
def attempts (p : Racer π ε γ) (settings : Settings) (s : Service π) (es : List (Event ε)) :
    List CancelState :=
  Session.observe (step p settings) (asks? settings) s es

end Ending

end Tether
