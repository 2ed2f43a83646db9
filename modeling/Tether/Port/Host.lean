import Tether.Job.Ending
import Tether.Port.Forward

/-! The plugin of a port session at the sending end of its session. -/

namespace Tether.Port

/-- The result that the plugin has come to, returned or not. -/
def Stage.result? : Stage → Option (PluginResult PortExit)
  | .ending r | .stopping r | .returned r => some r
  | _ => none

/-- The task of the pump panics, unless it is over. -/
def Pump.panic (text : String) (p : Pump) : Pump :=
  match p.phase with
  | .finished _ => p
  | _ => { p with phase := .finished (.panicked text) }

namespace Forward

/-- The data that is handed to the session on an event. -/
def sends (effects : List Effect) : List (List UInt8) :=
  effects.filterMap fun
    | .sent bytes => some bytes
    | _ => none

/-- An exit code, once the plugin has returned. -/
def code? (f : Forward) : Option String :=
  match f.stage with
  | .returned r => some r.1.text
  | _ => none

/-- The race of the pump against the flag, until it is decided. -/
def race? (f : Forward) : Option (Race PortExit) :=
  match f.stage with
  | .running => some ⟨f.flag, f.pump.bind Pump.ended?, none⟩
  | _ => none

/-- Whether an event is none of setting the flag, nor a second start or one under another flag. -/
def admits (f : Forward) : Event → Bool
  | .started flag => f.stage = .unstarted ∧ flag = f.flag
  | .cancelled _ => false
  | _ => true

end Forward

namespace Host

inductive Event where
  /-- Anything but the answer to a call. -/
  | forward (e : Forward.Event)
  /-- The pump hears what its call came to. -/
  | hears

def step (f : Forward) (o : Session.Outlet) : Event → Forward × Session.Outlet
  | .forward (.pump (.answered _)) => (f, o)
  | .forward e =>
    let (f, effects) := f.step e
    (f, (Forward.sends effects).foldl Session.Outlet.send o)
  | .hears =>
    match o.result? with
    | some result => ((f.step (.pump (.answered (.ofResult result)))).1, o.settle)
    | none => (f, o)

/-- The plugin as its job runs it. -/
def plugin (addr : String) (rate : SendRate) : Plugin Forward Event where
  start := .start addr rate
  step := step
  code? := Forward.code?

def admits (f : Forward) : Event → Bool
  | .forward e => f.admits e
  | .hears => true

def racer (addr : String) (rate : SendRate) : Racer Forward Event PortExit where
  toPlugin := plugin addr rate
  flag := Forward.flag
  race? := Forward.race?
  result? f := f.stage.result?
  told next := .forward (.cancelled next)
  looks first := .forward (.looked first)
  admits := admits
  panic text f := { f with pump := f.pump.map (·.panic text) }

end Host

end Tether.Port
