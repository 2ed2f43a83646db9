import Tether.Cancel
import Tether.Fault
import Tether.Plugin.ExitCode

/-! The race between a plugin's pump and the cancel flag of its session. What is seen first
decides how the plugin ends. -/

namespace Tether

/-- An exit code, and what went wrong if something did. -/
abbrev PluginResult (γ : Type) := γ × Option PluginFault

/-- How a pump ended. -/
inductive PumpEnd (γ : Type) where
  | returned (result : PluginResult γ)
  | panicked (text : String)
  deriving DecidableEq, Repr

/-- The result of a plugin whose pump ended by itself. -/
def PumpEnd.result {γ : Type} [ExitCode γ] : PumpEnd γ → PluginResult γ
  | returned r => r
  | panicked text => (ExitCode.unknownError, some (.panic text))

/-- The result of a plugin that was cancelled. -/
def CancelState.pluginResult {γ : Type} [ExitCode γ] (s : CancelState) : PluginResult γ :=
  match s with
  | .completed => (ExitCode.notified, none)
  | _ => (ExitCode.timeout, none)

/-- A race under way or decided. -/
structure Race (γ : Type) where
  flag : CancelState
  pump : Option (PumpEnd γ)
  result : Option (PluginResult γ)
  deriving DecidableEq, Repr

namespace Race

variable {γ : Type}

/-- A race whose pump has just been started. -/
def start (flag : CancelState) : Race γ := ⟨flag, none, none⟩

inductive Event (γ : Type) where
  /-- Someone sets the flag. -/
  | cancelled (next : CancelState)
  /-- The pump ends. A second end is none. -/
  | ended (e : PumpEnd γ)
  /-- The race looks at both; if both are there, it may take either. -/
  | looked (flagFirst : Bool)

/-- Takes what is there. -/
def look [ExitCode γ] (r : Race γ) (flagFirst : Bool) : Option (PluginResult γ) :=
  let byFlag := r.flag.wait.map CancelState.pluginResult
  let byPump := r.pump.map PumpEnd.result
  if flagFirst then byFlag.or byPump else byPump.or byFlag

def step [ExitCode γ] (r : Race γ) : Event γ → Race γ
  | .cancelled next => { r with flag := (r.flag.set next).2 }
  | .ended e => { r with pump := r.pump.or (some e) }
  | .looked flagFirst => { r with result := r.result.or (r.look flagFirst) }

def run [ExitCode γ] (r : Race γ) (es : List (Event γ)) : Race γ := es.foldl step r

end Race

end Tether
