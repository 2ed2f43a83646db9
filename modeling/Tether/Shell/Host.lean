import Tether.Job.Ending
import Tether.Shell.Relay
import Tether.Shell.Terminal

/-! The plugin of a shell session: it starts a process, pumps what the process writes into the
session, and ends with its pump or with the cancel flag. -/

namespace Tether.Shell

/-- The task of the pump panics, unless it is over. -/
def Pump.panic (text : String) (p : Pump) : Pump :=
  match p.phase with
  | .finished _ => p
  | _ => { p with phase := .finished (.panicked text) }

structure Host where
  /-- The pump, while it runs. -/
  pump : Option Pump
  flag : CancelState
  result : Option (PluginResult ShellExit)

namespace Host

def start : Host := ⟨none, .running, none⟩

inductive Event where
  /-- What becomes of the process that the plugin starts. -/
  | started (s : Started)
  /-- The reader gets a result. -/
  | read (result : ReadResult)
  /-- The pump's sleep is over. -/
  | woken
  /-- The pump sends what it has, if it is ready. -/
  | sends
  /-- The pump hears what its call came to. -/
  | hears
  /-- Someone sets the flag. -/
  | cancelled (next : CancelState)
  /-- The plugin looks at the flag and at the pump. -/
  | looked (flagFirst : Bool)

def step (h : Host) (o : Session.Outlet) : Event → Host × Session.Outlet
  | .started s =>
    match h.pump, h.result, s with
    | none, none, .failed causes =>
      ({ h with result := some (.openPtyFailed, some (.openPty causes.joined)) }, o)
    | none, none, .ready => ({ h with pump := some .start }, o)
    | _, _, _ => (h, o)
  | .read result =>
    -- A read gives no more than the buffer holds.
    if result.bytes.length ≤ Flow.shellPacket then
      ({ h with pump := h.pump.map (·.read result) }, o)
    else (h, o)
  | .woken => ({ h with pump := h.pump.map Pump.wake }, o)
  | .sends =>
    match h.pump.bind Pump.offer?, o.pending with
    | some data, none => (h, o.send data)
    | _, _ => (h, o)
  | .hears =>
    match o.result? with
    | some result => ({ h with pump := h.pump.map (·.turn (.ofResult result)) }, o.settle)
    | none => (h, o)
  | .cancelled next => ({ h with flag := (h.flag.set next).2 }, o)
  | .looked flagFirst =>
    match h.pump with
    | some p =>
      match (⟨h.flag, p.ended?, none⟩ : Race ShellExit).look flagFirst with
      | some result => ({ h with pump := none, result := some result }, o)
      | none => (h, o)
    | none => (h, o)

/-- The plugin as its job runs it. -/
def plugin : Plugin Host Event where
  start := start
  step := step
  code? h := h.result.map (·.1.text)

/-- The race of the pump against the flag, until it is decided. -/
def race? (h : Host) : Option (Race ShellExit) := h.pump.map fun p => ⟨h.flag, p.ended?, none⟩

/-- Whether an event is none of setting the flag. -/
def admits (_ : Host) : Event → Bool
  | .cancelled _ => false
  | _ => true

def racer : Racer Host Event ShellExit where
  toPlugin := plugin
  flag := flag
  race? := race?
  result? := result
  told := .cancelled
  looks := .looked
  admits := admits
  panic text h := { h with pump := h.pump.map (·.panic text) }

end Host

end Tether.Shell
