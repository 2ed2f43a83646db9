import Tether.Fault
import Tether.Flow
import Tether.Wire.Message
import Tether.Wire.TerminalSize

/-! The terminal of a shell session as inbound frames see it: there is a process to write to
and to resize, or there is none yet or any more. A size that comes too early is remembered. -/

namespace Tether.Shell

open Wire

/-- What is asked of a terminal. -/
inductive Call where
  /-- Starts the process. -/
  | spawn
  /-- Takes the reading end of the process. -/
  | takeReader
  | write (bytes : List UInt8)
  | resize (size : TerminalSize)
  | kill
  | wait
  deriving DecidableEq, Repr

structure Terminal where
  flow : Flow
  /-- Whether a process is there for frames to reach. -/
  installed : Bool
  /-- The size to give to the next process. -/
  pending : Option TerminalSize
  deriving DecidableEq, Repr

namespace Terminal

def start (rate : SendRate) : Terminal := ⟨.start Flow.shellPacket rate, false, none⟩

/-- Asks the process for something, if there is one, and passes on its answer. -/
def ask (t : Terminal) (call : Call) (answer : Except Causes Unit) :
    Except Causes Unit × List Call :=
  if t.installed then (answer, [call]) else (.ok (), [])

/-- Handles one inbound frame; `answer` is what the process says if it is asked. -/
def handle (t : Terminal) (m : Message) (answer : Except Causes Unit) :
    Except Causes Unit × Terminal × List Call :=
  match m.kind with
  | .input =>
    let (result, calls) := t.ask (.write m.payload) answer
    (result, t, calls)
  | .setSize =>
    match TerminalSize.ofPayload m.payload with
    | .error e => (.error ⟨"Invalid SetSize payload", [e.message]⟩, t, [])
    | .ok size =>
      let (result, calls) := t.ask (.resize size) answer
      (result, if t.installed then t else { t with pending := some size }, calls)
  | .status => (.ok (), { t with flow := t.flow.applyStatus m.payload }, [])
  | _ => (.ok (), t, [])

/-- Puts a process in place, giving it the remembered size. -/
def install (t : Terminal) : Terminal × List Call :=
  ({ t with installed := true, pending := none }, (t.pending.map Call.resize).toList)

/-- Takes the process away, and ends it: it is killed and then waited for, however the killing
went. -/
def remove (t : Terminal) : Terminal × List Call :=
  if t.installed then ({ t with installed := false }, [.kill, .wait]) else (t, [])

end Terminal

/-- What becomes of a try to start a process. -/
inductive Started where
  /-- The process could not be started, or its reading end could not be taken. -/
  | failed (causes : Causes)
  | ready
  deriving DecidableEq, Repr

/-- Starts a process and takes its reading end; both may fail. -/
def startCalls (spawn takeReader : Except Causes Unit) : Started × List Call :=
  match spawn with
  | .error e => (.failed e, [.spawn])
  | .ok () =>
    match takeReader with
    | .error e => (.failed e, [.spawn, .takeReader])
    | .ok () => (.ready, [.spawn, .takeReader])

/-- A shell session: the terminal, and how far starting the process has come. -/
structure Run where
  terminal : Terminal
  /-- A process has been started and is not in place yet. -/
  starting : Bool
  deriving DecidableEq, Repr

namespace Run

inductive Event where
  /-- An inbound frame is handled. -/
  | frame (m : Message) (answer : Except Causes Unit)
  /-- The process is started. -/
  | started (spawn takeReader : Except Causes Unit)
  /-- The process is put in place. -/
  | installed
  /-- The process is taken away. -/
  | removed

def step (r : Run) : Event → Run × List Call
  | .frame m answer =>
    let (_, t, calls) := r.terminal.handle m answer
    ({ r with terminal := t }, calls)
  | .started spawn takeReader =>
    if r.starting ∨ r.terminal.installed then (r, [])
    else
      let (result, calls) := startCalls spawn takeReader
      ({ r with starting := result = .ready }, calls)
  | .installed =>
    if r.starting then
      let (t, calls) := r.terminal.install
      (⟨t, false⟩, calls)
    else (r, [])
  | .removed =>
    let (t, calls) := r.terminal.remove
    ({ r with terminal := t }, calls)

/-- Runs events one after another, keeping the calls on the process. -/
def run (r : Run) : List Event → Run × List Call
  | [] => (r, [])
  | e :: es =>
    let (r', calls) := r.step e
    let (r'', more) := run r' es
    (r'', calls ++ more)

theorem run_append (r : Run) (es fs : List Event) :
    r.run (es ++ fs) =
      (((r.run es).1.run fs).1, (r.run es).2 ++ ((r.run es).1.run fs).2) := by
  induction es generalizing r with
  | nil => rfl
  | cons e es ih => simp [run, ih, List.append_assoc]

end Run

end Tether.Shell
