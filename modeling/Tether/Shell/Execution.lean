import Tether.Shell.Host

/-! The executions of a shell plugin, one after another, and what each of them asks of its
backend and of its process. An execution is cut where it awaits an answer or the lock on the
terminal; frames, reads, sends and cancellations come in between. The process belongs to the
execution until it is installed, then to the terminal, and at the end to the execution again. -/

namespace Tether.Shell

open Wire

/-- A call and what it came to. -/
structure Asked where
  call : Call
  answer : Except Causes Unit
  deriving Repr

/-- The result of an execution that cannot start its process. -/
def unopened (causes : Causes) : PluginResult ShellExit :=
  (.openPtyFailed, some (.openPty causes.joined))

/-- An execution that has returned. -/
structure Finished where
  result : PluginResult ShellExit
  asked : List Asked
  deriving Repr

namespace Execution

inductive Stage where
  | idle
  /-- Awaits a process. -/
  | spawning
  /-- Has a process and awaits its reading end. -/
  | opening
  /-- Has both and awaits the lock. -/
  | installing
  | racing (pump : Pump)
  /-- The race is decided. -/
  | ending (result : PluginResult ShellExit)
  /-- Has taken the process away from the terminal; `left` is what is still to be asked of it. -/
  | cleaning (result : PluginResult ShellExit) (left : List Call)

inductive Event where
  | executed (flag : CancelState)
  | spawned (answer : Except Causes Unit)
  /-- The reading end is taken. -/
  | opened (answer : Except Causes Unit)
  /-- The process is put in place; the answer is to the size it gets, if one was remembered. -/
  | installed (answer : Except Causes Unit)
  | frame (m : Message) (answer : Except Causes Unit)
  | read (result : ReadResult)
  | woken
  /-- The pump sends what it has, if it is ready. -/
  | sent (answer : SendAnswer)
  | panicked (text : String)
  | cancelled (next : CancelState)
  | looked (flagFirst : Bool)
  /-- The process is taken away. -/
  | removed
  /-- The next call of the cleanup is answered. -/
  | cleaned (answer : Except Causes Unit)

end Execution

/-- A plugin and the execution under way, if there is one. -/
structure Execution where
  terminal : Terminal
  flag : CancelState
  stage : Execution.Stage
  /-- What the execution under way has asked for. -/
  asked : List Asked
  finished : List Finished

namespace Execution

def start (rate : SendRate) : Execution := ⟨.start rate, .running, .idle, [], []⟩

def note (x : Execution) (calls : List Call) (answer : Except Causes Unit) : Execution :=
  { x with asked := x.asked ++ calls.map (⟨·, answer⟩) }

def finish (x : Execution) (result : PluginResult ShellExit) : Execution :=
  { x with stage := .idle, asked := [], finished := x.finished ++ [⟨result, x.asked⟩] }

/-- Goes on to the next call of the cleanup, or returns. -/
def clean (x : Execution) (result : PluginResult ShellExit) : List Call → Execution
  | [] => x.finish result
  | left => { x with stage := .cleaning result left }

/-- Goes on if the answer is good. Otherwise the execution returns at once, and what it has is
dropped. -/
def proceed (x : Execution) (next : Stage) : Except Causes Unit → Execution
  | .ok () => { x with stage := next }
  | .error causes => x.finish (unopened causes)

/-- Something happens to the pump, while there is one. -/
def onPump (x : Execution) (f : Pump → Pump) : Execution :=
  match x.stage with
  | .racing p => { x with stage := .racing (f p) }
  | _ => x

def step (x : Execution) : Event → Execution
  | .executed flag =>
    match x.stage with
    | .idle => { x with flag := flag, stage := .spawning }
    | _ => x
  | .spawned answer =>
    match x.stage with
    | .spawning => (x.note [.spawn] answer).proceed .opening answer
    | _ => x
  | .opened answer =>
    match x.stage with
    | .opening => (x.note [.takeReader] answer).proceed .installing answer
    | _ => x
  | .installed answer =>
    match x.stage with
    | .installing =>
      let (terminal, calls) := x.terminal.install
      { x.note calls answer with terminal := terminal, stage := .racing .start }
    | _ => x
  | .frame m answer =>
    let (_, terminal, calls) := x.terminal.handle m answer
    { x.note calls answer with terminal := terminal }
  | .read result => x.onPump (·.read result)
  | .woken => x.onPump Pump.wake
  | .sent answer => x.onPump (·.turn answer)
  | .panicked text => x.onPump (·.panic text)
  | .cancelled next => { x with flag := (x.flag.set next).2 }
  | .looked flagFirst =>
    match x.stage with
    | .racing p =>
      match (⟨x.flag, p.ended?, none⟩ : Race ShellExit).look flagFirst with
      | some result => { x with stage := .ending result }
      | none => x
    | _ => x
  | .removed =>
    match x.stage with
    | .ending result =>
      let (terminal, calls) := x.terminal.remove
      { x with terminal := terminal }.clean result calls
    | _ => x
  | .cleaned answer =>
    match x.stage with
    | .cleaning result (call :: left) => (x.note [call] answer).clean result left
    | _ => x

def run (x : Execution) (es : List Event) : Execution := es.foldl step x

end Execution

end Tether.Shell
