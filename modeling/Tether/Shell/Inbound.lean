import Tether.Shell.Terminal

/-! What inbound frames mean to a terminal, whatever comes before and after them: the size that a
frame sets, what it asks of a process, and what its sender is answered. -/

namespace Tether.Shell

open Wire

/-- The size that a frame sets, if it sets one and it can be read. -/
def size? (m : Message) : Option TerminalSize :=
  if m.kind = .setSize then (TerminalSize.ofPayload m.payload).toOption else none

/-- What a frame asks of a process that is there. -/
def asked? (m : Message) : Option Call :=
  if m.kind = .input then some (.write m.payload) else (size? m).map .resize

/-- Why a frame is refused: it should set a size, and that cannot be read. -/
def refusal? (m : Message) : Option Causes :=
  match m.kind, TerminalSize.ofPayload m.payload with
  | .setSize, .error e => some ⟨"Invalid SetSize payload", [e.message]⟩
  | _, _ => none

/-- What the sender of a frame is answered: why it is refused, or else what a process that is there
and is asked says. -/
def reply (installed : Bool) (m : Message) (answer : Except Causes Unit) : Except Causes Unit :=
  match refusal? m with
  | some causes => .error causes
  | none => if installed ∧ (asked? m).isSome then answer else .ok ()

/-- The throttle after frames, of which only those with a status matter. -/
def throttle (flow : Flow) (ms : List Message) : Flow :=
  ms.foldl (fun flow m => if m.kind = .status then flow.applyStatus m.payload else flow) flow

/-- The size set last, or else the one before. -/
def lastSize (before : Option TerminalSize) (ms : List Message) : Option TerminalSize :=
  (ms.filterMap size?).getLast?.or before

namespace Run

/-- A session whose process has not been started. -/
def fresh (rate : SendRate) : Run := ⟨.start rate, false⟩

/-- What the sender of a frame is answered. -/
def result? (r : Run) : Event → Option (Except Causes Unit)
  | .frame m answer => some (r.terminal.handle m answer).1
  | _ => none

/-- What the senders of frames are answered, one after another. -/
def results (r : Run) : List Event → List (Except Causes Unit)
  | [] => []
  | e :: es => (r.result? e).toList ++ results (r.step e).1 es

end Run

end Tether.Shell
