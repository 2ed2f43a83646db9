import Tether.Plugin.Race
import Tether.Plugin.SendAnswer
import Tether.Text.Reassembler

/-! The pump of a shell session. A reader thread hands over what the process writes, chunk by
chunk; the pump sends each chunk, cut between characters, and sleeps between two sends. -/

namespace Tether.Shell

open Text

/-- What a read from the process gives. -/
inductive ReadResult where
  /-- At least one byte. -/
  | chunk (bytes : List UInt8)
  /-- Nothing yet; the reader tries again. -/
  | interrupted
  /-- The output is over, or reading failed; both end it. -/
  | ended
  deriving DecidableEq, Repr

namespace Pump

inductive Phase where
  /-- Before the first send, or between two. -/
  | asleep
  /-- Awaits the next chunk. -/
  | waiting
  | finished (how : PumpEnd ShellExit)
  deriving DecidableEq, Repr

end Pump

structure Pump where
  phase : Pump.Phase
  utf8 : Reassembler
  /-- Chunks read and not yet taken. -/
  chunks : List (List UInt8)
  /-- The reader has seen the end. -/
  readerDone : Bool
  deriving DecidableEq, Repr

namespace Pump

def start : Pump := ⟨.asleep, .empty, [], false⟩

/-- The reader gets a result. After the end it gets none. -/
def read (p : Pump) : ReadResult → Pump
  | .chunk bytes =>
    if p.readerDone ∨ bytes = [] then p else { p with chunks := p.chunks ++ [bytes] }
  | .interrupted => p
  | .ended => { p with readerDone := true }

/-- The sleep is over. -/
def wake (p : Pump) : Pump :=
  match p.phase with
  | .asleep => { p with phase := .waiting }
  | _ => p

/-- The data to send next, if the pump is ready for it: the next chunk, or at the end what was
held back. Empty data is sent too. -/
def offer? (p : Pump) : Option (List UInt8) :=
  match p.phase, p.chunks with
  | .waiting, c :: _ => some (p.utf8.push c).1
  | .waiting, [] => if p.readerDone then some p.utf8.flush.1 else none
  | _, _ => none

/-- How a failed send ends the pump. -/
def failure? : SendAnswer → Option (PumpEnd ShellExit)
  | .sent => none
  | .refused cause =>
    some (.returned (.processDataError, some (.processData cause.message)))
  | .panicked text => some (.panicked text)

/-- Sends what `offer?` offers and goes on after the answer. -/
def turn (p : Pump) (answer : SendAnswer) : Pump :=
  match p.phase, p.chunks with
  | .waiting, c :: chunks =>
    let p := { p with chunks := chunks, utf8 := (p.utf8.push c).2 }
    match failure? answer with
    | some e => { p with phase := .finished e }
    | none => { p with phase := .asleep }
  | .waiting, [] =>
    if p.readerDone then
      let p := { p with utf8 := p.utf8.flush.2 }
      match failure? answer with
      | some e => { p with phase := .finished e }
      | none => { p with phase := .finished (.returned (.ok, none)) }
    else p
  | _, _ => p

/-- How the pump ended. -/
def ended? (p : Pump) : Option (PumpEnd ShellExit) :=
  match p.phase with
  | .finished e => some e
  | _ => none

end Pump

end Tether.Shell
