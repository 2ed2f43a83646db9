import Tether.Shell.Pump
import Tether.Shell.Terminal

/-! A shell session with a scripted terminal and a scripted channel on a virtual clock of
milliseconds. -/

namespace Tether.Shell

open Wire

/-- Calls that can be told to fail. -/
inductive Failing where
  | spawn
  | reader
  | write
  | resize
  | kill
  | wait
  deriving DecidableEq, Repr

def Failing.name : Failing → String
  | .spawn => "spawn"
  | .reader => "reader"
  | .write => "write"
  | .resize => "resize"
  | .kill => "kill"
  | .wait => "wait"

/-- Why a call fails that was told to. -/
def Failing.causes (f : Failing) : Causes :=
  ⟨"mock " ++ f.name ++ " failed", [f.name ++ " broke"]⟩

structure Timeline where
  terminal : Terminal
  /-- Milliseconds before the first send. -/
  startupDelay : Nat
  flag : CancelState
  pump : Option Pump
  /-- Milliseconds since the start. -/
  now : Nat
  /-- When the pump's sleep ends. -/
  wakeAt : Nat
  /-- Calls that fail. -/
  failing : List Failing
  failSends : Bool
  panicSends : Bool
  /-- How the plugin last ended. -/
  result : Option (PluginResult ShellExit)
  /-- Calls on the terminal, the last first. -/
  calls : List Call
  /-- Data that the channel took, the last first. -/
  sent : List (List UInt8)
  /-- Sends tried so far. -/
  sends : Nat

namespace Timeline

def start (rate : SendRate) (startupDelay : Nat) : Timeline where
  terminal := .start rate
  startupDelay := startupDelay
  flag := .running
  pump := none
  now := 0
  wakeAt := 0
  failing := []
  failSends := false
  panicSends := false
  result := none
  calls := []
  sent := []
  sends := 0

def answerOf (t : Timeline) (f : Failing) : Except Causes Unit :=
  if f ∈ t.failing then .error f.causes else .ok ()

def log (t : Timeline) (calls : List Call) : Timeline :=
  { t with calls := calls.reverse ++ t.calls }

/-- What the channel makes of data: empty data always goes through. -/
def channelAnswer (t : Timeline) (data : List UInt8) : SendAnswer :=
  if data = [] then .sent
  else if t.panicSends then .panicked "send exploded"
  else if t.failSends then .refused (.framing "refused")
  else .sent

/-- Ends the plugin with a result. -/
def finish (t : Timeline) (result : PluginResult ShellExit) : Timeline :=
  let (terminal, calls) := t.terminal.remove
  { t with terminal := terminal, pump := none, result := some result }.log calls

/-- Ends the plugin if the flag is set or the pump is done. -/
def look (t : Timeline) : Timeline :=
  match t.pump with
  | none => t
  | some p =>
    match (⟨t.flag, p.ended?, none⟩ : Race ShellExit).look true with
    | some result => t.finish result
    | none => t

/-- One turn of a pump that is awake, if it has something to send. -/
def turn? (t : Timeline) : Option Timeline :=
  match t.pump with
  | none => none
  | some p =>
    match p.offer? with
    | none => none
    | some data =>
      let answer := t.channelAnswer data
      let after : Timeline := { t with
        pump := some (p.turn answer)
        sent := if answer = SendAnswer.sent then data :: t.sent else t.sent
        sends := t.sends + 1
        wakeAt := t.now + t.terminal.flow.interval }
      some after.look

/-- Lets the pump run while its sleeps end by the given time, for at most `fuel` turns. -/
def pumpUntil (limit : Option Nat) : Nat → Timeline → Timeline
  | 0, t => t
  | fuel + 1, t =>
    match t.pump with
    | none => t
    | some p =>
      match p.phase with
      | .asleep =>
        if limit.all (t.wakeAt ≤ ·) then
          pumpUntil limit fuel { t with pump := some p.wake, now := max t.now t.wakeAt }
        else t
      | _ =>
        match t.turn? with
        | some t => pumpUntil limit fuel t
        | none => t

/-- Turns that a pump may still take: two for each chunk, and some for the end. -/
def turnsLeft (t : Timeline) : Nat := t.pump.elim 0 fun p => 2 * p.chunks.length + 5

/-- Lets the pump run until it waits for more. -/
def drain (t : Timeline) : Timeline := pumpUntil none t.turnsLeft t

/-- Moves the clock. -/
def advance (t : Timeline) (ms : Nat) : Timeline :=
  let target := t.now + ms
  let t := pumpUntil (some target) t.turnsLeft t
  { t with now := max t.now target }

/-- An inbound frame. -/
def frame (t : Timeline) (m : Message) : Except Causes Unit × Timeline :=
  let answer := match m.kind with
    | .input => t.answerOf .write
    | _ => t.answerOf .resize
  let (result, terminal, calls) := t.terminal.handle m answer
  (result, { t with terminal := terminal }.log calls)

/-- Starts the plugin under a new flag. With `hold` the startup delay is left to the clock. -/
def execute (t : Timeline) (flag : CancelState) (hold : Bool) : Timeline :=
  let (started, calls) := startCalls (t.answerOf .spawn) (t.answerOf .reader)
  let t := { t with flag := flag }.log calls
  match started with
  | .failed causes => { t with result := some (.openPtyFailed, some (.openPty causes.joined)) }
  | .ready =>
    let (terminal, calls) := t.terminal.install
    let t := { t with
      terminal := terminal
      pump := some .start
      wakeAt := t.now + t.startupDelay }.log calls
    let t := t.look
    if hold then t else t.drain

/-- Reads of at most `size` bytes, for at most `fuel` of them. -/
def reads (size : Nat) : Nat → List UInt8 → List (List UInt8)
  | 0, _ => []
  | fuel + 1, bs => if bs = [] then [] else bs.take size :: reads size fuel (bs.drop size)

/-- The reader gets results. -/
def feed (t : Timeline) (results : List ReadResult) : Timeline :=
  { t with pump := t.pump.map fun p => results.foldl Pump.read p }

/-- The process writes. With `hold` the chunks wait for the clock. -/
def output (t : Timeline) (bytes : List UInt8) (hold : Bool) : Timeline :=
  let chunks := reads t.terminal.flow.packet bytes.length bytes
  let t := t.feed (chunks.map .chunk)
  if hold then t else t.drain

/-- The output ends. -/
def endOutput (t : Timeline) : Timeline := (t.feed [.ended]).drain

/-- Someone sets the cancel flag. -/
def cancel (t : Timeline) (next : CancelState) : Bool × Timeline :=
  let (moved, flag) := t.flag.set next
  (moved, { t with flag := flag }.look)

/-- Forgets the calls and sends so far. -/
def clear (t : Timeline) : Timeline := { t with calls := [], sent := [], sends := 0 }

end Timeline

end Tether.Shell
