import Tether.Fault
import Tether.Socket.Handshake

/-! A socket channel as its owner sees it: open or closed, with at most one connection in use.
Each connection has a read loop and a ping loop, which are told to end when it is let go of. -/

namespace Tether.Socket

structure Channel where
  active : Bool
  /-- The connection in use; connections are numbered from 0. -/
  connection : Option Nat
  /-- Connections made so far. -/
  connections : Nat
  /-- Connections whose read and ping loops have not been told to end. -/
  loops : List Nat
  deriving DecidableEq, Repr

inductive Farewell where
  | done
  /-- The connection has been closed before, which is as good. -/
  | closedBefore
  | failed (reason : String)
  deriving DecidableEq, Repr

def Farewell.answer : Farewell → Except ChannelFault Unit
  | done | closedBefore => .ok ()
  | failed reason => .error (.close reason)

namespace Channel

def closed : Channel := ⟨false, none, 0, []⟩

/-- What is asked of a channel, and what the world answers to it. -/
inductive Call where
  /-- Opens with these extra headers. A request that is not allowed is refused in these words,
  else the peer is dialed. -/
  | opens (extra : Headers) (refusal : String) (dial : Except String Unit)
  | closes (answer : Farewell)
  | sends (data : List UInt8) (answer : Except String Unit)
  /-- The ping loop of a connection pings. -/
  | pings (loop : Nat) (answer : Except String Unit) (closing : Farewell)
  deriving Repr

inductive Written where
  | handshake (connection : Nat) (r : Request)
  /-- Data as one binary frame. -/
  | data (connection : Nat) (bytes : List UInt8)
  | ping (connection : Nat)
  /-- A close frame. -/
  | goodbye (connection : Nat)
  deriving DecidableEq, Repr

/-- A new connection takes the place of the one in use, whose loops end. -/
def connect (c : Channel) : Channel where
  active := true
  connection := some c.connections
  connections := c.connections + 1
  loops := c.loops.filter (some · ≠ c.connection) ++ [c.connections]

/-- Dials with a request that is allowed; a dial that fails leaves the channel as it is. -/
def openWith (config : Config) (c : Channel) (extra : Headers) (refusal : String)
    (dial : Except String Unit) : Except ChannelFault Unit × Channel × List Written :=
  match Request.build? config extra, dial with
  | none, _ => (.error (.connect config.url refusal), c, [])
  | some _, .error reason => (.error (.connect config.url reason), c, [])
  | some request, .ok () => (.ok (), c.connect, [.handshake c.connections request])

/-- Lets go of the connection in use, if the channel is open. -/
def close (c : Channel) (answer : Farewell) :
    Except ChannelFault Unit × Channel × List Written :=
  if c.active then
    match c.connection with
    | none => (.ok (), { c with active := false }, [])
    | some connection =>
      (answer.answer,
        { c with
          active := false
          connection := none
          loops := c.loops.filter (· ≠ connection) },
        [.goodbye connection])
  else (.ok (), c, [])

def write (c : Channel) (what : Nat → Written) (answer : Except String Unit) :
    Except ChannelFault Unit × List Written :=
  match c.connection with
  | none => (.error .closed, [])
  | some connection => (answer.mapError .send, [what connection])

def send (c : Channel) (data : List UInt8) (answer : Except String Unit) :
    Except ChannelFault Unit × Channel × List Written :=
  if ¬ c.active then (.error .closed, c, [])
  else if data = [] then (.error .emptyInput, c, [])
  else
    let (result, written) := c.write (.data · data) answer
    (result, c, written)

/-- A ping that fails closes the channel. -/
def ping (c : Channel) (loop : Nat) (answer : Except String Unit) (closing : Farewell) :
    Except ChannelFault Unit × Channel × List Written :=
  if loop ∈ c.loops then
    match c.write .ping answer with
    | (.ok (), written) => (.ok (), c, written)
    | (.error fault, written) =>
      let (_, c, more) := c.close closing
      (.error fault, c, written ++ more)
  else (.ok (), c, [])

/-- One call: its answer, the channel after it, and what it writes. -/
def step (config : Config) (c : Channel) : Call → Except ChannelFault Unit × Channel × List Written
  | .opens extra refusal dial => c.openWith config extra refusal dial
  | .closes answer => c.close answer
  | .sends data answer => c.send data answer
  | .pings loop answer closing => c.ping loop answer closing

/-- Runs calls one after another, keeping their answers and what they write. -/
def run (config : Config) (c : Channel) :
    List Call → Channel × List (Except ChannelFault Unit) × List Written
  | [] => (c, [], [])
  | call :: calls =>
    let (answer, c', written) := c.step config call
    let (c'', answers, more) := run config c' calls
    (c'', answer :: answers, written ++ more)

theorem run_append (config : Config) (c : Channel) (es fs : List Call) :
    c.run config (es ++ fs) =
      (((c.run config es).1.run config fs).1,
        (c.run config es).2.1 ++ ((c.run config es).1.run config fs).2.1,
        (c.run config es).2.2 ++ ((c.run config es).1.run config fs).2.2) := by
  induction es generalizing c with
  | nil => rfl
  | cons e es ih => simp [run, ih, List.append_assoc]

/-! ### Histories -/

def Call.connects (config : Config) : Call → Bool
  | .opens extra _ (.ok ()) => (Request.build? config extra).isSome
  | _ => false

def Call.isClose : Call → Bool
  | .closes _ => true
  | _ => false

/-- Connection `k` was made by the last successful opening, and no close followed that. -/
def InUse (config : Config) (calls : List Call) (k : Nat) : Prop :=
  ∃ before call after, calls = before ++ call :: after ∧ call.connects config = true ∧
    before.countP (Call.connects config) = k ∧
    ∀ later ∈ after, later.connects config = false ∧ later.isClose = false

end Channel

end Tether.Socket
