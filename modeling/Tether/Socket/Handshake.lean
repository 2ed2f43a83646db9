import Tether.Fault
import Tether.Settings.Basic
import Tether.Text.Header
import Tether.Url.Parts

/-! The handshake of a socket channel: where it is dialed and what its request says. -/

namespace Tether.Socket

structure Config where
  url : String
  userAgent : String
  /-- Time between keepalive pings. -/
  pingInterval : Duration
  /-- Failed reads in a row after which a connection is given up. -/
  readErrorLimit : Nat
  deriving DecidableEq, Repr

namespace Config

/-- Shortest time between pings. -/
def minPingInterval : Duration := .ofSeconds 1

def clampPing (d : Duration) : Duration := if d.nanos < minPingInterval.nanos then minPingInterval else d

def ofSettings (url : String) (s : Settings) : Config where
  url := url
  userAgent := s.userAgent
  pingInterval := clampPing s.channel.pingInterval
  readErrorLimit := max 1 s.channel.readErrorLimit.toNat

/-- Whether the address can be dialed at all: it names a host. -/
def isDialable (c : Config) : Bool := (Url.Parts.ofText? c.url).isSome

end Config

/-- What a handshake asks for. -/
structure Request where
  /-- Path and query. -/
  target : List UInt8
  /-- Header lines under names in lower case, each name once. -/
  headers : List (String × String)
  deriving DecidableEq, Repr

namespace Request

/-- Sets a header; a name that is there already gets the new value. -/
def set (r : Request) (name value : String) : Request :=
  let name := Text.Header.fold name
  if r.headers.any (·.1 = name) then
    { r with headers := r.headers.map fun h => if h.1 = name then (name, value) else h }
  else { r with headers := r.headers ++ [(name, value)] }

/-- Sets the extra headers in order; one that is not allowed in a header line spoils it all. -/
def setAll (r : Request) : Headers → Option Request
  | [] => some r
  | (name, value) :: rest =>
    if Text.Header.isName name && Text.Header.isValue value then (r.set name value).setAll rest
    else none

/-- The request of a handshake, if everything in it is allowed. -/
def build? (c : Config) (extra : Headers) : Option Request :=
  (Url.Parts.ofText? c.url).bind fun parts =>
    if Text.Header.isValue c.userAgent then
      let target := if parts.target = [] then [0x2F] else parts.target
      (Request.mk target []).set "user-agent" c.userAgent |>.setAll extra
    else none

end Request

/-- How an address is dialed. -/
inductive Transport where
  | plain
  | secured
  deriving DecidableEq, Repr

/-- The transport for an address; other schemes have none. -/
def Transport.ofUrl? (url : String) : Option Transport :=
  (Url.Parts.ofText? url).bind fun parts =>
    if parts.scheme = some (Text.Utf8.encode "ws") then some .plain
    else if parts.scheme = some (Text.Utf8.encode "wss") then some .secured
    else none

end Tether.Socket
