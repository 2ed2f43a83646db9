import Tether.Backoff
import Tether.Provider
import Tether.Rate
import Tether.Text.Utf8
import Tether.Wire.Message

/-! The agent's settings, their defaults, and the rules they have to keep. -/

namespace Tether

/-- Settings of the connection to the session service. -/
structure ChannelSettings where
  /-- Time between keepalive pings. -/
  pingInterval : Duration
  /-- Failed reads in a row after which a connection is given up. -/
  readErrorLimit : UInt32
  deriving DecidableEq, Repr

structure SessionSettings where
  /-- Silence after which a session is cancelled. -/
  idleTimeout : Duration
  /-- Schema version of outbound frames. -/
  schema : String
  /-- Longest life of a session. -/
  maxDuration : Duration
  /-- Pause between opening the channel and starting the plugin. -/
  startDelay : Duration
  deriving DecidableEq, Repr

structure FlowSettings where
  /-- Send rate in kilobits a second where none is negotiated. -/
  kbps : UInt64
  deriving DecidableEq, Repr

structure ShellSettings where
  /-- Program to run where none is asked for. -/
  defaultShell : Option String
  /-- Environment of every shell, as name and value. -/
  defaultEnv : List (String × String)
  deriving DecidableEq, Repr

structure PortSettings where
  defaultHost : String
  deriving DecidableEq, Repr

structure Settings where
  userAgent : String
  extraHeaders : Headers
  /-- Where outcomes are reported; without it they are only logged. -/
  statusUrl : Option String
  channel : ChannelSettings
  session : SessionSettings
  reconnect : Backoff
  flow : FlowSettings
  shell : ShellSettings
  port : PortSettings

def ChannelSettings.standard : ChannelSettings := ⟨.ofSeconds 60, 10⟩

def SessionSettings.standard : SessionSettings :=
  ⟨.ofSeconds 180, Wire.defaultSchema, .ofSeconds 10800, .ofSeconds 1⟩

def FlowSettings.standard : FlowSettings := ⟨SendRate.defaultKbps⟩

/-- The send rate where none is negotiated. -/
def FlowSettings.rate (f : FlowSettings) : SendRate := .ofKbps f.kbps

def ShellSettings.standard : ShellSettings := ⟨none, [("TERM", "xterm-256color")]⟩

def PortSettings.standard : PortSettings := ⟨"localhost"⟩

namespace Settings

def standard : Settings where
  userAgent := "session-agent/0.1.0"
  extraHeaders := []
  statusUrl := none
  channel := .standard
  session := .standard
  reconnect := .standard
  flow := .standard
  shell := .standard
  port := .standard

/-- Settings that make no sense, in the order in which they are looked for. -/
inductive Flaw where
  | backoff (flaw : Backoff.Flaw)
  | pingInterval
  | readErrorLimit
  | idleTimeout
  | schemaWidth

def Flaw.message : Flaw → String
  | .backoff flaw => flaw.message
  | .pingInterval => "channel.ping_interval must be positive"
  | .readErrorLimit => "channel.read_error_limit must be at least 1"
  | .idleTimeout => "session.idle_timeout must be positive"
  | .schemaWidth => "session.schema_version must fit in 4 bytes"

def validate (s : Settings) : Except Flaw Unit :=
  match s.reconnect.validate with
  | .error flaw => .error (.backoff flaw)
  | .ok () =>
    if s.channel.pingInterval.nanos = 0 then .error .pingInterval
    else if s.channel.readErrorLimit = 0 then .error .readErrorLimit
    else if s.session.idleTimeout.nanos = 0 then .error .idleTimeout
    else if Text.Utf8.width s.session.schema > 4 then .error .schemaWidth
    else .ok ()

end Settings

end Tether
