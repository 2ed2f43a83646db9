import Tether.Settings.Basic
import Tether.Toml.Value

/-! Settings as TOML trees. Every key may be missing and then has its default; keys that mean
nothing are passed over. A section may also be an array of its values in order. -/

namespace Tether

open Toml

namespace Settings

/-- Largest whole number that TOML can hold. -/
def tomlMax : Nat := UInt64.size / 2 - 1

/-- A count of whole seconds. -/
def seconds? (v : Value) : Option Duration := (v.natural? tomlMax).map .ofSeconds

/-- A count of whole milliseconds. -/
def millis? (v : Value) : Option Duration := (v.natural? tomlMax).map .ofMillis

def word32? (v : Value) : Option UInt32 := (v.natural? (UInt32.size - 1)).map UInt32.ofNat

def word64? (v : Value) : Option UInt64 := (v.natural? tomlMax).map UInt64.ofNat

/-- A whole number, if TOML can hold it. -/
def ofNat? (n : Nat) : Option Value := if n ≤ tomlMax then some (.integer n) else none

def ofPairs (pairs : List (String × String)) : Value :=
  .array (pairs.map fun (a, b) => .array [.text a, .text b])

end Settings

open Settings Value

namespace ChannelSettings

def names : List String := ["ping_interval", "read_error_limit"]

def ofToml? (v : Value) : Option ChannelSettings := do
  let get ← v.members? names
  return {
    pingInterval := ← orDefault seconds? standard.pingInterval (get "ping_interval")
    readErrorLimit := ← orDefault word32? standard.readErrorLimit (get "read_error_limit") }

def toToml? (c : ChannelSettings) : Option Value := do
  return .table [
    ("ping_interval", ← ofNat? c.pingInterval.seconds),
    ("read_error_limit", ← ofNat? c.readErrorLimit.toNat)]

end ChannelSettings

namespace SessionSettings

def names : List String := ["idle_timeout", "schema_version", "max_duration", "start_delay"]

def ofToml? (v : Value) : Option SessionSettings := do
  let get ← v.members? names
  return {
    idleTimeout := ← orDefault seconds? standard.idleTimeout (get "idle_timeout")
    schema := ← orDefault text? standard.schema (get "schema_version")
    maxDuration := ← orDefault seconds? standard.maxDuration (get "max_duration")
    startDelay := ← orDefault millis? standard.startDelay (get "start_delay") }

def toToml? (s : SessionSettings) : Option Value := do
  return .table [
    ("idle_timeout", ← ofNat? s.idleTimeout.seconds),
    ("schema_version", .text s.schema),
    ("max_duration", ← ofNat? s.maxDuration.seconds),
    ("start_delay", ← ofNat? (s.startDelay.millis % UInt64.size))]

end SessionSettings

namespace Backoff

def names : List String := ["initial", "max", "multiplier", "jitter", "max_attempts"]

def ofToml? (v : Value) : Option Backoff := do
  let get ← v.members? names
  return {
    initial := ← orDefault millis? standard.initial (get "initial")
    max := ← orDefault millis? standard.max (get "max")
    multiplier := ← orDefault real? standard.multiplier (get "multiplier")
    jitter := ← orDefault real? standard.jitter (get "jitter")
    maxAttempts := ← orDefault word32? standard.maxAttempts (get "max_attempts") }

def toToml? (b : Backoff) : Option Value := do
  return .table [
    ("initial", ← ofNat? (b.initial.millis % UInt64.size)),
    ("max", ← ofNat? (b.max.millis % UInt64.size)),
    ("multiplier", .real b.multiplier),
    ("jitter", .real b.jitter),
    ("max_attempts", ← ofNat? b.maxAttempts.toNat)]

end Backoff

namespace FlowSettings

def ofToml? (v : Value) : Option FlowSettings := do
  let get ← v.members? ["default_send_speed_kbps"]
  return { kbps := ← orDefault word64? standard.kbps (get "default_send_speed_kbps") }

def toToml? (f : FlowSettings) : Option Value := do
  return .table [("default_send_speed_kbps", ← ofNat? f.kbps.toNat)]

end FlowSettings

namespace ShellSettings

def names : List String := ["default_shell", "default_env"]

def ofToml? (v : Value) : Option ShellSettings := do
  let get ← v.members? names
  return {
    defaultShell := ← orDefault (fun v => v.text?.map some) standard.defaultShell
      (get "default_shell")
    defaultEnv := ← orDefault textPairs? standard.defaultEnv (get "default_env") }

def toToml (s : ShellSettings) : Value :=
  .table ((s.defaultShell.map fun shell => ("default_shell", Value.text shell)).toList
    ++ [("default_env", ofPairs s.defaultEnv)])

end ShellSettings

namespace PortSettings

def ofToml? (v : Value) : Option PortSettings := do
  let get ← v.members? ["default_host"]
  return { defaultHost := ← orDefault text? standard.defaultHost (get "default_host") }

def toToml (p : PortSettings) : Value := .table [("default_host", .text p.defaultHost)]

end PortSettings

namespace Settings

/-- Reads settings from the table of a document. -/
def ofToml? (t : Table) : Option Settings := do
  return {
    userAgent := ← orDefault text? standard.userAgent (t.lookup "user_agent")
    extraHeaders := ← orDefault textPairs? standard.extraHeaders (t.lookup "extra_headers")
    statusUrl := ← orDefault (fun v => v.text?.map some) standard.statusUrl
      (t.lookup "status_url")
    channel := ← orDefault ChannelSettings.ofToml? .standard (t.lookup "channel")
    session := ← orDefault SessionSettings.ofToml? .standard (t.lookup "session")
    reconnect := ← orDefault Backoff.ofToml? .standard (t.lookup "reconnect")
    flow := ← orDefault FlowSettings.ofToml? .standard (t.lookup "flow")
    shell := ← orDefault ShellSettings.ofToml? .standard (t.lookup "shell")
    port := ← orDefault PortSettings.ofToml? .standard (t.lookup "port") }

/-- The table of a document; none if a whole number is too large for TOML. -/
def toToml? (s : Settings) : Option Table := do
  let channel ← s.channel.toToml?
  let session ← s.session.toToml?
  let reconnect ← s.reconnect.toToml?
  let flow ← s.flow.toToml?
  return [("user_agent", .text s.userAgent), ("extra_headers", ofPairs s.extraHeaders)]
    ++ (s.statusUrl.map fun url => ("status_url", Value.text url)).toList
    ++ [("channel", channel), ("session", session), ("reconnect", reconnect), ("flow", flow),
      ("shell", s.shell.toToml), ("port", s.port.toToml)]

end Settings

end Tether
