import Tether.Json.Typed
import Tether.Json.Writer
import Tether.Settings.Basic

/-! Settings as JSON. The keys are those of the settings file, and each may be missing. -/

namespace Tether

open Json Reader

namespace Settings

def secondsReader : Reader Duration := do return .ofSeconds (← natural (UInt64.size - 1))

def millisReader : Reader Duration := do return .ofMillis (← natural (UInt64.size - 1))

def word32Reader : Reader UInt32 := do return UInt32.ofNat (← natural (UInt32.size - 1))

def word64Reader : Reader UInt64 := do return UInt64.ofNat (← natural (UInt64.size - 1))

def pairsReader : Reader (List (String × String)) := list (pair string string)

/-- A record in which nothing is required. -/
def lenient {σ : Type} (members : List (Member σ)) (standard : σ) : Reader σ :=
  record members standard some

def pairsJson (pairs : List (String × String)) : Json.Value :=
  .array (pairs.map fun (a, b) => .array [.text a, .text b])

end Settings

open Settings

def ChannelSettings.reader : Reader ChannelSettings := lenient
  [⟨"ping_interval", fun s => do return { s with pingInterval := ← secondsReader }⟩,
    ⟨"read_error_limit", fun s => do return { s with readErrorLimit := ← word32Reader }⟩]
  standard

def SessionSettings.reader : Reader SessionSettings := lenient
  [⟨"idle_timeout", fun s => do return { s with idleTimeout := ← secondsReader }⟩,
    ⟨"schema_version", fun s => do return { s with schema := ← string }⟩,
    ⟨"max_duration", fun s => do return { s with maxDuration := ← secondsReader }⟩,
    ⟨"start_delay", fun s => do return { s with startDelay := ← millisReader }⟩]
  standard

def Backoff.reader : Reader Backoff := lenient
  [⟨"initial", fun b => do return { b with initial := ← millisReader }⟩,
    ⟨"max", fun b => do return { b with max := ← millisReader }⟩,
    ⟨"multiplier", fun b => do return { b with multiplier := ← real }⟩,
    ⟨"jitter", fun b => do return { b with jitter := ← real }⟩,
    ⟨"max_attempts", fun b => do return { b with maxAttempts := ← word32Reader }⟩]
  standard

def FlowSettings.reader : Reader FlowSettings := lenient
  [⟨"default_send_speed_kbps", fun _ => do return ⟨← word64Reader⟩⟩] standard

def ShellSettings.reader : Reader ShellSettings := lenient
  [⟨"default_shell", fun s => do return { s with defaultShell := ← optional string }⟩,
    ⟨"default_env", fun s => do return { s with defaultEnv := ← pairsReader }⟩]
  standard

def PortSettings.reader : Reader PortSettings := lenient
  [⟨"default_host", fun _ => do return ⟨← string⟩⟩] standard

namespace Settings

def reader : Reader Settings := lenient
  [⟨"user_agent", fun s => do return { s with userAgent := ← string }⟩,
    ⟨"extra_headers", fun s => do return { s with extraHeaders := ← pairsReader }⟩,
    ⟨"status_url", fun s => do return { s with statusUrl := ← optional string }⟩,
    ⟨"channel", fun s => do return { s with channel := ← ChannelSettings.reader }⟩,
    ⟨"session", fun s => do return { s with session := ← SessionSettings.reader }⟩,
    ⟨"reconnect", fun s => do return { s with reconnect := ← Backoff.reader }⟩,
    ⟨"flow", fun s => do return { s with flow := ← FlowSettings.reader }⟩,
    ⟨"shell", fun s => do return { s with shell := ← ShellSettings.reader }⟩,
    ⟨"port", fun s => do return { s with port := ← PortSettings.reader }⟩]
  standard

/-- Reads settings from JSON text. -/
def ofJson (text : String) : Except Json.Fault Settings := whole reader (Text.Utf8.encode text)

def textOrNull : Option String → Json.Value
  | none => .null
  | some s => .text s

/-- The settings as JSON, without the two growth factors, which are no whole numbers. -/
def toJson (s : Settings) : Json.Value :=
  .object [
    ("user_agent", .text s.userAgent),
    ("extra_headers", pairsJson s.extraHeaders),
    ("status_url", textOrNull s.statusUrl),
    ("channel", .object [
      ("ping_interval", .number s.channel.pingInterval.seconds),
      ("read_error_limit", .number s.channel.readErrorLimit.toNat)]),
    ("session", .object [
      ("idle_timeout", .number s.session.idleTimeout.seconds),
      ("schema_version", .text s.session.schema),
      ("max_duration", .number s.session.maxDuration.seconds),
      ("start_delay", .number s.session.startDelay.millis)]),
    ("reconnect", .object [
      ("initial", .number s.reconnect.initial.millis),
      ("max", .number s.reconnect.max.millis),
      ("max_attempts", .number s.reconnect.maxAttempts.toNat)]),
    ("flow", .object [("default_send_speed_kbps", .number s.flow.kbps.toNat)]),
    ("shell", .object [
      ("default_shell", textOrNull s.shell.defaultShell),
      ("default_env", pairsJson s.shell.defaultEnv)]),
    ("port", .object [("default_host", .text s.port.defaultHost)])]

end Settings

end Tether
