import Tether.Settings.File

/-! The entries of a settings file, and settings of which a file gives only some. A path is a key
that stands for itself, or a section and a key in it. -/

namespace Tether

open Toml Settings

/-- A table with the selected entries of another one and no others, in any order. -/
def Toml.Selected (has : String → Bool) (whole es : Table) : Prop :=
  ∀ k, es.lookup k = if has k then whole.lookup k else none

namespace Duration

def IsSeconds (d : Duration) : Prop := d = ofSeconds d.seconds

def IsMillis (d : Duration) : Prop := d = ofMillis d.millis

end Duration

namespace ChannelSettings

def entries (c : ChannelSettings) : Table :=
  [("ping_interval", .integer c.pingInterval.seconds),
    ("read_error_limit", .integer c.readErrorLimit.toNat)]

def pick (has : String → Bool) (c : ChannelSettings) : ChannelSettings where
  pingInterval := if has "ping_interval" then c.pingInterval else standard.pingInterval
  readErrorLimit := if has "read_error_limit" then c.readErrorLimit else standard.readErrorLimit

end ChannelSettings

namespace SessionSettings

def entries (s : SessionSettings) : Table :=
  [("idle_timeout", .integer s.idleTimeout.seconds), ("schema_version", .text s.schema),
    ("max_duration", .integer s.maxDuration.seconds),
    ("start_delay", .integer s.startDelay.millis)]

def pick (has : String → Bool) (s : SessionSettings) : SessionSettings where
  idleTimeout := if has "idle_timeout" then s.idleTimeout else standard.idleTimeout
  schema := if has "schema_version" then s.schema else standard.schema
  maxDuration := if has "max_duration" then s.maxDuration else standard.maxDuration
  startDelay := if has "start_delay" then s.startDelay else standard.startDelay

end SessionSettings

namespace Backoff

def entries (b : Backoff) : Table :=
  [("initial", .integer b.initial.millis), ("max", .integer b.max.millis),
    ("multiplier", .real b.multiplier), ("jitter", .real b.jitter),
    ("max_attempts", .integer b.maxAttempts.toNat)]

def pick (has : String → Bool) (b : Backoff) : Backoff where
  initial := if has "initial" then b.initial else standard.initial
  max := if has "max" then b.max else standard.max
  multiplier := if has "multiplier" then b.multiplier else standard.multiplier
  jitter := if has "jitter" then b.jitter else standard.jitter
  maxAttempts := if has "max_attempts" then b.maxAttempts else standard.maxAttempts

end Backoff

namespace FlowSettings

def entries (f : FlowSettings) : Table := [("default_send_speed_kbps", .integer f.kbps.toNat)]

def pick (has : String → Bool) (f : FlowSettings) : FlowSettings where
  kbps := if has "default_send_speed_kbps" then f.kbps else standard.kbps

end FlowSettings

namespace ShellSettings

def entries (s : ShellSettings) : Table :=
  (s.defaultShell.map fun shell => ("default_shell", Value.text shell)).toList
    ++ [("default_env", ofPairs s.defaultEnv)]

def pick (has : String → Bool) (s : ShellSettings) : ShellSettings where
  defaultShell := if has "default_shell" then s.defaultShell else standard.defaultShell
  defaultEnv := if has "default_env" then s.defaultEnv else standard.defaultEnv

end ShellSettings

namespace PortSettings

def entries (p : PortSettings) : Table := [("default_host", .text p.defaultHost)]

def pick (has : String → Bool) (p : PortSettings) : PortSettings where
  defaultHost := if has "default_host" then p.defaultHost else standard.defaultHost

end PortSettings

namespace Settings

/-- The entries outside the sections. -/
def plain (c : Settings) : Table :=
  [("user_agent", .text c.userAgent), ("extra_headers", ofPairs c.extraHeaders)]
    ++ (c.statusUrl.map fun url => ("status_url", Value.text url)).toList

def sections (c : Settings) : List (String × Table) :=
  [("channel", c.channel.entries), ("session", c.session.entries),
    ("reconnect", c.reconnect.entries), ("flow", c.flow.entries), ("shell", c.shell.entries),
    ("port", c.port.entries)]

/-- The settings at the selected paths, and the defaults at all others. -/
def pick (has : List String → Bool) (c : Settings) : Settings where
  userAgent := if has ["user_agent"] then c.userAgent else standard.userAgent
  extraHeaders := if has ["extra_headers"] then c.extraHeaders else standard.extraHeaders
  statusUrl := if has ["status_url"] then c.statusUrl else standard.statusUrl
  channel := c.channel.pick fun k => has ["channel", k]
  session := c.session.pick fun k => has ["session", k]
  reconnect := c.reconnect.pick fun k => has ["reconnect", k]
  flow := c.flow.pick fun k => has ["flow", k]
  shell := c.shell.pick fun k => has ["shell", k]
  port := c.port.pick fun k => has ["port", k]

/-- A whole number that settings hold at a path. -/
inductive Holds (c : Settings) : List String → Nat → Prop where
  | number {s k : String} {es : Table} {n : Nat} (given : (s, es) ∈ c.sections)
      (entry : (k, .integer n) ∈ es) : Holds c [s, k] n

/-- Every duration is a whole number of the unit that it is written in. -/
structure WholeUnits (c : Settings) : Prop where
  pingInterval : c.channel.pingInterval.IsSeconds
  idleTimeout : c.session.idleTimeout.IsSeconds
  maxDuration : c.session.maxDuration.IsSeconds
  startDelay : c.session.startDelay.IsMillis
  initial : c.reconnect.initial.IsMillis
  max : c.reconnect.max.IsMillis

/-- The settings with every count of milliseconds cut to 64 bits. -/
def cut (c : Settings) : Settings :=
  { c with
    session := { c.session with
      startDelay := .ofMillis (c.session.startDelay.millis % UInt64.size) }
    reconnect := { c.reconnect with
      initial := .ofMillis (c.reconnect.initial.millis % UInt64.size)
      max := .ofMillis (c.reconnect.max.millis % UInt64.size) } }

/-- A table with the entries of the settings at the selected paths and no others. Keys and
sections may stand in any order, and a section without entries may be left out. -/
structure Part (c : Settings) (has : List String → Bool) (t : Table) : Prop where
  plain : ∀ k, k ∉ c.sections.map Prod.fst →
    t.lookup k = if has [k] then c.plain.lookup k else none
  sections : ∀ s ∈ c.sections, ∃ es, (t.lookup s.1).getD (.table []) = .table es ∧
    Selected (fun k => has [s.1, k]) s.2 es

/-- The paths that are left of a selection when a section that is not selected takes its keys with
it. -/
def carried (has : List String → Bool) : List String → Bool
  | [s, k] => has [s] && has [s, k]
  | path => has path

/-- The table of the settings without the entries and sections that are not selected. -/
def part (c : Settings) (has : List String → Bool) : Table :=
  (c.plain.filter fun e => has [e.1]) ++
    (c.sections.filter fun s => has [s.1]).map fun s =>
      (s.1, .table (s.2.filter fun e => has [s.1, e.1]))

end Settings

end Tether
