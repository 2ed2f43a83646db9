import Tether.Settings.File

/-! What the rest of the agent relies on in its settings, and what a settings file stands for. -/

namespace Tether

/-- The random addition is a share of a pause, and the longest pause is no shorter than the
first. -/
structure Backoff.Bounded (b : Backoff) : Prop where
  jitter : 0.0 ≤ b.jitter ∧ b.jitter ≤ 1.0
  pauses : b.initial.nanos ≤ b.max.nanos

namespace Settings

/-- All that is relied on, apart from the growth of pauses. -/
structure Bounded (s : Settings) : Prop where
  reconnect : s.reconnect.Bounded
  pingInterval : 0 < s.channel.pingInterval.nanos
  readErrorLimit : 1 ≤ s.channel.readErrorLimit
  idleTimeout : 0 < s.session.idleTimeout.nanos
  schema : Text.Utf8.width s.session.schema ≤ 4

structure Sound (s : Settings) : Prop extends s.Bounded where
  growth : 1.0 ≤ s.reconnect.multiplier

end Settings

/-- The settings that stand at the path: the defaults if nothing is there, otherwise what the
text of the file says. A directory stands for nothing, and neither does a file that is not text,
is not TOML or holds something else. -/
inductive FileState.Gives : FileState → Settings → Prop where
  | absent : Gives .absent .standard
  | file {content : List UInt8} {text : String} {t : Toml.Table} {s : Settings}
    (decoded : Text.Utf8.decode? content = some text) (parsed : Toml.read? text = some t)
    (shaped : Settings.ofToml? t = some s) : Gives (.file content) s

end Tether
