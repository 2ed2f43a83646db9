import Tether.Settings.Part

/-! Entries of a settings file, field by field. Each is read by the reader of its own field, in the
unit that it was written in, and a field without an entry has its default. A whole number is written
if TOML can hold it. -/

namespace Tether

open Toml Settings Value

/-! ### Fields -/

section

variable {α : Type} (read : Value → Option α) (default : α) {a : α} {found whole : Option Value}
  {selected : Bool}

/-- A field of which the entry is given if it is selected. -/
theorem orDefault_pick (given : found = if selected then whole else none)
    (reads : selected → orDefault read default whole = some a) :
    orDefault read default found = some (if selected then a else default) := by
  cases selected with
  | false => rw [given]; rfl
  | true => rw [given]; exact reads rfl

end

namespace Settings

theorem seconds?_of_isSeconds {d : Duration} (units : d.IsSeconds) (fits : d.seconds ≤ tomlMax) :
    seconds? (.integer d.seconds) = some d := by
  simpa [seconds?, natural?, fits] using units.symm

theorem millis?_of_isMillis {d : Duration} (units : d.IsMillis) (fits : d.millis ≤ tomlMax) :
    millis? (.integer d.millis) = some d := by
  simpa [millis?, natural?, fits] using units.symm

theorem word32?_toNat (w : UInt32) : word32? (.integer w.toNat) = some w := by
  have fits : (w.toNat : Int) ≤ 4294967295 := by
    have bound := w.toNat_lt_size
    simp only [UInt32.size] at bound
    omega
  simp [word32?, natural?, fits]

theorem word64?_toNat {w : UInt64} (fits : w.toNat ≤ tomlMax) :
    word64? (.integer w.toNat) = some w := by
  simp [word64?, natural?, fits]

theorem textPairs?_ofPairs (pairs : List (String × String)) :
    (ofPairs pairs).textPairs? = some pairs := by
  rw [ofPairs, textPairs?, List.mapM_map]
  induction pairs with
  | nil => rfl
  | cons p pairs ih => simp [List.mapM_cons, textPair?, text?, ih]

end Settings

/-! ### Sections -/

/-- Every whole number at a selected key fits TOML. -/
def Settings.Fits (has : String → Bool) (whole : Table) : Prop :=
  ∀ k (n : Nat), (k, Value.integer n) ∈ whole → has k → n ≤ tomlMax

section

variable {has : String → Bool} {es : Table}

theorem ChannelSettings.ofToml?_of_selected {c : ChannelSettings} (units : c.pingInterval.IsSeconds)
    (fits : Fits has c.entries) (given : Selected has c.entries es) :
    ofToml? (.table es) = some (c.pick has) := by
  have ping := orDefault_pick seconds? standard.pingInterval
    (given "ping_interval")
    fun selected => seconds?_of_isSeconds units (fits _ _ (by simp [entries]) selected)
  have limit := orDefault_pick word32? standard.readErrorLimit
    (given "read_error_limit") fun _ => word32?_toNat c.readErrorLimit
  simp [ofToml?, members?, ping, limit, pick]

theorem SessionSettings.ofToml?_of_selected {s : SessionSettings}
    (idle : s.idleTimeout.IsSeconds) (longest : s.maxDuration.IsSeconds)
    (delay : s.startDelay.IsMillis) (fits : Fits has s.entries)
    (given : Selected has s.entries es) : ofToml? (.table es) = some (s.pick has) := by
  have idle := orDefault_pick seconds? standard.idleTimeout
    (given "idle_timeout")
    fun selected => seconds?_of_isSeconds idle (fits _ _ (by simp [entries]) selected)
  have schema := orDefault_pick text? standard.schema
    (given "schema_version") (a := s.schema) fun _ => rfl
  have longest := orDefault_pick seconds? standard.maxDuration
    (given "max_duration")
    fun selected => seconds?_of_isSeconds longest (fits _ _ (by simp [entries]) selected)
  have delay := orDefault_pick millis? standard.startDelay
    (given "start_delay")
    fun selected => millis?_of_isMillis delay (fits _ _ (by simp [entries]) selected)
  simp [ofToml?, members?, idle, schema, longest, delay, pick]

theorem Backoff.ofToml?_of_selected {b : Backoff} (initial : b.initial.IsMillis)
    (max : b.max.IsMillis) (fits : Fits has b.entries) (given : Selected has b.entries es) :
    ofToml? (.table es) = some (b.pick has) := by
  have initial := orDefault_pick millis? standard.initial
    (given "initial")
    fun selected => millis?_of_isMillis initial (fits _ _ (by simp [entries]) selected)
  have max := orDefault_pick millis? standard.max (given "max")
    fun selected => millis?_of_isMillis max (fits _ _ (by simp [entries]) selected)
  have multiplier := orDefault_pick real? standard.multiplier
    (given "multiplier") (a := b.multiplier) fun _ => rfl
  have jitter := orDefault_pick real? standard.jitter
    (given "jitter") (a := b.jitter) fun _ => rfl
  have attempts := orDefault_pick word32? standard.maxAttempts
    (given "max_attempts") fun _ => word32?_toNat b.maxAttempts
  simp [ofToml?, members?, initial, max, multiplier, jitter, attempts, pick]

theorem FlowSettings.ofToml?_of_selected {f : FlowSettings} (fits : Fits has f.entries)
    (given : Selected has f.entries es) : ofToml? (.table es) = some (f.pick has) := by
  have kbps := orDefault_pick word64? standard.kbps
    (given "default_send_speed_kbps")
    fun selected => word64?_toNat (fits _ _ (by simp [entries]) selected)
  simp [ofToml?, members?, kbps, pick]

theorem ShellSettings.ofToml?_of_selected {s : ShellSettings} (given : Selected has s.entries es) :
    ofToml? (.table es) = some (s.pick has) := by
  have shell := orDefault_pick (fun v => v.text?.map some)
    standard.defaultShell (given "default_shell") (a := s.defaultShell) fun _ => by
      cases found : s.defaultShell <;>
        simp [entries, found, List.lookup_cons, orDefault, text?, standard]
  have env := orDefault_pick textPairs? standard.defaultEnv
    (given "default_env") (a := s.defaultEnv) fun _ => by
      cases found : s.defaultShell <;>
        simp [entries, found, List.lookup_cons, orDefault, textPairs?_ofPairs]
  simp [ofToml?, members?, shell, env, pick]

theorem PortSettings.ofToml?_of_selected {p : PortSettings} (given : Selected has p.entries es) :
    ofToml? (.table es) = some (p.pick has) := by
  have host := orDefault_pick text? standard.defaultHost
    (given "default_host") (a := p.defaultHost) fun _ => rfl
  simp [ofToml?, members?, host, pick]

end

/-! ### Numbers that fit -/

namespace Settings

theorem ofNat?_of_le {n : Nat} (fits : n ≤ tomlMax) : ofNat? n = some (.integer n) := if_pos fits

theorem ofNat?_mod_of_le {n : Nat} (fits : n ≤ tomlMax) :
    ofNat? (n % UInt64.size) = some (.integer n) := by
  have small : n < UInt64.size := Nat.lt_of_le_of_lt fits (by decide)
  rw [Nat.mod_eq_of_lt small, ofNat?_of_le fits]

theorem le_of_ofNat? {n : Nat} {v : Value} (written : ofNat? n = some v) : n ≤ tomlMax := by
  rw [ofNat?] at written
  split at written
  · assumption
  · cases written

theorem mod_le_of_ofNat? {n : Nat} {v : Value} (written : ofNat? n = some v) :
    n % UInt64.size ≤ tomlMax :=
  Nat.le_trans (Nat.mod_le _ _) (le_of_ofNat? written)

end Settings

/-- Every whole number of a table fits TOML in 64 bits. Milliseconds are cut to as many when they
are written. -/
def Settings.FitsMod (whole : Table) : Prop :=
  ∀ k (n : Nat), (k, Value.integer n) ∈ whole → n % UInt64.size ≤ tomlMax

section

variable {v : Value}

theorem ChannelSettings.toToml?_of_fits {c : ChannelSettings}
    (fits : Fits (fun _ => true) c.entries) : c.toToml? = some (.table c.entries) := by
  have ping := fits "ping_interval" c.pingInterval.seconds (by simp [entries]) rfl
  have limit := fits "read_error_limit" c.readErrorLimit.toNat (by simp [entries]) rfl
  simp [toToml?, entries, ofNat?_of_le, ping, limit]

theorem ChannelSettings.fitsMod_of_toToml? {c : ChannelSettings}
    (written : c.toToml? = some v) : FitsMod c.entries := by
  simp only [toToml?, Option.bind_eq_bind, Option.bind_eq_some_iff] at written
  obtain ⟨_, ping, _, limit, -⟩ := written
  intro k n entry
  simp only [entries, List.mem_cons, Prod.mk.injEq, Value.integer.injEq, Int.natCast_inj,
    List.not_mem_nil, or_false] at entry
  rcases entry with ⟨-, rfl⟩ | ⟨-, rfl⟩
  · exact mod_le_of_ofNat? ping
  · exact mod_le_of_ofNat? limit

theorem SessionSettings.toToml?_of_fits {s : SessionSettings}
    (fits : Fits (fun _ => true) s.entries) : s.toToml? = some (.table s.entries) := by
  have idle := fits "idle_timeout" s.idleTimeout.seconds (by simp [entries]) rfl
  have longest := fits "max_duration" s.maxDuration.seconds (by simp [entries]) rfl
  have delay := fits "start_delay" s.startDelay.millis (by simp [entries]) rfl
  simp [toToml?, entries, ofNat?_of_le, ofNat?_mod_of_le, idle, longest, delay]

theorem SessionSettings.fitsMod_of_toToml? {s : SessionSettings}
    (written : s.toToml? = some v) : FitsMod s.entries := by
  simp only [toToml?, Option.bind_eq_bind, Option.bind_eq_some_iff] at written
  obtain ⟨_, idle, _, longest, _, delay, -⟩ := written
  intro k n entry
  simp only [entries, List.mem_cons, Prod.mk.injEq, Value.integer.injEq, Int.natCast_inj,
    reduceCtorEq, and_false, false_or, List.not_mem_nil, or_false] at entry
  rcases entry with ⟨-, rfl⟩ | ⟨-, rfl⟩ | ⟨-, rfl⟩
  · exact mod_le_of_ofNat? idle
  · exact mod_le_of_ofNat? longest
  · exact le_of_ofNat? delay

theorem Backoff.toToml?_of_fits {b : Backoff} (fits : Fits (fun _ => true) b.entries) :
    b.toToml? = some (.table b.entries) := by
  have initial := fits "initial" b.initial.millis (by simp [entries]) rfl
  have max := fits "max" b.max.millis (by simp [entries]) rfl
  have attempts := fits "max_attempts" b.maxAttempts.toNat (by simp [entries]) rfl
  simp [toToml?, entries, ofNat?_of_le, ofNat?_mod_of_le, initial, max, attempts]

theorem Backoff.fitsMod_of_toToml? {b : Backoff} (written : b.toToml? = some v) :
    FitsMod b.entries := by
  simp only [toToml?, Option.bind_eq_bind, Option.bind_eq_some_iff] at written
  obtain ⟨_, initial, _, max, _, attempts, -⟩ := written
  intro k n entry
  simp only [entries, List.mem_cons, Prod.mk.injEq, Value.integer.injEq, Int.natCast_inj,
    reduceCtorEq, and_false, false_or, List.not_mem_nil, or_false] at entry
  rcases entry with ⟨-, rfl⟩ | ⟨-, rfl⟩ | ⟨-, rfl⟩
  · exact le_of_ofNat? initial
  · exact le_of_ofNat? max
  · exact mod_le_of_ofNat? attempts

theorem FlowSettings.toToml?_of_fits {f : FlowSettings} (fits : Fits (fun _ => true) f.entries) :
    f.toToml? = some (.table f.entries) := by
  have kbps := fits "default_send_speed_kbps" f.kbps.toNat (by simp [entries]) rfl
  simp [toToml?, entries, ofNat?_of_le, kbps]

theorem FlowSettings.fitsMod_of_toToml? {f : FlowSettings} (written : f.toToml? = some v) :
    FitsMod f.entries := by
  simp only [toToml?, Option.bind_eq_bind, Option.bind_eq_some_iff] at written
  obtain ⟨_, kbps, -⟩ := written
  intro k n entry
  simp only [entries, List.mem_cons, Prod.mk.injEq, Value.integer.injEq, Int.natCast_inj,
    List.not_mem_nil, or_false] at entry
  obtain ⟨-, rfl⟩ := entry
  exact mod_le_of_ofNat? kbps

/-- Texts are no numbers. -/
theorem ShellSettings.fitsMod (s : ShellSettings) : FitsMod s.entries := by
  intro k n entry
  simp [entries, ofPairs] at entry

theorem PortSettings.fitsMod (p : PortSettings) : FitsMod p.entries := by
  intro k n entry
  simp [entries] at entry

end

end Tether
