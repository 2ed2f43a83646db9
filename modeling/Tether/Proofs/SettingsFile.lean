import Tether.Proofs.Documents
import Tether.Proofs.Entries
import Tether.Proofs.Lists
import Tether.Proofs.Utf8

/-! Settings survive the file: what is saved loads as it was, and a file with a part of it loads as
that part and the defaults. -/

namespace Tether

open Toml Settings Value

/-! ### Whole settings -/

namespace Settings

variable {c : Settings} {has : List String → Bool} {t : Table}

theorem sections_cases {s : String} {es : Table} (given : (s, es) ∈ c.sections) :
    (s = "channel" ∧ es = c.channel.entries) ∨ (s = "session" ∧ es = c.session.entries) ∨
      (s = "reconnect" ∧ es = c.reconnect.entries) ∨ (s = "flow" ∧ es = c.flow.entries) ∨
      (s = "shell" ∧ es = c.shell.entries) ∨ (s = "port" ∧ es = c.port.entries) := by
  simpa [sections] using given

/-- A section that is left out reads as one without entries. -/
theorem Part.orDefault_section {α : Type} {read : Value → Option α} (default : α) {a : α}
    (part : c.Part has t) {s : String} {whole : Table} (given : (s, whole) ∈ c.sections)
    (empty : read (.table []) = some default)
    (reads : ∀ es, Selected (fun k => has [s, k]) whole es → read (.table es) = some a) :
    orDefault read default (t.lookup s) = some a := by
  obtain ⟨es, inside, selected⟩ := part.sections (s, whole) given
  have read := reads es selected
  cases found : t.lookup s with
  | none =>
    rw [found] at inside
    cases inside
    exact empty.symm.trans read
  | some v =>
    rw [found] at inside
    cases inside
    exact read

theorem ofToml?_of_part (units : c.WholeUnits) (part : c.Part has t)
    (fits : ∀ path n, c.Holds path n → has path → n ≤ tomlMax) : ofToml? t = some (c.pick has) := by
  have fits {s : String} {whole : Table} (given : (s, whole) ∈ c.sections) :
      Fits (fun k => has [s, k]) whole := fun k n entry selected =>
    fits [s, k] n (.number given entry) selected
  have agent := orDefault_pick text? standard.userAgent
    (part.plain "user_agent" (by simp [sections])) (a := c.userAgent) fun _ => rfl
  have headers := orDefault_pick textPairs? standard.extraHeaders
    (part.plain "extra_headers" (by simp [sections])) (a := c.extraHeaders)
    fun _ => textPairs?_ofPairs _
  have url := orDefault_pick (fun v => v.text?.map some) standard.statusUrl
    (part.plain "status_url" (by simp [sections])) (a := c.statusUrl) fun _ => by
      cases found : c.statusUrl <;>
        simp [plain, found, List.lookup_cons, orDefault, text?, standard]
  have inChannel : ("channel", c.channel.entries) ∈ c.sections := by simp [sections]
  have channel := part.orDefault_section ChannelSettings.standard inChannel rfl fun _ =>
    ChannelSettings.ofToml?_of_selected units.pingInterval (fits inChannel)
  have inSession : ("session", c.session.entries) ∈ c.sections := by simp [sections]
  have session := part.orDefault_section SessionSettings.standard inSession rfl fun _ =>
    SessionSettings.ofToml?_of_selected units.idleTimeout units.maxDuration units.startDelay
      (fits inSession)
  have inReconnect : ("reconnect", c.reconnect.entries) ∈ c.sections := by simp [sections]
  have reconnect := part.orDefault_section Backoff.standard inReconnect rfl fun _ =>
    Backoff.ofToml?_of_selected units.initial units.max (fits inReconnect)
  have inFlow : ("flow", c.flow.entries) ∈ c.sections := by simp [sections]
  have flow := part.orDefault_section FlowSettings.standard inFlow rfl fun _ =>
    FlowSettings.ofToml?_of_selected (fits inFlow)
  have inShell : ("shell", c.shell.entries) ∈ c.sections := by simp [sections]
  have shell := part.orDefault_section ShellSettings.standard inShell rfl fun _ =>
    ShellSettings.ofToml?_of_selected
  have inPort : ("port", c.port.entries) ∈ c.sections := by simp [sections]
  have port := part.orDefault_section PortSettings.standard inPort rfl fun _ =>
    PortSettings.ofToml?_of_selected
  simp [ofToml?, agent, headers, url, channel, session, reconnect, flow, shell, port, pick]

/-! ### The part that a selection gives -/

theorem lookup_sections {s : String} {whole : Table} (given : (s, whole) ∈ c.sections) :
    c.sections.lookup s = some whole ∧ c.plain.lookup s = none := by
  have notPlain (other : s ∉ ["user_agent", "extra_headers", "status_url"]) :
      c.plain.lookup s = none := by
    apply lookup_eq_none
    simp only [List.mem_cons, List.not_mem_nil, or_false, not_or] at other
    cases found : c.statusUrl <;> simp [plain, found, other]
  rcases sections_cases given with ⟨rfl, rfl⟩ | ⟨rfl, rfl⟩ | ⟨rfl, rfl⟩ | ⟨rfl, rfl⟩ |
    ⟨rfl, rfl⟩ | ⟨rfl, rfl⟩
  all_goals exact ⟨by simp [sections, List.lookup_cons], notPlain (by decide)⟩

theorem lookup_part (c : Settings) (has : List String → Bool) (k : String) :
    (c.part has).lookup k = (if has [k] then c.plain.lookup k else none).or
      ((if has [k] then c.sections.lookup k else none).map fun es =>
        .table (es.filter fun e => has [k, e.1])) := by
  have inSections := lookup_map (fun s es => Value.table (es.filter fun e => has [s, e.1]))
    (c.sections.filter fun s => has [s.1]) k
  rw [lookup_filter fun k => has [k]] at inSections
  rw [part, List.lookup_append, lookup_filter (fun k => has [k]), inSections]

theorem part_isPart (c : Settings) (has : List String → Bool) :
    c.Part (carried has) (c.part has) where
  plain k outside := by
    rw [lookup_part, lookup_eq_none outside]
    change _ = if has [k] then c.plain.lookup k else none
    simp
  sections := by
    rintro ⟨s, whole⟩ given
    obtain ⟨inSections, notPlain⟩ := lookup_sections given
    refine ⟨if has [s] then whole.filter fun e => has [s, e.1] else [], ?_, fun k => ?_⟩
    · rw [lookup_part, inSections, notPlain]
      by_cases selected : has [s] <;> simp [selected]
    · by_cases selected : has [s]
      · simp [carried, selected, lookup_filter fun k => has [s, k]]
      · simp [carried, selected]

/-! ### Writing and reading back -/

theorem inRange_of_le {n : Nat} (fits : n ≤ tomlMax) : Scalar.inRange n := by
  have low : Int64.minValue.toInt = -9223372036854775808 := by decide
  have high : Int64.maxValue.toInt = 9223372036854775807 := by decide
  have bound : tomlMax = 9223372036854775807 := rfl
  simp only [Scalar.inRange, low, high, Bool.and_eq_true, decide_eq_true_eq]
  omega

theorem readsBack_count {n : Nat} (fits : n ≤ tomlMax) : ReadsBack (.integer n) :=
  readsBack_integer (inRange_of_le fits)

theorem readsBack_ofPairs (pairs : List (String × String)) : ReadsBack (ofPairs pairs) :=
  readsBack_pairs pairs

theorem plain_keys (c : Settings) : (∀ k ∈ c.plain.map Prod.fst, isBareKey k) ∧
    (c.plain.map Prod.fst ++ c.sections.map Prod.fst).Nodup := by
  cases found : c.statusUrl <;> simp only [plain, found]
  · change (∀ k ∈ ["user_agent", "extra_headers"], isBareKey k) ∧ List.Nodup ["user_agent",
      "extra_headers", "channel", "session", "reconnect", "flow", "shell", "port"]
    decide
  · change (∀ k ∈ ["user_agent", "extra_headers", "status_url"], isBareKey k) ∧
      List.Nodup ["user_agent", "extra_headers", "status_url", "channel", "session", "reconnect",
        "flow", "shell", "port"]
    decide

theorem plain_values {e : String × Value} (entry : e ∈ c.plain) :
    ReadsBack e.2 ∧ Writer.isTable e.2 = false := by
  simp only [plain, List.mem_append, List.mem_cons, List.not_mem_nil, or_false, Option.mem_toList,
    Option.map_eq_some_iff] at entry
  rcases entry with (rfl | rfl) | ⟨url, -, rfl⟩
  · exact ⟨readsBack_text _, rfl⟩
  · exact ⟨readsBack_ofPairs _, rfl⟩
  · exact ⟨readsBack_text _, rfl⟩

theorem shell_keys (s : ShellSettings) :
    (∀ k ∈ s.entries.map Prod.fst, isBareKey k) ∧ (s.entries.map Prod.fst).Nodup := by
  cases found : s.defaultShell <;> simp only [ShellSettings.entries, found]
  · change (∀ k ∈ ["default_env"], isBareKey k) ∧ List.Nodup ["default_env"]
    decide
  · change (∀ k ∈ ["default_shell", "default_env"], isBareKey k) ∧
      List.Nodup ["default_shell", "default_env"]
    decide

theorem sections_keys {s : String} {es : Table} (given : (s, es) ∈ c.sections) :
    isBareKey s ∧ (∀ k ∈ es.map Prod.fst, isBareKey k) ∧ (es.map Prod.fst).Nodup := by
  rcases sections_cases given with ⟨rfl, rfl⟩ | ⟨rfl, rfl⟩ | ⟨rfl, rfl⟩ | ⟨rfl, rfl⟩ |
    ⟨rfl, rfl⟩ | ⟨rfl, rfl⟩
  · exact ⟨by decide, by simp only [ChannelSettings.entries, List.map_cons, List.map_nil]; decide⟩
  · exact ⟨by decide, by simp only [SessionSettings.entries, List.map_cons, List.map_nil]; decide⟩
  · exact ⟨by decide, by simp only [Backoff.entries, List.map_cons, List.map_nil]; decide⟩
  · exact ⟨by decide, by simp only [FlowSettings.entries, List.map_cons, List.map_nil]; decide⟩
  · exact ⟨by decide, shell_keys _⟩
  · exact ⟨by decide, by simp only [PortSettings.entries, List.map_cons, List.map_nil]; decide⟩

theorem sections_values (multiplier : ReadsBack (.real c.reconnect.multiplier))
    (jitter : ReadsBack (.real c.reconnect.jitter)) {s : String} {es : Table}
    (given : (s, es) ∈ c.sections) {e : String × Value} (entry : e ∈ es)
    (fits : ∀ n : Nat, e.2 = .integer n → n ≤ tomlMax) : ReadsBack e.2 := by
  rcases sections_cases given with ⟨rfl, rfl⟩ | ⟨rfl, rfl⟩ | ⟨rfl, rfl⟩ | ⟨rfl, rfl⟩ |
    ⟨rfl, rfl⟩ | ⟨rfl, rfl⟩
  · simp only [ChannelSettings.entries, List.mem_cons, List.not_mem_nil, or_false] at entry
    rcases entry with rfl | rfl
    all_goals exact readsBack_count (fits _ rfl)
  · simp only [SessionSettings.entries, List.mem_cons, List.not_mem_nil, or_false] at entry
    rcases entry with rfl | rfl | rfl | rfl
    · exact readsBack_count (fits _ rfl)
    · exact readsBack_text _
    all_goals exact readsBack_count (fits _ rfl)
  · simp only [Backoff.entries, List.mem_cons, List.not_mem_nil, or_false] at entry
    rcases entry with rfl | rfl | rfl | rfl | rfl
    · exact readsBack_count (fits _ rfl)
    · exact readsBack_count (fits _ rfl)
    · exact multiplier
    · exact jitter
    · exact readsBack_count (fits _ rfl)
  · simp only [FlowSettings.entries, List.mem_cons, List.not_mem_nil, or_false] at entry
    subst entry
    exact readsBack_count (fits _ rfl)
  · simp only [ShellSettings.entries, List.mem_append, List.mem_cons, List.not_mem_nil, or_false,
      Option.mem_toList, Option.map_eq_some_iff] at entry
    rcases entry with ⟨shell, -, rfl⟩ | rfl
    · exact readsBack_text _
    · exact readsBack_ofPairs _
  · simp only [PortSettings.entries, List.mem_cons, List.not_mem_nil, or_false] at entry
    subst entry
    exact readsBack_text _

theorem read?_part (multiplier : ReadsBack (.real c.reconnect.multiplier))
    (jitter : ReadsBack (.real c.reconnect.jitter))
    (fits : ∀ key n, c.Holds key n → carried has key → n ≤ tomlMax) :
    read? (Writer.document (c.part has)) = some (c.part has) := by
  obtain ⟨bare, nodup⟩ := plain_keys c
  let kept : List (String × Table) := (c.sections.filter fun s => has [s.1]).map fun s =>
    (s.1, s.2.filter fun e => has [s.1, e.1])
  have parts : c.part has =
      (c.plain.filter fun e => has [e.1]) ++ kept.map fun s => (s.1, .table s.2) := by
    simp [part, kept, List.map_map, Function.comp_def]
  have sub : ((c.plain.filter fun e => has [e.1]).map Prod.fst ++ kept.map Prod.fst).Sublist
      (c.plain.map Prod.fst ++ c.sections.map Prod.fst) := by
    refine (List.filter_sublist.map Prod.fst).append ?_
    simpa [kept, List.map_map, Function.comp_def] using List.filter_sublist.map Prod.fst
  have given : ∀ s ∈ kept, ∃ whole, (s.1, whole) ∈ c.sections ∧ has [s.1] ∧
      s.2 = whole.filter fun e => has [s.1, e.1] := by
    intro s mem
    obtain ⟨⟨name, whole⟩, filtered, rfl⟩ := List.mem_map.mp mem
    obtain ⟨inside, selected⟩ := List.mem_filter.mp filtered
    exact ⟨whole, inside, selected, rfl⟩
  rw [parts]
  apply read?_document
  · intro s mem
    obtain ⟨whole, inside, -, -⟩ := given s mem
    exact (sections_keys inside).1
  · refine ⟨.filter bare (nodup.sublist (List.sublist_append_left _ _)) fun e mem _ =>
      (plain_values mem).1, fun s mem => ?_⟩
    obtain ⟨whole, inside, shown, rest⟩ := given s mem
    obtain ⟨-, bare, apart⟩ := sections_keys inside
    rw [rest]
    refine .filter bare apart fun e entry selected => ?_
    apply sections_values multiplier jitter inside entry
    rintro n number
    obtain ⟨k, v⟩ := e
    subst number
    exact fits [s.1, k] n (.number inside entry) (by simp [carried, shown, selected])
  · intro e mem
    exact (plain_values (List.mem_filter.mp mem).1).2
  · exact nodup.sublist sub

/-! ### Saving and loading -/

theorem load_encode (path text : String) :
    load path (.file (Text.Utf8.encode text)) = ofText text := by
  rw [load, readFile, Text.Utf8.decode?_encode]
  rfl

theorem ofText_of_part {text : String} (units : c.WholeUnits) (read : read? text = some t)
    (part : c.Part has t) (fits : ∀ key n, c.Holds key n → has key → n ≤ tomlMax) :
    ofText text = .ok (c.pick has) := by
  rw [ofText, read, Option.bind_some, ofToml?_of_part units part fits]

theorem toToml?_of_fits (fits : ∀ key n, c.Holds key n → n ≤ tomlMax) :
    c.toToml? = some (c.part fun _ => true) := by
  have fits {s : String} {whole : Table} (given : (s, whole) ∈ c.sections) :
      Fits (fun _ => true) whole := fun k n entry _ => fits [s, k] n (.number given entry)
  have channel := ChannelSettings.toToml?_of_fits
    (fits (show ("channel", c.channel.entries) ∈ c.sections by simp [sections]))
  have session := SessionSettings.toToml?_of_fits
    (fits (show ("session", c.session.entries) ∈ c.sections by simp [sections]))
  have reconnect := Backoff.toToml?_of_fits
    (fits (show ("reconnect", c.reconnect.entries) ∈ c.sections by simp [sections]))
  have flow := FlowSettings.toToml?_of_fits
    (fits (show ("flow", c.flow.entries) ∈ c.sections by simp [sections]))
  simp [toToml?, channel, session, reconnect, flow, part, plain, sections, ShellSettings.toToml,
    ShellSettings.entries, PortSettings.toToml, PortSettings.entries]

theorem fits_of_toToml? (written : c.toToml? = some t) {key : List String} {n : Nat}
    (holds : c.Holds key n) : n % UInt64.size ≤ tomlMax := by
  simp only [toToml?, Option.bind_eq_bind, Option.bind_eq_some_iff] at written
  obtain ⟨_, channel, _, session, _, reconnect, _, flow, -⟩ := written
  obtain ⟨given, entry⟩ := holds
  rcases sections_cases given with ⟨-, rfl⟩ | ⟨-, rfl⟩ | ⟨-, rfl⟩ | ⟨-, rfl⟩ | ⟨-, rfl⟩ | ⟨-, rfl⟩
  · exact ChannelSettings.fitsMod_of_toToml? channel _ _ entry
  · exact SessionSettings.fitsMod_of_toToml? session _ _ entry
  · exact Backoff.fitsMod_of_toToml? reconnect _ _ entry
  · exact FlowSettings.fitsMod_of_toToml? flow _ _ entry
  · exact ShellSettings.fitsMod _ _ _ entry
  · exact PortSettings.fitsMod _ _ _ entry

theorem pick_all (c : Settings) : c.pick (carried fun _ => true) = c := rfl

theorem save_of_toText {text : String} (written : c.toText = .ok text) {state : FileState}
    (place : state ≠ .directory) : c.save state = (.ok (), .file (Text.Utf8.encode text)) := by
  rw [save, written]
  cases state with
  | directory => exact absurd rfl place
  | absent | file => rfl

theorem save_load_of_fits (units : c.WholeUnits)
    (multiplier : ReadsBack (.real c.reconnect.multiplier))
    (jitter : ReadsBack (.real c.reconnect.jitter)) (path : String) (state : FileState)
    (place : state ≠ .directory) (fits : ∀ key n, c.Holds key n → n ≤ tomlMax) :
    (c.save state).1 = .ok () ∧ load path (c.save state).2 = .ok c := by
  have written : c.toText = .ok (Writer.document (c.part fun _ => true)) := by
    rw [toText, toToml?_of_fits fits]
  have fits : ∀ key n, c.Holds key n → carried (fun _ => true) key → n ≤ tomlMax :=
    fun key n holds _ => fits key n holds
  rw [save_of_toText written place]
  refine ⟨rfl, ?_⟩
  rw [load_encode, ofText_of_part units (read?_part multiplier jitter fits) (part_isPart c _) fits,
    pick_all]

theorem WholeUnits.cut (units : c.WholeUnits) : c.cut.WholeUnits :=
  { units with
    startDelay := by simp [Settings.cut, Duration.IsMillis]
    initial := by simp [Settings.cut, Duration.IsMillis]
    max := by simp [Settings.cut, Duration.IsMillis] }

/-- Milliseconds that 64 bits do not hold are lost when settings are saved. -/
theorem save_cut (c : Settings) (state : FileState) : c.cut.save state = c.save state := by
  have session : c.cut.session.toToml? = c.session.toToml? := by
    simp [cut, SessionSettings.toToml?]
  have reconnect : c.cut.reconnect.toToml? = c.reconnect.toToml? := by
    simp [cut, Backoff.toToml?]
  have text : c.cut.toText = c.toText := by
    rw [toText, toText, toToml?, toToml?, session, reconnect]
    rfl
  rw [save, save, text]

/-- Settings survive the file as far as 64 bits hold their milliseconds. If every whole number
that they hold fits TOML, they are saved and load as they were. If one does not fit, as far as
64 bits hold it, they are not saved and what is there stays. If all fit only because milliseconds
are cut, they are saved and load with these milliseconds cut. A text with some of their entries, any
subset of the keys, loads as the settings at these keys and as the defaults at all others. The
reader of floats is relied on to read back the two that are written. -/
theorem saved_settings_load (units : c.WholeUnits)
    (multiplier : ReadsBack (.real c.reconnect.multiplier))
    (jitter : ReadsBack (.real c.reconnect.jitter)) :
    (∀ (path : String) (state : FileState), state ≠ .directory →
      (∀ key n, c.Holds key n → n ≤ tomlMax) →
        (c.save state).1 = .ok () ∧ load path (c.save state).2 = .ok c) ∧
    (∀ state : FileState, (∃ key n, c.Holds key n ∧ tomlMax < n % UInt64.size) →
      c.save state = (.error .unwritable, state)) ∧
    (∀ (path : String) (state : FileState), state ≠ .directory →
      (∀ key n, c.cut.Holds key n → n ≤ tomlMax) →
        (c.save state).1 = .ok () ∧ load path (c.save state).2 = .ok c.cut) ∧
    ∀ (path : String) (has : List String → Bool),
      (∀ (text : String) (t : Table), read? text = some t → c.Part has t →
        (∀ key n, c.Holds key n → has key → n ≤ tomlMax) →
          load path (.file (Text.Utf8.encode text)) = .ok (c.pick has)) ∧
      ((∀ key n, c.Holds key n → carried has key → n ≤ tomlMax) →
        load path (.file (Text.Utf8.encode (Writer.document (c.part has)))) =
          .ok (c.pick (carried has))) := by
  refine ⟨fun path state place fits => ?_, fun state ⟨key, n, holds, large⟩ => ?_,
    fun path state place fits => ?_, fun path has => ⟨fun text t read part fits => ?_,
    fun fits => ?_⟩⟩
  · exact save_load_of_fits units multiplier jitter path state place fits
  · have unwritten : c.toToml? = none := by
      cases written : c.toToml? with
      | none => rfl
      | some t => exact absurd (fits_of_toToml? written holds) (Nat.not_le_of_lt large)
    rw [save, toText, unwritten]
  · rw [← save_cut]
    exact save_load_of_fits units.cut multiplier jitter path state place fits
  · rw [load_encode]
    exact ofText_of_part units read part fits
  · rw [load_encode]
    exact ofText_of_part units (read?_part multiplier jitter fits) (part_isPart c has) fits

theorem le_of_all (all : c.sections.all fun s => s.2.all fun e =>
    match e.2 with
    | .integer n => n ≤ tomlMax
    | _ => true) : ∀ key n, c.Holds key n → n ≤ tomlMax := by
  rintro _ n ⟨given, entry⟩
  have fits := List.all_eq_true.mp (List.all_eq_true.mp all _ given) _ entry
  simpa using fits

/-- Settings with a short timeout, a status address and another backoff. -/
def tuned : Settings :=
  { standard with
    statusUrl := some "https://status.example.invalid/report"
    session := { SessionSettings.standard with idleTimeout := .ofSeconds 42 }
    reconnect := { Backoff.standard with multiplier := 1.5, jitter := 0.25 } }

/-- The same with a send rate above the numbers of TOML. -/
def flooding : Settings := { tuned with flow := ⟨9223372036854775808⟩ }

/-- The same with a start delay of 18446744073709552 seconds, which is some 584 million years. Its
milliseconds go beyond 64 bits. -/
def belated : Settings :=
  { tuned with
    session := { tuned.session with startDelay := .ofSeconds 18446744073709552 } }

/-- The timeout and its section. -/
def timeoutOnly (path : List String) : Bool :=
  path = ["session"] || path = ["session", "idle_timeout"]

theorem readsBack_oneAndHalf : ReadsBack (.real 1.5) :=
  readsBack_real ['1'] ['5']
    (by rw [Writer.value]; decide +kernel) ⟨List.all_eq_true.mp rfl, by simp, by decide⟩
    (List.all_eq_true.mp rfl) (by simp) (by decide +kernel) (by decide +kernel)

theorem readsBack_quarter : ReadsBack (.real 0.25) :=
  readsBack_real ['0'] ['2', '5']
    (by rw [Writer.value]; decide +kernel) ⟨List.all_eq_true.mp rfl, by simp, by decide⟩
    (List.all_eq_true.mp rfl) (by simp) (by decide +kernel) (by decide +kernel)

theorem tuned_fits : ∀ key n, tuned.Holds key n → n ≤ tomlMax :=
  le_of_all (by decide)

/-- Whether a document holds nothing but a timeout of so many seconds. -/
def givesTimeout (seconds : Nat) : Option Table → Bool
  | some [(s, .table [(k, .integer n)])] => s = "session" ∧ k = "idle_timeout" ∧ n = seconds
  | _ => false

theorem eq_of_givesTimeout {seconds : Nat} {t : Option Table} (gives : givesTimeout seconds t) :
    t = some [("session", .table [("idle_timeout", .integer seconds)])] := by
  unfold givesTimeout at gives
  split at gives
  · obtain ⟨rfl, rfl, rfl⟩ := of_decide_eq_true gives
    rfl
  · cases gives

theorem tuned_part :
    tuned.Part timeoutOnly [("session", .table [("idle_timeout", .integer 42)])] where
  plain k outside := by
    have other : k ≠ "session" := by
      rintro rfl
      exact outside (by simp [sections])
    have left : timeoutOnly [k] = false := by simp [timeoutOnly, other]
    rw [left, lookup_eq_none (by simpa using other)]
    rfl
  sections := by
    rintro ⟨s, whole⟩ given
    have others (other : s ≠ "session") : ∃ es,
        ([("session", Value.table [("idle_timeout", .integer 42)])].lookup s).getD (.table []) =
          .table es ∧ Selected (fun k => timeoutOnly [s, k]) whole es := by
      refine ⟨[], by rw [lookup_eq_none (by simpa using other)]; rfl, fun k => ?_⟩
      simp [timeoutOnly, other]
    by_cases same : s = "session"
    · subst same
      obtain rfl : whole = tuned.session.entries := by simpa [sections] using given
      refine ⟨_, rfl, fun k => ?_⟩
      by_cases key : k = "idle_timeout"
      · subst key
        rfl
      · rw [lookup_eq_none (by simpa using key)]
        simp [timeoutOnly, key]
    · exact others same

theorem tuned_survives :
    ((tuned.save .absent).1 = .ok () ∧ load "agent.toml" (tuned.save .absent).2 = .ok tuned) ∧
    flooding.save (.file [35]) = (.error .unwritable, .file [35]) ∧
    load "agent.toml" (.file (Text.Utf8.encode "[session] # short\nidle_timeout = 42\n")) =
      .ok { standard with
        session := { SessionSettings.standard with idleTimeout := .ofSeconds 42 } } ∧
    load "agent.toml" (.file (Text.Utf8.encode (Writer.document (tuned.part timeoutOnly)))) =
      .ok { standard with
        session := { SessionSettings.standard with idleTimeout := .ofSeconds 42 } } := by
  have units : tuned.WholeUnits := ⟨rfl, rfl, rfl, rfl, rfl, rfl⟩
  obtain ⟨whole, -, -, parts⟩ := saved_settings_load units readsBack_oneAndHalf readsBack_quarter
  obtain ⟨-, tooLarge, -, -⟩ := saved_settings_load (c := flooding) ⟨rfl, rfl, rfl, rfl, rfl, rfl⟩
    readsBack_oneAndHalf readsBack_quarter
  have rate : flooding.Holds ["flow", "default_send_speed_kbps"] 9223372036854775808 :=
    .number (show ("flow", flooding.flow.entries) ∈ flooding.sections by simp [sections])
      (by simp [FlowSettings.entries]; rfl)
  refine ⟨whole _ _ (by simp) tuned_fits, tooLarge _ ⟨_, _, rate, by decide⟩, ?_, ?_⟩
  · have given : read? "[session] # short\nidle_timeout = 42\n" =
        some [("session", .table [("idle_timeout", .integer 42)])] :=
      eq_of_givesTimeout (by decide +kernel)
    exact (parts _ timeoutOnly).1 _ _ given tuned_part fun key n holds _ => tuned_fits key n holds
  · exact (parts _ timeoutOnly).2 fun key n holds _ => tuned_fits key n holds

/-- A number that does not fit is held, yet the settings are saved, and their start delay comes back
as 384 milliseconds. -/
theorem belated_comes_early :
    belated.WholeUnits ∧ (∃ key n, belated.Holds key n ∧ tomlMax < n) ∧
      ∃ c, (belated.save (.file [35])).1 = .ok () ∧
        load "agent.toml" (belated.save (.file [35])).2 = .ok c ∧
        c.session.startDelay = .ofMillis 384 ∧
        c.session.startDelay ≠ belated.session.startDelay := by
  have units : belated.WholeUnits := ⟨rfl, rfl, rfl, rfl, rfl, rfl⟩
  have delay : belated.Holds ["session", "start_delay"] 18446744073709552000 :=
    .number (show ("session", belated.session.entries) ∈ belated.sections by simp [sections])
      (by simp [SessionSettings.entries]; rfl)
  obtain ⟨saved, loaded⟩ := save_load_of_fits units.cut readsBack_oneAndHalf readsBack_quarter
    "agent.toml" (.file [35]) (by simp) (le_of_all (by decide))
  rw [save_cut] at saved loaded
  exact ⟨units, ⟨_, _, delay, by decide⟩, belated.cut, saved, loaded, by decide, by decide⟩

end Settings

end Tether
