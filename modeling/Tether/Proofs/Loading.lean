import Tether.Proofs.Documents
import Tether.Proofs.Utf8
import Tether.Settings.Sound

/-! Settings that are loaded keep the rules. The check of the multiplier asks whether it is below
one, and what is not a number is not; the check of the jitter asks whether it is in its range. -/

namespace Tether

/-! ### Comparing floats -/

section

open Float.Model

variable {x y : Float}

/-- Numbers compare one way or another, and seen from the other side that is turned around. -/
theorem compare_swap_of_numbers {a b : UnpackedFloat} (left : a.isNaN = false)
    (right : b.isNaN = false) : ∃ o, a.compare b = some o ∧ b.compare a = some o.swap := by
  cases a with
  | notANumber => cases left
  | infinity s =>
    cases b with
    | notANumber => cases right
    | infinity s' => cases s <;> cases s' <;> exact ⟨_, rfl, rfl⟩
    | zero _ | finite _ => cases s <;> exact ⟨_, rfl, rfl⟩
  | zero s =>
    cases b with
    | notANumber => cases right
    | zero _ => exact ⟨_, rfl, rfl⟩
    | infinity s' | finite s' => cases s' <;> exact ⟨_, rfl, rfl⟩
  | finite s m e =>
    cases b with
    | notANumber => cases right
    | infinity s' => cases s' <;> cases s <;> exact ⟨_, rfl, rfl⟩
    | zero _ => cases s <;> exact ⟨_, rfl, rfl⟩
    | finite s' m' e' =>
      have mirrored : (compare e' e).then (compare m' m) =
          ((compare e e').then (compare m m')).swap := by
        rw [Ordering.swap_then, Int.compare_swap, Nat.compare_swap]
      cases s with
      | positive =>
        cases s' with
        | positive => exact ⟨_, rfl, congrArg some mirrored⟩
        | negative => exact ⟨_, rfl, rfl⟩
      | negative =>
        cases s' with
        | positive => exact ⟨_, rfl, rfl⟩
        | negative => exact ⟨_, rfl, congrArg (some ∘ Ordering.swap) mirrored⟩

theorem compare_of_isNaN {a : UnpackedFloat} (nan : a.isNaN) (b : UnpackedFloat) :
    a.compare b = none ∧ b.compare a = none := by
  cases a with
  | notANumber => cases b <;> exact ⟨rfl, rfl⟩
  | infinity | zero | finite => cases nan

theorem float_lt_iff : x < y ↔ x.toModel.unpack.compare y.toModel.unpack = some .lt :=
  decide_eq_true_iff.trans beq_iff_eq

theorem float_le_iff :
    x ≤ y ↔ ∃ o, x.toModel.unpack.compare y.toModel.unpack = some o ∧ o.isLE :=
  decide_eq_true_iff.trans (Option.any_eq_true _ _)

theorem not_le_of_isNaN (nan : x.isNaN) : ¬ y ≤ x := by
  rw [float_le_iff, (compare_of_isNaN nan y.toModel.unpack).2]
  rintro ⟨o, none, -⟩
  cases none

/-- Not to be below a number is to be at least that number, or to be no number at all. -/
theorem float_not_lt_iff (number : y.isNaN = false) : ¬ x < y ↔ y ≤ x ∨ x.isNaN := by
  rw [float_lt_iff]
  cases nan : x.isNaN with
  | true =>
    rw [(compare_of_isNaN nan _).1]
    simp
  | false =>
    obtain ⟨o, forth, back⟩ := compare_swap_of_numbers nan number
    rw [float_le_iff, forth, back]
    cases o <;> simp

end

/-! ### The rules -/

/-- A check that is passed. -/
theorem ite_error_eq_ok_iff {ε α : Type} {p : Prop} [Decidable p] {e : ε} {r : Except ε α} {a : α} :
    (if p then .error e else r) = .ok a ↔ ¬ p ∧ r = .ok a := by
  split <;> simp [*]

theorem Backoff.validate_eq_ok_iff {b : Backoff} :
    b.validate = .ok () ↔ b.Bounded ∧ (1.0 ≤ b.multiplier ∨ b.multiplier.isNaN) := by
  rw [← float_not_lt_iff (by decide +kernel)]
  simp only [validate, ite_error_eq_ok_iff, Decidable.not_not, Nat.not_lt, and_true]
  constructor
  · rintro ⟨growth, jitter, pauses⟩
    exact ⟨⟨jitter, pauses⟩, growth⟩
  · rintro ⟨⟨jitter, pauses⟩, growth⟩
    exact ⟨growth, jitter, pauses⟩

namespace Settings

open Toml

theorem one_le_iff {n : UInt32} : 1 ≤ n ↔ n ≠ 0 := by
  rw [UInt32.le_iff_toNat_le, ne_eq, ← UInt32.toNat_inj]
  exact Nat.one_le_iff_ne_zero

theorem validate_eq_ok_iff {c : Settings} : c.validate = .ok () ↔
    c.Bounded ∧ (1.0 ≤ c.reconnect.multiplier ∨ c.reconnect.multiplier.isNaN) := by
  rw [validate]
  cases checked : c.reconnect.validate with
  | error flaw =>
    refine iff_of_false nofun fun ⟨bounded, growth⟩ => ?_
    rw [Backoff.validate_eq_ok_iff.mpr ⟨bounded.reconnect, growth⟩] at checked
    cases checked
  | ok =>
    obtain ⟨reconnect, growth⟩ := Backoff.validate_eq_ok_iff.mp checked
    simp only [ite_error_eq_ok_iff, ← Nat.pos_iff_ne_zero, ← one_le_iff, Nat.not_lt, gt_iff_lt,
      and_true]
    constructor
    · rintro ⟨ping, limit, idle, schema⟩
      exact ⟨⟨reconnect, ping, limit, idle, schema⟩, growth⟩
    · rintro ⟨bounded, -⟩
      exact ⟨bounded.pingInterval, bounded.readErrorLimit, bounded.idleTimeout, bounded.schema⟩

theorem standard_sound : standard.Sound where
  reconnect := ⟨by decide +kernel, by decide⟩
  pingInterval := by decide
  readErrorLimit := by decide
  idleTimeout := by decide
  schema := by decide
  growth := by decide +kernel

/-! ### What is no number in a file -/

theorem writer_value_nan : Writer.value (.real (0.0 / 0.0)) = ['n', 'a', 'n'] := by
  rw [Writer.value, Writer.real, if_pos (by decide +kernel)]
  rfl

theorem readsBack_nan : ReadsBack (.real (0.0 / 0.0)) := by
  apply readsBack_of_begins
  · exact ⟨'n', ['a', 'n'], writer_value_nan, by decide⟩
  · intro fuel rest long
    obtain ⟨fuel, rfl⟩ := Nat.exists_eq_succ_of_ne_zero (Nat.ne_zero_of_lt long)
    rw [writer_value_nan]
    rfl

/-- A section with one entry. -/
theorem read?_entry {s k : String} {v : Value} (text : String)
    (written : text.toList = '[' :: s.toList ++ [']', '\n'] ++
      (k.toList ++ " = ".toList ++ Writer.value v ++ ['\n'] ++ []))
    (bare : isBareKey s ∧ isBareKey k) (back : ReadsBack v) :
    read? text = some [(s, .table [(k, v)])] := by
  have new : ([] : Node.Entries).lookup s = none := rfl
  have entered : Document.empty.enter false [s] = some ⟨[(s, .table .header [])], [s]⟩ :=
    Document.enter_section new []
  have assigned : Document.assign ⟨[(s, .table .header [])], [s]⟩ [k] v =
      some ⟨[(s, .table .header [(k, .value v)])], [s]⟩ :=
    Document.assign_section new rfl v
  have reads : Reader.ReadsTo .empty text.toList
      ⟨[(s, .table .header [(k, .value v)])], [s]⟩ := by
    intro fuel long
    rw [written] at long ⊢
    obtain ⟨fuel, rfl⟩ := Nat.exists_eq_succ_of_ne_zero (Nat.ne_zero_of_lt long)
    rw [Reader.lines_header fuel _ bare.1 entered]
    refine Reader.readsTo_keyLine bare.2 back assigned (Reader.readsTo_nil _) fuel ?_
    simp only [List.cons_append, List.length_cons, List.length_append] at long ⊢
    omega
  rw [read?_of_readsTo (by rw [written]; simp) reads]
  simp [Node.toEntries, Node.toValue]

/-! ### Loading -/

theorem load_file (path : String) (content : List UInt8) : load path (.file content) =
    match Text.Utf8.decode? content with
    | some text => ofText text
    | none => .error (.invalid "Failed to read config: stream did not contain valid UTF-8") := by
  rw [load, readFile]
  cases Text.Utf8.decode? content <;> rfl

theorem ofText_eq_ok_iff {text : String} {c : Settings} :
    ofText text = .ok c ↔ ∃ t, read? text = some t ∧ ofToml? t = some c := by
  rw [← Option.bind_eq_some_iff, ofText]
  split <;> simp [*]

theorem load_eq_ok_iff {path : String} {state : FileState} {c : Settings} :
    load path state = .ok c ↔ state ≠ .absent ∧ state.Gives c := by
  constructor
  · intro ok
    cases state with
    | absent | directory => cases ok
    | file content =>
      rw [load_file] at ok
      split at ok
      · next decoded =>
        obtain ⟨t, parsed, shaped⟩ := ofText_eq_ok_iff.mp ok
        exact ⟨nofun, .file decoded parsed shaped⟩
      · cases ok
  · rintro ⟨present, given⟩
    cases given with
    | absent => exact absurd rfl present
    | file decoded parsed shaped =>
      rw [load_file, decoded]
      exact ofText_eq_ok_iff.mpr ⟨_, parsed, shaped⟩

/-- Only where nothing is there is nothing found. -/
theorem load_of_present {path : String} {state : FileState} (present : state ≠ .absent)
    {e : SettingsFault} (failed : load path state = .error e) : ∀ p, e ≠ .notFound p := by
  rintro p rfl
  cases state with
  | absent => exact present rfl
  | directory => cases failed
  | file content =>
    rw [load_file] at failed
    split at failed
    · rw [ofText] at failed
      split at failed <;> cases failed
    · cases failed

theorem loadValid_of_failed {path : String} {state : FileState} (present : state ≠ .absent)
    {e : SettingsFault} (failed : load path state = .error e) :
    loadValid path state = .error e := by
  have other := load_of_present present failed
  rw [loadValid, failed]
  cases e with
  | notFound p => exact absurd rfl (other p)
  | invalid | unreadable | unwritable => rfl

/-- What stands at the path is checked, whether it is there or not. -/
theorem loadValid_of_gives {path : String} {state : FileState} {c : Settings}
    (given : state.Gives c) : loadValid path state =
      match c.validate with
      | .ok () => .ok c
      | .error flaw => .error (.invalid flaw.message) := by
  by_cases present : state = .absent
  · subst present
    cases given
    rfl
  · rw [loadValid, load_eq_ok_iff.mpr ⟨present, given⟩]
    rfl

theorem loadValid_eq_ok_iff {path : String} {state : FileState} {c : Settings} :
    loadValid path state = .ok c ↔ state.Gives c ∧ c.Bounded ∧
      (1.0 ≤ c.reconnect.multiplier ∨ c.reconnect.multiplier.isNaN) := by
  rw [← validate_eq_ok_iff]
  constructor
  · intro ok
    obtain ⟨c', given⟩ : ∃ c', state.Gives c' := by
      by_cases present : state = .absent
      · exact ⟨standard, present ▸ .absent⟩
      · cases loaded : load path state with
        | ok c' => exact ⟨c', (load_eq_ok_iff.mp loaded).2⟩
        | error e =>
          rw [loadValid_of_failed present loaded] at ok
          cases ok
    rw [loadValid_of_gives given] at ok
    split at ok
    · next valid =>
      obtain rfl := Except.ok.inj ok
      exact ⟨given, valid⟩
    · cases ok
  · rintro ⟨given, valid⟩
    rw [loadValid_of_gives given, valid]

/-- Loaded settings are sound exactly if their multiplier is a number. Nothing at the path stands
for the defaults, which are sound. Whatever else does not give settings is a fault, the one that
reading it ends with, and so are settings that break a rule. -/
theorem loaded_sound (path : String) (state : FileState) :
    (∀ c, loadValid path state = .ok c ↔ state.Gives c ∧ c.Bounded ∧
      (1.0 ≤ c.reconnect.multiplier ∨ c.reconnect.multiplier.isNaN)) ∧
    (∀ c, loadValid path state = .ok c → (c.Sound ↔ c.reconnect.multiplier.isNaN = false)) ∧
    (state = .absent → loadValid path state = .ok standard ∧ standard.Sound) ∧
    (∀ c, state.Gives c → ∀ flaw, c.validate = .error flaw →
      loadValid path state = .error (.invalid flaw.message)) ∧
    ((∀ c, ¬ state.Gives c) →
      ∃ e, load path state = .error e ∧ loadValid path state = .error e) := by
  refine ⟨fun c => loadValid_eq_ok_iff, fun c ok => ⟨fun sound => ?_, fun number => ?_⟩, ?_,
    fun c given flaw flawed => ?_, fun nothing => ?_⟩
  · rw [← Bool.not_eq_true]
    exact fun nan => not_le_of_isNaN nan sound.growth
  · obtain ⟨-, bounded, growth | nan⟩ := loadValid_eq_ok_iff.mp ok
    · exact ⟨bounded, growth⟩
    · rw [number] at nan
      cases nan
  · rintro rfl
    exact ⟨loadValid_eq_ok_iff.mpr ⟨.absent, standard_sound.toBounded,
      .inl standard_sound.growth⟩, standard_sound⟩
  · rw [loadValid_of_gives given, flawed]
  · cases loaded : load path state with
    | ok c => exact absurd (load_eq_ok_iff.mp loaded).2 (nothing c)
    | error e =>
      have present : state ≠ .absent := by
        rintro rfl
        exact nothing _ .absent
      exact ⟨e, rfl, loadValid_of_failed present loaded⟩

/-- A multiplier that is no number. -/
def numberless : FileState :=
  .file (Text.Utf8.encode "[reconnect]\nmultiplier = nan\n")

theorem numberless_loaded : ∃ c, loadValid "agent.toml" numberless = .ok c ∧
    ¬ 1.0 ≤ c.reconnect.multiplier := by
  have read : read? "[reconnect]\nmultiplier = nan\n" =
      some [("reconnect", .table [("multiplier", .real (0.0 / 0.0))])] :=
    read?_entry _ (by rw [writer_value_nan]; decide) (by decide) readsBack_nan
  have nan : (0.0 / 0.0 : Float).isNaN := by decide +kernel
  exact ⟨{ standard with reconnect := { Backoff.standard with multiplier := 0.0 / 0.0 } },
    loadValid_eq_ok_iff.mpr ⟨.file (Text.Utf8.decode?_encode _) read rfl,
      ⟨⟨standard_sound.reconnect.jitter, standard_sound.reconnect.pauses⟩,
        standard_sound.pingInterval, standard_sound.readErrorLimit, standard_sound.idleTimeout,
        standard_sound.schema⟩, .inr nan⟩, not_le_of_isNaN nan⟩

end Settings

end Tether
