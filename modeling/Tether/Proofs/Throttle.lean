import Tether.Flow
import Tether.Proofs.Word

/-! Throttles under any sequence of changes. Each change either does nothing or starts the throttle
anew at its rate, so the last change that has a rate decides, and before it the first rate does. -/

namespace Tether.Flow

open Wire

theorem setRate_of_pos (f : Flow) {bps : Nat} (pos : bps ≠ 0) :
    f.setRate bps = (some (SendRate.interval ⟨bps⟩ f.packet), start f.packet ⟨bps⟩) := if_neg pos

/-- A status sets the number that its bytes write, whole. -/
theorem applyStatus_of_rate (f : Flow) {bytes : List UInt8} (present : 1 ≤ bytes.length)
    (most : bytes.length ≤ 4) :
    f.applyStatus (setRateCode :: bytes) = (f.setRate (Word.ofBigEndian bytes)).2 := by
  have counted : ¬ (bytes.length = 0 ∨ bytes.length > 4) := by omega
  have fits : Word.ofBigEndian bytes < UInt32.size :=
    calc Word.ofBigEndian bytes < 256 ^ bytes.length := Word.ofBigEndian_lt bytes
      _ ≤ 256 ^ 4 := Nat.pow_le_pow_right (by decide) most
  simp only [applyStatus, Status.ofPayload, ne_eq, not_true_eq_false, if_false, if_neg counted,
    UInt32.toNat_ofNat_of_lt' fits]

theorem applyStatus_of_code (f : Flow) {code : UInt8} (other : code ≠ setRateCode)
    (bytes : List UInt8) : f.applyStatus (code :: bytes) = f := by
  rw [applyStatus, Status.ofPayload, if_pos other]

theorem applyStatus_of_length (f : Flow) {bytes : List UInt8}
    (unread : ¬ (1 ≤ bytes.length ∧ bytes.length ≤ 4)) :
    f.applyStatus (setRateCode :: bytes) = f := by
  have counted : bytes.length = 0 ∨ bytes.length > 4 := by omega
  rw [applyStatus, Status.ofPayload, if_neg (not_not_intro rfl), if_pos counted]

/-- A change starts the throttle anew at its rate, or leaves it alone. -/
theorem apply_eq (f : Flow) (c : Change) : f.apply c = c.rate?.elim f (start f.packet) := by
  cases c with
  | rate bps =>
    by_cases zero : bps = 0
    · subst zero
      rfl
    · have pos : bps.toNat ≠ 0 := fun same => zero (UInt32.toNat_inj.mp same)
      rw [apply, setRate_of_pos f pos, Change.rate?, if_neg zero]
      rfl
  | status payload =>
    cases payload with
    | nil => rfl
    | cons code bytes =>
      by_cases set : code = setRateCode
      · subst set
        by_cases read : 1 ≤ bytes.length ∧ bytes.length ≤ 4
        · rw [apply, applyStatus_of_rate f read.1 read.2]
          by_cases zero : Word.ofBigEndian bytes = 0
          · simp [setRate, Change.rate?, zero]
          · simp [setRate_of_pos f zero, Change.rate?, read, zero]
        · rw [apply, applyStatus_of_length f read, Change.rate?,
            if_neg fun sets => read ⟨sets.2.1, sets.2.2.1⟩]
          rfl
      · rw [apply, applyStatus_of_code f set, Change.rate?, if_neg fun sets => set sets.1]
        rfl

theorem run_cons (f : Flow) (c : Change) (cs : List Change) :
    f.run (c :: cs) = (f.apply c).run cs := rfl

theorem run_start (packet : Nat) (rate : SendRate) (cs : List Change) :
    (start packet rate).run cs =
      start packet ((cs.filterMap Change.rate?).getLast?.getD rate) := by
  induction cs generalizing rate with
  | nil => rfl
  | cons c cs ih =>
    rw [run_cons, apply_eq]
    cases sets : c.rate? with
    | none => rw [List.filterMap_cons_none sets, Option.elim_none, ih]
    | some next =>
      rw [List.filterMap_cons_some sets, List.getLast?_cons, Option.getD_some]
      exact ih next

theorem rate?_status_eq_some_iff {payload : List UInt8} {rate : SendRate} :
    (Change.status payload).rate? = some rate ↔
      ∃ bytes, payload = 7 :: bytes ∧ 1 ≤ bytes.length ∧ bytes.length ≤ 4 ∧
        rate.bps = Word.ofBigEndian bytes ∧ rate.bps ≠ 0 := by
  cases payload with
  | nil => simp [Change.rate?]
  | cons code bytes =>
    obtain ⟨bps⟩ := rate
    simp only [Change.rate?, Option.ite_none_right_eq_some, Option.some.injEq, SendRate.mk.injEq,
      List.cons.injEq]
    constructor
    · rintro ⟨⟨set, present, most, pos⟩, rfl⟩
      exact ⟨bytes, ⟨set, rfl⟩, present, most, rfl, pos⟩
    · rintro ⟨_, ⟨set, rfl⟩, present, most, rfl, pos⟩
      exact ⟨⟨set, present, most, pos⟩, rfl⟩

/-- After any changes a throttle is as the last rate that is not zero makes it, whether it was set
or came in a status; the pause between two packets is that rate's. A status has a rate just if it
is the code and one to four bytes that are not all zero, most significant first: zeros in front add
nothing, and a word of 32 bits has room for all of it. Everything else leaves the throttle alone. -/
theorem last_rate_rules (packet : Nat) (rate : SendRate) (cs : List Change) :
    let ruling := (cs.filterMap Change.rate?).getLast?.getD rate
    (start packet rate).run cs = start packet ruling ∧
    ((start packet rate).run cs).interval = ruling.interval packet ∧
    (∀ (f : Flow) (c : Change), c.rate? = none → f.apply c = f) ∧
    (∀ bps r, (Change.rate bps).rate? = some r ↔ bps ≠ 0 ∧ r.bps = bps.toNat) ∧
    (∀ payload r, (Change.status payload).rate? = some r ↔
      ∃ bytes, payload = 7 :: bytes ∧ 1 ≤ bytes.length ∧ bytes.length ≤ 4 ∧
        r.bps = Word.ofBigEndian bytes ∧ r.bps ≠ 0) ∧
    (∀ bytes, bytes ≠ [] → bytes.length ≤ 3 →
      (Change.status (7 :: 0 :: bytes)).rate? = (Change.status (7 :: bytes)).rate?) ∧
    ∀ bytes, bytes.length ≤ 4 → (Word.shiftedIn bytes).toNat = Word.ofBigEndian bytes := by
  have ruled := run_start packet rate cs
  refine ⟨ruled, by rw [ruled]; rfl, fun f c idle => by rw [apply_eq, idle]; rfl, fun bps r => ?_,
    fun _ _ => rate?_status_eq_some_iff, fun bytes present most => ?_,
    fun _ => Word.toNat_shiftedIn⟩
  · obtain ⟨n⟩ := r
    simp [Change.rate?, eq_comm]
  · have front : Word.ofBigEndian (0 :: bytes) = Word.ofBigEndian bytes := rfl
    have length : 1 ≤ bytes.length := List.length_pos_iff.mpr present
    have room : bytes.length + 1 ≤ 4 := by omega
    simp [Change.rate?, front, length, room, show bytes.length ≤ 4 by omega]

end Tether.Flow
