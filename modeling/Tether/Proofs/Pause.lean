import Mathlib.Algebra.Order.Field.Rat
import Mathlib.Tactic.Linarith
import Mathlib.Tactic.NormNum
import Mathlib.Tactic.Positivity
import Tether.Proofs.Throttle

/-! The pause between two packets, for every rate and packets of every size. Of the three divisions
that it takes none is by zero; it is the longest pause that lets as many whole packets through in a
second as the rate asks for. -/

namespace Tether.SendRate

theorem quotient?_of_pos (n : UInt64) {d : UInt64} (pos : 0 < d.toNat) :
    quotient? n d = some (n / d) := by
  have ne : d ≠ 0 := by
    rintro rfl
    exact absurd pos (by decide)
  rw [quotient?, if_neg ne]

theorem toNat_max_one_pos (n : UInt64) : 0 < (max 1 n).toNat := by
  rw [UInt64.toNat_max]
  exact Nat.lt_of_lt_of_le Nat.one_pos (Nat.le_max_left ..)

theorem pause?_eq_some (bps packet : UInt64) :
    pause? bps packet = some (1000 / max 1 (bps / 8 / max 1 packet)) := by
  have bytes : quotient? bps 8 = some (bps / 8) := quotient?_of_pos bps (by decide)
  have whole : quotient? (bps / 8) (max 1 packet) = some (bps / 8 / max 1 packet) :=
    quotient?_of_pos _ (toNat_max_one_pos packet)
  have millis := quotient?_of_pos 1000 (toNat_max_one_pos (bps / 8 / max 1 packet))
  simp only [pause?, bytes, whole, millis, Option.bind_eq_bind, Option.bind_some]

theorem map_toNat_pause? (bps packet : UInt64) :
    (pause? bps packet).map UInt64.toNat = some (interval ⟨bps.toNat⟩ packet.toNat) := by
  rw [pause?_eq_some, Option.map_some, UInt64.toNat_div, UInt64.toNat_max, UInt64.toNat_div,
    UInt64.toNat_div, UInt64.toNat_max]
  rfl

variable (rate : SendRate) (packet : Nat)

theorem packets_eq : rate.packets packet = max 1 (rate.bps / (8 * max packet 1)) := by
  rw [packets, Nat.div_div_eq_div_mul, Nat.max_comm packet 1]

theorem packets_monotone : Monotone fun bps => packets ⟨bps⟩ packet := fun _ _ le =>
  max_le_max_left 1 (Nat.div_le_div_right (Nat.div_le_div_right le))

theorem packets_antitone : Antitone rate.packets := fun small _ le =>
  have pos : 0 < max 1 small := Nat.lt_of_lt_of_le Nat.one_pos (Nat.le_max_left ..)
  max_le_max_left 1 (Nat.div_le_div_left (max_le_max_left 1 le) pos)

theorem interval_antitone : Antitone fun bps => interval ⟨bps⟩ packet := fun _ _ le =>
  Nat.div_le_div_left (packets_monotone packet le) (packets_pos ..)

theorem interval_monotone : Monotone rate.interval := fun _ _ le =>
  Nat.div_le_div_left (packets_antitone rate le) (packets_pos ..)

theorem interval_le : rate.interval packet ≤ 1000 := Nat.div_le_self ..

theorem interval_run_le (cs : List Flow.Change) :
    ((Flow.start packet rate).run cs).interval ≤ 1000 := by
  rw [Flow.run_start]
  exact interval_le ..

/-! ### What goes out in a second -/

theorem packets_mul_interval_le : rate.packets packet * rate.interval packet ≤ 1000 :=
  Nat.mul_div_le ..

theorem lt_packets_mul_succ_interval : 1000 < rate.packets packet * (rate.interval packet + 1) :=
  Nat.lt_mul_div_succ _ (packets_pos ..)

/-- What a rate asks for is less than one more packet a second. -/
theorem bps_lt : rate.bps < 8 * max packet 1 * (rate.packets packet + 1) := by
  have size : 0 < 8 * max packet 1 := by omega
  calc rate.bps < 8 * max packet 1 * (rate.bps / (8 * max packet 1) + 1) :=
        Nat.lt_mul_div_succ _ size
    _ ≤ 8 * max packet 1 * (rate.packets packet + 1) := by
        rw [packets_eq]
        exact Nat.mul_le_mul_left _ (Nat.succ_le_succ (Nat.le_max_right ..))

theorem bps_sub_lt (paused : 0 < rate.interval packet) :
    (rate.bps : ℚ) - 8 * max packet 1 < 8 * max packet 1 * 1000 / rate.interval packet := by
  have pause : (0 : ℚ) < rate.interval packet := by exact_mod_cast paused
  have size : (0 : ℚ) ≤ 8 * max packet 1 := by positivity
  have asked : (rate.bps : ℚ) < 8 * max packet 1 * (rate.packets packet + 1) := by
    exact_mod_cast bps_lt rate packet
  have sent : (rate.packets packet : ℚ) ≤ 1000 / rate.interval packet := by
    rw [le_div_iff₀ pause]
    exact_mod_cast packets_mul_interval_le rate packet
  calc (rate.bps : ℚ) - 8 * max packet 1 < 8 * max packet 1 * rate.packets packet := by linarith
    _ ≤ 8 * max packet 1 * (1000 / rate.interval packet) := mul_le_mul_of_nonneg_left sent size
    _ = 8 * max packet 1 * 1000 / rate.interval packet := (mul_div_assoc ..).symm

theorem div_succ_interval_lt : (1000 : ℚ) / (rate.interval packet + 1) < rate.packets packet := by
  have pause : (0 : ℚ) < rate.interval packet + 1 := by positivity
  rw [div_lt_iff₀ pause]
  exact_mod_cast lt_packets_mul_succ_interval rate packet

/-- The pause comes out of words of 64 bits without a division by zero and is a second at most, also
after any changes of the rate. It never grows with the rate and never shrinks with the size of a
packet. A pump that sends full packets with such a pause is less than one packet a second short of
the rate, and with a pause of a millisecond more it would send fewer whole packets than the rate
asks for, of which it asks for one at least. -/
theorem pause_exact (rate : SendRate) (packet : Nat) :
    let size := max packet 1
    let pause := rate.interval packet
    (∀ bps bytes : UInt64,
      (pause? bps bytes).map UInt64.toNat = some (interval ⟨bps.toNat⟩ bytes.toNat)) ∧
    pause ≤ 1000 ∧
    (∀ cs, ((Flow.start packet rate).run cs).interval ≤ 1000) ∧
    (Antitone fun bps => interval ⟨bps⟩ packet) ∧
    Monotone rate.interval ∧
    (0 < pause →
      (rate.bps : ℚ) - 8 * size < 8 * size * 1000 / pause ∧
      (1000 : ℚ) / (pause + 1) < (max 1 (rate.bps / (8 * size)) : ℕ)) := by
  have goesOut := div_succ_interval_lt rate packet
  rw [packets_eq] at goesOut
  refine ⟨map_toNat_pause?, interval_le rate packet, interval_run_le rate packet,
    interval_antitone packet, interval_monotone rate, fun paused => ⟨?_, ?_⟩⟩
  · exact_mod_cast bps_sub_lt rate packet paused
  · exact goesOut

/-- One bit a second short of three packets. -/
theorem almostThree_paused :
    interval ⟨24575⟩ 1024 = 500 ∧
    (24575 : ℚ) - 8 * 1024 < 8 * 1024 * 1000 / 500 ∧ (1000 : ℚ) / (500 + 1) < 2 := by
  have paused : interval ⟨24575⟩ 1024 = 500 := by decide
  have exact := (pause_exact ⟨24575⟩ 1024).2.2.2.2.2 (by rw [paused]; decide)
  rw [paused] at exact
  refine ⟨paused, ?_, ?_⟩
  · exact_mod_cast exact.1
  · exact_mod_cast exact.2

end Tether.SendRate
