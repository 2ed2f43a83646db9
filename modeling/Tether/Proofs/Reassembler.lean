import Tether.Text.Reassembler

/-! Cutting between characters loses nothing, and holds back at most three bytes. -/

namespace Tether.Text.Reassembler

theorem split_append (skip : Nat) (bs : List UInt8) :
    (split skip bs).1 ++ (split skip bs).2 = bs := by
  fun_induction split with
  | case1 => rfl
  | case2 skip b r out held cut ih =>
    rw [cut] at ih
    exact congrArg (b :: ·) ih
  | case3 b r _ _ => rfl
  | case4 b r _ _ out held cut ih =>
    rw [cut] at ih
    exact congrArg (b :: ·) ih
  | case5 b r n _ out held cut ih =>
    rw [cut] at ih
    exact congrArg (b :: ·) ih

theorem length_held_le (skip : Nat) (bs : List UInt8) : (split skip bs).2.length ≤ 3 := by
  fun_induction split with
  | case1 => exact Nat.zero_le 3
  | case2 skip b r out held cut ih =>
    rw [cut] at ih
    exact ih
  | case3 b r _ short => exact List.drop_eq_nil_iff.mp short
  | case4 b r _ _ out held cut ih =>
    rw [cut] at ih
    exact ih
  | case5 b r n _ out held cut ih =>
    rw [cut] at ih
    exact ih

variable (u : Reassembler) (chunk : List UInt8)

theorem push_append :
    (u.push chunk).1 ++ (u.push chunk).2.pending = u.pending ++ chunk :=
  split_append 0 _

theorem length_pending_push_le : (u.push chunk).2.pending.length ≤ 3 := length_held_le 0 _

theorem length_push_le : (u.push chunk).1.length ≤ u.pending.length + chunk.length := by
  have length := congrArg List.length (push_append u chunk)
  simp only [List.length_append] at length
  omega

end Tether.Text.Reassembler
