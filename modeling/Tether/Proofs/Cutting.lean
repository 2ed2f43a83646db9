import Tether.Proofs.Reassembler
import Tether.Proofs.Utf8

/-! A stream may be cut anywhere. Whether a character stands at a place is decided by the next four
bytes, and a place with fewer bytes left and no character waits for more. So a chunk that follows
is decoded from where the last one stopped as it would have been in one piece with it. -/

namespace Tether.Text

namespace Utf8

theorem layout_of_charLength {bs : List UInt8} {n : Nat} (found : charLength bs = n + 1) :
    ∃ value, Layout (bs.take (n + 1)) value := by
  revert found
  fun_cases charLength bs with
  | case2 a r lead =>
    rintro ⟨⟩
    exact ⟨_, .one lead rfl⟩
  | case3 a b r lead second =>
    rintro ⟨⟩
    exact ⟨_, .two lead second rfl⟩
  | case5 a b c r lead tail =>
    rintro ⟨⟩
    rw [Bool.and_eq_true] at tail
    exact ⟨_, .three lead tail.1 tail.2 rfl⟩
  | case7 a b c d r lead tail =>
    rintro ⟨⟩
    simp only [Bool.and_eq_true] at tail
    exact ⟨_, .four lead tail.1.1 tail.1.2 tail.2 rfl⟩
  | _ => exact nofun

theorem le_length_of_found {bs : List UInt8} {n : Nat} (found : charLength bs = n + 1) :
    n + 1 ≤ bs.length := by
  obtain ⟨value, layout⟩ := layout_of_charLength found
  have whole := layout.charLength_append (bs.drop (n + 1))
  rw [List.take_append_drop, found, List.length_take] at whole
  omega

theorem charLength_append_of_found {bs : List UInt8} {n : Nat} (found : charLength bs = n + 1)
    (more : List UInt8) : charLength (bs ++ more) = n + 1 := by
  obtain ⟨value, layout⟩ := layout_of_charLength found
  have whole := layout.charLength_append (bs.drop (n + 1))
  rw [List.take_append_drop, found] at whole
  have longer := layout.charLength_append (bs.drop (n + 1) ++ more)
  rwa [← List.append_assoc, List.take_append_drop, ← whole] at longer

theorem charLength_append_of_four_le {bs : List UInt8} (long : 4 ≤ bs.length)
    (more : List UInt8) : charLength (bs ++ more) = charLength bs := by
  match bs, long with
  | a :: b :: c :: d :: r, _ =>
    match lead : leadLength a with
    | 0 | 1 | 2 | 3 | 4 | n + 5 => simp only [List.cons_append, charLength.eq_def, lead]

end Utf8

namespace Reassembler

/-- Bytes that follow are split together with those held back of the front. The bytes to skip
are part of a character that has been found, so they are all there. -/
theorem split_append_split (skip : Nat) (front rest : List UInt8) (inside : skip ≤ front.length) :
    split skip (front ++ rest) =
      ((split skip front).1 ++ (split 0 ((split skip front).2 ++ rest)).1,
        (split 0 ((split skip front).2 ++ rest)).2) := by
  fun_induction split skip front with
  | case1 skip =>
    obtain rfl : skip = 0 := Nat.le_zero.mp inside
    rfl
  | case2 skip b r out held cut ih =>
    rw [cut] at ih
    simp only [List.cons_append, split, ih (Nat.le_of_succ_le_succ inside)]
  | case3 b r unfound short => rfl
  | case4 b r unfound long out held cut ih =>
    rw [cut] at ih
    rw [List.drop_eq_nil_iff] at long
    have far : ¬ ((b :: r) ++ rest).length ≤ 3 := by
      rw [List.length_append]
      omega
    have still := Utf8.charLength_append_of_four_le (Nat.not_le.mp long) rest
    rw [unfound] at still
    rw [List.cons_append] at far still
    rw [List.cons_append, split, still]
    simp only [List.drop_eq_nil_iff, if_neg far, ih (Nat.zero_le _), List.cons_append]
  | case5 b r n found out held cut ih =>
    rw [cut] at ih
    have size := Utf8.le_length_of_found found
    have still := Utf8.charLength_append_of_found found rest
    rw [List.cons_append] at still
    rw [List.cons_append, split, still]
    simp only [ih (Nat.le_of_succ_le_succ size), List.cons_append]

theorem push_append_push (u : Reassembler) (a b : List UInt8) :
    u.push (a ++ b) = ((u.push a).1 ++ ((u.push a).2.push b).1, ((u.push a).2.push b).2) := by
  have joined := split_append_split 0 (u.pending ++ a) b (Nat.zero_le _)
  rw [List.append_assoc] at joined
  simp only [push, joined]

theorem feed_cons (u : Reassembler) (chunk : List UInt8) (chunks : List (List UInt8)) :
    u.feed (chunk :: chunks) = u.push (chunk :: chunks).flatten := by
  induction chunks generalizing u chunk with
  | nil => simp only [feed, List.flatten_singleton, List.append_nil]
  | cons next chunks ih =>
    rw [List.flatten_cons, push_append_push, ← ih]
    rfl

theorem feed_empty (chunks : List (List UInt8)) :
    empty.feed chunks = empty.push chunks.flatten := by
  cases chunks with
  | nil => rfl
  | cons chunk chunks => exact feed_cons empty chunk chunks

/-- However a stream is cut, what is released and what waits in the end are the stream, at most
three bytes wait, and both are what the stream in one piece comes to. In any state two chunks come
to what they come to as one. -/
theorem cutting_immaterial {chunks others : List (List UInt8)}
    (same : others.flatten = chunks.flatten) :
    (feed empty chunks).1 ++ (feed empty chunks).2.pending = chunks.flatten ∧
      (feed empty chunks).2.pending.length ≤ 3 ∧
      feed empty chunks = push empty chunks.flatten ∧ feed empty others = feed empty chunks ∧
      ∀ (u : Reassembler) (a b : List UInt8),
        u.push (a ++ b) = ((u.push a).1 ++ ((u.push a).2.push b).1, ((u.push a).2.push b).2) := by
  have whole : empty.feed chunks = empty.push chunks.flatten := feed_empty chunks
  have other : empty.feed others = empty.push others.flatten := feed_empty others
  refine ⟨?_, ?_, whole, by rw [other, same, whole], push_append_push⟩
  · rw [whole]
    exact push_append empty chunks.flatten
  · rw [whole]
    exact length_pending_push_le empty chunks.flatten

/-- A character in pieces, a byte that is in no character, and a character that breaks off. -/
theorem brokenText_cut :
    let chunks : List (List UInt8) :=
      [[0xF0], [], [0x9F, 0xA6], [0x80, 0xFF, 0x61, 0x62], [0xE2, 0x82]]
    let others : List (List UInt8) :=
      [[0xF0, 0x9F, 0xA6, 0x80, 0xFF], [0x61, 0x62, 0xE2, 0x82], []]
    others.flatten = chunks.flatten ∧
      empty.feed others = ([0xF0, 0x9F, 0xA6, 0x80, 0xFF, 0x61, 0x62], ⟨[0xE2, 0x82]⟩) ∧
      empty.feed others = empty.feed chunks := by
  intro chunks others
  have same : others.flatten = chunks.flatten := rfl
  obtain ⟨-, -, -, cut, -⟩ := cutting_immaterial same
  exact ⟨same, by decide, cut⟩

end Reassembler

end Tether.Text
