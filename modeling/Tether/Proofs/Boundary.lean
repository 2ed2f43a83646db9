import Tether.Proofs.Cutting

/-! No character begins inside another one, since its first byte may not continue any. So what has
been released ends at the edge of a character, or outside of every character, whatever bytes are
still to come: a place that is passed over either belongs to a character already found, or has
four bytes behind it and begins none. -/

namespace Tether.Text

namespace Utf8

/-- A place in a stream that is inside none of its characters. -/
def IsBoundary (stream : List UInt8) (place : Nat) : Prop :=
  ∀ before c after, stream = before ++ encodeChar c ++ after →
    ¬ (before.length < place ∧ place < before.length + (encodeChar c).length)

theorem isTail_of_isSecond {a b : UInt8} (second : isSecond a b) : isTail b :=
  isTail_iff.mpr ⟨(isSecond_iff.mp second).1, (isSecond_iff.mp second).2.1⟩

theorem leadLength_of_isTail {a : UInt8} (tail : isTail a) : leadLength a = 0 := by
  have range := isTail_iff.mp tail
  simp only [leadLength, UInt8.le_iff_toNat_le, UInt8.lt_iff_toNat_lt, UInt8.reduceToNat]
  rw [if_neg (by omega), if_pos (by omega)]

theorem Layout.not_isTail {a : UInt8} {r : List UInt8} {n : Nat} (layout : Layout (a :: r) n) :
    ¬ isTail a := by
  intro tail
  have none := leadLength_of_isTail tail
  cases layout with
  | one lead => omega
  | two lead => omega
  | three lead => omega
  | four lead => omega

theorem Layout.isTail_of_mem {a : UInt8} {r : List UInt8} {n : Nat} (layout : Layout (a :: r) n) :
    ∀ b ∈ r, isTail b := by
  cases layout with
  | one => simp
  | two _ hb => simpa using isTail_of_isSecond hb
  | three _ hb hc => simpa using ⟨isTail_of_isSecond hb, hc⟩
  | four _ hb hc hd => simpa using ⟨isTail_of_isSecond hb, hc, hd⟩

/-- The bytes of a character: one that begins it, and others that continue it. -/
theorem encodeChar_eq_cons (c : Char) :
    ∃ a r, encodeChar c = a :: r ∧ ¬ isTail a ∧ ∀ b ∈ r, isTail b := by
  have layout := layout_encodeChar c
  cases bytes : encodeChar c with
  | nil => rw [bytes] at layout; cases layout
  | cons a r =>
    rw [bytes] at layout
    exact ⟨a, r, rfl, layout.not_isTail, layout.isTail_of_mem⟩

theorem charLength_encodeChar_append (c : Char) (r : List UInt8) :
    charLength (encodeChar c ++ r) = (encodeChar c).length :=
  (layout_encodeChar c).charLength_append r

/-- The bytes behind the first one of a character that is found are all there to continue it. -/
theorem isTail_of_mem_take {a b : UInt8} {r : List UInt8} {n : Nat}
    (found : charLength (a :: r) = n + 1) (mem : b ∈ r.take n) : isTail b := by
  obtain ⟨value, layout⟩ := layout_of_charLength found
  rw [List.take_succ_cons] at layout
  exact layout.isTail_of_mem b mem

namespace IsBoundary

variable {stream : List UInt8} {place : Nat}

theorem zero : IsBoundary stream 0 := fun _ _ _ _ inside => Nat.not_lt_zero _ inside.1

/-- What ends behind the place is inside no character either, if all of it is kept. -/
theorem of_append {more : List UInt8} (boundary : IsBoundary (stream ++ more) place) :
    IsBoundary stream place := by
  rintro before c after rfl
  exact boundary before c (after ++ more) (by simp)

/-- One more byte in front moves the place on. The byte begins no character that goes beyond
the place. -/
theorem cons {b : UInt8} (boundary : IsBoundary stream place)
    (first : ∀ c after, b :: stream = encodeChar c ++ after → (encodeChar c).length ≤ place + 1) :
    IsBoundary (b :: stream) (place + 1) := by
  rintro (_ | ⟨b', before⟩) c after cut inside
  · have long := first c after (by simpa using cut)
    simp only [List.length_nil] at inside
    omega
  · simp only [List.cons_append, List.cons.injEq] at cut
    simp only [List.length_cons] at inside
    exact boundary before c after (by simpa using cut.2) ⟨by omega, by omega⟩

end IsBoundary

/-- Characters that are cut at a place inside none of them fall into those before it and those
behind it. -/
theorem flatMap_cut {cs : List Char} {place : Nat}
    (boundary : IsBoundary (cs.flatMap encodeChar) place) :
    ∃ k, (cs.flatMap encodeChar).take place = (cs.take k).flatMap encodeChar ∧
      (cs.flatMap encodeChar).drop place = (cs.drop k).flatMap encodeChar := by
  induction cs generalizing place with
  | nil => exact ⟨0, by simp, by simp⟩
  | cons c cs ih =>
    rw [List.flatMap_cons] at boundary ⊢
    rcases Nat.eq_zero_or_pos place with rfl | pos
    · exact ⟨0, by simp, by simp⟩
    have beyond : (encodeChar c).length ≤ place := Nat.le_of_not_lt fun short =>
      boundary [] c (cs.flatMap encodeChar) rfl ⟨pos, by simpa using short⟩
    obtain ⟨past, rfl⟩ := Nat.exists_eq_add_of_le beyond
    have later : IsBoundary (cs.flatMap encodeChar) past := by
      intro before d after cut inside
      refine boundary (encodeChar c ++ before) d after (by simp [cut]) ?_
      rw [List.length_append]
      omega
    obtain ⟨k, front, back⟩ := ih later
    refine ⟨k + 1, ?_, ?_⟩
    · rw [List.take_append, List.take_of_length_le (by omega), Nat.add_sub_cancel_left, front,
        List.take_succ_cons, List.flatMap_cons]
    · rw [List.drop_append, List.drop_of_length_le (by omega), Nat.add_sub_cancel_left, back,
        List.drop_succ_cons, List.nil_append]

theorem wellFormed_cut {stream : List UInt8} {place : Nat} (text : WellFormed stream)
    (boundary : IsBoundary stream place) :
    WellFormed (stream.take place) ∧ WellFormed (stream.drop place) := by
  obtain ⟨s, rfl⟩ := text
  obtain ⟨k, front, back⟩ := flatMap_cut boundary
  exact ⟨⟨_, front.trans (encode_ofList _).symm⟩, ⟨_, back.trans (encode_ofList _).symm⟩⟩

/-- Bytes that begin no character and that a text goes on with break off its first character. -/
theorem breaks_off {bs more : List UInt8} (unfound : charLength bs = 0)
    (text : WellFormed (bs ++ more)) :
    bs = [] ∨ ∃ c, bs <+: encodeChar c ∧ bs.length < (encodeChar c).length := by
  obtain ⟨s, chars⟩ := text
  rw [encode] at chars
  cases cs : s.toList with
  | nil =>
    rw [cs] at chars
    exact .inl (List.append_eq_nil_iff.mp chars).1
  | cons c r =>
    rw [cs, List.flatMap_cons] at chars
    have begins : encodeChar c <+: bs ++ more := ⟨_, chars.symm⟩
    have short : bs.length < (encodeChar c).length := Nat.lt_of_not_le fun long => by
      obtain ⟨t, rfl⟩ := List.prefix_of_prefix_length_le begins (List.prefix_append bs more) long
      rw [charLength_encodeChar_append] at unfound
      exact absurd unfound (Nat.ne_of_gt (layout_encodeChar c).length_pos)
    exact .inr ⟨c, List.prefix_of_prefix_length_le (List.prefix_append bs more) begins
      (Nat.le_of_lt short), short⟩

end Utf8

namespace Reassembler

open Utf8

theorem le_length_split (skip : Nat) (bs : List UInt8) (inside : skip ≤ bs.length) :
    skip ≤ (split skip bs).1.length := by
  fun_induction split skip bs with
  | case1 => exact inside
  | case2 skip b r out held cut ih =>
    rw [cut] at ih
    exact Nat.succ_le_succ (ih (Nat.le_of_succ_le_succ inside))
  | _ => exact Nat.zero_le _

/-- What is held back begins no character. -/
theorem charLength_held (skip : Nat) (bs : List UInt8) :
    charLength (split skip bs).2 = 0 := by
  fun_induction split skip bs with
  | case1 => rfl
  | case3 b r unfound short => exact unfound
  | case2 _ _ _ _ _ cut ih => rwa [cut] at ih
  | case4 _ _ _ _ _ _ cut ih => rwa [cut] at ih
  | case5 _ _ _ _ _ _ cut ih => rwa [cut] at ih

/-- Bytes are released up to a place that is inside no character, whatever follows. Bytes to skip
belong to a character found before, so no other one begins with them. -/
theorem isBoundary_split (skip : Nat) (bs rest : List UInt8) (inside : skip ≤ bs.length)
    (skipped : ∀ b ∈ bs.take skip, isTail b) :
    IsBoundary (bs ++ rest) (split skip bs).1.length := by
  fun_induction split skip bs with
  | case1 => exact .zero
  | case2 skip b r out held cut ih =>
    rw [cut] at ih
    simp only [List.take_succ_cons, List.forall_mem_cons] at skipped
    refine (ih (Nat.le_of_succ_le_succ inside) skipped.2).cons fun c after begins => ?_
    obtain ⟨a, t, bytes, lead, -⟩ := encodeChar_eq_cons c
    rw [bytes, List.cons_append, List.cons.injEq] at begins
    exact absurd (begins.1 ▸ skipped.1) lead
  | case3 => exact .zero
  | case4 b r unfound long out held cut ih =>
    rw [cut] at ih
    rw [List.drop_eq_nil_iff] at long
    refine (ih (Nat.zero_le _) (by simp)).cons fun c after begins => ?_
    have still := charLength_append_of_four_le (Nat.not_le.mp long) rest
    rw [List.cons_append, begins, charLength_encodeChar_append, unfound] at still
    omega
  | case5 b r n found out held cut ih =>
    have size := Nat.le_of_succ_le_succ (le_length_of_found found)
    have whole := le_length_split n r size
    rw [cut] at ih whole
    refine (ih size fun b mem => isTail_of_mem_take found mem).cons fun c after begins => ?_
    have still := charLength_append_of_found found rest
    rw [List.cons_append, begins, charLength_encodeChar_append] at still
    omega

theorem feed_push (earlier : List (List UInt8)) (chunk : List UInt8) :
    split 0 (earlier.flatten ++ chunk) =
      ((empty.feed earlier).1 ++ ((empty.feed earlier).2.push chunk).1,
        ((empty.feed earlier).2.push chunk).2.pending) := by
  have joined := push_append_push empty earlier.flatten chunk
  rw [← feed_empty] at joined
  have released : (split 0 (earlier.flatten ++ chunk)).1 =
      (empty.feed earlier).1 ++ ((empty.feed earlier).2.push chunk).1 := congrArg Prod.fst joined
  have held : (split 0 (earlier.flatten ++ chunk)).2 =
      ((empty.feed earlier).2.push chunk).2.pending := congrArg (fun p => p.2.pending) joined
  rw [← released, ← held]

theorem isBoundary_feed (chunks : List (List UInt8)) (rest : List UInt8) :
    IsBoundary (chunks.flatten ++ rest) (empty.feed chunks).1.length := by
  rw [feed_empty]
  exact isBoundary_split 0 chunks.flatten rest (Nat.zero_le _) (by simp)

/-- What a push releases ends at a place of the stream that is inside none of its characters, those
included that have not arrived in whole. Of a text each push releases a text, and what then waits
is nothing or breaks off one character. -/
theorem characters_whole (earlier : List (List UInt8)) (chunk : List UInt8)
    (later : List (List UInt8)) :
    let before : List UInt8 × Reassembler := empty.feed earlier
    let after := before.2.push chunk
    let stream := (earlier ++ chunk :: later).flatten
    let place := before.1.length + after.1.length
    before.1 ++ after.1 = stream.take place ∧ IsBoundary stream place ∧
      (WellFormed stream → WellFormed after.1 ∧
        (after.2.pending = [] ∨ ∃ c, after.2.pending <+: encodeChar c ∧
          after.2.pending.length < (encodeChar c).length)) := by
  intro before after stream place
  have cut : split 0 (earlier.flatten ++ chunk) = (before.1 ++ after.1, after.2.pending) :=
    feed_push earlier chunk
  have taken : stream = earlier.flatten ++ chunk ++ later.flatten := by simp [stream]
  have parts : before.1 ++ after.1 ++ after.2.pending = earlier.flatten ++ chunk := by
    have whole := split_append 0 (earlier.flatten ++ chunk)
    rwa [cut] at whole
  have released : before.1 ++ after.1 = stream.take place := by
    rw [taken, ← parts, List.append_assoc, List.take_left' (by simp [place])]
  have boundary : IsBoundary stream place := by
    have whole := isBoundary_split 0 (earlier.flatten ++ chunk) later.flatten (Nat.zero_le _)
      (by simp)
    rwa [cut, ← taken, List.length_append] at whole
  refine ⟨released, boundary, fun text => ?_⟩
  obtain ⟨front, back⟩ := wellFormed_cut text boundary
  constructor
  · have start : IsBoundary (before.1 ++ after.1) before.1.length := by
      have edge := isBoundary_feed earlier (chunk ++ later.flatten)
      rw [← List.append_assoc, ← taken, ← List.take_append_drop place stream, ← released] at edge
      exact edge.of_append
    rw [← released] at front
    simpa using (wellFormed_cut front start).2
  · have rest : stream.drop place = after.2.pending ++ later.flatten := by
      rw [taken, ← parts, List.append_assoc, List.drop_left' (by simp [place])]
    have unfound := charLength_held 0 (earlier.flatten ++ chunk)
    rw [cut] at unfound
    exact breaks_off unfound (rest ▸ back)

/-- A character of four bytes goes out with the chunk that completes it, and not before. -/
example :
    let (out, u) := empty.feed [[0x61, 0xF0], [0x9F, 0x98]]
    out = [0x61] ∧ u.push [0x80, 0x62] = ([0xF0, 0x9F, 0x98, 0x80, 0x62], empty) := by decide

/-- An invalid byte goes through when enough bytes follow; the character behind it waits. -/
example : empty.push [0xFF, 0x61, 0xE2, 0x82] = ([0xFF, 0x61], ⟨[0xE2, 0x82]⟩) := by decide

end Reassembler

end Tether.Text
