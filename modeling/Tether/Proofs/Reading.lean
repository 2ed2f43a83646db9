import Tether.Proofs.Frame
import Tether.Wire.Reading

/-! What the reader of frames accepts, and how it refuses the rest. No access of it goes out of
bounds: each slot is checked before it is cut out, and what is taken for granted later is in the
slot, or behind a header that was read. -/

namespace Tether.Text

variable {α : Type} {p : α → Bool}

/-- What is trimmed off at the back, found by looking from there. -/
theorem trimRight_eq_take (xs : List α) :
    trimRight p xs = xs.take (xs.length - xs.reverse.findIdx (! p ·)) := by
  rw [trimRight, List.dropWhile_eq_drop_findIdx_not, List.drop_reverse, List.reverse_reverse]

theorem trimBoth_eq_nil {xs : List α} (inside : ∀ x ∈ xs, p x = true) : trimBoth p xs = [] := by
  rw [trimBoth, List.dropWhile_eq_nil_iff.mpr inside]
  rfl

/-- Where an element stays, the last one that stays is found behind the first one. -/
theorem trimBoth_eq_take_drop {xs : List α} {x : α} (mem : x ∈ xs) (outside : p x = false) :
    xs.findIdx (! p ·) ≤ xs.length - xs.reverse.findIdx (! p ·) ∧
      trimBoth p xs = (xs.drop (xs.findIdx (! p ·))).take
        (xs.length - xs.reverse.findIdx (! p ·) - xs.findIdx (! p ·)) := by
  have first : xs.findIdx (! p ·) < xs.length :=
    List.findIdx_lt_length_of_exists ⟨x, mem, by simp [outside]⟩
  have length : (xs.drop (xs.findIdx (! p ·))).length = xs.length - xs.findIdx (! p ·) :=
    List.length_drop
  have stays : (xs.drop (xs.findIdx (! p ·))).reverse.findIdx (! p ·) <
      (xs.drop (xs.findIdx (! p ·))).reverse.length := by
    apply List.findIdx_lt_length_of_exists
    refine ⟨xs[xs.findIdx (! p ·)], ?_, List.findIdx_getElem (p := (! p ·))⟩
    rw [List.mem_reverse, List.drop_eq_getElem_cons first]
    exact List.mem_cons_self
  have back : xs.reverse.findIdx (! p ·) =
      (xs.drop (xs.findIdx (! p ·))).reverse.findIdx (! p ·) := by
    conv_lhs => rw [← List.take_append_drop (xs.findIdx (! p ·)) xs]
    rw [List.reverse_append, List.findIdx_append, if_pos stays]
  rw [List.length_reverse, length, ← back] at stays
  refine ⟨by omega, ?_⟩
  rw [trimBoth, List.dropWhile_eq_drop_findIdx_not, trimRight_eq_take, ← back, length]
  congr 1
  omega

end Tether.Text

namespace Tether.Wire

open Text

namespace Reading

variable {α : Type}

theorem ended_ok_bind {β : Type} (a : α) (k : α → Reading β) : (ended (.ok a) >>= k) = k a := rfl

theorem range_of_le {src : List UInt8} {start stop : Nat} (ordered : start ≤ stop)
    (inside : stop ≤ src.length) :
    range src start stop = ended (.ok ((src.drop start).take (stop - start))) := by
  rw [range, range?, if_pos ⟨ordered, inside⟩]
  rfl

theorem word_of_length {n : Nat} {bs : List UInt8} (whole : bs.length = n) :
    word n bs = ended (.ok (Word.ofLittleEndian bs)) := by
  rw [word, range_of_le (Nat.zero_le n) (Nat.le_of_eq whole.symm), ended_ok_bind, List.drop_zero,
    Nat.sub_zero, ← whole, List.take_length]
  rfl

theorem slot_eq (src : List UInt8) (field : Field) :
    slot src field = ended (Wire.slot src field) := by
  have width : field.stop - field.offset = field.width := Nat.add_sub_cancel_left ..
  by_cases inside : field.offset + field.width ≤ src.length
  · rw [slot, range?, if_pos ⟨Nat.le_add_right .., inside⟩, Wire.slot, if_pos inside, width]
    rfl
  · rw [slot, range?, if_neg fun inRange => inside inRange.2, Wire.slot, if_neg inside]
    rfl

/-- What follows a slot can rely on its width. -/
theorem slot_bind {src : List UInt8} {field : Field} {k : List UInt8 → Reading α}
    {k' : List UInt8 → Except Fault α}
    (same : ∀ bs, bs.length = field.width → k bs = ended (k' bs)) :
    (slot src field >>= k) = ended (Wire.slot src field >>= k') := by
  rw [slot_eq]
  by_cases inside : field.offset + field.width ≤ src.length
  · rw [slot_eq_ok inside, ended_ok_bind, same _ (Field.length_slice inside)]
    rfl
  · rw [Wire.slot, if_neg inside]
    rfl

theorem nulTrimmed_eq (raw : List UInt8) :
    nulTrimmed raw = ended (.ok (trimBoth (· == 0) raw)) := by
  have kept : (fun b : UInt8 => b != 0) = (! · == 0) := rfl
  have front : (raw.findIdx? (! · == 0)).getD raw.length = raw.findIdx (! · == 0) :=
    List.findIdx_eq_getD_findIdx?.symm
  simp only [nulTrimmed, lastIdx?, kept, front]
  by_cases nuls : ∀ b ∈ raw, (b == 0) = true
  · have start : raw.findIdx (! · == 0) = raw.length :=
      List.findIdx_eq_length_of_false fun b mem => by simp [nuls b mem]
    have none : raw.reverse.findIdx? (! · == 0) = none :=
      List.findIdx?_eq_none_iff.mpr fun b mem => by simp [nuls b (List.mem_reverse.mp mem)]
    rw [none, start, trimBoth_eq_nil nuls, Option.map_none, Option.elim_none,
      range_of_le (Nat.le_refl _) (Nat.le_refl _), Nat.sub_self, List.take_zero]
  · push Not at nuls
    obtain ⟨b, mem, other⟩ := nuls
    have other : (b == 0) = false := by simpa using other
    obtain ⟨ordered, trimmed⟩ := trimBoth_eq_take_drop (p := (· == 0)) mem other
    have inside : raw.reverse.findIdx (! · == 0) < raw.reverse.length :=
      List.findIdx_lt_length_of_exists ⟨b, List.mem_reverse.mpr mem, by simp [other]⟩
    have found : raw.reverse.findIdx? (! · == 0) = some (raw.reverse.findIdx (! · == 0)) :=
      List.findIdx?_eq_some_iff_findIdx_eq.mpr ⟨inside, rfl⟩
    rw [List.length_reverse] at inside
    have stop : raw.length - 1 - raw.reverse.findIdx (! · == 0) + 1 =
        raw.length - raw.reverse.findIdx (! · == 0) := by omega
    rw [found, Option.map_some, Option.elim_some, stop, range_of_le ordered (Nat.sub_le _ _),
      trimmed]

theorem text_eq (raw : List UInt8) : text raw = ended (.ok (slotText raw)) := by
  rw [text, nulTrimmed_eq]
  rfl

theorem header_eq (src : List UInt8) : header src = ended (Header.decode src) := by
  unfold header Header.decode
  refine slot_bind fun kind four => ?_
  rw [word_of_length four, ended_ok_bind]
  refine slot_bind fun schema _ => ?_
  rw [text_eq, ended_ok_bind]
  refine slot_bind fun session _ => ?_
  rw [text_eq, ended_ok_bind]
  refine slot_bind fun created eight => ?_
  rw [word_of_length eight, ended_ok_bind]
  refine slot_bind fun sequence eight => ?_
  rw [word_of_length eight, ended_ok_bind]
  refine slot_bind fun declared four => ?_
  rw [word_of_length four]
  rfl

theorem message_eq (src : List UInt8) : message src = ended (Message.decode src) := by
  rw [message, header_eq, Message.decode]
  cases read : Header.decode src with
  | error e => rfl
  | ok header =>
    have long := (Header.decode_eq_ok_iff.mp read).1
    have available : difference src.length headerSize = ended (.ok (src.length - headerSize)) := by
      rw [difference, if_pos long]
      rfl
    have payload : (src.drop headerSize).take (src.length - headerSize) = src.drop headerSize := by
      rw [← List.length_drop, List.take_length]
    rw [ended_ok_bind, available, ended_ok_bind]
    simp only [bind, Except.bind]
    split
    · rfl
    · rw [range_of_le long (Nat.le_refl _), payload]
      rfl

end Reading

/-! ### Short input -/

theorem slot_eq_error {field : Field} {src : List UInt8} (cut : src.length < field.stop) :
    slot src field = .error (.malformed field field.offset field.stop src.length) :=
  if_neg (Nat.not_le.mpr cut)

/-- Cutting out one slot after another ends at the first one that is not all there. -/
theorem mapM_slot_of_find? {src : List UInt8} {field : Field} {fields : List Field}
    (first : fields.find? (src.length < ·.stop) = some field) :
    fields.mapM (slot src) =
      .error (.malformed field field.offset field.stop src.length) := by
  induction fields with
  | nil => cases first
  | cons next rest ih =>
    rw [List.mapM_cons]
    by_cases cut : src.length < next.stop
    · have here : next = field := by simpa [List.find?_cons, cut] using first
      subst here
      rw [slot_eq_error cut]
      rfl
    · replace first : rest.find? (src.length < ·.stop) = some field := by
        simpa [List.find?_cons, cut] using first
      rw [slot_eq_ok (Nat.not_lt.mp cut), ih first]
      rfl

theorem slot_bind_of_mapM {α : Type} {src : List UInt8} {field : Field} {rest : List Field}
    {k : List UInt8 → Except Fault α} {e : Fault}
    (refused : (field :: rest).mapM (slot src) = .error e)
    (next : ∀ bs, rest.mapM (slot src) = .error e → k bs = .error e) :
    (slot src field >>= k) = .error e := by
  rw [List.mapM_cons] at refused
  cases cut : slot src field with
  | error e' =>
    rw [cut] at refused
    obtain rfl := Except.error.inj refused
    rfl
  | ok bs =>
    refine next bs ?_
    rw [cut] at refused
    cases others : rest.mapM (slot src) with
    | error e' =>
      rw [others] at refused
      exact refused
    | ok bss =>
      rw [others] at refused
      cases refused

/-- A header is read in the order of its slots. -/
theorem Header.decode_of_mapM {src : List UInt8} {e : Fault}
    (refused : Field.slots.mapM (slot src) = .error e) : decode src = .error e := by
  unfold decode
  refine slot_bind_of_mapM refused fun _ refused => ?_
  refine slot_bind_of_mapM refused fun _ refused => ?_
  refine slot_bind_of_mapM refused fun _ refused => ?_
  refine slot_bind_of_mapM refused fun _ refused => ?_
  refine slot_bind_of_mapM refused fun _ refused => ?_
  refine slot_bind_of_mapM refused fun _ refused => ?_
  cases refused

/-- Where the header is cut short, so is at least its last slot. -/
theorem Field.find?_slots_isSome {src : List UInt8} (short : src.length < headerSize) :
    ∃ field, Field.slots.find? (src.length < ·.stop) = some field := by
  rw [← Option.isSome_iff_exists, List.find?_isSome]
  exact ⟨.payloadLength, by decide, decide_eq_true short⟩

namespace Message

theorem decode_of_find? {src : List UInt8} {field : Field}
    (first : Field.slots.find? (src.length < ·.stop) = some field) :
    decode src = .error (.malformed field field.offset field.stop src.length) := by
  rw [decode, Header.decode_of_mapM (mapM_slot_of_find? first)]
  rfl

theorem decode_of_lt_declared {src : List UInt8} (long : headerSize ≤ src.length)
    (less : src.length - headerSize < (Header.ofSlots src).declared.toNat) :
    decode src = .error (.malformed .payload headerSize
      (headerSize + (Header.ofSlots src).declared.toNat) src.length) := by
  simp only [decode, Header.decode_of_le long, bind, Except.bind, if_pos less]

/-- The length of the payload that a frame declares. -/
def declaredLength (src : List UInt8) : Nat :=
  Word.ofLittleEndian (Field.payloadLength.slice src)

theorem toNat_declared_ofSlots {src : List UInt8} (long : headerSize ≤ src.length) :
    (Header.ofSlots src).declared.toNat = declaredLength src := by
  have four : (Field.payloadLength.slice src).length = 4 := Field.length_slice long
  have bound := Word.ofLittleEndian_lt (Field.payloadLength.slice src)
  rw [four] at bound
  exact UInt32.toNat_ofNat_of_lt' bound

/-- What is accepted and what is not, for all input. No access goes out of bounds. A frame is
read when its header is there and as many bytes behind it as the last slot says; the payload is
all the bytes there are. Otherwise the fault names the first slot that is not all there, or the
payload. -/
theorem decode_exact (src : List UInt8) :
    Reading.message src = Reading.ended (decode src) ∧
    ((∃ m, decode src = .ok m) ↔
      headerSize ≤ src.length ∧ declaredLength src ≤ src.length - headerSize) ∧
    (∀ m, decode src = .ok m →
      m.payload = src.drop headerSize ∧ m.declared.toNat = m.payload.length % UInt32.size) ∧
    (src.length < headerSize →
      ∃ field, Field.slots.find? (src.length < ·.stop) = some field ∧
        decode src = .error (.malformed field field.offset field.stop src.length)) ∧
    (headerSize ≤ src.length → src.length - headerSize < declaredLength src →
      decode src = .error (.malformed .payload headerSize (headerSize + declaredLength src)
        src.length)) := by
  refine ⟨Reading.message_eq src, ⟨?_, ?_⟩, ?_, ?_, ?_⟩
  · rintro ⟨m, ok⟩
    obtain ⟨long, enough, -⟩ := decode_eq_ok_iff.mp ok
    rw [toNat_declared_ofSlots long] at enough
    exact ⟨long, enough⟩
  · rintro ⟨long, enough⟩
    rw [← toNat_declared_ofSlots long] at enough
    exact ⟨_, decode_eq_ok_iff.mpr ⟨long, enough, rfl⟩⟩
  · intro m ok
    obtain ⟨-, -, rfl⟩ := decode_eq_ok_iff.mp ok
    refine ⟨rfl, ?_⟩
    rw [ofFrame, List.length_drop]
    rfl
  · intro short
    obtain ⟨field, first⟩ := Field.find?_slots_isSome short
    exact ⟨field, first, decode_of_find? first⟩
  · intro long less
    rw [← toNat_declared_ofSlots long] at less ⊢
    exact decode_of_lt_declared long less

end Message

end Tether.Wire
