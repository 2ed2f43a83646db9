import Tether.Proofs.Trim
import Tether.Proofs.Utf8
import Tether.Wire.Header

/-! What a slot makes of a text. Padding is white space, so it is trimmed off again, and a NUL at
the end is reached only where there is no padding behind it. A text that was trimmed can still
show a NUL at an end, since NULs are trimmed before white space and not again. -/

namespace Tether.Wire

open Text

/-- The character that reading strips first. -/
def isNul (c : Char) : Bool := c == '\x00'

theorem trimBoth_zero_encode (s : String) :
    trimBoth (· == 0) (Utf8.encode s) = Utf8.encode (String.ofList (trimBoth isNul s.toList)) := by
  rw [Utf8.encode_ofList, Utf8.encode]
  apply trimBoth_flatMap
  · intro c hc b hb
    obtain rfl : c = '\x00' := by simpa [isNul] using hc
    simpa [Utf8.encodeChar_nul] using hb
  · intro c hc
    have ne : c ≠ '\x00' := by simpa [isNul] using hc
    have none := Utf8.zero_notMem_encodeChar ne
    refine ⟨List.ne_nil_of_length_pos (Utf8.layout_encodeChar c).length_pos, ?_⟩
    intro b hb
    rw [beq_eq_false_iff_ne]
    rintro rfl
    exact none hb

/-- The text of a slot that holds well-formed bytes. -/
theorem slotText_encode (s : String) :
    slotText (Utf8.encode s) = String.ofList (trimBoth isBlank (trimBoth isNul s.toList)) := by
  rw [slotText, trimBoth_zero_encode, Utf8.decodeLossy_encode, trimBlank, String.toList_ofList]

theorem padded_eq_encode (field : Field) (s : String) :
    padded field s = Utf8.encode
      (String.ofList (s.toList ++ List.replicate (field.width - Utf8.width s) ' ')) := by
  have space : Utf8.encodeChar ' ' = [0x20] := rfl
  rw [Utf8.encode_ofList, List.flatMap_append, List.flatMap_replicate, space,
    List.flatten_replicate_singleton, padded, Utf8.encode]

theorem length_padded {field : Field} {s : String} (h : Utf8.width s ≤ field.width) :
    (padded field s).length = field.width := by
  have bytes : (Utf8.encode s).length = Utf8.width s := rfl
  rw [padded, List.length_append, List.length_replicate, bytes]
  omega

/-- The characters of a text that reading does not strip as NULs: those at the end are safe
behind padding. -/
def sheltered (field : Field) (s : String) : List Char :=
  if Utf8.width s < field.width then s.toList.dropWhile isNul else trimBoth isNul s.toList

theorem sheltered_sublist (field : Field) (s : String) :
    (sheltered field s).Sublist s.toList := by
  unfold sheltered
  split
  · exact List.dropWhile_sublist isNul
  · exact (infix_trimBoth isNul s.toList).sublist

theorem slotText_padded (field : Field) (s : String) :
    slotText (padded field s) = String.ofList (trimBoth isBlank (sheltered field s)) := by
  rw [padded_eq_encode, slotText_encode, String.toList_ofList, sheltered]
  congr 1
  by_cases fill : Utf8.width s < field.width
  · obtain ⟨k, hk⟩ := Nat.exists_eq_add_one_of_ne_zero (n := field.width - Utf8.width s) (by omega)
    have front : (s.toList ++ List.replicate (k + 1) ' ').dropWhile isNul =
        s.toList.dropWhile isNul ++ List.replicate (k + 1) ' ' := by
      have spaces : (List.replicate (k + 1) ' ').dropWhile isNul = List.replicate (k + 1) ' ' := rfl
      rw [List.dropWhile_append, spaces]
      split
      · next none => rw [List.isEmpty_iff.mp none, List.nil_append]
      · rfl
    have back : ∀ cs : List Char, trimRight isNul (cs ++ List.replicate (k + 1) ' ') =
        cs ++ List.replicate (k + 1) ' ' := by
      intro cs
      apply trimRight_eq_self
      simp [List.getLast?_append, List.getLast?_replicate, isNul]
    rw [if_pos fill, hk, trimBoth, trimBoth, front, back]
    exact trimBoth_append_of_forall _ (by simp [isBlank])
  · have none : field.width - Utf8.width s = 0 := by omega
    rw [if_neg fill, none, List.replicate_zero, List.append_nil]

/-- A text that a slot gives back as it was. -/
structure Survives (field : Field) (s : String) : Prop where
  nulFirst : s.toList.head? ≠ some '\x00'
  blankFirst : ∀ c ∈ s.toList.head?, isBlank c = false
  blankLast : ∀ c ∈ s.toList.getLast?, isBlank c = false
  nulLast : Utf8.width s = field.width → s.toList.getLast? ≠ some '\x00'

-- Found before the instance that goes through all characters.
instance (o : Option Char) : Decidable (∀ c ∈ o, isBlank c = false) :=
  Option.decidableForallMem o

instance (field : Field) (s : String) : Decidable (Survives field s) :=
  decidable_of_iff (s.toList.head? ≠ some '\x00' ∧
      (∀ c ∈ s.toList.head?, isBlank c = false) ∧ (∀ c ∈ s.toList.getLast?, isBlank c = false) ∧
      (Utf8.width s = field.width → s.toList.getLast? ≠ some '\x00'))
    ⟨fun h => ⟨h.1, h.2.1, h.2.2.1, h.2.2.2⟩,
      fun h => ⟨h.nulFirst, h.blankFirst, h.blankLast, h.nulLast⟩⟩

theorem isNul_eq_false_iff {o : Option Char} :
    (∀ c ∈ o, isNul c = false) ↔ o ≠ some '\x00' := by
  cases o <;> simp [isNul]

theorem sheltered_eq_self_iff {field : Field} {s : String} (h : Utf8.width s ≤ field.width) :
    sheltered field s = s.toList ↔ s.toList.head? ≠ some '\x00' ∧
      (Utf8.width s = field.width → s.toList.getLast? ≠ some '\x00') := by
  unfold sheltered
  split
  · next fill =>
    rw [dropWhile_eq_self_iff_head?, isNul_eq_false_iff]
    simp [Nat.ne_of_lt fill]
  · next fill =>
    have full : Utf8.width s = field.width := by omega
    rw [trimBoth_eq_self_iff, bare_iff, isNul_eq_false_iff, isNul_eq_false_iff]
    simp [full]

/-- Exactly the texts without NUL or white space at an end survive, and of the others those whose
NUL at the end has padding behind it. -/
theorem slotText_padded_eq_iff {field : Field} {s : String} (h : Utf8.width s ≤ field.width) :
    slotText (padded field s) = s ↔ Survives field s := by
  have same : slotText (padded field s) = s ↔
      trimBoth isBlank (sheltered field s) = s.toList := by
    rw [slotText_padded, ← String.toList_inj, String.toList_ofList]
  rw [same]
  constructor
  · intro eq
    -- Both trimmings only shorten, so neither took anything off.
    have whole : sheltered field s = s.toList :=
      (sheltered_sublist field s).antisymm (eq ▸ (infix_trimBoth isBlank _).sublist)
    rw [whole, trimBoth_eq_self_iff] at eq
    have nul := (sheltered_eq_self_iff h).mp whole
    exact ⟨nul.1, eq.first, eq.last, nul.2⟩
  · intro hs
    rw [(sheltered_eq_self_iff h).mpr ⟨hs.nulFirst, hs.nulLast⟩, trimBoth_eq_self_iff]
    exact ⟨hs.blankFirst, hs.blankLast⟩

/-! ### Texts that were read -/

theorem bare_slotText (raw : List UInt8) : Bare isBlank (slotText raw).toList := by
  rw [slotText, trimBlank, String.toList_ofList]
  exact bare_trimBoth isBlank _

/-- A text with a NUL that reading would strip: at the front, or at the end of a full slot. -/
def Exposed (field : Field) (s : String) : Prop :=
  s.toList.head? = some '\x00' ∨
    (Utf8.width s = field.width ∧ s.toList.getLast? = some '\x00')

instance (field : Field) (s : String) : Decidable (Exposed field s) :=
  inferInstanceAs (Decidable (_ ∨ _))

/-- A text without white space at its ends can only be lost through a NUL. -/
theorem survives_iff_not_exposed {field : Field} {s : String} (h : Bare isBlank s.toList) :
    Survives field s ↔ ¬ Exposed field s := by
  rw [Exposed, not_or, not_and]
  constructor
  · intro hs
    exact ⟨hs.nulFirst, hs.nulLast⟩
  · rintro ⟨first, last⟩
    exact ⟨first, h.first, h.last, last⟩

/-- Only ill-formed bytes make a text wider than its slot. -/
theorem width_slotText_le {raw : List UInt8} (h : Utf8.WellFormed (trimBoth (· == 0) raw)) :
    Utf8.width (slotText raw) ≤ raw.length := by
  obtain ⟨s, hs⟩ := h
  have text : slotText raw = trimBlank s := by rw [slotText, hs, Utf8.decodeLossy_encode]
  have kept : (trimBoth isBlank s.toList).Sublist s.toList := (infix_trimBoth _ _).sublist
  calc Utf8.width (slotText raw)
      ≤ Utf8.width (String.ofList s.toList) := by
        rw [text]
        exact Utf8.width_ofList_le_of_sublist kept
    _ = (trimBoth (· == 0) raw).length := by rw [String.ofList_toList, hs]; rfl
    _ ≤ raw.length := (infix_trimBoth _ raw).sublist.length_le

/-- A slot that holds a text without NULs, with any number of NULs on both sides. -/
def NulPadded (raw : List UInt8) : Prop :=
  ∃ (before after : Nat) (s : String), '\x00' ∉ s.toList ∧
    raw = List.replicate before 0 ++ Utf8.encode s ++ List.replicate after 0

theorem trimBoth_zero_of_nulPadded {before after : Nat} {s : String} (h : '\x00' ∉ s.toList) :
    trimBoth (· == 0) (List.replicate before 0 ++ Utf8.encode s ++ List.replicate after 0) =
      Utf8.encode s := by
  have bare : trimBoth isNul s.toList = s.toList := by
    rw [trimBoth_eq_self_iff, bare_iff, isNul_eq_false_iff, isNul_eq_false_iff]
    exact ⟨fun e => h (List.mem_of_mem_head? e), fun e => h (List.mem_of_getLast? e)⟩
  rw [trimBoth_append_of_forall _ (by simp), trimBoth,
    List.dropWhile_append_of_pos (by simp), ← trimBoth, trimBoth_zero_encode, bare,
    String.ofList_toList]

theorem NulPadded.wellFormed {raw : List UInt8} (h : NulPadded raw) :
    Utf8.WellFormed (trimBoth (· == 0) raw) := by
  obtain ⟨before, after, s, nul, rfl⟩ := h
  exact ⟨s, trimBoth_zero_of_nulPadded nul⟩

theorem NulPadded.not_exposed {raw : List UInt8} (h : NulPadded raw) (field : Field) :
    ¬ Exposed field (slotText raw) := by
  obtain ⟨before, after, s, nul, rfl⟩ := h
  have text : slotText (List.replicate before 0 ++ Utf8.encode s ++ List.replicate after 0) =
      String.ofList (trimBoth isBlank s.toList) := by
    rw [slotText, trimBoth_zero_of_nulPadded nul, Utf8.decodeLossy_encode, trimBlank]
  have none : '\x00' ∉ trimBoth isBlank s.toList := fun mem =>
    nul ((infix_trimBoth isBlank s.toList).sublist.mem mem)
  rw [Exposed, text, String.toList_ofList]
  rintro (first | ⟨-, last⟩)
  · exact none (List.mem_of_mem_head? first)
  · exact none (List.mem_of_getLast? last)

end Tether.Wire
