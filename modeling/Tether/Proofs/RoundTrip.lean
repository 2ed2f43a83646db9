import Tether.Proofs.Frame

/-! Frames and messages against each other. A message that fits arrives with its numbers and its
payload as they were and with each text as its slot gives it back; a frame that was read is
written again with its numbers and payload as they were, unless a text has grown beyond its
slot. -/

namespace Tether.Wire.Message

open Text

/-! ### From a message to its frame and back -/

/-- What a message arrives as. -/
def received (m : Message) : Message := { m with
  kind := .ofCode m.kind.code
  schema := slotText (padded .schemaVersion m.schema)
  session := slotText (padded .sessionId m.session)
  declared := UInt32.ofNat m.payload.length }

theorem toNat_ofNat_length {m : Message} (fits : m.Fits) :
    (UInt32.ofNat m.payload.length).toNat = m.payload.length := by
  have payload := fits.payload
  rw [UInt32.toNat_ofNat_of_lt']
  have size : maxPayload + 1 = UInt32.size := rfl
  omega

theorem ofSlots_frame {m : Message} (fits : m.Fits) :
    Header.ofSlots (m.outbound.bytes ++ m.payload) = m.received.toHeader := by
  rw [Header.ofSlots_bytes fits.outbound]
  rfl

theorem length_frame {m : Message} (fits : m.Fits) :
    (m.outbound.bytes ++ m.payload).length = headerSize + m.payload.length := by
  rw [List.length_append, Header.length_bytes fits.outbound]

theorem drop_frame {m : Message} (fits : m.Fits) :
    (m.outbound.bytes ++ m.payload).drop headerSize = m.payload := by
  rw [← Header.length_bytes fits.outbound, List.drop_left]

theorem decode_frame {m : Message} (fits : m.Fits) :
    decode (m.outbound.bytes ++ m.payload) = .ok m.received := by
  have length := length_frame fits
  rw [decode_eq_ok_iff]
  refine ⟨by omega, ?_, ?_⟩
  · rw [ofSlots_frame fits]
    change (UInt32.ofNat m.payload.length).toNat ≤ _
    rw [toNat_ofNat_length fits]
    omega
  · rw [ofFrame, ofSlots_frame fits, length, drop_frame fits, Nat.add_sub_cancel_left]
    rfl

theorem decode_of_encode {m : Message} {bs : List UInt8} (h : m.encode = .ok bs) :
    decode bs = .ok m.received := by
  obtain ⟨fits, rfl⟩ := encode_eq_ok_iff.mp h
  exact decode_frame fits

/-- Reading undoes writing, but for the name of a code that has one, a wrong declared length, and
the ends of the texts. -/
theorem decode_encode_message (m : Message) (fits : m.Fits) :
    ∃ bs m', m.encode = .ok bs ∧ decode bs = .ok m' ∧
      m'.created = m.created ∧ m'.sequence = m.sequence ∧ m'.payload = m.payload ∧
      m'.kind = .ofCode m.kind.code ∧ m'.declared.toNat = m.payload.length ∧
      (m'.schema = m.schema ↔ Survives .schemaVersion m.schema) ∧
      (m'.session = m.session ↔ Survives .sessionId m.session) :=
  ⟨_, m.received, encode_of_fits fits, decode_frame fits, rfl, rfl, rfl, rfl,
    toNat_ofNat_length fits, slotText_padded_eq_iff fits.schema,
    slotText_padded_eq_iff fits.session⟩

/-- A code that has a name, a NUL behind which there is room, a wide space in front, a negative
number and a wrong length. -/
def ragged : Message where
  kind := .unknown 3
  schema := "1.\x00"
  session := "\u2003é"
  created := 0
  sequence := -1
  declared := 999
  payload := [0xFF, 0x00]

theorem ragged_arrives : ragged.Fits ∧ ∃ bs m', ragged.encode = .ok bs ∧ decode bs = .ok m' ∧
    m'.kind = .close ∧ m'.sequence = -1 ∧ m'.declared = 2 ∧ m'.payload = [0xFF, 0x00] ∧
    m'.schema = "1.\x00" ∧ m'.session ≠ "\u2003é" := by
  have fits : ragged.Fits := by decide
  obtain ⟨bs, m', written, read, -, sequence, payload, kind, declared, schema, session⟩ :=
    decode_encode_message ragged fits
  refine ⟨fits, bs, m', written, read, kind, sequence, UInt32.toNat_inj.mp declared, payload,
    schema.mpr (by decide), ?_⟩
  intro same
  exact absurd (session.mp same) (by decide)

/-! ### From a frame to its message and back -/

/-- A frame with its texts and its declared length set right. -/
structure Renewed (b b' : List UInt8) : Prop where
  length : b'.length = b.length
  numbers : ∀ field ∈ [Field.messageType, .createdDate, .sequenceNumber],
    field.slice b' = field.slice b
  payload : b'.drop headerSize = b.drop headerSize
  declared : Word.ofLittleEndian (Field.payloadLength.slice b') = b.length - headerSize

/-- The numbers of a header that was read are written as the bytes they were read from. -/
theorem written_ofSlots {b : List UInt8} (long : headerSize ≤ b.length) {field : Field}
    (number : field ∈ [Field.messageType, .createdDate, .sequenceNumber]) :
    (Header.ofSlots b).written field = field.slice b := by
  have width : ∀ field : Field, field.offset + field.width ≤ headerSize →
      (field.slice b).length = field.width := fun field h => Field.length_slice (h.trans long)
  simp only [List.mem_cons, List.not_mem_nil, or_false] at number
  rcases number with rfl | rfl | rfl
  · simp only [Header.written, Header.ofSlots, Kind.code_ofCode]
    exact Word.littleEndian_four_ofNat (width .messageType (by decide))
  · exact Word.littleEndian_eight_ofNat (width .createdDate (by decide))
  · simp only [Header.written, Header.ofSlots, UInt64.toUInt64_toInt64]
    exact Word.littleEndian_eight_ofNat (width .sequenceNumber (by decide))

theorem renewed_of_encode {b b' : List UInt8} (long : headerSize ≤ b.length)
    (h : (ofFrame b).encode = .ok b') : Renewed b b' := by
  obtain ⟨fits, rfl⟩ := encode_eq_ok_iff.mp h
  have size : (ofFrame b).payload.length = b.length - headerSize := List.length_drop
  refine ⟨?_, ?_, drop_frame fits, ?_⟩
  · rw [length_frame fits, size]
    omega
  · intro field number
    rw [Header.slice_bytes fits.outbound, ← written_ofSlots long number]
    simp only [List.mem_cons, List.not_mem_nil, or_false] at number
    rcases number with rfl | rfl | rfl <;> rfl
  · rw [Header.slice_bytes fits.outbound, ← size, Header.written, Word.ofLittleEndian_littleEndian]
    change (UInt32.ofNat (ofFrame b).payload.length).toNat % 256 ^ 4 = _
    rw [toNat_ofNat_length fits]
    exact Nat.mod_eq_of_lt (Nat.lt_of_le_of_lt fits.payload (by decide))

/-- A message that was read and written arrives as it was, unless a NUL of a text is stripped. -/
theorem received_ofFrame {b : List UInt8} (fits : (ofFrame b).Fits) :
    (ofFrame b).received = ofFrame b ↔
      ¬ Exposed .schemaVersion (ofFrame b).schema ∧ ¬ Exposed .sessionId (ofFrame b).session := by
  have schemaBare : Bare isBlank (ofFrame b).schema.toList := bare_slotText _
  have sessionBare : Bare isBlank (ofFrame b).session.toList := bare_slotText _
  rw [← survives_iff_not_exposed schemaBare, ← survives_iff_not_exposed sessionBare,
    ← slotText_padded_eq_iff fits.schema, ← slotText_padded_eq_iff fits.session]
  have length : (ofFrame b).declared = UInt32.ofNat (ofFrame b).payload.length := by
    rw [ofFrame, List.length_drop]
  have kind : Kind.ofCode (ofFrame b).kind.code = (ofFrame b).kind := by
    simp [ofFrame, Header.ofSlots]
  constructor
  · intro same
    exact ⟨congrArg (·.schema) same, congrArg (·.session) same⟩
  · rintro ⟨schema, session⟩
    rw [received, schema, session, kind, ← length]

theorem nulPadded_fits {b : List UInt8} (long : headerSize ≤ b.length)
    (room : (ofFrame b).payload.length ≤ maxPayload)
    (schema : NulPadded (Field.schemaVersion.slice b))
    (session : NulPadded (Field.sessionId.slice b)) : (ofFrame b).Fits where
  schema := by
    have h := width_slotText_le schema.wellFormed
    rwa [Field.length_slice (Nat.le_trans (by decide) long)] at h
  session := by
    have h := width_slotText_le session.wellFormed
    rwa [Field.length_slice (Nat.le_trans (by decide) long)] at h
  payload := room

/-- Writing what was read fails only on a text that ill-formed bytes have widened; else it sets
the texts and the declared length right, which is stable unless a text shows a NUL. -/
theorem encode_decode_frame {b : List UInt8} {m : Message} (read : decode b = .ok m)
    (room : m.payload.length ≤ maxPayload) :
    ((∃ e, m.encode = .error e) ↔ Field.schemaVersion.width < Utf8.width m.schema ∨
      Field.sessionId.width < Utf8.width m.session) ∧
    (Field.schemaVersion.width < Utf8.width m.schema →
      ¬ Utf8.WellFormed (trimBoth (· == 0) (Field.schemaVersion.slice b))) ∧
    (Field.sessionId.width < Utf8.width m.session →
      ¬ Utf8.WellFormed (trimBoth (· == 0) (Field.sessionId.slice b))) ∧
    (∀ b', m.encode = .ok b' → Renewed b b' ∧
      (decode b' = .ok m ↔
        ¬ Exposed .schemaVersion m.schema ∧ ¬ Exposed .sessionId m.session)) ∧
    (NulPadded (Field.schemaVersion.slice b) → NulPadded (Field.sessionId.slice b) →
      ∃ b', m.encode = .ok b' ∧ (decode b' >>= encode) = .ok b') := by
  obtain ⟨long, -, rfl⟩ := decode_eq_ok_iff.mp read
  have stable : ∀ b', (ofFrame b).encode = .ok b' → (decode b' = .ok (ofFrame b) ↔
      ¬ Exposed .schemaVersion (ofFrame b).schema ∧
        ¬ Exposed .sessionId (ofFrame b).session) := by
    intro b' written
    rw [decode_of_encode written, Except.ok.injEq]
    exact received_ofFrame (fits_of_encode written)
  have widened : ∀ field : Field, field.offset + field.width ≤ headerSize →
      field.width < Utf8.width (slotText (field.slice b)) →
      ¬ Utf8.WellFormed (trimBoth (· == 0) (field.slice b)) := by
    intro field inside wide formed
    have narrow := width_slotText_le formed
    rw [Field.length_slice (inside.trans long)] at narrow
    omega
  refine ⟨?_, widened .schemaVersion (by decide), widened .sessionId (by decide),
    fun b' written => ⟨renewed_of_encode long written, stable b' written⟩, ?_⟩
  · rw [encode_eq_error_iff, ← Nat.not_le, ← Nat.not_le, ← not_and_or, not_iff_not]
    exact ⟨fun fits => ⟨fits.schema, fits.session⟩, fun h => ⟨⟨h.1, h.2⟩, room⟩⟩
  · intro schema session
    have written := encode_of_fits (nulPadded_fits long room schema session)
    have again := (stable _ written).mpr
      ⟨schema.not_exposed .schemaVersion, session.not_exposed .sessionId⟩
    exact ⟨_, written, by rw [again]; exact written⟩

/-- A frame whose schema version shows a NUL once the space before it is trimmed, and whose
declared length leaves a byte over. -/
def exposing : List UInt8 :=
  [4, 0, 0, 0] ++ [0x20, 0, 0x31, 0] ++ (0 :: 0x61 :: List.replicate 30 0)
    ++ [1, 0, 0, 0, 0, 0, 0, 0] ++ List.replicate 8 0xFF ++ [0, 0, 0, 0] ++ [9]

theorem exposing_unstable : decode exposing = .ok (ofFrame exposing) ∧
    (ofFrame exposing).payload.length ≤ maxPayload ∧
    ∃ b', (ofFrame exposing).encode = .ok b' ∧ Renewed exposing b' ∧
      decode b' ≠ .ok (ofFrame exposing) := by
  have read : decode exposing = .ok (ofFrame exposing) :=
    decode_eq_ok_iff.mpr ⟨by decide, by decide, rfl⟩
  have room : (ofFrame exposing).payload.length ≤ maxPayload := by decide
  have fits : (ofFrame exposing).Fits := by decide
  obtain ⟨-, -, -, writes, -⟩ := encode_decode_frame read room
  obtain ⟨renewed, stable⟩ := writes _ (encode_of_fits fits)
  refine ⟨read, room, _, encode_of_fits fits, renewed, ?_⟩
  intro same
  exact absurd (stable.mp same).1 (by decide)

end Tether.Wire.Message
