import Tether.Proofs.Slot
import Tether.Proofs.Word
import Tether.Wire.Message

/-! Where each part of a frame lies, and what writing and reading come to once everything fits:
a frame that is read is the reading of its six slots, and a frame that is written has in its six
slots what was written. -/

namespace Tether.Wire

open Text

/-! ### Slots -/

/-- The bytes of a slot. -/
def Field.slice (field : Field) (src : List UInt8) : List UInt8 :=
  (src.drop field.offset).take field.width

theorem slot_eq_ok {field : Field} {src : List UInt8}
    (h : field.offset + field.width ≤ src.length) : slot src field = .ok (field.slice src) :=
  if_pos h

theorem Field.length_slice {field : Field} {src : List UInt8}
    (h : field.offset + field.width ≤ src.length) : (field.slice src).length = field.width := by
  rw [Field.slice, List.length_take, List.length_drop]
  omega

theorem Field.slice_append {field : Field} {front x rest src : List UInt8}
    (hfront : front.length = field.offset) (hx : x.length = field.width)
    (hsrc : src = front ++ (x ++ rest)) : field.slice src = x := by
  rw [hsrc, Field.slice, ← hfront, List.drop_left, ← hx, List.take_left]

/-! ### Headers -/

namespace Header

/-- Both texts are as narrow as their slots. -/
structure Fits (h : Header) : Prop where
  schema : Utf8.width h.schema ≤ Field.schemaVersion.width
  session : Utf8.width h.session ≤ Field.sessionId.width

/-- The header that the slots of a frame hold. -/
def ofSlots (src : List UInt8) : Header where
  kind := .ofCode (UInt32.ofNat (Word.ofLittleEndian (Field.messageType.slice src)))
  schema := slotText (Field.schemaVersion.slice src)
  session := slotText (Field.sessionId.slice src)
  created := UInt64.ofNat (Word.ofLittleEndian (Field.createdDate.slice src))
  sequence := (UInt64.ofNat (Word.ofLittleEndian (Field.sequenceNumber.slice src))).toInt64
  declared := UInt32.ofNat (Word.ofLittleEndian (Field.payloadLength.slice src))

theorem decode_of_le {src : List UInt8} (h : headerSize ≤ src.length) :
    decode src = .ok (ofSlots src) := by
  have fits : ∀ field : Field, field.offset + field.width ≤ headerSize := by
    intro field
    cases field <;> decide
  have slots : ∀ field : Field, slot src field = .ok (field.slice src) := fun field =>
    slot_eq_ok ((fits field).trans h)
  simp only [decode, slots]
  rfl

/-- A header is read from anything that is long enough, and from nothing else: the last slot
would be cut short. -/
theorem decode_eq_ok_iff {src : List UInt8} {h : Header} :
    decode src = .ok h ↔ headerSize ≤ src.length ∧ h = ofSlots src := by
  constructor
  · intro ok
    have long : headerSize ≤ src.length := by
      by_contra short
      have cut : ¬ Field.payloadLength.offset + Field.payloadLength.width ≤ src.length := short
      simp only [decode, slot, if_neg cut] at ok
      repeat' split at ok
      all_goals cases ok
    rw [decode_of_le long] at ok
    exact ⟨long, (Except.ok.inj ok).symm⟩
  · rintro ⟨long, rfl⟩
    exact decode_of_le long

theorem encode_of_fits {h : Header} (fits : h.Fits) : h.encode = .ok h.bytes := by
  simp only [encode, checkWidth, if_neg (Nat.not_lt.mpr fits.schema),
    if_neg (Nat.not_lt.mpr fits.session)]
  rfl

theorem fits_of_encode {h : Header} {bs : List UInt8} (ok : h.encode = .ok bs) : h.Fits := by
  simp only [encode, checkWidth] at ok
  split at ok
  · cases ok
  · next schema =>
    split at ok
    · cases ok
    · next session => exact ⟨Nat.not_lt.mp schema, Nat.not_lt.mp session⟩

/-- The bytes that a header puts into a slot. -/
def written (h : Header) : Field → List UInt8
  | .messageType => Word.littleEndian Field.messageType.width h.kind.code.toNat
  | .schemaVersion => padded .schemaVersion h.schema
  | .sessionId => padded .sessionId h.session
  | .createdDate => Word.littleEndian Field.createdDate.width h.created.toNat
  | .sequenceNumber => Word.littleEndian Field.sequenceNumber.width h.sequence.toUInt64.toNat
  | .payloadLength => Word.littleEndian Field.payloadLength.width h.declared.toNat
  | .payload => []

theorem length_written {h : Header} (fits : h.Fits) (field : Field) :
    (h.written field).length = field.width := by
  cases field with
  | schemaVersion => exact length_padded fits.schema
  | sessionId => exact length_padded fits.session
  | payload => rfl
  | _ => exact Word.length_littleEndian _ _

theorem bytes_eq (h : Header) : h.bytes = h.written .messageType ++ h.written .schemaVersion
    ++ h.written .sessionId ++ h.written .createdDate ++ h.written .sequenceNumber
    ++ h.written .payloadLength := rfl

theorem length_bytes {h : Header} (fits : h.Fits) : h.bytes.length = headerSize := by
  simp only [bytes_eq, List.length_append, length_written fits]
  rfl

/-- Each part lies where it is read from. -/
theorem slice_bytes {h : Header} (fits : h.Fits) (field : Field) (r : List UInt8) :
    field.slice (h.bytes ++ r) = h.written field := by
  have width := length_written fits
  have front : ∀ fields : List Field, (fields.flatMap h.written).length =
      (fields.map Field.width).sum := by
    intro fields
    simp [List.length_flatMap, width]
  cases field with
  | messageType => exact Field.slice_append (front []) (width _) (by simp [bytes_eq]; rfl)
  | schemaVersion =>
    exact Field.slice_append (front [.messageType]) (width _) (by simp [bytes_eq]; rfl)
  | sessionId =>
    exact Field.slice_append (front [.messageType, .schemaVersion]) (width _)
      (by simp [bytes_eq]; rfl)
  | createdDate =>
    exact Field.slice_append (front [.messageType, .schemaVersion, .sessionId]) (width _)
      (by simp [bytes_eq]; rfl)
  | sequenceNumber =>
    exact Field.slice_append (front [.messageType, .schemaVersion, .sessionId, .createdDate])
      (width _) (by simp [bytes_eq]; rfl)
  | payloadLength =>
    exact Field.slice_append
      (front [.messageType, .schemaVersion, .sessionId, .createdDate, .sequenceNumber])
      (width _) (by simp [bytes_eq]; rfl)
  | payload => exact List.take_zero

/-- Reading a written header gives its numbers back, and of each text what its slot makes of
it. -/
theorem ofSlots_bytes {h : Header} (fits : h.Fits) (r : List UInt8) :
    ofSlots (h.bytes ++ r) = { h with
      kind := .ofCode h.kind.code
      schema := slotText (padded .schemaVersion h.schema)
      session := slotText (padded .sessionId h.session) } := by
  simp only [ofSlots, slice_bytes fits, written, Field.width, Word.ofNat_ofLittleEndian_four,
    Word.ofNat_ofLittleEndian_eight, Int64.toInt64_toUInt64]

end Header

/-! ### Frames -/

namespace Message

/-- The texts are as narrow as their slots, and the length field has room for the payload. -/
structure Fits (m : Message) : Prop extends Header.Fits m.toHeader where
  payload : m.payload.length ≤ maxPayload

instance (m : Message) : Decidable m.Fits :=
  decidable_of_iff (Utf8.width m.schema ≤ Field.schemaVersion.width ∧
      Utf8.width m.session ≤ Field.sessionId.width ∧ m.payload.length ≤ maxPayload)
    ⟨fun h => ⟨⟨h.1, h.2.1⟩, h.2.2⟩, fun h => ⟨h.schema, h.session, h.payload⟩⟩

/-- The header that a message is written with. -/
def outbound (m : Message) : Header :=
  { m.toHeader with declared := UInt32.ofNat m.payload.length }

theorem Fits.outbound {m : Message} (fits : m.Fits) : m.outbound.Fits :=
  ⟨fits.schema, fits.session⟩

theorem encode_of_fits {m : Message} (fits : m.Fits) :
    m.encode = .ok (m.outbound.bytes ++ m.payload) := by
  have header := Header.encode_of_fits fits.outbound
  rw [encode, if_neg (Nat.not_lt.mpr fits.payload)]
  rw [outbound] at header
  rw [header]
  rfl

theorem fits_of_encode {m : Message} {bs : List UInt8} (ok : m.encode = .ok bs) : m.Fits := by
  rw [encode] at ok
  split at ok
  · cases ok
  · next payload =>
    cases header : m.outbound.encode with
    | error e =>
      rw [outbound] at header
      rw [header] at ok
      cases ok
    | ok h =>
      have fits := Header.fits_of_encode header
      exact ⟨⟨fits.schema, fits.session⟩, Nat.not_lt.mp payload⟩

theorem encode_eq_ok_iff {m : Message} {bs : List UInt8} :
    m.encode = .ok bs ↔ m.Fits ∧ bs = m.outbound.bytes ++ m.payload := by
  constructor
  · intro ok
    have fits := fits_of_encode ok
    rw [encode_of_fits fits] at ok
    exact ⟨fits, (Except.ok.inj ok).symm⟩
  · rintro ⟨fits, rfl⟩
    exact encode_of_fits fits

theorem encode_eq_error_iff {m : Message} : (∃ e, m.encode = .error e) ↔ ¬ m.Fits := by
  constructor
  · rintro ⟨e, error⟩ fits
    rw [encode_of_fits fits] at error
    cases error
  · intro misfit
    cases h : m.encode with
    | error e => exact ⟨e, rfl⟩
    | ok bs => exact absurd (fits_of_encode h) misfit

/-- The message that a frame holds. -/
def ofFrame (src : List UInt8) : Message :=
  { Header.ofSlots src with
    declared := UInt32.ofNat (src.length - headerSize)
    payload := src.drop headerSize }

theorem decode_eq_ok_iff {src : List UInt8} {m : Message} :
    decode src = .ok m ↔ headerSize ≤ src.length ∧
      (Header.ofSlots src).declared.toNat ≤ src.length - headerSize ∧ m = ofFrame src := by
  constructor
  · intro ok
    cases header : Header.decode src with
    | error e => simp only [decode, header] at ok; cases ok
    | ok h =>
      obtain ⟨long, rfl⟩ := Header.decode_eq_ok_iff.mp header
      simp only [decode, header, bind, Except.bind] at ok
      split at ok
      · cases ok
      · next enough =>
        refine ⟨long, Nat.not_lt.mp enough, ?_⟩
        rw [← Except.ok.inj ok, ofFrame, List.length_drop]
  · rintro ⟨long, enough, rfl⟩
    simp only [decode, Header.decode_of_le long, bind, Except.bind, if_neg (Nat.not_lt.mpr enough),
      ofFrame, List.length_drop]
    rfl

end Message

end Tether.Wire
