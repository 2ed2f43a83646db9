import Tether.Proofs.Frame
import Tether.Wire.Writing

/-! Writing is all or nothing. The checks come before the first byte, so a fault finds the buffer
as it was; behind the checks each text has room in its slot, so no difference is taken for granted
in vain, and the steps put the parts where reading looks for them. -/

namespace Tether.Wire

open Text

/-! ### What the slots of written bytes hold -/

/-- A slot holds a whole number, least significant byte first. -/
def Field.HoldsNumber (field : Field) (bs : List UInt8) (n : Int) : Prop :=
  ∃ raw, slot bs field = .ok raw ∧ (Word.ofLittleEndian raw : Int) = n

/-- A slot holds a text and behind it nothing but spaces. -/
def Field.HoldsText (field : Field) (bs : List UInt8) (s : String) : Prop :=
  ∃ spaces, slot bs field = .ok (Utf8.encode s ++ List.replicate spaces 0x20)

/-- The bytes of a header, told slot by slot: a negative number stands there as what it is short
of a power of two. -/
structure Header.Layout (h : Header) (bs : List UInt8) : Prop where
  length : bs.length = headerSize
  kind : Field.messageType.HoldsNumber bs h.kind.code.toNat
  schema : Field.schemaVersion.HoldsText bs h.schema
  session : Field.sessionId.HoldsText bs h.session
  created : Field.createdDate.HoldsNumber bs h.created.toNat
  sequence : Field.sequenceNumber.HoldsNumber bs (h.sequence.toInt % UInt64.size)
  declared : Field.payloadLength.HoldsNumber bs h.declared.toNat

theorem toNat_toUInt64_eq_emod (n : Int64) : (n.toUInt64.toNat : Int) = n.toInt % UInt64.size := by
  have bits : n.toInt = (n.toUInt64.toNat : Int).bmod UInt64.size :=
    (Int64.toInt_toBitVec n).symm.trans (BitVec.toInt_eq_toNat_bmod _)
  have low : (n.toUInt64.toNat : Int) < UInt64.size := Int.ofNat_lt.mpr n.toUInt64.toNat_lt
  rw [bits, Int.bmod_emod, Int.emod_eq_of_lt (Int.natCast_nonneg _) low]

namespace Header

variable {h : Header} {buffer : List UInt8}

theorem slot_bytes (fits : h.Fits) {field : Field}
    (inside : field.offset + field.width ≤ headerSize) :
    slot h.bytes field = .ok (h.written field) := by
  have here := slice_bytes fits field []
  rw [List.append_nil] at here
  rw [slot_eq_ok (by rwa [length_bytes fits]), here]

theorem holdsNumber_bytes (fits : h.Fits) {field : Field} {n : Nat}
    (inside : field.offset + field.width ≤ headerSize)
    (written : h.written field = Word.littleEndian field.width n) (room : n < 256 ^ field.width) :
    field.HoldsNumber h.bytes n := by
  refine ⟨_, slot_bytes fits inside, ?_⟩
  rw [written, Word.ofLittleEndian_littleEndian, Nat.mod_eq_of_lt room]

theorem holdsText_bytes (fits : h.Fits) {field : Field} {s : String}
    (inside : field.offset + field.width ≤ headerSize)
    (written : h.written field = padded field s) : field.HoldsText h.bytes s :=
  ⟨field.width - Utf8.width s, by rw [slot_bytes fits inside, written, padded]⟩

theorem layout_bytes (fits : h.Fits) : h.Layout h.bytes where
  length := length_bytes fits
  kind := holdsNumber_bytes fits (by decide) rfl h.kind.code.toNat_lt
  schema := holdsText_bytes fits (by decide) rfl
  session := holdsText_bytes fits (by decide) rfl
  created := holdsNumber_bytes fits (by decide) rfl h.created.toNat_lt
  sequence := by
    rw [← toNat_toUInt64_eq_emod]
    exact holdsNumber_bytes fits (by decide) rfl h.sequence.toUInt64.toNat_lt
  declared := holdsNumber_bytes fits (by decide) rfl h.declared.toNat_lt

/-! ### The three ways in which writing a header ends -/

theorem appendTo_of_fits (fits : h.Fits) : h.appendTo buffer = (.ok (), buffer ++ h.bytes) := by
  rw [appendTo, encode_of_fits fits]

theorem appendTo_fst_eq_ok_iff : (h.appendTo buffer).1 = .ok () ↔ h.Fits := by
  constructor
  · intro ok
    cases written : h.encode with
    | ok bs => exact fits_of_encode written
    | error e =>
      rw [appendTo, written] at ok
      cases ok
  · intro fits
    rw [appendTo_of_fits fits]

theorem appendTo_of_wide_schema (wide : Field.schemaVersion.width < Utf8.width h.schema) :
    h.appendTo buffer = (.error (.tooLong .schemaVersion (Utf8.width h.schema)
      Field.schemaVersion.width), buffer) := by
  have refused : h.encode = .error (.tooLong .schemaVersion (Utf8.width h.schema)
      Field.schemaVersion.width) := by
    rw [encode, checkWidth, if_pos wide]
    rfl
  rw [appendTo, refused]

theorem appendTo_of_wide_session (schema : Utf8.width h.schema ≤ Field.schemaVersion.width)
    (wide : Field.sessionId.width < Utf8.width h.session) :
    h.appendTo buffer = (.error (.tooLong .sessionId (Utf8.width h.session)
      Field.sessionId.width), buffer) := by
  have refused : h.encode = .error (.tooLong .sessionId (Utf8.width h.session)
      Field.sessionId.width) := by
    rw [encode, checkWidth, if_neg (Nat.not_lt.mpr schema), checkWidth, if_pos wide]
    rfl
  rw [appendTo, refused]

end Header

namespace Message

theorem encode_of_large {m : Message} (large : maxPayload < m.payload.length) :
    m.encode = .error (.payloadTooLarge m.payload.length) := if_pos large

/-- A payload that can be declared goes behind the header. -/
theorem encode_of_declarable {m : Message} (room : m.payload.length ≤ maxPayload) :
    m.encode = match m.outbound.appendTo [] with
      | (.ok (), bs) => .ok (bs ++ m.payload)
      | (.error e, _) => .error e := by
  rw [encode, if_neg (Nat.not_lt.mpr room), Header.appendTo, outbound]
  cases Header.encode { m.toHeader with declared := UInt32.ofNat m.payload.length } <;> rfl

end Message

/-! ### The steps -/

namespace Writing

variable {α : Type} {buffer : List UInt8}

theorem into_put (bs : List UInt8) : (put bs).into buffer = some (.ok (), buffer ++ bs) := rfl

theorem into_put_bind (bs : List UInt8) (k : Unit → Writing α) :
    (put bs >>= k).into buffer = (k ()).into (buffer ++ bs) := rfl

theorem into_granted_bind (n : Nat) (k : Nat → Writing α) :
    (granted (some n) >>= k).into buffer = (k n).into buffer := rfl

theorem into_checked_ok (k : Unit → Writing α) :
    (checked (.ok ()) >>= k).into buffer = (k ()).into buffer := rfl

theorem into_checked_error (e : Fault) (k : Unit → Writing α) :
    (checked (.error e) >>= k).into buffer = some (.error e, buffer) := rfl

/-- A text that fits is put with its spaces. -/
theorem into_text_bind {field : Field} {s : String} (fits : Utf8.width s ≤ field.width)
    (k : Unit → Writing α) :
    (text field s >>= k).into buffer = (k ()).into (buffer ++ padded field s) := by
  have room : difference? field.width (Utf8.width s) = some (field.width - Utf8.width s) :=
    if_pos fits
  rw [text, bind_assoc, into_put_bind, bind_assoc, room, into_granted_bind, into_put_bind,
    List.append_assoc]
  rfl

/-- The steps of a header come to what appending it as a whole comes to. -/
theorem header_into (h : Header) (buffer : List UInt8) :
    (header h).into buffer = some (h.appendTo buffer) := by
  by_cases schema : Utf8.width h.schema ≤ Field.schemaVersion.width
  · by_cases session : Utf8.width h.session ≤ Field.sessionId.width
    · rw [Header.appendTo_of_fits ⟨schema, session⟩, header, checkWidth,
        if_neg (Nat.not_lt.mpr schema), into_checked_ok, checkWidth,
        if_neg (Nat.not_lt.mpr session), into_checked_ok, number, into_put_bind,
        into_text_bind schema, into_text_bind session, number, into_put_bind, number,
        into_put_bind, number, into_put, Header.bytes]
      simp only [List.append_assoc]
    · have wide := Nat.not_le.mp session
      rw [Header.appendTo_of_wide_session schema wide, header, checkWidth,
        if_neg (Nat.not_lt.mpr schema), into_checked_ok, checkWidth, if_pos wide,
        into_checked_error]
  · have wide := Nat.not_le.mp schema
    rw [Header.appendTo_of_wide_schema wide, header, checkWidth, if_pos wide, into_checked_error]

/-- What is put behind a header is put where the header was. -/
theorem header_bind (h : Header) (k : Unit → Writing α) :
    (header h >>= k).into buffer = match h.appendTo buffer with
      | (.ok (), bs) => (k ()).into bs
      | (.error e, bs) => some (.error e, bs) := by
  have steps := header_into h buffer
  rw [into] at steps
  simp only [into, ExceptT.run_bind, StateT.run_bind, steps, Option.bind_eq_bind, Option.bind_some]
  cases h.appendTo buffer with
  | mk result bs => cases result <;> rfl

/-- A frame is written into a new buffer, and where it is refused that holds nothing. -/
theorem message_into (m : Message) : (message m).into [] = some (match m.encode with
    | .ok bs => (.ok (), bs)
    | .error e => (.error e, [])) := by
  by_cases large : maxPayload < m.payload.length
  · rw [Message.encode_of_large large, message, if_pos large]
    rfl
  · have steps : (message m).into [] = (header m.outbound >>= fun _ => put m.payload).into [] := by
      rw [message, if_neg large]
      rfl
    rw [steps, header_bind, Message.encode_of_declarable (Nat.not_lt.mp large), Header.appendTo]
    cases m.outbound.encode <;> rfl

/-- All or nothing. A header goes behind what the buffer holds, in 60 bytes and each part where it
is read, if both texts fit; else the buffer is left as it was, and the fault names the schema
version before the session id. A frame is refused for the same reasons, and before them for a
payload that cannot be declared; else it is the header, and the payload behind it. -/
theorem all_or_nothing (h : Header) (buffer : List UInt8) (m : Message) :
    (header h).into buffer = some (h.appendTo buffer) ∧
    ((h.appendTo buffer).1 = .ok () ↔ h.Fits) ∧
    (h.Fits → ∃ bs, h.appendTo buffer = (.ok (), buffer ++ bs) ∧ h.Layout bs) ∧
    (Field.schemaVersion.width < Utf8.width h.schema → h.appendTo buffer =
      (.error (.tooLong .schemaVersion (Utf8.width h.schema) Field.schemaVersion.width),
        buffer)) ∧
    (Utf8.width h.schema ≤ Field.schemaVersion.width →
      Field.sessionId.width < Utf8.width h.session → h.appendTo buffer =
        (.error (.tooLong .sessionId (Utf8.width h.session) Field.sessionId.width), buffer)) ∧
    (message m).into [] = some (match m.encode with
      | .ok bs => (.ok (), bs)
      | .error e => (.error e, [])) ∧
    (maxPayload < m.payload.length → m.encode = .error (.payloadTooLarge m.payload.length)) ∧
    (m.payload.length ≤ maxPayload → m.encode = match m.outbound.appendTo [] with
      | (.ok (), bs) => .ok (bs ++ m.payload)
      | (.error e, _) => .error e) :=
  ⟨header_into h buffer, Header.appendTo_fst_eq_ok_iff,
    fun fits => ⟨_, Header.appendTo_of_fits fits, Header.layout_bytes fits⟩,
    Header.appendTo_of_wide_schema, Header.appendTo_of_wide_session, message_into m,
    Message.encode_of_large, Message.encode_of_declarable⟩

/-- Widths are counted in bytes: seventeen letters of two bytes each are too many. -/
example : (header ⟨.output, "1.01", String.ofList (List.replicate 17 'é'), 1, -1, 5⟩).into [7] =
    some (.error (.tooLong .sessionId 34 32), [7]) := by
  decide

end Writing

end Tether.Wire
