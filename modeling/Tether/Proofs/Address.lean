import Mathlib.Data.List.TakeWhile
import Tether.Outcome
import Tether.Proofs.Form
import Tether.Url.Channel
import Tether.Wire.SessionId

/-! Whether the address of a session names it. The parameters of the base stay as they are, and one
more follows; but the id is put there as it is, so it is read back only if nothing in it ends the
parameter or is decoded. A report of the session writes the id as a query does, and there every id
is read back. -/

namespace Tether.Url

open Text Text.Form

theorem occurs_iff {needle cs : List Char} : occurs needle cs = true ↔ needle <:+: cs := by
  induction cs with
  | nil => simp [occurs]
  | cons c r ih => simp [occurs, ih, List.infix_cons_iff]

/-- A text that stands for itself in a query: nothing in it ends the parameter or the query, and
nothing in it is decoded. -/
structure Literal (s : String) : Prop where
  ampersand : '&' ∉ s.toList
  hash : '#' ∉ s.toList
  plus : '+' ∉ s.toList
  code : ¬ HasCode s.toList

/-! ### The query of an address -/

theorem takeWhile_ne {c : Char} {cs : List Char} (none : c ∉ cs) (rest : List Char) :
    (cs ++ rest).takeWhile (· ≠ c) = cs ++ rest.takeWhile (· ≠ c) := by
  refine List.takeWhile_append_of_pos fun x mem => ?_
  simpa using fun same : x = c => none (same ▸ mem)

theorem takeWhile_ne_eq_self_iff {c : Char} {cs : List Char} :
    cs.takeWhile (· ≠ c) = cs ↔ c ∉ cs := by
  rw [List.takeWhile_eq_self_iff]
  constructor
  · intro all mem
    simpa using all c mem
  · intro none x mem
    simpa using fun same : x = c => none (same ▸ mem)

theorem query_of_notMem {url : String} (none : '?' ∉ url.toList) : query url = [] := by
  have all : url.toList.dropWhile (· ≠ '?') = [] := by
    refine List.dropWhile_eq_nil_iff.mpr fun x mem => ?_
    simpa using fun same : x = '?' => none (same ▸ mem)
  rw [query, all]
  rfl

/-- The query begins behind the first question mark. -/
theorem query_of_toList {url : String} {front rest : List Char}
    (chars : url.toList = front ++ '?' :: rest) (first : '?' ∉ front) :
    query url = rest.takeWhile (· ≠ '#') := by
  have front : ∀ x ∈ front, decide (x ≠ '?') = true := fun x mem => by
    simpa using fun same : x = '?' => first (same ▸ mem)
  rw [query, chars, List.dropWhile_append_of_pos front]
  simp

theorem toList_channel {base id : String} (unnamed : ¬ parameter.toList <:+: base.toList) :
    (channel base id).toList = base.toList ++ (if '?' ∈ base.toList then '&' else '?') ::
      (parameter.toList ++ id.toList) := by
  rw [channel, if_neg (mt occurs_iff.mp unnamed)]
  split <;> simp [String.toList_append]

/-- The parameters of the base come first, as they are, and then what the id makes of the
parameter that names the session. -/
theorem parameters_channel {base id : String} (whole : '#' ∉ base.toList)
    (unnamed : ¬ parameter.toList <:+: base.toList) :
    parameters (channel base id) = parameters base ++
      read (parameter.toList ++ id.toList.takeWhile (· ≠ '#')) := by
  have chars := @toList_channel base id unnamed
  have named : ('#' : Char) ∉ parameter.toList := by decide
  split at chars
  · next some =>
    obtain ⟨front, rest, split, first⟩ := List.eq_append_cons_of_mem some
    have rest_whole : '#' ∉ rest := fun mem => whole (by simp [split, mem])
    have before : query base = rest := by
      rw [query_of_toList split first, takeWhile_ne_eq_self_iff.mpr rest_whole]
    have after : query (channel base id) =
        rest ++ '&' :: (parameter.toList ++ id.toList.takeWhile (· ≠ '#')) := by
      rw [split, List.append_assoc, List.cons_append] at chars
      rw [query_of_toList chars first, takeWhile_ne rest_whole, List.takeWhile_cons_of_pos (by decide),
        takeWhile_ne named]
    rw [parameters, parameters, after, before, read_append]
  · next none =>
    rw [parameters, parameters, query_of_toList chars none, query_of_notMem none,
      takeWhile_ne named]
    rfl

/-! ### What names the session -/

theorem read_parameter_of_notMem {value : List Char} (one : '&' ∉ value) :
    read (parameter.toList ++ value) = [("channelId", decode value)] := by
  have chars : parameter.toList = "channelId".toList ++ ['='] := by decide
  have name : decode "channelId".toList = "channelId" := by
    rw [decode_eq_self_iff.mpr ⟨by decide, ?_⟩, String.ofList_toList]
    rintro ⟨a, b, -, -, code⟩
    exact absurd (code.mem List.mem_cons_self) (by decide)
  rw [chars, List.append_assoc, List.singleton_append, read_of_notMem, pair_append (by decide), name]
  · simpa using one
  · simp

theorem read_parameter (value : List Char) : ∃ more,
    read (parameter.toList ++ value) =
      ("channelId", decode (value.takeWhile (· ≠ '&'))) :: more ∧
    ('&' ∉ value → more = []) := by
  by_cases one : '&' ∈ value
  · obtain ⟨front, rest, rfl, first⟩ := List.eq_append_cons_of_mem one
    refine ⟨read rest, ?_, fun none => absurd one none⟩
    rw [takeWhile_ne first, ← List.append_assoc, read_append, read_parameter_of_notMem first]
    simp
  · refine ⟨[], ?_, fun _ => rfl⟩
    rw [takeWhile_ne_eq_self_iff.mpr one, read_parameter_of_notMem one]

/-- A part of an id is read as the id only if it is all of it. -/
theorem literal_of_decode {id : String} {part : List Char} (front : part <+: id.toList)
    (same : decode part = id) : part = id.toList ∧ '+' ∉ id.toList ∧ ¬ HasCode id.toList := by
  have length : id.toList.length ≤ part.length := by
    have shorter := (length_decode_le part []).1
    rw [List.nil_append, List.length_nil, Nat.zero_add] at shorter
    rwa [← same, decode, Utf8.decodeLossy, String.toList_ofList]
  obtain rfl := front.eq_of_length_le length
  exact ⟨rfl, decode_eq_self_iff.mp (by rw [same, String.ofList_toList])⟩

/-- The address of a session has the parameters of the base and then one under the name of the
session's; that is the only one to follow, and has the id for a value, exactly if the id stands for
itself in a query. In a report every id is read back. -/
theorem session_named_iff (base id code : String) (whole : '#' ∉ base.toList)
    (unnamed : ¬ parameter.toList <:+: base.toList) :
    (∃ value more, parameters (channel base id) =
      parameters base ++ ("channelId", value) :: more) ∧
    (parameters (channel base id) = parameters base ++ [("channelId", id)] ↔ Literal id) ∧
    (Outcome.mk id code).query.head? = some ("channelId", id) ∧
    read (write (Outcome.mk id code).query).toList = (Outcome.mk id code).query := by
  obtain ⟨more, named, single⟩ := read_parameter (id.toList.takeWhile (· ≠ '#'))
  refine ⟨⟨_, more, by rw [parameters_channel whole unnamed, named]⟩, ?_, rfl, read_write _⟩
  rw [parameters_channel whole unnamed, named, List.append_cancel_left_eq, List.cons.injEq,
    Prod.mk.injEq]
  constructor
  · rintro ⟨⟨-, same⟩, -⟩
    have outer := List.takeWhile_prefix (l := id.toList) (· ≠ '#')
    have inner := List.takeWhile_prefix (l := id.toList.takeWhile (· ≠ '#')) (· ≠ '&')
    obtain ⟨all, plus, code⟩ := literal_of_decode (inner.trans outer) same
    have long := inner.length_le
    rw [all] at long
    have hash := outer.eq_of_length_le long
    rw [hash] at all
    exact ⟨takeWhile_ne_eq_self_iff.mp all, takeWhile_ne_eq_self_iff.mp hash, plus, code⟩
  · intro literal
    have hash := takeWhile_ne_eq_self_iff.mpr literal.hash
    rw [hash] at single ⊢
    refine ⟨⟨rfl, ?_⟩, single literal.ampersand⟩
    rw [takeWhile_ne_eq_self_iff.mpr literal.ampersand,
      decode_eq_self_iff.mpr ⟨literal.plus, literal.code⟩, String.ofList_toList]

/-- Signs that mean nothing where they stand: there are no digits behind the percent sign. -/
def oddId : String := "50%é=?"

theorem oddId_literal : Literal oddId where
  ampersand := by decide
  hash := by decide
  plus := by decide
  code := by
    rintro ⟨a, b, high, -, code⟩
    have chars : oddId.toList = ['5', '0', '%', 'é', '=', '?'] := by decide
    obtain ⟨rfl, -⟩ : a = 'é' ∧ b = '=' := by
      simpa [chars, List.infix_cons_iff, List.cons_prefix_cons] using code
    revert high
    decide

theorem oddId_named : '#' ∉ "wss://host/backend?region=x".toList ∧
    ¬ parameter.toList <:+: "wss://host/backend?region=x".toList ∧ Literal oddId ∧
    parameters (channel "wss://host/backend?region=x" oddId) =
      [("region", "x"), ("channelId", oddId)] := by
  have whole : '#' ∉ "wss://host/backend?region=x".toList := by decide
  have unnamed : ¬ parameter.toList <:+: "wss://host/backend?region=x".toList :=
    mt occurs_iff.mpr (by decide)
  have before : parameters "wss://host/backend?region=x" = [("region", "x")] := by decide
  obtain ⟨-, named, -⟩ := session_named_iff _ oddId "Ok" whole unnamed
  refine ⟨whole, unnamed, oddId_literal, (named.mpr oddId_literal).trans ?_⟩
  exact congrArg (· ++ [("channelId", oddId)]) before

/-- An id of three characters, the second of which ends the parameter. -/
theorem ampersand_misread : (∃ id, Wire.SessionId.ofText "a&b" = .ok id ∧ id.text = "a&b") ∧
    '#' ∉ "wss://host/backend".toList ∧ ¬ parameter.toList <:+: "wss://host/backend".toList ∧
    parameters "wss://host/backend" = [] ∧
    parameters (channel "wss://host/backend" "a&b") = [("channelId", "a"), ("b", "")] := by
  have whole : '#' ∉ "wss://host/backend".toList := by decide
  have unnamed : ¬ parameter.toList <:+: "wss://host/backend".toList :=
    mt occurs_iff.mpr (by decide)
  refine ⟨⟨⟨"a&b", by decide⟩, rfl, rfl⟩, whole, unnamed, by decide, ?_⟩
  exact (parameters_channel whole unnamed).trans (by decide)

end Tether.Url
