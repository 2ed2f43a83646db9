import Mathlib.Data.List.Nodup
import Tether.Proofs.RoundTrip
import Tether.Proofs.Session
import Tether.Session.Senders

/-! The numbers of outbound frames. Whatever order the calls get the lock in, and whatever the
transport makes of their frames, the call number `k` among those that can be framed hands over
one frame, and that frame has number `k`. -/

namespace Tether.Session

open Text Wire

/-! ### One call -/

/-- Whether data can be framed in this session; neither its number nor the time matters. -/
structure Frameable (c : Config) (data : List UInt8) : Prop where
  schema : Utf8.width c.schema ≤ Field.schemaVersion.width
  id : Utf8.width c.id ≤ Field.sessionId.width
  data : data.length ≤ maxPayload

instance (c : Config) (data : List UInt8) : Decidable (Frameable c data) :=
  decidable_of_iff (Utf8.width c.schema ≤ Field.schemaVersion.width ∧
      Utf8.width c.id ≤ Field.sessionId.width ∧ data.length ≤ maxPayload)
    ⟨fun h => ⟨h.1, h.2.1, h.2.2⟩, fun h => ⟨h.schema, h.id, h.data⟩⟩

theorem Frameable.fits {c : Config} {data : List UInt8} (h : Frameable c data) (number : Int64)
    (created : UInt64) : (Message.output c.schema c.id number created data).Fits :=
  ⟨⟨h.schema, h.id⟩, h.data⟩

theorem frameOf_of_frameable {c : Config} {data : List UInt8} (h : Frameable c data)
    (s : Session) (created : UInt64) : ∃ frame, frameOf c s data created = .ok frame :=
  ⟨_, Message.encode_of_fits (h.fits s.sequence created)⟩

theorem frameable_of_frameOf {c : Config} {s : Session} {data frame : List UInt8}
    {created : UInt64} (h : frameOf c s data created = .ok frame) : Frameable c data := by
  have fits := Message.fits_of_encode h
  exact ⟨fits.schema, fits.session, fits.payload⟩

@[simp] theorem send_nil (c : Config) (s : Session) (created : UInt64) :
    send c s [] created = (.ok (), s, []) := rfl

theorem send_of_frameable {c : Config} {data : List UInt8} (h : Frameable c data)
    (ne : data ≠ []) (s : Session) (created : UInt64) :
    ∃ frame, frameOf c s data created = .ok frame ∧
      send c s data created = (.ok (), s.advance, [.transmit frame]) := by
  obtain ⟨frame, framed⟩ := frameOf_of_frameable h s created
  refine ⟨frame, framed, ?_⟩
  rw [send, if_neg ne, framed]

/-- The number that a frame carries. -/
def numberOf (frame : List UInt8) : Option Int64 :=
  match Message.decode frame with
  | .ok m => some m.sequence
  | .error _ => none

theorem numberOf_encode {m : Message} {frame : List UInt8} (h : m.encode = .ok frame) :
    numberOf frame = some m.sequence := by
  rw [numberOf, Message.decode_of_encode h]
  rfl

namespace Senders

/-! ### What every run keeps -/

/-- Whether a call got the lock. -/
def Served (l : Senders) (call : Nat) : Prop := call ∈ l.served.map Turn.call

/-- The turns that led to a frame, in order. -/
def numbered (c : Config) (l : Senders) : List Turn :=
  l.served.filter fun t => Frameable c t.data

/-- How a call stands: its data, and whether it got the lock, say how far it has come. -/
inductive Standing (c : Config) (l : Senders) (call : Nat) : Call → Prop where
  /-- Nothing to send. -/
  | empty : ¬ l.Served call → Standing c l call ⟨[], .returned (.ok ())⟩
  | waiting {data : List UInt8} : data ≠ [] → ¬ l.Served call →
      Standing c l call ⟨data, .waiting⟩
  /-- Its data cannot be framed. -/
  | refused {data : List UInt8} {reason : String} : data ≠ [] → l.Served call →
      ¬ Frameable c data → Standing c l call ⟨data, .returned (.error (.framing reason))⟩
  | sending {data : List UInt8} : data ≠ [] → l.Served call → Frameable c data →
      l.holder = some call → Standing c l call ⟨data, .sending⟩
  /-- The transport has answered, one way or the other. -/
  | sent {data : List UInt8} : data ≠ [] → l.Served call → Frameable c data →
      l.holder ≠ some call → Standing c l call ⟨data, .returned (.ok ())⟩

/-- The books of a run. -/
structure Accounted (c : Config) (l : Senders) : Prop where
  /-- How far each call has come. -/
  standing : ∀ i call, l.calls[i]? = some call → Standing c l i call
  /-- A turn is the turn of a call with its data. -/
  turns : ∀ t ∈ l.served, (l.calls[t.call]?).map Call.data = some t.data
  /-- No call gets the lock twice. -/
  once : (l.served.map Turn.call).Nodup
  /-- The `k`-th call that can be framed hands over one frame, under number `k`; no other call
  hands one over. -/
  frames : l.handed.map Except.ok = (l.numbered c).mapIdx fun k t =>
    (Message.output c.schema c.id (Int64.ofNat k) t.created t.data).encode
  /-- The lock is held while the transport owes an answer. -/
  owed : l.handed.length = l.answers.length + l.holder.toList.length
  holds : ∀ i, l.holder = some i → (l.calls[i]?).map Call.phase = some .sending
  /-- The next number is the number of answers so far. -/
  counter : l.session.sequence = Int64.ofNat l.answers.length

theorem accounted_start (c : Config) : Accounted c start where
  standing := by simp [start]
  turns := by simp [start]
  once := by simp [start]
  frames := by simp [start, numbered]
  owed := by simp [start]
  holds := by simp [start]
  counter := rfl

/-- A call that a step does not touch stands as before. -/
theorem Standing.of_unmoved {c : Config} {l l' : Senders} {i : Nat} {call : Call}
    (h : Standing c l i call) (served : l'.Served i ↔ l.Served i)
    (holder : l'.holder = some i ↔ l.holder = some i) : Standing c l' i call := by
  cases h with
  | empty s => exact .empty (mt served.mp s)
  | waiting ne s => exact .waiting ne (mt served.mp s)
  | refused ne s f => exact .refused ne (served.mpr s) f
  | sending ne s f hold => exact .sending ne (served.mpr s) f (holder.mpr hold)
  | sent ne s f hold => exact .sent ne (served.mpr s) f (mt holder.mp hold)

theorem Accounted.lt_of_served {c : Config} {l : Senders} (h : Accounted c l) {i : Nat}
    (served : l.Served i) : i < l.calls.length := by
  obtain ⟨t, mem, rfl⟩ := List.mem_map.mp served
  have turn := h.turns t mem
  cases found : l.calls[t.call]? with
  | none => simp [found] at turn
  | some call => exact (List.getElem?_eq_some_iff.mp found).1

theorem accounted_called {c : Config} {l : Senders} (h : Accounted c l) (data : List UInt8) :
    Accounted c (l.called data) where
  standing := by
    intro i call found
    by_cases old : i < l.calls.length
    · rw [called, List.getElem?_append_left old] at found
      exact (h.standing i call found).of_unmoved Iff.rfl Iff.rfl
    · have fresh : ¬ l.Served i := fun served => old (h.lt_of_served served)
      rw [called, List.getElem?_append_right (Nat.not_lt.mp old), List.getElem?_singleton] at found
      split at found
      · cases Option.some.inj found
        split
        · next empty => subst empty; exact .empty fresh
        · next ne => exact .waiting ne fresh
      · cases found
  turns := by
    intro t mem
    have old := h.lt_of_served (List.mem_map_of_mem mem)
    rw [called, List.getElem?_append_left old]
    exact h.turns t mem
  once := h.once
  frames := h.frames
  owed := h.owed
  holds := by
    intro i holder
    have held := h.holds i holder
    have old : i < l.calls.length := by
      by_contra new
      rw [List.getElem?_eq_none (Nat.not_lt.mp new)] at held
      cases held
    rw [called, List.getElem?_append_left old]
    exact held
  counter := h.counter

/-! Moving one call on. -/

theorem moveOn_other {l : Senders} {i j : Nat} (phase : CallPhase) (ne : j ≠ i) :
    (l.moveOn i phase).calls[j]? = l.calls[j]? :=
  List.getElem?_modify_ne _ _ ne.symm

theorem moveOn_self (l : Senders) (i : Nat) (phase : CallPhase) :
    (l.moveOn i phase).calls[i]? = (l.calls[i]?).map fun k => { k with phase := phase } :=
  List.getElem?_modify_eq _ _ _

theorem moveOn_data (l : Senders) (i j : Nat) (phase : CallPhase) :
    ((l.moveOn i phase).calls[j]?).map Call.data = (l.calls[j]?).map Call.data := by
  by_cases same : j = i
  · subst same
    rw [moveOn_self, Option.map_map]
    rfl
  · rw [moveOn_other phase same]

/-- If one call is moved on and nothing changes for the others, only its own standing is new. -/
theorem standing_of_moved {c : Config} {l l' : Senders} (i : Nat) (phase : CallPhase)
    (h : Accounted c l) (calls : l'.calls = (l.moveOn i phase).calls)
    (served : ∀ j, j ≠ i → (l'.Served j ↔ l.Served j))
    (holder : ∀ j, j ≠ i → (l'.holder = some j ↔ l.holder = some j))
    (own : ∀ call, l.calls[i]? = some call → Standing c l' i ⟨call.data, phase⟩) :
    ∀ j call, l'.calls[j]? = some call → Standing c l' j call := by
  intro j call found
  rw [calls] at found
  by_cases same : j = i
  · subst same
    rw [moveOn_self] at found
    obtain ⟨k, hk, rfl⟩ := Option.map_eq_some_iff.mp found
    exact own k hk
  · rw [moveOn_other phase same] at found
    exact (h.standing j call found).of_unmoved (served j same) (holder j same)

theorem served_serve {l : Senders} {t : Turn} {i : Nat} (phase : CallPhase) :
    (l.serve t phase).Served i ↔ l.Served i ∨ i = t.call := by
  simp [Served, serve, moveOn]

/-- A call that waits has not had the lock. -/
theorem Accounted.waits {c : Config} {l : Senders} (h : Accounted c l) {i : Nat}
    {data : List UInt8} (found : l.calls[i]? = some ⟨data, .waiting⟩) :
    data ≠ [] ∧ ¬ l.Served i := by
  cases h.standing i _ found with
  | waiting ne fresh => exact ⟨ne, fresh⟩

section Serve

variable {c : Config} {l : Senders} {t : Turn} (h : Accounted c l) (free : l.holder = none)
  (found : l.calls[t.call]? = some ⟨t.data, .waiting⟩)

include h found

theorem turns_serve (phase : CallPhase) : ∀ u ∈ (l.serve t phase).served,
    ((l.serve t phase).calls[u.call]?).map Call.data = some u.data := by
  intro u mem
  change ((l.moveOn t.call phase).calls[u.call]?).map Call.data = some u.data
  rw [moveOn_data]
  rcases List.mem_append.mp mem with old | new
  · exact h.turns u old
  · obtain rfl := List.mem_singleton.mp new
    rw [found]
    rfl

theorem once_serve (phase : CallPhase) : ((l.serve t phase).served.map Turn.call).Nodup := by
  have fresh := (h.waits found).2
  change ((l.served ++ [t]).map Turn.call).Nodup
  rw [List.map_append, List.nodup_append]
  refine ⟨h.once, List.nodup_singleton _, ?_⟩
  intro i mem j single
  obtain rfl : j = t.call := by simpa using single
  rintro rfl
  exact fresh mem

include free

/-- Data that cannot be framed takes no number. -/
theorem accounted_refuse (reason : String) (misfit : ¬ Frameable c t.data) :
    Accounted c (l.serve t (.returned (.error (.framing reason)))) where
  standing := by
    obtain ⟨ne, -⟩ := h.waits found
    refine standing_of_moved t.call (.returned (.error (.framing reason))) h rfl ?_ ?_ ?_
    · intro j other
      rw [served_serve, or_iff_left other]
    · intro j _
      exact Iff.rfl
    · intro call hcall
      rw [found] at hcall
      cases hcall
      exact .refused ne ((served_serve _).mpr (.inr rfl)) misfit
  turns := turns_serve h found _
  once := once_serve h found _
  frames := by
    have same : (l.serve t (.returned (.error (.framing reason)))).numbered c = l.numbered c := by
      simp [numbered, serve, moveOn, misfit]
    rw [same]
    exact h.frames
  owed := h.owed
  holds := by
    intro i holder
    cases free.symm.trans holder
  counter := h.counter

/-- Data that can be framed is framed under the next number. -/
theorem accounted_hand {frame : List UInt8}
    (framed : frameOf c l.session t.data t.created = .ok frame) :
    Accounted c { l.serve t .sending with
      holder := some t.call, handed := l.handed ++ [frame] } where
  standing := by
    obtain ⟨ne, -⟩ := h.waits found
    refine standing_of_moved t.call .sending h rfl ?_ ?_ ?_
    · intro j other
      exact (served_serve .sending).trans (or_iff_left other)
    · intro j other
      simp [free, other.symm]
    · intro call hcall
      rw [found] at hcall
      cases hcall
      exact .sending ne ((served_serve .sending).mpr (.inr rfl)) (frameable_of_frameOf framed) rfl
  turns := turns_serve h found .sending
  once := once_serve h found .sending
  frames := by
    -- The lock is free, so every frame so far has its answer and its number is used up.
    have length : (l.numbered c).length = l.answers.length := by
      have frames := congrArg List.length h.frames
      have owed := h.owed
      simp [free] at frames owed
      omega
    have next : (Message.output c.schema c.id (Int64.ofNat (l.numbered c).length) t.created
        t.data).encode = .ok frame := by
      rw [length, ← h.counter]
      exact framed
    have turn : (l.serve t .sending).numbered c = l.numbered c ++ [t] := by
      simp [numbered, serve, moveOn, frameable_of_frameOf framed]
    change (l.handed ++ [frame]).map Except.ok = ((l.serve t .sending).numbered c).mapIdx _
    rw [turn, List.mapIdx_concat, next, List.map_append, h.frames]
    rfl
  owed := by
    have owed := h.owed
    simp [free, serve, moveOn] at owed ⊢
    omega
  holds := by
    rintro i ⟨⟩
    change ((l.moveOn t.call .sending).calls[t.call]?).map Call.phase = some .sending
    rw [moveOn_self, found]
    rfl
  counter := h.counter

end Serve

theorem accounted_lock {c : Config} {l : Senders} (h : Accounted c l) (call : Nat)
    (created : UInt64) : Accounted c (l.lock c call created) := by
  unfold lock
  split
  · next data free found =>
    dsimp only
    split
    · next e framed =>
      apply accounted_refuse h free found
      intro fits
      obtain ⟨frame, ok⟩ := frameOf_of_frameable fits l.session created
      cases ok.symm.trans framed
    · next frame framed =>
      exact accounted_hand (t := ⟨call, data, created⟩) h free found framed
  · exact h

theorem accounted_answer {c : Config} {l : Senders} (h : Accounted c l) (ok : Bool) :
    Accounted c (l.answer ok) := by
  unfold answer
  split
  · exact h
  · next i holder =>
    have others : ∀ j, j ≠ i → ((none : Option Nat) = some j ↔ l.holder = some j) := by
      intro j other
      simp [holder, other.symm]
    exact {
      standing := by
        refine standing_of_moved i (.returned (.ok ())) h rfl (fun j _ => Iff.rfl) others ?_
        intro call found
        have phase := h.holds i holder
        have standing := h.standing i call found
        rw [found] at phase
        cases standing with
        | sending ne served fits => exact .sent ne served fits (by simp)
        | _ => cases phase
      turns := fun t mem => (moveOn_data l i t.call _).trans (h.turns t mem)
      once := h.once
      frames := h.frames
      owed := by
        have owed := h.owed
        simp [holder] at owed ⊢
        exact owed
      holds := by simp
      counter := by
        rw [advance_sequence, h.counter, List.length_append, List.length_singleton,
          Int64.ofNat_add]
        rfl }

theorem accounted_step {c : Config} {l : Senders} (h : Accounted c l) (e : Event) :
    Accounted c (l.step c e) := by
  cases e with
  | called data => exact accounted_called h data
  | locked call created => exact accounted_lock h call created
  | answered ok => exact accounted_answer h ok
  | other e => exact { h with
      standing := fun i call found => (h.standing i call found).of_unmoved Iff.rfl Iff.rfl
      counter := (step_sequence c l.session e).trans h.counter }

theorem accounted_run {c : Config} {l : Senders} (h : Accounted c l) (es : List Event) :
    Accounted c (l.run c es) := by
  induction es generalizing l with
  | nil => exact h
  | cons e es ih => exact ih (accounted_step h e)

/-! ### The numbers on the wire -/

section Numbers

variable {c : Config} {l : Senders}

theorem mem_answeredWith {k : Nat} {ok : Bool} :
    k ∈ l.answeredWith ok ↔ l.answers[k]? = some ok := by
  simp only [answeredWith, List.mem_filter, List.mem_range, decide_eq_true_eq,
    and_iff_right_iff_imp]
  intro found
  exact (List.getElem?_eq_some_iff.mp found).1

theorem lt_of_mem_answeredWith {k : Nat} {ok : Bool} (mem : k ∈ l.answeredWith ok) :
    k < l.answers.length :=
  (List.getElem?_eq_some_iff.mp (mem_answeredWith.mp mem)).1

theorem answeredWith_pairwise (ok : Bool) : (l.answeredWith ok).Pairwise (· < ·) :=
  List.Pairwise.filter _ List.pairwise_lt_range

/-- A frame that was answered was answered one way. -/
theorem mem_answeredWith_false {k : Nat} (answered : k < l.answers.length) :
    k ∈ l.answeredWith false ↔ k ∉ l.answeredWith true := by
  rw [mem_answeredWith, mem_answeredWith, List.getElem?_eq_getElem answered]
  cases l.answers[k] <;> simp

/-- The frame handed over at place `k` carries number `k`. -/
theorem Accounted.numberOf_handed (h : Accounted c l) {k : Nat} {frame : List UInt8}
    (found : l.handed[k]? = some frame) : numberOf frame = some (Int64.ofNat k) := by
  have encoded : (l.handed.map Except.ok)[k]? = some (Except.ok (ε := Fault) frame) := by
    rw [List.getElem?_map, found]
    rfl
  rw [h.frames, List.getElem?_mapIdx] at encoded
  obtain ⟨t, -, framed⟩ := Option.map_eq_some_iff.mp encoded
  exact numberOf_encode framed

theorem Accounted.numberOf_framesWith (h : Accounted c l) (ok : Bool) :
    (l.framesWith ok).map numberOf =
      (l.answeredWith ok).map fun k => some (Int64.ofNat k) := by
  rw [framesWith, List.map_filterMap, ← List.filterMap_eq_map]
  apply List.filterMap_congr
  intro k mem
  have answered : k < l.handed.length := by
    have owed := h.owed
    have lt := lt_of_mem_answeredWith mem
    omega
  have found := List.getElem?_eq_getElem answered
  rw [found, Option.map_some, h.numberOf_handed found]
  rfl

end Numbers

theorem ofNat_lt_ofNat {i j : Nat} (lt : i < j) (small : j < 2 ^ 63) :
    Int64.ofNat i < Int64.ofNat j := by
  rw [Int64.lt_iff_toInt_lt, Int64.toInt_ofNat_of_lt small, Int64.toInt_ofNat_of_lt (by omega)]
  exact Int.ofNat_lt.mpr lt

/-! ### How a call comes to its end -/

/-- What the senders do next with a call: it is taken in, it gets the lock once that is free, and
with the transport's answer it returns. -/
structure Advances (c : Config) (l : Senders) : Prop where
  /-- Empty data is done at once, other data waits. -/
  called : ∀ data, (l.step c (.called data)).calls =
    l.calls ++ [Call.mk data (if data = [] then .returned (.ok ()) else .waiting)]
  /-- Data that cannot be framed comes back, and the lock is free again. -/
  refused : ∀ i data created, l.holder = none → l.calls[i]? = some ⟨data, .waiting⟩ →
    ¬ Frameable c data →
    let l' := l.step c (.locked i created)
    (∃ reason, l'.calls[i]? = some ⟨data, .returned (.error (.framing reason))⟩) ∧
      l'.holder = none ∧ l'.handed = l.handed
  /-- Other data is handed over as the next frame. -/
  handed : ∀ i data created, l.holder = none → l.calls[i]? = some ⟨data, .waiting⟩ →
    Frameable c data →
    let l' := l.step c (.locked i created)
    ∃ frame, (Message.output c.schema c.id (Int64.ofNat l.handed.length) created data).encode =
        .ok frame ∧
      l'.calls[i]? = some ⟨data, .sending⟩ ∧ l'.holder = some i ∧ l'.handed = l.handed ++ [frame]
  /-- Whatever the transport answers, the call has succeeded. -/
  returns : ∀ i ok, l.holder = some i →
    let l' := l.step c (.answered ok)
    (∃ data, l.calls[i]? = some ⟨data, .sending⟩ ∧
        l'.calls[i]? = some ⟨data, .returned (.ok ())⟩) ∧
      l'.holder = none ∧ l'.handed = l.handed ∧ l'.answers = l.answers ++ [ok]
  /-- A call that nothing comes in between of does what `send` does. -/
  uninterrupted : ∀ data created ok, l.holder = none →
    let l' := l.run c [.called data, .locked l.calls.length created, .answered ok]
    l'.session = (Session.send c l.session data created).2.1 ∧
      (l'.calls[l.calls.length]?).map Call.phase =
        some (.returned (Session.send c l.session data created).1)

section Advance

variable {c : Config} {l : Senders}

theorem uninterrupted (c : Config) (free : l.holder = none) (data : List UInt8)
    (created : UInt64) (ok : Bool) :
    let l' := l.run c [.called data, .locked l.calls.length created, .answered ok]
    l'.session = (send c l.session data created).2.1 ∧
      (l'.calls[l.calls.length]?).map Call.phase =
        some (.returned (send c l.session data created).1) := by
  by_cases empty : data = []
  · simp [run, step, called, lock, answer, send, empty, free]
  · cases framed : frameOf c l.session data created with
    | error e =>
      simp [run, step, called, lock, answer, send, empty, free, framed, serve, moveOn]
    | ok frame =>
      simp [run, step, called, lock, answer, send, empty, free, framed, serve, moveOn]

variable {i : Nat} {data : List UInt8} (created : UInt64)

theorem lock_of_misfit (free : l.holder = none) (found : l.calls[i]? = some ⟨data, .waiting⟩)
    (misfit : ¬ Frameable c data) : ∃ reason, l.lock c i created =
      l.serve ⟨i, data, created⟩ (.returned (.error (.framing reason))) := by
  cases framed : frameOf c l.session data created with
  | error e => exact ⟨e.message, by simp [lock, free, found, framed]⟩
  | ok frame => exact absurd (frameable_of_frameOf framed) misfit

/-- With a free lock, the next number is the number of frames so far. -/
theorem Accounted.sequence_of_free (h : Accounted c l) (free : l.holder = none) :
    l.session.sequence = Int64.ofNat l.handed.length := by
  have owed := h.owed
  rw [free, Option.toList_none, List.length_nil, Nat.add_zero] at owed
  rw [h.counter, owed]

theorem lock_of_fit (h : Accounted c l) (free : l.holder = none)
    (found : l.calls[i]? = some ⟨data, .waiting⟩) (fits : Frameable c data) : ∃ frame,
      (Message.output c.schema c.id (Int64.ofNat l.handed.length) created data).encode =
        .ok frame ∧
      l.lock c i created = { l.serve ⟨i, data, created⟩ .sending with
        holder := some i, handed := l.handed ++ [frame] } := by
  obtain ⟨frame, framed⟩ := frameOf_of_frameable fits l.session created
  refine ⟨frame, ?_, by simp [lock, free, found, framed]⟩
  rw [← h.sequence_of_free free]
  exact framed

theorem Accounted.advances (h : Accounted c l) : Advances c l where
  called _ := rfl
  refused i data created free found misfit := by
    obtain ⟨reason, locked⟩ := lock_of_misfit created free found misfit
    rw [step, locked]
    refine ⟨⟨reason, ?_⟩, free, rfl⟩
    change (l.moveOn i _).calls[i]? = _
    rw [moveOn_self, found]
    rfl
  handed i data created free found fits := by
    obtain ⟨frame, framed, locked⟩ := lock_of_fit created h free found fits
    rw [step, locked]
    refine ⟨frame, framed, ?_, rfl, rfl⟩
    change (l.moveOn i .sending).calls[i]? = _
    rw [moveOn_self, found]
    rfl
  returns i ok holder := by
    obtain ⟨⟨data, phase⟩, found, rfl⟩ := Option.map_eq_some_iff.mp (h.holds i holder)
    have answered : l.answer ok = { l.moveOn i (.returned (.ok ())) with
        session := l.session.advance, holder := none, answers := l.answers ++ [ok] } := by
      simp only [answer, holder]
    rw [step, answered]
    refine ⟨⟨data, found, ?_⟩, rfl, rfl, rfl⟩
    change (l.moveOn i _).calls[i]? = _
    rw [moveOn_self, found]
    rfl
  uninterrupted data created ok free := uninterrupted c free data created ok

end Advance

/-- Whatever the order of the calls and whatever the transport answers, the books are kept, and
each call goes on to its end as the lock and the answers come. The frames the transport took and
the frames it refused carry their places as numbers; no place is in both and none is in neither.
The numbers themselves rise as long as they fit the field. -/
theorem sends_accounted (c : Config) (es : List Event) :
    let l := start.run c es
    Accounted c l ∧ Advances c l ∧
      (∀ ok, (l.framesWith ok).map numberOf =
        (l.answeredWith ok).map fun k => some (Int64.ofNat k)) ∧
      (∀ ok, (l.answeredWith ok).Pairwise fun i j =>
        i < j ∧ (j < 2 ^ 63 → Int64.ofNat i < Int64.ofNat j)) ∧
      ∀ k < l.answers.length, k ∈ l.answeredWith false ↔ k ∉ l.answeredWith true := by
  intro l
  have kept : Accounted c l := accounted_run (accounted_start c) es
  refine ⟨kept, kept.advances, kept.numberOf_framesWith, ?_, fun k => mem_answeredWith_false⟩
  intro ok
  exact (answeredWith_pairwise ok).imp fun lt => ⟨lt, ofNat_lt_ofNat lt⟩

def brief : Config where
  id := "s-1"
  schema := "1.0"
  idleLimit := 1
  retry := ⟨fun _ => (⟨0⟩, true), 3⟩
  capacity := 4

/-- Four calls, one of them with nothing to send. The third gets the lock first, the transport is
lost and reopened before its frame is refused; then the first sends, and the last still waits. -/
def crossed : List Event :=
  [.called [1], .called [], .called [2, 2], .called [3],
    .locked 2 7, .locked 0 8, .other (.opened true), .other (.arrived (.lost .closed)),
    .other (.taken false), .other (.reconnected true), .answered false,
    .locked 0 9, .answered true]

/-- The last call is next, under number 2; in a session whose id is too wide it comes back. -/
theorem crossed_accounted :
    let l := start.run brief crossed
    let wide : Config := { brief with id := "a session id of more than 32 bytes" }
    l.calls.map Call.data = [[1], [], [2, 2], [3]] ∧
      (l.framesWith true).map numberOf = [some 1] ∧ (l.framesWith false).map numberOf = [some 0] ∧
      (∃ frame, (Message.output "1.0" "s-1" 2 5 [3]).encode = .ok frame ∧
        (l.step brief (.locked 3 5)).handed = l.handed ++ [frame]) ∧
      ∃ reason, ((start.run wide [.called [3], .locked 0 5]).calls[0]?) =
        some ⟨[3], .returned (.error (.framing reason))⟩ := by
  intro l wide
  obtain ⟨-, advances, numbers, -, -⟩ := sends_accounted brief crossed
  obtain ⟨-, turnedBack, -⟩ := sends_accounted wide [.called [3]]
  have free : l.holder = none := by decide
  have waits : l.calls[3]? = some ⟨[3], .waiting⟩ := by rfl
  obtain ⟨frame, framed, -, -, handed⟩ :=
    advances.handed 3 [3] 5 free waits (by decide)
  obtain ⟨reason, -, -⟩ := turnedBack.refused 0 [3] 5 rfl rfl (by decide)
  exact ⟨rfl, (numbers true).trans (by decide), (numbers false).trans (by decide),
    ⟨frame, framed, handed⟩, reason⟩

end Senders

end Tether.Session
