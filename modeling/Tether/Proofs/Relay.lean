import Tether.Flow
import Tether.Proofs.Outbound
import Tether.Proofs.Reassembler
import Tether.Shell.Relay

/-! What a process writes, followed to the transport. Every byte that was read is in a frame, in
the reassembler or in a chunk that the pump has not taken, in this order; so the frames hold a
prefix of what was read, and all of it once the pump has returned. -/

namespace Tether.Shell

open Text Wire

/-- One more result counts if the end has not been seen. -/
theorem output_concat (results : List ReadResult) (result : ReadResult) :
    output (results ++ [result]) =
      output results ++ if .ended ∈ results then [] else result.bytes := by
  unfold output
  by_cases closed : .ended ∈ results
  · rw [if_pos closed, List.takeWhile_append, if_neg, List.append_nil]
    intro all
    have whole := List.takeWhile_prefix (l := results) (· ≠ ReadResult.ended)
    have mem : .ended ∈ results.takeWhile (· ≠ .ended) := by
      rwa [whole.eq_of_length all]
    simpa using List.mem_takeWhile_imp mem
  · have open' : ∀ r ∈ results, decide (r ≠ ReadResult.ended) = true := by
      intro r mem
      rw [decide_eq_true_eq]
      rintro rfl
      exact closed mem
    rw [if_neg closed, List.takeWhile_append_of_pos open', List.flatMap_append,
      List.takeWhile_eq_self_iff.mpr open']
    cases result <;> simp [ReadResult.bytes]

namespace Pump

/-! ### The pump -/

/-- The bytes that were read and are not offered yet. -/
def backlog (p : Pump) : List UInt8 := p.utf8.pending ++ p.chunks.flatten

/-- What a pump keeps to, whatever the channel answers. -/
structure Sound (p : Pump) : Prop where
  held : p.utf8.pending.length ≤ 3
  packets : ∀ chunk ∈ p.chunks, chunk.length ≤ Flow.shellPacket
  /-- It returns without a fault only when the reader is done and nothing is left. -/
  emptied : p.phase = .finished (.returned (.ok, none)) → p.readerDone = true ∧ p.backlog = []

theorem sound_start : start.Sound := ⟨Nat.zero_le 3, by simp [start], by simp [start]⟩

theorem backlog_read (p : Pump) (result : ReadResult) :
    (p.read result).backlog = p.backlog ++ if p.readerDone then [] else result.bytes := by
  cases result with
  | chunk bytes =>
    cases done : p.readerDone <;> by_cases empty : bytes = [] <;>
      simp [read, backlog, ReadResult.bytes, done, empty]
  | interrupted => simp [read, ReadResult.bytes]
  | ended => simp [read, backlog, ReadResult.bytes]

theorem readerDone_read (p : Pump) (result : ReadResult) :
    (p.read result).readerDone = (p.readerDone || result = .ended) := by
  cases result with
  | chunk bytes => rw [read]; split <;> simp
  | interrupted => simp [read]
  | ended => simp [read]

theorem phase_read (p : Pump) (result : ReadResult) : (p.read result).phase = p.phase := by
  cases result with
  | chunk bytes => rw [read]; split <;> rfl
  | _ => rfl

theorem Sound.read {p : Pump} (h : p.Sound) {result : ReadResult}
    (packet : result.bytes.length ≤ Flow.shellPacket) : (p.read result).Sound where
  held := by
    cases result with
    | chunk bytes => rw [Pump.read]; split <;> exact h.held
    | _ => exact h.held
  packets := by
    cases result with
    | chunk bytes =>
      rw [Pump.read]
      split
      · exact h.packets
      · intro chunk mem
        rcases List.mem_append.mp mem with old | new
        · exact h.packets chunk old
        · rw [List.mem_singleton.mp new]
          exact packet
    | _ => exact h.packets
  emptied := by
    intro finished
    rw [phase_read] at finished
    obtain ⟨done, empty⟩ := h.emptied finished
    exact ⟨by simp [readerDone_read, done], by simp [backlog_read, done, empty]⟩

/-- A turn takes the next chunk, or at the end gives out what was held back. -/
theorem turn_cases {p : Pump} {data : List UInt8} (offered : p.offer? = some data)
    (answer : SendAnswer) :
    (∃ chunk chunks, p.chunks = chunk :: chunks ∧ data = (p.utf8.push chunk).1 ∧
      p.turn answer = { p with
        phase := (failure? answer).elim .asleep .finished
        utf8 := (p.utf8.push chunk).2
        chunks := chunks }) ∨
    (p.chunks = [] ∧ p.readerDone = true ∧ data = p.utf8.pending ∧
      p.turn answer = { p with
        phase := .finished ((failure? answer).getD (.returned (.ok, none)))
        utf8 := .empty }) := by
  obtain ⟨phase, utf8, chunks, done⟩ := p
  cases phase with
  | waiting =>
    cases chunks with
    | cons chunk chunks =>
      cases offered
      exact .inl ⟨chunk, chunks, rfl, rfl, by cases answer <;> rfl⟩
    | nil =>
      cases done with
      | false => cases offered
      | true =>
        cases offered
        exact .inr ⟨rfl, rfl, rfl, by cases answer <;> rfl⟩
  | _ => cases offered

section Turn

variable {p : Pump} {data : List UInt8} (offered : p.offer? = some data)

include offered

/-- What is offered comes off the front of the backlog. -/
theorem backlog_turn (answer : SendAnswer) : data ++ (p.turn answer).backlog = p.backlog := by
  rcases turn_cases offered answer with ⟨chunk, chunks, next, rfl, turned⟩ |
    ⟨none, -, rfl, turned⟩
  · have cut := Reassembler.push_append p.utf8 chunk
    rw [turned, backlog, backlog, next, ← List.append_assoc, cut]
    simp
  · rw [turned, backlog, backlog, none]
    simp [Reassembler.empty]

theorem readerDone_turn (answer : SendAnswer) : (p.turn answer).readerDone = p.readerDone := by
  rcases turn_cases offered answer with ⟨_, _, -, -, turned⟩ | ⟨-, -, -, turned⟩ <;> rw [turned]

theorem Sound.length_offer_le (h : p.Sound) : data.length ≤ Flow.shellPacket + 3 := by
  have held := h.held
  rcases turn_cases offered .sent with ⟨chunk, chunks, next, rfl, -⟩ | ⟨-, -, rfl, -⟩
  · have packet := h.packets chunk (by simp [next])
    have released := Reassembler.length_push_le p.utf8 chunk
    omega
  · omega

theorem Sound.turn (h : p.Sound) (answer : SendAnswer) : (p.turn answer).Sound := by
  rcases turn_cases offered answer with ⟨chunk, chunks, next, -, turned⟩ | ⟨none, done, -, turned⟩
  · rw [turned]
    refine ⟨Reassembler.length_pending_push_le _ _, ?_, ?_⟩
    · intro c mem
      exact h.packets c (next ▸ List.mem_cons_of_mem chunk mem)
    · intro finished
      cases answer <;> cases finished
  · rw [turned]
    refine ⟨Nat.zero_le 3, h.packets, fun _ => ⟨done, ?_⟩⟩
    rw [backlog, none]
    rfl

/-- While the channel takes everything, the pump ends without a fault. -/
theorem finished_turn_sent {how : PumpEnd ShellExit}
    (finished : (p.turn .sent).phase = .finished how) : how = .returned (.ok, none) := by
  rcases turn_cases offered .sent with ⟨_, _, -, -, turned⟩ | ⟨-, -, -, turned⟩
  · rw [turned] at finished
    cases finished
  · rw [turned] at finished
    cases finished
    rfl

end Turn

end Pump

namespace Relay

/-! ### The frames -/

/-- What a run that began at number `first` has made of the results of the reader: the messages
in its frames. -/
structure Relayed (first : Int64) (results : List ReadResult) (ms : List Message)
    (r : Relay) : Prop where
  decoded : r.sent.map Message.decode = ms.map Except.ok
  kinds : ∀ m ∈ ms, m.kind = .output
  sizes : ∀ m ∈ ms, m.payload ≠ [] ∧ m.payload.length ≤ Flow.shellPacket + 3
  numbers : ms.map (·.sequence) = (List.range ms.length).map fun k => first + Int64.ofNat k
  next : r.session.sequence = first + Int64.ofNat ms.length
  pump : r.pump.Sound
  done : r.pump.readerDone = true ↔ .ended ∈ results
  conserved : ms.flatMap Message.payload ++ r.pump.backlog = output results
  unfailed : ∀ how, r.pump.phase = .finished how → how = .returned (.ok, none)

theorem relayed_start (s : Session) : Relayed s.sequence [] [] (start s) where
  decoded := rfl
  kinds := nofun
  sizes := nofun
  numbers := rfl
  next := by simp [start]
  pump := Pump.sound_start
  done := by simp [start, Pump.start]
  conserved := rfl
  unfailed := by simp [start, Pump.start]

section Step

variable {first : Int64} {got : List ReadResult} {ms : List Message} {r : Relay}

theorem Relayed.read (h : Relayed first got ms r) {result : ReadResult}
    (packet : result.bytes.length ≤ Flow.shellPacket) :
    Relayed first (got ++ [result]) ms { r with pump := r.pump.read result } where
  decoded := h.decoded
  kinds := h.kinds
  sizes := h.sizes
  numbers := h.numbers
  next := h.next
  pump := h.pump.read packet
  done := by
    rw [List.mem_append, List.mem_singleton, ← h.done, Pump.readerDone_read, Bool.or_eq_true,
      decide_eq_true_eq, eq_comm (a := ReadResult.ended)]
  conserved := by
    rw [Pump.backlog_read, ← List.append_assoc, h.conserved, output_concat]
    simp only [h.done]
  unfailed := by
    intro how finished
    exact h.unfailed how ((Pump.phase_read r.pump result).symm.trans finished)

theorem Relayed.wake (h : Relayed first got ms r) :
    Relayed first got ms { r with pump := r.pump.wake } := by
  unfold Pump.wake
  split
  · exact { h with
      pump := ⟨h.pump.held, h.pump.packets, nofun⟩
      unfailed := nofun }
  · exact h

theorem Relayed.turn {c : Session.Config} (h : Relayed first got ms r)
    (id : Utf8.width c.id ≤ Field.sessionId.width)
    (schema : Utf8.width c.schema ≤ Field.schemaVersion.width) (created : UInt64) :
    ∃ ms', Relayed first got ms' (r.turn c created) := by
  cases offered : r.pump.offer? with
  | none => exact ⟨ms, by rwa [Relay.turn, offered]⟩
  | some data =>
    have turned : r.turn c created =
        { pump := r.pump.turn (.ofResult (r.session.send c data created).1)
          session := (r.session.send c data created).2.1
          sent := r.sent ++ transmitted (r.session.send c data created).2.2 } := by
      rw [Relay.turn, offered]
    rw [turned]
    have size := h.pump.length_offer_le offered
    have taken := Pump.backlog_turn offered .sent
    have done := (Pump.readerDone_turn offered .sent).symm ▸ h.done
    -- An empty offer makes no frame; a full one is the payload of the next message.
    by_cases empty : data = []
    · subst empty
      refine ⟨ms, ?_⟩
      rw [Session.send_nil]
      exact { h with
        decoded := by simp [transmitted, h.decoded]
        pump := h.pump.turn offered .sent
        done := done
        conserved := by rw [← h.conserved, ← taken]; rfl
        unfailed := fun how => Pump.finished_turn_sent offered }
    · have fits : Session.Frameable c data := by
        refine ⟨schema, id, size.trans ?_⟩
        decide
      obtain ⟨frame, framed, sent⟩ := Session.send_of_frameable fits empty r.session created
      refine ⟨ms ++ [(Message.output c.schema c.id r.session.sequence created data).received], ?_⟩
      rw [sent]
      exact {
        decoded := by
          rw [List.map_append, List.map_append, h.decoded]
          simp [transmitted, Message.decode_of_encode framed]
        kinds := by
          intro m mem
          rcases List.mem_append.mp mem with old | new
          · exact h.kinds m old
          · rw [List.mem_singleton.mp new]
            rfl
        sizes := by
          intro m mem
          rcases List.mem_append.mp mem with old | new
          · exact h.sizes m old
          · rw [List.mem_singleton.mp new]
            exact ⟨empty, size⟩
        numbers := by
          rw [List.map_append, h.numbers, List.length_append, List.length_singleton,
            List.range_succ, List.map_append]
          congr 1
          exact congrArg (fun n => [n]) h.next
        next := by
          rw [List.length_append, List.length_singleton, Int64.ofNat_add, ← Int64.add_assoc,
            ← h.next]
          rfl
        pump := h.pump.turn offered .sent
        done := done
        conserved := by
          rw [List.flatMap_append, List.append_assoc, ← h.conserved, ← taken]
          simp [Message.received, Message.output, SendAnswer.ofResult]
        unfailed := fun how => Pump.finished_turn_sent offered }

end Step

theorem relayed_run {c : Session.Config} (id : Utf8.width c.id ≤ Field.sessionId.width)
    (schema : Utf8.width c.schema ≤ Field.schemaVersion.width) (es : List Event)
    {first : Int64} {got : List ReadResult} {ms : List Message} {r : Relay}
    (packets : ∀ result ∈ results es, result.bytes.length ≤ Flow.shellPacket)
    (h : Relayed first got ms r) :
    ∃ ms', Relayed first (got ++ results es) ms' (r.run c es) := by
  -- Only a read adds to what was got, and only a turn to the messages.
  induction es generalizing got ms r with
  | nil => exact ⟨ms, by simpa [results, run] using h⟩
  | cons e es ih =>
    cases e with
    | read result =>
      obtain ⟨packet, packets⟩ := List.forall_mem_cons.mp packets
      obtain ⟨ms', h'⟩ := ih packets (h.read packet)
      rw [List.append_assoc] at h'
      exact ⟨ms', h'⟩
    | woken => exact ih packets h.wake
    | turned created =>
      obtain ⟨_, h⟩ := h.turn id schema created
      exact ih packets h
    | other e =>
      have next := (Session.step_sequence c r.session e).trans h.next
      exact ih packets { h with next := next }

/-- Whatever comes in between, the frames hold what the process wrote: each a piece of it, under
consecutive numbers, together a beginning of it, and all of it when the pump returns. -/
theorem output_relayed (c : Session.Config) (s : Session) (es : List Event)
    (id : Utf8.width c.id ≤ Field.sessionId.width)
    (schema : Utf8.width c.schema ≤ Field.schemaVersion.width)
    (packets : ∀ result ∈ results es, result.bytes.length ≤ Flow.shellPacket) :
    let r := (start s).run c es
    ∃ ms : List Message, r.sent.map Message.decode = ms.map Except.ok ∧
      ms.map (·.sequence) = (List.range ms.length).map (fun k => s.sequence + Int64.ofNat k) ∧
      (∀ m ∈ ms, m.kind = .output ∧ m.payload ≠ [] ∧
        m.payload.length ≤ Flow.shellPacket + 3) ∧
      ms.flatMap (·.payload) <+: output (results es) ∧
      ∀ how, r.pump.phase = .finished how →
        how = .returned (.ok, none) ∧ ms.flatMap (·.payload) = output (results es) := by
  intro r
  obtain ⟨ms, kept⟩ := relayed_run id schema es packets (relayed_start s)
  refine ⟨ms, kept.decoded, kept.numbers, ?_, ⟨_, kept.conserved⟩, ?_⟩
  · intro m mem
    exact ⟨kept.kinds m mem, kept.sizes m mem⟩
  · intro how finished
    obtain rfl := kept.unfailed how finished
    obtain ⟨-, left⟩ := kept.pump.emptied finished
    refine ⟨rfl, ?_⟩
    have conserved := kept.conserved
    rwa [left, List.append_nil] at conserved

/-- A character that comes in three reads, and half of another one behind it. -/
def splitCharacter : List Event :=
  [.read (.chunk [0x61, 0xE2]), .read .interrupted, .woken, .turned 1,
    .read (.chunk [0x82]), .woken, .turned 2, .other .ticked,
    .read (.chunk [0xAC, 0xC3]), .read .ended, .woken, .turned 3, .woken, .turned 4]

def narrow : Session.Config where
  id := "session-1"
  schema := "1.0"
  idleLimit := 300
  retry := ⟨fun _ => (.ofSeconds 5, true), 3⟩
  capacity := 16

/-- The pump returns after three frames: what stands before the character, the character, and the
half that was held back. -/
theorem splitCharacter_relayed :
    let r := (start .start).run narrow splitCharacter
    (Utf8.width narrow.id ≤ Field.sessionId.width ∧
      Utf8.width narrow.schema ≤ Field.schemaVersion.width ∧
      ∀ result ∈ results splitCharacter, result.bytes.length ≤ Flow.shellPacket) ∧
    r.pump.phase = .finished (.returned (.ok, none)) ∧
    ∃ ms : List Message, r.sent.map Message.decode = ms.map Except.ok ∧ ms.length = 3 ∧
      ms.flatMap (·.payload) = [0x61, 0xE2, 0x82, 0xAC, 0xC3] := by
  intro r
  have packets : ∀ result ∈ results splitCharacter,
      result.bytes.length ≤ Flow.shellPacket := by decide
  have finished : r.pump.phase = .finished (.returned (.ok, none)) := by decide
  have frames : r.sent.length = 3 := by decide
  obtain ⟨ms, decoded, -, -, -, whole⟩ :=
    output_relayed narrow .start splitCharacter (by decide) (by decide) packets
  refine ⟨⟨by decide, by decide, packets⟩, finished, ms, decoded, ?_, (whole _ finished).2⟩
  have length := congrArg List.length decoded
  rw [List.length_map, List.length_map] at length
  exact length.symm.trans frames

end Relay

end Tether.Shell
