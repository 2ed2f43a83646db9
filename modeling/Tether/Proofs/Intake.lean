import Tether.Port.Intake

/-! What comes in on the connections of a forwarded port, followed to the session channel. Every
byte that came in has been read or waits for it, and each read is handed over once, just as it
came; so the payloads are the reads. Only a refused send and a dial that failed end the pump. -/

namespace Tether.Port

namespace Pump

/-! ### The pump -/

/-- What an event does to a pump. -/
inductive Moves (packet : Nat) (addr : String) (p : Pump) : Event → Pump → Prop where
  | stays {e : Event} : Moves packet addr p e p
  | looks {active : Bool} : p.phase = .looking →
      Moves packet addr p (.looked active) { p with phase := if active then .reading else .dozing }
  | takes {bytes : List UInt8} : p.phase = .reading → bytes ≠ [] → bytes.length ≤ packet →
      Moves packet addr p (.read bytes) { p with phase := .sending bytes }
  | loses : p.phase = .reading → Moves packet addr p (.read []) { p with phase := .lost }
  | sends {bytes : List UInt8} {a : SendAnswer} : p.phase = .sending bytes →
      Moves packet addr p (.answered a) (p.afterSend a)
  | wakes : Moves packet addr p .woke { p with phase := .looking }
  | parks : p.phase = .lost → Moves packet addr p .parked { p with phase := .parked }
  | resumes {r : Except String Nat} : p.phase = .parked →
      Moves packet addr p (.resumed r) (p.afterParking addr r)

/-- How an event ends a pump. -/
inductive Ends (addr : String) (p : Pump) : Event → PumpEnd PortExit → Prop where
  | refused {bytes : List UInt8} (cause : ChannelFault) : p.phase = .sending bytes →
      Ends addr p (.answered (.refused cause))
        (.returned (.ioSocketError, some (.ioSocket cause.message)))
  | panicked {bytes : List UInt8} (text : String) : p.phase = .sending bytes →
      Ends addr p (.answered (.panicked text)) (.panicked text)
  | unresumed (reason : String) : p.phase = .parked →
      Ends addr p (.resumed (.error reason))
        (.returned (.readPortFailed, some (.readPort addr reason)))

variable (packet : Nat) (addr : String) (p : Pump) (e : Event)

theorem step_moves : Moves packet addr p e (p.step packet addr e) := by
  cases e with
  | looked active =>
    rw [step]
    split
    · next looking => exact .looks looking
    · exact .stays
  | read bytes =>
    rw [step]
    split
    · next reading =>
      by_cases empty : bytes = []
      · subst empty
        exact .loses reading
      · rw [if_neg empty]
        split
        · next fits => exact .takes reading empty fits
        · exact .stays
    · exact .stays
  | answered a =>
    rw [step]
    split
    · next bytes sending => exact .sends sending
    · exact .stays
  | woke =>
    rw [step]
    split
    · exact .wakes
    · exact .wakes
    · exact .stays
  | parked =>
    rw [step]
    split
    · next lost => exact .parks lost
    · exact .stays
  | resumed r =>
    rw [step]
    split
    · next parked => exact .resumes parked
    · exact .stays

variable {packet addr p e}

theorem phase_of_ended? {how : PumpEnd PortExit} (ended : p.ended? = some how) :
    p.phase = .finished how := by
  unfold ended? at ended
  split at ended
  · next phase => rwa [phase, Phase.finished.injEq, ← Option.some_inj]
  · cases ended

theorem length_of_mem_sends {data : List UInt8} (mem : data ∈ p.sends packet e) :
    data.length ≤ packet := by
  unfold sends at mem
  split at mem
  · split at mem
    · next fits =>
      rw [List.mem_singleton.mp mem]
      exact fits.2.2
    · cases mem
  · cases mem

/-- A read is begun by looking at an active channel. -/
theorem Moves.begun {q : Pump} (h : Moves packet addr p e q) (reading : q.phase = .reading)
    (other : p.phase ≠ .reading) : e = .looked true := by
  cases h with
  | stays => exact absurd reading other
  | @looks active looking =>
    cases active with
    | true => rfl
    | false => cases reading
  | takes => cases reading
  | loses => cases reading
  | @sends bytes a sending => cases a <;> cases reading
  | wakes => cases reading
  | parks => cases reading
  | @resumes r parked => cases r <;> cases reading

theorem Moves.ends {q : Pump} (h : Moves packet addr p e q) {how : PumpEnd PortExit}
    (finished : q.phase = .finished how) : p.phase = .finished how ∨ Ends addr p e how := by
  cases h with
  | stays => exact .inl finished
  | @looks active looking => cases active <;> cases finished
  | takes => cases finished
  | loses => cases finished
  | @sends bytes a sending =>
    cases a with
    | sent => cases finished
    | refused cause =>
      cases finished
      exact .inr (.refused cause sending)
    | panicked text =>
      cases finished
      exact .inr (.panicked text sending)
  | wakes => cases finished
  | parks => cases finished
  | @resumes r parked =>
    cases r with
    | ok connection => cases finished
    | error reason =>
      cases finished
      exact .inr (.unresumed reason parked)

/-- Only another connection takes a pump off the one that it reads. -/
theorem Moves.connection {q : Pump} (h : Moves packet addr p e q) :
    q.connection = p.connection ∨
      p.phase = .parked ∧ e = .resumed (.ok q.connection) := by
  cases h with
  | @sends bytes a sending => cases a <;> exact .inl rfl
  | @resumes r parked =>
    cases r with
    | ok connection => exact .inr ⟨parked, rfl⟩
    | error reason => exact .inl rfl
  | _ => exact .inl rfl

end Pump

namespace Intake

/-! ### What is seen of a run -/

theorem reads_append (a b : List Effect) : reads (a ++ b) = reads a ++ reads b :=
  List.filterMap_append

theorem payloads_append (a b : List Effect) : payloads (a ++ b) = payloads a ++ payloads b :=
  List.filterMap_append

theorem taken_append (k : Nat) (a b : List Effect) : taken k (a ++ b) = taken k a ++ taken k b := by
  rw [taken, reads_append, List.flatMap_append]
  rfl

theorem arrivals_append (k : Nat) (es fs : List Event) :
    arrivals k (es ++ fs) = arrivals k es ++ arrivals k fs :=
  List.flatMap_append

/-- The connection that was given last. -/
def current (first : Nat) : List Effect → Nat
  | [] => first
  | .resumed k :: seen => current k seen
  | _ :: seen => current first seen

/-- Each read is from the connection that was given last. -/
def Successive (first : Nat) : List Effect → Prop
  | [] => True
  | .read k _ :: seen => k = first ∧ Successive first seen
  | .resumed k :: seen => Successive k seen
  | _ :: seen => Successive first seen

theorem current_append (first : Nat) (a b : List Effect) :
    current first (a ++ b) = current (current first a) b := by
  induction a generalizing first with
  | nil => rfl
  | cons effect a ih => cases effect <;> exact ih _

theorem successive_append (first : Nat) (a b : List Effect) :
    Successive first (a ++ b) ↔ Successive first a ∧ Successive (current first a) b := by
  induction a generalizing first with
  | nil => exact ⟨fun seen => ⟨trivial, seen⟩, And.right⟩
  | cons effect a ih =>
    cases effect with
    | read k bytes => exact (and_congr_right fun _ => ih first).trans and_assoc.symm
    | _ => exact ih _

/-! ### One event -/

section Step

variable (addr : String) (i : Intake)

theorem told_quiet {e : Pump.Event} (sends : i.pump.sends i.buffer.length e = [])
    (other : e ≠ .looked true) : (i.told addr e).2 = [] := by
  have unbegun : ¬ (i.pump.phase ≠ .reading ∧
      (i.pump.step i.buffer.length addr e).phase = .reading) :=
    fun ⟨ne, reading⟩ => other ((Pump.step_moves _ addr i.pump e).begun reading ne)
  rw [told, sends, if_neg unbegun]
  rfl

theorem told_looked : (i.told addr (.looked i.active)).2 = [] ∨
    (i.told addr (.looked i.active)).2 = [.begun true] := by
  by_cases active : i.active = true
  · rw [told, active]
    split
    · exact .inr rfl
    · exact .inl rfl
  · exact .inl (i.told_quiet addr rfl fun looked => active (Pump.Event.looked.inj looked))

theorem length_fill {count : Nat} (readable : i.Readable count) :
    (i.fill count).buffer.length = i.buffer.length := by
  obtain ⟨-, -, room, there⟩ := readable
  rw [fill, List.length_append, List.length_take, List.length_drop]
  omega

/-- What is in the buffer from earlier reads is not seen. -/
theorem take_fill {count : Nat} (readable : i.Readable count) :
    (i.fill count).buffer.take count = (i.unread i.pump.connection).take count := by
  have full : ((i.unread i.pump.connection).take count).length = count :=
    List.length_take_of_le readable.2.2.2
  exact List.take_left' full

theorem told_read {bytes : List UInt8} (reading : i.pump.phase = .reading) (ne : bytes ≠ [])
    (fits : bytes.length ≤ i.buffer.length) :
    i.told addr (.read bytes) =
      ({ i with pump := { i.pump with phase := .sending bytes } }, [.sent bytes]) := by
  have next : i.pump.step i.buffer.length addr (.read bytes) =
      { i.pump with phase := .sending bytes } := by
    rw [Pump.step, reading]
    exact (if_neg ne).trans (if_pos fits)
  have sends : i.pump.sends i.buffer.length (.read bytes) = [bytes] :=
    if_pos ⟨reading, ne, fits⟩
  rw [told, next, sends, if_neg fun begun => begun.1 reading]
  rfl

/-- A read takes bytes off the front of what waits and hands them over. -/
theorem step_got {count : Nat} (readable : i.Readable count) :
    i.step addr (.got count) =
      let bytes := (i.unread i.pump.connection).take count
      ({ i.fill count with pump := { i.pump with phase := .sending bytes } },
        [.read i.pump.connection bytes, .sent bytes]) := by
  obtain ⟨reading, some, room, there⟩ := id readable
  have length := List.length_take_of_le there
  have ne : (i.unread i.pump.connection).take count ≠ [] :=
    List.ne_nil_of_length_pos (by rwa [length])
  have fits : ((i.unread i.pump.connection).take count).length ≤ (i.fill count).buffer.length := by
    rwa [length, length_fill i readable]
  have handed := (i.fill count).told_read addr reading ne fits
  simp only [step, if_pos readable, take_fill i readable, handed]
  rfl

theorem connection_told {e : Pump.Event}
    (other : ∀ k, i.pump.phase = .parked → e ≠ .resumed (.ok k)) :
    (i.told addr e).1.pump.connection = i.pump.connection := by
  rcases (Pump.step_moves i.buffer.length addr i.pump e).connection with same | ⟨parked, given⟩
  · exact same
  · exact absurd given (other _ parked)

/-- What an event does to an intake, and what is seen of it. -/
structure Does (e : Event) (r : Intake × List Effect) : Prop where
  size : r.1.buffer.length = i.buffer.length
  sent : payloads r.2 = (reads r.2).map Prod.snd
  pieces : ∀ read ∈ reads r.2, 0 < read.2.length ∧ read.2.length ≤ i.buffer.length
  conserved : ∀ k, taken k r.2 ++ r.1.unread k = i.unread k ++ arrivals k [e]
  connection : r.1.pump.connection = current i.pump.connection r.2
  successive : Successive i.pump.connection r.2
  active : .begun false ∉ r.2

/-- What is seen of an event that moves no data. -/
inductive Aside : List Effect → Prop where
  | nothing : Aside []
  | begun : Aside [.begun true]
  | resumed (k : Nat) : Aside [.resumed k]

variable {i}

theorem does_aside {e : Event} {r : Intake × List Effect} (aside : Aside r.2)
    (buffer : r.1.buffer = i.buffer) (unread : ∀ k, r.1.unread k = i.unread k ++ arrivals k [e])
    (connection : r.1.pump.connection = current i.pump.connection r.2) : Does i e r := by
  obtain ⟨j, seen⟩ := r
  have unseen : payloads seen = [] ∧ reads seen = [] := by cases aside <;> exact ⟨rfl, rfl⟩
  exact {
    size := by rw [buffer]
    sent := by rw [unseen.1, unseen.2]; rfl
    pieces := by rw [unseen.2]; nofun
    conserved := by
      intro k
      rw [taken, unseen.2]
      exact unread k
    connection := connection
    successive := by cases aside <;> trivial
    active := by cases aside <;> simp }

theorem does_told {e : Event} {e' : Pump.Event} (unmoved : ∀ k, arrivals k [e] = [])
    (sends : i.pump.sends i.buffer.length e' = []) (unlooked : e' ≠ .looked true)
    (other : ∀ k, i.pump.phase = .parked → e' ≠ .resumed (.ok k)) :
    Does i e (i.told addr e') := by
  have quiet := i.told_quiet addr sends unlooked
  refine does_aside ?_ rfl (fun k => ?_) ?_
  · rw [quiet]
    exact .nothing
  · rw [unmoved, List.append_nil]
    rfl
  · rw [quiet]
    exact i.connection_told addr other

/-- A parked pump goes on with the connection that it is given. -/
theorem does_resumed {k : Nat} (parked : i.pump.phase = .parked) :
    Does i (.resumed (some (.ok k))) (i.step addr (.resumed (some (.ok k)))) := by
  have next : i.pump.step i.buffer.length addr (.resumed (.ok k)) = ⟨.looking, k⟩ := by
    rw [Pump.step, parked]
    rfl
  have quiet := i.told_quiet addr (e := .resumed (.ok k)) rfl nofun
  have seen : i.step addr (.resumed (some (.ok k))) =
      ((i.told addr (.resumed (.ok k))).1, [.resumed k]) := by
    simp only [step, parked, Option.getD_some, quiet]
  rw [seen, told, next]
  exact does_aside (.resumed k) rfl (fun _ => (List.append_nil _).symm) rfl

theorem does_got {count : Nat} (readable : i.Readable count) :
    Does i (.got count) (i.step addr (.got count)) := by
  obtain ⟨-, some, room, there⟩ := id readable
  have length := List.length_take_of_le there
  rw [step_got addr i readable]
  exact {
    size := length_fill i readable
    sent := rfl
    pieces := by
      intro read mem
      rw [List.mem_singleton.mp mem, length]
      exact ⟨some, room⟩
    conserved := by
      intro k
      by_cases own : k = i.pump.connection
      · subst own
        simp [taken, reads, fill, arrivals]
      · simp [taken, reads, fill, arrivals, own, Ne.symm own]
    connection := rfl
    successive := ⟨rfl, trivial⟩
    active := by simp }

theorem step_does (e : Event) : Does i e (i.step addr e) := by
  cases e with
  | arrived connection bytes =>
    refine does_aside .nothing rfl (fun k => ?_) rfl
    by_cases own : k = connection
    · simp [step, arrivals, own]
    · simp [step, arrivals, own, Ne.symm own]
  | switched active => exact does_aside .nothing rfl (fun k => (List.append_nil _).symm) rfl
  | looked =>
    have same := i.connection_told addr (e := .looked i.active) nofun
    have aside : Aside (i.told addr (.looked i.active)).2 ∧
        current i.pump.connection (i.told addr (.looked i.active)).2 = i.pump.connection := by
      rcases i.told_looked addr with quiet | begun
      · rw [quiet]
        exact ⟨.nothing, rfl⟩
      · rw [begun]
        exact ⟨.begun, rfl⟩
    exact does_aside aside.1 rfl (fun k => (List.append_nil _).symm) (same.trans aside.2.symm)
  | woke => exact does_told addr (fun _ => rfl) rfl nofun nofun
  | got count =>
    by_cases readable : i.Readable count
    · exact does_got addr readable
    · rw [step, if_neg readable]
      exact does_aside .nothing rfl (fun k => (List.append_nil _).symm) rfl
  | ended reason => exact does_told addr (fun _ => rfl) (if_neg fun h => h.2.1 rfl) nofun nofun
  | answered a => exact does_told addr (fun _ => rfl) rfl nofun nofun
  | parked => exact does_told addr (fun _ => rfl) rfl nofun nofun
  | resumed r =>
    by_cases given : ∃ k, i.pump.phase = .parked ∧ r = some (.ok k)
    · obtain ⟨k, parked, rfl⟩ := given
      exact does_resumed addr parked
    · have seen : i.step addr (.resumed r) =
          i.told addr (.resumed (r.getD (.error "reconnect abandoned"))) := by
        simp only [step, told]
        split
        · next k parked => exact absurd ⟨k, parked, rfl⟩ given
        · rfl
      rw [seen]
      refine does_told addr (fun _ => rfl) rfl nofun fun k parked resumed => given ⟨k, parked, ?_⟩
      cases r with
      | none => cases resumed
      | some r => rw [← Pump.Event.resumed.inj resumed]; rfl

end Step

/-! ### A run -/

/-- What holds after the events `es`, of which `seen` was seen. -/
structure Exact (packet first : Nat) (es : List Event) (seen : List Effect) (i : Intake) :
    Prop where
  size : i.buffer.length = packet
  sent : payloads seen = (reads seen).map Prod.snd
  pieces : ∀ read ∈ reads seen, 0 < read.2.length ∧ read.2.length ≤ packet
  conserved : ∀ k, taken k seen ++ i.unread k = arrivals k es
  connection : i.pump.connection = current first seen
  successive : Successive first seen
  active : .begun false ∉ seen

theorem exact_start (packet first : Nat) (active : Bool) :
    Exact packet first [] [] (start packet first active) where
  size := List.length_replicate
  sent := rfl
  pieces := nofun
  conserved _ := rfl
  connection := rfl
  successive := trivial
  active := nofun

section Run

variable {packet first : Nat} {es : List Event} {seen : List Effect} {i : Intake} (addr : String)

theorem Exact.step (h : Exact packet first es seen i) (e : Event) :
    Exact packet first (es ++ [e]) (seen ++ (i.step addr e).2) (i.step addr e).1 := by
  have does := i.step_does addr e
  exact {
    size := does.size.trans h.size
    sent := by rw [payloads_append, reads_append, List.map_append, h.sent, does.sent]
    pieces := by
      intro read mem
      rw [reads_append, List.mem_append] at mem
      rcases mem with old | new
      · exact h.pieces read old
      · exact h.size ▸ does.pieces read new
    conserved := by
      intro k
      rw [taken_append, List.append_assoc, does.conserved, ← List.append_assoc, h.conserved,
        arrivals_append]
    connection := by rw [current_append, ← h.connection, does.connection]
    successive := by
      rw [successive_append, ← h.connection]
      exact ⟨h.successive, does.successive⟩
    active := by
      rw [List.mem_append]
      rintro (old | new)
      · exact h.active old
      · exact does.active new }

theorem Exact.run (h : Exact packet first es seen i) (fs : List Event) :
    Exact packet first (es ++ fs) (seen ++ (i.run addr fs).2) (i.run addr fs).1 := by
  induction fs generalizing es seen i with
  | nil => simpa [Intake.run] using h
  | cons e fs ih =>
    have rest := ih (h.step addr e)
    rwa [List.append_assoc, List.append_assoc] at rest

end Run

/-- How an event ends the pump: the channel does not take what it was handed, or no connection
is given to the parked pump. -/
inductive Ends (addr : String) (i : Intake) : Event → PumpEnd PortExit → Prop where
  | refused {bytes : List UInt8} (cause : ChannelFault) : i.pump.phase = .sending bytes →
      Ends addr i (.answered (.refused cause))
        (.returned (.ioSocketError, some (.ioSocket cause.message)))
  | panicked {bytes : List UInt8} (text : String) : i.pump.phase = .sending bytes →
      Ends addr i (.answered (.panicked text)) (.panicked text)
  | unresumed (reason : String) : i.pump.phase = .parked →
      Ends addr i (.resumed (some (.error reason)))
        (.returned (.readPortFailed, some (.readPort addr reason)))
  | abandoned : i.pump.phase = .parked →
      Ends addr i (.resumed none)
        (.returned (.readPortFailed, some (.readPort addr "reconnect abandoned")))

section End

variable (addr : String) {i : Intake} {how : PumpEnd PortExit}

theorem told_ends {e : Pump.Event} (finished : (i.told addr e).1.pump.phase = .finished how) :
    i.pump.phase = .finished how ∨ Pump.Ends addr i.pump e how :=
  (Pump.step_moves _ addr i.pump e).ends finished

theorem step_ends {e : Event} (finished : (i.step addr e).1.pump.phase = .finished how) :
    i.pump.phase = .finished how ∨ Ends addr i e how := by
  cases e with
  | arrived connection bytes => exact .inl finished
  | switched active => exact .inl finished
  | got count =>
    by_cases readable : i.Readable count
    · rw [step_got addr i readable] at finished
      cases finished
    · rw [step, if_neg readable] at finished
      exact .inl finished
  | answered a =>
    refine (told_ends addr finished).imp_right fun ends => ?_
    cases ends with
    | refused cause sending => exact .refused cause sending
    | panicked text sending => exact .panicked text sending
  | resumed r =>
    have pumped : (i.step addr (.resumed r)).1 =
        (i.told addr (.resumed (r.getD (.error "reconnect abandoned")))).1 := by
      simp only [step]
      split <;> rfl
    rw [pumped] at finished
    refine (told_ends addr finished).imp_right fun ends => ?_
    obtain - | reason | connection := r
    · cases ends with
      | unresumed _ parked => exact .abandoned parked
    · cases ends with
      | unresumed _ parked => exact .unresumed reason parked
    · cases ends
  | _ =>
    refine (told_ends addr finished).imp_right fun ends => ?_
    cases ends

/-- If the pump ends in a run, an event of the run has ended it. -/
theorem run_ends (unfinished : i.pump.phase ≠ .finished how) {es : List Event}
    (finished : (i.run addr es).1.pump.phase = .finished how) :
    ∃ before e after, es = before ++ e :: after ∧ Ends addr (i.run addr before).1 e how := by
  induction es generalizing i with
  | nil => exact absurd finished unfinished
  | cons e es ih =>
    by_cases now : (i.step addr e).1.pump.phase = .finished how
    · exact ⟨[], e, es, rfl, (step_ends addr now).resolve_left unfinished⟩
    · obtain ⟨before, e', after, rfl, ends⟩ := ih now finished
      exact ⟨e :: before, e', after, rfl, ends⟩

end End

/-- Whatever comes in and however it is read, the payloads are the reads: each has something and
at most a packet, is from the connection that was given last, and the reads of a connection
together begin what came in on it. A read is begun only while the channel is active. The end of a
connection does not end the pump. -/
theorem intake_exact (addr : String) (packet first : Nat) (active : Bool) (es : List Event) :
    let r := (start packet first active).run addr es
    payloads r.2 = (reads r.2).map Prod.snd ∧
      (∀ read ∈ reads r.2, 0 < read.2.length ∧ read.2.length ≤ packet) ∧
      (∀ k, taken k r.2 ++ r.1.unread k = arrivals k es) ∧
      Successive first r.2 ∧
      .begun false ∉ r.2 ∧
      (∀ count, r.1.Readable count →
        let bytes := (r.1.unread r.1.pump.connection).take count
        bytes.length = count ∧
          (r.1.step addr (.got count)).2 = [.read r.1.pump.connection bytes, .sent bytes]) ∧
      ∀ how, r.1.pump.ended? = some how → ∃ before e after, es = before ++ e :: after ∧
        Ends addr ((start packet first active).run addr before).1 e how := by
  intro r
  have exact : Exact packet first es r.2 r.1 := (exact_start packet first active).run addr es
  refine ⟨exact.sent, exact.pieces, exact.conserved, exact.successive, exact.active, ?_, ?_⟩
  · intro count readable bytes
    exact ⟨List.length_take_of_le readable.2.2.2, by rw [step_got addr r.1 readable]⟩
  · intro how ended
    exact run_ends addr (by simp [start, Pump.start]) (Pump.phase_of_ended? ended)

/-- Two connections: the first is read in two pieces, with a nap in between, and then is over; the
send of what is read from the second is refused. -/
def twoConnections : List Event :=
  [.arrived 0 [1, 2, 3], .looked, .switched true, .woke, .looked, .got 2, .switched false,
    .answered .sent, .woke, .looked, .switched true, .woke, .looked, .got 1, .answered .sent,
    .woke, .looked, .ended none, .parked, .arrived 1 [4, 5], .resumed (some (.ok 1)), .looked]

def refusedSend : List Event := [.got 1, .answered (.refused .closed)]

theorem twoConnections_exact :
    let i := ((start 2 0 false).run "localhost:22" twoConnections).1
    let r := (start 2 0 false).run "localhost:22" (twoConnections ++ refusedSend)
    (i.Readable 1 ∧
      (i.step "localhost:22" (.got 1)).2 = [.read 1 [4], .sent [4]]) ∧
    (payloads r.2 = [[1, 2], [3], [4]] ∧ payloads r.2 = (reads r.2).map Prod.snd ∧
      taken 1 r.2 ++ r.1.unread 1 = [4, 5]) ∧
    ((0, [3]) ∈ reads r.2 ∧ [(3 : UInt8)].length ≤ 2) ∧
    ∃ how, r.1.pump.ended? = some how ∧
      ∃ before e after, twoConnections ++ refusedSend = before ++ e :: after ∧
        Ends "localhost:22" ((start 2 0 false).run "localhost:22" before).1 e how := by
  intro i r
  have readable : i.Readable 1 := by decide
  have ended : r.1.pump.ended? =
      some (.returned (.ioSocketError, some (.ioSocket ChannelFault.closed.message))) := by decide
  obtain ⟨-, -, -, -, -, hands, -⟩ := intake_exact "localhost:22" 2 0 false twoConnections
  obtain ⟨sent, pieces, conserved, -, -, -, ends⟩ :=
    intake_exact "localhost:22" 2 0 false (twoConnections ++ refusedSend)
  have one : (0, [3]) ∈ reads r.2 := by decide
  exact ⟨⟨readable, (hands 1 readable).2⟩, ⟨by decide, sent, conserved 1⟩,
    ⟨one, (pieces _ one).2⟩, _, ended, ends _ ended⟩

end Intake

end Tether.Port
