import Tether.Port.Forward

/-! The link of a forwarded port. Until the race is decided, whoever finds the link lock free finds
the link, the writing end and the pump agreeing with each other. So the handler of a frame dials
only for a pump that waits for it, and at most once each time the pump parks. An aborted pump may
still park when the plugin has torn the link down, and then the next frame dials for nobody. -/

namespace Tether.Port

theorem Pump.step_parked_iff (p : Pump) (packet : Nat) (addr : String) {e : Pump.Event}
    (other : e ≠ .parked) (untold : ∀ r, e ≠ .resumed r) :
    (p.step packet addr e).phase = .parked ↔ p.phase = .parked := by
  cases e with
  | looked active => cases phase : p.phase <;> cases active <;> simp [step, phase]
  | read bytes =>
    cases phase : p.phase with
    | reading =>
      simp only [step, phase]
      repeat' split
      · simp
      · simp
      · simp [phase]
    | _ => simp [step, phase]
  | answered a =>
    cases phase : p.phase with
    | sending bytes => cases a <;> simp [step, phase, afterSend]
    | _ => simp [step, phase]
  | woke => cases phase : p.phase <;> simp [step, phase]
  | parked => exact absurd rfl other
  | resumed r => exact absurd rfl (untold r)

theorem Pump.step_resumed (p : Pump) (packet : Nat) (addr : String) (r : Except String Nat) :
    (p.step packet addr (.resumed r)).phase ≠ .parked := by
  cases phase : p.phase with
  | parked => cases r <;> simp [step, phase, afterParking]
  | _ => simp [step, phase]

theorem Pump.step_of_ended {p : Pump} (ended : p.ended?.isSome) (packet : Nat) (addr : String)
    (e : Pump.Event) : p.step packet addr e = p := by
  cases phase : p.phase with
  | finished how => cases e <;> simp only [step, phase]
  | _ => simp [ended?, phase] at ended

theorem Pump.phase_ne_lost {p : Pump} (ended : p.ended?.isSome) : p.phase ≠ .lost := fun lost => by
  simp [ended?, lost] at ended

namespace Forward

/-- The ticket of the pump that a handler dials for. -/
def Effect.ticket? : Effect → Option Nat
  | .dialing ticket => ticket
  | _ => none

/-- The tickets of the dials of handlers, in order. -/
def redials (seen : List Effect) : List Nat := seen.filterMap Effect.ticket?

/-! ### What the lock guards -/

def Parked (f : Forward) : Prop := ∃ p, f.pump = some p ∧ p.phase = .parked

/-- The pump has parked under this ticket, and nothing has been answered under it. -/
structure Awaits (f : Forward) (ticket : Nat) : Prop where
  latest : ticket + 1 = f.tickets
  parked : f.Parked
  unanswered : ∀ r, f.reply ≠ some (ticket, r)

/-- The link tells what the writing end and the pump are like. -/
structure Consistent (f : Forward) : Prop where
  connected : f.link = .connected → f.writer.isSome
  awaiting : ∀ t, f.link = .awaiting t → f.writer = none ∧ f.Awaits t
  idle : f.link = .idle → ∀ t, ¬ f.Awaits t

/-- What holds in every state, whoever has the lock. Once the race is decided an aborted pump may
leave the link behind, so only the tickets are in order then. -/
structure Sound (f : Forward) : Prop where
  latest : ∀ t, f.link = .awaiting t → t + 1 = f.tickets
  fresh : ∀ t r, f.reply = some (t, r) → t < f.tickets
  free : f.stage = .running → f.holder = .nobody → f.Consistent
  plugin : f.holder = .plugin → f.stage ≠ .running
  handler : ∀ t, f.holder = .handler t → t < f.tickets ∧ (f.stage = .running → f.Awaits t)

variable {f : Forward}

theorem Sound.of_off (off : f.stage ≠ .running)
    (latest : ∀ t, f.link = .awaiting t → t + 1 = f.tickets)
    (fresh : ∀ t r, f.reply = some (t, r) → t < f.tickets)
    (handler : ∀ t, f.holder = .handler t → t < f.tickets) : Sound f where
  latest := latest
  fresh := fresh
  free running := absurd running off
  plugin _ := off
  handler t held := ⟨handler t held, fun running => absurd running off⟩

theorem sound_start (addr : String) (rate : SendRate) : Sound (start addr rate) :=
  .of_off nofun nofun nofun nofun

/-- Whoever waits for a redial has been told nothing. -/
theorem told?_of_awaits {t : Nat} (waits : f.Awaits t)
    (owed : f.link = .awaiting t ∨ f.holder = .handler t) : f.told? = none := by
  have latest : f.tickets - 1 = t := by
    have latest := waits.latest
    omega
  have kept : told?.abandoned f = none := by
    rw [told?.abandoned, latest, if_pos owed]
  unfold told?
  split
  · next ticket r reply =>
    split
    · next last =>
      have same : ticket = t := by omega
      exact absurd (same ▸ reply) (waits.unanswered r)
    · exact kept
  · exact kept

namespace Sound

variable (h : Sound f)

include h

/-- What the link looks like is only about a few fields. -/
theorem of_same {f' : Forward} (stage : f'.stage = f.stage) (holder : f'.holder = f.holder)
    (link : f'.link = f.link) (writer : f'.writer = f.writer) (tickets : f'.tickets = f.tickets)
    (reply : f'.reply = f.reply) (parked : f'.Parked ↔ f.Parked) : Sound f' := by
  have awaits : ∀ t, f'.Awaits t ↔ f.Awaits t := by
    intro t
    constructor
    · rintro ⟨latest, waits, unanswered⟩
      exact ⟨by rwa [← tickets], parked.mp waits, by rwa [← reply]⟩
    · rintro ⟨latest, waits, unanswered⟩
      exact ⟨by rwa [tickets], parked.mpr waits, by rwa [reply]⟩
  exact {
    latest := by rw [link, tickets]; exact h.latest
    fresh := by rw [reply, tickets]; exact h.fresh
    free := by
      rw [stage, holder]
      intro running free
      have consistent := h.free running free
      refine ⟨?_, ?_, ?_⟩
      · rw [link, writer]
        exact consistent.connected
      · intro t
        rw [link, writer, awaits]
        exact consistent.awaiting t
      · intro idle t
        rw [awaits]
        exact consistent.idle (link ▸ idle) t
    plugin := by rw [holder, stage]; exact h.plugin
    handler := by
      intro t
      rw [holder, tickets, stage, awaits]
      exact h.handler t }

/-- The plugin goes on to another stage than its race. -/
theorem leaves {s : Stage} (off : s ≠ .running) : Sound { f with stage := s } :=
  .of_off off h.latest h.fresh fun t held => (h.handler t held).1

theorem started (flag : CancelState) :
    Sound { f with stage := .dialing, holder := .plugin, flag := flag } :=
  .of_off nofun h.latest h.fresh nofun

theorem dialed : Sound { f.connect with
    holder := .nobody
    stage := .running
    pump := some (.start f.connections) } where
  latest := nofun
  fresh := h.fresh
  free _ _ := ⟨fun _ => rfl, nofun, nofun⟩
  plugin := nofun
  handler := nofun

theorem refused (r : PluginResult PortExit) :
    Sound { f with holder := .nobody, stage := .returned r } :=
  .of_off nofun h.latest h.fresh nofun

theorem checked (free : f.holder = .nobody) {t : Nat} (parked : f.link = .awaiting t) :
    Sound { f with link := .connected, holder := .handler t } where
  latest := nofun
  fresh := h.fresh
  free _ := nofun
  plugin := nofun
  handler := by
    rintro t ⟨⟩
    refine ⟨Nat.le_of_eq (h.latest t parked), fun running => ?_⟩
    obtain ⟨latest, waits, unanswered⟩ := ((h.free running free).awaiting t parked).2
    exact ⟨latest, waits, unanswered⟩

theorem redialed {t : Nat} (held : f.holder = .handler t) (m : Wire.Message)
    (answer : Except String Unit) : Sound (f.redial m t answer).1 := by
  obtain ⟨old, waited⟩ := h.handler t held
  cases answer with
  | ok _ =>
    exact {
      latest := nofun
      fresh := by rintro t' r ⟨⟩; exact old
      free := fun _ _ => ⟨fun _ => rfl, nofun, nofun⟩
      plugin := nofun
      handler := nofun }
  | error reason =>
    refine {
      latest := nofun
      fresh := by rintro t' r ⟨⟩; exact old
      free := fun running _ => ⟨nofun, nofun, fun _ t' again => ?_⟩
      plugin := nofun
      handler := nofun }
    have same : t' = t := Nat.succ.inj (again.latest.trans (waited running).latest.symm)
    exact again.unanswered (.error reason) (by rw [same]; rfl)

theorem parks (free : f.holder = .nobody) {p' : Pump} (parked : p'.phase = .parked) :
    Sound { f with
      pump := some p'
      link := .awaiting f.tickets
      tickets := f.tickets + 1
      writer := none } where
  latest := by rintro t ⟨⟩; rfl
  fresh t r reply := Nat.lt_succ_of_lt (h.fresh t r reply)
  free _ _ := by
    refine ⟨nofun, fun t same => ?_, nofun⟩
    cases same
    exact ⟨rfl, rfl, ⟨p', rfl, parked⟩, fun r reply => absurd (h.fresh _ r reply) (Nat.lt_irrefl _)⟩
  plugin held := absurd (free.symm.trans held) nofun
  handler t held := absurd (free.symm.trans held) nofun

theorem unparks {p' : Pump} {r : Except String Nat} (told : f.told? = some r)
    (goes : p'.phase ≠ .parked) : Sound { f with pump := some p' } where
  latest := h.latest
  fresh := h.fresh
  free running held := by
    have consistent := h.free running held
    refine ⟨consistent.connected, fun t awaiting => ?_, fun _ t again => ?_⟩
    -- A link that awaits this pump has told it nothing.
    · have none := told?_of_awaits (consistent.awaiting t awaiting).2 (.inl awaiting)
      cases none.symm.trans told
    · obtain ⟨q, same, parked⟩ := again.parked
      cases same
      exact absurd parked goes
  plugin := h.plugin
  handler t held := by
    obtain ⟨old, waited⟩ := h.handler t held
    refine ⟨old, fun running => ?_⟩
    have none := told?_of_awaits (waited running) (.inr held)
    cases none.symm.trans told

theorem reap (decided : f.stage.isDecided = true) (p : Pump) (parking : Bool) :
    Sound (f.reap p parking) := by
  unfold Forward.reap
  split
  · next parks =>
    refine .of_off (Stage.ne_running decided) ?_ ?_ ?_
    · rintro t ⟨⟩
      rfl
    · exact fun t r reply => Nat.lt_succ_of_lt (h.fresh t r reply)
    · exact fun t held => absurd (parks.2.2.symm.trans held) nofun
  · exact .of_off (Stage.ne_running decided) h.latest h.fresh fun t held => (h.handler t held).1

theorem stepPump {p : Pump} (pump : f.pump = some p) (e : Pump.Event) :
    Sound (f.stepPump p e).1 := by
  have other : ∀ e, e ≠ .parked → (∀ r, e ≠ .resumed r) →
      Sound { f with pump := some (p.step f.flow.packet f.addr e) } := by
    intro e notParked untold
    refine h.of_same rfl rfl rfl rfl rfl rfl ?_
    simp [Parked, pump, p.step_parked_iff f.flow.packet f.addr notParked untold]
  cases e with
  | parked =>
    simp only [Forward.stepPump]
    split
    · next lost =>
      exact h.parks lost.2 (by simp [Pump.step, lost.1])
    · exact h
  | resumed r =>
    simp only [Forward.stepPump]
    split
    · next r told => exact h.unparks told (p.step_resumed f.flow.packet f.addr r)
    · exact h
  | _ => exact other _ (by simp) (by simp)

/-- A frame in hand, the rate of sending and the flag have nothing to do with the link. -/
theorem aside (handling : Option (Wire.Message × Handling)) (flow : Flow) (flag : CancelState) :
    Sound { f with handling := handling, flow := flow, flag := flag } :=
  h.of_same rfl rfl rfl rfl rfl rfl Iff.rfl

theorem check (free : f.holder = .nobody) (m : Wire.Message) : Sound (f.check m).1 := by
  unfold Forward.check
  split
  · exact h.aside none f.flow f.flag
  · exact h.aside (some (m, .passed)) f.flow f.flag
  · next t parked => exact h.checked free parked

theorem apply (m : Wire.Message) (answer : Except String Unit) : Sound (f.apply m answer).1 := by
  unfold Forward.apply
  cases m.kind with
  | input => cases f.writer <;> exact h.aside none f.flow f.flag
  | status => exact h.aside none (f.flow.applyStatus m.payload) f.flag
  | _ => exact h.aside none f.flow f.flag

/-- No event breaks what the lock guards. -/
theorem step (e : Event) : Sound (f.step e).1 := by
  cases e with
  | started flag =>
    simp only [Forward.step]
    split
    · exact h.started flag
    · exact h.started flag
    · exact h
  | dialed answer =>
    simp only [Forward.step]
    split
    · exact h.dialed
    · exact h.refused _
    · exact h
  | arrived m =>
    simp only [Forward.step]
    split
    · exact h.aside (some (m, .arrived)) f.flow f.flag
    · exact h
  | checked =>
    simp only [Forward.step]
    split
    · next m _ free => exact h.check free m
    · exact h
  | redialed answer =>
    simp only [Forward.step]
    split
    · next m _ t _ held => exact h.redialed held m answer
    · exact h
  | applied answer =>
    simp only [Forward.step]
    split
    · exact h.apply _ answer
    · exact h
  | pump e =>
    simp only [Forward.step]
    split
    · next p pump => exact h.stepPump pump e
    · exact h
  | cancelled next => exact h.aside f.handling f.flow _
  | looked flagFirst =>
    simp only [Forward.step]
    repeat' split
    · exact h.leaves nofun
    all_goals exact h
  | reaped parking =>
    simp only [Forward.step]
    split
    · next p decided _ => exact h.reap decided p parking
    · exact h
  | unlinked =>
    simp only [Forward.step]
    split
    · exact .of_off nofun nofun h.fresh fun t held => (h.handler t held).1
    · exact h
  | stopped =>
    simp only [Forward.step]
    split
    · exact .of_off nofun h.latest h.fresh fun t held => (h.handler t held).1
    · exact h

theorem run (es : List Event) : Sound (f.run es).1 := by
  induction es generalizing f with
  | nil => exact h
  | cons e es ih => exact ih (h.step e)

end Sound

/-! ### Dials -/

/-- The lowest ticket under which somebody may still dial. -/
def floor (f : Forward) : Nat :=
  match f.link with
  | .awaiting _ => f.tickets - 1
  | _ => f.tickets

theorem floor_le (f : Forward) : f.floor ≤ f.tickets := by
  unfold floor
  split
  · exact Nat.sub_le _ _
  · exact Nat.le_refl _

theorem redials_sent (bytes : List (List UInt8)) : redials (bytes.map .sent) = [] := by
  rw [redials, List.filterMap_map, List.filterMap_eq_nil_iff]
  exact fun _ _ => rfl

/-- What an event does about dials for the pump. -/
structure Moves (f : Forward) (r : Forward × List Effect) : Prop where
  rises : f.floor ≤ r.1.floor
  counts : f.tickets ≤ r.1.tickets
  /-- A handler dials when it finds the lock free and the pump parked. -/
  dials : redials r.2 = [] ∨ ∃ t, f.holder = .nobody ∧ f.link = .awaiting t ∧
    redials r.2 = [t] ∧ r.1.floor = f.tickets

/-- The link stays as it is. -/
theorem Moves.aside {f' : Forward} {seen : List Effect} (link : f'.link = f.link)
    (tickets : f'.tickets = f.tickets) (none : redials seen = []) : Moves f (f', seen) := by
  refine ⟨?_, Nat.le_of_eq tickets.symm, .inl none⟩
  simp only [floor, link, tickets]
  exact Nat.le_refl _

theorem moves_reap (f : Forward) (p : Pump) (parking : Bool) : Moves f (f.reap p parking, []) := by
  unfold reap
  split
  · exact ⟨f.floor_le, Nat.le_succ _, .inl rfl⟩
  · exact .aside rfl rfl rfl

theorem moves_check (free : f.holder = .nobody) (m : Wire.Message) : Moves f (f.check m) := by
  unfold check
  split
  · exact .aside rfl rfl rfl
  · exact .aside rfl rfl rfl
  · next t parked => exact ⟨f.floor_le, Nat.le_refl _, .inr ⟨t, free, parked, rfl, rfl⟩⟩

theorem moves_apply (f : Forward) (m : Wire.Message) (answer : Except String Unit) :
    Moves f (f.apply m answer) := by
  unfold apply
  cases m.kind with
  | input => cases f.writer <;> exact .aside rfl rfl rfl
  | _ => exact .aside rfl rfl rfl

theorem moves_stepPump (f : Forward) (p : Pump) (e : Pump.Event) : Moves f (f.stepPump p e) := by
  unfold stepPump
  split
  · split
    · exact ⟨f.floor_le, Nat.le_succ _, .inl rfl⟩
    · exact .aside rfl rfl rfl
  · split <;> exact .aside rfl rfl rfl
  · exact .aside rfl rfl (redials_sent _)

theorem moves_step (f : Forward) (e : Event) : Moves f (f.step e) := by
  have same : Moves f (f, []) := .aside rfl rfl rfl
  cases e with
  | started flag =>
    simp only [step]
    split
    · exact .aside rfl rfl rfl
    · exact .aside rfl rfl rfl
    · exact same
  | dialed answer =>
    simp only [step]
    split
    · exact ⟨f.floor_le, Nat.le_refl _, .inl rfl⟩
    · exact .aside rfl rfl rfl
    · exact same
  | arrived m =>
    simp only [step]
    split <;> exact .aside rfl rfl rfl
  | checked =>
    simp only [step]
    split
    · next m _ free => exact moves_check free m
    · exact same
  | redialed answer =>
    simp only [step]
    split
    · cases answer <;> exact ⟨f.floor_le, Nat.le_refl _, .inl rfl⟩
    · exact same
  | applied answer =>
    simp only [step]
    split
    · exact f.moves_apply _ answer
    · exact same
  | pump e =>
    simp only [step]
    split
    · exact f.moves_stepPump _ e
    · exact same
  | cancelled next => exact .aside rfl rfl rfl
  | looked flagFirst =>
    simp only [step]
    repeat' split
    · exact .aside rfl rfl rfl
    all_goals exact same
  | reaped parking =>
    simp only [step]
    split
    · exact f.moves_reap _ parking
    · exact same
  | unlinked =>
    simp only [step]
    split
    · exact ⟨f.floor_le, Nat.le_refl _, .inl rfl⟩
    · exact same
  | stopped =>
    simp only [step]
    split
    · exact .aside rfl rfl rfl
    · exact same

theorem redials_cons (f : Forward) (e : Event) (es : List Event) :
    redials (f.run (e :: es)).2 = redials (f.step e).2 ++ redials ((f.step e).1.run es).2 :=
  List.filterMap_append

theorem tickets_run (f : Forward) (es : List Event) : f.tickets ≤ (f.run es).1.tickets := by
  induction es generalizing f with
  | nil => exact Nat.le_refl _
  | cons e es ih => exact Nat.le_trans (f.moves_step e).counts (ih (f.step e).1)

/-- Handlers dial under rising tickets, so at most once for each time that the pump parks. -/
theorem Sound.redials_run (h : Sound f) (es : List Event) :
    (∀ t ∈ redials (f.run es).2, f.floor ≤ t ∧ t < (f.run es).1.tickets) ∧
      (redials (f.run es).2).Pairwise (· < ·) := by
  induction es generalizing f with
  | nil => simp [Forward.run, redials]
  | cons e es ih =>
    obtain ⟨later, sorted⟩ := ih (h.step e)
    obtain ⟨rises, counts, dials⟩ := f.moves_step e
    rw [redials_cons]
    rcases dials with none | ⟨t, free, parked, one, top⟩
    · rw [none, List.nil_append]
      exact ⟨fun t mem => ⟨Nat.le_trans rises (later t mem).1, (later t mem).2⟩, sorted⟩
    · have latest := h.latest t parked
      have bottom : f.floor = t := by
        simp only [floor, parked]
        omega
      have below : t < ((f.step e).1.run es).1.tickets := by
        have counts := Nat.le_trans counts ((f.step e).1.tickets_run es)
        omega
      rw [top] at later
      rw [one, List.singleton_append, List.pairwise_cons, bottom]
      refine ⟨fun t' mem => ?_, fun t' mem => ?_, sorted⟩
      · rcases List.mem_cons.mp mem with rfl | mem
        · exact ⟨Nat.le_refl _, below⟩
        · obtain ⟨above, within⟩ := later t' mem
          exact ⟨by omega, within⟩
      · have above := (later t' mem).1
        omega

/-! ### The end of dials -/

/-- What is left of the pump, if anything, is over, and no frame may dial. -/
structure Spent (f : Forward) : Prop where
  ended : ∀ p, f.pump = some p → p.ended?.isSome
  undialed : ∀ t, f.link ≠ .awaiting t

theorem spent_start (addr : String) (rate : SendRate) : Spent (start addr rate) := ⟨nofun, nofun⟩

theorem Sound.spent (h : Sound f) (running : f.stage = .running) {p : Pump}
    (pump : f.pump = some p) (ended : p.ended?.isSome) : Spent f := by
  have unwaited : ∀ t, ¬ f.Awaits t := by
    rintro t ⟨-, ⟨q, same, parked⟩, -⟩
    cases pump.symm.trans same
    simp [Pump.ended?, parked] at ended
  refine ⟨fun q same => ?_, fun t awaiting => ?_⟩
  · cases pump.symm.trans same
    exact ended
  · cases held : f.holder with
    | nobody => exact unwaited t ((h.free running held).awaiting t awaiting).2
    | plugin => exact h.plugin held running
    | handler t => exact unwaited t ((h.handler t held).2 running)

namespace Spent

variable (h : Spent f)

include h

theorem aside {f' : Forward} (pump : f'.pump = f.pump) (link : f'.link = f.link) : Spent f' :=
  ⟨pump ▸ h.ended, link ▸ h.undialed⟩

theorem check (m : Wire.Message) : Spent (f.check m).1 ∧ redials (f.check m).2 = [] := by
  unfold Forward.check
  split
  · exact ⟨h.aside rfl rfl, rfl⟩
  · exact ⟨h.aside rfl rfl, rfl⟩
  · next t awaiting => exact absurd awaiting (h.undialed t)

theorem apply (m : Wire.Message) (answer : Except String Unit) : Spent (f.apply m answer).1 := by
  unfold Forward.apply
  cases m.kind with
  | input => cases f.writer <;> exact h.aside rfl rfl
  | _ => exact h.aside rfl rfl

theorem stepPump {p : Pump} (pump : f.pump = some p) (e : Pump.Event) :
    Spent (f.stepPump p e).1 := by
  have still : ∀ e, Spent { f with pump := some (p.step f.flow.packet f.addr e) } := fun e =>
    h.aside ((congrArg some (Pump.step_of_ended (h.ended p pump) _ _ e)).trans pump.symm) rfl
  unfold Forward.stepPump
  split
  · split
    · next lost => exact absurd lost.1 (Pump.phase_ne_lost (h.ended p pump))
    · exact h
  · split
    · exact still _
    · exact h
  · exact still _

theorem reap {p : Pump} (pump : f.pump = some p) (parking : Bool) : Spent (f.reap p parking) := by
  unfold Forward.reap
  split
  · next lost => exact absurd lost.2.1 (Pump.phase_ne_lost (h.ended p pump))
  · exact ⟨nofun, h.undialed⟩

/-- Only a dial of the plugin that succeeds lets frames dial again. -/
theorem step {e : Event} (refused : e ≠ .dialed (.ok ())) : Spent (f.step e).1 := by
  cases e with
  | started flag =>
    simp only [Forward.step]
    split
    · exact h.aside rfl rfl
    · exact h.aside rfl rfl
    · exact h
  | dialed answer =>
    simp only [Forward.step]
    split
    · exact absurd rfl refused
    · exact h.aside rfl rfl
    · exact h
  | arrived m =>
    simp only [Forward.step]
    split
    · exact h.aside rfl rfl
    · exact h
  | checked =>
    simp only [Forward.step]
    split
    · exact (h.check _).1
    · exact h
  | redialed answer =>
    simp only [Forward.step]
    split
    · cases answer <;> exact ⟨h.ended, nofun⟩
    · exact h
  | applied answer =>
    simp only [Forward.step]
    split
    · exact h.apply _ answer
    · exact h
  | pump e =>
    simp only [Forward.step]
    split
    · next p pump => exact h.stepPump pump e
    · exact h
  | cancelled next => exact h.aside rfl rfl
  | looked flagFirst =>
    simp only [Forward.step]
    repeat' split
    · exact h.aside rfl rfl
    all_goals exact h
  | reaped parking =>
    simp only [Forward.step]
    split
    · next p _ pump => exact h.reap pump parking
    · exact h
  | unlinked =>
    simp only [Forward.step]
    split
    · exact ⟨h.ended, nofun⟩
    · exact h
  | stopped =>
    simp only [Forward.step]
    split
    · exact h.aside rfl rfl
    · exact h

theorem redials_step (e : Event) : redials (f.step e).2 = [] := by
  rcases (f.moves_step e).dials with none | ⟨t, -, awaiting, -⟩
  · exact none
  · exact absurd awaiting (h.undialed t)

theorem run {es : List Event} (refused : .dialed (.ok ()) ∉ es) :
    Spent (f.run es).1 ∧ redials (f.run es).2 = [] := by
  induction es generalizing f with
  | nil => exact ⟨h, rfl⟩
  | cons e es ih =>
    rw [List.mem_cons, not_or] at refused
    obtain ⟨spent, none⟩ := ih (h.step (Ne.symm refused.1)) refused.2
    exact ⟨spent, by rw [redials_cons, h.redials_step e, none]; rfl⟩

end Spent

/-- Until the race is decided, whoever finds the lock free finds the link consistent, and a handler
dials only for a pump that waits, which goes on waiting meanwhile. At any time a handler begins to
dial only under a free lock, and at most once each time the pump parks; it never does before the
plugin's dial has succeeded, and never again once the pump is over, or gone, with no frame left to
dial. -/
theorem link_sound (addr : String) (rate : SendRate) (es : List Event) :
    let f := ((start addr rate).run es).1
    let dials := redials ((start addr rate).run es).2
    (f.stage = .running → f.holder = .nobody → f.Consistent) ∧
      (∀ e, ∀ t ∈ redials (f.step e).2,
        f.holder = .nobody ∧ f.link = .awaiting t ∧ (f.stage = .running → f.Awaits t)) ∧
      (f.stage = .running → ∀ t, f.holder = .handler t → f.Awaits t) ∧
      (dials.Pairwise (· < ·) ∧ ∀ t ∈ dials, t < f.tickets) ∧
      (.dialed (.ok ()) ∉ es → f.Spent ∧ dials = []) ∧
      (f.stage = .running → ∀ p, f.pump = some p → p.ended?.isSome → f.Spent) ∧
      (f.Spent → ∀ more, .dialed (.ok ()) ∉ more → redials (f.run more).2 = []) := by
  intro f dials
  have sound : Sound f := (sound_start addr rate).run es
  obtain ⟨within, sorted⟩ := (sound_start addr rate).redials_run es
  refine ⟨sound.free, fun e t mem => ?_, fun running t held => (sound.handler t held).2 running,
    ⟨sorted, fun t mem => (within t mem).2⟩, (spent_start addr rate).run,
    fun running p => sound.spent running, fun spent more refused => (spent.run refused).2⟩
  rcases (f.moves_step e).dials with none | ⟨t', free, parked, one, -⟩
  · rw [none] at mem
    cases mem
  · rw [one, List.mem_singleton] at mem
    subst mem
    exact ⟨free, parked, fun running => ((sound.free running free).awaiting t parked).2⟩

def resize : Wire.Message where
  kind := .setSize
  schema := ""
  session := ""
  created := 1
  sequence := 0
  declared := 0
  payload := []

/-- The connection ends, and the next frame dials again. -/
def redialedOnce : List Event :=
  [.pump (.looked true), .pump (.read []), .pump .parked, .arrived resize, .checked,
    .redialed (.ok ()), .applied (.ok ()), .pump (.resumed (.ok 0))]

/-- Two connections end, and the third one is lost. -/
def parkedThrice : List Event :=
  .started .running :: .dialed (.ok ()) :: redialedOnce ++ redialedOnce ++
    [.pump (.looked true), .pump (.read []), .pump .parked]

/-- The session is cancelled, and the pump goes at once. -/
def leaving : List Event :=
  [.cancelled .canceled, .looked true, .reaped false, .unlinked, .stopped]

theorem parkedThrice_awaits :
    let f := ((start "localhost:80" .standard).run parkedThrice).1
    f.stage = .running ∧ f.holder = .nobody ∧ f.writer = none ∧ f.Awaits 2 ∧
      redials ((start "localhost:80" .standard).run parkedThrice).2 = [0, 1] ∧
      redials ((f.run leaving).1.run redialedOnce).2 = [] := by
  intro f
  obtain ⟨consistent, -⟩ := link_sound "localhost:80" .standard parkedThrice
  have running : f.stage = .running := rfl
  have free : f.holder = .nobody := rfl
  have link : f.link = .awaiting 2 := rfl
  obtain ⟨writer, waits⟩ := (consistent running free).awaiting 2 link
  refine ⟨running, free, writer, waits, rfl, ?_⟩
  obtain ⟨-, -, -, -, -, -, ends⟩ := link_sound "localhost:80" .standard (parkedThrice ++ leaving)
  rw [run_append] at ends
  exact ends ⟨nofun, nofun⟩ redialedOnce (by simp [redialedOnce])

/-- The connection ends while the session is cancelled. The plugin has aborted the pump and returned
when the pump gets to park. -/
def strayed : List Event :=
  [.started .running, .dialed (.ok ()), .pump (.looked true), .pump (.read []),
    .cancelled .canceled, .looked true, .unlinked, .stopped, .pump .parked, .reaped false]

/-- The lock is free and the link waits for a frame, but no pump does; the next frame dials. -/
theorem strayed_dials :
    let f := ((start "localhost:80" .standard).run strayed).1
    f.stage = .returned (.timeout, none) ∧ f.holder = .nobody ∧ f.pump = none ∧
      f.link = .awaiting 0 ∧ (¬ ∃ t, f.Awaits t) ∧
      redials (f.run [.arrived resize, .checked]).2 = [0] := by
  refine ⟨rfl, rfl, rfl, rfl, ?_, rfl⟩
  rintro ⟨t, -, ⟨p, gone, -⟩, -⟩
  cases gone

end Forward

end Tether.Port
