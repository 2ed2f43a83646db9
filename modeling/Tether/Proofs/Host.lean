import Tether.Port.Host
import Tether.Proofs.Intake
import Tether.Proofs.Relay
import Tether.Proofs.Service
import Tether.Shell.Host

/-! Shell and port sessions under accepted settings. Both pumps bound what they send: a shell by
its reads and the bytes that its reassembler holds back, a port by its buffer. So all of it has
room in a frame, no call is refused, and neither plugin ends with its code for a refused call. -/

namespace Tether

open Wire

theorem ShellExit.text_inj {a b : ShellExit} (same : a.text = b.text) : a = b := by
  cases a <;> cases b <;> simp [text] at same ⊢

theorem PortExit.text_inj {a b : PortExit} (same : a.text = b.text) : a = b := by
  cases a <;> cases b <;> simp [text] at same ⊢

section Race

variable {γ : Type} [ExitCode γ] {flag : CancelState} {pump : Option (PumpEnd γ)} {first : Bool}
  {r : PluginResult γ}

/-- A race gives what the flag says or what the pump says. -/
theorem Race.look_cases (looked : (⟨flag, pump, none⟩ : Race γ).look first = some r) :
    r = (ExitCode.notified, none) ∨ r = (ExitCode.timeout, none) ∨
      ∃ how, pump = some how ∧ r = how.result := by
  have byFlag {o : Option CancelState} (flagged : o.map CancelState.pluginResult = some r) :
      r = (ExitCode.notified, none) ∨ r = (ExitCode.timeout, none) := by
    obtain ⟨state, -, rfl⟩ := Option.map_eq_some_iff.mp flagged
    cases state
    · exact .inr rfl
    · exact .inr rfl
    · exact .inl rfl
  have byPump (ended : pump.map PumpEnd.result = some r) :
      ∃ how, pump = some how ∧ r = how.result := by
    obtain ⟨how, found, rfl⟩ := Option.map_eq_some_iff.mp ended
    exact ⟨how, found, rfl⟩
  unfold look at looked
  cases first with
  | true =>
    rcases Option.or_eq_some_iff.mp looked with flagged | ⟨-, ended⟩
    · exact (byFlag flagged).imp_right .inl
    · exact .inr (.inr (byPump ended))
  | false =>
    rcases Option.or_eq_some_iff.mp looked with ended | ⟨-, flagged⟩
    · exact .inr (.inr (byPump ended))
    · exact (byFlag flagged).imp_right .inl

end Race

namespace Shell

/-! ### Shells -/

theorem Pump.phase_of_ended? {p : Pump} {how : PumpEnd ShellExit} (ended : p.ended? = some how) :
    p.phase = .finished how := by
  unfold ended? at ended
  split at ended
  · next phase => rwa [phase, Phase.finished.injEq, ← Option.some_inj]
  · cases ended

theorem Pump.turn_of_unoffered {p : Pump} (none : p.offer? = none) (answer : SendAnswer) :
    p.turn answer = p := by
  obtain ⟨phase, utf8, chunks, done⟩ := p
  cases phase with
  | waiting =>
    cases chunks with
    | cons chunk chunks => cases none
    | nil =>
      cases done with
      | true => cases none
      | false => rfl
  | _ => rfl

/-- What a pump keeps to while none of its calls is refused. -/
structure Pump.Unrefused (p : Pump) : Prop where
  sound : p.Sound
  ended : ∀ how, p.phase = .finished how → how = .returned (.ok, none)

theorem Pump.unrefused_start : start.Unrefused := ⟨sound_start, nofun⟩

namespace Pump.Unrefused

variable {p : Pump} (h : p.Unrefused)

include h

theorem read {result : ReadResult} (packet : result.bytes.length ≤ Flow.shellPacket) :
    (p.read result).Unrefused :=
  ⟨h.sound.read packet, fun how finished => h.ended how (p.phase_read result ▸ finished)⟩

theorem wake : p.wake.Unrefused := by
  unfold Pump.wake
  split
  · exact ⟨⟨h.sound.held, h.sound.packets, nofun⟩, nofun⟩
  · exact h

theorem turn : (p.turn .sent).Unrefused := by
  cases offered : p.offer? with
  | none => rwa [turn_of_unoffered offered]
  | some data => exact ⟨h.sound.turn offered .sent, fun how => finished_turn_sent offered⟩

end Pump.Unrefused

namespace Host

/-- What a shell keeps to while none of its calls is refused. -/
structure Kept (h : Host) : Prop where
  pump : ∀ p, h.pump = some p → p.Unrefused
  result : ∀ r, h.result = some r → r.1 ≠ .processDataError

namespace Kept

variable {h : Host} (kept : Kept h)

include kept

theorem map {f : Pump → Pump} (keeps : ∀ p : Pump, p.Unrefused → (f p).Unrefused) :
    Kept { h with pump := h.pump.map f } where
  pump := by
    intro q mapped
    obtain ⟨p, found, rfl⟩ := Option.map_eq_some_iff.mp mapped
    exact keeps p (kept.pump p found)
  result := kept.result

theorem looked {p : Pump} (pump : h.pump = some p) {first : Bool} {r : PluginResult ShellExit}
    (looked : (⟨h.flag, p.ended?, none⟩ : Race ShellExit).look first = some r) :
    Kept { h with pump := none, result := some r } where
  pump := nofun
  result := by
    rintro _ ⟨⟩
    obtain rfl | rfl | ⟨how, ended, rfl⟩ := Race.look_cases looked
    · nofun
    · nofun
    · obtain rfl := (kept.pump p pump).ended how (Pump.phase_of_ended? ended)
      nofun

theorem step {c : Session.Config} (fits : c.Fits) {o : Session.Outlet} (framed : o.Framed c)
    (e : Event) : Kept (h.step o e).1 ∧ (h.step o e).2.Framed c := by
  cases e with
  | started s =>
    simp only [Host.step]
    split
    · refine ⟨⟨kept.pump, ?_⟩, framed⟩
      rintro _ ⟨⟩
      nofun
    · refine ⟨⟨?_, kept.result⟩, framed⟩
      rintro _ ⟨⟩
      exact Pump.unrefused_start
    · exact ⟨kept, framed⟩
  | read result =>
    simp only [Host.step]
    split
    · next packet => exact ⟨kept.map fun p h => h.read packet, framed⟩
    · exact ⟨kept, framed⟩
  | woken => exact ⟨kept.map fun p h => h.wake, framed⟩
  | sends =>
    simp only [Host.step]
    split
    · next data offered _ =>
      obtain ⟨p, pump, offered⟩ := Option.bind_eq_some_iff.mp offered
      have size := (kept.pump p pump).sound.length_offer_le offered
      exact ⟨kept, framed.send (fits.frameable size (by decide))⟩
    · exact ⟨kept, framed⟩
  | hears =>
    simp only [Host.step]
    split
    · next result heard =>
      obtain rfl := framed.ok_of_result? heard
      exact ⟨kept.map fun p h => h.turn, framed.settle⟩
    · exact ⟨kept, framed⟩
  | cancelled next => exact ⟨⟨kept.pump, kept.result⟩, framed⟩
  | looked first =>
    simp only [Host.step]
    split
    · next p pump =>
      split
      · next r looked => exact ⟨kept.looked pump looked, framed⟩
      · exact ⟨kept, framed⟩
    · exact ⟨kept, framed⟩

end Kept

theorem careful : plugin.Careful Kept ShellExit.processDataError.text where
  start := ⟨nofun, nofun⟩
  step := fun c fits h o e kept framed => kept.step fits framed e
  code := by
    intro h kept ended
    obtain ⟨r, found, same⟩ := Option.map_eq_some_iff.mp ended
    exact kept.result r found (ShellExit.text_inj same)

end Host

end Shell

namespace Port

/-! ### Ports -/

namespace Forward

/-- What a port keeps to while none of its calls is refused. -/
structure Kept (f : Forward) : Prop where
  packet : f.flow.packet = Flow.portPacket
  pump : ∀ p, f.pump = some p → ∀ r, p.phase = .finished (.returned r) → r.1 ≠ .ioSocketError
  stage : ∀ r, f.stage.result? = some r → r.1 ≠ .ioSocketError

theorem packet_applyStatus (flow : Flow) (payload : List UInt8) :
    (flow.applyStatus payload).packet = flow.packet := by
  unfold Flow.applyStatus
  split
  · unfold Flow.setRate
    split <;> rfl
  · rfl

theorem sends_sent (data : List (List UInt8)) : sends (data.map .sent) = data := by
  induction data with
  | nil => rfl
  | cons bytes data ih => exact congrArg (bytes :: ·) ih

/-- What is handed to the session has the size of a packet. -/
def Small (effects : List Effect) : Prop := ∀ data ∈ sends effects, data.length ≤ Flow.portPacket

theorem small_of_unsent {effects : List Effect} (unsent : sends effects = []) :
    Small effects :=
  fun _ mem => absurd (unsent ▸ mem) List.not_mem_nil

namespace Kept

variable {f : Forward} (h : Kept f)

include h

theorem of_same {f' : Forward} (packet : f'.flow.packet = f.flow.packet)
    (pump : f'.pump = f.pump) (stage : f'.stage = f.stage) : Kept f' :=
  ⟨packet.trans h.packet, pump ▸ h.pump, stage ▸ h.stage⟩

theorem check (m : Message) : Kept (f.check m).1 ∧ Small (f.check m).2 := by
  unfold Forward.check
  split
  · exact ⟨h.of_same rfl rfl rfl, small_of_unsent rfl⟩
  · exact ⟨h.of_same rfl rfl rfl, small_of_unsent rfl⟩
  · exact ⟨h.of_same rfl rfl rfl, small_of_unsent rfl⟩

theorem redial (m : Message) (ticket : Nat) (answer : Except String Unit) :
    Kept (f.redial m ticket answer).1 ∧ Small (f.redial m ticket answer).2 := by
  cases answer with
  | ok => exact ⟨h.of_same rfl rfl rfl, small_of_unsent rfl⟩
  | error reason => exact ⟨h.of_same rfl rfl rfl, small_of_unsent rfl⟩

theorem apply (m : Message) (answer : Except String Unit) :
    Kept (f.apply m answer).1 ∧ Small (f.apply m answer).2 := by
  unfold Forward.apply
  split
  · split
    · exact ⟨h.of_same rfl rfl rfl, small_of_unsent rfl⟩
    · exact ⟨h.of_same rfl rfl rfl, small_of_unsent rfl⟩
  · exact ⟨h.of_same (packet_applyStatus f.flow m.payload) rfl rfl, small_of_unsent rfl⟩
  · exact ⟨h.of_same rfl rfl rfl, small_of_unsent rfl⟩

theorem pumps {p : Pump} (pump : f.pump = some p) {e : Pump.Event}
    (unrefused : ∀ cause, e ≠ .answered (.refused cause)) {f' : Forward}
    (packet : f'.flow.packet = f.flow.packet)
    (next : f'.pump = some (p.step f.flow.packet f.addr e)) (stage : f'.stage = f.stage) :
    Kept f' where
  packet := packet.trans h.packet
  pump := by
    intro q found r finished
    obtain rfl := Option.some.inj (next.symm.trans found)
    rcases (Pump.step_moves f.flow.packet f.addr p e).ends finished with before | ends
    · exact h.pump p pump r before
    · cases ends with
      | refused cause => exact absurd rfl (unrefused cause)
      | unresumed reason => nofun
  stage := stage ▸ h.stage

theorem stepPump {p : Pump} (pump : f.pump = some p) {e : Pump.Event}
    (unrefused : ∀ cause, e ≠ .answered (.refused cause)) :
    Kept (f.stepPump p e).1 ∧ Small (f.stepPump p e).2 := by
  unfold Forward.stepPump
  split
  · split
    · exact ⟨h.pumps pump (e := .parked) nofun rfl rfl rfl, small_of_unsent rfl⟩
    · exact ⟨h, small_of_unsent rfl⟩
  · split
    · next r _ => exact ⟨h.pumps pump (e := .resumed r) nofun rfl rfl rfl, small_of_unsent rfl⟩
    · exact ⟨h, small_of_unsent rfl⟩
  · refine ⟨h.pumps pump unrefused rfl rfl rfl, fun data mem => ?_⟩
    rw [sends_sent] at mem
    exact (Pump.length_of_mem_sends mem).trans_eq h.packet

theorem looked {first : Bool} {r : PluginResult PortExit}
    (looked : (⟨f.flag, f.pump.bind Pump.ended?, none⟩ : Race PortExit).look first = some r) :
    r.1 ≠ .ioSocketError := by
  obtain rfl | rfl | ⟨how, ended, rfl⟩ := Race.look_cases looked
  · nofun
  · nofun
  · obtain ⟨p, pump, ended⟩ := Option.bind_eq_some_iff.mp ended
    cases how with
    | returned r => exact h.pump p pump r (Pump.phase_of_ended? ended)
    | panicked text => nofun

theorem reap (p : Pump) (parking : Bool) : Kept (f.reap p parking) := by
  unfold Forward.reap
  split
  · exact ⟨h.packet, nofun, h.stage⟩
  · exact ⟨h.packet, nofun, h.stage⟩

theorem step {e : Event} (unrefused : ∀ cause, e ≠ .pump (.answered (.refused cause))) :
    Kept (f.step e).1 ∧ Small (f.step e).2 := by
  cases e with
  | started flag =>
    simp only [Forward.step]
    split
    · exact ⟨⟨h.packet, h.pump, nofun⟩, small_of_unsent rfl⟩
    · exact ⟨⟨h.packet, h.pump, nofun⟩, small_of_unsent rfl⟩
    · exact ⟨h, small_of_unsent rfl⟩
  | dialed answer =>
    simp only [Forward.step]
    split
    · refine ⟨⟨h.packet, ?_, nofun⟩, small_of_unsent rfl⟩
      rintro _ ⟨⟩
      nofun
    · refine ⟨⟨h.packet, h.pump, ?_⟩, small_of_unsent rfl⟩
      rintro _ ⟨⟩
      nofun
    · exact ⟨h, small_of_unsent rfl⟩
  | arrived m =>
    simp only [Forward.step]
    split
    · exact ⟨h.of_same rfl rfl rfl, small_of_unsent rfl⟩
    · exact ⟨h, small_of_unsent rfl⟩
  | checked =>
    simp only [Forward.step]
    split
    · exact h.check _
    · exact ⟨h, small_of_unsent rfl⟩
  | redialed answer =>
    simp only [Forward.step]
    split
    · exact h.redial _ _ _
    · exact ⟨h, small_of_unsent rfl⟩
  | applied answer =>
    simp only [Forward.step]
    split
    · exact h.apply _ _
    · exact ⟨h, small_of_unsent rfl⟩
  | pump e =>
    simp only [Forward.step]
    split
    · next p pump =>
      exact h.stepPump pump fun cause same => unrefused cause (congrArg Event.pump same)
    · exact ⟨h, small_of_unsent rfl⟩
  | cancelled next => exact ⟨h.of_same rfl rfl rfl, small_of_unsent rfl⟩
  | looked first =>
    simp only [Forward.step]
    split
    · split
      · next r looked =>
        refine ⟨⟨h.packet, h.pump, ?_⟩, small_of_unsent rfl⟩
        rintro _ ⟨⟩
        exact h.looked looked
      · exact ⟨h, small_of_unsent rfl⟩
    · exact ⟨h, small_of_unsent rfl⟩
  | reaped parking =>
    simp only [Forward.step]
    split
    · exact ⟨h.reap _ parking, small_of_unsent rfl⟩
    · exact ⟨h, small_of_unsent rfl⟩
  | unlinked =>
    simp only [Forward.step]
    split
    · next r ending _ =>
      exact ⟨⟨h.packet, h.pump, fun _ found => h.stage _ (ending ▸ found)⟩, small_of_unsent rfl⟩
    · exact ⟨h, small_of_unsent rfl⟩
  | stopped =>
    simp only [Forward.step]
    split
    · next r stopping =>
      exact ⟨⟨h.packet, h.pump, fun _ found => h.stage _ (stopping ▸ found)⟩, small_of_unsent rfl⟩
    · exact ⟨h, small_of_unsent rfl⟩

end Kept

end Forward

namespace Host

theorem step_forward (f : Forward) (o : Session.Outlet) {e : Forward.Event}
    (other : ∀ a, e ≠ .pump (.answered a)) :
    Host.step f o (.forward e) =
      ((f.step e).1, (Forward.sends (f.step e).2).foldl Session.Outlet.send o) := by
  cases e with
  | pump e =>
    cases e with
    | answered a => exact absurd rfl (other a)
    | _ => rfl
  | _ => rfl

theorem framed_sends {c : Session.Config} (fits : c.Fits) {o : Session.Outlet}
    (framed : o.Framed c) {data : List (List UInt8)}
    (small : ∀ bytes ∈ data, bytes.length ≤ Flow.portPacket) :
    (data.foldl Session.Outlet.send o).Framed c := by
  induction data generalizing o with
  | nil => exact framed
  | cons bytes data ih =>
    obtain ⟨first, rest⟩ := List.forall_mem_cons.mp small
    exact ih (framed.send (fits.frameable first (by decide))) rest

theorem careful (addr : String) (rate : SendRate) :
    (plugin addr rate).Careful Forward.Kept PortExit.ioSocketError.text where
  start := ⟨rfl, nofun, nofun⟩
  step := by
    intro c fits f o e kept framed
    cases e with
    | forward e =>
      by_cases answer : ∃ a, e = .pump (.answered a)
      · obtain ⟨a, rfl⟩ := answer
        exact ⟨kept, framed⟩
      · have other : ∀ a, e ≠ .pump (.answered a) := fun a same => answer ⟨a, same⟩
        obtain ⟨next, small⟩ := kept.step fun cause => other (.refused cause)
        have stepped : (plugin addr rate).step f o (.forward e) = _ := step_forward f o other
        rw [stepped]
        exact ⟨next, framed_sends fits framed small⟩
    | hears =>
      simp only [plugin, Host.step]
      split
      · next result heard =>
        obtain rfl := framed.ok_of_result? heard
        exact ⟨(kept.step (e := .pump (.answered .sent)) nofun).1, framed.settle⟩
      · exact ⟨kept, framed⟩
  code := by
    intro f kept ended
    have ended : f.code? = some PortExit.ioSocketError.text := ended
    unfold Forward.code? at ended
    split at ended
    · next r stage =>
      have same := PortExit.text_inj (Option.some.inj ended)
      exact kept.stage r (by rw [stage]; rfl) same
    · cases ended

end Host

end Port

namespace Service

/-- Under accepted settings, whatever a process writes or a connection brings and whatever
becomes of the transport, no call of a shell or of a port is refused, and neither ends with its
code for that. -/
theorem accepted_never_refused {settings : Settings} (valid : settings.validate = .ok ())
    (id : String) (flag : Nat) (r : Registry) :
    (∀ es, let p := Shell.Host.plugin
      let s := (start p id flag r).run p settings es
      (∀ call ∈ s.outlet.senders.calls, ∀ fault, call.phase ≠ .returned (.error fault)) ∧
        s.job.code? ≠ some ShellExit.processDataError.text) ∧
    ∀ addr rate es, let p := Port.Host.plugin addr rate
      let s := (start p id flag r).run p settings es
      (∀ call ∈ s.outlet.senders.calls, ∀ fault, call.phase ≠ .returned (.error fault)) ∧
        s.job.code? ≠ some PortExit.ioSocketError.text := by
  constructor
  · intro es p s
    have sound := (sound_start Shell.Host.careful id flag r).run valid Shell.Host.careful
      (by decide) es
    exact ⟨fun _ mem => sound.unrefused mem, sound.code?_ne⟩
  · intro addr rate es p s
    have careful := Port.Host.careful addr rate
    have sound := (sound_start careful id flag r).run valid careful (by decide) es
    exact ⟨fun _ mem => sound.unrefused mem, sound.code?_ne⟩

/-- A job up to the start of its plugin. -/
def opening {ε : Type} : List (Event ε) :=
  [.job .begun, .job (.created true), .job (.opened true), .job .delayed]

/-- The transport is lost and does not take the first frame; the process ends within a
character. -/
def brokenShell : List (Event Shell.Host.Event) :=
  opening ++
    [.plugin (.started .ready), .plugin (.read (.chunk [0x61, 0xE2])), .plugin .woken,
      .plugin .sends, .channel (.locked 7), .channel (.session (.arrived (.lost .closed))),
      .channel (.answered false), .plugin .hears, .channel (.session (.reconnected true)),
      .plugin (.read .ended), .plugin .woken, .plugin .sends, .channel (.locked 8),
      .channel (.answered true), .plugin .hears, .plugin (.looked false), .job (.ended "Ok"),
      .job .closed, .job .left, .job (.reported true)]

/-- The transport takes nothing, and the session is asked to finish. -/
def mutePort : List (Event Port.Host.Event) :=
  opening ++
    [.plugin (.forward (.started .running)), .plugin (.forward (.dialed (.ok ()))),
      .plugin (.forward (.pump (.looked true))), .plugin (.forward (.pump (.read [1, 2, 3]))),
      .channel (.locked 7), .channel (.answered false), .plugin .hears,
      .plugin (.forward (.cancelled .completed)), .plugin (.forward (.looked true)),
      .plugin (.forward .unlinked), .plugin (.forward .stopped), .job (.ended "Notified"), .job .closed, .job .left,
      .job (.reported false)]

theorem exists_unrefused {π : Type} {s : Service π} {data : List UInt8}
    (unrefused : ∀ call ∈ s.outlet.senders.calls, ∀ fault, call.phase ≠ .returned (.error fault))
    (sent : data ∈ s.outlet.senders.calls.map Session.Call.data) :
    ∃ call ∈ s.outlet.senders.calls, call.data = data ∧
      ∀ fault, call.phase ≠ .returned (.error fault) := by
  obtain ⟨call, mem, data⟩ := List.mem_map.mp sent
  exact ⟨call, mem, data, unrefused call mem⟩

/-- The id leaves no byte of its slot free. -/
theorem longest_never_refused :
    let id := "session-0123456789abcdef01234567"
    let r : Registry := .empty ⟨[.running]⟩
    let shell := Shell.Host.plugin
    let port := Port.Host.plugin "localhost:22" ⟨8000⟩
    let s := (start shell id 0 r).run shell .standard brokenShell
    let t := (start port id 0 r).run port .standard mutePort
    Settings.standard.validate = .ok () ∧
      (s.outlet.senders.answers = [false, true] ∧ s.job.code? = some "Ok" ∧
        s.job.code? ≠ some ShellExit.processDataError.text ∧
        ∃ call ∈ s.outlet.senders.calls, call.data = [0xE2] ∧
          ∀ fault, call.phase ≠ .returned (.error fault)) ∧
      t.outlet.senders.answers = [false] ∧ t.job.code? = some "Notified" ∧
        t.job.code? ≠ some PortExit.ioSocketError.text ∧
        ∃ call ∈ t.outlet.senders.calls, call.data = [1, 2, 3] ∧
          ∀ fault, call.phase ≠ .returned (.error fault) := by
  have valid : Settings.standard.validate = .ok () := rfl
  obtain ⟨shells, ports⟩ := accepted_never_refused valid "session-0123456789abcdef01234567" 0
    (.empty ⟨[.running]⟩)
  obtain ⟨unrefused, code⟩ := shells brokenShell
  obtain ⟨unrefused', code'⟩ := ports "localhost:22" ⟨8000⟩ mutePort
  exact ⟨valid,
    ⟨by decide +kernel, by decide +kernel, code, exists_unrefused unrefused (by decide +kernel)⟩,
    by decide +kernel, by decide +kernel, code', exists_unrefused unrefused' (by decide +kernel)⟩

end Service

end Tether
