import Tether.Proofs.Ending
import Tether.Proofs.Host

/-! Shells and ports as racers. No end of either pump has the code of an attempt to end the session,
and neither plugin decides by anything else than a failure to start or a look at its race. -/

namespace Tether

open Session Wire

namespace Shell

/-! ### Shells -/

namespace Pump

theorem ended?_panic (text : String) (p : Pump) :
    (p.panic text).ended? = p.ended?.or (some (.panicked text)) := by
  cases phase : p.phase <;> simp [panic, ended?, phase]

theorem endsOwn_start : EndsOwn start.ended? := nofun

theorem ownEnd_of_failure? {answer : SendAnswer} {how : PumpEnd ShellExit}
    (failed : failure? answer = some how) : OwnEnd how.result := by
  cases answer with
  | sent => cases failed
  | refused cause => cases failed; exact ⟨nofun, nofun⟩
  | panicked text => cases failed; exact ⟨nofun, nofun⟩

variable {p : Pump} (h : EndsOwn p.ended?)

include h

theorem endsOwn_read (result : ReadResult) : EndsOwn (p.read result).ended? := by
  unfold ended?
  rw [phase_read]
  exact h

theorem endsOwn_wake : EndsOwn p.wake.ended? := by
  unfold wake
  split
  · nofun
  · exact h

theorem endsOwn_turn (answer : SendAnswer) : EndsOwn (p.turn answer).ended? := by
  unfold turn
  split
  · dsimp only
    split
    · next how failed =>
      rintro _ ⟨⟩
      exact ownEnd_of_failure? failed
    · nofun
  · split
    · dsimp only
      split
      · next how failed =>
        rintro _ ⟨⟩
        exact ownEnd_of_failure? failed
      · rintro _ ⟨⟩
        exact ⟨nofun, nofun⟩
    · exact h
  · exact h

theorem endsOwn_panic (text : String) : EndsOwn (p.panic text).ended? := by
  rw [ended?_panic]
  exact h.panicked ⟨nofun, nofun⟩

end Pump

theorem ownEnd_openPtyFailed (fault : Option PluginFault) :
    OwnEnd ((.openPtyFailed, fault) : PluginResult ShellExit) := ⟨nofun, nofun⟩

namespace Host

/-- A shell with a pump has come to nothing yet. -/
def Racing (h : Host) : Prop := ∀ p, h.pump = some p → h.result = none ∧ EndsOwn p.ended?

namespace Racing

variable {h : Host} (racing : Racing h)

include racing

theorem map {f : Pump → Pump} (keeps : ∀ p : Pump, EndsOwn p.ended? → EndsOwn (f p).ended?) :
    Racing { h with pump := h.pump.map f } := by
  intro q mapped
  obtain ⟨p, found, rfl⟩ := Option.map_eq_some_iff.mp mapped
  exact ⟨(racing p found).1, keeps p (racing p found).2⟩

theorem stays : racer.Advances Racing h h := ⟨racing, rfl, .stays⟩

theorem step (o : Outlet) {e : Event} (admitted : h.admits e = true) :
    racer.Advances Racing h (h.step o e).1 := by
  cases e with
  | started s =>
    simp only [Host.step]
    split
    · next none undecided =>
      refine ⟨fun p found => ?_, rfl, .failed undecided (ownEnd_openPtyFailed _)⟩
      cases none.symm.trans found
    · next none undecided =>
      refine ⟨?_, rfl, .stays⟩
      rintro p ⟨⟩
      exact ⟨undecided, Pump.endsOwn_start⟩
    · exact racing.stays
  | read result =>
    simp only [Host.step]
    split
    · exact ⟨racing.map fun _ own => Pump.endsOwn_read own result, rfl, .stays⟩
    · exact racing.stays
  | woken => exact ⟨racing.map fun _ => Pump.endsOwn_wake, rfl, .stays⟩
  | sends =>
    simp only [Host.step]
    split <;> exact racing.stays
  | hears =>
    simp only [Host.step]
    split
    · exact ⟨racing.map fun _ own => Pump.endsOwn_turn own _, rfl, .stays⟩
    · exact racing.stays
  | cancelled next => cases admitted
  | looked first =>
    simp only [Host.step]
    split
    · next p pump =>
      split
      · next r looked =>
        have open' : h.race? = some ⟨h.flag, p.ended?, none⟩ := by rw [race?, pump]; rfl
        exact ⟨fun _ found => absurd found (by simp), rfl, .looked (racing p pump).1 open' looked⟩
      · exact racing.stays
    · exact racing.stays

end Racing

theorem session_step (h : Host) (o : Outlet) (e : Event) :
    (h.step o e).2.senders.session = o.senders.session := by
  cases e <;> simp only [Host.step]
  all_goals repeat' split
  all_goals rfl

theorem fair : racer.Fair Racing where
  codes := nofun
  sound_start := nofun
  flag_start := rfl
  race_start := rfl
  result_start := rfl
  race := by
    intro h race racing open'
    obtain ⟨p, pump, rfl⟩ := Option.map_eq_some_iff.mp open'
    exact ⟨rfl, (racing p pump).2⟩
  code := by
    intro h code racing returned
    obtain ⟨r, result, text⟩ := Option.map_eq_some_iff.mp returned
    refine ⟨Option.map_eq_none_iff.mpr (Option.eq_none_iff_forall_ne_some.mpr fun p pump => ?_),
      r, result, text⟩
    rw [(racing p pump).1] at result
    cases result
  step o racing admitted := racing.step o admitted
  session := session_step
  told := by
    intro h o next racing
    have race : ({ h with flag := (h.flag.set next).2 } : Host).race? =
        h.race?.map (·.step (.cancelled next)) := by
      rw [race?, race?, Option.map_map]
      rfl
    exact ⟨racing, rfl, race, rfl, rfl⟩
  panic := by
    intro h text racing
    refine ⟨racing.map fun _ own => Pump.endsOwn_panic own text, rfl, ?_, rfl⟩
    simp only [racer, race?, Option.map_map]
    refine congrArg (h.pump.map ·) (funext fun p => ?_)
    simp [Race.step, Pump.ended?_panic]
  looks := by
    intro h race first r o open' looked
    obtain ⟨p, pump, rfl⟩ := Option.map_eq_some_iff.mp open'
    have stepped : (h.step o (.looked first)).1 = { h with pump := none, result := some r } := by
      simp only [Host.step, pump, looked]
    exact ⟨rfl, congrArg Host.result stepped⟩
  returns := by
    intro h r racing decided
    exact .done (by simp [racer, plugin, show h.result = some r from decided])

end Host

end Shell

namespace Port

/-! ### Ports -/

namespace Pump

theorem ended?_panic (text : String) (p : Pump) :
    (p.panic text).ended? = p.ended?.or (some (.panicked text)) := by
  cases phase : p.phase <;> simp [panic, ended?, phase]

theorem endsOwn_start (connection : Nat) : EndsOwn (start connection).ended? := nofun

variable {p : Pump} (h : EndsOwn p.ended?)

include h

theorem endsOwn_step (packet : Nat) (addr : String) (e : Event) :
    EndsOwn (p.step packet addr e).ended? := by
  intro how ended
  rcases (step_moves packet addr p e).ends (phase_of_ended? ended) with before | ends
  · exact h how (by rw [ended?, before])
  · cases ends <;> exact ⟨nofun, nofun⟩

theorem endsOwn_panic (text : String) : EndsOwn (p.panic text).ended? := by
  rw [ended?_panic]
  exact h.panicked ⟨nofun, nofun⟩

end Pump

theorem ownEnd_openPortFailed (fault : Option PluginFault) :
    OwnEnd ((.openPortFailed, fault) : PluginResult PortExit) := ⟨nofun, nofun⟩

namespace Forward

/-- What a port keeps to on the way to its result. -/
structure Racing (f : Forward) : Prop where
  pump : ∀ p, f.pump = some p → EndsOwn p.ended?
  running : f.stage = .running → f.pump.isSome
  plugin : f.holder = .plugin → f.stage = .dialing
  dialing : ∀ t, f.holder = .handler t → ∃ m, f.handling = some (m, .arrived)

theorem racing_start (addr : String) (rate : SendRate) : Racing (start addr rate) :=
  ⟨nofun, nofun, nofun, nofun⟩

namespace Racing

variable {addr : String} {rate : SendRate} {f : Forward} (h : Racing f)

include h

theorem stays : (Host.racer addr rate).Advances Racing f f := ⟨h, rfl, .stays⟩

/-- The race goes on as it was. -/
theorem aside {f' : Forward} (flag : f'.flag = f.flag) (stage : f'.stage = f.stage)
    (pump : f'.pump = f.pump) (plugin : f'.holder = .plugin → f.stage = .dialing)
    (dialing : ∀ t, f'.holder = .handler t → ∃ m, f'.handling = some (m, .arrived)) :
    (Host.racer addr rate).Advances Racing f f' :=
  ⟨⟨pump ▸ h.pump, stage ▸ pump ▸ h.running, stage ▸ plugin, dialing⟩, flag,
    .of_eq (congrArg Stage.result? stage)⟩

theorem check {m : Message} (arrived : f.handling = some (m, .arrived))
    (free : f.holder = .nobody) : (Host.racer addr rate).Advances Racing f (f.check m).1 := by
  unfold Forward.check
  split
  · exact h.aside rfl rfl rfl h.plugin fun t held => by cases free.symm.trans held
  · exact h.aside rfl rfl rfl h.plugin fun t held => by cases free.symm.trans held
  · exact h.aside rfl rfl rfl nofun fun _ _ => ⟨m, arrived⟩

theorem redial (m : Message) (ticket : Nat) (answer : Except String Unit) :
    (Host.racer addr rate).Advances Racing f (f.redial m ticket answer).1 := by
  cases answer with
  | ok => exact h.aside rfl rfl rfl nofun nofun
  | error reason => exact h.aside rfl rfl rfl nofun nofun

theorem apply {m : Message} (passed : f.handling = some (m, .passed))
    (answer : Except String Unit) :
    (Host.racer addr rate).Advances Racing f (f.apply m answer).1 := by
  have undialed : ∀ t, f.holder ≠ .handler t := fun t held => by
    obtain ⟨_, arrived⟩ := h.dialing t held
    cases passed.symm.trans arrived
  have finished {f' : Forward} (flag : f'.flag = f.flag) (stage : f'.stage = f.stage)
      (pump : f'.pump = f.pump) (holder : f'.holder = f.holder) :
      (Host.racer addr rate).Advances Racing f f' :=
    h.aside flag stage pump (holder ▸ h.plugin) fun t held => absurd (holder ▸ held) (undialed t)
  unfold Forward.apply
  split
  · split
    · exact finished rfl rfl rfl rfl
    · exact finished rfl rfl rfl rfl
  · exact finished rfl rfl rfl rfl
  · exact finished rfl rfl rfl rfl

theorem stepPump {p : Pump} (pump : f.pump = some p) (e : Pump.Event) :
    (Host.racer addr rate).Advances Racing f (f.stepPump p e).1 := by
  have moved {f' : Forward} {e : Pump.Event} (flag : f'.flag = f.flag)
      (stage : f'.stage = f.stage) (holder : f'.holder = f.holder)
      (handling : f'.handling = f.handling)
      (next : f'.pump = some (p.step f.flow.packet f.addr e)) :
      (Host.racer addr rate).Advances Racing f f' := by
    refine ⟨⟨?_, fun _ => next ▸ rfl, by rw [stage, holder]; exact h.plugin,
      by rw [holder, handling]; exact h.dialing⟩, flag,
    .of_eq (congrArg Stage.result? stage)⟩
    intro q found
    obtain rfl := Option.some.inj (next.symm.trans found)
    exact Pump.endsOwn_step (h.pump p pump) _ _ _
  unfold Forward.stepPump
  split
  · split
    · exact moved (e := .parked) rfl rfl rfl rfl rfl
    · exact h.stays
  · split
    · next r _ => exact moved (e := .resumed r) rfl rfl rfl rfl rfl
    · exact h.stays
  · exact moved rfl rfl rfl rfl rfl

theorem looked (racing : f.stage = .running) {race : Race PortExit}
    (open' : f.race? = some race) {first : Bool} {r : PluginResult PortExit}
    (looked : race.look first = some r) :
    (Host.racer addr rate).Advances Racing f { f with stage := .ending r } := by
  have undecided : f.stage.result? = none := by rw [racing]; rfl
  have undialed : f.holder ≠ .plugin := fun held => by cases racing.symm.trans (h.plugin held)
  exact ⟨⟨h.pump, nofun, fun held => absurd held undialed, h.dialing⟩, rfl,
    .looked undecided open' looked⟩

/-- A pump that is gone does not take the result with it. -/
theorem reap (decided : f.stage.isDecided = true) (p : Pump) (parking : Bool) :
    (Host.racer addr rate).Advances Racing f (f.reap p parking) := by
  have off := Stage.ne_running decided
  unfold Forward.reap
  split
  · exact ⟨⟨nofun, fun running => absurd running off, h.plugin, h.dialing⟩, rfl, .stays⟩
  · exact ⟨⟨nofun, fun running => absurd running off, h.plugin, h.dialing⟩, rfl, .stays⟩

theorem step {e : Event} (admitted : f.admits e = true) :
    (Host.racer addr rate).Advances Racing f (f.step e).1 := by
  cases e with
  | started flag =>
    obtain ⟨unstarted, rfl⟩ := of_decide_eq_true admitted
    simp only [Forward.step, unstarted]
    split
    · have undecided : f.stage.result? = none := by rw [unstarted]; rfl
      exact ⟨⟨h.pump, by simp, fun _ => rfl, by simp⟩, rfl, .of_eq undecided.symm⟩
    · next returned _ _ => cases returned
    · exact h.stays
  | dialed answer =>
    simp only [Forward.step]
    split
    · next dialing =>
      have undecided : f.stage.result? = none := by rw [dialing]; rfl
      refine ⟨⟨?_, fun _ => rfl, by simp, by simp⟩, rfl, .of_eq undecided.symm⟩
      rintro _ ⟨⟩
      exact Pump.endsOwn_start f.connections
    · next dialing =>
      have undecided : f.stage.result? = none := by rw [dialing]; rfl
      exact ⟨⟨h.pump, by simp, by simp, by simp⟩, rfl, .failed undecided (ownEnd_openPortFailed _)⟩
    · exact h.stays
  | arrived m =>
    simp only [Forward.step]
    split
    · next idle =>
      refine h.aside rfl rfl rfl h.plugin fun t held => ?_
      obtain ⟨_, busy⟩ := h.dialing t held
      cases idle.symm.trans busy
    · exact h.stays
  | checked =>
    simp only [Forward.step]
    split
    · next arrived free => exact h.check arrived free
    · exact h.stays
  | redialed answer =>
    simp only [Forward.step]
    split
    · exact h.redial _ _ _
    · exact h.stays
  | applied answer =>
    simp only [Forward.step]
    split
    · next passed => exact h.apply passed answer
    · exact h.stays
  | pump e =>
    simp only [Forward.step]
    split
    · next p pump => exact h.stepPump pump e
    · exact h.stays
  | cancelled next => cases admitted
  | looked first =>
    simp only [Forward.step]
    split
    · next racing =>
      split
      · next r looked => exact h.looked racing (by rw [race?, racing]) looked
      · exact h.stays
    · exact h.stays
  | reaped parking =>
    simp only [Forward.step]
    split
    · next p decided _ => exact h.reap decided p parking
    · exact h.stays
  | unlinked =>
    simp only [Forward.step]
    split
    · next r ending free =>
      have decided : f.stage.result? = some r := by rw [ending]; rfl
      exact ⟨⟨h.pump, by simp, by simp [free], h.dialing⟩, rfl,
        .of_eq decided.symm⟩
    · exact h.stays
  | stopped =>
    simp only [Forward.step]
    split
    · next r stopping =>
      have decided : f.stage.result? = some r := by rw [stopping]; rfl
      have undialed : f.holder ≠ .plugin := fun held => by cases stopping.symm.trans (h.plugin held)
      exact ⟨⟨h.pump, by simp, fun held => absurd held undialed, h.dialing⟩, rfl,
        .of_eq decided.symm⟩
    · exact h.stays

end Racing

end Forward

namespace Host

open Forward

variable {addr : String} {rate : SendRate} {f : Forward}

theorem session_sends (data : List (List UInt8)) (o : Outlet) :
    (data.foldl Outlet.send o).senders.session = o.senders.session := by
  induction data generalizing o with
  | nil => rfl
  | cons bytes data ih => exact ih (o.send bytes)

theorem session_step (f : Forward) (o : Outlet) (e : Event) :
    (step f o e).2.senders.session = o.senders.session := by
  unfold step
  split
  · rfl
  · exact session_sends _ o
  · split <;> rfl

theorem racing_step (racing : Racing f) (o : Outlet) {e : Event} (admitted : admits f e = true) :
    (racer addr rate).Advances Racing f (step f o e).1 := by
  unfold step
  split
  · exact racing.stays
  · exact racing.step admitted
  · split
    · exact racing.step rfl
    · exact racing.stays

theorem race?_eq_some {race : Race PortExit} (open' : f.race? = some race) :
    f.stage = .running ∧ race = ⟨f.flag, f.pump.bind Pump.ended?, none⟩ := by
  unfold race? at open'
  split at open'
  · next running => exact ⟨running, (Option.some.inj open').symm⟩
  · cases open'

/-! A plugin that has decided its race waits for whoever dials, and returns. -/

theorem returns_step {e : Forward.Event} (other : ∀ a, e ≠ .pump (.answered a))
    (admitted : f.admits e = true) (returns : (racer addr rate).Returns (f.step e).1) :
    (racer addr rate).Returns f := by
  refine .next (.forward e) admitted fun o => ?_
  have stepped := congrArg Prod.fst (step_forward f o other)
  exact stepped ▸ returns

theorem returns_stopping {r : PluginResult PortExit} (stopping : f.stage = .stopping r) :
    (racer addr rate).Returns f := by
  refine returns_step (e := .stopped) nofun rfl (.done ?_)
  simp [racer, plugin, code?, Forward.step, stopping]

theorem returns_free {r : PluginResult PortExit} (ending : f.stage = .ending r)
    (free : f.holder = .nobody) : (racer addr rate).Returns f := by
  refine returns_step (e := .unlinked) nofun rfl (returns_stopping (r := r) ?_)
  simp [Forward.step, ending, free]

theorem returns_ending (racing : Racing f) {r : PluginResult PortExit}
    (ending : f.stage = .ending r) : (racer addr rate).Returns f := by
  cases held : f.holder with
  | nobody => exact returns_free ending held
  | plugin => cases ending.symm.trans (racing.plugin held)
  | handler ticket =>
    obtain ⟨m, arrived⟩ := racing.dialing ticket held
    refine returns_step (e := .redialed (.error "")) nofun rfl (returns_free (r := r) ?_ ?_)
    · simp [Forward.step, arrived, held, Forward.redial, finish, ending]
    · simp [Forward.step, arrived, held, Forward.redial, finish]

theorem fair (addr : String) (rate : SendRate) : (racer addr rate).Fair Racing where
  codes := by decide
  sound_start := racing_start addr rate
  flag_start := rfl
  race_start := rfl
  result_start := rfl
  race := by
    intro f race racing open'
    obtain ⟨-, rfl⟩ := race?_eq_some open'
    refine ⟨rfl, fun how ended => ?_⟩
    obtain ⟨p, pump, ended⟩ := Option.bind_eq_some_iff.mp ended
    exact racing.pump p pump how ended
  code := by
    intro f code racing returned
    have returned : f.code? = some code := returned
    unfold code? at returned
    split at returned
    · next r stage =>
      refine ⟨?_, r, ?_, Option.some.inj returned⟩
      · simp [racer, race?, stage]
      · simp [racer, Stage.result?, stage]
    · cases returned
  step o racing admitted := racing_step racing o admitted
  session := session_step
  told := by
    intro f o next racing
    have race : ({ f with flag := (f.flag.set next).2 } : Forward).race? =
        f.race?.map (·.step (.cancelled next)) := by
      unfold race?
      cases f.stage <;> rfl
    exact ⟨⟨racing.pump, racing.running, racing.plugin, racing.dialing⟩, rfl, race, rfl, rfl⟩
  panic := by
    intro f text racing
    refine ⟨⟨?_, ?_, racing.plugin, racing.dialing⟩, rfl, ?_, rfl⟩
    · intro q mapped
      obtain ⟨p, found, rfl⟩ := Option.map_eq_some_iff.mp mapped
      exact Pump.endsOwn_panic (racing.pump p found) text
    · exact fun running => by rw [racer, Option.isSome_map]; exact racing.running running
    · simp only [racer, race?]
      cases stage : f.stage with
      | running =>
        obtain ⟨p, pump⟩ := Option.isSome_iff_exists.mp (racing.running stage)
        simp [pump, Race.step, Pump.ended?_panic]
      | _ => rfl
  looks := by
    intro f race first r o open' looked
    obtain ⟨running, rfl⟩ := race?_eq_some open'
    have stepped : (f.step (.looked first)).1 = { f with stage := .ending r } := by
      simp only [Forward.step, running, looked]
    have result : (step f o (.forward (.looked first))).1.stage.result? = some r := by
      have forward := step_forward f o (e := .looked first) fun _ same => by cases same
      rw [forward, stepped]
      rfl
    exact ⟨rfl, result⟩
  returns := by
    intro f r racing decided
    have decided : f.stage.result? = some r := decided
    cases stage : f.stage with
    | ending r => exact returns_ending racing stage
    | stopping r => exact returns_stopping stage
    | returned r => exact .done (by simp [racer, plugin, code?, stage])
    | _ => rw [stage] at decided; cases decided

end Host

end Port

namespace Ending

/-- Whatever happens to a shell or to a port, in whatever order its session is asked to end and its
pump ends, the first cause decides. -/
theorem first_cause_wins (settings : Settings) (id : String) (r : Registry) :
    (∀ es, let p := Shell.Host.racer
      FirstCause p settings (run p settings (start p id r) es)
        (attempts p settings (start p id r) es)) ∧
    ∀ addr rate es, let p := Port.Host.racer addr rate
      FirstCause p settings (run p settings (start p id r) es)
        (attempts p settings (start p id r) es) :=
  ⟨firstCause Shell.Host.fair settings id r,
    fun addr rate => firstCause (Port.Host.fair addr rate) settings id r⟩

/-- A shell up to the start of its pump. -/
def pumping : List (Event Shell.Host.Event) :=
  [.service (.job .begun), .service (.job (.created true)), .service (.job (.opened true)),
    .service (.job .delayed), .service (.plugin (.started .ready))]

/-- The session is asked to finish, and then reaches its limit. -/
def stopped : List (Event Shell.Host.Event) := pumping ++ [.stop "s-1", .limit]

open Shell.Host in
/-- A pump that panics before all are asked to finish, and a session that is asked first. -/
theorem stopped_or_panicked :
    attempts racer .standard (start racer "s-1" (.empty ⟨[]⟩)) pumping = [] ∧
      racer.result? (run racer .standard (run racer .standard
        (start racer "s-1" (.empty ⟨[]⟩)) pumping)
        [.panics "boom", look racer true, .stopAll]).plugin =
          some (ExitCode.unknownError, some (.panic "boom")) ∧
      attempts racer .standard (start racer "s-1" (.empty ⟨[]⟩)) stopped =
        [.completed, .canceled] ∧
      racer.result? (run racer .standard (run racer .standard
        (start racer "s-1" (.empty ⟨[]⟩)) stopped) [look racer false]).plugin =
          some (ExitCode.notified, none) := by
  obtain ⟨causes, -⟩ := first_cause_wins .standard "s-1" (.empty ⟨[]⟩)
  have unasked : attempts racer .standard (start racer "s-1" (.empty ⟨[]⟩)) pumping = [] := by
    decide +kernel
  have asked : attempts racer .standard (start racer "s-1" (.empty ⟨[]⟩)) stopped =
      [.completed, .canceled] := by decide +kernel
  have race : racer.race? (run racer .standard (start racer "s-1" (.empty ⟨[]⟩)) pumping).plugin =
      some ⟨.running, none, none⟩ := by decide +kernel
  have race' : racer.race? (run racer .standard (start racer "s-1" (.empty ⟨[]⟩)) stopped).plugin =
      some ⟨.completed, none, none⟩ := by decide +kernel
  exact ⟨unasked, (causes pumping).panicked unasked _ "boom" race rfl true [.stopAll], asked,
    (causes stopped).asked .completed (by rw [asked]; rfl) _ race' false []⟩

open Shell.Host in
/-- A pump panics before anyone asks for an end. If all are asked to finish, or the session reaches
its limit, before the plugin looks, then the plugin may see its flag first, and nobody hears of the
panic. -/
theorem panic_unreported :
    let job := start racer "s-1" (.empty ⟨[]⟩)
    let panicked := pumping ++ [.panics "boom"]
    attempts racer .standard job panicked = [] ∧
      racer.race? (run racer .standard job panicked).plugin =
        some ⟨.running, some (.panicked "boom"), none⟩ ∧
      racer.result? (run racer .standard job (panicked ++ [.stopAll, look racer true])).plugin =
        some (ExitCode.notified, none) ∧
      racer.result? (run racer .standard job (panicked ++ [.limit, look racer true])).plugin =
        some (ExitCode.timeout, none) := by
  decide +kernel

end Ending

end Tether
