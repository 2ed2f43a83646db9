import Tether.Job.Ending
import Tether.Proofs.Dispatch
import Tether.Proofs.Service

/-! How sessions end. All who hold the flag of a session see the end that was asked for first, and
an end asked for later changes nothing. A plugin decides its race once: by the flag, and then as
the first attempt had it, or by its pump, and then under a code that no attempt has. -/

namespace Tether

namespace Session

variable (c : Config) (s : Session)

theorem tick_cancel : (tick c s).cancel = s.cancel.after (s.asks? c .ticked) := by
  unfold tick
  split
  · next running =>
    simp only [asks?, running, true_and]
    split
    · exact cancelWith_cancel _ _
    · rfl
  · next still => rw [asks?, if_neg fun due => still due.1]; rfl

theorem redialed_cancel (ok : Bool) :
    (redialed c s ok).1.cancel = s.cancel.after (s.asks? c (.redialed ok)) := by
  unfold redialed
  cases dispatcher : s.dispatcher with
  | redialing p =>
    cases ok with
    | true => exact resume_cancel s
    | false =>
      simp only [Bool.false_eq_true, if_false, asks?, dispatcher]
      split
      · next gaveUp =>
        rw [if_pos gaveUp]
        exact (cancelWith_cancel _ _).trans (by rw [resume_cancel]; rfl)
      · next paused =>
        have goesOn : Retry.afterFailure c.retry p ≠ .giveUp := by
          rw [paused]
          nofun
        rw [if_neg goesOn]
        split
        · exact resume_cancel s
        · rfl
  | _ => cases ok <;> simp [asks?, dispatcher, CancelState.after]

/-- A session sets its flag only when it asks for an end. -/
theorem step_cancel {e : Event} (other : ∀ next, e ≠ .cancelled next) :
    (step c s e).1.cancel = s.cancel.after (s.asks? c e) := by
  obtain ⟨arrives, takes, handles⟩ := step_cancel_of_dispatch c s
  cases e with
  | opened ok =>
    simp only [step, opened]
    repeat' split
    all_goals rfl
  | reconnected ok => rfl
  | closed => rfl
  | released =>
    simp only [step, release]
    split <;> rfl
  | arrived x => exact arrives x
  | taken endFirst => exact takes endFirst
  | handled ok => exact handles ok
  | hungUp ok =>
    simp only [step, hungUp]
    split <;> rfl
  | redialed ok => exact redialed_cancel c s ok
  | woken =>
    simp only [step, wake]
    split <;> rfl
  | noticed =>
    simp only [step, notice]
    split
    · exact resume_cancel s
    · rfl
  | ticked => exact tick_cancel c s
  | cancelled next => exact absurd rfl (other next)

end Session

/-! ### Races -/

section Race

variable {γ : Type} [ExitCode γ]

/-- A result under a code that no attempt to end a session has. -/
def OwnEnd (r : PluginResult γ) : Prop := r.1 ≠ ExitCode.timeout ∧ r.1 ≠ ExitCode.notified

/-- A pump that has ended has a result of its own. -/
def EndsOwn (ended : Option (PumpEnd γ)) : Prop := ∀ how, ended = some how → OwnEnd how.result

theorem EndsOwn.panicked {ended : Option (PumpEnd γ)} (h : EndsOwn ended) {text : String}
    (own : OwnEnd (PumpEnd.panicked text : PumpEnd γ).result) :
    EndsOwn (ended.or (some (.panicked text))) := by
  intro how found
  rcases Option.or_eq_some_iff.mp found with before | ⟨-, now⟩
  · exact h how before
  · exact Option.some.inj now ▸ own

namespace Race

variable {race : Race γ} {first : Bool} {r : PluginResult γ}

theorem look_of_running (running : race.flag = .running) (first : Bool) :
    race.look first = race.pump.map PumpEnd.result := by
  cases first <;> simp [look, running, CancelState.wait, CancelState.isTerminal]

theorem look_of_unended (unended : race.pump = none) (terminal : race.flag.isTerminal = true)
    (first : Bool) : race.look first = some race.flag.pluginResult := by
  cases first <;> simp [look, unended, CancelState.wait, terminal]

theorem look_of_both {how : PumpEnd γ} (ended : race.pump = some how)
    (terminal : race.flag.isTerminal = true) (first : Bool) :
    race.look first = some (if first then race.flag.pluginResult else how.result) := by
  cases first <;> simp [look, ended, CancelState.wait, terminal]

/-- A look takes the end of the pump, or a flag that is set. -/
theorem look_eq_some (looked : race.look first = some r) :
    (∃ how, race.pump = some how ∧ r = how.result) ∨
      race.flag.isTerminal = true ∧ r = race.flag.pluginResult := by
  cases terminal : race.flag.isTerminal with
  | false =>
    have running : race.flag = .running := by
      cases flag : race.flag <;> simp [flag, CancelState.isTerminal] at terminal ⊢
    rw [look_of_running running] at looked
    obtain ⟨how, ended, rfl⟩ := Option.map_eq_some_iff.mp looked
    exact .inl ⟨how, ended, rfl⟩
  | true =>
    cases ended : race.pump with
    | none =>
      rw [look_of_unended ended terminal] at looked
      exact .inr ⟨rfl, (Option.some.inj looked).symm⟩
    | some how =>
      rw [look_of_both ended terminal] at looked
      cases first with
      | true => exact .inr ⟨rfl, (Option.some.inj looked).symm⟩
      | false => exact .inl ⟨how, rfl, (Option.some.inj looked).symm⟩

/-- What an event may make of a result: it stays, or it is decided by a failure to start or by a
look at the race. -/
inductive Decides (race : Option (Race γ)) (result : Option (PluginResult γ)) :
    Option (PluginResult γ) → Prop where
  | stays : Decides race result result
  | failed {r : PluginResult γ} : result = none → OwnEnd r → Decides race result (some r)
  | looked {now : Race γ} {first : Bool} {r : PluginResult γ} : result = none →
      race = some now → now.look first = some r → Decides race result (some r)

theorem Decides.of_eq {race : Option (Race γ)} {result result' : Option (PluginResult γ)}
    (same : result' = result) : Decides race result result' := same ▸ .stays

/-- What is decided stays. -/
theorem Decides.eq_of_some {race : Option (Race γ)} {result : Option (PluginResult γ)}
    (h : Decides race (some r) result) : result = some r := by
  cases h with
  | stays => rfl
  | failed undecided => cases undecided
  | looked undecided => cases undecided

end Race

end Race

/-- From here a plugin returns by events that nobody can hold up. -/
inductive Racer.Returns {π ε γ : Type} (p : Racer π ε γ) : π → Prop where
  | done {x : π} : p.code? x ≠ none → Returns p x
  | next {x : π} (e : ε) : p.admits x e = true → (∀ o, Returns p (p.step x o e).1) → Returns p x

/-- What an event does to a racer that does not set its flag. -/
structure Racer.Advances {π ε γ : Type} [ExitCode γ] (p : Racer π ε γ) (Sound : π → Prop)
    (x x' : π) : Prop where
  sound : Sound x'
  flag : p.flag x' = p.flag x
  result : Race.Decides (p.race? x) (p.result? x) (p.result? x')

/-- What a racer keeps to, in states that are `Sound`. -/
structure Racer.Fair {π ε γ : Type} [ExitCode γ] (p : Racer π ε γ) (Sound : π → Prop) : Prop where
  codes : (ExitCode.timeout : γ) ≠ ExitCode.notified
  sound_start : Sound p.start
  flag_start : p.flag p.start = .running
  race_start : p.race? p.start = none
  result_start : p.result? p.start = none
  /-- A race shows the flag, and how the pump ended. -/
  race : ∀ {x race}, Sound x → p.race? x = some race →
    race.flag = p.flag x ∧ EndsOwn race.pump
  code : ∀ {x code}, Sound x → p.code? x = some code →
    p.race? x = none ∧ ∃ r, p.result? x = some r ∧ ExitCode.text r.1 = code
  step : ∀ {x e} o, Sound x → p.admits x e = true → p.Advances Sound x (p.step x o e).1
  /-- A plugin only sends. -/
  session : ∀ x o e, (p.step x o e).2.senders.session = o.senders.session
  told : ∀ {x} o next, Sound x →
    Sound (p.step x o (p.told next)).1 ∧
      p.flag (p.step x o (p.told next)).1 = ((p.flag x).set next).2 ∧
      p.race? (p.step x o (p.told next)).1 = (p.race? x).map (·.step (.cancelled next)) ∧
      p.result? (p.step x o (p.told next)).1 = p.result? x ∧
      p.code? (p.step x o (p.told next)).1 = p.code? x
  panic : ∀ {x} text, Sound x →
    Sound (p.panic text x) ∧ p.flag (p.panic text x) = p.flag x ∧
      p.race? (p.panic text x) = (p.race? x).map (·.step (.ended (.panicked text))) ∧
      p.result? (p.panic text x) = p.result? x
  looks : ∀ {x race first r} o, p.race? x = some race → race.look first = some r →
    p.admits x (p.looks first) = true ∧ p.result? (p.step x o (p.looks first)).1 = some r
  returns : ∀ {x r}, Sound x → p.result? x = some r → p.Returns x

namespace Ending

variable {π ε γ : Type} [ExitCode γ] {p : Racer π ε γ} {Sound : π → Prop} {settings : Settings}
  {s : Service π} {h : List CancelState}

/-- A plugin that has begun to race and has not returned is run by its job. -/
def Underway (p : Racer π ε γ) (s : Service π) : Prop :=
  p.code? s.plugin = none → (p.race? s.plugin).isSome ∨ (p.result? s.plugin).isSome →
    s.job.phase = .running

/-- What holds of a session of which these ends were asked. -/
structure Settled (p : Racer π ε γ) (Sound : π → Prop) (s : Service π) (h : List CancelState) :
    Prop where
  made : s.job.flag < s.registry.flags.states.length
  ends : ∀ a ∈ h, a.isTerminal = true
  flag : s.flag = h.head?.getD .running
  session : s.outlet.senders.session.cancel = s.flag
  plugin : p.flag s.plugin = s.flag
  sound : Sound s.plugin
  underway : Underway p s
  result : ∀ r, p.result? s.plugin = some r →
    OwnEnd r ∨ ∃ a, h.head? = some a ∧ r = a.pluginResult

theorem settled_start (fair : p.Fair Sound) (id : String) (r : Registry) :
    Settled p Sound (start p id r) [] where
  made := by simp [start, Service.start, Flags.fresh]
  ends := nofun
  flag := by simp [start, Service.start, Service.flag, Flags.fresh, Flags.get]
  session := by
    simp [start, Service.start, Service.flag, Flags.fresh, Flags.get, Session.Outlet.start,
      Session.Senders.start, Session.start]
  plugin := by
    simp [start, Service.start, Service.flag, Flags.fresh, Flags.get, fair.flag_start]
  sound := fair.sound_start
  underway := by
    simp [Underway, start, Service.start, fair.race_start, fair.result_start]
  result := by simp [start, Service.start, fair.result_start]

/-- What an event does where it happens: to each copy of the flag nothing, or what it asks of all
of them. -/
structure Acts (p : Racer π ε γ) (Sound : π → Prop) (s s' : Service π)
    (asked : Option CancelState) : Prop where
  job : s'.job.flag = s.job.flag
  made : s.registry.flags.states.length ≤ s'.registry.flags.states.length
  flag : s'.flag = s.flag ∨ s'.flag = s.flag.after asked
  session : s'.outlet.senders.session.cancel = s.outlet.senders.session.cancel ∨
    s'.outlet.senders.session.cancel = s.outlet.senders.session.cancel.after asked
  plugin : p.flag s'.plugin = p.flag s.plugin
  sound : Sound s'.plugin
  underway : Underway p s'
  result : Race.Decides (p.race? s.plugin) (p.result? s.plugin) (p.result? s'.plugin)

omit [ExitCode γ] in
/-- A plugin that is not through keeps its job running. -/
theorem Underway.tell (now : Underway p s) {e : Job.Event}
    (through : ∀ code, e = .ended code → p.code? s.plugin = some code) : Underway p (s.tell e) := by
  intro unreturned begun
  have running := now unreturned begun
  cases e with
  | ended code => cases unreturned.symm.trans (through code rfl)
  | _ => simp only [Service.tell, Job.step, running]

namespace Settled

variable (now : Settled p Sound s h)

include now

theorem attempt_of_result {r : PluginResult γ} (decided : p.result? s.plugin = some r)
    (flagged : ¬ OwnEnd r) :
    ∃ a, h.head? = some a ∧ a.isTerminal = true ∧ r = a.pluginResult := by
  obtain ⟨a, first, rfl⟩ := (now.result r decided).resolve_left flagged
  exact ⟨a, first, now.ends a (List.mem_of_head? first), rfl⟩

theorem same (asked : Option CancelState) : Acts p Sound s s asked :=
  ⟨rfl, le_rfl, .inl rfl, .inl rfl, rfl, now.sound, now.underway, .stays⟩

theorem ofRegistry {r : Registry} {asked : Option CancelState}
    (made : s.registry.flags.states.length ≤ r.flags.states.length)
    (flag : r.flags.get s.job.flag = s.flag ∨ r.flags.get s.job.flag = s.flag.after asked) :
    Acts p Sound s { s with registry := r } asked :=
  ⟨rfl, made, flag, .inl rfl, rfl, now.sound, now.underway, .stays⟩

theorem stop (id : String) :
    Acts p Sound s { s with registry := (s.registry.stop id).2 }
      (if s.registry.find? id = some s.job.flag then some .completed else none) :=
  now.ofRegistry Registry.length_stop.ge (.inr (Registry.get_stop now.made id))

theorem stopAll :
    Acts p Sound s { s with registry := s.registry.stopAll }
      (if s.job.flag ∈ s.registry.entries.map Prod.snd then some .completed else none) := by
  refine now.ofRegistry Registry.length_stopAll.ge (.inr ?_)
  rw [Registry.stopAll_eq]
  exact Registry.get_setFlags _ .completed now.made

theorem channel (settings : Settings) {e : Session.Outlet.Event}
    (other : ∀ next, e ≠ .session (.cancelled next)) :
    Acts p Sound s
      { s with outlet := s.outlet.step (.ofSettings settings s.job.id) e }
      (asks? settings s (.service (.channel e) : Event ε)) := by
  refine ⟨rfl, le_rfl, .inl rfl, ?_, rfl, now.sound, now.underway, .stays⟩
  cases e with
  | locked created =>
    simp only [Session.Outlet.step]
    split
    · exact .inl (congrArg Session.cancel (Session.Senders.lock_session _ _ _ _))
    · exact .inl rfl
  | answered ok =>
    simp only [Session.Outlet.step, Session.Senders.step]
    rcases Session.Senders.answer_session s.outlet.senders ok with same | next
    · exact .inl (congrArg Session.cancel same)
    · exact .inl (by rw [next]; rfl)
  | session e =>
    exact .inr (Session.step_cancel _ _ fun next same => other next (congrArg _ same))

theorem tell {e : Job.Event}
    (through : ∀ code, e = .ended code → p.code? s.plugin = some code) :
    Acts p Sound s (s.tell e) none where
  job := (Job.step_id s.job s.registry e).2
  made := by rw [Service.tell, Job.step_flags]
  flag := by
    left
    simp only [Service.flag, Service.tell, Job.step_flags, Job.step_id]
  session := .inl rfl
  plugin := rfl
  sound := now.sound
  underway := now.underway.tell through
  result := .stays

variable (fair : p.Fair Sound)

include fair

theorem plugins {e : ε} (fits : p.admits s.plugin e = true) (running : s.job.phase = .running) :
    Acts p Sound s
      { s with
        plugin := (p.step s.plugin s.outlet e).1
        outlet := (p.step s.plugin s.outlet e).2 } none := by
  have session := congrArg Session.cancel (fair.session s.plugin s.outlet e)
  obtain ⟨sound, flag, result⟩ := fair.step s.outlet now.sound fits
  exact ⟨rfl, le_rfl, .inl rfl, .inl session, flag, sound, fun _ _ => running, result⟩

theorem panics (text : String) (running : s.job.phase = .running) :
    Acts p Sound s { s with plugin := p.panic text s.plugin } none := by
  obtain ⟨sound, flag, -, result⟩ := fair.panic text now.sound
  exact ⟨rfl, le_rfl, .inl rfl, .inl rfl, flag, sound, fun _ _ => running, result ▸ .stays⟩

theorem service (settings : Settings) {e : Service.Event ε} (admitted : admits p s e = true) :
    Acts p Sound s (s.step p.toPlugin settings e) (asks? settings s (.service e)) := by
  cases e with
  | job e =>
    cases e with
    | ended code =>
      simp only [Service.step]
      split
      · next returned => exact now.tell fun _ same => by cases same; exact returned
      · exact now.same _
    | _ => exact now.tell fun _ same => by cases same
  | plugin e =>
    rw [Service.step]
    split
    · next running => exact now.plugins fair admitted running
    · exact now.same _
  | channel e =>
    refine now.channel settings ?_
    rintro next rfl
    cases admitted
  | elsewhere r =>
    obtain ⟨flag, made⟩ := of_decide_eq_true admitted
    exact now.ofRegistry made (.inl flag)

theorem acts (settings : Settings) (e : Event ε) :
    Acts p Sound s (act p settings s e) (asks? settings s e) := by
  cases e with
  | service e =>
    rw [act]
    split
    · next admitted => exact now.service fair settings admitted
    · exact now.same _
  | limit => exact now.same _
  | stop id => exact now.stop id
  | stopAll => exact now.stopAll
  | belated next => exact now.same _
  | panics text =>
    rw [act]
    split
    · next running => exact now.panics fair text running
    · exact now.same _

end Settled

theorem isTerminal_of_asks? {e : Event ε} {a : CancelState} (asked : asks? settings s e = some a) :
    a.isTerminal = true := by
  cases e with
  | service e =>
    cases e with
    | channel e =>
      cases e with
      | session e =>
        simp only [asks?, Session.asks?] at asked
        repeat' split at asked
        all_goals cases asked
        all_goals rfl
      | _ => cases asked
    | _ => cases asked
  | limit =>
    simp only [asks?] at asked
    split at asked <;> cases asked <;> rfl
  | stop id =>
    simp only [asks?] at asked
    split at asked <;> cases asked; rfl
  | stopAll =>
    simp only [asks?] at asked
    split at asked <;> cases asked; rfl
  | belated next =>
    simp only [asks?] at asked
    split at asked
    · next terminal => cases asked; exact terminal.2
    · cases asked
  | panics text => cases asked

omit [ExitCode γ] in
theorem step_plugin (settings : Settings) {e : ε} (fits : p.admits s.plugin e = true)
    (running : s.job.phase = .running) :
    step p settings s (.service (.plugin e)) =
      { s with
        plugin := (p.step s.plugin s.outlet e).1
        outlet := (p.step s.plugin s.outlet e).2 } := by
  have here : admits p s (.plugin e) = true := fits
  have own : step p settings s (.service (.plugin e)) =
      act p settings s (.service (.plugin e)) := rfl
  rw [own, act, if_pos here, Service.step, if_pos running]

/-- What a step does once the event has happened: it asks all who hold the flag. -/
structure Asks (p : Racer π ε γ) (Sound : π → Prop) (s t : Service π)
    (asked : Option CancelState) : Prop where
  job : t.job = s.job
  made : t.registry.flags.states.length = s.registry.flags.states.length
  flag : t.flag = s.flag.after asked
  session : t.outlet.senders.session.cancel = s.outlet.senders.session.cancel.after asked
  plugin : p.flag t.plugin = (p.flag s.plugin).after asked
  sound : Sound t.plugin
  race : (p.race? t.plugin).isSome = (p.race? s.plugin).isSome
  result : p.result? t.plugin = p.result? s.plugin
  code : p.code? t.plugin = p.code? s.plugin

theorem asks_ask (fair : p.Fair Sound) (settings : Settings)
    (made : s.job.flag < s.registry.flags.states.length) (sound : Sound s.plugin)
    (next : CancelState) : Asks p Sound s (ask p settings s next) (some next) := by
  obtain ⟨told, flag, race, result, code⟩ := fair.told s.outlet next sound
  have isSome : (p.race? (ask p settings s next).plugin).isSome = (p.race? s.plugin).isSome := by
    rw [ask, race, Option.isSome_map]
  exact ⟨rfl, Flags.length_states_set _ _ _, Flags.get_set_self _ _ _ made,
    Session.cancelWith_cancel _ _, flag, told, isSome, result, code⟩

namespace Settled

variable (fair : p.Fair Sound) (now : Settled p Sound s h)

include fair now

theorem asks (settings : Settings) (e : Event ε) :
    Asks p Sound (act p settings s e) (Ending.step p settings s e) (asks? settings s e) := by
  have acts := now.acts fair settings e
  unfold Ending.step
  cases asks? settings s e with
  | none => exact ⟨rfl, rfl, rfl, rfl, rfl, acts.sound, rfl, rfl, rfl⟩
  | some next =>
    exact asks_ask fair settings (acts.job ▸ now.made.trans_le acts.made) acts.sound next

/-- A look decides as the pump has it, or as the first attempt had it. -/
theorem decided {race : Race γ} (open' : p.race? s.plugin = some race) {first : Bool}
    {r : PluginResult γ} (looked : race.look first = some r) :
    OwnEnd r ∨ ∃ a, h.head? = some a ∧ r = a.pluginResult := by
  obtain ⟨flag, own⟩ := fair.race now.sound open'
  rcases Race.look_eq_some looked with ⟨how, ended, rfl⟩ | ⟨terminal, rfl⟩
  · exact .inl (own how ended)
  · rw [flag, now.plugin, now.flag] at terminal ⊢
    cases first : h.head? with
    | none =>
      rw [first] at terminal
      cases terminal
    | some a => exact .inr ⟨a, rfl, rfl⟩

theorem step (settings : Settings) (e : Event ε) :
    Settled p Sound (step p settings s e) (h ++ (asks? settings s e).toList) := by
  have acts := now.acts fair settings e
  have asks := now.asks fair settings e
  have terminal : ∀ a, asks? settings s e = some a → a.isTerminal = true :=
    fun a => isTerminal_of_asks?
  have moved : (Ending.step p settings s e).flag = s.flag.after (asks? settings s e) :=
    asks.flag.trans (CancelState.after_of_moved acts.flag)
  constructor
  case made =>
    rw [asks.job, asks.made, acts.job]
    exact now.made.trans_le acts.made
  case ends =>
    intro a mem
    rcases List.mem_append.mp mem with old | new
    · exact now.ends a old
    · exact terminal a (Option.mem_toList.mp new)
  case flag =>
    rw [moved, now.flag]
    exact CancelState.after_head? now.ends terminal
  case session =>
    rw [asks.session, CancelState.after_of_moved acts.session, now.session, moved]
  case plugin => rw [asks.plugin, acts.plugin, now.plugin, moved]
  case sound => exact asks.sound
  case underway =>
    intro unreturned begun
    rw [asks.code] at unreturned
    rw [asks.race, asks.result] at begun
    rw [asks.job]
    exact acts.underway unreturned begun
  case result =>
    intro r decided
    rw [asks.result] at decided
    -- The attempts so far decide, since a look comes without one.
    have before : OwnEnd r ∨ ∃ a, h.head? = some a ∧ r = a.pluginResult := by
      have moves := acts.result
      rw [decided] at moves
      generalize was : p.result? s.plugin = old at moves
      cases moves with
      | stays => exact now.result r was
      | failed _ own => exact .inl own
      | looked _ open' looked => exact now.decided fair open' looked
    refine before.imp_right ?_
    rintro ⟨a, first, rfl⟩
    exact ⟨a, by simp [List.head?_append, first], rfl⟩

theorem run (settings : Settings) (es : List (Event ε)) :
    Settled p Sound (run p settings s es) (h ++ attempts p settings s es) := by
  induction es generalizing s h with
  | nil =>
    rw [attempts, Session.observe, List.append_nil]
    exact now
  | cons e es ih =>
    rw [attempts, Session.observe, ← List.append_assoc]
    exact ih (now.step fair settings e)

/-- What a race has come to stays. -/
theorem result_run {r : PluginResult γ} (decided : p.result? s.plugin = some r)
    (settings : Settings) (es : List (Event ε)) :
    p.result? (Ending.run p settings s es).plugin = some r := by
  induction es generalizing s h with
  | nil => exact decided
  | cons e es ih =>
    refine ih (now.step fair settings e) ?_
    have moves := (now.acts fair settings e).result
    rw [decided] at moves
    rw [(now.asks fair settings e).result, moves.eq_of_some]

theorem running {race : Race γ} (open' : p.race? s.plugin = some race) :
    s.job.phase = .running := by
  refine now.underway ?_ (.inl (by rw [open']; rfl))
  cases returned : p.code? s.plugin with
  | none => rfl
  | some code =>
    obtain ⟨shut, -⟩ := fair.code now.sound returned
    rw [open'] at shut
    cases shut

theorem looks {race : Race γ} (open' : p.race? s.plugin = some race) {first : Bool}
    {r : PluginResult γ} (looked : race.look first = some r) (settings : Settings)
    (more : List (Event ε)) :
    p.result? (Ending.run p settings s (look p first :: more)).plugin = some r := by
  obtain ⟨admitted, result⟩ := fair.looks s.outlet open' looked
  refine (now.step fair settings (look p first)).result_run fair ?_ settings more
  rw [look, step_plugin settings admitted (now.running fair open')]
  exact result

theorem returned {x : π} (returns : p.Returns x) (here : s.plugin = x) {r : PluginResult γ}
    (decided : p.result? s.plugin = some r) (settings : Settings) :
    ∃ more : List (Event ε),
      p.code? (Ending.run p settings s more).plugin = some (ExitCode.text r.1) := by
  -- What is decided stays on the way, so the code is that of the result.
  induction returns generalizing s h with
  | @done x returned =>
    obtain ⟨code, has⟩ := Option.ne_none_iff_exists'.mp returned
    obtain ⟨-, r', result, text⟩ := fair.code (here ▸ now.sound) has
    refine ⟨[], ?_⟩
    rw [← here, decided] at result
    cases result
    rw [Ending.run, List.foldl_nil, here, has, text]
  | @next x e fits returns ih =>
    subst here
    cases unreturned : p.code? s.plugin with
    | some code =>
      obtain ⟨-, r', result, text⟩ := fair.code now.sound unreturned
      rw [decided] at result
      cases result
      exact ⟨[], by rw [Ending.run, List.foldl_nil, unreturned, text]⟩
    | none =>
      have running := now.underway unreturned (.inr (by rw [decided]; rfl))
      have later := now.step fair settings (.service (.plugin e))
      have kept := now.result_run fair decided settings [.service (.plugin e)]
      obtain ⟨more, code⟩ := ih s.outlet later
        (by rw [step_plugin settings fits running]) kept
      exact ⟨.service (.plugin e) :: more, code⟩

end Settled

/-- What the attempts to end a session, and the end of its pump, make of flag and plugin. The pump
counts as ended when the plugin hears of it; up to then an attempt may still come first. -/
structure FirstCause (p : Racer π ε γ) (settings : Settings) (s : Service π)
    (attempts : List CancelState) : Prop where
  /-- All hold the end that was asked for first. -/
  flag : s.flag = attempts.head?.getD .running ∧
    s.outlet.senders.session.cancel = s.flag ∧ p.flag s.plugin = s.flag
  timeout : ∀ r, p.result? s.plugin = some r → r.1 = ExitCode.timeout →
    attempts.head? = some .canceled
  notified : ∀ r, p.result? s.plugin = some r → r.1 = ExitCode.notified →
    attempts.head? = some .completed
  /-- An end asked for later changes neither the flag nor what the plugin has come to. -/
  keepsFlag : attempts ≠ [] → ∀ more, (run p settings s more).flag = s.flag
  keepsResult : ∀ r, p.result? s.plugin = some r →
    ∀ more, p.result? (run p settings s more).plugin = some r
  /-- The plugin returns the code that it has come to, and no other. -/
  returns : ∀ r, p.result? s.plugin = some r →
    ∃ more, p.code? (run p settings s more).plugin = some (ExitCode.text r.1)
  code : ∀ code, p.code? s.plugin = some code →
    ∃ r, p.result? s.plugin = some r ∧ ExitCode.text r.1 = code
  /-- The plugin hears of the end of its pump before any attempt. -/
  unasked : attempts = [] → ∀ race how, p.race? s.plugin = some race → race.pump = some how →
    OwnEnd how.result ∧ ∀ first more,
      p.result? (run p settings s (look p first :: more)).plugin = some how.result
  panicked : attempts = [] → ∀ race text, p.race? s.plugin = some race → race.pump = none →
    ∀ first more, p.result? (run p settings s (.panics text :: look p first :: more)).plugin =
      some (ExitCode.unknownError, some (.panic text))
  /-- There was an attempt before the plugin has heard of an end. If there is one now, either may
  be seen first. -/
  asked : ∀ a, attempts.head? = some a → ∀ race, p.race? s.plugin = some race →
    ∀ first more, p.result? (run p settings s (look p first :: more)).plugin =
      some (match race.pump with
        | some how => if first then a.pluginResult else how.result
        | none => a.pluginResult)

namespace Settled

variable (fair : p.Fair Sound) (now : Settled p Sound s h)

include fair now

theorem race_flag {race : Race γ} (open' : p.race? s.plugin = some race) :
    race.flag = h.head?.getD .running := by
  rw [(fair.race now.sound open').1, now.plugin, now.flag]

theorem looks_unasked (unasked : h = []) {race : Race γ} {how : PumpEnd γ}
    (open' : p.race? s.plugin = some race) (ended : race.pump = some how) (settings : Settings)
    (first : Bool) (more : List (Event ε)) :
    p.result? (Ending.run p settings s (look p first :: more)).plugin = some how.result := by
  have running : race.flag = .running := by rw [now.race_flag fair open', unasked]; rfl
  refine now.looks fair open' ?_ settings more
  rw [Race.look_of_running running, ended, Option.map_some]

theorem panicked (unasked : h = []) {race : Race γ} (open' : p.race? s.plugin = some race)
    (unended : race.pump = none) (settings : Settings) (text : String) (first : Bool)
    (more : List (Event ε)) :
    p.result? (Ending.run p settings s (.panics text :: look p first :: more)).plugin =
      some (ExitCode.unknownError, some (.panic text)) := by
  have later := now.step fair settings (.panics text)
  have plugin : (Ending.step p settings s (.panics text : Event ε)).plugin =
      p.panic text s.plugin := by
    have own : Ending.step p settings s (.panics text) = act p settings s (.panics text) := rfl
    rw [own, act, if_pos (now.running fair open')]
  have race' := (fair.panic text now.sound).2.2.1
  rw [open', Option.map_some, ← plugin] at race'
  have ended : (race.step (.ended (.panicked text))).pump = some (.panicked text) := by
    simp only [Race.step, unended, Option.none_or]
  exact later.looks_unasked fair (by rw [unasked]; rfl) race' ended settings first more

end Settled

theorem firstCause (fair : p.Fair Sound) (settings : Settings) (id : String) (r : Registry)
    (es : List (Event ε)) :
    FirstCause p settings (run p settings (start p id r) es)
      (attempts p settings (start p id r) es) := by
  have now := (settled_start fair id r).run fair settings es
  rw [List.nil_append] at now
  generalize attempts p settings (start p id r) es = h at now ⊢
  generalize run p settings (start p id r) es = s at now ⊢
  constructor
  case flag => exact ⟨now.flag, now.session, now.plugin⟩
  case timeout =>
    intro r decided timeout
    obtain ⟨a, first, terminal, rfl⟩ :=
      now.attempt_of_result decided fun own => own.1 timeout
    cases a with
    | running => cases terminal
    | canceled => exact first
    | completed => exact absurd timeout.symm fair.codes
  case notified =>
    intro r decided notified
    obtain ⟨a, first, terminal, rfl⟩ :=
      now.attempt_of_result decided fun own => own.2 notified
    cases a with
    | running => cases terminal
    | canceled => exact absurd notified fair.codes
    | completed => exact first
  case keepsFlag =>
    intro asked more
    rw [(now.run fair settings more).flag, now.flag]
    cases h with
    | nil => exact absurd rfl asked
    | cons a h => rfl
  case keepsResult => exact fun r decided more => now.result_run fair decided settings more
  case returns =>
    exact fun r decided => now.returned fair (fair.returns now.sound decided) rfl decided settings
  case code => exact fun code returned => (fair.code now.sound returned).2
  case unasked =>
    exact fun unasked race how open' ended => ⟨(fair.race now.sound open').2 how ended,
      now.looks_unasked fair unasked open' ended settings⟩
  case panicked =>
    exact fun unasked race text open' unended =>
      now.panicked fair unasked open' unended settings text
  case asked =>
    intro a asked race open' first more
    have flag : race.flag = a := by rw [now.race_flag fair open', asked]; rfl
    have terminal : race.flag.isTerminal = true := flag ▸ now.ends a (List.mem_of_head? asked)
    refine now.looks fair open' ?_ settings more
    cases ended : race.pump with
    | none => rw [Race.look_of_unended ended terminal, flag]
    | some how => rw [Race.look_of_both ended terminal, flag]

end Ending

end Tether
