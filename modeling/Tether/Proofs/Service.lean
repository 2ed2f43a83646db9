import Tether.Job.Service
import Tether.Proofs.Jobs
import Tether.Proofs.Outbound

/-! Services under accepted settings. The settings bound the schema version and the job bounds the
id, both in bytes and both by what a frame has room for; so if the plugin bounds its packets, none
of its calls is refused. -/

namespace Tether

open Text Wire

/-- Accepted settings have a schema version that fits its slot. -/
theorem Settings.schema_of_validate {s : Settings} (valid : s.validate = .ok ()) :
    Utf8.width s.session.schema ≤ Field.schemaVersion.width := by
  refine Nat.not_lt.mp fun wide => ?_
  simp only [validate, if_pos (show Utf8.width s.session.schema > 4 from wide)] at valid
  repeat' split at valid
  all_goals cases valid

namespace Session

/-! ### Calls of a pump -/

/-- The texts that go into every frame of a session fit their slots. -/
structure Config.Fits (c : Config) : Prop where
  schema : Utf8.width c.schema ≤ Field.schemaVersion.width
  id : Utf8.width c.id ≤ Field.sessionId.width

theorem Config.Fits.frameable {c : Config} (fits : c.Fits) {data : List UInt8} {packet : Nat}
    (size : data.length ≤ packet) (small : packet ≤ maxPayload) : Frameable c data :=
  ⟨fits.schema, fits.id, Nat.le_trans size small⟩

namespace Senders

variable (c : Config) (l : Senders)

theorem map_data_moveOn (call : Nat) (phase : CallPhase) :
    (l.moveOn call phase).calls.map Call.data = l.calls.map Call.data := by
  apply List.ext_getElem?
  intro k
  rw [List.getElem?_map, List.getElem?_map, moveOn_data]

theorem map_data_lock (call : Nat) (created : UInt64) :
    (l.lock c call created).calls.map Call.data = l.calls.map Call.data := by
  unfold lock
  split
  · dsimp only
    split <;> exact map_data_moveOn l call _
  · rfl

theorem map_data_answer (ok : Bool) :
    (l.answer ok).calls.map Call.data = l.calls.map Call.data := by
  unfold answer
  split
  · rfl
  · exact map_data_moveOn l _ _

end Senders

namespace Outlet

/-- Everything that the pump has sent so far can be framed. -/
structure Framed (c : Config) (o : Outlet) : Prop where
  books : Senders.Accounted c o.senders
  data : ∀ data ∈ o.senders.calls.map Call.data, Frameable c data

variable {c : Config} {o : Outlet}

theorem framed_start (c : Config) : Framed c start :=
  ⟨Senders.accounted_start c, by simp [start, Senders.start]⟩

namespace Framed

variable (h : Framed c o)

include h

theorem ok_of_returned {i : Nat} {call : Call} (found : o.senders.calls[i]? = some call)
    {result : Except ChannelFault Unit} (returned : call.phase = .returned result) :
    result = .ok () := by
  have fits := h.data call.data (List.mem_map_of_mem (List.mem_of_getElem? found))
  cases h.books.standing i call found with
  | empty => cases returned; rfl
  | waiting => cases returned
  | refused _ _ misfit => exact absurd fits misfit
  | sending => cases returned
  | sent => cases returned; rfl

theorem ok_of_result? {result : Except ChannelFault Unit} (heard : o.result? = some result) :
    result = .ok () := by
  unfold result? at heard
  split at heard
  · next data result' found =>
    cases heard
    obtain ⟨i, -, found⟩ := Option.bind_eq_some_iff.mp found
    exact h.ok_of_returned found rfl
  · cases heard

theorem send {data : List UInt8} (fits : Frameable c data) : Framed c (o.send data) where
  books := Senders.accounted_called h.books data
  data := by
    intro other mem
    rw [Outlet.send, Senders.called, List.map_append, List.mem_append] at mem
    rcases mem with old | new
    · exact h.data other old
    · rw [List.mem_singleton.mp new]
      exact fits

theorem settle : Framed c o.settle := ⟨h.books, h.data⟩

theorem step (e : Event) : Framed c (o.step c e) := by
  cases e with
  | locked created =>
    simp only [Outlet.step]
    split
    · next call _ =>
      refine ⟨Senders.accounted_step h.books (.locked call created), ?_⟩
      rw [Senders.step, Senders.map_data_lock]
      exact h.data
    · exact h
  | answered ok =>
    refine ⟨Senders.accounted_step h.books (.answered ok), ?_⟩
    rw [Outlet.step, Senders.step, Senders.map_data_answer]
    exact h.data
  | session e => exact ⟨Senders.accounted_step h.books (.other e), h.data⟩

end Framed

/-- Without a call nothing happens to calls. -/
theorem calls_step (none : o.senders.calls = []) (e : Event) :
    (o.step c e).senders.calls = [] := by
  have data : (o.step c e).senders.calls.map Call.data = [] := by
    cases e with
    | locked created =>
      simp only [step]
      split
      · rw [Senders.step, Senders.map_data_lock, none]
        rfl
      · rw [none]
        rfl
    | answered ok =>
      rw [step, Senders.step, Senders.map_data_answer, none]
      rfl
    | session e =>
      rw [step, Senders.step, none]
      rfl
  exact List.map_eq_nil_iff.mp data

end Outlet

end Session

namespace Job

/-! ### The code of a job -/

/-- The exit code that a job has come to, reported or not. -/
def Phase.code? : Phase → Option String
  | .closing code | .leaving code | .reporting code | .done code => some code
  | _ => none

/-- The codes of jobs whose plugin has not run. -/
def unstartedCodes : List String := [initFailedCode, duplicateCode, openFailedCode]

variable (j : Job) (r : Registry)

theorem register_admits (registered : (j.register r).1.isRegistered = true) :
    Utf8.width j.id ≤ Field.sessionId.width := by
  unfold register at registered
  split at registered
  · cases registered
  · next id admitted =>
    unfold SessionId.ofText at admitted
    split at admitted
    · next fits => exact fits
    · cases admitted

theorem step_admits {e : Event} (registered : (j.step r e).1.isRegistered = true) :
    j.isRegistered = true ∨ Utf8.width j.id ≤ Field.sessionId.width := by
  by_cases before : j.isRegistered = true
  · exact .inl before
  right
  obtain ⟨id, flag, phase⟩ := j
  cases phase with
  | fresh =>
    cases e with
    | begun => exact register_admits _ r registered
    | _ => cases registered
  | reporting code => cases e <;> cases registered
  | done code => cases e <;> cases registered
  | _ => exact absurd rfl before

theorem register_code? {code : String} (settled : (j.register r).1.phase.code? = some code) :
    code ∈ unstartedCodes := by
  unfold register at settled
  repeat' split at settled
  · cases settled
    simp [unstartedCodes]
  · cases settled
  · cases settled
    simp [unstartedCodes]

/-- A job that has come to a code has it from its plugin or from never having started it. -/
theorem step_code? {e : Event} {code : String}
    (settled : (j.step r e).1.phase.code? = some code) :
    j.phase.code? = some code ∨ code ∈ unstartedCodes ∨ e = .ended code := by
  obtain ⟨id, flag, phase⟩ := j
  cases phase with
  | fresh =>
    cases e with
    | begun => exact .inr (.inl (register_code? _ r settled))
    | _ => cases settled
  | registered =>
    cases e with
    | created fine =>
      cases fine with
      | true => cases settled
      | false =>
        cases settled
        simp [unstartedCodes]
    | _ => cases settled
  | dialing =>
    cases e with
    | opened fine =>
      cases fine with
      | true => cases settled
      | false =>
        cases settled
        simp [unstartedCodes]
    | _ => cases settled
  | delaying => cases e <;> cases settled
  | running =>
    cases e with
    | ended code =>
      cases settled
      exact .inr (.inr rfl)
    | _ => cases settled
  | _ => cases e <;> exact .inl settled

end Job

/-! ### Plugins in their jobs -/

open Session

/-- A plugin that calls with data that can be framed, and does not end with this code, as long as
its session refuses nothing. `Kept` is what it keeps to. -/
structure Plugin.Careful {π ε : Type} (p : Plugin π ε) (Kept : π → Prop) (code : String) :
    Prop where
  start : Kept p.start
  step : ∀ (c : Config), c.Fits → ∀ x o e, Kept x → Outlet.Framed c o →
    Kept (p.step x o e).1 ∧ Outlet.Framed c (p.step x o e).2
  code : ∀ x, Kept x → p.code? x ≠ some code

namespace Service

/-- The session of a service. -/
def config {π : Type} (settings : Settings) (s : Service π) : Config :=
  .ofSettings settings s.job.id

/-- What a service whose plugin keeps to `Kept` keeps to. -/
structure Sound {π : Type} (settings : Settings) (Kept : π → Prop) (code : String)
    (s : Service π) : Prop where
  admitted : s.job.isRegistered = true → (s.config settings).Fits
  framed : (s.config settings).Fits → Outlet.Framed (s.config settings) s.outlet
  /-- An id that does not fit is never used. -/
  unsent : ¬ (s.config settings).Fits → s.outlet.senders.calls = []
  plugin : Kept s.plugin
  code : s.job.phase.code? ≠ some code

section Run

variable {π ε : Type} {p : Plugin π ε} {settings : Settings} {Kept : π → Prop} {code : String}
  {s : Service π}

theorem sound_start (careful : p.Careful Kept code) (id : String) (flag : Nat) (r : Registry) :
    Sound settings Kept code (start p id flag r) where
  admitted := nofun
  framed _ := Outlet.framed_start _
  unsent _ := rfl
  plugin := careful.start
  code := nofun

namespace Sound

variable (h : Sound settings Kept code s)

include h

theorem tell (valid : settings.validate = .ok ()) {e : Job.Event}
    (own : code ∉ Job.unstartedCodes) (other : e ≠ .ended code) :
    Sound settings Kept code (s.tell e) := by
  have config : (s.tell e).config settings = s.config settings := by
    simp only [Service.config, Service.tell, Job.step_id]
  constructor
  · intro registered
    rw [config]
    rcases Job.step_admits s.job s.registry registered with before | fits
    · exact h.admitted before
    · exact ⟨settings.schema_of_validate valid, fits⟩
  · rw [config]
    exact h.framed
  · rw [config]
    exact h.unsent
  · exact h.plugin
  · intro settled
    rcases Job.step_code? s.job s.registry settled with before | mem | ended
    · exact h.code before
    · exact own mem
    · exact other ended

theorem step (valid : settings.validate = .ok ()) (careful : p.Careful Kept code)
    (own : code ∉ Job.unstartedCodes) (e : Event ε) :
    Sound settings Kept code (s.step p settings e) := by
  cases e with
  | job e =>
    cases e with
    | ended other =>
      simp only [Service.step]
      split
      · next has =>
        refine h.tell valid own ?_
        rintro ⟨⟩
        exact careful.code s.plugin h.plugin has
      · exact h
    | _ => exact h.tell valid own nofun
  | plugin e =>
    simp only [Service.step]
    split
    · next running =>
      have fits := h.admitted (by simp [Job.isRegistered, running])
      obtain ⟨plugin, framed⟩ :=
        careful.step (s.config settings) fits s.plugin s.outlet e h.plugin (h.framed fits)
      exact ⟨h.admitted, fun _ => framed, fun misfit => absurd fits misfit, plugin, h.code⟩
    · exact h
  | channel e =>
    exact ⟨h.admitted, fun fits => (h.framed fits).step e,
      fun misfit => Outlet.calls_step (h.unsent misfit) e, h.plugin, h.code⟩
  | elsewhere r => exact ⟨h.admitted, h.framed, h.unsent, h.plugin, h.code⟩

theorem run (valid : settings.validate = .ok ()) (careful : p.Careful Kept code)
    (own : code ∉ Job.unstartedCodes) (es : List (Event ε)) :
    Sound settings Kept code (s.run p settings es) := by
  induction es generalizing s with
  | nil => exact h
  | cons e es ih => exact ih (h.step valid careful own e)

theorem unrefused {call : Call} (mem : call ∈ s.outlet.senders.calls) (fault : ChannelFault) :
    call.phase ≠ .returned (.error fault) := by
  intro returned
  by_cases fits : (s.config settings).Fits
  · obtain ⟨i, found⟩ := List.mem_iff_getElem?.mp mem
    cases (h.framed fits).ok_of_returned found returned
  · rw [h.unsent fits] at mem
    cases mem

theorem code?_ne : s.job.code? ≠ some code := by
  intro done
  refine h.code ?_
  unfold Job.code? at done
  split at done
  · next phase =>
    rw [phase]
    exact done
  · cases done

end Sound

end Run

end Service

end Tether
