import Tether.Proofs.Terminal
import Tether.Shell.Execution

/-! Who ends a process. The invariant says for each stage of an execution what has been asked so
far and whether the terminal has the process; each process that the terminal has had is killed and
waited for before its execution returns. A process whose reading end cannot be taken never gets
there. -/

namespace Tether

theorem Race.look_isSome {γ : Type} [ExitCode γ] {race : Race γ}
    (decided : race.flag.isTerminal ∨ race.pump.isSome) (first : Bool) :
    (race.look first).isSome := by
  rcases decided with terminal | ended
  · cases first <;> simp [look, CancelState.wait, terminal]
  · cases first <;> simp [look, ended]

namespace Shell

open Wire

/-- What is asked of a process while it is in service. -/
def Call.isUse : Call → Bool
  | .write _ | .resize _ => true
  | _ => false

def Uses (asked : List Asked) : Prop := ∀ a ∈ asked, a.call.isUse

theorem uses_map {calls : List Call} (uses : ∀ c ∈ calls, c.isUse) (answer : Except Causes Unit) :
    Uses (calls.map (⟨·, answer⟩)) := by
  intro a mem
  obtain ⟨c, given, rfl⟩ := List.mem_map.mp mem
  exact uses c given

theorem Uses.append {as bs : List Asked} (uses : Uses as) (more : Uses bs) : Uses (as ++ bs) := by
  intro a mem
  rcases List.mem_append.mp mem with mem | mem
  · exact uses a mem
  · exact more a mem

theorem isUse_of_asked? {m : Message} {c : Call} (asks : asked? m = some c) : c.isUse := by
  rw [asked?] at asks
  split at asks
  · rw [← Option.some.inj asks]
    rfl
  · obtain ⟨size, -, rfl⟩ := Option.map_eq_some_iff.mp asks
    rfl

namespace Terminal

theorem installed_handle (t : Terminal) (m : Message) (answer : Except Causes Unit) :
    (t.handle m answer).2.1.installed = t.installed := by
  rw [handle_eq]

theorem calls_handle (t : Terminal) (m : Message) (answer : Except Causes Unit) :
    (t.handle m answer).2.2 = if t.installed then (asked? m).toList else [] := by
  rw [handle_eq]

end Terminal

/-! ### What an execution leaves behind -/

namespace Asked

/-- The backend gives a process. -/
def spawned : Asked := ⟨.spawn, .ok ()⟩

/-- The process gives its reading end. -/
def opened : Asked := ⟨.takeReader, .ok ()⟩

end Asked

/-- The ways in which an execution can have gone: without a process, without its reading end, or
up to the end of the process. -/
inductive Finished.Complete : Finished → Prop where
  | unspawned (causes : Causes) : Complete ⟨unopened causes, [⟨.spawn, .error causes⟩]⟩
  | unread (causes : Causes) :
    Complete ⟨unopened causes, [.spawned, ⟨.takeReader, .error causes⟩]⟩
  | ended (result : PluginResult ShellExit) {uses : List Asked} (used : Uses uses)
    (killed waited : Except Causes Unit) :
    Complete ⟨result, .spawned :: .opened :: uses ++ [⟨.kill, killed⟩, ⟨.wait, waited⟩]⟩

namespace Execution

/-- What has been asked at a stage, and whether the terminal has the process. -/
def Custody (installed : Bool) (asked : List Asked) : Stage → Prop
  | .idle | .spawning => installed = false ∧ asked = []
  | .opening => installed = false ∧ asked = [.spawned]
  | .installing => installed = false ∧ asked = [.spawned, .opened]
  | .racing _ | .ending _ =>
    installed = true ∧ ∃ uses, Uses uses ∧ asked = .spawned :: .opened :: uses
  | .cleaning _ left => installed = false ∧ ∃ uses done, Uses uses ∧
    asked = .spawned :: .opened :: uses ++ done ∧
      (left = [.kill, .wait] ∧ done = [] ∨ left = [.wait] ∧ ∃ killed, done = [⟨.kill, killed⟩])

structure Accounted (x : Execution) : Prop where
  custody : Custody x.terminal.installed x.asked x.stage
  complete : ∀ f ∈ x.finished, f.Complete

variable {x : Execution}

theorem accounted_start (rate : SendRate) : (start rate).Accounted :=
  ⟨⟨rfl, rfl⟩, nofun⟩

theorem accounted_finish {result : PluginResult ShellExit}
    (others : ∀ f ∈ x.finished, f.Complete) (absent : x.terminal.installed = false)
    (complete : Finished.Complete ⟨result, x.asked⟩) : (x.finish result).Accounted where
  custody := ⟨absent, rfl⟩
  complete := by
    intro f mem
    rcases List.mem_append.mp mem with mem | mem
    · exact others f mem
    · rw [List.mem_singleton.mp mem]
      exact complete

/-- A call before the process is installed: the execution goes on or returns. -/
theorem Accounted.proceed (h : x.Accounted) (absent : x.terminal.installed = false) {call : Call}
    {next : Stage} (good : Custody false (x.asked ++ [⟨call, .ok ()⟩]) next)
    (bad : ∀ causes, Finished.Complete ⟨unopened causes, x.asked ++ [⟨call, .error causes⟩]⟩)
    (answer : Except Causes Unit) : ((x.note [call] answer).proceed next answer).Accounted := by
  cases answer with
  | ok => exact ⟨by simpa [Execution.proceed, note, absent] using good, h.complete⟩
  | error causes => exact accounted_finish h.complete absent (bad causes)

theorem Accounted.onPump (h : x.Accounted) (f : Pump → Pump) : (x.onPump f).Accounted := by
  rw [Execution.onPump]
  split
  · next racing =>
    have custody := h.custody
    rw [racing] at custody
    exact ⟨custody, h.complete⟩
  · exact h

/-- A frame asks the process only while the terminal has it. -/
theorem Accounted.frame (h : x.Accounted) (m : Message) (answer : Except Causes Unit) :
    (x.step (.frame m answer)).Accounted := by
  refine ⟨?_, h.complete⟩
  have custody := h.custody
  simp only [step, note, Terminal.calls_handle, Terminal.installed_handle]
  cases installed : x.terminal.installed with
  | false =>
    rw [installed] at custody
    simpa using custody
  | true =>
    rw [installed] at custody
    have used : Uses ((asked? m).toList.map (⟨·, answer⟩)) := by
      exact uses_map (fun c mem => isUse_of_asked? (Option.mem_toList.mp mem)) answer
    cases stage : x.stage with
    | racing p | ending r =>
      rw [stage] at custody
      obtain ⟨-, uses, before, asked⟩ := custody
      exact ⟨rfl, _, before.append used, by rw [asked]; rfl⟩
    | idle | spawning | opening | installing | cleaning =>
      rw [stage] at custody
      exact absurd custody.1 Bool.noConfusion

theorem Accounted.step (h : x.Accounted) (e : Event) : (x.step e).Accounted := by
  have custody := h.custody
  cases e with
  | frame m answer => exact h.frame m answer
  | read | woken | sent | panicked => exact h.onPump _
  | cancelled next => exact ⟨custody, h.complete⟩
  | executed flag =>
    simp only [Execution.step]
    split
    · next idle =>
      rw [idle] at custody
      exact ⟨custody, h.complete⟩
    · exact h
  | spawned answer =>
    simp only [Execution.step]
    split
    · next spawning =>
      rw [spawning] at custody
      obtain ⟨absent, nothing⟩ := custody
      refine h.proceed absent ?_ ?_ answer
      all_goals rw [nothing]
      · exact ⟨rfl, rfl⟩
      · exact .unspawned
    · exact h
  | opened answer =>
    simp only [Execution.step]
    split
    · next opening =>
      rw [opening] at custody
      obtain ⟨absent, asked⟩ := custody
      refine h.proceed absent ?_ ?_ answer
      all_goals rw [asked]
      · exact ⟨rfl, rfl⟩
      · exact .unread
    · exact h
  | installed answer =>
    simp only [Execution.step]
    split
    · next installing =>
      rw [installing] at custody
      obtain ⟨absent, asked⟩ := custody
      have resizes : ∀ c ∈ (x.terminal.pending.map Call.resize).toList, c.isUse := by
        intro c mem
        obtain ⟨size, -, rfl⟩ := Option.map_eq_some_iff.mp (Option.mem_toList.mp mem)
        rfl
      exact ⟨⟨rfl, _, uses_map resizes answer, by simp [note, asked, Terminal.install]⟩, h.complete⟩
    · exact h
  | looked flagFirst =>
    simp only [Execution.step]
    split
    · next racing =>
      rw [racing] at custody
      split
      · exact ⟨custody, h.complete⟩
      · exact h
    · exact h
  | removed =>
    simp only [Execution.step]
    split
    · next ending =>
      rw [ending] at custody
      obtain ⟨present, uses, used, asked⟩ := custody
      simp only [Terminal.remove, if_pos present, clean]
      exact ⟨⟨rfl, uses, [], used, by simpa using asked, .inl ⟨rfl, rfl⟩⟩, h.complete⟩
    · exact h
  | cleaned answer =>
    simp only [Execution.step]
    split
    · next result _ _ cleaning =>
      rw [cleaning] at custody
      obtain ⟨absent, uses, done, used, asked, ⟨left, rfl⟩ | ⟨left, killed, rfl⟩⟩ := custody
      · obtain ⟨rfl, rfl⟩ := List.cons.inj left
        refine ⟨⟨absent, uses, [⟨.kill, answer⟩], used, ?_, .inr ⟨rfl, answer, rfl⟩⟩, h.complete⟩
        simp [clean, note, asked]
      · obtain ⟨rfl, rfl⟩ := List.cons.inj left
        refine accounted_finish h.complete absent ?_
        have ended := Finished.Complete.ended result used killed answer
        simpa [note, asked] using ended
    · exact h

theorem Accounted.run (h : x.Accounted) (es : List Event) : (x.run es).Accounted := by
  induction es generalizing x with
  | nil => exact h
  | cons e es ih => exact ih (h.step e)

end Execution

/-- The last two calls kill the process and wait for it, and no other call does. -/
def Finished.Reaped (f : Finished) : Prop :=
  ∃ before killed waited, f.asked = before ++ [⟨.kill, killed⟩, ⟨.wait, waited⟩] ∧
    ∀ a ∈ before, a.call ≠ .kill ∧ a.call ≠ .wait

namespace Finished

variable {f : Finished}

theorem reaped_of_uses (result : PluginResult ShellExit) {uses : List Asked} (used : Uses uses)
    (killed waited : Except Causes Unit) :
    Reaped ⟨result, .spawned :: .opened :: uses ++ [⟨.kill, killed⟩, ⟨.wait, waited⟩]⟩ := by
  refine ⟨_, killed, waited, rfl, ?_⟩
  intro a mem
  rcases List.mem_cons.mp mem with rfl | mem
  · simp [Asked.spawned]
  rcases List.mem_cons.mp mem with rfl | mem
  · simp [Asked.opened]
  have use := used a mem
  constructor
  all_goals
    intro same
    rw [same] at use
    cases use

theorem Complete.reaped_iff (complete : f.Complete) (spawned : .spawned ∈ f.asked) :
    f.Reaped ↔ .opened ∈ f.asked := by
  cases complete with
  | unspawned causes => simp [Asked.spawned] at spawned
  | unread causes =>
    refine iff_of_false ?_ (by simp [Asked.spawned, Asked.opened])
    rintro ⟨before, killed, waited, asked, -⟩
    have kill : (⟨.kill, killed⟩ : Asked) ∈ before ++ [⟨.kill, killed⟩, ⟨.wait, waited⟩] := by simp
    rw [← asked] at kill
    simp [Asked.spawned] at kill
  | ended result used killed waited =>
    exact iff_of_true (reaped_of_uses result used killed waited) (by simp)

end Finished

namespace Execution

variable {x : Execution}

/-- The cleanup goes to its end, however the killing and the waiting go. -/
theorem finished_cleanup {result : PluginResult ShellExit} (ending : x.stage = .ending result)
    (present : x.terminal.installed = true) (killed waited : Except Causes Unit) :
    (x.run [.removed, .cleaned killed, .cleaned waited]).finished =
      x.finished ++ [⟨result, x.asked ++ [⟨.kill, killed⟩, ⟨.wait, waited⟩]⟩] := by
  simp [Execution.run, Execution.step, ending, Terminal.remove, present, clean, note,
    Execution.finish]

/-- Where the race can be decided, the execution can return, with what the race comes to. -/
theorem Accounted.returns (h : x.Accounted) {p : Pump} (racing : x.stage = .racing p)
    (decided : x.flag.isTerminal ∨ p.ended?.isSome) (flagFirst : Bool)
    (killed waited : Except Causes Unit) :
    ∃ f, (x.run [.looked flagFirst, .removed, .cleaned killed, .cleaned waited]).finished =
      x.finished ++ [f] ∧
      (⟨x.flag, p.ended?, none⟩ : Race ShellExit).look flagFirst = some f.result ∧ f.Reaped := by
  have custody := h.custody
  rw [racing] at custody
  obtain ⟨present, uses, used, asked⟩ := custody
  have decides : ((⟨x.flag, p.ended?, none⟩ : Race ShellExit).look flagFirst).isSome :=
    Race.look_isSome decided flagFirst
  obtain ⟨result, looked⟩ := Option.isSome_iff_exists.mp decides
  have ends : x.step (.looked flagFirst) = { x with stage := .ending result } := by
    simp [Execution.step, racing, looked]
  refine ⟨⟨result, x.asked ++ [⟨.kill, killed⟩, ⟨.wait, waited⟩]⟩, ?_, looked, ?_⟩
  · rw [Execution.run, List.foldl_cons, ends]
    exact finished_cleanup (x := { x with stage := .ending result }) rfl present killed waited
  · rw [asked]
    exact Finished.reaped_of_uses result used killed waited

/-- Every process that gives its reading end is killed once and then waited for once before its
execution returns, whatever it answers and whatever ends the session, and once the race can be
decided nothing else is awaited. A process that does not give its reading end is dropped as it is,
and the execution returns at once. -/
theorem process_reaped (rate : SendRate) (es : List Event) :
    let x := (start rate).run es
    (∀ f ∈ x.finished, .spawned ∈ f.asked → (f.Reaped ↔ .opened ∈ f.asked)) ∧
    (∀ f ∈ x.finished, .spawned ∈ f.asked → .opened ∉ f.asked → ∃ causes,
      f = ⟨unopened causes, [.spawned, ⟨.takeReader, .error causes⟩]⟩) ∧
    (∀ f ∈ x.finished, .spawned ∉ f.asked → ∃ causes,
      f = ⟨unopened causes, [⟨.spawn, .error causes⟩]⟩) ∧
    ∀ p, x.stage = .racing p → x.flag.isTerminal ∨ p.ended?.isSome →
      ∀ flagFirst killed waited, ∃ f,
        (x.run [.looked flagFirst, .removed, .cleaned killed, .cleaned waited]).finished =
          x.finished ++ [f] ∧
        (⟨x.flag, p.ended?, none⟩ : Race ShellExit).look flagFirst = some f.result ∧
        f.Reaped := by
  have accounted := (accounted_start rate).run es
  refine ⟨fun f mem spawned => (accounted.complete f mem).reaped_iff spawned, ?_, ?_, ?_⟩
  · intro f mem spawned unopened
    cases accounted.complete f mem with
    | unspawned => simp [Asked.spawned] at spawned
    | unread causes => exact ⟨causes, rfl⟩
    | ended => exact absurd (by simp) unopened
  · intro f mem unspawned
    cases accounted.complete f mem with
    | unspawned causes => exact ⟨causes, rfl⟩
    | unread | ended => exact absurd (by simp) unspawned
  · intro p racing decided
    exact accounted.returns racing decided

/-- A process whose reading end cannot be taken. -/
def unread : List Event :=
  [.executed .running, .spawned (.ok ()), .opened (.error ⟨"no reading end", []⟩)]

theorem unread_unreaped : ∃ f, ((start .standard).run unread).finished = [f] ∧
    .spawned ∈ f.asked ∧ ∀ a ∈ f.asked, a.call ≠ .kill ∧ a.call ≠ .wait :=
  ⟨⟨unopened ⟨"no reading end", []⟩, [.spawned, ⟨.takeReader, .error ⟨"no reading end", []⟩⟩]⟩,
    rfl, by simp, by simp [Asked.spawned]⟩

/-- A session that is cancelled, with a process that cannot be killed. -/
example : ((start .standard).run [.executed .running, .spawned (.ok ()), .opened (.ok ()),
    .installed (.ok ()), .cancelled .completed, .looked true, .removed,
    .cleaned (.error ⟨"no such process", []⟩), .cleaned (.ok ())]).finished.map
      (fun f => (f.result, f.asked.map Asked.call)) =
    [((.notified, none), [.spawn, .takeReader, .kill, .wait])] := rfl

end Execution

end Shell

end Tether
