import Mathlib.Data.List.Basic
import Tether.Shell.Inbound

/-! What reaches the process of a shell. A frame does one of two things, and whether a process is
there decides which: it asks the process, or it leaves its size behind. So while nothing but frames
come, only the last size and the throttle have to be kept in mind. -/

namespace Tether.Shell

open Wire

theorem lastSize_append (before : Option TerminalSize) (ms ns : List Message) :
    lastSize before (ms ++ ns) = lastSize (lastSize before ms) ns := by
  simp [lastSize, List.filterMap_append, List.getLast?_append, Option.or_assoc]

theorem throttle_append (flow : Flow) (ms ns : List Message) :
    throttle flow (ms ++ ns) = throttle (throttle flow ms) ns := List.foldl_append

theorem Terminal.handle_eq (t : Terminal) (m : Message) (answer : Except Causes Unit) :
    t.handle m answer = (reply t.installed m answer,
      ⟨throttle t.flow [m], t.installed,
        if t.installed then t.pending else lastSize t.pending [m]⟩,
      if t.installed then (asked? m).toList else []) := by
  obtain ⟨flow, installed, pending⟩ := t
  cases kind : m.kind with
  | setSize =>
    cases size : TerminalSize.ofPayload m.payload with
    | error e =>
      simp [handle, kind, size, reply, refusal?, throttle, lastSize, size?, asked?,
        Except.toOption]
    | ok size =>
      cases installed <;>
        simp [handle, ask, kind, size, reply, refusal?, throttle, lastSize, size?, asked?,
          Except.toOption]
  | input =>
    cases installed <;>
      simp [handle, ask, kind, reply, refusal?, throttle, lastSize, size?, asked?]
  | _ => simp [handle, kind, reply, refusal?, throttle, lastSize, size?, asked?]

namespace Run

theorem results_append (r : Run) (es fs : List Event) :
    r.results (es ++ fs) = r.results es ++ (r.run es).1.results fs := by
  induction es generalizing r with
  | nil => rfl
  | cons e es ih => simp [results, run, ih, List.append_assoc]

theorem step_frame (r : Run) (m : Message) (answer : Except Causes Unit) :
    r.step (.frame m answer) =
      (⟨⟨throttle r.terminal.flow [m], r.terminal.installed,
          if r.terminal.installed then r.terminal.pending
          else lastSize r.terminal.pending [m]⟩, r.starting⟩,
        if r.terminal.installed then (asked? m).toList else []) := by
  simp only [step, Terminal.handle_eq]

/-- Frames with what the process answers if it is asked. -/
abbrev Frames := List (Message × Except Causes Unit)

def frames (fs : Frames) : List Event := fs.map fun f => .frame f.1 f.2

theorem run_frames (r : Run) (fs : Frames) :
    r.run (frames fs) =
      (⟨⟨throttle r.terminal.flow (fs.map Prod.fst), r.terminal.installed,
          if r.terminal.installed then r.terminal.pending
          else lastSize r.terminal.pending (fs.map Prod.fst)⟩, r.starting⟩,
        if r.terminal.installed then (fs.map Prod.fst).filterMap asked? else []) := by
  induction fs generalizing r with
  | nil => cases inst : r.terminal.installed <;> simp [frames, run, throttle, lastSize, ← inst]
  | cons f fs ih =>
    obtain ⟨m, answer⟩ := f
    have first : throttle r.terminal.flow (m :: fs.map Prod.fst) =
        throttle (throttle r.terminal.flow [m]) (fs.map Prod.fst) := throttle_append _ [m] _
    have size : lastSize r.terminal.pending (m :: fs.map Prod.fst) =
        lastSize (lastSize r.terminal.pending [m]) (fs.map Prod.fst) := lastSize_append _ [m] _
    have asks : (m :: fs.map Prod.fst).filterMap asked? =
        (asked? m).toList ++ (fs.map Prod.fst).filterMap asked? := by
      cases asks : asked? m <;> simp [asks]
    have stepped := ih (r.step (.frame m answer)).1
    rw [step_frame] at stepped
    simp only [frames, List.map_cons, run, step_frame, first, size, asks] at stepped ⊢
    rw [stepped]
    cases r.terminal.installed <;> simp

theorem results_frames (r : Run) (fs : Frames) :
    r.results (frames fs) = fs.map fun f => reply r.terminal.installed f.1 f.2 := by
  induction fs generalizing r with
  | nil => rfl
  | cons f fs ih =>
    obtain ⟨m, answer⟩ := f
    have stepped := ih (r.step (.frame m answer)).1
    simp only [frames, step_frame] at stepped
    simp only [frames, List.map_cons, results, result?, step_frame, stepped, Terminal.handle_eq,
      Option.toList_some, List.singleton_append]

theorem step_started {t : Terminal} (absent : t.installed = false) :
    (⟨t, false⟩ : Run).step (.started (.ok ()) (.ok ())) =
      (⟨t, true⟩, [.spawn, .takeReader]) := by
  simp [step, absent, startCalls]

theorem step_installed (t : Terminal) :
    (⟨t, true⟩ : Run).step .installed =
      (⟨{ t with installed := true, pending := none }, false⟩,
        (t.pending.map Call.resize).toList) := rfl

theorem step_removed {t : Terminal} (present : t.installed = true) :
    (⟨t, false⟩ : Run).step .removed =
      (⟨{ t with installed := false }, false⟩, [.kill, .wait]) := by
  simp [step, Terminal.remove, present]

end Run

/-- A frame by itself: input that nobody takes is dropped, a size that cannot be read is an error
and changes nothing, and a status changes the throttle alone. -/
theorem Terminal.handle_aside (t : Terminal) (m : Message) (answer : Except Causes Unit) :
    (m.kind = .input → t.installed = false → t.handle m answer = (.ok (), t, [])) ∧
      (∀ e, m.kind = .setSize → TerminalSize.ofPayload m.payload = .error e →
        t.handle m answer = (.error ⟨"Invalid SetSize payload", [e.message]⟩, t, [])) ∧
      (m.kind = .status →
        t.handle m answer = (.ok (), { t with flow := t.flow.applyStatus m.payload }, [])) := by
  refine ⟨fun input absent => ?_, fun e size unread => ?_, fun status => ?_⟩
  · simp [handle, ask, input, absent]
  · simp [handle, size, unread]
  · simp [handle, status]

/-- A process is resized once to the last size set before it was put in place. Then each input is
written and each size applied, in the order in which the frames are handled, until the process is
taken away: it is killed and waited for, and asked for nothing after that. -/
theorem process_asked_in_order (rate : SendRate) (early waiting served late : Run.Frames) :
    let messages : Run.Frames → List Message := List.map Prod.fst
    let replies (installed : Bool) : Run.Frames → List (Except Causes Unit) :=
      List.map fun f => reply installed f.1 f.2
    let starting := Run.frames early ++ .started (.ok ()) (.ok ()) :: Run.frames waiting
    let serving := .installed :: Run.frames served
    let ending := .removed :: Run.frames late
    let size := lastSize none (messages (early ++ waiting))
    let flow (fs : Run.Frames) := throttle (.start Flow.shellPacket rate) (messages fs)
    let started := (Run.fresh rate).run starting
    let inService := started.1.run serving
    let ended := inService.1.run ending
    started = (⟨⟨flow (early ++ waiting), false, size⟩, true⟩, [.spawn, .takeReader]) ∧
      inService = (⟨⟨flow (early ++ waiting ++ served), true, none⟩, false⟩,
        (size.map Call.resize).toList ++ (messages served).filterMap asked?) ∧
      ended = (⟨⟨flow (early ++ waiting ++ served ++ late), false,
        lastSize none (messages late)⟩, false⟩, [.kill, .wait]) ∧
      (Run.fresh rate).results (starting ++ serving ++ ending) =
        replies false (early ++ waiting) ++ replies true served ++ replies false late ∧
      ∀ (t : Terminal) m answer,
        (m.kind = .input → t.installed = false → t.handle m answer = (.ok (), t, [])) ∧
        (∀ e, m.kind = .setSize → TerminalSize.ofPayload m.payload = .error e →
          t.handle m answer = (.error ⟨"Invalid SetSize payload", [e.message]⟩, t, [])) ∧
        (m.kind = .status →
          t.handle m answer = (.ok (), { t with flow := t.flow.applyStatus m.payload }, [])) := by
  intro messages replies starting serving ending size flow started inService ended
  have start : started =
      (⟨⟨flow (early ++ waiting), false, size⟩, true⟩, [.spawn, .takeReader]) := by
    simp [started, starting, Run.fresh, Terminal.start, Run.run_append, Run.run_frames, Run.run,
      Run.step_started, flow, size, messages, throttle_append, lastSize_append]
  have serve : inService = (⟨⟨flow (early ++ waiting ++ served), true, none⟩, false⟩,
      (size.map Call.resize).toList ++ (messages served).filterMap asked?) := by
    simp [inService, start, serving, Run.run, Run.step_installed, Run.run_frames, flow, messages,
      throttle_append]
  have stop : ended = (⟨⟨flow (early ++ waiting ++ served ++ late), false,
      lastSize none (messages late)⟩, false⟩, [.kill, .wait]) := by
    simp [ended, serve, ending, Run.run, Run.step_removed, Run.run_frames, flow, messages,
      throttle_append]
  have first : (Run.fresh rate).results starting = replies false (early ++ waiting) := by
    simp [starting, Run.fresh, Terminal.start, Run.results_append, Run.results, Run.result?,
      Run.results_frames, Run.run_frames, Run.step_started, replies]
  have second : started.1.results serving = replies true served := by
    simp [start, serving, Run.results, Run.result?, Run.results_frames, Run.step_installed, replies]
  have third : inService.1.results ending = replies false late := by
    simp [serve, ending, Run.results, Run.result?, Run.results_frames, Run.step_removed, replies]
  have told : (Run.fresh rate).results (starting ++ serving ++ ending) =
      replies false (early ++ waiting) ++ replies true served ++ replies false late :=
    calc
      _ = (Run.fresh rate).results starting ++ started.1.results serving ++
          inService.1.results ending := by
        rw [Run.results_append _ (starting ++ serving), Run.results_append _ starting,
          Run.run_append _ starting]
      _ = _ := by rw [first, second, third]
  exact ⟨start, serve, stop, told, Terminal.handle_aside⟩

/-- A frame that sets a size given as text. -/
def resizing (text : String) : Message where
  kind := .setSize
  schema := "1.01"
  session := "s-1"
  created := 1
  sequence := 0
  declared := 0
  payload := text.toUTF8.data.toList

/-- The size set before the process is there waits for it, the next one goes to it at once, and what
is no size is refused. -/
example :
    let es : List Run.Event :=
      [.frame (resizing "\x7b\"cols\":132,\"rows\":43\x7d") (.ok ()), .started (.ok ()) (.ok ()),
        .installed, .frame (resizing "[7, 8]") (.ok ()), .frame (resizing "tall") (.ok ())]
    ((Run.fresh .standard).run es).2 =
        [.spawn, .takeReader, .resize ⟨132, 43⟩, .resize ⟨7, 8⟩] ∧
      ((Run.fresh .standard).results es).map Except.isOk = [true, true, false] := by
  decide +kernel

end Tether.Shell
