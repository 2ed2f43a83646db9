import Tether.Proofs.Link

/-! The input of a forwarded port, followed to a connection. Each payload is handed over once and
whole, to the connection made last, or its handler says what went wrong. One order of events is
different: the handler finds the link connected, the pump parks, and then there is nothing to
write to. The payload is lost, and the handler says that all is well. -/

namespace Tether.Port.Forward

open Wire

/-! ### Fates -/

/-- What becomes of a payload by the time that its handler returns. -/
inductive Fate where
  /-- It was handed to a connection; the handler says what came of that. -/
  | written (connection : Nat) (r : Except Causes Unit)
  /-- It was handed to none, and the handler says why. -/
  | failed (why : Causes)
  /-- There was no link. -/
  | ignored
  /-- There was a link but no writing end, and the handler says that all is well. -/
  | lost

/-- The fate of the payload whose handler returns on an event with these effects. -/
def fate? : List Effect → Option Fate
  | [.wrote connection _, .handled r] => some (.written connection r)
  | [.dropped _, .handled (.ok ())] => some .lost
  | [.handled (.error why)] => some (.failed why)
  | [.handled (.ok ())] => some .ignored
  | _ => none

structure Delivery where
  payload : List UInt8
  fate : Fate
  /-- The pump has parked since the handler found the link connected. -/
  overtaken : Bool
  /-- There was a link: the plugin had dialed and was not ending, and no redial had failed. -/
  linked : Bool
  /-- The number of connections so far. -/
  connections : Nat

def Delivery.write? (d : Delivery) : Option (Nat × List UInt8) :=
  match d.fate with
  | .written connection _ => some (connection, d.payload)
  | _ => none

/-- What was handed to connections. -/
def writes (seen : List Effect) : List (Nat × List UInt8) :=
  seen.filterMap fun
    | .wrote connection bytes => some (connection, bytes)
    | _ => none

variable (f : Forward)

def linked : Bool := f.stage = .running ∧ f.link ≠ .idle

/-- Whether the pump has parked since the handler found the link connected. -/
def overtakes (f' : Forward) (before : Bool) : Bool :=
  match f.handling with
  | some (_, .passed) =>
    if f.tickets < f'.tickets then true
    else if f.connections < f'.connections then false
    else before
  | _ => false

/-- The payload whose handler has not returned. -/
def pending : List (List UInt8) :=
  match f.handling with
  | some (m, _) => if m.kind = .input then [m.payload] else []
  | none => []

/-- What becomes of that payload on an event with these effects. -/
def deliver (overtaken : Bool) (seen : List Effect) : List Delivery :=
  match fate? seen with
  | some fate => f.pending.map fun payload => ⟨payload, fate, overtaken, f.linked, f.connections⟩
  | none => []

/-- What becomes of the payloads in a run, in the order in which their handlers return. -/
def deliveries (f : Forward) (overtaken : Bool) : List Event → List Delivery
  | [] => []
  | e :: es =>
    f.deliver overtaken (f.step e).2 ++
      (f.step e).1.deliveries (f.overtakes (f.step e).1 overtaken) es

/-- The payload that an event gives to the handler. -/
def accepts : Event → List (List UInt8)
  | .arrived m => if f.handling.isNone ∧ m.kind = .input then [m.payload] else []
  | _ => []

/-- The payloads that a run gives to the handler. -/
def inputs (f : Forward) : List Event → List (List UInt8)
  | [] => []
  | e :: es => f.accepts e ++ (f.step e).1.inputs es

/-! ### Each payload once -/

/-- What comes of an event accounts for the payloads that the handler has and gets. -/
structure Accounts (overtaken : Bool) (given : List (List UInt8))
    (r : Forward × List Effect) : Prop where
  conserved : f.pending ++ given = (f.deliver overtaken r.2).map Delivery.payload ++ r.1.pending
  written : writes r.2 = (f.deliver overtaken r.2).filterMap Delivery.write?

namespace Accounts

variable {f} {overtaken : Bool} {given : List (List UInt8)} {r : Forward × List Effect}

/-- No handler returns. -/
theorem goes_on (kept : r.1.pending = f.pending ++ given) (unfinished : fate? r.2 = none)
    (unwritten : writes r.2 = []) : f.Accounts overtaken given r := by
  have none : f.deliver overtaken r.2 = [] := by
    unfold deliver
    rw [unfinished]
  exact ⟨by rw [none, kept]; rfl, by rw [none, unwritten]; rfl⟩

theorem nothing {f' : Forward} (kept : f'.handling = f.handling) :
    f.Accounts overtaken [] (f', []) :=
  goes_on (by rw [pending, kept, List.append_nil, pending]) rfl rfl

/-- The handler returns. -/
theorem ends (fate : Fate) (finished : fate? r.2 = some fate) (idle : r.1.handling = none)
    (written : writes r.2 = f.pending.filterMap fun payload =>
      (Delivery.mk payload fate overtaken f.linked f.connections).write?) :
    f.Accounts overtaken [] r := by
  have one : f.deliver overtaken r.2 = f.pending.map fun payload =>
      ⟨payload, fate, overtaken, f.linked, f.connections⟩ := by
    unfold deliver
    rw [finished]
  have empty : r.1.pending = [] := by
    unfold pending
    rw [idle]
  constructor
  · rw [one, empty, List.map_map]
    exact congrArg (· ++ []) (List.map_id f.pending).symm
  · rw [one, written, List.filterMap_map]
    rfl

end Accounts

theorem fate?_sent (data : List (List UInt8)) : fate? (data.map .sent) = none := by
  rcases data with _ | ⟨a, _ | ⟨b, data⟩⟩ <;> rfl

theorem writes_sent (data : List (List UInt8)) : writes (data.map .sent) = [] := by
  rw [writes, List.filterMap_map, List.filterMap_eq_nil_iff]
  exact fun _ _ => rfl

theorem accounts_check (overtaken : Bool) {m : Message}
    (handling : f.handling = some (m, .arrived)) : f.Accounts overtaken [] (f.check m) := by
  unfold check
  split
  · exact .ends .ignored rfl rfl (by simp [writes, Delivery.write?, finish])
  · exact .goes_on (by simp [pending, handling]) rfl rfl
  · exact .goes_on (List.append_nil _).symm rfl rfl

theorem accounts_redial (overtaken : Bool) {m : Message} {h : Handling}
    (handling : f.handling = some (m, h)) (ticket : Nat) (answer : Except String Unit) :
    f.Accounts overtaken [] (f.redial m ticket answer) := by
  cases answer with
  | ok => exact .goes_on (by simp [redial, pending, handling]) rfl rfl
  | error reason =>
    exact .ends (.failed _) rfl rfl (by simp [redial, finish, writes, Delivery.write?])

theorem accounts_apply (overtaken : Bool) {m : Message} {h : Handling}
    (handling : f.handling = some (m, h)) (answer : Except String Unit) :
    f.Accounts overtaken [] (f.apply m answer) := by
  unfold apply
  split
  · next input =>
    split
    · exact .ends .lost rfl rfl (by simp [writes, Delivery.write?, finish])
    · refine .ends (.written _ _) rfl rfl ?_
      simp [writes, Delivery.write?, finish, pending, handling, input]
  · exact .ends .ignored rfl rfl (by simp [writes, Delivery.write?, finish])
  · exact .ends .ignored rfl rfl (by simp [writes, Delivery.write?, finish])

theorem accounts_stepPump (overtaken : Bool) (p : Pump) (e : Pump.Event) :
    f.Accounts overtaken [] (f.stepPump p e) := by
  unfold stepPump
  split
  · split <;> exact .nothing rfl
  · split <;> exact .nothing rfl
  · exact .goes_on (List.append_nil _).symm (fate?_sent _) (writes_sent _)

theorem handling_reap (p : Pump) (parking : Bool) :
    (f.reap p parking).handling = f.handling := by
  unfold reap
  split <;> rfl

theorem step_accounts (overtaken : Bool) (e : Event) :
    f.Accounts overtaken (f.accepts e) (f.step e) := by
  cases e with
  | started flag =>
    simp only [step, accepts]
    split
    · exact .goes_on (List.append_nil _).symm rfl rfl
    · exact .goes_on (List.append_nil _).symm rfl rfl
    · exact .nothing rfl
  | dialed answer =>
    simp only [step, accepts]
    split <;> exact .nothing rfl
  | arrived m =>
    cases handling : f.handling with
    | none => simpa [step, accepts, handling] using .goes_on (by simp [pending, handling]) rfl rfl
    | some _ => simpa [step, accepts, handling] using .nothing rfl
  | checked =>
    simp only [step, accepts]
    split
    · next handling _ => exact f.accounts_check overtaken handling
    · exact .nothing rfl
  | redialed answer =>
    simp only [step, accepts]
    split
    · next handling _ => exact f.accounts_redial overtaken handling _ answer
    · exact .nothing rfl
  | applied answer =>
    simp only [step, accepts]
    split
    · next handling => exact f.accounts_apply overtaken handling answer
    · exact .nothing rfl
  | pump e =>
    simp only [step, accepts]
    split
    · exact f.accounts_stepPump overtaken _ e
    · exact .nothing rfl
  | cancelled next => exact .nothing rfl
  | looked flagFirst =>
    simp only [step, accepts]
    split
    · split <;> exact .nothing rfl
    · exact .nothing rfl
  | reaped parking =>
    simp only [step, accepts]
    split
    · exact .nothing (f.handling_reap _ parking)
    · exact .nothing rfl
  | unlinked =>
    simp only [step, accepts]
    split <;> exact .nothing rfl
  | stopped =>
    simp only [step, accepts]
    split <;> exact .nothing rfl

theorem run_accounts (overtaken : Bool) (es : List Event) :
    f.pending ++ f.inputs es =
        (f.deliveries overtaken es).map Delivery.payload ++ (f.run es).1.pending ∧
      writes (f.run es).2 = (f.deliveries overtaken es).filterMap Delivery.write? := by
  induction es generalizing f overtaken with
  | nil => exact ⟨List.append_nil _, rfl⟩
  | cons e es ih =>
    have now := f.step_accounts overtaken e
    obtain ⟨conserved, written⟩ := ih (f.step e).1 (f.overtakes (f.step e).1 overtaken)
    constructor
    · rw [inputs, ← List.append_assoc, now.conserved, List.append_assoc, conserved, deliveries,
        List.map_append, List.append_assoc]
      rfl
    · rw [deliveries, List.filterMap_append, ← now.written, ← written]
      exact List.filterMap_append

/-! ### Where payloads go -/

section Overtakes

variable {f} {f' : Forward} {overtaken : Bool}

theorem overtakes_of_parked {m : Message} (passed : f.handling = some (m, .passed))
    (parked : f.tickets < f'.tickets) : f.overtakes f' overtaken = true := by
  rw [overtakes, passed]
  exact if_pos parked

theorem overtakes_of_connected (tickets : f'.tickets = f.tickets)
    (connected : f.connections < f'.connections) : f.overtakes f' overtaken = false := by
  unfold overtakes
  split
  · rw [tickets, if_neg (Nat.lt_irrefl _), if_pos connected]
  · rfl

theorem overtakes_of_same {m : Message} (passed : f.handling = some (m, .passed))
    (tickets : f'.tickets = f.tickets) (connections : f'.connections = f.connections) :
    f.overtakes f' overtaken = overtaken := by
  simp [overtakes, passed, tickets, connections]

end Overtakes

/-- The handler, the link and the writing end fit together until the race is decided. -/
structure Tracked (overtaken : Bool) : Prop where
  dialing : ∀ t, f.holder = .handler t → ∃ m, f.handling = some (m, .arrived)
  connected : f.stage = .running → f.holder = .nobody → f.link = .connected →
    f.writer = some (f.connections - 1)
  /-- The handler that found the link connected finds the latest connection, unless the pump has
  parked. -/
  passed : ∀ m, f.handling = some (m, .passed) → f.stage = .running →
    f.writer = if overtaken then none else some (f.connections - 1)

theorem tracked_start (addr : String) (rate : SendRate) : (start addr rate).Tracked false where
  dialing := nofun
  connected := nofun
  passed := nofun

namespace Tracked

variable {f} {f' : Forward} {overtaken : Bool}

/-- Another connection is made. -/
theorem of_connected (elsewhere : ∀ t, f'.holder ≠ .handler t)
    (writer : f'.writer = some (f'.connections - 1)) (tickets : f'.tickets = f.tickets)
    (connections : f.connections < f'.connections) :
    f'.Tracked (f.overtakes f' overtaken) where
  dialing t held := absurd held (elsewhere t)
  connected _ _ _ := writer
  passed _ _ _ := by rw [overtakes_of_connected tickets connections, writer]; rfl

/-- The pump parks. -/
theorem of_parked (free : f'.holder = .nobody) {t : Nat} (link : f'.link = .awaiting t)
    (writer : f'.writer = none) (tickets : f.tickets < f'.tickets)
    (handling : f'.handling = f.handling) : f'.Tracked (f.overtakes f' overtaken) where
  dialing t held := absurd (free.symm.trans held) nofun
  connected _ _ connected := absurd (link.symm.trans connected) nofun
  passed m passed _ := by rw [overtakes_of_parked (handling ▸ passed) tickets, writer]; rfl

theorem redial (m : Message) (ticket : Nat) (answer : Except String Unit) :
    (f.redial m ticket answer).1.Tracked (f.overtakes (f.redial m ticket answer).1 overtaken) := by
  cases answer with
  | ok => exact of_connected nofun rfl rfl (Nat.lt_succ_self _)
  | error reason => exact ⟨nofun, fun _ _ => nofun, nofun⟩

/-- The race is decided, or has not begun. -/
theorem of_off (off : f'.stage ≠ .running)
    (dialing : ∀ t, f'.holder = .handler t → ∃ m, f'.handling = some (m, .arrived)) :
    f'.Tracked overtaken where
  dialing := dialing
  connected running := absurd running off
  passed _ _ running := absurd running off

variable (h : f.Tracked overtaken)

include h

theorem same (handling : f'.handling = f.handling) (holder : f'.holder = f.holder)
    (link : f'.link = f.link) (writer : f'.writer = f.writer)
    (connections : f'.connections = f.connections) (tickets : f'.tickets = f.tickets)
    (stage : f'.stage = f.stage) : f'.Tracked (f.overtakes f' overtaken) where
  dialing := by
    rw [holder, handling]
    exact h.dialing
  connected := by
    rw [stage, holder, link, writer, connections]
    exact h.connected
  passed := by
    rw [handling, stage, writer, connections]
    intro m passed running
    rw [overtakes_of_same passed tickets connections]
    exact h.passed m passed running

theorem not_dialing {m : Message} (handling : f.handling = some (m, .passed)) (t : Nat) :
    f.holder ≠ .handler t := by
  intro held
  obtain ⟨m', arrived⟩ := h.dialing t held
  cases handling.symm.trans arrived

theorem check (free : f.holder = .nobody) {m : Message}
    (handling : f.handling = some (m, .arrived)) :
    (f.check m).1.Tracked (f.overtakes (f.check m).1 overtaken) := by
  have fresh (f' : Forward) : f.overtakes f' overtaken = false := by simp [overtakes, handling]
  unfold Forward.check
  split
  · exact ⟨fun t held => absurd (free.symm.trans held) nofun, h.connected, nofun⟩
  · next link =>
    refine ⟨fun t held => absurd (free.symm.trans held) nofun, h.connected, fun _ _ running => ?_⟩
    rw [fresh]
    exact h.connected running free link
  · exact ⟨fun t _ => ⟨m, handling⟩, fun _ => nofun,
      fun m' passed => nomatch handling.symm.trans passed⟩

theorem apply {m : Message} (handling : f.handling = some (m, .passed))
    (answer : Except String Unit) :
    (f.apply m answer).1.Tracked (f.overtakes (f.apply m answer).1 overtaken) := by
  have elsewhere (t : Nat) (held : f.holder = .handler t) : False := h.not_dialing handling t held
  unfold Forward.apply
  split
  · split
    · exact ⟨fun t held => (elsewhere t held).elim, h.connected, nofun⟩
    · exact ⟨fun t held => (elsewhere t held).elim, h.connected, nofun⟩
  · exact ⟨fun t held => (elsewhere t held).elim, h.connected, nofun⟩
  · exact ⟨fun t held => (elsewhere t held).elim, h.connected, nofun⟩

theorem stepPump (p : Pump) (e : Pump.Event) :
    (f.stepPump p e).1.Tracked (f.overtakes (f.stepPump p e).1 overtaken) := by
  have stays := h.same rfl rfl rfl rfl rfl rfl rfl
  unfold Forward.stepPump
  split
  · split
    · next parks => exact of_parked parks.2 rfl rfl (Nat.lt_succ_self _) rfl
    · exact stays
  · split
    · exact h.same rfl rfl rfl rfl rfl rfl rfl
    · exact stays
  · exact h.same rfl rfl rfl rfl rfl rfl rfl

theorem reap (decided : f.stage.isDecided = true) (p : Pump) (parking : Bool) :
    (f.reap p parking).Tracked (f.overtakes (f.reap p parking) overtaken) := by
  unfold Forward.reap
  split
  · exact of_off (Stage.ne_running decided) h.dialing
  · exact of_off (Stage.ne_running decided) h.dialing

theorem step (e : Event) :
    (f.step e).1.Tracked (f.overtakes (f.step e).1 overtaken) := by
  have stays := h.same rfl rfl rfl rfl rfl rfl rfl
  cases e with
  | started flag =>
    simp only [Forward.step]
    split
    · exact of_off (by simp) (by simp)
    · exact of_off (by simp) (by simp)
    · exact stays
  | dialed answer =>
    simp only [Forward.step]
    split
    · exact of_connected (by simp) rfl rfl (Nat.lt_succ_self _)
    · exact of_off (by simp) (by simp)
    · exact stays
  | arrived m =>
    simp only [Forward.step]
    split
    · exact ⟨fun _ _ => ⟨m, rfl⟩, h.connected, by simp⟩
    · exact stays
  | checked =>
    simp only [Forward.step]
    split
    · next handling free => exact h.check free handling
    · exact stays
  | redialed answer =>
    simp only [Forward.step]
    split
    · exact redial _ _ answer
    · exact stays
  | applied answer =>
    simp only [Forward.step]
    split
    · next handling => exact h.apply handling answer
    · exact stays
  | pump e =>
    simp only [Forward.step]
    split
    · exact h.stepPump _ e
    · exact stays
  | cancelled next => exact h.same rfl rfl rfl rfl rfl rfl rfl
  | looked flagFirst =>
    simp only [Forward.step]
    split
    · split
      · exact of_off (by simp) h.dialing
      · exact stays
    · exact stays
  | reaped parking =>
    simp only [Forward.step]
    split
    · next p decided _ => exact h.reap decided p parking
    · exact stays
  | unlinked =>
    simp only [Forward.step]
    split
    · exact of_off (by simp) h.dialing
    · exact stays
  | stopped =>
    simp only [Forward.step]
    split
    · exact of_off (by simp) h.dialing
    · exact stays

end Tracked

/-- How a handler returns. -/
inductive Returns : Event → Fate → Prop where
  | ignored : f.link = .idle → Returns .checked .ignored
  | failed (reason : String) (why : Causes) : Returns (.redialed (.error reason)) (.failed why)
  | lost {m : Message} {answer : Except String Unit} : f.handling = some (m, .passed) →
      f.writer = none → Returns (.applied answer) .lost
  | written {m : Message} {answer : Except String Unit} {connection : Nat}
      (r : Except Causes Unit) : f.handling = some (m, .passed) → f.writer = some connection →
      Returns (.applied answer) (.written connection r)
  | aside {m : Message} {answer : Except String Unit} : f.handling = some (m, .passed) →
      m.kind ≠ .input → Returns (.applied answer) .ignored

section Returns

variable {f} {fate : Fate}

theorem returns_of_check {m : Message} (finished : fate? (f.check m).2 = some fate) :
    f.Returns .checked fate := by
  unfold check at finished
  split at finished
  · next idle =>
    cases finished
    exact .ignored idle
  · cases finished
  · cases finished

theorem returns_of_apply {m : Message} (handling : f.handling = some (m, .passed))
    {answer : Except String Unit} (finished : fate? (f.apply m answer).2 = some fate) :
    f.Returns (.applied answer) fate := by
  unfold apply at finished
  split at finished
  · split at finished
    · next writer =>
      cases finished
      exact .lost handling writer
    · next writer =>
      cases finished
      exact .written _ handling writer
  · next status =>
    cases finished
    exact .aside handling (by simp [status])
  · next other _ =>
    cases finished
    exact .aside handling other

theorem unfinished_stepPump (p : Pump) (e : Pump.Event) : fate? (f.stepPump p e).2 = none := by
  unfold stepPump
  split
  · split <;> rfl
  · split <;> rfl
  · exact fate?_sent _

theorem returns_of_step {e : Event} (finished : fate? (f.step e).2 = some fate) :
    f.Returns e fate := by
  cases e with
  | checked =>
    simp only [step] at finished
    split at finished
    · exact returns_of_check finished
    · cases finished
  | redialed answer =>
    simp only [step] at finished
    split at finished
    · cases answer with
      | ok => cases finished
      | error reason =>
        cases finished
        exact .failed reason _
    · cases finished
  | applied answer =>
    simp only [step] at finished
    split at finished
    · next handling => exact returns_of_apply handling finished
    · cases finished
  | pump e =>
    simp only [step] at finished
    split at finished
    · rw [unfinished_stepPump] at finished
      cases finished
    · cases finished
  | looked flagFirst =>
    simp only [step] at finished
    split at finished
    · split at finished <;> cases finished
    · cases finished
  | cancelled next => cases finished
  | started | dialed | arrived | reaped | unlinked | stopped =>
    simp only [step] at finished
    split at finished <;> cases finished

end Returns

/-- What may become of a payload while there is a link. -/
inductive Delivery.Bridged (d : Delivery) : Prop where
  | written (r : Except Causes Unit) : d.overtaken = false →
      d.fate = .written (d.connections - 1) r → Bridged d
  | failed (why : Causes) : d.fate = .failed why → Bridged d
  | lost : d.overtaken = true → d.fate = .lost → Bridged d

theorem mem_deliver {f : Forward} {overtaken : Bool} {seen : List Effect} {d : Delivery}
    (mem : d ∈ f.deliver overtaken seen) :
    ∃ fate m h, fate? seen = some fate ∧ f.handling = some (m, h) ∧ m.kind = .input ∧
      d = ⟨m.payload, fate, overtaken, f.linked, f.connections⟩ := by
  unfold deliver at mem
  split at mem
  · next fate finished =>
    obtain ⟨payload, waits, rfl⟩ := List.mem_map.mp mem
    unfold pending at waits
    split at waits
    · next m h handling =>
      split at waits
      · next input =>
        rw [List.mem_singleton.mp waits]
        exact ⟨fate, m, h, finished, handling, input, rfl⟩
      · cases waits
    · cases waits
  · cases mem

theorem Tracked.bridged {f : Forward} {overtaken : Bool} (h : f.Tracked overtaken)
    (linked : f.linked = true) {e : Event} {d : Delivery}
    (mem : d ∈ f.deliver overtaken (f.step e).2) : d.Bridged := by
  obtain ⟨fate, m, stage, finished, handling, input, rfl⟩ := mem_deliver mem
  have ⟨running, link⟩ : f.stage = .running ∧ f.link ≠ .idle := of_decide_eq_true linked
  cases returns_of_step finished with
  | ignored idle => exact absurd idle link
  | failed reason why => exact .failed why rfl
  | lost passed none =>
    have writer := h.passed _ passed running
    rw [none] at writer
    cases overtaken with
    | true => exact .lost rfl rfl
    | false => cases writer
  | written r passed some =>
    have writer := h.passed _ passed running
    rw [some] at writer
    cases overtaken with
    | true => cases writer
    | false =>
      cases writer
      exact .written r rfl rfl
  | aside passed other =>
    cases handling.symm.trans passed
    exact absurd input other

theorem Tracked.run {f : Forward} {overtaken : Bool} (h : f.Tracked overtaken)
    (es : List Event) : ∀ d ∈ f.deliveries overtaken es, d.linked = true → d.Bridged := by
  induction es generalizing f overtaken with
  | nil => nofun
  | cons e es ih =>
    intro d mem linked
    rcases List.mem_append.mp mem with now | later
    · have here : d.linked = f.linked := by
        obtain ⟨_, _, _, -, -, -, rfl⟩ := mem_deliver now
        rfl
      exact h.bridged (here.symm.trans linked) now
    · exact ih (h.step e) d later linked

/-- Whatever comes in between, each payload that the handler gets has one fate, in the order in
which they came, and connections are handed those that are written and no others. While there is
a link, a payload goes to the latest connection or its handler fails; it is lost, and the handler
says that all is well, if the pump has parked since the handler found the link connected. -/
theorem input_delivered (addr : String) (rate : SendRate) (es : List Event) :
    let r := (start addr rate).run es
    let ds := (start addr rate).deliveries false es
    (start addr rate).inputs es = ds.map Delivery.payload ++ r.1.pending ∧
      writes r.2 = ds.filterMap Delivery.write? ∧
      ∀ d ∈ ds, d.linked = true → d.Bridged := by
  intro r ds
  obtain ⟨conserved, written⟩ := (start addr rate).run_accounts false es
  exact ⟨conserved, written, (tracked_start addr rate).run es⟩

def keystroke (byte : UInt8) : Message :=
  { resize with kind := .input, payload := [byte] }

/-- Three frames, and the pump parks while the handler of the second is between its look at the
link and its write. -/
def threeKeystrokes : List Event :=
  [.started .running, .dialed (.ok ()), .pump (.looked true),
    .arrived (keystroke 1), .checked, .applied (.ok ()),
    .arrived (keystroke 2), .checked, .pump (.read []), .pump .parked, .applied (.ok ()),
    .arrived (keystroke 3), .checked, .redialed (.ok ()), .applied (.ok ())]

theorem threeKeystrokes_delivered :
    let r := (start "localhost:22" .standard).run threeKeystrokes
    let ds := (start "localhost:22" .standard).deliveries false threeKeystrokes
    ds.map Delivery.payload ++ r.1.pending = [[1], [2], [3]] ∧
      ds.filterMap Delivery.write? = [(0, [1]), (1, [3])] ∧
      ∃ d ∈ ds, d.payload = [3] ∧ d.linked = true ∧ d.Bridged := by
  intro r ds
  obtain ⟨given, written, bridged⟩ := input_delivered "localhost:22" .standard threeKeystrokes
  have third : (⟨[3], .written 1 (.ok ()), false, true, 2⟩ : Delivery) ∈ ds :=
    List.mem_of_getElem? (i := 2) rfl
  exact ⟨given.symm, written.symm, _, third, rfl, rfl, bridged _ third rfl⟩

/-- The second payload goes nowhere, while the plugin runs and the pump waits for a redial, and
its handler says that all is well. -/
theorem overtaken_lost :
    let f := ((start "localhost:22" .standard).run (threeKeystrokes.take 10)).1
    f.stage = .running ∧ f.link = .awaiting 0 ∧ f.pending = [[2]] ∧
      (f.step (.applied (.ok ()))).2 = [.dropped [2], .handled (.ok ())] ∧
      ∀ connection, (connection, [2]) ∉
        writes ((start "localhost:22" .standard).run threeKeystrokes).2 := by
  refine ⟨rfl, rfl, rfl, rfl, fun connection mem => ?_⟩
  have written : writes ((start "localhost:22" .standard).run threeKeystrokes).2 =
      [(0, [1]), (1, [3])] := rfl
  rw [written] at mem
  simp at mem

end Tether.Port.Forward
