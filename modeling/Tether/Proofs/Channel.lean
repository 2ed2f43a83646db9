import Mathlib.Data.List.Induction
import Tether.Proofs.Lists
import Tether.Socket.Channel

/-! A socket channel through any sequence of calls. Whether it is open and which connection it
uses are kept in two places, and both follow the last opening that succeeded. At any time only the
loops of that connection go on. -/

namespace Tether.Socket

open Text

/-! ### Requests -/

/-- A request with these extra headers can be made. -/
def Config.Allows (config : Config) (extra : Headers) : Prop :=
  config.isDialable = true ∧ Header.isValue config.userAgent = true ∧
    ∀ header ∈ extra, Header.isName header.1 = true ∧ Header.isValue header.2 = true

theorem Request.isSome_setAll (r : Request) (extra : Headers) :
    (r.setAll extra).isSome = true ↔
      ∀ header ∈ extra, Header.isName header.1 = true ∧ Header.isValue header.2 = true := by
  induction extra generalizing r with
  | nil => simp [setAll]
  | cons header extra ih =>
    rw [setAll, List.forall_mem_cons, ← Bool.and_eq_true]
    split
    · next fine => rw [ih, and_iff_right fine]
    · next bad => simp [bad]

theorem Request.isSome_build? (config : Config) (extra : Headers) :
    (build? config extra).isSome = true ↔ config.Allows extra := by
  unfold build? Config.Allows Config.isDialable
  cases Url.Parts.ofText? config.url with
  | none => simp
  | some parts =>
    rw [Option.bind_some]
    split
    · next value => simp only [isSome_setAll, Option.isSome_some, value, true_and]
    · next bad => simp [bad]

namespace Channel

theorem Call.connects_opens {config : Config} {extra : Headers} {refusal : String}
    {dial : Except String Unit} :
    (Call.opens extra refusal dial).connects config = true ↔
      config.Allows extra ∧ dial = .ok () := by
  cases dial with
  | ok => rw [connects, Request.isSome_build?, and_iff_left rfl]
  | error reason => simp [connects]

/-! ### Opening -/

theorem openWith_ok {config : Config} {extra : Headers} {refusal : String} (c : Channel)
    {request : Request} (built : Request.build? config extra = some request) :
    c.openWith config extra refusal (.ok ()) =
      (.ok (), c.connect, [.handshake c.connections request]) := by
  simp only [openWith, built]

theorem openWith_error {config : Config} {extra : Headers} {dial : Except String Unit}
    (c : Channel) (refusal : String) (failing : ¬ (config.Allows extra ∧ dial = .ok ())) :
    ∃ reason, (reason = refusal ∨ dial = .error reason) ∧
      c.openWith config extra refusal dial = (.error (.connect config.url reason), c, []) := by
  rw [← Request.isSome_build?] at failing
  unfold openWith
  cases built : Request.build? config extra with
  | none => exact ⟨refusal, .inl rfl, rfl⟩
  | some request =>
    cases dial with
    | error reason => exact ⟨reason, .inr rfl, rfl⟩
    | ok => exact absurd ⟨by rw [built]; rfl, rfl⟩ failing

/-! ### The connection in use -/

variable {config : Config} {calls : List Call} {c : Channel}

theorem inUse_concat {call : Call} {k : Nat} :
    InUse config (calls ++ [call]) k ↔
      call.connects config = true ∧ calls.countP (Call.connects config) = k ∨
      (call.connects config = false ∧ call.isClose = false) ∧ InUse config calls k := by
  constructor
  · rintro ⟨before, last, after, split, connects, count, quiet⟩
    -- The last call is the opening itself, or one after it.
    rcases concat_eq_append_cons_iff.mp split with ⟨rfl, rfl, rfl⟩ | ⟨rest, rfl, eq⟩
    · exact .inl ⟨connects, count⟩
    · rw [List.forall_mem_append, List.forall_mem_singleton] at quiet
      exact .inr ⟨quiet.2, before, last, rest, eq, connects, count, quiet.1⟩
  · rintro (⟨connects, count⟩ | ⟨quiet, before, last, after, rfl, connects, count, before_quiet⟩)
    · exact ⟨calls, call, [], rfl, connects, count, nofun⟩
    · refine ⟨before, last, after ++ [call], by simp, connects, count, ?_⟩
      rw [List.forall_mem_append, List.forall_mem_singleton]
      exact ⟨before_quiet, quiet⟩

theorem InUse.lt_countP {k : Nat} (used : InUse config calls k) :
    k < calls.countP (Call.connects config) := by
  obtain ⟨before, last, after, rfl, connects, rfl, -⟩ := used
  rw [List.countP_append, List.countP_cons, if_pos connects]
  omega

/-- What holds of a channel after the calls, while every ping succeeds. -/
structure Follows (config : Config) (calls : List Call) (c : Channel) : Prop where
  made : c.connections = calls.countP (Call.connects config)
  active : c.active = c.connection.isSome
  loops : c.loops = c.connection.toList
  inUse : ∀ k, c.connection = some k ↔ InUse config calls k

theorem follows_closed (config : Config) : Follows config [] closed where
  made := rfl
  active := rfl
  loops := rfl
  inUse k := by simp [closed, InUse]

namespace Follows

variable (h : Follows config calls c)

include h

theorem quiet {call : Call} (stays : call.connects config = false) (on : call.isClose = false) :
    Follows config (calls ++ [call]) c where
  made := by simp [h.made, stays]
  active := h.active
  loops := h.loops
  inUse k := by rw [h.inUse, inUse_concat]; simp [stays, on]

theorem connect_eq :
    c.connect = ⟨true, some c.connections, c.connections + 1, [c.connections]⟩ := by
  rw [Channel.connect, h.loops]
  cases c.connection <;> simp

theorem connect {call : Call} (connects : call.connects config = true) :
    Follows config (calls ++ [call]) c.connect := by
  rw [h.connect_eq]
  exact ⟨by simp [h.made, connects], rfl, rfl, fun k => by
    rw [inUse_concat]; simp [h.made, connects]⟩

theorem inactive (none : c.connection = none) : c.active = false := by rw [h.active, none]; rfl

theorem isActive {k : Nat} (used : c.connection = some k) : c.active = true := by
  rw [h.active, used]; rfl

theorem close (answer : Farewell) :
    c.close answer = match c.connection with
      | none => (.ok (), c, [])
      | some k =>
        (answer.answer, { c with active := false, connection := none, loops := [] },
          [.goodbye k]) := by
  unfold Channel.close
  cases used : c.connection with
  | none => rw [h.inactive used]; rfl
  | some k =>
    rw [h.isActive used, h.loops, used]
    simp

theorem closed (answer : Farewell) :
    Follows config (calls ++ [.closes answer]) (c.close answer).2.1 := by
  have none : ∀ k, ¬ InUse config (calls ++ [.closes answer]) k := fun k => by
    rw [inUse_concat]; simp [Call.connects, Call.isClose]
  rw [h.close]
  split
  · next unused =>
    exact ⟨by simp [h.made, Call.connects], h.active, h.loops, fun k => by simp [none k, unused]⟩
  · exact ⟨by simp [h.made, Call.connects], rfl, rfl, fun k => by simp [none k]⟩

theorem opens (extra : Headers) (refusal : String) (dial : Except String Unit) :
    Follows config (calls ++ [.opens extra refusal dial])
      (c.openWith config extra refusal dial).2.1 := by
  cases connects : (Call.opens extra refusal dial).connects config with
  | true =>
    obtain ⟨allowed, rfl⟩ := Call.connects_opens.mp connects
    obtain ⟨request, built⟩ := Option.isSome_iff_exists.mp
      ((Request.isSome_build? config extra).mpr allowed)
    rw [openWith_ok c built]
    exact h.connect connects
  | false =>
    have refused : ¬ (config.Allows extra ∧ dial = .ok ()) :=
      mt Call.connects_opens.mpr (Bool.eq_false_iff.mp connects)
    obtain ⟨reason, -, unchanged⟩ := openWith_error c refusal refused
    rw [unchanged]
    exact h.quiet connects rfl

theorem pings (loop : Nat) (closing : Farewell) : (c.ping loop (.ok ()) closing).2.1 = c := by
  unfold ping
  split
  · next going =>
    rw [h.loops, Option.mem_toList] at going
    simp [write, going, Except.mapError]
  · rfl

theorem step {call : Call}
    (healthy : ∀ loop reason closing, call ≠ .pings loop (.error reason) closing) :
    Follows config (calls ++ [call]) (c.step config call).2.1 := by
  cases call with
  | opens extra refusal dial => exact h.opens extra refusal dial
  | closes answer => exact h.closed answer
  | sends data answer =>
    have unchanged : (c.send data answer).2.1 = c := by
      unfold send
      split_ifs <;> rfl
    rw [Channel.step, unchanged]
    exact h.quiet rfl rfl
  | pings loop answer closing =>
    cases answer with
    | error reason => exact absurd rfl (healthy loop reason closing)
    | ok =>
      rw [Channel.step, h.pings]
      exact h.quiet rfl rfl

end Follows

theorem follows (config : Config) (calls : List Call)
    (healthy : ∀ loop reason closing, .pings loop (.error reason) closing ∉ calls) :
    Follows config calls (closed.run config calls).1 := by
  induction calls using List.reverseRecOn with
  | nil => exact follows_closed config
  | append_singleton calls call ih =>
    rw [run_append]
    refine (ih fun loop reason closing failed =>
      healthy loop reason closing (List.mem_append_left _ failed)).step ?_
    rintro loop reason closing rfl
    exact healthy loop reason closing (List.mem_append_right _ List.mem_cons_self)

/-- The channel after any calls, while pings succeed. It is open exactly while a connection is
held, and that is the one of the last successful opening not followed by a close; only its loops
go on. From there, each call does what it is for. -/
theorem channel_exact (config : Config) (calls : List Call)
    (healthy : ∀ loop reason closing, .pings loop (.error reason) closing ∉ calls) :
    let c := (closed.run config calls).1
    ((c.active = true ↔ ∃ k, InUse config calls k) ∧
      (∀ k, c.connection = some k ↔ InUse config calls k) ∧
      ∀ k, k ∈ c.loops ↔ InUse config calls k) ∧
    (∀ extra refusal dial, ¬ (config.Allows extra ∧ dial = .ok ()) →
      ∃ reason, (reason = refusal ∨ dial = .error reason) ∧
        c.step config (.opens extra refusal dial) =
          (.error (.connect config.url reason), c, [])) ∧
    (∀ extra refusal, config.Allows extra →
      ∃ request, Request.build? config extra = some request ∧
        c.step config (.opens extra refusal (.ok ())) =
          (.ok (), ⟨true, some c.connections, c.connections + 1, [c.connections]⟩,
            [.handshake c.connections request]) ∧
        ∀ k, InUse config calls k → k < c.connections) ∧
    (∀ data answer,
      ((¬ ∃ k, InUse config calls k) →
        c.step config (.sends data answer) = (.error .closed, c, [])) ∧
      ∀ k, InUse config calls k → c.step config (.sends data answer) =
        if data = [] then (.error .emptyInput, c, [])
        else (answer.mapError .send, c, [.data k data])) ∧
    ∀ answer,
      ((¬ ∃ k, InUse config calls k) → c.step config (.closes answer) = (.ok (), c, [])) ∧
      ∀ k, InUse config calls k → c.step config (.closes answer) =
        (answer.answer, ⟨false, none, c.connections, []⟩, [.goodbye k]) := by
  intro c
  have h : Follows config calls c := follows config calls healthy
  have unused : (¬ ∃ k, InUse config calls k) → c.connection = none := fun none =>
    Option.eq_none_iff_forall_ne_some.mpr fun k used => none ⟨k, (h.inUse k).mp used⟩
  refine ⟨⟨?_, h.inUse, fun k => ?_⟩, fun extra refusal dial => openWith_error c refusal,
    fun extra refusal allowed => ?_, fun data answer => ⟨fun none => ?_, fun k used => ?_⟩,
    fun answer => ⟨fun none => ?_, fun k used => ?_⟩⟩
  · simp only [h.active, Option.isSome_iff_exists, h.inUse]
  · rw [h.loops, Option.mem_toList, h.inUse]
  · obtain ⟨request, built⟩ := Option.isSome_iff_exists.mp
      ((Request.isSome_build? config extra).mpr allowed)
    refine ⟨request, built, ?_, fun k used => h.made ▸ used.lt_countP⟩
    rw [step, openWith_ok c built, h.connect_eq]
  · rw [step, send, if_pos (by simp [h.inactive (unused none)])]
  · have holds := (h.inUse k).mpr used
    rw [step, send, if_neg (by simp [h.isActive holds])]
    simp only [write, holds]
  · rw [step, h.close, unused none]
  · rw [step, h.close, (h.inUse k).mpr used]

/-- An address on the machine itself. -/
def nearby : Config := ⟨"ws://h", "agent", .ofSeconds 30, 5⟩

/-- Opened, and opened again over the connection in use after two openings that failed. -/
def reopened : List Call :=
  [.opens [] "" (.ok ()), .pings 0 (.ok ()) .done, .opens [("a b", "1")] "invalid name" (.ok ()),
    .opens [] "" (.error "refused"), .opens [("a", "1")] "" (.ok ()), .pings 0 (.ok ()) .done]

/-- The second connection is in use, and the loops of the first have been told to end. What is
sent goes to the second; a close lets go of it, and the next one has nothing to do. -/
theorem reopened_exact :
    let c := (closed.run nearby reopened).1
    let c' := (closed.run nearby (reopened ++ [.closes .done])).1
    (∀ loop reason closing, .pings loop (.error reason) closing ∉ reopened) ∧
      c.active = true ∧ c.connection = some 1 ∧ c.loops = [1] ∧
      c.step nearby (.sends [7] (.ok ())) = (.ok (), c, [.data 1 [7]]) ∧
      c'.step nearby (.sends [] (.ok ())) = (.error .closed, c', []) ∧
      c'.step nearby (.closes .done) = (.ok (), c', []) := by
  intro c c'
  have healthy : ∀ loop reason closing, .pings loop (.error reason) closing ∉ reopened := by
    simp [reopened]
  have healthy' : ∀ loop reason closing,
      .pings loop (.error reason) closing ∉ reopened ++ [.closes .done] := by
    simp [reopened]
  obtain ⟨⟨opened, used, -⟩, -, -, sends, -⟩ := channel_exact nearby reopened healthy
  obtain ⟨⟨-, used', -⟩, -, -, sends', closes'⟩ := channel_exact nearby _ healthy'
  have second : InUse nearby reopened 1 := (used 1).mp (by decide +kernel)
  have none : ¬ ∃ k, InUse nearby (reopened ++ [.closes .done]) k := by
    rintro ⟨k, released⟩
    have gone : c'.connection = none := by decide +kernel
    have held : c'.connection = some k := (used' k).mpr released
    rw [gone] at held
    cases held
  exact ⟨healthy, opened.mpr ⟨1, second⟩, (used 1).mpr second, by decide +kernel,
    (sends [7] (.ok ())).2 1 second, (sends' [] (.ok ())).1 none, (closes' .done).1 none⟩

end Channel

end Tether.Socket
