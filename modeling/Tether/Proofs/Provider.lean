import Tether.Proofs.Lists
import Tether.Proofs.Transcript

/-! Chains of providers, nested to any depth, under any calls. Only the outermost chain can be made
to forget, so it holds what it found since; a chain inside it holds what it has once found. -/

namespace Tether.Provider

variable {α : Type}

theorem after_concat (p : Provider α) (cs : List Call) (c : Call) :
    p.after (cs ++ [c]) = (p.after cs).step c := by
  rw [after, List.foldl_append]
  rfl

theorem at?_invalidate (p : Provider α) {path : List Nat} (inner : path ≠ []) :
    p.invalidate.at? path = p.at? path := by
  match p, path with
  | source _ _ _, _ | constant _, _ => rfl
  | chain _ _, _ :: _ => rfl

theorem isChain_at?_step {p : Provider α} {path : List Nat} (c : Call)
    (isChain : (p.at? path).any isChain) : ((p.step c).at? path).any Provider.isChain := by
  cases c with
  | resolve => exact isChain_at?_resolve isChain
  | invalidate =>
    cases path with
    | nil =>
      match p with
      | source _ _ _ | constant _ => exact isChain
      | chain _ _ => rfl
    | cons k path => rwa [step, at?_invalidate p (List.cons_ne_nil k path)]

theorem stays_step {p : Provider α} {path : List Nat} {v : α} {ps : List (Provider α)} (c : Call)
    (inner : path ≠ []) (holds : p.at? path = some (chain (some v) ps)) :
    (p.step c).at? path = some (chain (some v) ps) ∧
      ∀ r ∈ p.heard c, path <+: r.path → r = ⟨path, some v⟩ := by
  cases c with
  | resolve => exact stays holds
  | invalidate => exact ⟨(at?_invalidate p inner).trans holds, nofun⟩

theorem stays_record {p : Provider α} {path : List Nat} {v : α} {ps : List (Provider α)}
    (inner : path ≠ []) (holds : p.at? path = some (chain (some v) ps)) (cs : List Call) :
    ∀ r ∈ p.record cs, path <+: r.path → r = ⟨path, some v⟩ := by
  induction cs generalizing p with
  | nil => nofun
  | cons c cs ih =>
    obtain ⟨kept, said⟩ := stays_step c inner holds
    intro r mem
    rcases List.mem_append.mp mem with now | later
    · exact said r now
    · exact ih kept r later

/-- When a chain inside has found a value, nothing else is heard from there ever after. -/
theorem record_pairwise (p : Provider α) (cs : List Call) :
    (p.record cs).Pairwise fun r r' =>
      r.path ≠ [] → (p.at? r.path).any isChain → r.value.isSome → r.path <+: r'.path → r' = r := by
  induction cs generalizing p with
  | nil => exact List.Pairwise.nil
  | cons c cs ih =>
    rw [record, List.pairwise_append]
    refine ⟨?_, ?_, ?_⟩
    · cases c with
      | resolve =>
        exact (transcript_pairwise p).imp fun apart _ _ _ below => absurd below apart
      | invalidate => exact List.Pairwise.nil
    · exact (ih (p.step c)).imp fun settled inner isChain =>
        settled inner (isChain_at?_step c isChain)
    · intro r mem r' later inner isChain found
      obtain ⟨path, value⟩ := r
      obtain ⟨v, rfl⟩ := Option.isSome_iff_exists.mp found
      cases c with
      | resolve =>
        obtain ⟨ps, holds⟩ := holds_of_reply isChain mem
        exact stays_record inner holds cs r' later
      | invalidate => cases mem

/-- A source gives one answer after another, each time it is heard. -/
theorem source_after {p : Provider α} {path : List Nat} {name : String}
    {answer : Nat → Option α} {calls : Nat} (here : p.at? path = some (source name answer calls))
    (cs : List Call) :
    ∃ k, (p.after cs).at? path = some (source name answer (calls + k)) ∧
      answersOf path (p.record cs) = (List.range' calls k).map answer := by
  induction cs generalizing p calls with
  | nil => exact ⟨0, here, rfl⟩
  | cons c cs ih =>
    have first : ∃ k, (p.step c).at? path = some (source name answer (calls + k)) ∧
        answersOf path (p.heard c) = (List.range' calls k).map answer := by
      cases c with
      | resolve => exact source_resolve here
      | invalidate =>
        refine ⟨0, ?_, rfl⟩
        cases path with
        | nil =>
          cases Option.some.inj here
          rfl
        | cons k path => exact (at?_invalidate p (List.cons_ne_nil k path)).trans here
    obtain ⟨n, next, now⟩ := first
    obtain ⟨m, last, later⟩ := ih next
    refine ⟨n + m, by rw [← Nat.add_assoc]; exact last, ?_⟩
    rw [record, answersOf_append, now, later, ← List.map_append, List.range'_append_1]

/-- What the outermost chain is like after some calls. -/
theorem after_chain (cached : Option α) (ps : List (Provider α)) (cs : List Call) :
    ∃ qs, (chain cached ps).after cs = chain ((chain cached ps).after cs).held qs ∧
      qs.length = ps.length := by
  induction cs using List.reverseRecOn with
  | nil => exact ⟨ps, rfl, rfl⟩
  | append_singleton cs c ih =>
    obtain ⟨qs, eq, length⟩ := ih
    rw [after_concat, eq]
    cases c with
    | invalidate => exact ⟨qs, rfl, length⟩
    | resolve =>
      cases ((chain cached ps).after cs).held with
      | some v => exact ⟨qs, rfl, length⟩
      | none =>
        refine ⟨(resolveFirst qs).2, rfl, ?_⟩
        rw [resolveFirst_eq, asked, List.length_append, List.length_map, List.length_drop,
          List.length_take]
        omega

theorem held_resolve {p : Provider α} (isChain : p.isChain = true) :
    (resolve p).2.held = (resolve p).1 := by
  match p with
  | chain (some _) _ | chain none _ => rfl

theorem resolve_of_held {p : Provider α} {v : α} (holds : p.held = some v) :
    resolve p = (some v, p) ∧ p.transcript = [⟨[], some v⟩] := by
  match p with
  | chain (some _) _ =>
    cases holds
    exact ⟨rfl, rfl⟩

/-- The outermost chain holds what it found last, unless it was told to forget it. -/
theorem held_after_iff (ps : List (Provider α)) (cs : List Call) (v : α) :
    ((ofList ps).after cs).held = some v ↔
      ∃ before between, cs = before ++ .resolve :: between ∧ .invalidate ∉ between ∧
        (resolve ((ofList ps).after before)).1 = some v := by
  induction cs using List.reverseRecOn with
  | nil =>
    refine ⟨nofun, ?_⟩
    rintro ⟨before, between, eq, -⟩
    exact absurd eq.symm (List.append_ne_nil_of_right_ne_nil _ (List.cons_ne_nil _ _))
  | append_singleton cs c ih =>
    obtain ⟨qs, shape, -⟩ := after_chain none ps cs
    have isChain : ((ofList ps).after cs).isChain = true := by
      rw [ofList, shape]
      rfl
    rw [after_concat]
    simp only [concat_eq_append_cons_iff]
    cases c with
    | invalidate =>
      rw [step, ofList, shape]
      refine ⟨nofun, ?_⟩
      rintro ⟨before, between, ⟨-, other, -⟩ | ⟨rest, rfl, -⟩, kept, -⟩
      · cases other
      · exact absurd (List.mem_append_right _ (List.mem_singleton.mpr rfl)) kept
    | resolve =>
      rw [step, held_resolve isChain]
      constructor
      · intro found
        cases holds : ((ofList ps).after cs).held with
        | none => exact ⟨cs, [], .inl ⟨rfl, rfl, rfl⟩, List.not_mem_nil, found⟩
        | some w =>
          rw [(resolve_of_held holds).1] at found
          obtain ⟨before, rest, eq, kept, found⟩ := ih.mp (holds.trans found)
          exact ⟨before, rest ++ [.resolve], .inr ⟨rest, rfl, eq⟩, by simpa using kept, found⟩
      · rintro ⟨before, between, ⟨rfl, -, -⟩ | ⟨rest, rfl, eq⟩, kept, found⟩
        · exact found
        · have kept : .invalidate ∉ rest := fun mem => kept (List.mem_append_left _ mem)
          have holds := ih.mpr ⟨before, rest, eq, kept, found⟩
          rw [(resolve_of_held holds).1]

/-- A chain of any providers, after any calls. It holds what it found since it was last told to
forget, and gives that again without asking anybody. Where it holds nothing, it asks its providers in
order, each once, up to the first with a value, gives just that value, and holds it; if none has one
it still holds nothing. A chain inside it that has found a value answers with it at every later
request, whatever the outer one forgets, and nobody inside is asked again. That is all that
providers are asked: each source has given its answers one after another, as often as it was
heard. -/
theorem chain_exact (ps : List (Provider α)) (cs : List Call) :
    let outer := ofList ps
    let p := outer.after cs
    (∃ qs, p = chain p.held qs ∧ qs.length = ps.length ∧
      (∀ v, p.held = some v ↔
        ∃ before between, cs = before ++ .resolve :: between ∧ .invalidate ∉ between ∧
          (resolve (outer.after before)).1 = some v) ∧
      (∀ v, p.held = some v → resolve p = (some v, p) ∧ p.transcript = [⟨[], some v⟩]) ∧
      (p.held = none →
        (resolve p).1 = (qs.findSome? fun q => (resolve q).1) ∧
        (resolve p).2 = chain (resolve p).1
          ((asked qs).map (fun q => (resolve q).2) ++ qs.drop (asked qs).length) ∧
        p.transcript.filter (·.path.length = 1) =
          (asked qs).mapIdx fun k q => ⟨[k], (resolve q).1⟩)) ∧
    ((outer.record cs).Pairwise fun r r' =>
      r.path ≠ [] → (outer.at? r.path).any isChain → r.value.isSome → r.path <+: r'.path →
        r' = r) ∧
    (∀ path name answer calls, outer.at? path = some (source name answer calls) →
      ∃ k, p.at? path = some (source name answer (calls + k)) ∧
        answersOf path (outer.record cs) = (List.range' calls k).map answer) ∧
    ∀ q : Provider α, (consult q).2 = resolve q := by
  intro outer p
  obtain ⟨qs, shape, length⟩ := after_chain none ps cs
  refine ⟨⟨qs, shape, length, held_after_iff ps cs, fun v holds => resolve_of_held holds, ?_⟩,
    record_pairwise outer cs, fun path name answer calls here => source_after here cs, consult_snd⟩
  intro empty
  have same : p = chain none qs := by
    rw [← empty]
    exact shape
  have first := resolveFirst_eq qs
  rw [same, resolve_empty, first]
  exact ⟨rfl, rfl, transcript_direct qs⟩

example :
    let late := chain none [scripted "late" [none, some 2, some 3]]
    (ofList [constant none, late]).record [.resolve, .resolve, .invalidate, .resolve] =
      [⟨[0], none⟩, ⟨[1, 0], none⟩, ⟨[1], none⟩, ⟨[], none⟩,
        ⟨[0], none⟩, ⟨[1, 0], some 2⟩, ⟨[1], some 2⟩, ⟨[], some 2⟩,
        ⟨[0], none⟩, ⟨[1], some 2⟩, ⟨[], some 2⟩] := by
  decide

end Tether.Provider
