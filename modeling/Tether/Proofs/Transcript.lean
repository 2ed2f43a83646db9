import Mathlib.Data.List.Infix
import Tether.Provider.Transcript

/-! What is heard while a provider is asked once. A chain that holds a value asks nobody; any other
asks its providers in order up to the first with a value, and holds that. Whoever has answered is
not heard again, and a chain inside that holds a value is as good as a constant. -/

namespace Tether.Provider

variable {α : Type}

theorem induct {motive : Provider α → Prop}
    (source : ∀ name answer calls, motive (.source name answer calls))
    (constant : ∀ value, motive (.constant value))
    (chain : ∀ cached ps, (∀ p ∈ ps, motive p) → motive (.chain cached ps)) (p : Provider α) :
    motive p :=
  p.rec (motive_2 := fun ps => ∀ p ∈ ps, motive p) source constant chain
    (fun _ mem => absurd mem List.not_mem_nil)
    (fun _ _ head tail => List.forall_mem_cons.mpr ⟨head, tail⟩)

/-! ### Asking -/

theorem resolve_empty (ps : List (Provider α)) :
    resolve (chain none ps) = ((resolveFirst ps).1, chain (resolveFirst ps).1 (resolveFirst ps).2) :=
  rfl

theorem resolveFirst_cons (p : Provider α) (ps : List (Provider α)) :
    resolveFirst (p :: ps) =
      if (resolve p).1.isSome then ((resolve p).1, (resolve p).2 :: ps)
      else ((resolveFirst ps).1, (resolve p).2 :: (resolveFirst ps).2) := by
  rw [resolveFirst]
  split
  · next found =>
    rw [found]
    rfl
  · next found =>
    rw [found]
    rfl

theorem asked_cons (p : Provider α) (ps : List (Provider α)) :
    asked (p :: ps) = p :: if (resolve p).1.isSome then [] else asked ps := by
  rw [asked, List.findIdx_cons]
  cases (resolve p).1.isSome <;> rfl

theorem resolveFirst_eq (ps : List (Provider α)) :
    resolveFirst ps = (ps.findSome? fun p => (resolve p).1,
      (asked ps).map (fun p => (resolve p).2) ++ ps.drop (asked ps).length) := by
  induction ps with
  | nil => rfl
  | cons p ps ih =>
    rw [resolveFirst_cons, asked_cons, List.findSome?_cons]
    cases found : (resolve p).1 with
    | some v => rfl
    | none => simp [ih]

mutual

theorem consult_snd : ∀ p : Provider α, (consult p).2 = resolve p
  | source _ _ _ | constant _ | chain (some _) _ => rfl
  | chain none ps => by
    have same := consultFrom_snd 0 ps
    rw [resolve_empty, ← same]
    rfl

theorem consultFrom_snd (k : Nat) : ∀ ps : List (Provider α), (consultFrom k ps).2 = resolveFirst ps
  | [] => rfl
  | p :: ps => by
    have first := consult_snd p
    have rest := consultFrom_snd (k + 1) ps
    rw [resolveFirst_cons, ← first, ← rest, consultFrom]
    split
    · next found =>
      rw [found]
      rfl
    · next found =>
      rw [found]
      rfl

end

/-! ### What is heard -/

theorem transcript_empty (ps : List (Provider α)) :
    (chain none ps).transcript = transcriptFrom 0 ps ++ [⟨[], (resolveFirst ps).1⟩] := by
  rw [← consultFrom_snd 0 ps]
  rfl

theorem transcriptFrom_cons (k : Nat) (p : Provider α) (ps : List (Provider α)) :
    transcriptFrom k (p :: ps) =
      p.transcript.map (.under k) ++ if (resolve p).1.isSome then [] else transcriptFrom (k + 1) ps := by
  rw [← consult_snd, transcriptFrom, transcript, consultFrom]
  split
  · next found => simp [found]
  · next found => simp [found, transcriptFrom]

theorem path_of_mem_transcriptFrom {k : Nat} {ps : List (Provider α)} {r : Reply α}
    (mem : r ∈ transcriptFrom k ps) : ∃ j path, r.path = j :: path ∧ k ≤ j := by
  induction ps generalizing k with
  | nil => cases mem
  | cons p ps ih =>
    rw [transcriptFrom_cons] at mem
    rcases List.mem_append.mp mem with first | later
    · obtain ⟨r', -, rfl⟩ := List.mem_map.mp first
      exact ⟨k, r'.path, rfl, Nat.le_refl k⟩
    · split at later
      · cases later
      · obtain ⟨j, path, eq, le⟩ := ih later
        exact ⟨j, path, eq, Nat.le_of_succ_le le⟩

/-- The last that is heard is a provider's own answer; all else comes from inside. -/
theorem transcript_eq (p : Provider α) :
    ∃ inner, p.transcript = inner ++ [⟨[], (resolve p).1⟩] ∧ ∀ r ∈ inner, r.path ≠ [] := by
  match p with
  | source _ _ _ | constant _ | chain (some _) _ => exact ⟨[], rfl, nofun⟩
  | chain none ps =>
    refine ⟨transcriptFrom 0 ps, transcript_empty ps, fun r mem => ?_⟩
    obtain ⟨j, path, eq, -⟩ := path_of_mem_transcriptFrom mem
    rw [eq]
    exact List.cons_ne_nil j path

/-- What is heard by way of the provider at place `k`. -/
def via (k : Nat) (rs : List (Reply α)) : List (Reply α) := rs.filter (·.path.head? = some k)

theorem via_append (k : Nat) (rs rs' : List (Reply α)) : via k (rs ++ rs') = via k rs ++ via k rs' :=
  List.filter_append ..

theorem via_map_under (j k : Nat) (rs : List (Reply α)) :
    via k (rs.map (.under j)) = if j = k then rs.map (.under j) else [] := by
  split
  · next same =>
    apply List.filter_eq_self.mpr
    intro r mem
    obtain ⟨r', -, rfl⟩ := List.mem_map.mp mem
    simp [Reply.under, same]
  · next other =>
    apply List.filter_eq_nil_iff.mpr
    intro r mem
    obtain ⟨r', -, rfl⟩ := List.mem_map.mp mem
    simp [Reply.under, other]

theorem via_transcriptFrom_of_lt {j k : Nat} (lt : k < j) (ps : List (Provider α)) :
    via k (transcriptFrom j ps) = [] := by
  apply List.filter_eq_nil_iff.mpr
  intro r mem
  obtain ⟨i, path, eq, le⟩ := path_of_mem_transcriptFrom mem
  have ne : i ≠ k := by omega
  simpa [eq] using ne

theorem via_transcriptFrom (j k : Nat) (ps : List (Provider α)) :
    via (j + k) (transcriptFrom j ps) =
      ((asked ps)[k]?).elim [] fun q => q.transcript.map (.under (j + k)) := by
  induction ps generalizing j k with
  | nil => rfl
  | cons p ps ih =>
    rw [transcriptFrom_cons, via_append, via_map_under, asked_cons]
    cases k with
    | zero =>
      have later : via j (if (resolve p).1.isSome then [] else transcriptFrom (j + 1) ps) = [] := by
        split
        · rfl
        · exact via_transcriptFrom_of_lt (Nat.lt_succ_self j) ps
      simp [later]
    | succ k =>
      have split : j + (k + 1) = j + 1 + k := by omega
      rw [if_neg (by omega), List.getElem?_cons_succ, List.nil_append, split]
      cases (resolve p).1.isSome with
      | true => rfl
      | false => exact ih (j + 1) k

/-- A provider inside another is asked, and all it says is heard, or it is left alone. -/
theorem turns {p q : Provider α} {k : Nat} (there : p.providers[k]? = some q) :
    ((resolve p).2.providers[k]? = some (resolve q).2 ∧
      via k p.transcript = q.transcript.map (.under k)) ∨
    ((resolve p).2.providers[k]? = some q ∧ via k p.transcript = []) := by
  match p with
  | source _ _ _ | constant _ => cases there
  | chain (some _) ps => exact .inr ⟨there, rfl⟩
  | chain none ps =>
    have there : ps[k]? = some q := there
    have through := via_transcriptFrom 0 k ps
    have own : via k [(⟨[], (resolveFirst ps).1⟩ : Reply α)] = [] := rfl
    rw [Nat.zero_add] at through
    rw [transcript_empty, via_append, own, List.append_nil, through, resolve_empty, resolveFirst_eq]
    simp only [providers]
    by_cases turn : k < (asked ps).length
    · have here : (asked ps)[k]? = some q := by
        rw [asked, List.getElem?_take_of_lt]
        · exact there
        · exact Nat.lt_of_lt_of_le turn (List.length_take_le ..)
      rw [List.getElem?_append_left (by simpa using turn), List.getElem?_map, here]
      exact .inl ⟨rfl, rfl⟩
    · have past : (asked ps).length ≤ k := Nat.le_of_not_lt turn
      rw [List.getElem?_append_right (by simpa using past), List.length_map, List.getElem?_drop,
        Nat.add_sub_cancel' past, List.getElem?_eq_none past]
      exact .inr ⟨there, rfl⟩

theorem at?_cons_eq_some_iff {p x : Provider α} {k : Nat} {path : List Nat} :
    p.at? (k :: path) = some x ↔ ∃ q, p.providers[k]? = some q ∧ q.at? path = some x :=
  Option.bind_eq_some_iff

theorem mem_via_of_prefix {k : Nat} {path : List Nat} {r : Reply α} {rs : List (Reply α)}
    (mem : r ∈ rs) (below : k :: path <+: r.path) : r ∈ via k rs := by
  obtain ⟨rest, eq⟩ := below
  exact List.mem_filter.mpr ⟨mem, by simp [← eq]⟩

/-- A chain that holds a value keeps it, wherever it is, and nobody inside it is heard any more. -/
theorem stays {p : Provider α} {path : List Nat} {v : α} {ps : List (Provider α)}
    (holds : p.at? path = some (chain (some v) ps)) :
    (resolve p).2.at? path = some (chain (some v) ps) ∧
      ∀ r ∈ p.transcript, path <+: r.path → r = ⟨path, some v⟩ := by
  induction path generalizing p with
  | nil =>
    cases Option.some.inj holds
    refine ⟨rfl, fun r mem _ => ?_⟩
    exact List.mem_singleton.mp mem
  | cons k path ih =>
    obtain ⟨q, there, inside⟩ := at?_cons_eq_some_iff.mp holds
    obtain ⟨kept, said⟩ := ih inside
    rcases turns there with ⟨next, heard⟩ | ⟨next, heard⟩
    · refine ⟨at?_cons_eq_some_iff.mpr ⟨_, next, kept⟩, fun r mem below => ?_⟩
      have mem := mem_via_of_prefix mem below
      rw [heard] at mem
      obtain ⟨r', mem', rfl⟩ := List.mem_map.mp mem
      rw [said r' mem' ((List.cons_prefix_cons.mp below).2)]
      rfl
    · refine ⟨at?_cons_eq_some_iff.mpr ⟨q, next, inside⟩, fun r mem below => ?_⟩
      have mem := mem_via_of_prefix mem below
      rw [heard] at mem
      cases mem

theorem isChain_resolve (p : Provider α) : (resolve p).2.isChain = p.isChain := by
  match p with
  | source _ _ _ | constant _ | chain (some _) _ | chain none _ => rfl

theorem isChain_at?_resolve {p : Provider α} {path : List Nat}
    (isChain : (p.at? path).any isChain) : ((resolve p).2.at? path).any Provider.isChain := by
  induction path generalizing p with
  | nil =>
    have same := isChain_resolve p
    simpa [at?, same] using isChain
  | cons k path ih =>
    cases there : p.providers[k]? with
    | none => simp [at?, there] at isChain
    | some q =>
      simp only [at?, there, Option.bind_some] at isChain
      rcases turns there with ⟨next, -⟩ | ⟨next, -⟩
      · simpa [at?, next] using ih isChain
      · simpa [at?, next] using isChain

/-- A chain that has found a value holds it. -/
theorem holds_of_reply {p : Provider α} {path : List Nat} {v : α}
    (isChain : (p.at? path).any isChain) (said : ⟨path, some v⟩ ∈ p.transcript) :
    ∃ ps, (resolve p).2.at? path = some (chain (some v) ps) := by
  induction path generalizing p with
  | nil =>
    obtain ⟨inner, eq, inside⟩ := transcript_eq p
    rw [eq] at said
    rcases List.mem_append.mp said with early | own
    · exact absurd rfl (inside _ early)
    · have found : some v = (resolve p).1 := congrArg Reply.value (List.mem_singleton.mp own)
      match p with
      | source _ _ _ | constant _ => simp [at?, Provider.isChain] at isChain
      | chain (some _) ps =>
        cases found
        exact ⟨ps, rfl⟩
      | chain none ps =>
        rw [resolve_empty] at found ⊢
        exact ⟨_, by rw [at?, ← found]⟩
  | cons k path ih =>
    cases there : p.providers[k]? with
    | none => simp [at?, there] at isChain
    | some q =>
      simp only [at?, there, Option.bind_some] at isChain
      have mem := mem_via_of_prefix said (List.prefix_refl _)
      rcases turns there with ⟨next, heard⟩ | ⟨next, heard⟩
      · rw [heard] at mem
        obtain ⟨⟨path', value⟩, mem', eq⟩ := List.mem_map.mp mem
        cases eq
        obtain ⟨ps, held⟩ := ih isChain mem'
        exact ⟨ps, at?_cons_eq_some_iff.mpr ⟨_, next, held⟩⟩
      · rw [heard] at mem
        cases mem

theorem answersOf_append (path : List Nat) (rs rs' : List (Reply α)) :
    answersOf path (rs ++ rs') = answersOf path rs ++ answersOf path rs' := by
  rw [answersOf, List.filter_append, List.map_append]
  rfl

theorem answersOf_cons (k : Nat) (path : List Nat) (rs : List (Reply α)) :
    answersOf (k :: path) rs = answersOf (k :: path) (via k rs) := by
  rw [answersOf, answersOf, via, List.filter_filter]
  congr 2
  funext r
  by_cases same : r.path = k :: path <;> simp [same]

theorem answersOf_under (k : Nat) (path : List Nat) (rs : List (Reply α)) :
    answersOf (k :: path) (rs.map (.under k)) = answersOf path rs := by
  simp [answersOf, List.filter_map, Function.comp_def, Reply.under]

/-- A source answers what its turn is, and only if it is heard to. -/
theorem source_resolve {p : Provider α} {path : List Nat} {name : String}
    {answer : Nat → Option α} {calls : Nat} (here : p.at? path = some (source name answer calls)) :
    ∃ k, (resolve p).2.at? path = some (source name answer (calls + k)) ∧
      answersOf path p.transcript = (List.range' calls k).map answer := by
  induction path generalizing p with
  | nil =>
    cases Option.some.inj here
    exact ⟨1, rfl, rfl⟩
  | cons k path ih =>
    obtain ⟨q, there, inside⟩ := at?_cons_eq_some_iff.mp here
    rcases turns there with ⟨next, heard⟩ | ⟨next, heard⟩
    · obtain ⟨n, asked, said⟩ := ih inside
      refine ⟨n, at?_cons_eq_some_iff.mpr ⟨_, next, asked⟩, ?_⟩
      rw [answersOf_cons, heard, answersOf_under, said]
    · refine ⟨0, at?_cons_eq_some_iff.mpr ⟨q, next, inside⟩, ?_⟩
      rw [answersOf_cons, heard]
      rfl

theorem transcriptFrom_pairwise (k : Nat) {ps : List (Provider α)}
    (each : ∀ p ∈ ps, p.transcript.Pairwise fun r r' => ¬ r.path <+: r'.path) :
    (transcriptFrom k ps).Pairwise fun r r' => ¬ r.path <+: r'.path := by
  induction ps generalizing k with
  | nil => exact List.Pairwise.nil
  | cons p ps ih =>
    obtain ⟨first, rest⟩ := List.forall_mem_cons.mp each
    rw [transcriptFrom_cons, List.pairwise_append]
    refine ⟨?_, ?_, ?_⟩
    · rw [List.pairwise_map]
      refine first.imp fun apart below => ?_
      exact apart (List.cons_prefix_cons.mp below).2
    · split
      · exact List.Pairwise.nil
      · exact ih (k + 1) rest
    · intro r mem r' later below
      obtain ⟨r, -, rfl⟩ := List.mem_map.mp mem
      split at later
      · cases later
      · obtain ⟨j, path, eq, le⟩ := path_of_mem_transcriptFrom later
        rw [eq] at below
        have same : k = j := (List.cons_prefix_cons.mp below).1
        omega

/-- Whoever has answered is not heard again, nor is anyone inside. -/
theorem transcript_pairwise (p : Provider α) :
    p.transcript.Pairwise fun r r' => ¬ r.path <+: r'.path := by
  induction p using induct with
  | source | constant => exact List.pairwise_singleton _ _
  | chain cached ps ih =>
    cases cached with
    | some v => exact List.pairwise_singleton _ _
    | none =>
      rw [transcript_empty, List.pairwise_append]
      refine ⟨transcriptFrom_pairwise 0 ih, List.pairwise_singleton _ _, ?_⟩
      intro r mem own last below
      cases List.mem_singleton.mp last
      obtain ⟨j, path, eq, -⟩ := path_of_mem_transcriptFrom mem
      rw [eq] at below
      exact List.cons_ne_nil _ _ (List.prefix_nil.mp below)

theorem filter_map_under (k : Nat) (p : Provider α) :
    (p.transcript.map (Reply.under k)).filter (·.path.length = 1) = [⟨[k], (resolve p).1⟩] := by
  obtain ⟨inner, eq, inside⟩ := transcript_eq p
  have deeper : inner.filter (fun r => decide (r.path = [])) = [] :=
    List.filter_eq_nil_iff.mpr fun r mem => by simpa using inside r mem
  simp [eq, List.filter_map, Function.comp_def, Reply.under, deeper]

theorem transcriptFrom_direct (k : Nat) (ps : List (Provider α)) :
    (transcriptFrom k ps).filter (·.path.length = 1) =
      (asked ps).mapIdx fun i q => ⟨[k + i], (resolve q).1⟩ := by
  induction ps generalizing k with
  | nil => rfl
  | cons p ps ih =>
    rw [transcriptFrom_cons, List.filter_append, filter_map_under, asked_cons, List.mapIdx_cons]
    cases (resolve p).1.isSome with
    | true => rfl
    | false =>
      simp only [Bool.false_eq_true, if_false, ih, Nat.add_zero, List.singleton_append,
        Nat.add_assoc, Nat.add_comm 1]

/-- The providers of a chain are heard in order, each once, up to the first with a value. -/
theorem transcript_direct (ps : List (Provider α)) :
    (chain none ps).transcript.filter (·.path.length = 1) =
      (asked ps).mapIdx fun k q => ⟨[k], (resolve q).1⟩ := by
  have inner := transcriptFrom_direct 0 ps
  simp only [Nat.zero_add] at inner
  rw [transcript_empty, List.filter_append, inner]
  exact List.append_nil _

end Tether.Provider
