import Tether.Proofs.Lists
import Tether.Proofs.Values

/-! Documents read back as they were written: plain keys first, then a section for each table. The
reader always stands in the last table, so every key and every section goes to the end. -/

namespace Tether.Toml

open Toml.Text Writer

/-! ### Keys -/

/-- A key that is written without quotes. -/
def isBareKey (k : String) : Bool := !k.toList.isEmpty && k.toList.all isBare

theorem isBareKey_iff {k : String} :
    isBareKey k ↔ k.toList ≠ [] ∧ ∀ c ∈ k.toList, isBare c := by
  simp [isBareKey]

theorem ne_of_isBare {c d : Char} (bare : isBare c) (other : isBare d = false) : c ≠ d := by
  rintro rfl
  exact absurd bare (by simp [other])

theorem not_isBlank_of_isBare {c : Char} (bare : isBare c) : isBlank c = false := by
  simp [isBlank, ne_of_isBare bare (d := ' ') rfl, ne_of_isBare bare (d := '\t') rfl]

theorem eq_cons_of_isBareKey {k : String} (bare : isBareKey k) :
    ∃ c r, k.toList = c :: r ∧ isBare c := by
  obtain ⟨some, all⟩ := isBareKey_iff.mp bare
  obtain ⟨c, r, chars⟩ := List.exists_cons_of_ne_nil some
  exact ⟨c, r, chars, all c (chars ▸ List.mem_cons_self)⟩

theorem keyPart_append {k : String} (bare : isBareKey k) {c : Char} (stops : isBare c = false)
    (rest : List Char) : keyPart (k.toList ++ c :: rest) = some (k, c :: rest) := by
  obtain ⟨d, r, chars, first⟩ := eq_cons_of_isBareKey bare
  unfold keyPart
  split
  · next same =>
    rw [chars] at same
    exact absurd (List.cons.inj same).1 (ne_of_isBare first rfl)
  · next same =>
    rw [chars] at same
    exact absurd (List.cons.inj same).1 (ne_of_isBare first rfl)
  · obtain ⟨some, all⟩ := isBareKey_iff.mp bare
    rw [List.takeWhile_append_of_pos all, List.dropWhile_append_of_pos all]
    simp [stops, some]

/-- A key of one part, up to the first character behind it that is no blank. -/
theorem key_append {k : String} (bare : isBareKey k) {c d : Char} (stops : isBare c = false)
    {rest after : List Char} (next : skipBlanks (c :: rest) = d :: after) (single : d ≠ '.') :
    key (k.toList ++ c :: rest) = some ([k], d :: after) := by
  obtain ⟨f, r, chars, first⟩ := eq_cons_of_isBareKey bare
  have start : skipBlanks (k.toList ++ c :: rest) = k.toList ++ c :: rest := by
    rw [chars, List.cons_append, skipBlanks_of_not_isBlank (not_isBlank_of_isBare first)]
  have parts (fuel : Nat) :
      keyParts (fuel + 1) (k.toList ++ c :: rest) = some ([k], d :: after) := by
    rw [keyParts, start, keyPart_append bare stops]
    simp only [Option.bind_eq_bind, Option.bind_some, next]
    split
    · next same => exact absurd (List.cons.inj same).1 single
    · rfl
  rw [key, parts]
  rfl

namespace Reader

theorem pair_keyLine {k : String} {v : Value} (bare : isBareKey k) (back : ReadsBack v)
    (rest : List Char) :
    pair (k.toList ++ " = ".toList ++ Writer.value v ++ ['\n'] ++ rest) = some ([k], v, rest) := by
  have next : skipBlanks (' ' :: '=' :: ' ' :: (Writer.value v ++ '\n' :: rest)) =
      '=' :: ' ' :: (Writer.value v ++ '\n' :: rest) := rfl
  have name := key_append bare rfl next (by decide)
  have value := back rest
  have text : k.toList ++ " = ".toList ++ Writer.value v ++ ['\n'] ++ rest =
      k.toList ++ ' ' :: '=' :: ' ' :: (Writer.value v ++ '\n' :: rest) := by
    simp only [List.append_assoc]
    rfl
  rw [text, pair, name]
  simp only [Option.bind_eq_bind, Option.bind_some, Scalar.mark, if_true]
  rw [value]
  rfl

theorem header_section {k : String} (bare : isBareKey k) (rest : List Char) :
    header ('[' :: k.toList ++ [']', '\n'] ++ rest) = some (false, [k], rest) := by
  have next : skipBlanks (']' :: '\n' :: rest) = ']' :: '\n' :: rest := rfl
  have name := key_append bare rfl next (by decide)
  obtain ⟨c, r, chars, first⟩ := eq_cons_of_isBareKey bare
  rw [List.append_assoc, List.cons_append, List.cons_append, List.cons_append, List.nil_append]
  unfold header
  split
  · next same =>
    rw [chars] at same
    exact absurd (List.cons.inj (List.cons.inj same).2).1 (ne_of_isBare first rfl)
  · next same =>
    rw [← (List.cons.inj same).2, name]
    rfl
  · next other => exact absurd rfl (other _)

end Reader

/-! ### Tables under construction -/

theorem notMem_keys_append {β : Type} {es : List (String × β)} {key name : String}
    (new : key ∉ es.map Prod.fst) (differs : key ≠ name) (b : β) :
    key ∉ (es ++ [(name, b)]).map Prod.fst := by
  simpa [differs] using new

namespace Node

/-- Nodes of plain entries. -/
def ofEntries (t : Table) : Entries := t.map fun e => (e.1, .value e.2)

theorem toEntries_append (es es' : Entries) :
    toEntries (es ++ es') = toEntries es ++ toEntries es' := by
  induction es with
  | nil => rfl
  | cons e es ih => rw [List.cons_append, toEntries, toEntries, ih, List.cons_append]

/-- Nodes of sections. -/
def ofSections (sections : List (String × Table)) : Entries :=
  sections.map fun s => (s.1, .table .header (ofEntries s.2))

theorem toEntries_ofEntries (t : Table) : toEntries (ofEntries t) = t := by
  induction t with
  | nil => rfl
  | cons e t ih =>
    change (e.1, e.2) :: toEntries (ofEntries t) = e :: t
    rw [ih]

theorem toEntries_ofSections (sections : List (String × Table)) :
    toEntries (ofSections sections) = sections.map fun s => (s.1, .table s.2) := by
  induction sections with
  | nil => rfl
  | cons s sections ih =>
    change (s.1, .table (toEntries (ofEntries s.2))) :: toEntries (ofSections sections) = _
    rw [toEntries_ofEntries, ih, List.map_cons]

theorem put_append {key : String} {es : Entries} (new : es.lookup key = none) (n : Node)
    (es' : Entries) : put key n (es ++ es') = es ++ put key n es' := by
  induction es with
  | nil => rfl
  | cons e es ih =>
    rw [List.lookup_cons] at new
    split at new
    · cases new
    · next other =>
      have differs : e.1 ≠ key := fun same => by simp [same] at other
      simp [put, differs, ih new]

theorem put_of_new {key : String} {es : Entries} (new : es.lookup key = none) (n : Node) :
    put key n es = es ++ [(key, n)] := by
  have added := put_append new n []
  rwa [List.append_nil] at added

theorem put_last {key : String} {es : Entries} (new : es.lookup key = none) (n m : Node) :
    put key n (es ++ [(key, m)]) = es ++ [(key, n)] := by
  rw [put_append new]
  simp [put]

theorem lookup_last {key : String} {es : Entries} (new : es.lookup key = none) (n : Node) :
    (es ++ [(key, n)]).lookup key = some n := by
  rw [List.lookup_append, new]
  simp

end Node

namespace Document

theorem assign_root {es : Node.Entries} {k : String} (new : es.lookup k = none) (v : Value) :
    assign ⟨es, []⟩ [k] v = some ⟨es ++ [(k, .value v)], []⟩ := by
  simp [assign, splitLast, changeCurrent, Node.within, Node.assign, new, Node.put_of_new new]

theorem assign_section {es inner : Node.Entries} {s k : String} (here : es.lookup s = none)
    (new : inner.lookup k = none) (v : Value) :
    assign ⟨es ++ [(s, .table .header inner)], [s]⟩ [k] v =
      some ⟨es ++ [(s, .table .header (inner ++ [(k, .value v)]))], [s]⟩ := by
  simp [assign, splitLast, changeCurrent, Node.within, Node.assign, new, Node.put_of_new new,
    Node.lookup_last here, Node.put_last here]

theorem enter_section {es : Node.Entries} {s : String} (new : es.lookup s = none)
    (header : List String) :
    enter ⟨es, header⟩ false [s] = some ⟨es ++ [(s, .table .header [])], [s]⟩ := by
  simp [enter, splitLast, Node.within, Node.openTable, new, Node.put_of_new new]

end Document

/-! ### Lines -/

namespace Reader

section

variable {d d₁ : Document} {k : String} (fuel : Nat) (rest : List Char)

theorem lines_keyLine {v : Value} (bare : isBareKey k) (back : ReadsBack v)
    (assigned : d.assign [k] v = some d₁) :
    lines (fuel + 1) d (k.toList ++ " = ".toList ++ Writer.value v ++ ['\n'] ++ rest) =
      lines fuel d₁ rest := by
  have pair := pair_keyLine bare back rest
  obtain ⟨c, r, chars, first⟩ := eq_cons_of_isBareKey bare
  have other (e : Char) (no : isBare e = false) : c ≠ e := ne_of_isBare first no
  simp only [chars, List.cons_append] at pair ⊢
  rw [lines, skipBlanks_of_not_isBlank (not_isBlank_of_isBare first)]
  split
  · next same => cases same
  · next same => exact absurd (List.cons.inj same).1 (other '[' rfl)
  · next same =>
    obtain ⟨rfl, rfl⟩ := List.cons.inj same
    rw [if_neg (by simp [other '#' rfl, other '\n' rfl, other '\r' rfl]), pair]
    simp [assigned]

theorem lines_header (bare : isBareKey k) (entered : d.enter false [k] = some d₁) :
    lines (fuel + 1) d ('[' :: k.toList ++ [']', '\n'] ++ rest) = lines fuel d₁ rest := by
  have header := header_section bare rest
  simp only [List.cons_append] at header ⊢
  rw [lines, skipBlanks_of_not_isBlank rfl]
  simp only [header, Option.bind_eq_bind, Option.bind_some, entered]

end

/-- A text takes one document to another, in any number of steps above that of its characters. -/
def ReadsTo (d : Document) (cs : List Char) (d' : Document) : Prop :=
  ∀ fuel, cs.length < fuel → lines fuel d cs = some d'

variable {d d₁ d' : Document} {rest : List Char}

theorem readsTo_nil (d : Document) : ReadsTo d [] d := by
  intro fuel long
  obtain ⟨fuel, rfl⟩ := Nat.exists_eq_succ_of_ne_zero (Nat.ne_zero_of_lt long)
  rfl

theorem readsTo_keyLine {k : String} {v : Value} (bare : isBareKey k) (back : ReadsBack v)
    (assigned : d.assign [k] v = some d₁) (onward : ReadsTo d₁ rest d') :
    ReadsTo d (k.toList ++ " = ".toList ++ Writer.value v ++ ['\n'] ++ rest) d' := by
  intro fuel long
  obtain ⟨fuel, rfl⟩ := Nat.exists_eq_succ_of_ne_zero (Nat.ne_zero_of_lt long)
  rw [lines_keyLine fuel rest bare back assigned]
  refine onward fuel ?_
  rw [List.length_append, List.length_append] at long
  simp only [List.length_cons, List.length_nil] at long
  omega

theorem readsTo_header {s : String} (bare : isBareKey s)
    (entered : d.enter false [s] = some d₁) (onward : ReadsTo d₁ rest d') :
    ReadsTo d ('\n' :: '[' :: s.toList ++ [']', '\n'] ++ rest) d' := by
  intro fuel long
  simp only [List.cons_append, List.length_cons, List.length_append, List.length_nil] at long
  obtain ⟨fuel, rfl⟩ : ∃ n, fuel = n + 2 := Nat.exists_eq_add_of_le' (by omega)
  change lines (fuel + 1) d ('[' :: s.toList ++ [']', '\n'] ++ rest) = some d'
  rw [lines_header fuel rest bare entered]
  exact onward fuel (by omega)

/-- Plain entries that can be written: under bare keys that differ, with values that read back. -/
structure Writable (t : Table) : Prop where
  bare : ∀ k ∈ t.map Prod.fst, isBareKey k
  nodup : (t.map Prod.fst).Nodup
  values : ∀ e ∈ t, ReadsBack e.2

theorem Writable.filter {t : Table} {p : String × Value → Bool}
    (bare : ∀ k ∈ t.map Prod.fst, isBareKey k) (nodup : (t.map Prod.fst).Nodup)
    (values : ∀ e ∈ t, p e → ReadsBack e.2) : Writable (t.filter p) := by
  have part : ((t.filter p).map Prod.fst).Sublist (t.map Prod.fst) :=
    List.filter_sublist.map Prod.fst
  refine ⟨fun k mem => bare k (part.subset mem), nodup.sublist part, fun e mem => ?_⟩
  obtain ⟨inside, selected⟩ := List.mem_filter.mp mem
  exact values e inside selected

/-- The lines of plain entries add them to the end of a table, wherever the table stands. -/
theorem readsTo_keyLines {spot : Node.Entries → Document}
    (adds : ∀ es k v, es.lookup k = none →
      (spot es).assign [k] v = some (spot (es ++ [(k, .value v)])))
    {t : Table} (writable : Writable t) {es : Node.Entries} (new : ∀ e ∈ t, e.1 ∉ es.map Prod.fst)
    (onward : ReadsTo (spot (es ++ Node.ofEntries t)) rest d') :
    ReadsTo (spot es) (keyLines t ++ rest) d' := by
  induction t generalizing es with
  | nil => simpa [keyLines, Node.ofEntries] using onward
  | cons e t ih =>
    obtain ⟨bare, nodup, values⟩ := writable
    rw [List.map_cons, List.forall_mem_cons] at bare
    rw [List.map_cons, List.nodup_cons] at nodup
    rw [List.forall_mem_cons] at values new
    have later : ReadsTo (spot (es ++ [(e.1, .value e.2)])) (keyLines t ++ rest) d' := by
      apply ih ⟨bare.2, nodup.2, values.2⟩
      · intro f mem
        have differs : f.1 ≠ e.1 := fun same => nodup.1 (same ▸ List.mem_map_of_mem mem)
        exact notMem_keys_append (new.2 f mem) differs _
      · rwa [List.append_assoc]
    have added := adds es e.1 e.2 (lookup_eq_none new.1)
    rw [keyLines, List.flatMap_cons, List.append_assoc]
    exact readsTo_keyLine bare.1 values.1 added later

theorem readsTo_sections {sections : List (String × Table)}
    (keys : ∀ s ∈ sections, isBareKey s.1) (writable : ∀ s ∈ sections, Writable s.2)
    (nodup : (sections.map Prod.fst).Nodup) {es : Node.Entries}
    (new : ∀ s ∈ sections, s.1 ∉ es.map Prod.fst) (header : List String) :
    ∃ header', ReadsTo ⟨es, header⟩ (sections.flatMap fun s => section? (s.1, .table s.2))
      ⟨es ++ Node.ofSections sections, header'⟩ := by
  induction sections generalizing es header with
  | nil =>
    refine ⟨header, ?_⟩
    rw [Node.ofSections, List.map_nil, List.append_nil]
    exact readsTo_nil _
  | cons s sections ih =>
    rw [List.forall_mem_cons] at keys writable new
    rw [List.map_cons, List.nodup_cons] at nodup
    have here := lookup_eq_none new.1
    have others : ∀ r ∈ sections,
        r.1 ∉ (es ++ [(s.1, Node.table .header (Node.ofEntries s.2))]).map Prod.fst := by
      intro r mem
      have differs : r.1 ≠ s.1 := fun same => nodup.1 (same ▸ List.mem_map_of_mem mem)
      exact notMem_keys_append (new.2 r mem) differs _
    obtain ⟨header', later⟩ := ih keys.2 writable.2 nodup.2 others [s.1]
    refine ⟨header', ?_⟩
    rw [List.append_assoc] at later
    rw [List.flatMap_cons]
    let spot (inner : Node.Entries) : Document := ⟨es ++ [(s.1, .table .header inner)], [s.1]⟩
    have lines : ReadsTo (spot [])
        (keyLines s.2 ++ sections.flatMap fun s => section? (s.1, .table s.2)) _ :=
      readsTo_keyLines (fun inner k v new => Document.assign_section here new v) writable.1
        (by simp) later
    have read := readsTo_header keys.1 (Document.enter_section here header) lines
    rwa [← List.append_assoc] at read

end Reader

theorem read?_of_readsTo {s : String} {d : Document} (noMark : s.toList.head? ≠ some '\uFEFF')
    (reads : Reader.ReadsTo .empty s.toList d) : read? s = some (Node.toEntries d.root) := by
  unfold read?
  split
  · next marked => exact absurd (by rw [marked]; rfl) noMark
  · change (Reader.lines (s.toList.length + 1) .empty s.toList).map _ = _
    rw [reads _ (Nat.lt_succ_self _)]
    rfl

theorem toList_document {plain : Table} (sections : List (String × Table))
    (noTable : ∀ e ∈ plain, isTable e.2 = false) :
    (document (plain ++ sections.map fun s => (s.1, .table s.2))).toList =
      keyLines plain ++ sections.flatMap fun s => section? (s.1, .table s.2) := by
  have plains : (plain ++ sections.map fun s => (s.1, Value.table s.2)).filter
      (fun e => !isTable e.2) = plain := by
    have tables : (sections.map fun s => (s.1, Value.table s.2)).filter
        (fun e => !isTable e.2) = [] := by
      rw [List.filter_eq_nil_iff]
      intro e mem
      obtain ⟨s, -, rfl⟩ := List.mem_map.mp mem
      exact Bool.false_ne_true
    rw [List.filter_append, tables, List.append_nil, List.filter_eq_self]
    simpa using noTable
  have noLines : plain.flatMap section? = [] := by
    rw [List.flatMap_eq_nil_iff]
    intro e mem
    have entry := noTable e mem
    obtain ⟨k, v⟩ := e
    cases v <;> first | rfl | cases entry
  rw [document, plains, List.flatMap_append, noLines, List.nil_append, List.flatMap_map,
    String.toList_ofList]

theorem head?_ne_mark {plain : Table} (sections : List (String × Table))
    (bare : ∀ k ∈ plain.map Prod.fst, isBareKey k) :
    (keyLines plain ++ sections.flatMap fun s => section? (s.1, .table s.2)).head? ≠
      some '\uFEFF' := by
  cases plain with
  | nil =>
    cases sections with
    | nil => simp [keyLines]
    | cons s sections => simp [keyLines, section?]
  | cons e plain =>
    obtain ⟨k, v⟩ := e
    obtain ⟨c, r, chars, first⟩ := eq_cons_of_isBareKey (bare k List.mem_cons_self)
    simp [keyLines, chars, ne_of_isBare first (d := '\uFEFF') rfl]

/-- A document of plain entries and sections reads back as it was written. -/
theorem read?_document {plain : Table} {sections : List (String × Table)}
    (keys : ∀ s ∈ sections, isBareKey s.1)
    (writable : Reader.Writable plain ∧ ∀ s ∈ sections, Reader.Writable s.2)
    (noTable : ∀ e ∈ plain, isTable e.2 = false)
    (nodup : (plain.map Prod.fst ++ sections.map Prod.fst).Nodup) :
    read? (document (plain ++ sections.map fun s => (s.1, .table s.2))) =
      some (plain ++ sections.map fun s => (s.1, .table s.2)) := by
  have text := toList_document sections noTable
  obtain ⟨-, apart, disjoint⟩ := List.nodup_append.mp nodup
  have names : (Node.ofEntries plain).map Prod.fst = plain.map Prod.fst := by
    simp [Node.ofEntries, Function.comp_def]
  have new : ∀ s ∈ sections, s.1 ∉ (Node.ofEntries plain).map Prod.fst := fun s mem inside =>
    disjoint s.1 (names ▸ inside) s.1 (List.mem_map_of_mem mem) rfl
  obtain ⟨header, sectionsRead⟩ := Reader.readsTo_sections keys writable.2 apart new []
  have read : Reader.ReadsTo .empty
      (keyLines plain ++ sections.flatMap fun s => section? (s.1, .table s.2))
      ⟨Node.ofEntries plain ++ Node.ofSections sections, header⟩ :=
    Reader.readsTo_keyLines (fun es k v new => Document.assign_root new v) writable.1 (by simp)
      sectionsRead
  rw [← text] at read
  have noMark := head?_ne_mark sections writable.1.bare
  rw [← text] at noMark
  rw [read?_of_readsTo noMark read, Node.toEntries_append, Node.toEntries_ofEntries,
    Node.toEntries_ofSections]

end Tether.Toml
