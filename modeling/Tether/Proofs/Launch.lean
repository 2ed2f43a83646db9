import Mathlib.Data.List.Forall2
import Tether.Shell.Launch

/-! Which default shells run. Exactly what is there and is either on a line of the list of login
shells or a spelling of an allowed path. A spelling may have capitals for small letters, so more is
accepted than the two lists name; of what has no capitals, nothing else. -/

namespace Tether.Shell

/-! ### Lines -/

/-- A line of a text stands at the beginning or behind a line end, and in front of one or at the
end of the text. There it is not empty: the last line end begins no other line. -/
def IsLine (text line : List Char) : Prop :=
  '\n' ∉ line ∧ ∃ before after, text = before ++ line ++ after ∧
    (before = [] ∨ ∃ front, before = front ++ ['\n']) ∧
    ((∃ rest, after = '\n' :: rest) ∨ after = [] ∧ line ≠ [])

theorem lines_eq_nil_iff {cs : List Char} : lines cs = [] ↔ cs = [] := by
  cases cs with
  | nil => simp [lines]
  | cons c r =>
    rw [lines]
    split
    · simp
    · split <;> simp

theorem lines_of_notMem {line : List Char} (one : '\n' ∉ line) (some : line ≠ []) :
    lines line = [line] := by
  induction line with
  | nil => contradiction
  | cons c r ih =>
    rw [List.mem_cons, not_or] at one
    rw [lines, if_neg (Ne.symm one.1)]
    cases r with
    | nil => rfl
    | cons d r => rw [ih one.2 (List.cons_ne_nil d r)]

theorem lines_ended_of_notMem {line : List Char} (one : '\n' ∉ line) :
    lines (line ++ ['\n']) = [line] := by
  induction line with
  | nil => rfl
  | cons c r ih =>
    rw [List.mem_cons, not_or] at one
    rw [List.cons_append, lines, if_neg (Ne.symm one.1), ih one.2]

/-- A line end parts the lines before it from those behind it. -/
theorem lines_append (front rest : List Char) :
    lines (front ++ '\n' :: rest) = lines (front ++ ['\n']) ++ lines rest := by
  induction front with
  | nil => simp [lines]
  | cons c r ih =>
    rw [List.cons_append, List.cons_append, lines, lines]
    split
    · rw [ih, List.cons_append]
    · rw [ih]
      have some : lines (r ++ ['\n']) ≠ [] := by simp [lines_eq_nil_iff]
      cases held : lines (r ++ ['\n']) with
      | nil => contradiction
      | cons line more => rfl

theorem IsLine.later {rest line : List Char} (front : List Char) (h : IsLine rest line) :
    IsLine (front ++ '\n' :: rest) line := by
  obtain ⟨one, before, after, rfl, start, stop⟩ := h
  refine ⟨one, front ++ '\n' :: before, after, by simp, .inr ?_, stop⟩
  obtain rfl | ⟨front', rfl⟩ := start
  · exact ⟨front, rfl⟩
  · exact ⟨front ++ '\n' :: front', by simp⟩

theorem isLine_of_mem_lines (text : List Char) {line : List Char} (mem : line ∈ lines text) :
    IsLine text line := by
  by_cases ended : '\n' ∈ text
  · obtain ⟨front, rest, split, first⟩ := List.eq_append_cons_of_mem ended
    have shorter : rest.length < text.length := by simp [split]; omega
    rw [split] at mem ⊢
    rw [lines_append, lines_ended_of_notMem first, List.singleton_append, List.mem_cons] at mem
    obtain rfl | mem := mem
    · exact ⟨first, [], _, rfl, .inl rfl, .inl ⟨rest, rfl⟩⟩
    · exact (isLine_of_mem_lines rest mem).later front
  · have some : text ≠ [] := by
      rintro rfl
      simp [lines] at mem
    rw [lines_of_notMem ended some, List.mem_singleton] at mem
    subst mem
    exact ⟨ended, [], [], by simp, .inl rfl, .inr ⟨rfl, some⟩⟩
termination_by text.length

theorem mem_lines_of_start {line after : List Char} (one : '\n' ∉ line)
    (stop : (∃ rest, after = '\n' :: rest) ∨ after = [] ∧ line ≠ []) :
    line ∈ lines (line ++ after) := by
  obtain ⟨rest, rfl⟩ | ⟨rfl, some⟩ := stop
  · rw [lines_append, lines_ended_of_notMem one]
    exact List.mem_cons_self
  · rw [List.append_nil, lines_of_notMem one some]
    exact List.mem_cons_self

theorem mem_lines_iff {text line : List Char} : line ∈ lines text ↔ IsLine text line := by
  refine ⟨isLine_of_mem_lines text, ?_⟩
  rintro ⟨one, before, after, rfl, start, stop⟩
  have mem := mem_lines_of_start one stop
  obtain rfl | ⟨front, rfl⟩ := start
  · exact mem
  · rw [List.append_assoc, List.append_assoc, List.singleton_append, lines_append]
    exact List.mem_append_right _ mem

/-- The list of login shells has the shell on a line of its own, white space around it aside, that
is no comment. -/
def System.Lists (sys : System) (shell : String) : Prop :=
  ∃ text line, sys.loginShells = some text ∧ IsLine text.toList line ∧
    Text.trimBoth Text.isBlank line = shell.toList ∧ shell.toList.head? ≠ some '#'

theorem lists_iff {text shell : String} : lists text shell ↔ ∃ line, IsLine text.toList line ∧
    Text.trimBoth Text.isBlank line = shell.toList ∧ shell.toList.head? ≠ some '#' := by
  simp only [lists, List.any_eq_true, mem_lines_iff, Bool.and_eq_true, decide_eq_true_eq]
  refine exists_congr fun line => and_congr_right fun _ => ?_
  constructor
  · rintro ⟨plain, same⟩
    exact ⟨same, same ▸ plain⟩
  · rintro ⟨same, plain⟩
    exact ⟨same.symm ▸ plain, same⟩

theorem System.lists_iff {sys : System} {shell : String} :
    sys.loginShells.any (lists · shell) ↔ sys.Lists shell := by
  cases held : sys.loginShells with
  | none => simp [Lists, held]
  | some text => simp [Lists, held, Shell.lists_iff]

/-! ### Spellings -/

/-- A character that passes for `c`: itself, its capital, or the Kelvin sign for the letter of that
name. -/
def PassesFor (c d : Char) : Prop :=
  d = c ∨ (d.isUpper ∧ d.toLower = c) ∨ (c = 'k' ∧ d = '\u212A')

/-- A text that differs from a path in nothing but capitals. -/
def Spells (path shell : String) : Prop := List.Forall₂ PassesFor path.toList shell.toList

theorem lowerChar_eq_iff {c d : Char} (small : lowerChar c = c) :
    lowerChar d = c ↔ PassesFor c d := by
  rw [PassesFor]
  by_cases kelvin : d.val = 0x212A
  · have folded : lowerChar d = 'k' := if_pos kelvin
    have sign : d = '\u212A' := Char.ext kelvin
    have none : ¬ d.isUpper := by rw [sign]; decide
    constructor
    · rintro rfl
      exact .inr (.inr ⟨folded, sign⟩)
    · rintro (rfl | ⟨upper, -⟩ | ⟨rfl, -⟩)
      · exact small
      · contradiction
      · exact folded
  · have folded : lowerChar d = d.toLower := if_neg kelvin
    constructor
    · intro same
      by_cases upper : d.isUpper
      · exact .inr (.inl ⟨upper, folded.symm.trans same⟩)
      · have plain : d.toLower = d := dif_neg fun between => upper (decide_eq_true between)
        exact .inl (plain.symm.trans (folded.symm.trans same))
    · rintro (rfl | ⟨-, same⟩ | ⟨-, rfl⟩)
      · exact small
      · exact folded.trans same
      · exact absurd rfl kelvin

theorem map_lowerChar_eq_iff {path shell : List Char} (small : ∀ c ∈ path, lowerChar c = c) :
    shell.map lowerChar = path ↔ List.Forall₂ PassesFor path shell := by
  induction path generalizing shell with
  | nil => simp
  | cons c path ih =>
    rw [List.forall_mem_cons] at small
    rw [List.map_eq_cons_iff, List.forall₂_cons_left_iff]
    simp only [ih small.2, lowerChar_eq_iff small.1]
    constructor
    · rintro ⟨d, rest, rfl, first, more⟩
      exact ⟨d, rest, first, more, rfl⟩
    · rintro ⟨d, rest, first, more, rfl⟩
      exact ⟨d, rest, rfl, first, more⟩

theorem small_of_mem_allowedShells {path : String} (mem : path ∈ allowedShells) :
    ∀ c ∈ path.toList, lowerChar c = c := by
  have small : allowedShells.all fun path => path.toList.all fun c => lowerChar c = c := by decide
  simpa using List.all_eq_true.mp small path mem

theorem isAllowed_iff {shell : String} :
    isAllowed shell ↔ ∃ path ∈ allowedShells, Spells path shell := by
  simp only [isAllowed, List.any_eq_true, decide_eq_true_eq, lower, String.ofList_inj]
  refine exists_congr fun path => and_congr_right fun mem => ?_
  have small := small_of_mem_allowedShells mem
  rw [List.map_congr_left small, List.map_id', eq_comm, map_lowerChar_eq_iff small, Spells]

/-! ### Acceptance -/

namespace System

/-- What the two lists name. -/
def Names (sys : System) (shell : String) : Prop := shell ∈ allowedShells ∨ sys.Lists shell

def Accepts (sys : System) (shell : String) : Prop :=
  sys.pathExists shell ∧ ((∃ path ∈ allowedShells, Spells path shell) ∨ sys.Lists shell)

/-- The default shell where a session asks for no command. -/
def wanted (sys : System) (settings : ShellSettings) : String :=
  (settings.defaultShell.or sys.userShell).getD fallbackShell

variable {sys : System} {shell : String}

theorem accepts_of_names (names : sys.Names shell) (there : sys.pathExists shell) :
    sys.Accepts shell := by
  refine ⟨there, names.imp_left fun mem => ⟨shell, mem, ?_⟩⟩
  exact List.forall₂_same.mpr fun c _ => .inl rfl

/-- Without capitals a text spells no path but itself. -/
theorem accepts_iff_of_small (small : ∀ c ∈ shell.toList, lowerChar c = c) :
    sys.Accepts shell ↔ sys.pathExists shell ∧ sys.Names shell := by
  refine ⟨fun accepts => ⟨accepts.1, accepts.2.imp_left ?_⟩, fun h => accepts_of_names h.2 h.1⟩
  rintro ⟨path, mem, spells⟩
  have same := (map_lowerChar_eq_iff (small_of_mem_allowedShells mem)).mpr spells
  rw [List.map_congr_left small, List.map_id', String.toList_inj] at same
  exact same ▸ mem

end System

/-- Why a default shell is not accepted. -/
def refusal (shell : String) : String :=
  if isAllowed shell then "Shell '" ++ shell ++ "' does not exist"
  else "Shell '" ++ shell ++ "' is not in the allowed shell list. Allowed shells: "
    ++ quotedList allowedShells

theorem checkShell_of_accepts {sys : System} {shell : String} (accepts : sys.Accepts shell) :
    checkShell sys shell = .ok shell := by
  obtain ⟨there, named⟩ := accepts
  rw [← isAllowed_iff, ← System.lists_iff] at named
  by_cases allowed : isAllowed shell
  · rw [checkShell, if_pos allowed, if_pos there]
  · have listed := named.resolve_left allowed
    rw [checkShell, if_neg allowed, listed, there]
    rfl

theorem checkShell_of_not_accepts {sys : System} {shell : String} (other : ¬ sys.Accepts shell) :
    checkShell sys shell = .error ⟨refusal shell, []⟩ := by
  rw [System.Accepts, ← isAllowed_iff, ← System.lists_iff] at other
  by_cases allowed : isAllowed shell
  · have missing : ¬ sys.pathExists shell := fun there => other ⟨there, .inl allowed⟩
    rw [checkShell, if_pos allowed, if_neg missing, refusal, if_pos allowed]
  · have neither : ¬ (sys.loginShells.any (lists · shell) && sys.pathExists shell) := by
      rw [Bool.and_eq_true]
      exact fun both => other ⟨both.2, .inr both.1⟩
    rw [checkShell, if_neg allowed, if_neg neither, refusal, if_neg allowed]

theorem checkShell_eq_ok_iff {sys : System} {shell s : String} :
    checkShell sys shell = .ok s ↔ s = shell ∧ sys.Accepts shell := by
  by_cases accepts : sys.Accepts shell
  · rw [checkShell_of_accepts accepts, Except.ok.injEq]
    exact ⟨fun same => ⟨same.symm, accepts⟩, fun h => h.1.symm⟩
  · rw [checkShell_of_not_accepts accepts]
    exact ⟨nofun, fun h => absurd h.2 accepts⟩

theorem defaultShell_eq (sys : System) (settings : ShellSettings) :
    Launch.defaultShell sys settings = match checkShell sys (sys.wanted settings) with
      | .ok shell => .ok (shell, [])
      | .error e =>
        .error ⟨"Invalid shell requested: " ++ sys.wanted settings, e.context :: e.deeper⟩ := rfl

/-- A default shell is accepted, and then as it is, exactly if it is there and is listed or spells
an allowed path. So whatever the lists name is accepted where it is there, and without capitals
nothing else. An accepted one is what is started, alone; for any other nothing is started. -/
theorem default_shell_accepted_iff (sys : System) (settings : ShellSettings)
    (env : List (String × String)) :
    (∀ shell s, checkShell sys shell = .ok s ↔ s = shell ∧ sys.Accepts shell) ∧
    (∀ shell, sys.Names shell → sys.pathExists shell → sys.Accepts shell) ∧
    (∀ shell, (∀ c ∈ shell.toList, lowerChar c = c) →
      (sys.Accepts shell ↔ sys.pathExists shell ∧ sys.Names shell)) ∧
    (sys.Accepts (sys.wanted settings) → ∃ launch,
      Launch.ofRequest sys settings none env = .ok launch ∧
        launch.program = sys.wanted settings ∧ launch.arguments = []) ∧
    (¬ sys.Accepts (sys.wanted settings) → Launch.ofRequest sys settings none env =
      .error ⟨"Invalid shell requested: " ++ sys.wanted settings,
        [refusal (sys.wanted settings)]⟩) := by
  refine ⟨fun _ _ => checkShell_eq_ok_iff, fun _ => System.accepts_of_names,
    fun _ => System.accepts_iff_of_small, fun accepts => ?_, fun other => ?_⟩
  · rw [Launch.ofRequest, defaultShell_eq, checkShell_of_accepts accepts]
    exact ⟨_, rfl, rfl, rfl⟩
  · rw [Launch.ofRequest, defaultShell_eq, checkShell_of_not_accepts other]
    rfl

/-- A system where one file is there, under a name in capitals that no list has. -/
def shouting : System where
  pathExists path := path = "/BIN/SH"
  loginShells := some "# login shells\n/bin/sh\n"
  userShell := some "/BIN/SH"
  language := none

/-- The file of that name is run. -/
theorem capitals_run : "/BIN/SH" ∉ allowedShells ∧ ¬ shouting.Lists "/BIN/SH" ∧
    checkShell shouting "/BIN/SH" = .ok "/BIN/SH" ∧ ∃ launch,
      Launch.ofRequest shouting .standard none [] = .ok launch ∧ launch.program = "/BIN/SH" := by
  refine ⟨by decide, ?_, by decide, ?_⟩
  · rw [← System.lists_iff]
    decide
  · exact ⟨_, rfl, rfl⟩

end Tether.Shell
