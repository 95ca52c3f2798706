import FieldGrammar.Command.Run
import FieldGrammar.Proofs.Positions

/-!
# The configuration in force in the interactive loop

A line is answered under the configuration of the last line before it that loaded
one.  No other line leaves a trace: a grammar file that cannot be used leaves the
loop as it was, and so does a line that only asks for an answer.
-/

namespace FieldGrammar
namespace Command
namespace Repl

/-!
# Lines that end the loop and lines that load

Both are told from the line without the white space around it.
-/

def command (line : String) : List Char :=
  Text.trim Character.isWhiteSpace line.toList

def Quits (line : String) : Prop :=
  command line = ":quit".toList ∨ command line = ":q".toList

instance (line : String) : Decidable (Quits line) :=
  inferInstanceAs (Decidable (command line = ":quit".toList ∨ command line = ":q".toList))

/-- The path of the grammar file that a line asks for. -/
def grammarPath? (line : String) : Option String :=
  if loadCommand <+: command line then
    some (String.ofList
      (Text.trim Character.isWhiteSpace ((command line).drop loadCommand.length)))
  else none

/-- The configuration that a line loads, if the file can be used. -/
def loaded? (files : Files) (line : String) : Option Config := do
  let path ← grammarPath? line
  (Config.ofFile path (files path)).toOption

/-- A line that neither ends the loop nor loads a configuration. -/
structure Idle (files : Files) (line : String) : Prop where
  not_quits : ¬ Quits line
  loads_nothing : loaded? files line = none

theorem ofString_eq (line : String) :
    Line.ofString line =
      if Quits line then .quit
      else if command line = ":help".toList ∨ command line = ":h".toList then .help
      else if command line = ":format".toList then .format
      else if loadCommand.isPrefixOf (command line) then
        .load (String.ofList
          (Text.trim Character.isWhiteSpace ((command line).drop loadCommand.length)))
      else if (command line).head? = some ':' then .unknown
      else .text line := rfl

theorem ofString_eq_quit_iff {line : String} : Line.ofString line = .quit <-> Quits line := by
  rw [ofString_eq]
  split_ifs with hquits <;> simp [hquits]

/-- No other command starts like the one that loads a grammar file. -/
theorem ofString_of_grammarPath? {line path : String} (h : grammarPath? line = some path) :
    Line.ofString line = .load path := by
  unfold grammarPath? at h
  split_ifs at h with hload
  have hother : forall other, ¬ loadCommand <+: other -> command line ≠ other := by
    intro other hnot hsame
    rw [hsame] at hload
    exact hnot hload
  have hquits : ¬ Quits line :=
    not_or.mpr ⟨hother _ (by decide), hother _ (by decide)⟩
  have hhelp : ¬ (command line = ":help".toList ∨ command line = ":h".toList) :=
    not_or.mpr ⟨hother _ (by decide), hother _ (by decide)⟩
  have hformat : command line ≠ ":format".toList := hother _ (by decide)
  rw [ofString_eq, if_neg hquits, if_neg hhelp, if_neg hformat,
    if_pos (List.isPrefixOf_iff_prefix.mpr hload), Option.some.inj h]

theorem grammarPath?_of_ofString {line path : String} (h : Line.ofString line = .load path) :
    grammarPath? line = some path := by
  rw [ofString_eq] at h
  unfold grammarPath?
  split_ifs at h with _ _ _ hload
  rw [if_pos (List.isPrefixOf_iff_prefix.mp hload), Line.load.inj h]

/-!
# One line

A line ends the loop, or it leaves the configuration that it loads, and the one it
was answered under if it loads none.
-/

theorem loaded?_of_ofString {line path : String} (files : Files)
    (h : Line.ofString line = .load path) :
    loaded? files line = (Config.ofFile path (files path)).toOption := by
  rw [loaded?, grammarPath?_of_ofString h]
  rfl

theorem loaded?_of_not_load {line : String} (files : Files)
    (h : forall path, Line.ofString line ≠ .load path) : loaded? files line = none := by
  cases hpath : grammarPath? line with
  | none =>
      rw [loaded?, hpath]
      rfl
  | some path => exact absurd (ofString_of_grammarPath? hpath) (h path)

theorem load_config (files : Files) (config : Config) (path : String) :
    (load files config path).config =
      ((Config.ofFile path (files path)).toOption).getD config := by
  unfold load
  split
  · rename_i loaded hloaded
    rw [hloaded]
    rfl
  · rename_i error herror
    rw [herror]
    rfl

theorem turn?_of_quits {line : String} (h : Quits line) (files : Files) (config : Config) :
    turn? files config line = none := by
  rw [turn?, ofString_eq_quit_iff.mpr h]

theorem turn?_of_not_quits {line : String} (h : ¬ Quits line) (files : Files)
    (config : Config) :
    exists turn, turn? files config line = some turn ∧
      turn.config = (loaded? files line).getD config := by
  unfold turn?
  cases hline : Line.ofString line with
  | quit => exact absurd (ofString_eq_quit_iff.mp hline) h
  | load path =>
      refine ⟨_, rfl, ?_⟩
      rw [load_config, loaded?_of_ofString files hline]
  | help | format | unknown | text =>
      refine ⟨_, rfl, ?_⟩
      rw [loaded?_of_not_load files (by simp [hline])]
      rfl

/-!
# All lines
-/

/-- The configuration of the last line that loaded one, or the first configuration. -/
def inForce (files : Files) (start : Config) (earlier : List String) : Config :=
  ((earlier.filterMap (loaded? files)).getLast?).getD start

theorem inForce_cons (files : Files) (start : Config) (line : String) (rest : List String) :
    inForce files start (line :: rest) =
      inForce files ((loaded? files line).getD start) rest := by
  unfold inForce
  cases hloaded : loaded? files line with
  | none => rw [List.filterMap_cons_none hloaded, Option.getD_none]
  | some config =>
      rw [List.filterMap_cons_some hloaded, List.getLast?_cons, Option.getD_some,
        Option.getD_some]

theorem turns_of_quits {line : String} (h : Quits line) (files : Files) (config : Config)
    (rest : List String) : turns files config (line :: rest) = [] := by
  rw [turns, turn?_of_quits h]

theorem turns_of_turn? {files : Files} {config : Config} {line : String} {turn : Turn}
    (h : turn? files config line = some turn) (rest : List String) :
    turns files config (line :: rest) = turn :: turns files turn.config rest := by
  rw [turns, h]

theorem length_turns {files : Files} {start : Config} {lines : List String}
    (h : forall line, line ∈ lines -> ¬ Quits line) :
    (turns files start lines).length = lines.length := by
  induction lines generalizing start with
  | nil => rfl
  | cons line rest ih =>
      rw [List.forall_mem_cons] at h
      rcases turn?_of_not_quits h.1 files start with ⟨turn, hturn, _⟩
      rw [turns_of_turn? hturn, List.length_cons, List.length_cons, ih h.2]

/-- After lines that do not end the loop it goes on under the configuration in force. -/
theorem turns_append {files : Files} {start : Config} {lines : List String}
    (h : forall line, line ∈ lines -> ¬ Quits line) (rest : List String) :
    turns files start (lines ++ rest) =
      turns files start lines ++ turns files (inForce files start lines) rest := by
  induction lines generalizing start with
  | nil => rfl
  | cons line others ih =>
      rw [List.forall_mem_cons] at h
      rcases turn?_of_not_quits h.1 files start with ⟨turn, hturn, hconfig⟩
      rw [List.cons_append, turns_of_turn? hturn, turns_of_turn? hturn, ih h.2, inForce_cons,
        ← hconfig, List.cons_append]

/-- Nothing comes of the line that ends the loop, nor of any line after it. -/
theorem turns_quit {line : String} (h : Quits line) (files : Files) (start : Config)
    (before after : List String) :
    turns files start (before ++ line :: after) = turns files start before := by
  induction before generalizing start with
  | nil => exact turns_of_quits h files start after
  | cons first rest ih =>
      rw [List.cons_append]
      by_cases hfirst : Quits first
      · rw [turns_of_quits hfirst, turns_of_quits hfirst]
      · rcases turn?_of_not_quits hfirst files start with ⟨turn, hturn, _⟩
        rw [turns_of_turn? hturn, turns_of_turn? hturn, ih]

theorem turn_at {files : Files} {start : Config} {before after : List String} {line : String}
    (h : forall earlier, earlier ∈ before -> ¬ Quits earlier) :
    (turns files start (before ++ line :: after))[before.length]? =
      turn? files (inForce files start before) line := by
  rw [turns_append h, List.getElem?_append_right (Nat.le_of_eq (length_turns h)),
    length_turns h, Nat.sub_self]
  by_cases hquits : Quits line
  · rw [turns_of_quits hquits, turn?_of_quits hquits]
    rfl
  · rcases turn?_of_not_quits hquits files (inForce files start before) with ⟨turn, hturn, _⟩
    rw [turns_of_turn? hturn, hturn]
    rfl

theorem config_after {files : Files} {start : Config} {lines : List String} {i : Nat}
    {turn : Turn} (h : (turns files start lines)[i]? = some turn) :
    turn.config = inForce files start (lines.take (i + 1)) := by
  induction lines generalizing start i with
  | nil => cases h
  | cons line rest ih =>
      by_cases hquits : Quits line
      · rw [turns_of_quits hquits] at h
        cases h
      · rcases turn?_of_not_quits hquits files start with ⟨first, hfirst, hconfig⟩
        rw [turns_of_turn? hfirst] at h
        rw [List.take_succ_cons, inForce_cons, ← hconfig]
        cases i with
        | zero =>
            cases h
            rfl
        | succ i => exact ih h

/-!
# Lines that are left out
-/

/-- Leaving idle lines out leaves out their turns, and changes no other. -/
theorem turns_pick {files : Files} {start : Config} {lines : List String}
    {kept : Nat -> Bool}
    (h : forall i line, lines[i]? = some line -> kept i = false -> Idle files line) :
    turns files start (pick kept lines) = pick kept (turns files start lines) := by
  induction lines generalizing start kept with
  | nil => rfl
  | cons line rest ih =>
      have hrest : forall i other, rest[i]? = some other -> kept (i + 1) = false ->
          Idle files other := fun i other hget => h (i + 1) other hget
      rw [pick_cons]
      by_cases hquits : Quits line
      · have hkept : kept 0 = true := by
          rw [← Bool.not_eq_false]
          intro hout
          exact (h 0 line rfl hout).not_quits hquits
        rw [if_pos hkept, turns_of_quits hquits, List.singleton_append, turns_of_quits hquits]
        rfl
      · rcases turn?_of_not_quits hquits files start with ⟨turn, hturn, hconfig⟩
        rw [turns_of_turn? hturn, pick_cons, ← ih hrest]
        by_cases hkept : kept 0 = true
        · rw [if_pos hkept, if_pos hkept, List.singleton_append, turns_of_turn? hturn,
            List.singleton_append]
        · have hidle := h 0 line rfl (Bool.eq_false_iff.mpr hkept)
          rw [hidle.loads_nothing, Option.getD_none] at hconfig
          rw [if_neg hkept, if_neg hkept, List.nil_append, List.nil_append, hconfig]

/-- What the answers to a list of lines depend on. -/
structure FollowsLoads (files : Files) (start : Config) (lines : List String) : Prop where
  answered : forall before line after, lines = before ++ line :: after ->
    (forall earlier, earlier ∈ before -> ¬ Quits earlier) ->
    (turns files start lines)[before.length]? = turn? files (inForce files start before) line
  left : forall i turn, (turns files start lines)[i]? = some turn ->
    turn.config = inForce files start (lines.take (i + 1))
  without_idle : forall kept : Nat -> Bool,
    (forall i line, lines[i]? = some line -> kept i = false -> Idle files line) ->
    turns files start (pick kept lines) = pick kept (turns files start lines)
  ended : forall before line after, lines = before ++ line :: after -> Quits line ->
    turns files start lines = turns files start before
  outcome_ended : forall before line after input other, lines = before ++ line :: after ->
    Quits line -> linesOf input = lines -> linesOf other = before ->
    runRepl files start input = runRepl files start other

theorem turns_followLoads (files : Files) (start : Config) (lines : List String) :
    FollowsLoads files start lines := by
  constructor
  case answered =>
    rintro before line after rfl hbefore
    exact turn_at hbefore
  case left =>
    intro i turn hturn
    exact config_after hturn
  case without_idle =>
    intro kept hidle
    exact turns_pick hidle
  case ended =>
    rintro before line after rfl hquits
    exact turns_quit hquits files start before after
  case outcome_ended =>
    rintro before line after input other rfl hquits hinput hother
    rw [runRepl, runRepl, hinput, hother, turns_quit hquits]

/-- A file that can be used, and one that cannot. -/
example :
    let files : Files := fun path =>
      if path = "a.json" then
        .ok "\x7b\"format\":[\"a\"],\"rules\":[\x7b\"name\":\"a\",\"pattern\":\"x\"\x7d]\x7d"
      else .error .notFound
    (turns files Builtin.config
        [":format", "\t:grammar  a.json ", ":grammar b.json", ":format", " :q", ":format"]).map
        Turn.output =
      [["identifier comparison value"], ["Loaded a.json"], [], ["a"]] := by
  decide +kernel

end Repl
end Command
end FieldGrammar
