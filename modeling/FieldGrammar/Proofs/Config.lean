import Mathlib.Data.List.Forall2
import Mathlib.Order.Bounds.Basic
import Mathlib.Order.Nat
import FieldGrammar.GrammarFile
import FieldGrammar.Proofs.Prediction
import FieldGrammar.Proofs.Splits

/-!
# Which configurations are accepted, and which fault is reported

A configuration is accepted exactly when its parts are well formed.  The faults of
parts that are not are told here by the order of the checks alone: the format, the
kind of text that no rule covers, the rules, the names of the format.  Where several
rules are at fault it is the first of them, and a rule is only at fault for its own
name or for the rules before it.  The rules of a grammar file are read before all
this.
-/

namespace FieldGrammar
namespace Config

/-!
# The first element at fault

Whether an element of a list is at fault may depend on the elements before it.
-/

def FaultyAt {α : Type} (faulty : List α -> α -> Prop) (xs : List α) (place : Nat) : Prop :=
  exists x, xs[place]? = some x ∧ faulty (xs.take place) x

/-- The element at the least place at which the list is at fault. -/
def FirstFaulty {α : Type} (faulty : List α -> α -> Prop) (xs : List α) (x : α) : Prop :=
  exists place, IsLeast { n | FaultyAt faulty xs n } place ∧ xs[place]? = some x

section FirstFaulty

variable {α : Type} {faulty : List α -> α -> Prop} {x y : α} {xs : List α}

theorem faultyAt_zero : FaultyAt faulty (x :: xs) 0 <-> faulty [] x := by
  simp [FaultyAt]

theorem faultyAt_succ {place : Nat} :
    FaultyAt faulty (x :: xs) (place + 1) <->
      FaultyAt (fun before => faulty (x :: before)) xs place := by
  simp [FaultyAt]

theorem not_firstFaulty_nil : ¬ FirstFaulty faulty [] x := by
  rintro ⟨place, _, hget⟩
  cases hget

theorem firstFaulty_head (faulty : List α -> α -> Prop) (h : faulty [] x) :
    FirstFaulty faulty (x :: xs) y <-> y = x := by
  have hleast : IsLeast { n | FaultyAt faulty (x :: xs) n } 0 :=
    ⟨faultyAt_zero.mpr h, fun n _ => Nat.zero_le n⟩
  constructor
  · rintro ⟨place, hplace, hget⟩
    rw [hplace.unique hleast, List.getElem?_cons_zero] at hget
    exact (Option.some.inj hget).symm
  · rintro rfl
    exact ⟨0, hleast, List.getElem?_cons_zero⟩

theorem firstFaulty_tail (faulty : List α -> α -> Prop) (h : ¬ faulty [] x) :
    FirstFaulty faulty (x :: xs) y <-> FirstFaulty (fun before => faulty (x :: before)) xs y := by
  constructor
  · rintro ⟨place, hplace, hget⟩
    cases place with
    | zero => exact absurd (faultyAt_zero.mp hplace.1) h
    | succ n =>
        refine ⟨n, ⟨faultyAt_succ.mp hplace.1, ?_⟩, hget⟩
        intro m hm
        exact Nat.le_of_succ_le_succ (hplace.2 (faultyAt_succ.mpr hm))
  · rintro ⟨place, hplace, hget⟩
    refine ⟨place + 1, ⟨faultyAt_succ.mpr hplace.1, ?_⟩, hget⟩
    intro m hm
    cases m with
    | zero => exact absurd (faultyAt_zero.mp hm) h
    | succ n => exact Nat.succ_le_succ (hplace.2 (faultyAt_succ.mp hm))

theorem exists_firstFaulty {place : Nat} (h : FaultyAt faulty xs place) :
    exists x, FirstFaulty faulty xs x := by
  classical
  have hleast := Nat.isLeast_find (Exists.intro place h)
  rcases hleast.1 with ⟨x, hget, _⟩
  exact ⟨x, _, hleast, hget⟩

theorem FirstFaulty.split (h : FirstFaulty faulty xs x) :
    exists before after, xs = before ++ x :: after ∧ faulty before x := by
  rcases h with ⟨place, hplace, hget⟩
  rcases hplace.1 with ⟨z, hz, hfaulty⟩
  rw [hget, Option.some.injEq] at hz
  subst hz
  exact ⟨_, _, (split_at_index hget).1, hfaulty⟩

theorem FirstFaulty.mem (h : FirstFaulty faulty xs x) : x ∈ xs := by
  rcases h with ⟨place, _, hget⟩
  exact List.mem_of_getElem? hget

end FirstFaulty

/-!
# Faults of a configuration
-/

def ReservedDefault (defaultKind : String) : Prop :=
  defaultKind = "" ∨ defaultKind = Token.whitespaceKind

def ReservedName (defaultKind name : String) : Prop :=
  name = Token.whitespaceKind ∨ name = defaultKind

def FaultyRule (defaultKind : String) (before : List Rule) (rule : Rule) : Prop :=
  ReservedName defaultKind rule.name ∨ rule.name ∈ before.map Rule.name

def UnknownField (rules : List Rule) (_ : List String) (name : String) : Prop :=
  name ∉ rules.map Rule.name

/-- The fault of a rule: a reserved name goes before a repeated one. -/
inductive RuleError (defaultKind : String) (rule : Rule) : ConfigError -> Prop where
  | reserved : ReservedName defaultKind rule.name ->
      RuleError defaultKind rule (.reservedName rule.name)
  | repeated : ¬ ReservedName defaultKind rule.name ->
      RuleError defaultKind rule (.duplicateRule rule.name)

/-- The fault of the first check that fails. -/
inductive FirstFault (format : List String) (rules : List Rule) (defaultKind : String) :
    ConfigError -> Prop where
  | emptyFormat : format = [] -> FirstFault format rules defaultKind .emptyFormat
  | reservedDefault :
      format ≠ [] -> ReservedDefault defaultKind ->
      FirstFault format rules defaultKind (.reservedName defaultKind)
  | faultyRule {rule : Rule} {error : ConfigError} :
      format ≠ [] -> ¬ ReservedDefault defaultKind ->
      FirstFaulty (FaultyRule defaultKind) rules rule -> RuleError defaultKind rule error ->
      FirstFault format rules defaultKind error
  | unknownField {name : String} :
      format ≠ [] -> ¬ ReservedDefault defaultKind ->
      (forall place, ¬ FaultyAt (FaultyRule defaultKind) rules place) ->
      FirstFaulty (UnknownField rules) format name ->
      FirstFault format rules defaultKind (.unknownField name)

/-!
# The checks find the first fault
-/

/-- The names are those of the rules, in any order. -/
def NamesOf (names : List String) (rules : List Rule) : Prop :=
  forall name, name ∈ names <-> name ∈ rules.map Rule.name

theorem namesOf_nil : NamesOf [] [] := fun _ => Iff.rfl

theorem NamesOf.concat {names : List String} {rules : List Rule} (h : NamesOf names rules)
    (rule : Rule) : NamesOf (rule.name :: names) (rules ++ [rule]) := by
  intro name
  simp [h name, or_comm]

section RuleFault

variable {defaultKind : String} {earlier : List String} {rule : Rule}

theorem ruleFault?_reserved (h : ReservedName defaultKind rule.name) (rest : List Rule) :
    ruleFault? defaultKind earlier (rule :: rest) = some (.reservedName rule.name) :=
  if_pos h

theorem ruleFault?_repeated (h : ¬ ReservedName defaultKind rule.name)
    (hmem : rule.name ∈ earlier) (rest : List Rule) :
    ruleFault? defaultKind earlier (rule :: rest) = some (.duplicateRule rule.name) :=
  (if_neg h).trans (if_pos hmem)

theorem ruleFault?_sound (h : ¬ ReservedName defaultKind rule.name)
    (hmem : rule.name ∉ earlier) (rest : List Rule) :
    ruleFault? defaultKind earlier (rule :: rest) =
      ruleFault? defaultKind (rule.name :: earlier) rest :=
  (if_neg h).trans (if_neg hmem)

end RuleFault

theorem ruleFault?_eq_some_iff {defaultKind : String} {earlier : List String}
    {front rules : List Rule} {error : ConfigError} (hearlier : NamesOf earlier front) :
    ruleFault? defaultKind earlier rules = some error <->
      exists rule,
        FirstFaulty (fun before => FaultyRule defaultKind (front ++ before)) rules rule ∧
          RuleError defaultKind rule error := by
  induction rules generalizing earlier front with
  | nil => simp [ruleFault?, not_firstFaulty_nil]
  | cons rule rest ih =>
      have hfaulty : FaultyRule defaultKind (front ++ []) rule <->
          ReservedName defaultKind rule.name ∨ rule.name ∈ earlier := by
        rw [List.append_nil, FaultyRule, hearlier rule.name]
      by_cases hreserved : ReservedName defaultKind rule.name
      · simp only [ruleFault?_reserved hreserved, Option.some.injEq, exists_eq_left,
          firstFaulty_head (fun before => FaultyRule defaultKind (front ++ before))
            (hfaulty.mpr (Or.inl hreserved))]
        constructor
        · rintro rfl
          exact .reserved hreserved
        · rintro (_ | hfree)
          · rfl
          · exact absurd hreserved hfree
      · by_cases hrepeated : rule.name ∈ earlier
        · simp only [ruleFault?_repeated hreserved hrepeated, Option.some.injEq, exists_eq_left,
            firstFaulty_head (fun before => FaultyRule defaultKind (front ++ before))
              (hfaulty.mpr (Or.inr hrepeated))]
          constructor
          · rintro rfl
            exact .repeated hreserved
          · rintro (hsame | _)
            · exact absurd hsame hreserved
            · rfl
        · -- the rule joins those in front, and its name the names before the rest
          have hsound : ¬ FaultyRule defaultKind (front ++ []) rule := by
            rw [hfaulty, not_or]
            exact ⟨hreserved, hrepeated⟩
          rw [ruleFault?_sound hreserved hrepeated, ih (hearlier.concat rule)]
          simp only [List.append_assoc, List.singleton_append,
            firstFaulty_tail (fun before => FaultyRule defaultKind (front ++ before)) hsound]

theorem formatFault?_known {rules : List Rule} {name : String}
    (h : name ∈ rules.map Rule.name) (rest : List String) :
    formatFault? (name :: rest) rules = formatFault? rest rules := by
  have hcontains : (rules.map Rule.name).contains name = true := List.contains_iff_mem.mpr h
  simp only [formatFault?, List.find?_cons, hcontains, Bool.not_true]

theorem formatFault?_unknown {rules : List Rule} {name : String}
    (h : name ∉ rules.map Rule.name) (rest : List String) :
    formatFault? (name :: rest) rules = some (.unknownField name) := by
  have hcontains : (rules.map Rule.name).contains name = false := by
    rw [← Bool.not_eq_true, List.contains_iff_mem]
    exact h
  simp only [formatFault?, List.find?_cons, hcontains, Bool.not_false, Option.map_some]

theorem formatFault?_eq_some_iff {format : List String} {rules : List Rule}
    {error : ConfigError} :
    formatFault? format rules = some error <->
      exists name, FirstFaulty (UnknownField rules) format name ∧ error = .unknownField name := by
  induction format with
  | nil => simp [formatFault?, not_firstFaulty_nil]
  | cons name rest ih =>
      by_cases hknown : name ∈ rules.map Rule.name
      · have hsound : ¬ UnknownField rules [] name := fun hnot => hnot hknown
        rw [formatFault?_known hknown, ih]
        simp only [firstFaulty_tail (UnknownField rules) hsound]
        rfl
      · simp only [formatFault?_unknown hknown, firstFaulty_head (UnknownField rules) hknown,
          exists_eq_left, Option.some.injEq]
        exact eq_comm

theorem ruleFault?_nil_iff {defaultKind : String} {rules : List Rule} {error : ConfigError} :
    ruleFault? defaultKind [] rules = some error <->
      exists rule, FirstFaulty (FaultyRule defaultKind) rules rule ∧
        RuleError defaultKind rule error :=
  ruleFault?_eq_some_iff namesOf_nil

theorem ruleFault?_eq_none_iff {defaultKind : String} {rules : List Rule} :
    ruleFault? defaultKind [] rules = none <->
      forall place, ¬ FaultyAt (FaultyRule defaultKind) rules place := by
  constructor
  · intro hnone place hplace
    rcases exists_firstFaulty hplace with ⟨rule, hfirst⟩
    have herror : exists error, RuleError defaultKind rule error := by
      by_cases hreserved : ReservedName defaultKind rule.name
      · exact ⟨_, .reserved hreserved⟩
      · exact ⟨_, .repeated hreserved⟩
    rcases herror with ⟨error, herror⟩
    rw [ruleFault?_nil_iff.mpr ⟨rule, hfirst, herror⟩] at hnone
    cases hnone
  · intro hsound
    cases hfault : ruleFault? defaultKind [] rules with
    | none => rfl
    | some error =>
        rcases ruleFault?_nil_iff.mp hfault with ⟨rule, ⟨place, hplace, _⟩, _⟩
        exact absurd hplace.1 (hsound place)

section FirstFault

variable {format : List String} {rules : List Rule} {defaultKind : String}

theorem firstFault?_of_sound (hformat : format ≠ []) (hdefault : ¬ ReservedDefault defaultKind) :
    firstFault? format rules defaultKind =
      (ruleFault? defaultKind [] rules).or (formatFault? format rules) :=
  (if_neg hformat).trans (if_neg hdefault)

theorem firstFault_of_firstFault? {error : ConfigError}
    (h : firstFault? format rules defaultKind = some error) :
    FirstFault format rules defaultKind error := by
  by_cases hformat : format = []
  · rw [firstFault?, if_pos hformat] at h
    cases h
    exact .emptyFormat hformat
  · by_cases hdefault : ReservedDefault defaultKind
    · have hreserved : firstFault? format rules defaultKind = some (.reservedName defaultKind) :=
        (if_neg hformat).trans (if_pos hdefault)
      rw [hreserved] at h
      cases h
      exact .reservedDefault hformat hdefault
    · rw [firstFault?_of_sound hformat hdefault, Option.or_eq_some_iff] at h
      rcases h with hrule | ⟨hrules, hfield⟩
      · rcases ruleFault?_nil_iff.mp hrule with ⟨rule, hfirst, herror⟩
        exact .faultyRule hformat hdefault hfirst herror
      · rcases formatFault?_eq_some_iff.mp hfield with ⟨name, hfirst, rfl⟩
        exact .unknownField hformat hdefault (ruleFault?_eq_none_iff.mp hrules) hfirst

theorem firstFault?_of_firstFault {error : ConfigError}
    (h : FirstFault format rules defaultKind error) :
    firstFault? format rules defaultKind = some error := by
  cases h with
  | emptyFormat hformat => exact if_pos hformat
  | reservedDefault hformat hdefault => exact (if_neg hformat).trans (if_pos hdefault)
  | faultyRule hformat hdefault hfirst herror =>
      have hrule := ruleFault?_nil_iff.mpr ⟨_, hfirst, herror⟩
      rw [firstFault?_of_sound hformat hdefault, hrule, Option.some_or]
  | unknownField hformat hdefault hrules hfirst =>
      have hfield := formatFault?_eq_some_iff.mpr ⟨_, hfirst, rfl⟩
      rw [firstFault?_of_sound hformat hdefault, ruleFault?_eq_none_iff.mpr hrules, hfield,
        Option.none_or]

/-- Parts that are well formed have no fault. -/
theorem WellFormed.no_fault (h : WellFormed format rules defaultKind) (error : ConfigError) :
    ¬ FirstFault format rules defaultKind error := by
  intro hfault
  cases hfault with
  | emptyFormat hformat => exact h.format_ne_nil hformat
  | reservedDefault _ hdefault =>
      exact hdefault.elim h.default_ne_empty h.default_ne_whitespace
  | faultyRule _ _ hfirst _ =>
      have hmem := hfirst.mem
      rcases hfirst.split with ⟨before, after, hsplit, hreserved | hrepeated⟩
      · exact hreserved.elim (h.names_ne_whitespace _ hmem) (h.names_ne_default _ hmem)
      · have hnodup := h.names_nodup
        rw [hsplit, List.map_append, List.map_cons, List.nodup_append] at hnodup
        exact hnodup.2.2 _ hrepeated _ List.mem_cons_self rfl
  | unknownField _ _ _ hfirst =>
      rcases hfirst.split with ⟨_, _, _, hunknown⟩
      exact hunknown (h.format_subset _ hfirst.mem)

theorem firstFault?_eq_none_iff :
    firstFault? format rules defaultKind = none <-> WellFormed format rules defaultKind := by
  constructor
  · exact wellFormed_of_firstFault?
  · intro hformed
    cases hfault : firstFault? format rules defaultKind with
    | none => rfl
    | some error =>
        exact absurd (firstFault_of_firstFault? hfault) (hformed.no_fault error)

theorem ofParts_cases (format : List String) (rules : List Rule) (defaultKind : String) :
    (exists error, firstFault? format rules defaultKind = some error ∧
        ofParts format rules defaultKind = .error error) ∨
      exists config, firstFault? format rules defaultKind = none ∧
        ofParts format rules defaultKind = .ok config ∧
        config.format = format ∧ config.rules = rules ∧ config.defaultKind = defaultKind := by
  unfold ofParts
  split
  · rename_i error hfault
    exact Or.inl ⟨error, hfault, rfl⟩
  · rename_i hfault
    exact Or.inr ⟨_, hfault, rfl, rfl, rfl, rfl⟩

end FirstFault

theorem ruleFor?_eq_some_iff {config : Config} {kind : String} {rule : Rule} :
    config.ruleFor? kind = some rule <-> config.OnlyRule kind rule := by
  constructor
  · exact onlyRule_of_ruleFor?
  · intro honly
    rw [OnlyRule] at honly
    rw [ruleFor?, ← List.head?_filter, honly, List.head?_cons]

/-!
# Rules by an index of their names

The rules once more with an index that is built on the way: the place of each rule by
its name.  A name that is in the index already is a repeated one, and a rule is looked
up by its place.
-/

def indexRules (defaultKind : String) :
    Nat -> Std.HashMap String Nat -> List Rule -> Except ConfigError (Std.HashMap String Nat)
  | _, index, [] => .ok index
  | place, index, rule :: rest =>
      if rule.name = Token.whitespaceKind ∨ rule.name = defaultKind then
        .error (.reservedName rule.name)
      else if index.contains rule.name then .error (.duplicateRule rule.name)
      else indexRules defaultKind (place + 1) (index.insert rule.name place) rest

def knownFields (format : List String) (index : Std.HashMap String Nat) :
    Except ConfigError (Std.HashMap String Nat) :=
  match format.find? fun name => !index.contains name with
  | some name => .error (.unknownField name)
  | none => .ok index

def nameIndex (format : List String) (rules : List Rule) (defaultKind : String) :
    Except ConfigError (Std.HashMap String Nat) :=
  if format = [] then .error .emptyFormat
  else if defaultKind = "" ∨ defaultKind = Token.whitespaceKind then
    .error (.reservedName defaultKind)
  else indexRules defaultKind 0 ∅ rules >>= knownFields format

/-- The index has the place of the first rule of each name. -/
def Indexes (index : Std.HashMap String Nat) (rules : List Rule) : Prop :=
  forall kind : String, index[kind]? = rules.findIdx? fun rule => rule.name == kind

theorem Indexes.contains_iff {index : Std.HashMap String Nat} {rules : List Rule}
    (h : Indexes index rules) {name : String} :
    index.contains name = true <-> name ∈ rules.map Rule.name := by
  rw [Std.HashMap.contains_eq_isSome_getElem?, h name, List.findIdx?_isSome, List.any_eq_true]
  simp

theorem Indexes.insert {index : Std.HashMap String Nat} {rules : List Rule} {rule : Rule}
    (h : Indexes index rules) (hnew : rule.name ∉ rules.map Rule.name) :
    Indexes (index.insert rule.name rules.length) (rules ++ [rule]) := by
  intro kind
  rw [Std.HashMap.getElem?_insert, List.findIdx?_append, h kind]
  by_cases hname : rule.name = kind
  · subst hname
    have hnone : rules.findIdx? (fun other => other.name == rule.name) = none := by
      rw [List.findIdx?_eq_none_iff]
      intro other hother
      rw [beq_eq_false_iff_ne]
      intro hsame
      exact hnew (hsame ▸ List.mem_map_of_mem hother)
    rw [hnone]
    simp
  · simp [hname]

theorem indexRules_cases {defaultKind : String} {index : Std.HashMap String Nat}
    {front rules : List Rule} {earlier : List String} (hindex : Indexes index front)
    (hearlier : NamesOf earlier front) :
    (exists error, ruleFault? defaultKind earlier rules = some error ∧
        indexRules defaultKind front.length index rules = .error error) ∨
      exists full, ruleFault? defaultKind earlier rules = none ∧
        indexRules defaultKind front.length index rules = .ok full ∧
        Indexes full (front ++ rules) := by
  induction rules generalizing index front earlier with
  | nil =>
      rw [List.append_nil]
      exact Or.inr ⟨index, rfl, rfl, hindex⟩
  | cons rule rest ih =>
      by_cases hreserved : ReservedName defaultKind rule.name
      · exact Or.inl ⟨_, ruleFault?_reserved hreserved rest, if_pos hreserved⟩
      · by_cases hrepeated : rule.name ∈ front.map Rule.name
        · have hcontains := hindex.contains_iff.mpr hrepeated
          exact Or.inl ⟨_, ruleFault?_repeated hreserved ((hearlier _).mpr hrepeated) rest,
            (if_neg hreserved).trans (if_pos hcontains)⟩
        · have hcontains := mt hindex.contains_iff.mp hrepeated
          have hstep : indexRules defaultKind front.length index (rule :: rest) =
              indexRules defaultKind (front ++ [rule]).length
                (index.insert rule.name front.length) rest := by
            rw [List.length_append]
            exact (if_neg hreserved).trans (if_neg hcontains)
          rw [ruleFault?_sound hreserved (mt (hearlier _).mp hrepeated), hstep,
            List.append_cons front rule rest]
          exact ih (hindex.insert hrepeated) (hearlier.concat rule)

theorem knownFields_cases {index : Std.HashMap String Nat} {rules : List Rule}
    (h : Indexes index rules) (format : List String) :
    (exists error, formatFault? format rules = some error ∧
        knownFields format index = .error error) ∨
      formatFault? format rules = none ∧ knownFields format index = .ok index := by
  have hsame : forall name, (rules.map Rule.name).contains name = index.contains name := by
    intro name
    rw [Bool.eq_iff_iff, h.contains_iff, List.contains_iff_mem]
  simp only [formatFault?, knownFields, hsame]
  cases format.find? fun name => !index.contains name with
  | some name => exact Or.inl ⟨_, rfl, rfl⟩
  | none => exact Or.inr ⟨rfl, rfl⟩

theorem nameIndex_cases (format : List String) (rules : List Rule) (defaultKind : String) :
    (exists error, firstFault? format rules defaultKind = some error ∧
        nameIndex format rules defaultKind = .error error) ∨
      exists index, firstFault? format rules defaultKind = none ∧
        nameIndex format rules defaultKind = .ok index ∧ Indexes index rules := by
  by_cases hformat : format = []
  · exact Or.inl ⟨_, if_pos hformat, if_pos hformat⟩
  · by_cases hdefault : ReservedDefault defaultKind
    · exact Or.inl ⟨_, (if_neg hformat).trans (if_pos hdefault),
        (if_neg hformat).trans (if_pos hdefault)⟩
    · have hempty : Indexes ∅ [] := fun _ => Std.HashMap.getElem?_empty
      have hindex : nameIndex format rules defaultKind =
          indexRules defaultKind 0 ∅ rules >>= knownFields format :=
        (if_neg hformat).trans (if_neg hdefault)
      rw [firstFault?_of_sound hformat hdefault, hindex]
      rcases indexRules_cases hempty namesOf_nil with
        ⟨error, hfault, herror⟩ | ⟨index, hfault, hok, hfull⟩
      · rw [List.length_nil] at herror
        rw [hfault, herror]
        exact Or.inl ⟨error, rfl, rfl⟩
      · rw [List.length_nil] at hok
        rw [hfault, hok, Option.none_or]
        rcases knownFields_cases hfull format with ⟨error, hunknown, herror⟩ | ⟨hknown, hkept⟩
        · exact Or.inl ⟨error, hunknown, herror⟩
        · exact Or.inr ⟨index, hknown, hkept, hfull⟩

/-- A place in the index is the place of the rule that has the name. -/
theorem Indexes.ruleFor?_eq {config : Config} {index : Std.HashMap String Nat}
    (h : Indexes index config.rules) (kind : String) :
    config.ruleFor? kind = index[kind]?.bind fun place => config.rules[place]? := by
  rw [ruleFor?, List.find?_eq_bind_findIdx?_getElem?, h kind]

theorem Indexes.in_range {index : Std.HashMap String Nat} {rules : List Rule}
    (h : Indexes index rules) {kind : String} {place : Nat} (hplace : index[kind]? = some place) :
    place < rules.length := by
  rw [h kind, List.findIdx?_eq_some_iff_getElem] at hplace
  exact hplace.1

/-!
# What the checks promise
-/

/-- What becomes of the parts of a configuration, and how rules are found in it. -/
structure Checks (format : List String) (rules : List Rule) (defaultKind : String) : Prop where
  ok_iff : (exists config, ofParts format rules defaultKind = .ok config) <->
    WellFormed format rules defaultKind
  error_iff : forall error, ofParts format rules defaultKind = .error error <->
    FirstFault format rules defaultKind error
  kept : forall config, ofParts format rules defaultKind = .ok config ->
    config.format = format ∧ config.rules = rules ∧ config.defaultKind = defaultKind
  ruleFor?_iff : forall config, ofParts format rules defaultKind = .ok config ->
    forall kind rule, config.ruleFor? kind = some rule <-> config.OnlyRule kind rule
  index_error_iff : forall error, nameIndex format rules defaultKind = .error error <->
    ofParts format rules defaultKind = .error error
  index_in_range : forall config, ofParts format rules defaultKind = .ok config ->
    exists index, nameIndex format rules defaultKind = .ok index ∧
      (forall kind place, index[kind]? = some place ->
        exists rule, config.rules[place]? = some rule ∧ config.ruleFor? kind = some rule) ∧
      forall kind, index[kind]? = none -> config.ruleFor? kind = none

theorem ofParts_eq_error_iff {format : List String} {rules : List Rule} {defaultKind : String}
    {error : ConfigError} :
    ofParts format rules defaultKind = .error error <->
      firstFault? format rules defaultKind = some error := by
  rcases ofParts_cases format rules defaultKind with
    ⟨found, hfault, hparts⟩ | ⟨config, hfault, hparts, _⟩
  · rw [hparts, hfault, Except.error.injEq, Option.some.injEq]
  · simp [hparts, hfault]

theorem nameIndex_eq_error_iff {format : List String} {rules : List Rule} {defaultKind : String}
    {error : ConfigError} :
    nameIndex format rules defaultKind = .error error <->
      firstFault? format rules defaultKind = some error := by
  rcases nameIndex_cases format rules defaultKind with
    ⟨found, hfault, hindex⟩ | ⟨index, hfault, hindex, _⟩
  · rw [hindex, hfault, Except.error.injEq, Option.some.injEq]
  · simp [hindex, hfault]

theorem ofParts_eq_ok {format : List String} {rules : List Rule} {defaultKind : String}
    {config : Config} (h : ofParts format rules defaultKind = .ok config) :
    firstFault? format rules defaultKind = none ∧
      config.format = format ∧ config.rules = rules ∧ config.defaultKind = defaultKind := by
  rcases ofParts_cases format rules defaultKind with
    ⟨found, _, hparts⟩ | ⟨other, hfault, hparts, hkept⟩
  · rw [hparts] at h
    cases h
  · rw [hparts] at h
    cases h
    exact ⟨hfault, hkept⟩

theorem checks (format : List String) (rules : List Rule) (defaultKind : String) :
    Checks format rules defaultKind := by
  constructor
  case ok_iff =>
    rw [← firstFault?_eq_none_iff]
    constructor
    · rintro ⟨config, hparts⟩
      exact (ofParts_eq_ok hparts).1
    · intro hnone
      rcases ofParts_cases format rules defaultKind with
        ⟨error, hfault, _⟩ | ⟨config, _, hparts, _⟩
      · rw [hnone] at hfault
        cases hfault
      · exact ⟨config, hparts⟩
  case error_iff =>
    intro error
    rw [ofParts_eq_error_iff]
    exact ⟨firstFault_of_firstFault?, firstFault?_of_firstFault⟩
  case kept =>
    intro config hparts
    exact (ofParts_eq_ok hparts).2
  case ruleFor?_iff =>
    intro config _ kind rule
    exact ruleFor?_eq_some_iff
  case index_error_iff =>
    intro error
    rw [nameIndex_eq_error_iff, ofParts_eq_error_iff]
  case index_in_range =>
    intro config hparts
    rcases ofParts_eq_ok hparts with ⟨hnone, _, hrules, _⟩
    rcases nameIndex_cases format rules defaultKind with
      ⟨error, hfault, _⟩ | ⟨index, _, hindex, hindexes⟩
    · rw [hnone] at hfault
      cases hfault
    · rw [← hrules] at hindexes
      refine ⟨index, hindex, ?_, ?_⟩
      · intro kind place hplace
        have hget := List.getElem?_eq_getElem (hindexes.in_range hplace)
        refine ⟨_, hget, ?_⟩
        rw [hindexes.ruleFor?_eq, hplace, Option.bind_some, hget]
      · intro kind hmissing
        rw [hindexes.ruleFor?_eq, hmissing, Option.bind_none]

end Config

/-!
# Grammar files
-/

/-- The rule is the one that the entry declares. -/
structure RuleEntry.Declares (dialect : Pattern.Dialect) (entry : RuleEntry) (rule : Rule) :
    Prop where
  name : rule.name = entry.name
  pattern : Pattern.ofText? entry.pattern dialect = some rule.pattern
  description : rule.description = entry.description
  no_source : entry.values = [] -> rule.source = none
  source : entry.values ≠ [] -> rule.source = some (.listed entry.values)

namespace GrammarFile

open Config (FirstFaulty firstFaulty_head firstFaulty_tail not_firstFaulty_nil)

def UnreadablePattern (dialect : Pattern.Dialect) (_ : List RuleEntry) (entry : RuleEntry) :
    Prop :=
  Pattern.ofText? entry.pattern dialect = none

section

variable {dialect : Pattern.Dialect}

theorem toRule_of_unreadable {entry : RuleEntry}
    (h : Pattern.ofText? entry.pattern dialect = none) :
    entry.toRule dialect = .error (.invalidPattern entry.name) := by
  rw [RuleEntry.toRule, h]

theorem toRule_of_readable {entry : RuleEntry}
    (h : Pattern.ofText? entry.pattern dialect ≠ none) :
    exists rule, entry.toRule dialect = .ok rule ∧ entry.Declares dialect rule := by
  rcases Option.ne_none_iff_exists'.mp h with ⟨pattern, hpattern⟩
  rw [RuleEntry.toRule, hpattern]
  refine ⟨_, rfl, rfl, hpattern, rfl, ?_, ?_⟩
  · intro hempty
    simp [hempty]
  · intro hvalues
    simp [hvalues]

theorem rulesOf_of_readable {entries : List RuleEntry}
    (h : forall entry, entry ∈ entries -> Pattern.ofText? entry.pattern dialect ≠ none) :
    exists rules, rulesOf dialect entries = .ok rules ∧
      List.Forall₂ (RuleEntry.Declares dialect) entries rules := by
  induction entries with
  | nil => exact ⟨[], rfl, .nil⟩
  | cons entry rest ih =>
      rw [List.forall_mem_cons] at h
      rcases toRule_of_readable h.1 with ⟨rule, hrule, hdeclares⟩
      rcases ih h.2 with ⟨rules, hrules, hrest⟩
      refine ⟨rule :: rules, ?_, .cons hdeclares hrest⟩
      rw [rulesOf, hrule, hrules]
      rfl

theorem rulesOf_of_firstFaulty {entries : List RuleEntry} {entry : RuleEntry}
    (h : FirstFaulty (UnreadablePattern dialect) entries entry) :
    rulesOf dialect entries = .error (.invalidPattern entry.name) := by
  induction entries with
  | nil => exact absurd h not_firstFaulty_nil
  | cons first rest ih =>
      by_cases hpattern : Pattern.ofText? first.pattern dialect = none
      · rw [firstFaulty_head (UnreadablePattern dialect) hpattern] at h
        rw [rulesOf, toRule_of_unreadable hpattern, h]
        rfl
      · rw [firstFaulty_tail (UnreadablePattern dialect) hpattern] at h
        rcases toRule_of_readable hpattern with ⟨rule, hrule, _⟩
        rw [rulesOf, hrule, ih h]
        rfl

end

/-- A file has the outcome of its parts unless a pattern cannot be read in the dialect. -/
structure Checks (dialect : Pattern.Dialect) (file : GrammarFile) : Prop where
  unreadable : forall entry, FirstFaulty (UnreadablePattern dialect) file.rules entry ->
    file.toConfig dialect = .error (.invalidPattern entry.name)
  readable :
    (forall entry, entry ∈ file.rules -> Pattern.ofText? entry.pattern dialect ≠ none) ->
    exists rules, List.Forall₂ (RuleEntry.Declares dialect) file.rules rules ∧
      file.toConfig dialect = Config.ofParts file.format rules file.defaultKind

theorem checks (dialect : Pattern.Dialect) (file : GrammarFile) : file.Checks dialect := by
  constructor
  case unreadable =>
    intro entry hfirst
    rw [toConfig, rulesOf_of_firstFaulty hfirst]
    rfl
  case readable =>
    intro hreadable
    rcases rulesOf_of_readable hreadable with ⟨rules, hrules, hdeclared⟩
    refine ⟨rules, hdeclared, ?_⟩
    rw [toConfig, hrules]
    rfl

end GrammarFile

theorem configurations_checked :
    (forall format rules defaultKind, Config.Checks format rules defaultKind) ∧
      forall (dialect : Pattern.Dialect) (file : GrammarFile), file.Checks dialect :=
  ⟨Config.checks, GrammarFile.checks⟩

end FieldGrammar
