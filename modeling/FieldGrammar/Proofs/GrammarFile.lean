import FieldGrammar.GrammarFile
import FieldGrammar.Proofs.Json.Decoder

/-!
# Grammar files read back

A grammar file is read back from every text of its JSON value, so from the text that
is written for it.  Members that are left out stand for a description that is missing
and for a list without values, and for nothing else.
-/

namespace FieldGrammar

open Json Json.Decoder

/-!
# Rule entries
-/

namespace RuleEntry

/-- The draft of an entry after all members that are written for it. -/
def drafted (entry : RuleEntry) : Draft :=
  { name := some entry.name
    pattern := some entry.pattern
    description := entry.description.map some
    values := if entry.values.isEmpty then none else some entry.values }

theorem finish_drafted (entry : RuleEntry) : entry.drafted.finish = some entry := by
  rcases entry with ⟨name, pattern, description, values⟩
  cases description <;> cases values <;> rfl

theorem fills_name_pattern (name pattern : String) :
    Fills Draft.fields Draft.empty [("name", .string name), ("pattern", .string pattern)]
      { Draft.empty with name := some name, pattern := some pattern } := by
  have hname := decodes_store (fun value => { Draft.empty with name := some value })
    (decodes_text name)
  have hpattern := decodes_store
    (fun value => { Draft.empty with name := some name, pattern := some value })
    (decodes_text pattern)
  exact Fills.next rfl rfl hname (fills_one rfl rfl hpattern)

theorem fills_description {draft : Draft} (h : draft.description = none)
    (description : Option String) :
    Fills Draft.fields draft
      (description.map fun text => ("description", Json.string text)).toList
      { draft with description := description.map some } := by
  cases description with
  | none =>
      rw [Option.map_none, Option.map_none, ← h]
      exact Fills.done draft
  | some text =>
      have hpresent : draft.description.isSome = false := by
        rw [h]
        rfl
      exact fills_one rfl hpresent
        (decodes_store (fun value => { draft with description := some value })
          (decodes_text? text))

theorem fills_values {draft : Draft} (h : draft.values = none) (values : List String) :
    Fills Draft.fields draft
      (if values.isEmpty then [] else [("values", Json.strings values)])
      { draft with values := if values.isEmpty then none else some values } := by
  cases hempty : values.isEmpty with
  | true =>
      simp only [if_true]
      rw [← h]
      exact Fills.done draft
  | false =>
      have hpresent : draft.values.isSome = false := by
        rw [h]
        rfl
      exact fills_one rfl hpresent
        (decodes_store (fun value => { draft with values := some value })
          (decodes_strings values))

theorem decodes_toJson (entry : RuleEntry) : Decodes decoder entry.toJson entry := by
  have hrequired := fills_name_pattern entry.name entry.pattern
  have hdescription := fills_append hrequired (fills_description rfl entry.description)
  have hvalues := fills_append hdescription (fills_values rfl entry.values)
  exact decodes_record hvalues (finish_drafted entry)

theorem plain_toJson (entry : RuleEntry) : entry.toJson.plain = true := by
  rcases entry with ⟨name, pattern, description, values⟩
  cases description <;> cases values <;>
    simp [toJson, plain, plainMembers, plain_strings]

theorem description_mem_keys (entry : RuleEntry) :
    "description" ∈ entry.toJson.keys ↔ entry.description ≠ none := by
  rcases entry with ⟨name, pattern, description, values⟩
  cases description <;> cases values <;> simp [toJson, keys]

theorem values_mem_keys (entry : RuleEntry) :
    "values" ∈ entry.toJson.keys ↔ entry.values ≠ [] := by
  rcases entry with ⟨name, pattern, description, values⟩
  cases description <;> cases values <;> simp [toJson, keys]

end RuleEntry

/-!
# Whole files
-/

namespace GrammarFile

theorem fills_fields (file : GrammarFile) :
    Fills Draft.fields Draft.empty
      [("format", Json.strings file.format),
       ("default_type", .string file.defaultKind),
       ("rules", .array (file.rules.map RuleEntry.toJson))]
      { format := some file.format
        defaultKind := some file.defaultKind
        rules := some file.rules } := by
  have hformat := decodes_store (fun value => { Draft.empty with format := some value })
    (decodes_strings file.format)
  have hkind := decodes_store
    (fun value => { Draft.empty with format := some file.format, defaultKind := some value })
    (decodes_text file.defaultKind)
  have hrules := decodes_store
    (fun value => { format := some file.format, defaultKind := some file.defaultKind,
                    rules := some value : Draft })
    (decodes_list_map fun entry (_ : entry ∈ file.rules) => RuleEntry.decodes_toJson entry)
  exact Fills.next rfl rfl hformat (Fills.next rfl rfl hkind (fills_one rfl rfl hrules))

theorem decodes_toJson (file : GrammarFile) : Decodes decoder file.toJson file :=
  decodes_record (fills_fields file) rfl

theorem plain_toJson (file : GrammarFile) : file.toJson.plain = true := by
  have hrules := plainItems_map fun entry (_ : entry ∈ file.rules) =>
    RuleEntry.plain_toJson entry
  simp [toJson, plain, plainMembers, plain_strings, hrules]

theorem read_of_written {file : GrammarFile} {before cs after : List Char}
    (hbefore : Blank before) (h : Written file.toJson cs) (hafter : Blank after) :
    read (String.ofList (before ++ (cs ++ after))) = .ok file :=
  run_of_decodes (decodes_toJson file) hbefore h hafter

/-- A file is read back as it was written, and each text stands for one file: a member that is
left out means that the field is missing or empty. -/
theorem read_write (file : GrammarFile) :
    read file.write = .ok file ∧ read file.toJson.pretty = .ok file ∧
      forall entry, entry ∈ file.rules ->
        ("description" ∈ entry.toJson.keys ↔ entry.description ≠ none) ∧
          ("values" ∈ entry.toJson.keys ↔ entry.values ≠ []) := by
  have hplain := plain_toJson file
  refine ⟨?_, ?_, ?_⟩
  · have hread := read_of_written blank_nil (written_compact hplain) blank_nil
    rwa [List.nil_append, List.append_nil] at hread
  · have hread := read_of_written blank_nil (written_pretty 0 hplain) blank_nil
    rwa [List.nil_append, List.append_nil] at hread
  · intro entry _
    exact ⟨RuleEntry.description_mem_keys entry, RuleEntry.values_mem_keys entry⟩

/-- An empty description is not a missing one, and one empty value is not a list without values. -/
theorem read_write_emptyDescription :
    let described : RuleEntry :=
      { name := "\"é\"", pattern := "[\\n\x00]+", description := some "", values := [] }
    let listed : RuleEntry :=
      { name := "", pattern := "\t", description := none, values := [""] }
    let file : GrammarFile :=
      { format := ["\"é\"", ""], defaultKind := "\x1f\\", rules := [described, listed] }
    read file.write = .ok file ∧ described ∈ file.rules ∧ listed ∈ file.rules ∧
      "description" ∈ described.toJson.keys ∧ "values" ∉ described.toJson.keys ∧
      "description" ∉ listed.toJson.keys ∧ "values" ∈ listed.toJson.keys := by
  intro described listed file
  have hdescribed : described ∈ file.rules := List.mem_cons_self
  have hlisted : listed ∈ file.rules := List.mem_cons_of_mem described List.mem_cons_self
  rcases read_write file with ⟨hread, _, hkeys⟩
  rcases hkeys described hdescribed with ⟨hdescription, hvalues⟩
  rcases hkeys listed hlisted with ⟨hdescription', hvalues'⟩
  refine ⟨hread, hdescribed, hlisted, ?_, ?_, ?_, ?_⟩
  · exact hdescription.mpr (Option.some_ne_none "")
  · exact fun hmem => hvalues.mp hmem rfl
  · exact fun hmem => hdescription'.mp hmem rfl
  · exact hvalues'.mpr (List.cons_ne_nil "" [])

end GrammarFile
end FieldGrammar
