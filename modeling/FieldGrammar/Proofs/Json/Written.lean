import FieldGrammar.Proofs.Json.Scalar

/-!
# The texts of a value

A value has many texts, which differ in the blanks between its parts.  The compact
form is the one without blanks, and the pretty form has its line breaks as blanks.
-/

namespace FieldGrammar
namespace Json

mutual

/-- The characters are a text of the value.  Blanks may stand between its parts. -/
inductive Written : Json -> List Char -> Prop where
  | null : Written null "null".toList
  | bool (value : Bool) : Written (bool value) (writeBool value)
  | natural (value : Nat) : Written (natural value) (Nat.toDigits 10 value)
  | string (text : String) : Written (string text) (writeString text)
  | emptyArray {gap : List Char} : Blank gap -> Written (array []) ('[' :: (gap ++ [']']))
  | array {items : List Json} {gap cs : List Char} :
      Blank gap -> WrittenItems items cs -> Written (array items) ('[' :: (gap ++ (cs ++ [']'])))
  | emptyObject {gap : List Char} : Blank gap -> Written (object []) ('{' :: (gap ++ ['}']))
  | object {members : List (String × Json)} {gap cs : List Char} :
      Blank gap -> WrittenMembers members cs ->
        Written (object members) ('{' :: (gap ++ (cs ++ ['}'])))

/-- The items of a list with their commas, one at least. -/
inductive WrittenItems : List Json -> List Char -> Prop where
  | last {item : Json} {cs after : List Char} :
      Written item cs -> Blank after -> WrittenItems [item] (cs ++ after)
  | more {item : Json} {items : List Json} {cs after gap rest : List Char} :
      Written item cs -> Blank after -> Blank gap -> WrittenItems items rest ->
        WrittenItems (item :: items) (cs ++ (after ++ ',' :: (gap ++ rest)))

inductive WrittenMembers : List (String × Json) -> List Char -> Prop where
  | last (name : String) {value : Json} {colon gap cs after : List Char} :
      Blank colon -> Blank gap -> Written value cs -> Blank after ->
        WrittenMembers [(name, value)]
          (writeString name ++ (colon ++ ':' :: (gap ++ (cs ++ after))))
  | more (name : String) {value : Json} {members : List (String × Json)}
      {colon gap cs after before rest : List Char} :
      Blank colon -> Blank gap -> Written value cs -> Blank after -> Blank before ->
        WrittenMembers members rest ->
        WrittenMembers ((name, value) :: members)
          (writeString name ++
            (colon ++ ':' :: (gap ++ (cs ++ (after ++ ',' :: (before ++ rest))))))

end

/-- The names of the members of an object. -/
def keys : Json -> List String
  | object members => members.map Prod.fst
  | _ => []

/-!
# First characters
-/

/-- No text of a value starts with a blank or closes a list. -/
theorem written_head {json : Json} {cs : List Char} (h : Written json cs) :
    exists c others, cs = c :: others ∧ isBlank c = false ∧ c ≠ ']' := by
  cases h with
  | null => exact ⟨'n', ['u', 'l', 'l'], rfl, by decide, by decide⟩
  | bool value =>
      cases value with
      | false => exact ⟨'f', ['a', 'l', 's', 'e'], rfl, by decide, by decide⟩
      | true => exact ⟨'t', ['r', 'u', 'e'], rfl, by decide, by decide⟩
  | natural value =>
      rcases toDigits_cons value with ⟨c, others, hdigits, hdigit⟩
      refine ⟨c, others, hdigits, isBlank_of_isDigit hdigit, ?_⟩
      rintro rfl
      cases hdigit
  | string text => exact ⟨'"', _, rfl, by decide, by decide⟩
  | emptyArray _ => exact ⟨'[', _, rfl, by decide, by decide⟩
  | array _ _ => exact ⟨'[', _, rfl, by decide, by decide⟩
  | emptyObject _ => exact ⟨'{', _, rfl, by decide, by decide⟩
  | object _ _ => exact ⟨'{', _, rfl, by decide, by decide⟩

theorem writtenItems_head {items : List Json} {cs : List Char} (h : WrittenItems items cs) :
    exists c others, cs = c :: others ∧ isBlank c = false ∧ c ≠ ']' := by
  cases h with
  | last hitem _ =>
      rcases written_head hitem with ⟨c, others, rfl, hc⟩
      exact ⟨c, _, List.cons_append, hc⟩
  | more hitem _ _ _ =>
      rcases written_head hitem with ⟨c, others, rfl, hc⟩
      exact ⟨c, _, List.cons_append, hc⟩

theorem writtenMembers_head {members : List (String × Json)} {cs : List Char}
    (h : WrittenMembers members cs) : exists others, cs = '"' :: others := by
  cases h with
  | last name _ _ _ _ => exact ⟨_, writeString_append _ _⟩
  | more name _ _ _ _ _ _ => exact ⟨_, writeString_append _ _⟩

theorem written_length_pos {json : Json} {cs : List Char} (h : Written json cs) :
    0 < cs.length := by
  rcases written_head h with ⟨c, others, rfl, _⟩
  exact Nat.succ_pos _

/-!
# The compact form and the pretty form
-/

mutual

/-- Every number in the value is a plain natural. -/
def plain : Json -> Bool
  | numeral _ => false
  | array items => plainItems items
  | object members => plainMembers members
  | _ => true

def plainItems : List Json -> Bool
  | [] => true
  | item :: rest => plain item && plainItems rest

def plainMembers : List (String × Json) -> Bool
  | [] => true
  | (_, value) :: rest => plain value && plainMembers rest

end

theorem plainItems_map {α : Type} {encode : α -> Json} {values : List α}
    (h : forall value, value ∈ values -> plain (encode value) = true) :
    plainItems (values.map encode) = true := by
  induction values with
  | nil => rw [List.map_nil, plainItems]
  | cons value rest ih =>
      rw [List.forall_mem_cons] at h
      rw [List.map_cons, plainItems, h.1, ih h.2]
      rfl

theorem plain_strings (values : List String) : plain (strings values) = true := by
  rw [strings, plain]
  exact plainItems_map fun value _ => by simp [plain]

mutual

theorem written_compact : forall {json : Json}, plain json = true -> Written json json.writeCompact
  | null, _ => by
      rw [writeCompact]
      exact Written.null
  | bool value, _ => by
      rw [writeCompact]
      exact Written.bool value
  | natural value, _ => by
      rw [writeCompact]
      exact Written.natural value
  | numeral _, h => by
      rw [plain] at h
      cases h
  | string text, _ => by
      rw [writeCompact]
      exact Written.string text
  | array [], _ => by
      rw [writeCompact, writeItems]
      exact Written.emptyArray blank_nil
  | array (item :: rest), h => by
      rw [plain] at h
      rw [writeCompact]
      exact Written.array blank_nil (writtenItems_compact (List.cons_ne_nil item rest) h)
  | object [], _ => by
      rw [writeCompact, writeMembers]
      exact Written.emptyObject blank_nil
  | object (member :: rest), h => by
      rw [plain] at h
      rw [writeCompact]
      exact Written.object blank_nil (writtenMembers_compact (List.cons_ne_nil member rest) h)

theorem writtenItems_compact : forall {items : List Json}, items ≠ [] ->
    plainItems items = true -> WrittenItems items (writeItems items)
  | [], hne, _ => absurd rfl hne
  | [item], _, h => by
      rw [plainItems, plainItems, Bool.and_true] at h
      have hlast := WrittenItems.last (written_compact h) blank_nil
      rw [List.append_nil] at hlast
      rw [writeItems]
      exact hlast
  | item :: next :: rest, _, h => by
      rw [plainItems, Bool.and_eq_true] at h
      have hmore := WrittenItems.more (written_compact h.1) blank_nil blank_nil
        (writtenItems_compact (List.cons_ne_nil next rest) h.2)
      rw [writeItems, List.append_assoc]
      · exact hmore
      · exact List.cons_ne_nil next rest

theorem writtenMembers_compact : forall {members : List (String × Json)}, members ≠ [] ->
    plainMembers members = true -> WrittenMembers members (writeMembers members)
  | [], hne, _ => absurd rfl hne
  | [(name, value)], _, h => by
      rw [plainMembers, plainMembers, Bool.and_true] at h
      have hlast := WrittenMembers.last name blank_nil blank_nil (written_compact h) blank_nil
      rw [List.append_nil] at hlast
      rw [writeMembers, List.append_assoc]
      exact hlast
  | (name, value) :: next :: rest, _, h => by
      rw [plainMembers, Bool.and_eq_true] at h
      have hmore := WrittenMembers.more name blank_nil blank_nil (written_compact h.1) blank_nil
        blank_nil (writtenMembers_compact (List.cons_ne_nil next rest) h.2)
      rw [writeMembers, List.append_assoc, List.append_assoc, List.append_assoc]
      · exact hmore
      · exact List.cons_ne_nil next rest

end

theorem blank_newLine (level : Nat) : Blank (newLine level) := by
  intro c hc
  rcases List.mem_cons.mp hc with rfl | hspace
  · decide
  · rw [List.eq_of_mem_replicate hspace]
    decide

theorem blank_space : Blank [' '] := by
  intro c hc
  rw [List.mem_singleton.mp hc]
  decide

mutual

theorem written_pretty : forall {json : Json} (level : Nat), plain json = true ->
    Written json (json.writePretty level)
  | null, level, _ => by
      rw [writePretty]
      exact Written.null
  | bool value, level, _ => by
      rw [writePretty]
      exact Written.bool value
  | natural value, level, _ => by
      rw [writePretty]
      exact Written.natural value
  | numeral _, level, h => by
      rw [plain] at h
      cases h
  | string text, level, _ => by
      rw [writePretty]
      exact Written.string text
  | array [], level, _ => by
      rw [writePretty]
      exact Written.emptyArray blank_nil
  | array (item :: rest), level, h => by
      rw [plain] at h
      rcases writtenItems_pretty (level + 1) (List.cons_ne_nil item rest) h
        (blank_newLine level) with ⟨cs, hlines, hitems⟩
      rw [writePretty, List.append_assoc, List.append_assoc, ← List.append_assoc _ (newLine level),
        hlines, List.append_assoc]
      exact Written.array (blank_newLine (level + 1)) hitems
  | object [], level, _ => by
      rw [writePretty]
      exact Written.emptyObject blank_nil
  | object (member :: rest), level, h => by
      rw [plain] at h
      rcases writtenMembers_pretty (level + 1) (List.cons_ne_nil member rest) h
        (blank_newLine level) with ⟨cs, hlines, hmembers⟩
      rw [writePretty, List.append_assoc, List.append_assoc, ← List.append_assoc _ (newLine level),
        hlines, List.append_assoc]
      exact Written.object (blank_newLine (level + 1)) hmembers

/-- The first line belongs to the bracket before it, and what follows the last item to the item. -/
theorem writtenItems_pretty : forall {items : List Json} (level : Nat) {after : List Char},
    items ≠ [] -> plainItems items = true -> Blank after ->
      exists cs, writePrettyItems level items ++ after = newLine level ++ cs ∧
        WrittenItems items cs
  | [], _, _, hne, _, _ => absurd rfl hne
  | [item], level, after, _, h, hafter => by
      rw [plainItems, plainItems, Bool.and_true] at h
      refine ⟨item.writePretty level ++ after, ?_,
        WrittenItems.last (written_pretty level h) hafter⟩
      rw [writePrettyItems, List.append_assoc]
  | item :: next :: rest, level, after, _, h, hafter => by
      rw [plainItems, Bool.and_eq_true] at h
      rcases writtenItems_pretty level (List.cons_ne_nil next rest) h.2 hafter with
        ⟨cs, hlines, hitems⟩
      refine ⟨_, ?_, WrittenItems.more (written_pretty level h.1) blank_nil (blank_newLine level)
        hitems⟩
      rw [writePrettyItems, ← hlines]
      · simp
      · exact List.cons_ne_nil next rest

theorem writtenMembers_pretty : forall {members : List (String × Json)} (level : Nat)
    {after : List Char}, members ≠ [] -> plainMembers members = true -> Blank after ->
      exists cs, writePrettyMembers level members ++ after = newLine level ++ cs ∧
        WrittenMembers members cs
  | [], _, _, hne, _, _ => absurd rfl hne
  | [(name, value)], level, after, _, h, hafter => by
      rw [plainMembers, plainMembers, Bool.and_true] at h
      refine ⟨_, ?_, WrittenMembers.last name blank_nil blank_space (written_pretty level h) hafter⟩
      rw [writePrettyMembers]
      simp
  | (name, value) :: next :: rest, level, after, _, h, hafter => by
      rw [plainMembers, Bool.and_eq_true] at h
      rcases writtenMembers_pretty level (List.cons_ne_nil next rest) h.2 hafter with
        ⟨cs, hlines, hmembers⟩
      refine ⟨_, ?_, WrittenMembers.more name blank_nil blank_space (written_pretty level h.1)
        blank_nil (blank_newLine level) hmembers⟩
      rw [writePrettyMembers, ← hlines]
      · simp
      · exact List.cons_ne_nil next rest

end

end Json
end FieldGrammar
