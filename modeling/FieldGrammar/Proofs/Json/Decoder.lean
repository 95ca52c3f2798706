import Mathlib.Data.List.Forall2
import FieldGrammar.Json.Decoder
import FieldGrammar.Proofs.Json.Written

/-!
# Decoding any text of a value

A decoder that reads a JSON value reads it from each of its texts.  This is shown for
strings, and carried from the items of a list to the list and from the fields of a
record to the record.
-/

namespace FieldGrammar
namespace Json
namespace Decoder

/-- The decoder reads the value from every text of the JSON value, whatever follows it. -/
def Decodes {α : Type} (decoder : Decoder α) (json : Json) (value : α) : Prop :=
  forall gap cs rest, Blank gap -> Written json cs ->
    decoder (gap ++ (cs ++ rest)) = .ok (value, rest)

/-!
# Strings
-/

theorem decodes_text (value : String) : Decodes text (string value) value := by
  intro gap cs rest hgap h
  cases h
  rw [text, writeString_append, skipBlanks_gap hgap (by decide)]
  exact readString_written value rest

theorem decodes_text? (value : String) : Decodes text? (string value) (some value) := by
  intro gap cs rest hgap h
  have hread := decodes_text value [] cs rest blank_nil h
  cases h
  rw [List.nil_append, writeString_append] at hread
  rw [text?, writeString_append, skipBlanks_gap hgap (by decide)]
  show (text _ >>= _) = _
  rw [hread]
  rfl

/-!
# Lists
-/

theorem nextItem_first {gap : List Char} {c : Char} (hgap : Blank gap)
    (hblank : isBlank c = false) (hc : c ≠ ']') (others : List Char) :
    nextItem true (gap ++ c :: others) = .ok (some (c :: others)) := by
  rw [nextItem, skipBlanks_gap hgap hblank]
  split
  · rename_i heq
    cases heq
  · rename_i heq
    cases heq
    exact absurd rfl hc
  · rename_i heq
    cases heq
    rfl

theorem nextItem_later {after gap : List Char} {c : Char} (hafter : Blank after)
    (hgap : Blank gap) (hblank : isBlank c = false) (hc : c ≠ ']') (others : List Char) :
    nextItem false (after ++ ',' :: (gap ++ c :: others)) = .ok (some (c :: others)) := by
  rw [nextItem, skipBlanks_gap hafter (by decide)]
  simp [skipBlanks_gap hgap hblank, hc]

theorem nextItem_closing (first : Bool) {gap : List Char} (hgap : Blank gap)
    (rest : List Char) : nextItem first (gap ++ ']' :: rest) = .ok none := by
  rw [nextItem, skipBlanks_gap hgap (by decide)]
  rfl

theorem closeList_gap {gap : List Char} (hgap : Blank gap) (rest : List Char) :
    closeList (gap ++ ']' :: rest) = .ok rest := by
  rw [closeList, skipBlanks_gap hgap (by decide)]
  rfl

section Lists

variable {α : Type} {item : Decoder α}

theorem items_closing {fuel : Nat} {gap : List Char} (hfuel : 0 < fuel) (first : Bool)
    (hgap : Blank gap) (rest : List Char) :
    items item fuel first (gap ++ ']' :: rest) = .ok ([], gap ++ ']' :: rest) := by
  cases fuel with
  | zero => cases hfuel
  | succ fuel => simp [items, nextItem_closing first hgap]

theorem items_next {fuel : Nat} {first : Bool} {start cs rest final : List Char} {value : α}
    {values : List α} (hnext : nextItem first start = .ok (some cs))
    (hitem : item cs = .ok (value, rest))
    (hmore : items item fuel false rest = .ok (values, final)) :
    items item (fuel + 1) first start = .ok (value :: values, final) := by
  simp [items, hnext, hitem, hmore]

/-- The items up to the closing bracket, from a place where the first of them comes next. -/
theorem items_written {jsons : List Json} {values : List α}
    (h : List.Forall₂ (Decodes item) jsons values) {first : Bool} {start cs rest : List Char}
    {fuel : Nat} (hwritten : WrittenItems jsons cs)
    (hnext : nextItem first start = .ok (some (cs ++ ']' :: rest))) (hfuel : cs.length < fuel) :
    exists after, Blank after ∧
      items item fuel first start = .ok (values, after ++ ']' :: rest) := by
  induction h generalizing first start cs fuel with
  | nil => cases hwritten
  | cons hitem hothers ih =>
      cases fuel with
      | zero => cases hfuel
      | succ fuel =>
          cases hwritten with
          | last hjson hafter =>
              rename_i text after
              cases hothers
              have hpos := written_length_pos hjson
              rw [List.length_append] at hfuel
              rw [List.append_assoc] at hnext
              have hread := hitem [] text (after ++ ']' :: rest) blank_nil hjson
              refine ⟨after, hafter, items_next hnext hread ?_⟩
              exact items_closing (by omega) false hafter rest
          | more hjson hafter hgap hmore =>
              rename_i text after gap more
              simp only [List.length_append, List.length_cons] at hfuel
              simp only [List.append_assoc, List.cons_append] at hnext
              have hread := hitem [] text (after ++ ',' :: (gap ++ (more ++ ']' :: rest))) blank_nil
                hjson
              have hlength : more.length < fuel := by omega
              rcases writtenItems_head hmore with ⟨c, others, rfl, hblank, hc⟩
              have hlater := nextItem_later hafter hgap hblank hc (others ++ ']' :: rest)
              rcases ih hmore hlater hlength with ⟨final, hfinal, hitems⟩
              exact ⟨final, hfinal, items_next hnext hread hitems⟩

theorem decodes_list {jsons : List Json} {values : List α}
    (h : List.Forall₂ (Decodes item) jsons values) : Decodes (list item) (array jsons) values := by
  intro gap cs rest hgap hwritten
  cases hwritten with
  | emptyArray hinner =>
      rename_i inner
      cases h
      rw [List.cons_append, List.append_assoc, List.singleton_append, list,
        skipBlanks_gap hgap (by decide)]
      simp [items_closing, hinner, closeList_gap hinner]
  | array hinner hitems =>
      rename_i inner text
      rcases writtenItems_head hitems with ⟨c, others, hhead, hblank, hc⟩
      have hnext := nextItem_first hinner hblank hc (others ++ ']' :: rest)
      rw [← List.cons_append, ← hhead] at hnext
      have hfuel : text.length < (inner ++ (text ++ ']' :: rest)).length + 1 := by
        simp only [List.length_append]
        omega
      rcases items_written h hitems hnext hfuel with ⟨after, hafter, hread⟩
      rw [List.cons_append, List.append_assoc, List.append_assoc, List.singleton_append, list,
        skipBlanks_gap hgap (by decide)]
      simp only [hread, ok_bind, closeList_gap hafter]

/-- A list of values, each of which is read from its own JSON value. -/
theorem decodes_list_map {encode : α -> Json} {values : List α}
    (h : forall value, value ∈ values -> Decodes item (encode value) value) :
    Decodes (list item) (array (values.map encode)) values := by
  apply decodes_list
  rw [List.forall₂_map_left_iff, List.forall₂_same]
  exact h

end Lists

theorem decodes_strings (values : List String) : Decodes (list text) (strings values) values :=
  decodes_list_map fun value _ => decodes_text value

/-!
# Records

The members of an object fill the fields of a draft one after the other.
-/

theorem nextMember_first {gap : List Char} (hgap : Blank gap) (others : List Char) :
    nextMember true (gap ++ '"' :: others) = .ok (some others) := by
  rw [nextMember, skipBlanks_gap hgap (by decide)]
  rfl

theorem nextMember_later {after gap : List Char} (hafter : Blank after) (hgap : Blank gap)
    (others : List Char) :
    nextMember false (after ++ ',' :: (gap ++ '"' :: others)) = .ok (some others) := by
  have hskip := skipBlanks_gap hgap (c := '"') (by decide) others
  rw [nextMember, skipBlanks_gap hafter (by decide)]
  simp [hskip]

theorem nextMember_closing (first : Bool) {gap : List Char} (hgap : Blank gap)
    (rest : List Char) : nextMember first (gap ++ '}' :: rest) = .ok none := by
  rw [nextMember, skipBlanks_gap hgap (by decide)]
  rfl

theorem closeObject_gap {gap : List Char} (hgap : Blank gap) (rest : List Char) :
    closeObject (gap ++ '}' :: rest) = .ok rest := by
  rw [closeObject, skipBlanks_gap hgap (by decide)]
  rfl

theorem readColon_gap {colon : List Char} (hcolon : Blank colon) (rest : List Char) :
    readColon (colon ++ ':' :: rest) = .ok rest := by
  rw [readColon, skipBlanks_gap hcolon (by decide)]
  rfl

section Records

variable {σ α : Type} {fields : List (RecordField σ)}

/-- The members take one draft to another, each by the field of its name. -/
inductive Fills (fields : List (RecordField σ)) : σ -> List (String × Json) -> σ -> Prop where
  | done (draft : σ) : Fills fields draft [] draft
  | next {draft later final : σ} {name : String} {value : Json}
      {members : List (String × Json)} {field : RecordField σ} :
      fields.find? (fun field => field.name == name) = some field ->
      field.present draft = false ->
      Decodes (field.read draft) value later ->
      Fills fields later members final ->
      Fills fields draft ((name, value) :: members) final

theorem fills_append {draft later final : σ} {front back : List (String × Json)}
    (hfront : Fills fields draft front later) (hback : Fills fields later back final) :
    Fills fields draft (front ++ back) final := by
  induction hfront with
  | done draft => exact hback
  | next hfield hpresent hvalue _ ih => exact Fills.next hfield hpresent hvalue (ih hback)

theorem fills_one {draft later : σ} {name : String} {value : Json} {field : RecordField σ}
    (hfield : fields.find? (fun field => field.name == name) = some field)
    (hpresent : field.present draft = false) (hvalue : Decodes (field.read draft) value later) :
    Fills fields draft [(name, value)] later :=
  Fills.next hfield hpresent hvalue (Fills.done later)

/-- A field that stores what its decoder reads. -/
theorem decodes_store {decoder : Decoder α} {json : Json} {value : α} (store : α -> σ)
    (h : Decodes decoder json value) :
    Decodes (fun cs => do
      let (value, rest) ← decoder cs
      .ok (store value, rest)) json (store value) := by
  intro gap cs rest hgap hwritten
  simp only [h gap cs rest hgap hwritten, ok_bind]

theorem members_closing {fuel : Nat} {gap : List Char} (hfuel : 0 < fuel) (first : Bool)
    (hgap : Blank gap) (draft : σ) (rest : List Char) :
    members fields fuel draft first (gap ++ '}' :: rest) = .ok (draft, gap ++ '}' :: rest) := by
  cases fuel with
  | zero => cases hfuel
  | succ fuel => simp [members, nextMember_closing first hgap]

theorem members_next {fuel : Nat} {first : Bool} {start colon cs rest final : List Char}
    {draft later result : σ} {name : String} {field : RecordField σ}
    (hnext : nextMember first start =
      .ok (some (name.toList.flatMap escapeChar ++ '"' :: (colon ++ ':' :: cs))))
    (hcolon : Blank colon)
    (hfield : fields.find? (fun field => field.name == name) = some field)
    (hpresent : field.present draft = false) (hread : field.read draft cs = .ok (later, rest))
    (hmore : members fields fuel later false rest = .ok (result, final)) :
    members fields (fuel + 1) draft first start = .ok (result, final) := by
  simp [members, hnext, readString_written, hfield, hpresent, readColon_gap hcolon, hread, hmore]

/-- The members up to the closing brace, from a place where the first of them comes next. -/
theorem members_written {draft result : σ} {jsons : List (String × Json)}
    (h : Fills fields draft jsons result) {first : Bool} {start cs rest : List Char} {fuel : Nat}
    (hwritten : WrittenMembers jsons cs)
    (hnext : forall inner, cs ++ '}' :: rest = '"' :: inner ->
      nextMember first start = .ok (some inner))
    (hfuel : cs.length < fuel) :
    exists after, Blank after ∧
      members fields fuel draft first start = .ok (result, after ++ '}' :: rest) := by
  induction h generalizing first start cs fuel with
  | done draft => cases hwritten
  | next hfield hpresent hvalue hothers ih =>
      cases fuel with
      | zero => cases hfuel
      | succ fuel =>
          cases hwritten with
          | last name hcolon hgap hjson hafter =>
              rename_i colon gap text after
              cases hothers
              simp only [List.length_append, List.length_cons, writeString] at hfuel
              have hread := hvalue gap text (after ++ '}' :: rest) hgap hjson
              have hstart := hnext _ (by
                simp only [List.append_assoc, List.cons_append]
                exact writeString_append _ _)
              refine ⟨after, hafter, members_next hstart hcolon hfield hpresent hread ?_⟩
              exact members_closing (by omega) false hafter _ rest
          | more name hcolon hgap hjson hafter hbefore hmore =>
              rename_i colon gap text after before more
              simp only [List.length_append, List.length_cons, writeString] at hfuel
              have hread := hvalue gap text (after ++ ',' :: (before ++ (more ++ '}' :: rest))) hgap
                hjson
              have hstart := hnext _ (by
                simp only [List.append_assoc, List.cons_append]
                exact writeString_append _ _)
              have hlater : forall inner, more ++ '}' :: rest = '"' :: inner ->
                  nextMember false (after ++ ',' :: (before ++ (more ++ '}' :: rest))) =
                    .ok (some inner) := by
                intro inner hinner
                rw [hinner]
                exact nextMember_later hafter hbefore inner
              have hlength : more.length < fuel := by omega
              rcases ih hmore hlater hlength with ⟨final, hfinal, hmembers⟩
              exact ⟨final, hfinal,
                members_next hstart hcolon hfield hpresent hread hmembers⟩

theorem decodes_record {empty draft : σ} {finish : σ -> Option α} {value : α}
    {jsons : List (String × Json)} (h : Fills fields empty jsons draft)
    (hfinish : finish draft = some value) :
    Decodes (record fields empty finish) (object jsons) value := by
  have hcomplete : complete finish draft = .ok value := by
    rw [complete, hfinish]
  intro gap cs rest hgap hwritten
  cases hwritten with
  | emptyObject hinner =>
      cases h
      rw [List.cons_append, List.append_assoc, List.singleton_append, record,
        skipBlanks_gap hgap (by decide)]
      simp [members_closing, hinner, hcomplete, closeObject_gap hinner]
  | object hinner hmembers =>
      rename_i inner text
      have hnext : forall others, text ++ '}' :: rest = '"' :: others ->
          nextMember true (inner ++ (text ++ '}' :: rest)) = .ok (some others) := by
        intro others hothers
        rw [hothers]
        exact nextMember_first hinner others
      have hfuel : text.length < (inner ++ (text ++ '}' :: rest)).length + 1 := by
        simp only [List.length_append]
        omega
      rcases members_written h hmembers hnext hfuel with ⟨after, hafter, hread⟩
      rw [List.cons_append, List.append_assoc, List.append_assoc, List.singleton_append, record,
        skipBlanks_gap hgap (by decide)]
      simp only [hread, ok_bind, hcomplete, closeObject_gap hafter]

end Records

/-!
# Whole texts
-/

theorem run_of_decodes {α : Type} {decoder : Decoder α} {json : Json} {value : α}
    {before cs after : List Char} (h : Decodes decoder json value) (hbefore : Blank before)
    (hwritten : Written json cs) (hafter : Blank after) :
    run decoder (String.ofList (before ++ (cs ++ after))) = .ok value := by
  simp [run, h before cs after hbefore hwritten, skipBlanks_blank hafter]

end Decoder
end Json
end FieldGrammar
