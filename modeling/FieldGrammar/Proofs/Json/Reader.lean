import FieldGrammar.Json.Reader
import FieldGrammar.Proofs.Json.Written
import FieldGrammar.Proofs.Text

/-!
# Reading any text of a value

Whatever blanks a text of a value has, reading it gives the value.  In particular the
compact form and the pretty form of a value are read as that value.
-/

namespace FieldGrammar
namespace Json

/-!
# Reading one value
-/

theorem readValue_gap {gap : List Char} (h : Blank gap) (fuel : Nat) (cs : List Char) :
    readValue fuel (gap ++ cs) = readValue fuel cs := by
  cases fuel with
  | zero => rw [readValue, readValue]
  | succ fuel => rw [readValue, readValue, skipBlanks_append h]

theorem readValue_bool (value : Bool) (fuel : Nat) (rest : List Char) :
    readValue (fuel + 1) (writeBool value ++ rest) = some (bool value, rest) := by
  cases value with
  | false => rfl
  | true => rfl

theorem readValue_string (text : String) (fuel : Nat) (rest : List Char) :
    readValue (fuel + 1) (writeString text ++ rest) = some (string text, rest) := by
  rw [writeString_append, readValue, skipBlanks_cons (by decide)]
  simp [readString_written, Except.toOption]

theorem readNumeral_toDigits (n : Nat) {rest : List Char} (hrest : EndsNumber rest) :
    readNumeral (Nat.toDigits 10 n ++ rest) = some (natural n, rest) := by
  have hsign : forall others, Nat.toDigits 10 n ++ rest ≠ '-' :: others := by
    rcases toDigits_cons n with ⟨c, digits, hdigits, hdigit⟩
    intro others hminus
    rw [hdigits] at hminus
    cases hminus
    cases hdigit
  have hliteral : (Nat.toDigits 10 n ++ rest).take
      ((Nat.toDigits 10 n ++ rest).length - rest.length) = Nat.toDigits 10 n := by
    rw [List.length_append, Nat.add_sub_cancel, List.take_left]
  have hall : (Nat.toDigits 10 n).all Char.isDigit = true :=
    List.all_eq_true.mpr (toDigits_isDigit n)
  simp only [readNumeral, readNumber_toDigits n hrest, Except.toOption, Option.bind_eq_bind,
    Option.bind_some, hliteral, hall, if_true, Text.decimalValue_toDigits]

theorem readValue_natural (n : Nat) (fuel : Nat) {rest : List Char} (hrest : EndsNumber rest) :
    readValue (fuel + 1) (Nat.toDigits 10 n ++ rest) = some (natural n, rest) := by
  have hread := readNumeral_toDigits n hrest
  rcases toDigits_cons n with ⟨c, others, hdigits, hdigit⟩
  rw [hdigits, List.cons_append] at hread ⊢
  rw [readValue, skipBlanks_cons (isBlank_of_isDigit hdigit)]
  -- a digit is none of the characters that the other kinds of values start with
  split
  case h_8 => exact hread
  all_goals
    rename_i heq
    cases heq
  all_goals cases hdigit

theorem readValue_bracket (fuel : Nat) (rest : List Char) :
    readValue (fuel + 1) ('[' :: rest) =
      (match skipBlanks rest with
      | ']' :: rest => some (array [], rest)
      | rest => do
          let (items, rest) ← readItems fuel rest
          some (array items, rest)) := by
  rw [readValue, skipBlanks_cons (by decide)]
  rfl

theorem readValue_brace (fuel : Nat) (rest : List Char) :
    readValue (fuel + 1) ('{' :: rest) =
      (match skipBlanks rest with
      | '}' :: rest => some (object [], rest)
      | rest => do
          let (members, rest) ← readMembers fuel rest
          some (object members, rest)) := by
  rw [readValue, skipBlanks_cons (by decide)]
  rfl

theorem readValue_emptyArray {gap : List Char} (hgap : Blank gap) (fuel : Nat)
    (rest : List Char) :
    readValue (fuel + 1) ('[' :: (gap ++ ']' :: rest)) = some (array [], rest) := by
  rw [readValue_bracket, skipBlanks_gap hgap (by decide)]
  rfl

theorem readValue_array {gap cs rest : List Char} {items : List Json} {fuel : Nat}
    (hgap : Blank gap) (hitems : WrittenItems items cs)
    (hread : readItems fuel (cs ++ ']' :: rest) = some (items, rest)) :
    readValue (fuel + 1) ('[' :: (gap ++ (cs ++ ']' :: rest))) = some (array items, rest) := by
  rcases writtenItems_head hitems with ⟨c, others, rfl, hblank, hc⟩
  rw [readValue_bracket, List.cons_append, skipBlanks_gap hgap hblank, ← List.cons_append]
  split
  · rename_i heq
    cases heq
    exact absurd rfl hc
  · rw [hread]
    rfl

theorem readValue_emptyObject {gap : List Char} (hgap : Blank gap) (fuel : Nat)
    (rest : List Char) :
    readValue (fuel + 1) ('{' :: (gap ++ '}' :: rest)) = some (object [], rest) := by
  rw [readValue_brace, skipBlanks_gap hgap (by decide)]
  rfl

theorem readValue_object {gap cs rest : List Char} {members : List (String × Json)} {fuel : Nat}
    (hgap : Blank gap) (hmembers : WrittenMembers members cs)
    (hread : readMembers fuel (cs ++ '}' :: rest) = some (members, rest)) :
    readValue (fuel + 1) ('{' :: (gap ++ (cs ++ '}' :: rest))) = some (object members, rest) := by
  rcases writtenMembers_head hmembers with ⟨others, rfl⟩
  rw [readValue_brace, List.cons_append, skipBlanks_gap hgap (by decide), ← List.cons_append]
  split
  · rename_i heq
    cases heq
  · rw [hread]
    rfl

/-!
# Separators
-/

theorem readSeparator_comma {gap : List Char} (hgap : Blank gap) (closing : Char)
    (rest : List Char) : readSeparator closing (gap ++ ',' :: rest) = some (true, rest) := by
  rw [readSeparator, skipBlanks_gap hgap (by decide)]
  rfl

theorem readSeparator_closing {gap : List Char} (hgap : Blank gap) (closing : Char)
    (hblank : isBlank closing = false) (hcomma : closing ≠ ',') (rest : List Char) :
    readSeparator closing (gap ++ closing :: rest) = some (false, rest) := by
  rw [readSeparator, skipBlanks_gap hgap hblank]
  simp [hcomma]

/-- Neither a blank nor what separates values goes on with a number. -/
theorem endsNumber_gap {gap : List Char} (hgap : Blank gap) {rest : List Char}
    (hrest : EndsNumber rest) : EndsNumber (gap ++ rest) := by
  cases gap with
  | nil => exact hrest
  | cons c others =>
      apply endsNumber_cons
      have hc := hgap c List.mem_cons_self
      simp only [isBlank, Bool.or_eq_true, decide_eq_true_eq] at hc
      rcases hc with ((rfl | rfl) | rfl) | rfl <;> decide

/-!
# Reading any text of a value

The induction is on the number of steps.  Twice the length of the text is enough, as
every item or member takes one step and has at least one character.
-/

theorem readItems_last {fuel : Nat} {cs rest after : List Char} {item : Json}
    (hafter : Blank after)
    (hread : readValue fuel cs = some (item, after ++ ']' :: rest)) :
    readItems (fuel + 1) cs = some ([item], rest) := by
  have hclose := readSeparator_closing hafter ']' (by decide) (by decide) rest
  simp [readItems, hread, hclose]

theorem readItems_more {fuel : Nat} {cs rest after others : List Char} {item : Json}
    {items : List Json} (hafter : Blank after)
    (hread : readValue fuel cs = some (item, after ++ ',' :: others))
    (hmore : readItems fuel others = some (items, rest)) :
    readItems (fuel + 1) cs = some (item :: items, rest) := by
  have hcomma := readSeparator_comma hafter ']' others
  simp [readItems, hread, hcomma, hmore]

/-- A name with its colon, before the value of the member. -/
theorem readMembers_name {fuel : Nat} {colon cs : List Char} (name : String)
    (hcolon : Blank colon) :
    readMembers (fuel + 1) (writeString name ++ (colon ++ ':' :: cs)) =
      (do
        let (value, rest) ← readValue fuel cs
        let (more, rest) ← readSeparator '}' rest
        if more then
          let (members, rest) ← readMembers fuel rest
          some ((name, value) :: members, rest)
        else some ([(name, value)], rest)) := by
  have hskip := skipBlanks_gap hcolon (c := ':') (by decide) cs
  rw [writeString_append, readMembers, skipBlanks_cons (by decide)]
  simp [readString_written, Except.toOption, hskip]

theorem readMembers_last {fuel : Nat} {colon cs rest after : List Char} (name : String)
    {value : Json} (hcolon : Blank colon) (hafter : Blank after)
    (hread : readValue fuel cs = some (value, after ++ '}' :: rest)) :
    readMembers (fuel + 1) (writeString name ++ (colon ++ ':' :: cs)) =
      some ([(name, value)], rest) := by
  have hclose := readSeparator_closing hafter '}' (by decide) (by decide) rest
  simp [readMembers_name name hcolon, hread, hclose]

theorem readMembers_more {fuel : Nat} {colon cs rest after others : List Char} (name : String)
    {value : Json} {members : List (String × Json)} (hcolon : Blank colon) (hafter : Blank after)
    (hread : readValue fuel cs = some (value, after ++ ',' :: others))
    (hmore : readMembers fuel others = some (members, rest)) :
    readMembers (fuel + 1) (writeString name ++ (colon ++ ':' :: cs)) =
      some ((name, value) :: members, rest) := by
  have hcomma := readSeparator_comma hafter '}' others
  simp [readMembers_name name hcolon, hread, hcomma, hmore]

theorem readItems_gap {gap : List Char} (h : Blank gap) (fuel : Nat) (cs : List Char) :
    readItems fuel (gap ++ cs) = readItems fuel cs := by
  cases fuel with
  | zero => rw [readItems, readItems]
  | succ fuel => rw [readItems, readItems, readValue_gap h]

theorem readMembers_gap {gap : List Char} (h : Blank gap) (fuel : Nat) (cs : List Char) :
    readMembers fuel (gap ++ cs) = readMembers fuel cs := by
  cases fuel with
  | zero => rw [readMembers, readMembers]
  | succ fuel => rw [readMembers, readMembers, skipBlanks_append h]


/-- The three readers read every text of what they are for, within a number of steps. -/
structure ReadsWritten (fuel : Nat) : Prop where
  value {json : Json} {cs rest : List Char} :
    Written json cs -> EndsNumber rest -> 2 * cs.length ≤ fuel ->
      readValue fuel (cs ++ rest) = some (json, rest)
  items {items : List Json} {cs rest : List Char} :
    WrittenItems items cs -> 2 * cs.length < fuel ->
      readItems fuel (cs ++ ']' :: rest) = some (items, rest)
  members {members : List (String × Json)} {cs rest : List Char} :
    WrittenMembers members cs -> 2 * cs.length < fuel ->
      readMembers fuel (cs ++ '}' :: rest) = some (members, rest)

theorem endsNumber_separator {c : Char} (h : c = ',' ∨ c = ']' ∨ c = '}') {gap : List Char}
    (hgap : Blank gap) (rest : List Char) : EndsNumber (gap ++ c :: rest) := by
  apply endsNumber_gap hgap
  apply endsNumber_cons
  rcases h with rfl | rfl | rfl <;> decide

theorem readsWritten_value {fuel : Nat} (ih : ReadsWritten fuel) {json : Json}
    {cs rest : List Char} (h : Written json cs) (hrest : EndsNumber rest)
    (hfuel : 2 * cs.length ≤ fuel + 1) :
    readValue (fuel + 1) (cs ++ rest) = some (json, rest) := by
  cases h with
  | null => rfl
  | bool value => exact readValue_bool value fuel rest
  | natural value => exact readValue_natural value fuel hrest
  | string text => exact readValue_string text fuel rest
  | emptyArray hgap =>
      rw [List.cons_append, List.append_assoc]
      exact readValue_emptyArray hgap fuel rest
  | array hgap hitems =>
      rw [List.cons_append, List.append_assoc, List.append_assoc]
      apply readValue_array hgap hitems
      apply ih.items hitems
      simp only [List.length_cons, List.length_append] at hfuel
      omega
  | emptyObject hgap =>
      rw [List.cons_append, List.append_assoc]
      exact readValue_emptyObject hgap fuel rest
  | object hgap hmembers =>
      rw [List.cons_append, List.append_assoc, List.append_assoc]
      apply readValue_object hgap hmembers
      apply ih.members hmembers
      simp only [List.length_cons, List.length_append] at hfuel
      omega

theorem readsWritten_items {fuel : Nat} (ih : ReadsWritten fuel) {items : List Json}
    {cs rest : List Char} (h : WrittenItems items cs) (hfuel : 2 * cs.length < fuel + 1) :
    readItems (fuel + 1) (cs ++ ']' :: rest) = some (items, rest) := by
  cases h with
  | last hitem hafter =>
      rw [List.length_append] at hfuel
      rw [List.append_assoc]
      apply readItems_last hafter
      exact ih.value hitem (endsNumber_separator (by simp) hafter rest) (by omega)
  | more hitem hafter hgap hitems =>
      simp only [List.length_cons, List.length_append] at hfuel
      simp only [List.append_assoc, List.cons_append]
      apply readItems_more hafter
      · exact ih.value hitem (endsNumber_separator (by simp) hafter _) (by omega)
      · rw [readItems_gap hgap]
        exact ih.items hitems (by omega)

theorem readsWritten_members {fuel : Nat} (ih : ReadsWritten fuel)
    {members : List (String × Json)} {cs rest : List Char} (h : WrittenMembers members cs)
    (hfuel : 2 * cs.length < fuel + 1) :
    readMembers (fuel + 1) (cs ++ '}' :: rest) = some (members, rest) := by
  cases h with
  | last name hcolon hgap hvalue hafter =>
      simp only [List.length_cons, List.length_append] at hfuel
      simp only [List.append_assoc, List.cons_append]
      apply readMembers_last name hcolon hafter
      rw [readValue_gap hgap]
      exact ih.value hvalue (endsNumber_separator (by simp) hafter rest) (by omega)
  | more name hcolon hgap hvalue hafter hbefore hmembers =>
      simp only [List.length_cons, List.length_append] at hfuel
      simp only [List.append_assoc, List.cons_append]
      apply readMembers_more name hcolon hafter
      · rw [readValue_gap hgap]
        exact ih.value hvalue (endsNumber_separator (by simp) hafter _) (by omega)
      · rw [readMembers_gap hbefore]
        exact ih.members hmembers (by omega)

theorem readsWritten (fuel : Nat) : ReadsWritten fuel := by
  induction fuel with
  | zero =>
      constructor
      · intro json cs rest h _ hfuel
        have hpos := written_length_pos h
        omega
      · intro items cs rest _ hfuel
        cases hfuel
      · intro members cs rest _ hfuel
        cases hfuel
  | succ fuel ih =>
      exact ⟨readsWritten_value ih, readsWritten_items ih, readsWritten_members ih⟩

theorem parse?_of_written {json : Json} {cs after : List Char} (h : Written json cs)
    (hafter : Blank after) : parse? (String.ofList (cs ++ after)) = some json := by
  have hends : EndsNumber after := by
    have hends := endsNumber_gap hafter endsNumber_nil
    rwa [List.append_nil] at hends
  have hfuel : 2 * cs.length ≤ 2 * (cs ++ after).length + 2 := by
    rw [List.length_append]
    omega
  simp only [parse?, String.toList_ofList, (readsWritten _).value h hends hfuel,
    Option.bind_eq_bind, Option.bind_some, skipBlanks_blank hafter, List.isEmpty_nil, if_true]

theorem parse?_compact {json : Json} {after : List Char} (h : json.plain = true)
    (hafter : Blank after) : parse? (json.compact ++ String.ofList after) = some json := by
  rw [compact, ← String.ofList_append]
  exact parse?_of_written (written_compact h) hafter

theorem parse?_pretty {json : Json} {after : List Char} (h : json.plain = true)
    (hafter : Blank after) : parse? (json.pretty ++ String.ofList after) = some json := by
  rw [pretty, ← String.ofList_append]
  exact parse?_of_written (written_pretty 0 h) hafter

end Json
end FieldGrammar
