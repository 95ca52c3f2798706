import Mathlib.Data.List.Infix
import FieldGrammar.Proofs.Positions
import FieldGrammar.Proofs.Text
import FieldGrammar.Source

/-!
# Pages of a lookup

An element of a list stands on the page that its position divided by the page size
gives.  The offset of a page is kept within the range of offsets on the way, which
does no harm to a list whose length is within that range.  So the pages of a
lookup, one after the other, are what a lookup without pages gives.
-/

namespace FieldGrammar

/-!
# Pages of a list
-/

/-- Every element stands on the page its position belongs to, and on no other. -/
structure Pages (values : List String) (pageAt : Nat -> Nat -> List String) : Prop where
  exact : forall page pageSize, 0 < pageSize ->
    pageAt page pageSize = pick (fun i => i / pageSize = page) values
  joined : forall pageSize count, 0 < pageSize -> values.length ≤ count * pageSize ->
    (List.range count).flatMap (fun page => pageAt page pageSize) = values

theorem pick_page {pageSize : Nat} (hsize : 0 < pageSize) (page : Nat) (values : List String) :
    pick (fun i => i / pageSize = page) values =
      (values.drop (page * pageSize)).take pageSize := by
  apply pick_interval
  intro i
  rw [decide_eq_true_iff, Nat.div_eq_iff hsize]
  omega

/-- A page that starts past the range of offsets is empty, wherever it is taken to start. -/
theorem paginate_eq_take {values : List String} (h : values.length < Text.offsetBound)
    {pageSize : Nat} (hsize : 0 < pageSize) (page : Nat) :
    paginate values page pageSize = (values.drop (page * pageSize)).take pageSize := by
  rw [paginate, if_neg (Nat.ne_of_gt hsize)]
  by_cases hin : page * pageSize ≤ Text.offsetBound - 1
  · rw [Nat.min_eq_left hin]
  · have hpast : values.length ≤ Text.offsetBound - 1 := Nat.le_sub_one_of_lt h
    have hout : Text.offsetBound - 1 ≤ page * pageSize := Nat.le_of_not_le hin
    rw [Nat.min_eq_right hout, List.drop_eq_nil_of_le hpast,
      List.drop_eq_nil_of_le (Nat.le_trans hpast hout)]

theorem flatMap_pages (values : List String) (pageSize count : Nat) :
    (List.range count).flatMap (fun page => (values.drop (page * pageSize)).take pageSize) =
      values.take (count * pageSize) := by
  induction count with
  | zero => simp
  | succ count ih =>
      rw [List.range_succ, List.flatMap_append, ih, List.flatMap_singleton, Nat.succ_mul,
        List.take_add]

theorem pages_paginate {values : List String} (h : values.length < Text.offsetBound) :
    Pages values (paginate values) := by
  constructor
  · intro page pageSize hsize
    rw [pick_page hsize, paginate_eq_take h hsize]
  · intro pageSize count hsize hcount
    simp only [paginate_eq_take h hsize]
    rw [flatMap_pages, List.take_of_length_le hcount]

/-- The last page there is starts far past the range of offsets. -/
example : paginate ["a"] (Text.offsetBound - 1) 2 = [] := by decide

theorem Pages.disjoint {values : List String} {pageAt : Nat -> Nat -> List String}
    (h : Pages values pageAt) (hnodup : values.Nodup) {pageSize a b : Nat}
    (hsize : 0 < pageSize) (hne : a ≠ b) :
    (pageAt a pageSize).Disjoint (pageAt b pageSize) := by
  rw [h.exact a pageSize hsize, h.exact b pageSize hsize]
  apply pick_disjoint hnodup
  intro i hi
  rw [decide_eq_true_iff] at hi
  rw [decide_eq_false_iff_not, hi]
  exact hne

/-!
# What a source offers
-/

theorem Text.occursIn_iff {part cs : List Char} :
    Text.occursIn part cs = true <-> part <:+: cs := by
  induction cs with
  | nil => rw [occursIn, List.isEmpty_iff, List.infix_nil]
  | cons c rest ih =>
      rw [occursIn, Bool.or_eq_true, List.isPrefixOf_iff_prefix, ih, List.infix_cons_iff]

namespace Source

/--
The values that a source has for a query, in their order.  A source is taken to have
fewer values than there are offsets.
-/
inductive Offers (context : Option Statement) (query : String) :
    Source -> List String -> Prop where
  | listed {values : List String} :
      values.length < Text.offsetBound ->
      Offers context query (.listed values)
        (values.filter fun value => query.toList <:+: value.toList)
  | numbered {stem : String} {last : Nat} :
      last + 1 < Text.offsetBound ->
      Offers context query (.numbered stem last)
        (((List.range (last + 1)).map fun i => stem ++ Nat.repr i).filter fun value =>
          query.toList <:+: value.toList)
  | quoted {last : Nat} :
      last + 1 < Text.offsetBound ->
      Offers context query (.quoted last)
        ((List.range (last + 1)).map fun i => "\"" ++ stemOf context ++ Nat.repr i ++ "\"")

theorem matching_eq (query : String) (values : List String) :
    matching query values = values.filter fun value => query.toList <:+: value.toList := by
  unfold matching
  congr 1
  funext value
  rw [Bool.eq_iff_iff, Text.occursIn_iff, decide_eq_true_iff]

section Offers

variable {source : Source} {context : Option Statement} {query : String} {offered : List String}

theorem lookup_of_offers (h : source.Offers context query offered) (page pageSize : Nat) :
    source.lookup context query page pageSize = .ok (paginate offered page pageSize) := by
  cases h with
  | listed _ => rw [lookup, matching_eq]
  | numbered _ =>
      rw [lookup, matching_eq]
      rfl
  | quoted _ => rfl

theorem length_of_offers (h : source.Offers context query offered) :
    offered.length < Text.offsetBound := by
  cases h with
  | listed hlength => exact Nat.lt_of_le_of_lt (List.length_filter_le _ _) hlength
  | numbered hlast =>
      apply Nat.lt_of_le_of_lt (List.length_filter_le _ _)
      rw [List.length_map, List.length_range]
      exact hlast
  | quoted hlast =>
      rw [List.length_map, List.length_range]
      exact hlast

/-- What stands around a number can be taken away, however it ends or starts. -/
theorem nodup_of_offers (h : source.Offers context query offered)
    (hsource : forall values, source ≠ .listed values) : offered.Nodup := by
  cases h with
  | listed _ => exact absurd rfl (hsource _)
  | numbered _ =>
      apply List.Nodup.filter
      apply List.Nodup.map _ List.nodup_range
      intro i j hsame
      exact Text.eq_of_repr_eq ((String.append_right_inj _).mp hsame)
  | quoted _ =>
      apply List.Nodup.map _ List.nodup_range
      intro i j hsame
      have hopen := (String.append_left_inj _).mp hsame
      exact Text.eq_of_repr_eq ((String.append_right_inj _).mp hopen)

end Offers

/-- The pages of a lookup share out what the source offers. -/
structure Paged (source : Source) (context : Option Statement) (query : String)
    (offered : List String) (pageAt : Nat -> Nat -> List String) : Prop where
  answers : forall page pageSize,
    source.lookup context query page pageSize = .ok (pageAt page pageSize)
  everything : forall page, source.lookup context query page 0 = .ok offered
  pages : Pages offered pageAt
  nodup : (forall values, source ≠ .listed values) -> offered.Nodup
  disjoint : (forall values, source ≠ .listed values) -> forall pageSize a b, 0 < pageSize ->
    a ≠ b -> (pageAt a pageSize).Disjoint (pageAt b pageSize)

theorem paged_of_offers {source : Source} {context : Option Statement} {query : String}
    {offered : List String} (h : source.Offers context query offered) :
    source.Paged context query offered (paginate offered) := by
  have hpages := pages_paginate (length_of_offers h)
  constructor
  · exact lookup_of_offers h
  · intro page
    rw [lookup_of_offers h]
    rfl
  · exact hpages
  · exact nodup_of_offers h
  · intro hsource pageSize a b hsize hne
    exact hpages.disjoint (nodup_of_offers h hsource) hsize hne

end Source

theorem pages_lose_and_repeat_nothing (values : List String)
    (hvalues : values.length < Text.offsetBound) (source : Source) (context : Option Statement)
    (query : String) (offered : List String) (hsource : source.Offers context query offered) :
    Pages values (paginate values) ∧
      exists pageAt, source.Paged context query offered pageAt := by
  constructor
  · exact pages_paginate hvalues
  · exact ⟨_, Source.paged_of_offers hsource⟩

/-- The values of the stem `x1` that contain `11`, which may start inside the stem. -/
def elevens : List String := ["x11", "x110", "x111"]

theorem numberedAfterDigit_paged :
    elevens.length < Text.offsetBound ∧
      Source.Offers none "11" (.numbered "x1" 11) elevens ∧
      Pages elevens (paginate elevens) ∧
      exists pageAt, Source.Paged (.numbered "x1" 11) none "11" elevens pageAt := by
  have hlength : elevens.length < Text.offsetBound := by decide
  have hoffered : (((List.range (11 + 1)).map fun i => "x1" ++ Nat.repr i).filter fun value =>
      "11".toList <:+: value.toList) = elevens := by decide +kernel
  have hsource : Source.Offers none "11" (.numbered "x1" 11) elevens := by
    rw [← hoffered]
    exact Source.Offers.numbered (by decide)
  exact ⟨hlength, hsource,
    pages_lose_and_repeat_nothing elevens hlength _ none "11" elevens hsource⟩

end FieldGrammar
