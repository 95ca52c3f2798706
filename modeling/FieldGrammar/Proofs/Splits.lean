import Mathlib.Data.List.Basic

/-!
# Splitting a list at an element

An element of a list is told with what stands before it and after it.
-/

namespace FieldGrammar

theorem split_at_index {α : Type} {xs : List α} {x : α} {index : Nat}
    (h : xs[index]? = some x) :
    xs = xs.take index ++ x :: xs.drop (index + 1) ∧ (xs.take index).length = index := by
  rcases List.getElem?_eq_some_iff.mp h with ⟨hlt, rfl⟩
  constructor
  · rw [← List.drop_eq_getElem_cons hlt, List.take_append_drop]
  · exact List.length_take_of_le (Nat.le_of_lt hlt)

theorem findIdx?_split {α : Type} {p : α -> Bool} {before after : List α} {x : α}
    (hbefore : forall y, y ∈ before -> p y = false) (hx : p x = true) :
    (before ++ x :: after).findIdx? p = some before.length := by
  have hnone : before.findIdx? p = none := List.findIdx?_eq_none_iff.mpr hbefore
  rw [List.findIdx?_append, hnone, List.findIdx?_cons, if_pos hx]
  simp

/-- An element of a list with one more at its end is that one, or is in the list itself. -/
theorem split_concat {α : Type} {xs before after : List α} {x y : α}
    (h : xs ++ [x] = before ++ y :: after) :
    (before = xs ∧ y = x ∧ after = []) ∨
      exists mid, after = mid ++ [x] ∧ xs = before ++ y :: mid := by
  rcases List.eq_nil_or_concat after with rfl | ⟨mid, last, rfl⟩
  · rcases List.append_inj' h rfl with ⟨hbefore, hlast⟩
    rw [List.cons.injEq] at hlast
    exact Or.inl ⟨hbefore.symm, hlast.1.symm, rfl⟩
  · rw [List.concat_eq_append, ← List.cons_append, ← List.append_assoc] at h
    rcases List.append_inj' h rfl with ⟨hxs, hlast⟩
    rw [List.cons.injEq] at hlast
    refine Or.inr ⟨mid, ?_, hxs⟩
    rw [List.concat_eq_append, hlast.1]

end FieldGrammar
