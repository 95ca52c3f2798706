import Mathlib.Data.List.Nodup

/-!
# Elements at chosen positions

The elements of a list that stand at chosen positions, in their order.  What is
left of an input without some of its lines and the pages of a list of values are
both told in this way.
-/

namespace FieldGrammar

/-- The elements whose positions, counted from zero, are chosen. -/
def pick {α : Type} (chosen : Nat -> Bool) (xs : List α) : List α :=
  (xs.zipIdx.filter fun entry => chosen entry.2).map Prod.fst

section Pick

variable {α : Type} {chosen : Nat -> Bool} {xs : List α}

@[simp] theorem pick_nil (chosen : Nat -> Bool) : pick chosen ([] : List α) = [] := rfl

theorem pick_cons (chosen : Nat -> Bool) (x : α) (xs : List α) :
    pick chosen (x :: xs) =
      (if chosen 0 then [x] else []) ++ pick (fun i => chosen (i + 1)) xs := by
  rw [pick, List.zipIdx_cons, List.zipIdx_succ, List.filter_cons, List.filter_map, pick]
  by_cases hfirst : chosen 0 = true
  · simp [hfirst, Function.comp_def]
  · simp [hfirst, Function.comp_def]

theorem pick_append (chosen : Nat -> Bool) (xs ys : List α) :
    pick chosen (xs ++ ys) = pick chosen xs ++ pick (fun i => chosen (xs.length + i)) ys := by
  induction xs generalizing chosen with
  | nil => simp
  | cons x rest ih =>
      have hshift : (fun i => chosen (rest.length + i + 1)) =
          fun i => chosen ((x :: rest).length + i) := by
        funext i
        rw [List.length_cons, Nat.add_right_comm]
      rw [List.cons_append, pick_cons, pick_cons, ih, List.append_assoc, hshift]

theorem mem_pick {x : α} :
    x ∈ pick chosen xs <-> exists i, xs[i]? = some x ∧ chosen i = true := by
  simp [pick, List.mem_zipIdx_iff_getElem?, and_comm]

theorem pick_of_all (h : forall i, i < xs.length -> chosen i = true) : pick chosen xs = xs := by
  induction xs generalizing chosen with
  | nil => rfl
  | cons x rest ih =>
      rw [pick_cons, if_pos (h 0 (Nat.zero_lt_succ _)), ih]
      · rfl
      · intro i hi
        exact h (i + 1) (Nat.succ_lt_succ hi)

theorem pick_of_none (h : forall i, i < xs.length -> chosen i = false) : pick chosen xs = [] := by
  rw [List.eq_nil_iff_forall_not_mem]
  intro x hx
  rcases mem_pick.mp hx with ⟨i, hget, hchosen⟩
  rw [h i (List.getElem?_eq_some_iff.mp hget).1] at hchosen
  cases hchosen

/-- The positions of an interval are cut out of the list. -/
theorem pick_interval {low count : Nat}
    (h : forall i, chosen i = true <-> low ≤ i ∧ i < low + count) :
    pick chosen xs = (xs.drop low).take count := by
  have hfalse : forall i, ¬ (low ≤ i ∧ i < low + count) -> chosen i = false := by
    intro i hi
    rw [← h i, Bool.not_eq_true] at hi
    exact hi
  have hfront : pick chosen (xs.take low) = [] := by
    apply pick_of_none
    intro i hi
    rw [List.length_take] at hi
    exact hfalse i (by omega)
  have hlast : pick (fun i => chosen ((xs.take (low + count)).length + i))
      (xs.drop (low + count)) = [] := by
    apply pick_of_none
    intro i hi
    rw [List.length_drop] at hi
    apply hfalse
    rw [List.length_take]
    omega
  have hmiddle : pick (fun i => chosen ((xs.take low).length + i)) ((xs.drop low).take count) =
      (xs.drop low).take count := by
    apply pick_of_all
    intro i hi
    rw [List.length_take, List.length_drop] at hi
    rw [h, List.length_take]
    omega
  calc pick chosen xs
      = pick chosen (xs.take (low + count) ++ xs.drop (low + count)) := by
        rw [List.take_append_drop]
    _ = pick chosen (xs.take low ++ (xs.drop low).take count) := by
        rw [pick_append, hlast, List.append_nil, List.take_add]
    _ = (xs.drop low).take count := by
        rw [pick_append, hfront, hmiddle, List.nil_append]

/-- In a list without repetitions, positions that have nothing in common have no element in
common. -/
theorem pick_disjoint {other : Nat -> Bool} (hnodup : xs.Nodup)
    (h : forall i, chosen i = true -> other i = false) :
    (pick chosen xs).Disjoint (pick other xs) := by
  intro x hx hother
  rcases mem_pick.mp hx with ⟨i, hget, hchosen⟩
  rcases mem_pick.mp hother with ⟨j, hget', hchosen'⟩
  have hsame : i = j := by
    apply (List.getElem?_inj (List.getElem?_eq_some_iff.mp hget).1 hnodup).mp
    rw [hget, hget']
  rw [← hsame, h i hchosen] at hchosen'
  cases hchosen'

end Pick
end FieldGrammar
