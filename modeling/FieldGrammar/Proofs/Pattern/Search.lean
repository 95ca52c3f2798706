import FieldGrammar.Pattern.Match

/-!
# Searching for a match that reads something

The search goes from one match to the next until a match is not empty.  It comes
to the same to look at the places of the text one by one, and to stop at the
first whose preferred match reads a character.
-/

namespace FieldGrammar
namespace Pattern
namespace Match

/-- A match in a text: its parts make up the text, and it reads something. -/
structure ReadsIn (cs : List Char) (found : Match) : Prop where
  parts : found.before ++ (found.text ++ found.after) = cs
  text_ne_nil : found.text ≠ []

theorem ReadsIn.prepend {cs : List Char} {found : Match} (h : found.ReadsIn cs) (c : Char) :
    (Match.prepend [c] found).ReadsIn (c :: cs) := by
  constructor
  · rw [← h.parts]
    rfl
  · exact h.text_ne_nil

@[simp] theorem prepend_before (cs : List Char) (found : Match) :
    (prepend cs found).before = cs ++ found.before := rfl

@[simp] theorem prepend_text (cs : List Char) (found : Match) :
    (prepend cs found).text = found.text := rfl

@[simp] theorem prepend_after (cs : List Char) (found : Match) :
    (prepend cs found).after = found.after := rfl

theorem prepend_comp_prepend (a b : List Char) : prepend a ∘ prepend b = prepend (a ++ b) := by
  funext found
  simp [prepend]

end Match

namespace Expr

/-!
# Following threads

One character of the text, given the frontier of the threads there.  The frontier
of concrete threads is found by evaluation.
-/

theorem follow_nil {e : Expr} {threads : List Thread} {before : Option Char}
    {best : Option Nat} {taken : Nat} {reached : Frontier}
    (h : e.frontier threads before none = reached) :
    e.follow threads before best taken [] = if reached.finished then some taken else best := by
  rw [follow, h]

theorem follow_stop {e : Expr} {threads : List Thread} {before : Option Char}
    {best : Option Nat} {taken : Nat} {c : Char} {rest : List Char} {reached : Frontier}
    (h : e.frontier threads before (some c) = reached) (hadvance : reached.advance c = []) :
    e.follow threads before best taken (c :: rest) =
      if reached.finished then some taken else best := by
  rw [follow, h, hadvance]

theorem follow_read {e : Expr} {threads others : List Thread} {thread : Thread}
    {before : Option Char} {best : Option Nat} {taken : Nat} {c : Char} {rest : List Char}
    {reached : Frontier} (h : e.frontier threads before (some c) = reached)
    (hadvance : reached.advance c = thread :: others) :
    e.follow threads before best taken (c :: rest) =
      e.follow (thread :: others) (some c) (if reached.finished then some taken else best)
        (taken + 1) rest := by
  rw [follow, h, hadvance]

/-- Threads with the same frontier are followed in the same way. -/
theorem follow_congr {e : Expr} {threads others : List Thread} {before : Option Char}
    (h : forall after, e.frontier threads before after = e.frontier others before after)
    (best : Option Nat) (taken : Nat) (cs : List Char) :
    e.follow threads before best taken cs = e.follow others before best taken cs := by
  cases cs with
  | nil => rw [follow, follow, h]
  | cons c rest => rw [follow, follow, h]

theorem frontier_again (e : Expr) (set : CharSet) (before after : Option Char) :
    e.frontier [[.again (.read set) true]] before after =
      { waiting := [(set, [.again (.read set) true])], finished := true } := rfl

/-- A greedy repetition at the end of an expression reads as long as it can. -/
theorem follow_again (e : Expr) (set : CharSet) (before : Option Char) (best : Option Nat)
    (taken : Nat) (cs : List Char) :
    e.follow [[.again (.read set) true]] before best taken cs =
      some (taken + (cs.takeWhile set.contains).length) := by
  induction cs generalizing before best taken with
  | nil => exact follow_nil (frontier_again e set before none)
  | cons c rest ih =>
      have hreached := frontier_again e set before (some c)
      by_cases hc : set.contains c = true
      · rw [List.takeWhile_cons_of_pos hc, List.length_cons, ← Nat.add_assoc, Nat.add_right_comm,
          ← ih (some c) (some taken) (taken + 1)]
        apply follow_read hreached
        simp [Frontier.advance, hc]
      · rw [List.takeWhile_cons_of_neg hc]
        apply follow_stop hreached
        simp [Frontier.advance, hc]

theorem frontier_nil (e : Expr) (before after : Option Char) :
    e.frontier [[]] before after = Frontier.done := rfl

theorem follow_done (e : Expr) (before : Option Char) (best : Option Nat) (taken : Nat)
    (cs : List Char) : e.follow [[]] before best taken cs = some taken := by
  cases cs with
  | nil => exact follow_nil (frontier_nil e before none)
  | cons c rest => exact follow_stop (frontier_nil e before (some c)) rfl

theorem follow_le {e : Expr} {threads : List Thread} {before : Option Char} {best : Option Nat}
    {taken n : Nat} {cs : List Char} (hbest : forall m, best = some m -> m ≤ taken)
    (h : e.follow threads before best taken cs = some n) : n ≤ taken + cs.length := by
  induction cs generalizing threads before best taken with
  | nil =>
      rw [follow_nil rfl] at h
      split at h
      · cases h
        exact Nat.le_refl n
      · exact hbest n h
  | cons c rest ih =>
      have hhere : forall m,
          (if (e.frontier threads before (some c)).finished then some taken else best) = some m ->
            m ≤ taken := by
        intro m hm
        split at hm
        · cases hm
          exact Nat.le_refl taken
        · exact hbest m hm
      cases hadvance : (e.frontier threads before (some c)).advance c with
      | nil =>
          rw [follow_stop rfl hadvance] at h
          exact Nat.le_add_right_of_le (hhere n h)
      | cons thread others =>
          rw [follow_read rfl hadvance] at h
          rw [List.length_cons, Nat.add_comm rest.length 1, ← Nat.add_assoc]
          exact ih (fun m hm => Nat.le_succ_of_le (hhere m hm)) h

theorem preferred?_le {e : Expr} {before : Option Char} {cs : List Char} {n : Nat}
    (h : e.preferred? before cs = some n) : n ≤ cs.length := by
  have hle := follow_le (by simp) h
  rwa [Nat.zero_add] at hle

/-!
# Place by place
-/

theorem find?_of_search?_none {e : Expr} {previous : Option Char} {cs : List Char}
    (h : e.search? previous cs = none) : e.find? previous cs = none := by
  rw [find?]
  split
  · rfl
  · rename_i found hfound
    rw [h] at hfound
    cases hfound

theorem find?_of_search?_read {e : Expr} {previous : Option Char} {cs : List Char}
    {found : Match} (h : e.search? previous cs = some found) (htext : found.text ≠ []) :
    e.find? previous cs = some found := by
  rw [find?]
  split
  · rename_i hfound
    rw [h] at hfound
    cases hfound
  · rename_i other hother
    rw [h] at hother
    cases hother
    rw [if_neg (by simpa using htext)]

theorem find?_of_search?_empty {e : Expr} {previous : Option Char} {cs : List Char}
    {found : Match} (h : e.search? previous cs = some found) (htext : found.text = []) :
    e.find? previous cs =
      match found.after with
      | [] => none
      | c :: rest => (e.find? (some c) rest).map (Match.prepend (found.before ++ [c])) := by
  rw [find?]
  split
  · rename_i hfound
    rw [h] at hfound
    cases hfound
  · rename_i other hother
    rw [h] at hother
    cases hother
    rw [if_pos (by simp [htext])]
    split <;> simp_all

theorem find?_nil (e : Expr) (previous : Option Char) : e.find? previous [] = none := by
  cases hsearch : e.search? previous [] with
  | none => exact find?_of_search?_none hsearch
  | some found =>
      have hparts := search?_append e previous [] found hsearch
      simp only [List.append_eq_nil_iff] at hparts
      rw [find?_of_search?_empty hsearch hparts.1.2, hparts.2]

/-- Where the preferred match is missing or empty, the search goes on at the next place. -/
theorem find?_cons_of_skip {e : Expr} {previous : Option Char} {c : Char} {rest : List Char}
    (h : forall n, e.preferred? previous (c :: rest) ≠ some (n + 1)) :
    e.find? previous (c :: rest) = (e.find? (some c) rest).map (Match.prepend [c]) := by
  cases hplace : e.preferred? previous (c :: rest) with
  | none =>
      cases hsearch : e.search? (some c) rest with
      | none =>
          rw [find?_of_search?_none hsearch, find?_of_search?_none]
          · rfl
          · simp [search?, hplace, hsearch]
      | some found =>
          have hlater : e.search? previous (c :: rest) = some (found.prepend [c]) := by
            simp [search?, hplace, hsearch]
          by_cases htext : found.text = []
          · rw [find?_of_search?_empty hsearch htext, find?_of_search?_empty hlater htext,
              Match.prepend_after]
            cases found.after with
            | nil => rfl
            | cons d others =>
                show (e.find? (some d) others).map (Match.prepend ([c] ++ found.before ++ [d])) =
                  ((e.find? (some d) others).map (Match.prepend (found.before ++ [d]))).map
                    (Match.prepend [c])
                rw [Option.map_map, Match.prepend_comp_prepend, List.append_assoc]
          · rw [find?_of_search?_read hsearch htext, find?_of_search?_read hlater htext]
            rfl
  | some n =>
      cases n with
      | zero =>
          have hempty : e.search? previous (c :: rest) =
              some { before := [], text := [], after := c :: rest } := by
            simp [search?, hplace]
          rw [find?_of_search?_empty hempty rfl]
          rfl
      | succ n => exact absurd hplace (h n)

theorem find?_cons_of_match {e : Expr} {previous : Option Char} {c : Char} {rest : List Char}
    {n : Nat} (h : e.preferred? previous (c :: rest) = some (n + 1)) :
    e.find? previous (c :: rest) =
      some
        { before := []
          text := (c :: rest).take (n + 1)
          after := (c :: rest).drop (n + 1) } := by
  apply find?_of_search?_read
  · simp [search?, h]
  · simp

/-!
# The first place that reads

The search, place by place.  The character before a place is the last one of the text
in front of it, or the one before the text searched.
-/

/-- The preferred match at its place reads something, and at no place before does it so. -/
structure FirstRead (e : Expr) (previous : Option Char) (cs : List Char) (found : Match) : Prop
    extends found.ReadsIn cs where
  preferred :
    e.preferred? (found.before.getLast?.or previous) (found.text ++ found.after) =
      some found.text.length
  passed : forall before rest n, before ++ rest = cs -> before.length < found.before.length ->
    e.preferred? (before.getLast?.or previous) rest ≠ some (n + 1)

theorem getLast?_cons_or (c : Char) (before : List Char) (previous : Option Char) :
    (c :: before).getLast?.or previous = before.getLast?.or (some c) := by
  rw [List.getLast?_cons]
  cases before.getLast? <;> rfl

theorem FirstRead.prepend {e : Expr} {previous : Option Char} {c : Char} {rest : List Char}
    {found : Match} (hskip : forall n, e.preferred? previous (c :: rest) ≠ some (n + 1))
    (h : FirstRead e (some c) rest found) :
    FirstRead e previous (c :: rest) (found.prepend [c]) where
  toReadsIn := h.toReadsIn.prepend c
  preferred := by
    show e.preferred? ((c :: found.before).getLast?.or previous) _ = _
    rw [getLast?_cons_or]
    exact h.preferred
  passed := by
    intro before later n hcut hlt
    cases before with
    | nil =>
        cases hcut
        exact hskip n
    | cons d others =>
        rw [List.cons_append, List.cons.injEq] at hcut
        rcases hcut with ⟨rfl, hcut⟩
        rw [getLast?_cons_or]
        exact h.passed others later n hcut (Nat.lt_of_succ_lt_succ hlt)

theorem FirstRead.tail {e : Expr} {previous : Option Char} {c : Char} {rest : List Char}
    {found : Match} (hskip : forall n, e.preferred? previous (c :: rest) ≠ some (n + 1))
    (h : FirstRead e previous (c :: rest) found) :
    exists later, FirstRead e (some c) rest later ∧ later.prepend [c] = found := by
  rcases found with ⟨before, text, after⟩
  cases before with
  | nil =>
      have hparts : text ++ after = c :: rest := h.parts
      have hpreferred : e.preferred? previous (text ++ after) = some text.length := h.preferred
      cases text with
      | nil => exact absurd rfl h.text_ne_nil
      | cons d others =>
          rw [hparts] at hpreferred
          exact absurd hpreferred (hskip others.length)
  | cons d others =>
      have hparts : d :: (others ++ (text ++ after)) = c :: rest := h.parts
      rw [List.cons.injEq] at hparts
      rcases hparts with ⟨rfl, hparts⟩
      refine ⟨{ before := others, text := text, after := after },
        ⟨⟨hparts, h.text_ne_nil⟩, ?_, ?_⟩, rfl⟩
      · have hpreferred := h.preferred
        rw [getLast?_cons_or] at hpreferred
        exact hpreferred
      · intro before later n hcut hlt
        rw [← getLast?_cons_or d before previous]
        exact h.passed (d :: before) later n (by rw [List.cons_append, hcut])
          (Nat.succ_lt_succ hlt)

theorem firstRead_of_match {e : Expr} {previous : Option Char} {c : Char} {rest : List Char}
    {n : Nat} (h : e.preferred? previous (c :: rest) = some (n + 1)) {found : Match} :
    FirstRead e previous (c :: rest) found <->
      { before := [], text := (c :: rest).take (n + 1), after := (c :: rest).drop (n + 1) } =
        found := by
  have hlength : ((c :: rest).take (n + 1)).length = n + 1 :=
    List.length_take_of_le (preferred?_le h)
  constructor
  · intro hfirst
    rcases found with ⟨before, text, after⟩
    cases before with
    | nil =>
        have hparts : text ++ after = c :: rest := hfirst.parts
        have hpreferred : e.preferred? previous (text ++ after) = some text.length :=
          hfirst.preferred
        rw [hparts, h] at hpreferred
        rw [← hparts, Option.some.inj hpreferred, List.take_left, List.drop_left]
    | cons d others =>
        exact absurd h (hfirst.passed [] (c :: rest) n rfl (Nat.succ_pos _))
  · rintro rfl
    refine ⟨⟨List.take_append_drop _ _, by simp⟩, ?_, ?_⟩
    · show e.preferred? previous ((c :: rest).take (n + 1) ++ (c :: rest).drop (n + 1)) = _
      rw [List.take_append_drop, h, hlength]
    · intro before later m _ hlt
      exact absurd hlt (Nat.not_lt_zero _)

theorem find?_eq_some_iff {e : Expr} {previous : Option Char} {cs : List Char} {found : Match} :
    e.find? previous cs = some found <-> FirstRead e previous cs found := by
  induction cs generalizing previous found with
  | nil =>
      rw [find?_nil]
      constructor
      · intro h
        cases h
      · intro h
        have hparts := h.parts
        simp only [List.append_eq_nil_iff] at hparts
        exact absurd hparts.2.1 h.text_ne_nil
  | cons c rest ih =>
      by_cases hskip : forall n, e.preferred? previous (c :: rest) ≠ some (n + 1)
      · rw [find?_cons_of_skip hskip, Option.map_eq_some_iff]
        constructor
        · rintro ⟨later, hlater, rfl⟩
          exact (ih.mp hlater).prepend hskip
        · intro h
          rcases h.tail hskip with ⟨later, hlater, hfound⟩
          exact ⟨later, ih.mpr hlater, hfound⟩
      · rcases Classical.not_forall.mp hskip with ⟨n, hn⟩
        have hplace := Classical.not_not.mp hn
        rw [find?_cons_of_match hplace, Option.some.injEq, firstRead_of_match hplace]

theorem find?_readsIn {e : Expr} {previous : Option Char} {cs : List Char} {found : Match}
    (h : e.find? previous cs = some found) : found.ReadsIn cs :=
  (find?_eq_some_iff.mp h).toReadsIn

theorem find?_preferred {e : Expr} {previous : Option Char} {cs : List Char} {found : Match}
    (h : e.find? previous cs = some found) :
    exists before n, e.preferred? before (found.text ++ found.after) = some (n + 1) ∧
      found.text = (found.text ++ found.after).take (n + 1) := by
  have hfirst := find?_eq_some_iff.mp h
  rcases Nat.exists_eq_succ_of_ne_zero (mt List.length_eq_zero_iff.mp hfirst.text_ne_nil) with
    ⟨n, hn⟩
  refine ⟨found.before.getLast?.or previous, n, ?_, ?_⟩
  · rw [hfirst.preferred, hn]
  · rw [← Nat.succ_eq_add_one, ← hn, List.take_left]

/-- A match at the first place is found if it reads something. -/
theorem find?_of_preferred {e : Expr} {previous : Option Char} {text rest : List Char}
    (htext : text ≠ []) (h : e.preferred? previous (text ++ rest) = some text.length) :
    e.find? previous (text ++ rest) = some { before := [], text := text, after := rest } := by
  cases text with
  | nil => exact absurd rfl htext
  | cons c others =>
      rw [List.length_cons, List.cons_append] at h
      rw [List.cons_append, find?_cons_of_match h]
      simp

end Expr
end Pattern
end FieldGrammar
