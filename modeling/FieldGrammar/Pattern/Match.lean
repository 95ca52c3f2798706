import FieldGrammar.Pattern.Expr

/-!
# Preferred matches

Where several matches start at one place, the choices of the expression say
which is preferred.  All candidates are followed side by side, in order of
preference, one character at a time.  A candidate is a thread: the goals that it
still has to meet, first goal first.
-/

namespace FieldGrammar
namespace Pattern

/-!
# Threads

Besides expressions, a thread can hold the goal to decide on one more pass of a
repetition whose required passes are done.  A repetition that requires no pass
comes to that goal at once, unless a pass over its body may read nothing: then
its first pass is decided on apart from the later ones.
-/

inductive Goal where
  | meet (e : Expr)
  | again (body : Expr) (greedy : Bool)
deriving DecidableEq, Repr

abbrev Thread := List Goal

/-- What a thread does next: it is finished, it reads a character, or it splits into others. -/
inductive Move where
  | finish
  | read (set : CharSet) (rest : Thread)
  | split (threads : List Thread)
deriving DecidableEq, Repr

namespace Thread

/-- To go on or to stop, in order of preference. -/
def inOrder (greedy : Bool) (goOn stop : Thread) : List Thread :=
  if greedy then [goOn, stop] else [stop, goOn]

def move (holds : Assertion -> Bool) : Thread -> Move
  | [] => .finish
  | .meet .empty :: rest => .split [rest]
  | .meet (.read set) :: rest => .read set rest
  | .meet (.look assertion) :: rest => .split (if holds assertion then [rest] else [])
  | .meet (.seq a b) :: rest => .split [.meet a :: .meet b :: rest]
  | .meet (.choice a b) :: rest => .split [.meet a :: rest, .meet b :: rest]
  | .meet (.times body 0 none greedy) :: rest =>
      if body.alwaysReads then .split [.again body greedy :: rest]
      else .split (inOrder greedy (.meet body :: .again body greedy :: rest) rest)
  | .meet (.times body 1 none greedy) :: rest =>
      .split [.meet body :: .again body greedy :: rest]
  | .meet (.times body (n + 2) none greedy) :: rest =>
      .split [.meet body :: .meet (.times body (n + 1) none greedy) :: rest]
  | .meet (.times _ _ (some 0) _) :: rest => .split [rest]
  | .meet (.times body 0 (some (m + 1)) greedy) :: rest =>
      .split (inOrder greedy (.meet body :: .meet (.times body 0 (some m) greedy) :: rest) rest)
  | .meet (.times body (n + 1) (some (m + 1)) greedy) :: rest =>
      .split [.meet body :: .meet (.times body n (some m) greedy) :: rest]
  | .again body greedy :: rest =>
      .split (inOrder greedy (.meet body :: .again body greedy :: rest) rest)

end Thread

/-!
# Frontiers

The frontier of a list of threads holds the threads that wait for a character,
and tells whether a thread is finished.  Threads after the finished one can no
longer be preferred and are dropped.  A thread that was met before at the same
place is dropped too, so a repetition cannot go round without reading.
-/

structure Frontier where
  waiting : List (CharSet × Thread)
  finished : Bool
deriving DecidableEq, Repr

namespace Frontier

def empty : Frontier :=
  { waiting := [], finished := false }

def done : Frontier :=
  { waiting := [], finished := true }

def prepend (set : CharSet) (rest : Thread) (frontier : Frontier) : Frontier :=
  { frontier with waiting := (set, rest) :: frontier.waiting }

/-- The frontier of the work list; the first number bounds the threads looked at. -/
def explore (holds : Assertion -> Bool) : Nat -> List Thread -> List Thread -> Frontier
  | 0, _, _ => empty
  | _ + 1, [], _ => empty
  | fuel + 1, thread :: work, seen =>
      if seen.contains thread then explore holds fuel work seen
      else
        match thread.move holds with
        | .finish => done
        | .read set rest => (explore holds fuel work (thread :: seen)).prepend set rest
        | .split threads => explore holds fuel (threads ++ work) (thread :: seen)

/-- The threads that can read the character, each after reading it. -/
def advance (frontier : Frontier) (c : Char) : List Thread :=
  frontier.waiting.filterMap fun step => if step.1.contains c then some step.2 else none

end Frontier

/-!
# Matching at one place

The number of characters of the preferred match that starts at a place, given
the character before it and the text after it.
-/

namespace Expr

/-- Every place is looked at once and splits into at most two threads. -/
def fuel (e : Expr) (threads : List Thread) : Nat :=
  2 * (e.points + 2) + threads.length

def frontier (e : Expr) (threads : List Thread) (before after : Option Char) : Frontier :=
  Frontier.explore (Assertion.holds before after) (e.fuel threads) threads []

/-- Follows the threads; `best` is the match found so far and `taken` the characters read. -/
def follow (e : Expr) :
    List Thread -> Option Char -> Option Nat -> Nat -> List Char -> Option Nat
  | threads, before, best, taken, [] =>
      if (e.frontier threads before none).finished then some taken else best
  | threads, before, best, taken, c :: rest =>
      let reached := e.frontier threads before (some c)
      let best := if reached.finished then some taken else best
      match reached.advance c with
      | [] => best
      | thread :: others => follow e (thread :: others) (some c) best (taken + 1) rest

def preferred? (e : Expr) (before : Option Char) (text : List Char) : Option Nat :=
  e.follow [[.meet e]] before none 0 text

end Expr

/-!
# Searching

A match in a text, with what stands before it and after it.
-/

structure Match where
  before : List Char
  text : List Char
  after : List Char
deriving DecidableEq, Repr

namespace Match

def prepend (cs : List Char) (found : Match) : Match :=
  { found with before := cs ++ found.before }

end Match

namespace Expr

/-- The leftmost match; `previous` is the character before the text searched. -/
def search? (e : Expr) (previous : Option Char) : List Char -> Option Match
  | [] =>
      match e.preferred? previous [] with
      | none => none
      | some _ => some { before := [], text := [], after := [] }
  | c :: rest =>
      match e.preferred? previous (c :: rest) with
      | some n =>
          some { before := [], text := (c :: rest).take n, after := (c :: rest).drop n }
      | none => (search? e (some c) rest).map (Match.prepend [c])

theorem search?_append (e : Expr) (previous : Option Char) (cs : List Char) (found : Match)
    (h : e.search? previous cs = some found) :
    found.before ++ found.text ++ found.after = cs := by
  induction cs generalizing previous found with
  | nil =>
      unfold search? at h
      split at h
      · cases h
      · cases h
        rfl
  | cons c rest ih =>
      unfold search? at h
      split at h
      · cases h
        simp
      · obtain ⟨inner, hinner, rfl⟩ := Option.map_eq_some_iff.1 h
        simpa [Match.prepend] using ih (some c) inner hinner

theorem search?_after_lt {e : Expr} {previous : Option Char} {cs : List Char} {found : Match}
    (hfound : e.search? previous cs = some found) {c : Char} {rest : List Char}
    (hafter : found.after = c :: rest) : rest.length < cs.length := by
  have hlength := congrArg List.length (search?_append e previous cs found hfound)
  simp [hafter] at hlength
  omega

/--
The first match that is not empty.  After an empty match the search goes on one
character later, so a longer match at the place of an empty one is never taken.
-/
def find? (e : Expr) (previous : Option Char) (cs : List Char) : Option Match :=
  match hfound : e.search? previous cs with
  | none => none
  | some found =>
      if found.text.isEmpty then
        match hafter : found.after with
        | [] => none
        | c :: rest =>
            have _ : rest.length < cs.length := search?_after_lt hfound hafter
            (find? e (some c) rest).map (Match.prepend (found.before ++ [c]))
      else some found
termination_by cs.length

/-- A match that is found reads something, so less is left after it. -/
theorem find?_after_lt {e : Expr} {previous : Option Char} {cs : List Char}
    {found : Match} (h : e.find? previous cs = some found) :
    found.after.length < cs.length := by
  fun_induction find? e previous cs generalizing found with
  | case1 => cases h
  | case2 => cases h
  | case3 previous cs inner hinner hempty c rest hafter hlt ih =>
      obtain ⟨later, hlater, rfl⟩ := Option.map_eq_some_iff.1 h
      have := ih hlater
      simp [Match.prepend]
      omega
  | case4 previous cs inner hinner hnonempty =>
      cases h
      have hlength := congrArg List.length
        (search?_append e previous cs inner hinner)
      have hpos : 0 < inner.text.length := by
        cases htext : inner.text with
        | nil => simp [htext] at hnonempty
        | cons c rest => simp
      simp at hlength
      omega

end Expr
end Pattern
end FieldGrammar
