import Mathlib.Algebra.GroupWithZero.Nat
import Mathlib.Data.List.Nodup
import FieldGrammar.Gate
import FieldGrammar.Proofs.Splits

/-!
# Only the latest lookup is delivered

Lookups through one gate overlap in any way: between the begin of a lookup and its
end other lookups begin and end, tickets are issued and generations invalidated.
A history tells what happened in its order.  Everything the gate has answered can
be told from the history alone, and a lookup is delivered exactly when no
generation was started after its own.
-/

namespace FieldGrammar
namespace Gate

/-!
# Histories
-/

/-- What a lookup gets from its source. -/
abbrev Answer : Type :=
  Except LookupError (List String)

/-- Lookups are numbered in the order in which they begin. -/
inductive Event where
  | begun (lookup : Nat) (ticket : Ticket)
  | finished (lookup : Nat) (answer : Answer) (delivered : Option Answer)
  | issued (ticket : Ticket)
  | invalidated

namespace Event

def startsGeneration : Event -> Bool
  | begun _ _ => true
  | finished _ _ _ => false
  | issued _ => true
  | invalidated => true

def isBegin : Event -> Bool
  | begun _ _ => true
  | _ => false

def ticket? : Event -> Option Ticket
  | begun _ ticket => some ticket
  | issued ticket => some ticket
  | _ => none

/-- The lookup whose answer was let through. -/
def delivered? : Event -> Option Nat
  | finished lookup _ (some _) => some lookup
  | _ => none

end Event

def generations (history : List Event) : Nat :=
  history.countP Event.startsGeneration

def lookupCount (history : List Event) : Nat :=
  history.countP Event.isBegin

def handedOut (history : List Event) : List Ticket :=
  history.filterMap Event.ticket?

/-- The ticket was handed out, and no generation was started since. -/
def Latest (history : List Event) (ticket : Ticket) : Prop :=
  exists before event after, history = before ++ event :: after ∧
    event.ticket? = some ticket ∧ forall other, other ∈ after -> other.startsGeneration = false

/-!
# Runs

A lookup is two steps: it takes a ticket when it begins, and its answer is let
through when it ends if the ticket is current.  A source that issues a ticket or
starts a generation itself does so between the two.
-/

inductive Step (history : List Event) (gate : Gate) : Event -> Gate -> Prop where
  | beginLookup :
      Step history gate (.begun (lookupCount history) gate.issue.1) gate.issue.2
  | finishLookup {lookup : Nat} {ticket : Ticket} (answer : Answer) :
      Event.begun lookup ticket ∈ history ->
      (forall earlier delivered, Event.finished lookup earlier delivered ∉ history) ->
      Step history gate (.finished lookup answer (gate.finish ticket answer)) gate
  | issue :
      Step history gate (.issued gate.issue.1) gate.issue.2
  | invalidate :
      Step history gate .invalidated gate.invalidate

inductive Run : List Event -> Gate -> Prop where
  | start : Run [] Gate.start
  | step {history : List Event} {gate next : Gate} {event : Event} :
      Run history gate -> Step history gate event next -> Run (history ++ [event]) next

/-- Every event of a run is a step after what came before it. -/
theorem run_split {history before after : List Event} {gate : Gate} {event : Event}
    (h : Run history gate) (hsplit : history = before ++ event :: after) :
    exists current next, Run before current ∧ Step before current event next := by
  induction h generalizing after with
  | start => cases before <;> cases hsplit
  | step hrun hstep ih =>
      rcases split_concat hsplit with ⟨rfl, rfl, _⟩ | ⟨mid, _, hmid⟩
      · exact ⟨_, _, hrun, hstep⟩
      · exact ih hmid

/-!
# Generations

The generation of the gate counts the generations of the history, and a ticket
holds the number of its own.
-/

theorem generations_append (xs ys : List Event) :
    generations (xs ++ ys) = generations xs + generations ys :=
  List.countP_append

theorem step_generation {history : List Event} {gate next : Gate} {event : Event}
    (h : Step history gate event next)
    (hgate : gate.generation = UInt64.ofNat (generations history)) :
    next.generation = UInt64.ofNat (generations (history ++ [event])) := by
  have hnext : gate.generation + 1 = UInt64.ofNat (generations history + 1) := by
    rw [hgate, UInt64.ofNat_add]
    rfl
  rw [generations_append]
  cases h with
  | beginLookup => exact hnext
  | finishLookup answer hbegun hopen => exact hgate
  | issue => exact hnext
  | invalidate => exact hnext

theorem run_generation {history : List Event} {gate : Gate} (h : Run history gate) :
    gate.generation = UInt64.ofNat (generations history) := by
  induction h with
  | start => rfl
  | step _ hstep ih => exact step_generation hstep ih

theorem ticket_generation {history before after : List Event} {gate : Gate} {event : Event}
    {ticket : Ticket} (h : Run history gate) (hsplit : history = before ++ event :: after)
    (hticket : event.ticket? = some ticket) :
    event.startsGeneration = true ∧
      ticket.generation = UInt64.ofNat (generations before + 1) := by
  rcases run_split h hsplit with ⟨current, next, hbefore, hstep⟩
  have hcurrent : current.generation + 1 = UInt64.ofNat (generations before + 1) := by
    rw [run_generation hbefore, UInt64.ofNat_add]
    rfl
  cases hstep with
  | beginLookup =>
      cases hticket
      exact ⟨rfl, hcurrent⟩
  | finishLookup answer hbegun hopen => cases hticket
  | issue =>
      cases hticket
      exact ⟨rfl, hcurrent⟩
  | invalidate => cases hticket

theorem ofNat_eq_iff {m n : Nat} (hm : m < 2 ^ 64) (hn : n < 2 ^ 64) :
    UInt64.ofNat m = UInt64.ofNat n <-> m = n := by
  constructor
  · intro h
    have hnat := congrArg UInt64.toNat h
    rwa [UInt64.toNat_ofNat_of_lt' hm, UInt64.toNat_ofNat_of_lt' hn] at hnat
  · intro h
    rw [h]

theorem generations_eq_zero_iff {history : List Event} :
    generations history = 0 <->
      forall event, event ∈ history -> event.startsGeneration = false := by
  rw [generations, List.countP_eq_zero]
  simp

theorem generations_split (before after : List Event) {event : Event}
    (h : event.startsGeneration = true) :
    generations (before ++ event :: after) = generations before + 1 + generations after := by
  rw [generations_append, generations, generations, generations, List.countP_cons_of_pos h]
  omega

/-- A ticket is current as long as no generation is started after its own. -/
theorem isCurrent_iff {history before after : List Event} {gate : Gate} {event : Event}
    {ticket : Ticket} (h : Run history gate) (hbound : generations history < 2 ^ 64)
    (hsplit : history = before ++ event :: after) (hticket : event.ticket? = some ticket) :
    gate.isCurrent ticket = true <->
      forall other, other ∈ after -> other.startsGeneration = false := by
  rcases ticket_generation h hsplit hticket with ⟨hstarts, hgeneration⟩
  have hcount := generations_split before after hstarts
  rw [← hsplit] at hcount
  rw [isCurrent, beq_iff_eq, run_generation h, hgeneration,
    ofNat_eq_iff hbound (by omega), ← generations_eq_zero_iff]
  omega

/-!
# Tickets
-/

theorem mem_handedOut {history : List Event} {ticket : Ticket} :
    ticket ∈ handedOut history <->
      exists before event after, history = before ++ event :: after ∧
        event.ticket? = some ticket := by
  rw [handedOut, List.mem_filterMap]
  constructor
  · rintro ⟨event, hevent, hticket⟩
    rcases List.append_of_mem hevent with ⟨before, after, hsplit⟩
    exact ⟨before, event, after, hsplit, hticket⟩
  · rintro ⟨before, event, after, rfl, hticket⟩
    exact ⟨event, by simp, hticket⟩

theorem isCurrent_iff_latest {history : List Event} {gate : Gate} {ticket : Ticket}
    (h : Run history gate) (hbound : generations history < 2 ^ 64)
    (hticket : ticket ∈ handedOut history) :
    gate.isCurrent ticket = true <-> Latest history ticket := by
  constructor
  · intro hcurrent
    rcases mem_handedOut.mp hticket with ⟨before, event, after, hsplit, hevent⟩
    exact ⟨before, event, after, hsplit, hevent,
      (isCurrent_iff h hbound hsplit hevent).mp hcurrent⟩
  · rintro ⟨before, event, after, hsplit, hevent, hafter⟩
    exact (isCurrent_iff h hbound hsplit hevent).mpr hafter

/-- A ticket of the last step is none of those before it. -/
theorem step_ticket_new {history : List Event} {gate next : Gate} {event : Event}
    {ticket : Ticket} (h : Run history gate) (hstep : Step history gate event next)
    (hbound : generations (history ++ [event]) < 2 ^ 64) (hticket : event.ticket? = some ticket) :
    ticket ∉ handedOut history := by
  intro hmem
  rcases mem_handedOut.mp hmem with ⟨before, other, after, hsplit, hother⟩
  have hnew := ticket_generation (Run.step h hstep) rfl hticket
  have hold := ticket_generation h hsplit hother
  have hcount := generations_split before after hold.1
  have hlast := generations_split history [] hnew.1
  rw [← hsplit] at hcount
  have hsame := hnew.2.symm.trans hold.2
  rw [ofNat_eq_iff (by omega) (by omega)] at hsame
  omega

theorem handedOut_nodup {history : List Event} {gate : Gate} (h : Run history gate)
    (hbound : generations history < 2 ^ 64) : (handedOut history).Nodup := by
  induction h with
  | start => exact List.nodup_nil
  | step hrun hstep ih =>
      rename_i history gate next event
      have hless : generations history < 2 ^ 64 := by
        rw [generations_append] at hbound
        omega
      have happend : handedOut (history ++ [event]) =
          handedOut history ++ event.ticket?.toList := by
        cases hticket : event.ticket? <;> simp [handedOut, hticket]
      rw [happend]
      cases hticket : event.ticket? with
      | none => simpa using ih hless
      | some ticket =>
          have hnew := step_ticket_new hrun hstep hbound hticket
          apply List.Nodup.append (ih hless) (List.nodup_singleton ticket)
          simpa using hnew

/-- At most one of all tickets is current. -/
theorem countP_isCurrent_le_one {history : List Event} {gate : Gate} (h : Run history gate)
    (hbound : generations history < 2 ^ 64) :
    (handedOut history).countP gate.isCurrent ≤ 1 := by
  have hsame : gate.isCurrent = (· == Ticket.mk gate.generation) := by
    funext ticket
    rw [Bool.eq_iff_iff, isCurrent, beq_iff_eq, beq_iff_eq]
    constructor
    · intro heq
      rw [heq]
    · intro heq
      rw [heq]
  rw [hsame]
  exact List.nodup_iff_count_le_one.mp (handedOut_nodup h hbound) _

/-!
# Lookups
-/

theorem begun_number {history before after : List Event} {gate : Gate} {lookup : Nat}
    {ticket : Ticket} (h : Run history gate)
    (hsplit : history = before ++ .begun lookup ticket :: after) :
    lookup = lookupCount before := by
  rcases run_split h hsplit with ⟨current, next, _, hstep⟩
  cases hstep with
  | beginLookup => rfl

theorem lookupCount_split (before after : List Event) (lookup : Nat) (ticket : Ticket) :
    lookupCount (before ++ .begun lookup ticket :: after) =
      lookupCount before + 1 + lookupCount after := by
  have hbegin : (Event.begun lookup ticket).isBegin = true := rfl
  rw [lookupCount, List.countP_append, List.countP_cons_of_pos hbegin, lookupCount, lookupCount]
  omega

theorem begun_lt_lookupCount {history : List Event} {gate : Gate} {lookup : Nat}
    {ticket : Ticket} (h : Run history gate) (hmem : Event.begun lookup ticket ∈ history) :
    lookup < lookupCount history := by
  rcases List.append_of_mem hmem with ⟨before, after, hsplit⟩
  have hnumber := begun_number h hsplit
  rw [hsplit, lookupCount_split, hnumber]
  omega

theorem finished_begun {history before after : List Event} {gate : Gate} {lookup : Nat}
    {answer : Answer} {delivered : Option Answer} (h : Run history gate)
    (hsplit : history = before ++ .finished lookup answer delivered :: after) :
    exists ticket, Event.begun lookup ticket ∈ before := by
  rcases run_split h hsplit with ⟨current, next, _, hstep⟩
  cases hstep with
  | finishLookup answer hbegun hopen => exact ⟨_, hbegun⟩

theorem finished_lt_lookupCount {history : List Event} {gate : Gate} {lookup : Nat}
    {answer : Answer} {delivered : Option Answer} (h : Run history gate)
    (hmem : Event.finished lookup answer delivered ∈ history) : lookup < lookupCount history := by
  rcases List.append_of_mem hmem with ⟨before, after, hsplit⟩
  rcases finished_begun h hsplit with ⟨ticket, hbegun⟩
  apply begun_lt_lookupCount h
  rw [hsplit]
  exact List.mem_append_left _ hbegun

/-- A lookup is delivered if no generation was started since it began, and then unchanged. -/
theorem finished_delivered {history before after : List Event} {gate : Gate} {lookup : Nat}
    {answer : Answer} {delivered : Option Answer} (h : Run history gate)
    (hbound : generations history < 2 ^ 64)
    (hsplit : history = before ++ .finished lookup answer delivered :: after) :
    exists earlier ticket between, before = earlier ++ .begun lookup ticket :: between ∧
      (delivered.isSome = true <->
        forall other, other ∈ between -> other.startsGeneration = false) ∧
      forall result, delivered = some result -> result = answer := by
  have hless : generations before < 2 ^ 64 := by
    rw [hsplit, generations_append] at hbound
    omega
  rcases run_split h hsplit with ⟨current, next, hbefore, hstep⟩
  cases hstep with
  | finishLookup answer hbegun hopen =>
      rename_i ticket
      rcases List.append_of_mem hbegun with ⟨earlier, between, hsplit⟩
      refine ⟨earlier, ticket, between, hsplit, ?_, ?_⟩
      · rw [← isCurrent_iff hbefore hless hsplit rfl, finish]
        cases current.isCurrent ticket <;> simp
      · intro result hresult
        unfold finish at hresult
        split at hresult
        · exact (Option.some.inj hresult).symm
        · cases hresult

/-- A lookup that is delivered began after all lookups that were finished before it. -/
theorem finished_lt_delivered {history : List Event} {gate : Gate} {lookup other : Nat}
    {ticket : Ticket} {answer : Answer} {delivered : Option Answer} (h : Run history gate)
    (hbound : generations history < 2 ^ 64) (hbegun : Event.begun lookup ticket ∈ history)
    (hopen : forall earlier result, Event.finished lookup earlier result ∉ history)
    (hcurrent : gate.isCurrent ticket = true)
    (hother : Event.finished other answer delivered ∈ history) : other < lookup := by
  rcases List.append_of_mem hbegun with ⟨before, after, hsplit⟩
  have hnumber := begun_number h hsplit
  have hafter := (isCurrent_iff h hbound hsplit rfl).mp hcurrent
  rcases List.append_of_mem hother with ⟨earlier, later, hfinished⟩
  rcases finished_begun h hfinished with ⟨otherTicket, hotherBegun⟩
  have hmem : Event.begun other otherTicket ∈ before ++ .begun lookup ticket :: after := by
    rw [← hsplit, hfinished]
    exact List.mem_append_left _ hotherBegun
  rcases List.mem_append.mp hmem with hearlier | hlater
  · rcases List.append_of_mem hearlier with ⟨front, back, hfront⟩
    have hfrontSplit : history =
        front ++ .begun other otherTicket :: (back ++ .begun lookup ticket :: after) := by
      rw [hsplit, hfront, List.append_assoc]
      rfl
    rw [hnumber, hfront, lookupCount_split, begun_number h hfrontSplit]
    omega
  · rcases List.mem_cons.mp hlater with hsame | hbetween
    · cases hsame
      exact absurd hother (hopen answer delivered)
    · exact absurd (hafter _ hbetween) (by simp [Event.startsGeneration])

theorem delivered?_eq_some {event : Event} {lookup : Nat} (h : event.delivered? = some lookup) :
    exists answer result, event = .finished lookup answer (some result) := by
  cases event with
  | begun _ _ => cases h
  | issued _ => cases h
  | invalidated => cases h
  | finished other answer delivered =>
      cases delivered with
      | none => cases h
      | some result =>
          cases h
          exact ⟨answer, result, rfl⟩

theorem step_delivered_last {history : List Event} {gate next : Gate} {event : Event}
    {lookup other : Nat} {answer : Answer} {delivered : Option Answer} (h : Run history gate)
    (hstep : Step history gate event next) (hbound : generations history < 2 ^ 64)
    (hdelivered : event.delivered? = some lookup)
    (hother : Event.finished other answer delivered ∈ history) : other < lookup := by
  rcases delivered?_eq_some hdelivered with ⟨own, result, rfl⟩
  generalize hresult : some result = last at hstep
  cases hstep with
  | finishLookup own hbegun hopen =>
      apply finished_lt_delivered h hbound hbegun hopen _ hother
      unfold finish at hresult
      split at hresult
      · assumption
      · cases hresult

theorem delivered_sorted {history : List Event} {gate : Gate} (h : Run history gate)
    (hbound : generations history < 2 ^ 64) :
    (history.filterMap Event.delivered?).Pairwise (· < ·) := by
  induction h with
  | start => exact List.Pairwise.nil
  | step hrun hstep ih =>
      rename_i history gate next event
      have hless : generations history < 2 ^ 64 := by
        rw [generations_append] at hbound
        omega
      rw [List.filterMap_append, List.pairwise_append]
      refine ⟨ih hless, ?_, ?_⟩
      · cases hdelivered : event.delivered? <;> simp [hdelivered]
      · intro other hother lookup hlookup
        rcases List.mem_filterMap.mp hother with ⟨earlier, hearlier, hdelivered⟩
        rcases delivered?_eq_some hdelivered with ⟨answer, result, rfl⟩
        rw [List.mem_filterMap] at hlookup
        rcases hlookup with ⟨last, hlast, hlastDelivered⟩
        rw [List.mem_singleton] at hlast
        subst hlast
        exact step_delivered_last hrun hstep hless hlastDelivered hearlier

/-!
# Whole lookups
-/

/-- What a source does to the gate while it is asked. -/
def sourceEvents (gate : Gate) : Option Interference -> List Event
  | none => []
  | some .issue => [.issued gate.issue.1]
  | some .invalidate => [.invalidated]

/-- A lookup through the gate that nothing but its own source comes between. -/
def fetchEvents (history : List Event) (gate : Gate) (request : Request) (page pageSize : Nat) :
    List Event :=
  .begun (lookupCount history) gate.issue.1 ::
    (sourceEvents gate.issue.2 request.rule.interference? ++
      [.finished (lookupCount history) (request.fetch page pageSize)
        (gate.fetch request page pageSize).1])

theorem run_sourceEvents {history : List Event} {gate : Gate} (h : Run history gate)
    (interference : Option Interference) :
    Run (history ++ sourceEvents gate interference) (gate.disturb interference) := by
  cases interference with
  | none =>
      rw [sourceEvents, List.append_nil]
      exact h
  | some kind =>
      cases kind with
      | issue => exact Run.step h Step.issue
      | invalidate => exact Run.step h Step.invalidate

theorem finished_not_mem_sourceEvents {gate : Gate} {interference : Option Interference}
    {lookup : Nat} {answer : Answer} {delivered : Option Answer} :
    Event.finished lookup answer delivered ∉ sourceEvents gate interference := by
  intro hmem
  cases interference with
  | none => cases hmem
  | some kind => cases kind <;> cases List.mem_singleton.mp hmem

theorem run_fetch {history : List Event} {gate : Gate} (h : Run history gate)
    (request : Request) (page pageSize : Nat) :
    Run (history ++ fetchEvents history gate request page pageSize)
      (gate.fetch request page pageSize).2 := by
  have hbegin := Run.step h Step.beginLookup
  have hsource := run_sourceEvents hbegin request.rule.interference?
  have hbegun : Event.begun (lookupCount history) gate.issue.1 ∈
      history ++ [.begun (lookupCount history) gate.issue.1] ++
        sourceEvents gate.issue.2 request.rule.interference? := by
    simp
  have hopen : forall earlier delivered,
      Event.finished (lookupCount history) earlier delivered ∉
        history ++ [.begun (lookupCount history) gate.issue.1] ++
          sourceEvents gate.issue.2 request.rule.interference? := by
    intro earlier delivered hmem
    rcases List.mem_append.mp hmem with hbefore | hsourceEvent
    · rcases List.mem_append.mp hbefore with hold | hlast
      · exact Nat.lt_irrefl _ (finished_lt_lookupCount h hold)
      · cases List.mem_singleton.mp hlast
    · exact finished_not_mem_sourceEvents hsourceEvent
  have hfinish := Run.step hsource
    (Step.finishLookup (request.fetch page pageSize) hbegun hopen)
  rw [List.append_assoc, List.append_assoc] at hfinish
  exact hfinish

/-!
# The gate
-/

/-- What can be told from a history about the gate that was used in it. -/
structure DeliversLatest (history : List Event) (gate : Gate) : Prop where
  /-- The numbers of lookups are their order. -/
  numbered : forall before lookup ticket after,
    history = before ++ .begun lookup ticket :: after -> lookup = lookupCount before
  delivered : forall before lookup answer delivered after,
    history = before ++ .finished lookup answer delivered :: after ->
    exists earlier ticket between, before = earlier ++ .begun lookup ticket :: between ∧
      (delivered.isSome = true <->
        forall other, other ∈ between -> other.startsGeneration = false) ∧
      forall result, delivered = some result -> result = answer
  current_iff : forall ticket, ticket ∈ handedOut history ->
    (gate.isCurrent ticket = true <-> Latest history ticket)
  current_le_one : (handedOut history).countP gate.isCurrent ≤ 1
  tickets_nodup : (handedOut history).Nodup
  in_order : (history.filterMap Event.delivered?).Pairwise (· < ·)
  /-- A lookup that runs from begin to end at once is a run as well. -/
  fetch : forall request page pageSize,
    Run (history ++ fetchEvents history gate request page pageSize)
      (gate.fetch request page pageSize).2

theorem run_deliversLatest (history : List Event) (gate : Gate) (hrun : Run history gate)
    (hbound : generations history < 2 ^ 64) : DeliversLatest history gate where
  numbered := fun _ _ _ _ hsplit => begun_number hrun hsplit
  delivered := fun _ _ _ _ _ hsplit => finished_delivered hrun hbound hsplit
  current_iff := fun _ hticket => isCurrent_iff_latest hrun hbound hticket
  current_le_one := countP_isCurrent_le_one hrun hbound
  tickets_nodup := handedOut_nodup hrun hbound
  in_order := delivered_sorted hrun hbound
  fetch := run_fetch hrun

/-- Two lookups overlap, and the second, whose source fails, is the one that is delivered. -/
def overtaken : List Event :=
  [.begun 0 { generation := 1 }, .begun 1 { generation := 2 },
   .finished 0 (.ok ["foo0"]) none, .finished 1 (.error .cancelled) (some (.error .cancelled))]

theorem run_overtaken : Run overtaken { generation := 2 } := by
  have hbegin : Run [.begun 0 { generation := 1 }, .begun 1 { generation := 2 }]
      { generation := 2 } :=
    Run.step (Run.step Run.start Step.beginLookup) Step.beginLookup
  have hstale : Run [.begun 0 { generation := 1 }, .begun 1 { generation := 2 },
      .finished 0 (.ok ["foo0"]) none] { generation := 2 } :=
    Run.step hbegin (Step.finishLookup (.ok ["foo0"]) List.mem_cons_self (by simp))
  exact Run.step hstale
    (Step.finishLookup (.error .cancelled) (List.mem_cons_of_mem _ List.mem_cons_self) (by simp))

theorem overtaken_deliversLatest :
    Run overtaken { generation := 2 } ∧ generations overtaken < 2 ^ 64 ∧
      DeliversLatest overtaken { generation := 2 } := by
  have hbound : generations overtaken < 2 ^ 64 := by
    decide
  exact ⟨run_overtaken, hbound, run_deliversLatest overtaken _ run_overtaken hbound⟩

end Gate
end FieldGrammar
