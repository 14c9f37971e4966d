import Unifabric.Lib.Loop

/-!
# Breadth-first searches for a goal

A search for a goal pops the head of its queue, stops when the head is a goal,
and otherwise appends the successors of the head which carry no mark, marking
each as it is appended.  `GoalSearch` says what a step does to the queue and
to the marks.  The theorems say that a search inside a finite domain stops,
and that a stopped search has found a goal exactly when one is reachable.
-/

namespace Unifabric.Lib

open Relation List

/-- The step function of a search for `goal` along `next`. -/
structure GoalSearch {κ ε σ : Type} (step : σ → Option σ)
    (queue : σ → List ε) (value : ε → κ) (marked : σ → κ → Prop)
    (next : κ → κ → Prop) (goal : κ → Prop) : Prop where
  stop : ∀ {state}, step state = none → ∀ head rest, queue state = head :: rest → goal (value head)
  popped : ∀ {state after}, step state = some after →
    ∃ head rest pushed, queue state = head :: rest ∧
      ¬ goal (value head) ∧ queue after = rest ++ pushed ∧
      (pushed.map value).Nodup ∧
      (∀ new ∈ pushed.map value, next (value head) new ∧ ¬ marked state new) ∧
      (∀ a, marked after a ↔ marked state a ∨ a ∈ pushed.map value) ∧
      ∀ a, next (value head) a → marked after a

/--
One look at a successor: it is appended and marked, unless there is none or
it carries a mark.
-/
def VisitsOne {κ ε σ α : Type} (queue : σ → List ε) (value : ε → κ)
    (marked : σ → κ → Prop) (successor : α → Option κ) (visit : σ → α → σ) : Prop :=
  ∀ state a, (visit state a = state ∧ ∀ found, successor a = some found → marked state found) ∨
      ∃ entry, successor a = some (value entry) ∧ ¬ marked state (value entry) ∧
        queue (visit state a) = queue state ++ [entry] ∧
        ∀ b, marked (visit state a) b ↔ marked state b ∨ b = value entry

lemma foldl_visitsOne {κ ε σ α : Type} {queue : σ → List ε} {value : ε → κ}
    {marked : σ → κ → Prop} {successor : α → Option κ} {visit : σ → α → σ}
    (visits : VisitsOne queue value marked successor visit) (labels : List α) (state : σ) :
    ∃ pushed, queue (labels.foldl visit state) = queue state ++ pushed ∧ (pushed.map value).Nodup ∧
      (∀ new ∈ pushed.map value, (∃ a ∈ labels, successor a = some new) ∧ ¬ marked state new) ∧
      (∀ b, marked (labels.foldl visit state) b ↔ marked state b ∨ b ∈ pushed.map value) ∧
      ∀ a ∈ labels, ∀ found, successor a = some found →
        marked (labels.foldl visit state) found := by
  induction labels generalizing state with
  | nil => exact ⟨[], by simp⟩
  | cons label rest ih =>
    rw [foldl_cons]
    obtain ⟨pushed, queued, distinct, new, marks, all⟩ := ih (visit state label)
    rcases visits state label with ⟨same, known⟩ | ⟨entry, successorOf, fresh, appended, marksOne⟩
    · rw [same] at queued new marks all ⊢
      refine ⟨pushed, queued, distinct, ?_, marks, ?_⟩
      · intro value' member
        obtain ⟨⟨a, later, found⟩, unmarked⟩ := new value' member
        exact ⟨⟨a, .tail _ later, found⟩, unmarked⟩
      · intro a member found successorOf
        rcases mem_cons.1 member with rfl | later
        · exact (marks found).2 (.inl (known found successorOf))
        · exact all a later found successorOf
    · refine ⟨entry :: pushed, ?_, ?_, ?_, ?_, ?_⟩
      · rw [queued, appended, append_assoc]
        rfl
      · rw [map_cons, nodup_cons]
        refine ⟨fun member => (new _ member).2 ?_, distinct⟩
        exact (marksOne _).2 (.inr rfl)
      · intro value' member
        rcases mem_cons.1 member with rfl | later
        · exact ⟨⟨label, .head _, successorOf⟩, fresh⟩
        · obtain ⟨⟨a, inRest, found⟩, unmarked⟩ := new value' later
          refine ⟨⟨a, .tail _ inRest, found⟩, ?_⟩
          exact fun mark => unmarked ((marksOne _).2 (.inl mark))
      · intro b
        rw [marks, marksOne, map_cons, mem_cons, or_assoc]
      · intro a member found successor'
        rcases mem_cons.1 member with rfl | later
        · rw [successorOf] at successor'
          cases successor'
          exact (marks _).2 (.inl ((marksOne _).2 (.inr rfl)))
        · exact all a later found successor'

namespace GoalSearch

variable {κ ε σ : Type} {step : σ → Option σ} {queue : σ → List ε}
  {value : ε → κ} {marked : σ → κ → Prop} {next : κ → κ → Prop}
  {goal : κ → Prop}

/-- What holds between two steps of a search from `start`. -/
structure Explored (queue : σ → List ε) (value : ε → κ)
    (marked : σ → κ → Prop) (next : κ → κ → Prop) (goal : κ → Prop)
    (start : κ) (state : σ) : Prop where
  reached : ∀ entry ∈ queue state, ReflTransGen next start (value entry)
  begun : marked state start
  frontier : ∀ a, marked state a → a ∈ (queue state).map value ∨
      (¬ goal a ∧ ∀ b, next a b → marked state b)

section

variable (search : GoalSearch step queue value marked next goal)

include search

lemma Explored.after_step
    {state after : σ} (explored : Explored queue value marked next goal start state)
    (stepped : step state = some after) : Explored queue value marked next goal start after := by
  rcases search.popped stepped with
    ⟨head, rest, pushed, split, notGoal, newQueue, _, new, marks, all⟩
  have headReached : ReflTransGen next start (value head) :=
    explored.reached head (by rw [split]; exact .head _)
  refine ⟨?_, (marks start).2 (.inl explored.begun), ?_⟩
  · intro entry member
    rw [newQueue, mem_append] at member
    rcases member with old | fresh
    · exact explored.reached entry (by rw [split]; exact .tail _ old)
    · exact headReached.tail (new (value entry) (mem_map_of_mem fresh)).1
  · intro a mark
    rw [newQueue, map_append, mem_append]
    rcases (marks a).1 mark with old | fresh
    · rcases explored.frontier a old with queued | ⟨plain, successors⟩
      · rw [split, map_cons, mem_cons] at queued
        rcases queued with rfl | later
        · exact .inr ⟨notGoal, all⟩
        · exact .inl (.inl later)
      · exact .inr ⟨plain, fun b related =>
          (marks b).2 (.inl (successors b related))⟩
    · exact .inl (.inr fresh)

/-- The invariant of a search from one queued and marked value. -/
lemma explored {initial : σ}
    (queued : (queue initial).map value = [start]) (marks : ∀ a, marked initial a ↔ a = start)
    (fuel : Nat) : Explored queue value marked next goal start (runLoop step fuel initial) := by
  refine runLoop_invariant _ (fun _ _ holds stepped =>
    holds.after_step search stepped) fuel initial ⟨?_, ?_, ?_⟩
  · intro entry member
    have same : value entry ∈ [start] := by
      rw [← queued]
      exact mem_map_of_mem member
    rw [mem_singleton.1 same]
  · exact (marks start).2 rfl
  · intro a mark
    rw [queued, (marks a).1 mark]
    exact .inl (.head _)

/--
A stopped search ends with a goal at the head of its queue, or with an empty
queue when no goal is reachable.
-/
lemma found_iff
    (queued : (queue initial).map value = [start]) (marks : ∀ a, marked initial a ↔ a = start)
    (fuel : Nat) (stopped : step (runLoop step fuel initial) = none) :
    queue (runLoop step fuel initial) ≠ [] ↔ ∃ a, ReflTransGen next start a ∧ goal a := by
  have holds := search.explored queued marks fuel
  constructor
  · intro nonempty
    obtain ⟨head, rest, split⟩ := exists_cons_of_ne_nil nonempty
    exact ⟨value head, holds.reached head (by rw [split]; exact .head _),
      search.stop stopped head rest split⟩
  · rintro ⟨a, path, isGoal⟩ empty
    have settled : ∀ b, marked (runLoop step fuel initial) b → ¬ goal b ∧ ∀ c, next b c →
          marked (runLoop step fuel initial) c := by
      intro b mark
      rcases holds.frontier b mark with queuedValue | plain
      · rw [empty] at queuedValue
        exact absurd queuedValue not_mem_nil
      · exact plain
    have mark : ∀ b, ReflTransGen next start b → marked (runLoop step fuel initial) b := by
      intro b reach
      induction reach with
      | refl => exact holds.begun
      | tail _ related ih => exact (settled _ ih).2 _ related
    exact (settled a (mark a path)).1 isGoal

end

open Classical in
lemma stops (search : GoalSearch step queue value marked next goal) (domain : Finset κ)
    (inside : ∀ a b, a ∈ domain → next a b → b ∈ domain) (initial : σ)
    (start : ∀ entry ∈ queue initial, value entry ∈ domain) (fuel : Nat)
    (enough : (queue initial).length + domain.card < fuel) :
    step (runLoop step fuel initial) = none := by
  refine runLoop_stops (fun state => ∀ entry ∈ queue state, value entry ∈ domain)
    (fun state => (queue state).length + (domain.filter fun a => ¬ marked state a).card)
    ?_ ?_ fuel initial start ?_
  · intro state after queued stepped entry member
    obtain ⟨head, rest, pushed, split, _, newQueue, _, new, _⟩ := search.popped stepped
    rw [newQueue, mem_append] at member
    rcases member with old | fresh
    · exact queued entry (by rw [split]; exact .tail _ old)
    · exact inside (value head) (value entry) (queued head (by rw [split]; exact .head _))
        (new (value entry) (mem_map_of_mem fresh)).1
  · intro state after queued stepped
    rcases search.popped stepped with
      ⟨head, rest, pushed, split, _, newQueue, distinct, new, marks, _⟩
    have headInside := queued head (by rw [split]; exact .head _)
    have unmarked : (domain.filter fun a => ¬ marked after a) =
        (domain.filter fun a => ¬ marked state a) \ (pushed.map value).toFinset := by
      ext a
      simp only [Finset.mem_filter, Finset.mem_sdiff, mem_toFinset, marks, not_or]
      tauto
    have among : (pushed.map value).toFinset ⊆ domain.filter fun a => ¬ marked state a := by
      intro a member
      obtain ⟨related, fresh⟩ := new a (mem_toFinset.1 member)
      exact Finset.mem_filter.2 ⟨inside (value head) a headInside related, fresh⟩
    have count : (pushed.map value).toFinset.card = pushed.length := by
      rw [toFinset_card_of_nodup distinct, length_map]
    have removed := Finset.card_sdiff_add_card_eq_card among
    rw [unmarked, newQueue, split, length_append, length_cons]
    omega
  · have smaller := Finset.card_filter_le domain fun a => ¬ marked initial a
    omega

end GoalSearch

end Unifabric.Lib
