import Unifabric.Lib.Loop

/-!
# Worklist searches

A worklist search pops the head of a queue, skips it when it was seen before,
and otherwise marks it and appends its unseen successors.  Which further data
the search collects is up to the state.  `Worklist` says what a step does to
the queue and to the marks; the theorems then give the set of marks of a
search which has stopped and a bound after which it has stopped.
-/

namespace Unifabric.Lib

open Relation List

/-- The step function of a worklist search for the relation `next`. -/
structure Worklist {α σ : Type} (step : σ → Option σ)
    (queue : σ → List α) (seen : σ → α → Prop)
    (next : α → α → Prop) : Prop where
  stop : ∀ {state}, step state = none → queue state = []
  popped : ∀ {state after}, step state = some after →
    ∃ current rest, queue state = current :: rest ∧ ((seen state current ∧ queue after = rest ∧
          ∀ a, seen after a ↔ seen state a) ∨
        (¬ seen state current ∧ (∀ a, seen after a ↔ seen state a ∨ a = current) ∧
          ∃ pushed, queue after = rest ++ pushed ∧
            ∀ a, a ∈ pushed ↔ next current a ∧ ¬ seen after a))

namespace Worklist

variable {α σ : Type} {step : σ → Option σ}
  {queue : σ → List α} {seen : σ → α → Prop} {next : α → α → Prop}

section

variable (search : Worklist step queue seen next)

include search

/-- Every mark and every queued value was there or is reachable. -/
lemma sound (initial : σ) (fuel : Nat) : (∀ a, seen (runLoop step fuel initial) a →
        seen initial a ∨ ∃ x ∈ queue initial, ReflTransGen next x a) ∧
      ∀ a ∈ queue (runLoop step fuel initial), ∃ x ∈ queue initial, ReflTransGen next x a := by
  refine runLoop_invariant (fun state =>
      (∀ a, seen state a → seen initial a ∨ ∃ x ∈ queue initial, ReflTransGen next x a) ∧
        ∀ a ∈ queue state, ∃ x ∈ queue initial, ReflTransGen next x a)
    ?_ fuel initial
    ⟨fun a marked => .inl marked, fun a queued => ⟨a, queued, ReflTransGen.refl⟩⟩
  rintro state after ⟨marks, queued⟩ stepped
  obtain ⟨current, rest, split, skipped | expanded⟩ := search.popped stepped
  · obtain ⟨_, restQueue, sameMarks⟩ := skipped
    refine ⟨fun a marked => marks a ((sameMarks a).1 marked), ?_⟩
    intro a member
    rw [restQueue] at member
    exact queued a (by rw [split]; exact .tail _ member)
  · obtain ⟨_, newMarks, pushed, newQueue, pushedIff⟩ := expanded
    obtain ⟨x, start, path⟩ := queued current (by rw [split]; exact .head _)
    refine ⟨?_, ?_⟩
    · intro a marked
      rcases (newMarks a).1 marked with old | rfl
      · exact marks a old
      · exact .inr ⟨x, start, path⟩
    · intro a member
      rw [newQueue, mem_append] at member
      rcases member with old | new
      · exact queued a (by rw [split]; exact .tail _ old)
      · exact ⟨x, start, path.tail ((pushedIff a).1 new).1⟩

/-- No mark is lost, and the successors of new marks are marked or queued. -/
lemma frontier (initial : σ) (fuel : Nat)
    (closed : ∀ a b, seen initial a → next a b → seen initial b) :
    (∀ a, seen initial a ∨ a ∈ queue initial → seen (runLoop step fuel initial) a ∨
          a ∈ queue (runLoop step fuel initial)) ∧
      ∀ a b, seen (runLoop step fuel initial) a → next a b → seen (runLoop step fuel initial) b ∨
          b ∈ queue (runLoop step fuel initial) := by
  refine runLoop_invariant (fun state =>
      (∀ a, seen initial a ∨ a ∈ queue initial → seen state a ∨ a ∈ queue state) ∧
        ∀ a b, seen state a → next a b → seen state b ∨ b ∈ queue state)
    ?_ fuel initial
    ⟨fun a present => present, fun a b marked related => .inl (closed a b marked related)⟩
  rintro state after ⟨kept, successors⟩ stepped
  obtain ⟨current, rest, split, skipped | expanded⟩ := search.popped stepped
  · obtain ⟨known, restQueue, sameMarks⟩ := skipped
    have moved : ∀ a, seen state a ∨ a ∈ queue state → seen after a ∨ a ∈ queue after := by
      intro a present
      rw [split, mem_cons] at present
      rw [sameMarks, restQueue]
      rcases present with marked | rfl | queued
      · exact .inl marked
      · exact .inl known
      · exact .inr queued
    refine ⟨fun a present => moved a (kept a present), ?_⟩
    intro a b marked related
    exact moved b (successors a b ((sameMarks a).1 marked) related)
  · obtain ⟨_, newMarks, pushed, newQueue, pushedIff⟩ := expanded
    have moved : ∀ a, seen state a ∨ a ∈ queue state → seen after a ∨ a ∈ queue after := by
      intro a present
      rw [split, mem_cons] at present
      rw [newMarks, newQueue, mem_append]
      rcases present with marked | rfl | queued
      · exact .inl (.inl marked)
      · exact .inl (.inr rfl)
      · exact .inr (.inl queued)
    refine ⟨fun a present => moved a (kept a present), ?_⟩
    intro a b marked related
    rcases (newMarks a).1 marked with old | rfl
    · exact moved b (successors a b old related)
    · by_cases bMarked : seen after b
      · exact .inl bMarked
      · refine .inr ?_
        rw [newQueue, mem_append]
        exact .inr ((pushedIff b).2 ⟨related, bMarked⟩)

/--
When the search stops it has marked exactly what is reachable from the queue,
besides the marks it started with.
-/
lemma seen_iff (initial : σ) (fuel : Nat)
    (closed : ∀ a b, seen initial a → next a b → seen initial b)
    (stopped : step (runLoop step fuel initial) = none) (a : α) :
    seen (runLoop step fuel initial) a ↔
      seen initial a ∨ ∃ x ∈ queue initial, ReflTransGen next x a := by
  have empty := search.stop stopped
  obtain ⟨kept, successors⟩ := search.frontier initial fuel closed
  have marked : ∀ b, seen (runLoop step fuel initial) b ∨ b ∈ queue (runLoop step fuel initial) →
        seen (runLoop step fuel initial) b := by
    intro b present
    rw [empty] at present
    simpa using present
  constructor
  · exact (search.sound initial fuel).1 a
  · rintro (old | ⟨x, start, path⟩)
    · exact marked a (kept a (.inl old))
    · induction path with
      | refl => exact marked x (kept x (.inr start))
      | tail _ step ih => exact marked _ (successors _ _ ih step)

end

open Classical in
/-- Removing a kept value lowers the weight of a filtered list by its own. -/
lemma sum_filter_remove (bound : α → Nat) (keep : α → Bool) {current : α} {values : List α}
    (member : current ∈ values) (kept : keep current = true) :
    bound current + ((values.filter fun a => keep a && !decide (a = current)).map bound).sum ≤
      ((values.filter keep).map bound).sum := by
  induction values with
  | nil => simp at member
  | cons value rest induction =>
    have shrink : ((rest.filter fun a => keep a && !decide (a = current)).map bound).sum ≤
          ((rest.filter keep).map bound).sum := by
      have sub : (rest.filter fun a => keep a && !decide (a = current)).Sublist
            (rest.filter keep) := by
        refine monotone_filter_right rest ?_
        intro a holds
        exact (Bool.and_eq_true_iff.1 holds).1
      exact (sub.map bound).sum_le_sum fun _ _ => Nat.zero_le _
    by_cases same : value = current
    · subst same
      simpa [filter_cons, kept] using shrink
    · have inRest : current ∈ rest := by
        rcases mem_cons.1 member with equal | later
        · exact absurd equal.symm same
        · exact later
      have step := induction inRest
      cases keepValue : keep value with
      | true =>
        simp only [filter_cons, keepValue, same, decide_false,
          Bool.not_false, Bool.and_self, if_true, map_cons,
          sum_cons]
        omega
      | false => simpa [filter_cons, keepValue] using step

open Classical in
/--
A search inside a finite domain stops: every value is expanded once, and its
expansion appends at most `bound` values.
-/
lemma stops (search : Worklist step queue seen next) (domain : List α) (bound : α → Nat)
    (inside : ∀ a b, a ∈ domain → next a b → b ∈ domain)
    (bounded : ∀ state after, step state = some after →
      ∀ current rest pushed, queue state = current :: rest →
        queue after = rest ++ pushed → ¬ seen state current →
          current ∈ domain → pushed.length ≤ bound current)
    (initial : σ) (start : ∀ a ∈ queue initial, a ∈ domain) (fuel : Nat)
    (enough : (queue initial).length + (domain.map bound).sum < fuel) :
    step (runLoop step fuel initial) = none := by
  refine runLoop_stops (fun state => ∀ a ∈ queue state, a ∈ domain)
    (fun state => (queue state).length +
      ((domain.filter fun a => !decide (seen state a)).map bound).sum)
    ?_ ?_ fuel initial start ?_
  · intro state after queued stepped
    obtain ⟨current, rest, split, skipped | expanded⟩ := search.popped stepped
    · intro a member
      rw [skipped.2.1] at member
      exact queued a (by rw [split]; exact .tail _ member)
    · obtain ⟨_, _, pushed, newQueue, pushedIff⟩ := expanded
      intro a member
      rw [newQueue, mem_append] at member
      rcases member with old | new
      · exact queued a (by rw [split]; exact .tail _ old)
      · exact inside current a (queued current (by rw [split]; exact .head _))
          ((pushedIff a).1 new).1
  · intro state after queued stepped
    obtain ⟨current, rest, split, skipped | expanded⟩ := search.popped stepped
    · obtain ⟨_, restQueue, sameMarks⟩ := skipped
      simp only [restQueue, split, length_cons, sameMarks]
      omega
    · obtain ⟨fresh, newMarks, pushed, newQueue, _⟩ := expanded
      have member : current ∈ domain := queued current (by rw [split]; exact .head _)
      have few := bounded state after stepped current rest pushed split newQueue fresh member
      have weight := sum_filter_remove bound
        (fun a => !decide (seen state a)) member (by simpa using fresh)
      have marks : (domain.filter fun a => !decide (seen after a)) = domain.filter fun a =>
            !decide (seen state a) && !decide (a = current) := by
        refine filter_congr fun a _ => ?_
        simp [newMarks]
      simp only [marks, newQueue, split, length_append, length_cons]
      omega
  · have smaller : ((domain.filter fun a => !decide (seen initial a)).map bound).sum ≤
          (domain.map bound).sum :=
      (filter_sublist.map bound).sum_le_sum fun _ _ => Nat.zero_le _
    omega

end Worklist

/-! ## Collecting every component -/

section

variable {α β σ : Type}

/--
Collect one output for every start which no earlier output has seen.  Each
collection returns its output and the marks it leaves.
-/
def collectAll (seen : σ → α → Bool) (collect : α → σ → β × σ)
    (starts : List α) (marks : σ) : List β × σ :=
  starts.foldl (fun state start =>
      if seen state.2 start then state
      else
        (state.1 ++ [(collect start state.2).1], (collect start state.2).2))
    ([], marks)

/--
The outputs hold one class each.  A collection is only asked to be correct on
marks which are a union of classes and do not contain its start.
-/
lemma collectAll_classes (seen : σ → α → Bool) (collect : α → σ → β × σ) {related : α → α → Prop}
    (equivalence : Equivalence related) (holds : β → α → Prop) (good : β → Prop) (starts : List α)
    (marks : σ) (unmarked : ∀ a, seen marks a = false)
    (correct : ∀ start ∈ starts, ∀ state,
      (∀ a b, seen state a = true → related a b → seen state b = true) → (∀ a, seen state a = true →
          ∃ origin ∈ starts, related origin a) →
        seen state start = false → good (collect start state).1 ∧
            (∀ a, seen (collect start state).2 a = true ↔ seen state a = true ∨ related start a) ∧
            ∀ a, holds (collect start state).1 a ↔ related start a) :
    (∀ output ∈ (collectAll seen collect starts marks).1, good output ∧
          ∃ start ∈ starts, ∀ a, holds output a ↔ related start a) ∧
      (∀ start ∈ starts, ∃ output ∈ (collectAll seen collect starts marks).1, holds output start) ∧
      (collectAll seen collect starts marks).1.Pairwise fun left right =>
        ∀ a, holds left a → ¬ holds right a := by
  have invariant := foldl_prefix_induction (fun state start =>
      if seen state.2 start then state
      else
        (state.1 ++ [(collect start state.2).1], (collect start state.2).2))
    starts ([], marks)
    (fun done state =>
      (∀ output ∈ state.1, good output ∧ ∃ start ∈ starts, ∀ a, holds output a ↔ related start a) ∧
      (∀ a, seen state.2 a = true ↔ ∃ output ∈ state.1, holds output a) ∧
      (∀ start ∈ done, seen state.2 start = true) ∧
      state.1.Pairwise fun left right =>
        ∀ a, holds left a → ¬ holds right a)
    ⟨by simp, by simp [unmarked], by simp, List.Pairwise.nil⟩
    ?_
  · obtain ⟨classes, marked, covered, disjoint⟩ := invariant
    exact ⟨classes, fun start member =>
      (marked start).1 (covered start member), disjoint⟩
  · rintro done start rest ⟨outputs, state⟩ split ⟨classes, marked, covered, disjoint⟩
    have member : start ∈ starts := by
      rw [split]
      simp
    cases known : seen state start with
    | true =>
      refine ⟨classes, marked, ?_, disjoint⟩
      intro other otherMember
      rcases mem_append.1 otherMember with old | new
      · exact covered other old
      · rw [mem_singleton.1 new]
        exact known
    | false =>
      have closed : ∀ a b, seen state a = true → related a b → seen state b = true := by
        intro a b aMarked joined
        obtain ⟨output, listed, holdsA⟩ := (marked a).1 aMarked
        obtain ⟨_, origin, _, isClass⟩ := classes output listed
        refine (marked b).2 ⟨output, listed, ?_⟩
        exact (isClass b).2 (equivalence.trans ((isClass a).1 holdsA) joined)
      have reached : ∀ a, seen state a = true → ∃ origin ∈ starts, related origin a := by
        intro a aMarked
        obtain ⟨output, listed, holdsA⟩ := (marked a).1 aMarked
        obtain ⟨_, origin, isStart, isClass⟩ := classes output listed
        exact ⟨origin, isStart, (isClass a).1 holdsA⟩
      obtain ⟨isGood, newMarks, holdsNew⟩ := correct start member state closed reached known
      simp only [Bool.false_eq_true, if_false]
      refine ⟨?_, ?_, ?_, ?_⟩
      · intro output listed
        rcases mem_append.1 listed with old | new
        · exact classes output old
        · rw [mem_singleton.1 new]
          exact ⟨isGood, start, member, holdsNew⟩
      · intro a
        rw [newMarks, marked]
        simp only [mem_append, mem_singleton, or_and_right, exists_or, exists_eq_left, holdsNew]
      · intro other otherMember
        rcases mem_append.1 otherMember with old | new
        · exact (newMarks other).2 (.inl (covered other old))
        · rw [mem_singleton.1 new]
          exact (newMarks start).2 (.inr (equivalence.refl start))
      · rw [pairwise_append]
        refine ⟨disjoint, pairwise_singleton _ _, ?_⟩
        intro left leftListed right rightListed a holdsLeft holdsRight
        rw [mem_singleton.1 rightListed, holdsNew] at holdsRight
        have aMarked := (marked a).2 ⟨left, leftListed, holdsLeft⟩
        have startMarked := closed a start aMarked (equivalence.symm holdsRight)
        rw [known] at startMarked
        exact Bool.false_ne_true startMarked

end

lemma equivalence_reflTransGen {α : Type} {next : α → α → Prop}
    (symmetric : ∀ {a b}, next a b → next b a) : Equivalence (ReflTransGen next) where
  refl _ := ReflTransGen.refl
  symm path := by
    have : Std.Symm next := ⟨fun _ _ step => symmetric step⟩
    exact ReflTransGen.stdSymm.symm _ _ path
  trans first second := ReflTransGen.trans first second

/-- Relations which agree on a set that a walk does not leave. -/
lemma reflTransGen_congr_inside {α : Type} {left right : α → α → Prop} (inside : α → Prop)
    (agree : ∀ a, inside a → ∀ b, left a b ↔ right a b) (stays : ∀ a b, left a b → inside b)
    {a b : α} (start : inside a) : ReflTransGen left a b ↔ ReflTransGen right a b := by
  constructor
  · intro path
    suffices both : ReflTransGen right a b ∧ inside b from both.1
    induction path with
    | refl => exact ⟨ReflTransGen.refl, start⟩
    | tail _ step walked => exact ⟨walked.1.tail ((agree _ walked.2 _).1 step), stays _ _ step⟩
  · intro path
    suffices both : ReflTransGen left a b ∧ inside b from both.1
    induction path with
    | refl => exact ⟨ReflTransGen.refl, start⟩
    | tail _ step walked =>
      have back := (agree _ walked.2 _).2 step
      exact ⟨walked.1.tail back, stays _ _ back⟩

end Unifabric.Lib
