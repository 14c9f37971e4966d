import Mathlib

/-!
# Runs of transition systems

A system takes events one after another; an event which is not enabled in a
state has no successor.  What every step preserves holds after every run, also
if the steps preserve it only under a condition which the run meets.
-/

namespace Unifabric.Lib

open Option

universe u v

variable {σ : Type u} {ε : Type v} {step : σ → ε → Option σ}

/-- Take a list of events. -/
def runEvents (step : σ → ε → Option σ) (state : σ) (events : List ε) : Option σ :=
  events.foldlM step state

lemma runEvents_cons_eq_some :
    runEvents step state (event :: rest) = some final ↔ ∃ next, step state event = some next ∧
        runEvents step next rest = some final := by
  exact bind_eq_some_iff

lemma runEvents_append_eq_some : runEvents step state (before ++ after) = some final ↔
      ∃ middle, runEvents step state before = some middle ∧
        runEvents step middle after = some final := by
  rw [runEvents, List.foldlM_append]
  exact bind_eq_some_iff

/-- A state which a run comes to is reachable. -/
lemma exists_reached {related : σ → σ → Prop} {check : σ → Bool}
    (follows : ∀ state event next, step state event = some next →
      Relation.ReflTransGen related state next)
    (found : (runEvents step state events).any check = true) :
    ∃ reached, Relation.ReflTransGen related state reached ∧ check reached = true := by
  obtain ⟨final, run, holds⟩ := (any_eq_true _ _).1 found
  refine ⟨final, ?_, holds⟩
  clear found
  induction events generalizing state with
  | nil =>
    cases run
    exact .refl
  | cons event rest ih =>
    obtain ⟨next, stepped, later⟩ := runEvents_cons_eq_some.1 run
    exact (follows state event next stepped).trans (ih later)

/-- Every event meets a condition in the state in which it is taken. -/
def StepsMeet (step : σ → ε → Option σ) (condition : σ → ε → Prop) : σ → List ε → Prop
  | _, [] => True
  | state, event :: rest =>
    condition state event ∧ ∀ next, step state event = some next →
        StepsMeet step condition next rest

lemma stepsMeet_cons {condition : σ → ε → Prop} (stepped : step state event = some next)
    (now : condition state event) (later : StepsMeet step condition next rest) :
    StepsMeet step condition state (event :: rest) := by
  refine ⟨now, fun other otherStepped => ?_⟩
  rw [stepped] at otherStepped
  cases otherStepped
  exact later

/-- Whatever the steps preserve under a condition holds after a run. -/
lemma runEvents_invariant_of_meets {condition : σ → ε → Prop} (invariant : σ → Prop)
    (preserved : ∀ state event next, invariant state →
      condition state event → step state event = some next → invariant next)
    (meets : StepsMeet step condition start events) (initial : invariant start)
    (reached : runEvents step start events = some final) : invariant final := by
  induction events generalizing start with
  | nil =>
    cases reached
    exact initial
  | cons event rest ih =>
    obtain ⟨next, stepped, later⟩ := runEvents_cons_eq_some.1 reached
    exact ih (meets.2 next stepped) (preserved start event next initial meets.1 stepped) later

/-- A condition on the events alone is met if it holds of all of them. -/
lemma stepsMeet_of_forall {condition : ε → Prop} (all : ∀ event ∈ events, condition event)
    (state : σ) : StepsMeet step (fun _ => condition) state events := by
  induction events generalizing state with
  | nil => trivial
  | cons event rest ih =>
    refine ⟨all event (.head _), fun next _ => ?_⟩
    exact ih (fun later listed => all later (.tail _ listed)) next

lemma runEvents_invariant (invariant : σ → Prop) (preserved : ∀ state event next, invariant state →
      step state event = some next → invariant next)
    (initial : invariant start) (reached : runEvents step start events = some final) :
    invariant final :=
  runEvents_invariant_of_meets invariant (fun state event next holds _ stepped =>
      preserved state event next holds stepped)
    (stepsMeet_of_forall (fun _ _ => trivial) start) initial reached

/--
If a step leads into some states exactly from one of them or by breaking a
condition, then a run ends outside them exactly if it has started outside them
and has met the condition.
-/
lemma unspoiled_iff_stepsMeet {condition : σ → ε → Prop} (spoiled : σ → Prop)
    (exactly : ∀ state event next, step state event = some next →
      (spoiled next ↔ spoiled state ∨ ¬ condition state event))
    (reached : runEvents step start events = some final) :
    ¬ spoiled final ↔ ¬ spoiled start ∧ StepsMeet step condition start events := by
  induction events generalizing start with
  | nil =>
    cases reached
    exact ⟨fun sound => ⟨sound, trivial⟩, And.left⟩
  | cons event rest ih =>
    obtain ⟨next, stepped, later⟩ := runEvents_cons_eq_some.1 reached
    have onward : (∀ other, step start event = some other → StepsMeet step condition other rest) ↔
          StepsMeet step condition next rest := by
      simp only [stepped, some_inj, forall_eq']
    rw [ih later, exactly start event next stepped, not_or, not_not, and_assoc, StepsMeet, onward]

end Unifabric.Lib
