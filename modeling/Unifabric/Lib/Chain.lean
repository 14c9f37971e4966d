import Unifabric.Lib.Loop

/-!
# Loops which follow one pointer

A loop whose step is a pointer into a finite set stops exactly if it does not
come to an element which points back to itself.
-/

namespace Unifabric.Lib

open Relation Option

universe u

variable {σ : Type u}

/-- The pointer of a step function as a relation. -/
def PointsTo (step : σ → Option σ) (state next : σ) : Prop := step state = some next

variable {step : σ → Option σ}

lemma runLoop_of_none {state : σ} (stopped : step state = none)
    (fuel : Nat) : runLoop step fuel state = state := by
  cases fuel with
  | zero => rfl
  | succ fuel => simp [runLoop, stopped]

lemma runLoop_succ_apply (fuel : Nat) (start : σ) : runLoop step (fuel + 1) start =
      (step (runLoop step fuel start)).getD (runLoop step fuel start) := by
  induction fuel generalizing start with
  | zero => cases stepped : step start <;> simp [runLoop, stepped]
  | succ fuel ih =>
    cases stepped : step start with
    | none => simp [runLoop_of_none stepped, stepped]
    | some next =>
      rw [runLoop, runLoop, stepped]
      exact ih next

lemma pointsTo_runLoop {start : σ} (endless : ∀ fuel, step (runLoop step fuel start) ≠ none)
    (fuel : Nat) : PointsTo step (runLoop step fuel start) (runLoop step (fuel + 1) start) := by
  obtain ⟨next, stepped⟩ := ne_none_iff_exists'.1 (endless fuel)
  rw [PointsTo, runLoop_succ_apply, stepped, getD_some]

lemma pointsTo_of_cycle {state cycle : σ} (reaches : ReflTransGen (PointsTo step) state cycle)
    (returns : TransGen (PointsTo step) cycle cycle) :
    ∃ next, step state = some next ∧ ReflTransGen (PointsTo step) next cycle := by
  rcases reaches.cases_head with rfl | ⟨next, stepped, rest⟩
  · obtain ⟨next, stepped, rest⟩ := TransGen.head'_iff.1 returns
    exact ⟨next, stepped, rest⟩
  · exact ⟨next, stepped, rest⟩

/--
A loop whose states after the first step are in a list stops exactly if it
reaches no state which it would come back to.
-/
lemma runLoop_stops_iff_acyclic {states : List σ}
    (finite : ∀ state next, step state = some next → next ∈ states) (start : σ) :
    (∃ fuel, step (runLoop step fuel start) = none) ↔
      ¬ ∃ state, ReflTransGen (PointsTo step) start state ∧
        TransGen (PointsTo step) state state := by
  constructor
  · rintro ⟨fuel, stopped⟩ ⟨cycle, reaches, returns⟩
    have onCycle := runLoop_invariant (fun state => ReflTransGen (PointsTo step) state cycle)
      (fun state next reaches stepped => by
        obtain ⟨_, stepped', rest⟩ := pointsTo_of_cycle reaches returns
        rwa [some.inj (stepped.symm.trans stepped')])
      fuel start reaches
    obtain ⟨next, stepped, _⟩ := pointsTo_of_cycle onCycle returns
    rw [stopped] at stepped
    cases stepped
  · intro acyclic
    by_contra endless
    rw [not_exists] at endless
    have moves := pointsTo_runLoop endless
    have listed : ∀ fuel, runLoop step (fuel + 1) start ∈ states :=
      fun fuel => finite _ _ (moves fuel)
    obtain ⟨first, second, before, same⟩ :=
      (List.finite_toSet states).exists_lt_map_eq_of_forall_mem listed
    have reached : ∀ less more, less ≤ more → ReflTransGen (PointsTo step) (runLoop step less start)
          (runLoop step more start) := by
      intro less more below
      induction more, below using Nat.le_induction with
      | base => exact ReflTransGen.refl
      | succ more _ ih => exact ih.tail (moves more)
    refine acyclic ⟨_, reached 0 (first + 1) (Nat.zero_le _), ?_⟩
    have returns := TransGen.head' (moves (first + 1)) (reached (first + 2) (second + 1) (by omega))
    rwa [← same] at returns

end Unifabric.Lib
