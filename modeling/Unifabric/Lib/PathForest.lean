import Mathlib

/-!
# Forests described by paths

A list of paths, each from a leaf upwards, describes a forest when every value
stands at one level only and has at most one value above it.  The conditions
are global; this module says how they grow when a path is added value by
value, which is how a program checks them.
-/

namespace Unifabric.Lib

variable {α : Type}

section

variable (paths : List (List α))

/-- The value stands at a level of one of the paths. -/
def OccursAt (value : α) (level : Nat) : Prop :=
  ∃ path ∈ paths, path[level]? = some value

/-- One value stands directly above another on one of the paths. -/
def Below (child parent : α) : Prop :=
  ∃ path ∈ paths, ∃ level : Nat, path[level]? = some child ∧ path[level + 1]? = some parent

/-- Every value stands at one level. -/
def LevelsUnique : Prop :=
  ∀ value level level', OccursAt paths value level → OccursAt paths value level' → level = level'

/-- Every value has at most one value above it. -/
def ParentsUnique : Prop :=
  ∀ child parent parent', Below paths child parent → Below paths child parent' → parent = parent'

end

/-- The paths describe a forest. -/
structure PathForest (paths : List (List α)) : Prop where
  levels : LevelsUnique paths
  parents : ParentsUnique paths

section

variable {paths : List (List α)} {path : List α}

lemma occursAt_append_singleton : OccursAt (paths ++ [path]) value level ↔
      OccursAt paths value level ∨ path[level]? = some value := by
  simp only [OccursAt, List.mem_append, List.mem_singleton, or_and_right, exists_or, exists_eq_left]

lemma below_append_singleton : Below (paths ++ [path]) child parent ↔
      Below paths child parent ∨ ∃ level : Nat,
        path[level]? = some child ∧ path[level + 1]? = some parent := by
  simp only [Below, List.mem_append, List.mem_singleton, or_and_right, exists_or, exists_eq_left]

lemma Below.occursAt (below : Below paths child parent) : ∃ level, OccursAt paths child level :=
  let ⟨path, listed, level, found, _⟩ := below
  ⟨level, path, listed, found⟩

lemma getElem?_take_succ (inside : path[count]? = some last) :
    (path.take (count + 1))[level]? = some value ↔ (path.take count)[level]? = some value ∨
        (value = last ∧ level = count) := by
  rw [List.getElem?_take, List.getElem?_take]
  rcases Nat.lt_trichotomy level count with less | rfl | more
  · rw [if_pos (by omega), if_pos less]
    exact ⟨.inl, fun either => either.elim id fun both => by omega⟩
  · rw [if_pos (by omega), if_neg (by omega), inside]
    simp [eq_comm]
  · rw [if_neg (by omega), if_neg (by omega)]
    simp
    omega

lemma occursAt_take_succ (inside : path[count]? = some last) :
    OccursAt (paths ++ [path.take (count + 1)]) value level ↔
      OccursAt (paths ++ [path.take count]) value level ∨ (value = last ∧ level = count) := by
  rw [occursAt_append_singleton, occursAt_append_singleton, getElem?_take_succ inside, or_assoc]

lemma below_take_succ (inside : path[count]? = some last) (above : path[count + 1]? = some next) :
    Below (paths ++ [path.take (count + 2)]) child parent ↔
      Below (paths ++ [path.take (count + 1)]) child parent ∨ (child = last ∧ parent = next) := by
  rw [below_append_singleton, below_append_singleton, or_assoc]
  refine or_congr_right ⟨?_, ?_⟩
  · rintro ⟨level, isChild, isParent⟩
    rcases (getElem?_take_succ above).1 isParent with old | ⟨rfl, same⟩
    · refine .inl ⟨level, ?_, old⟩
      rcases (getElem?_take_succ above).1 isChild with earlier | ⟨_, last⟩
      · exact earlier
      · rw [last, List.getElem?_take, if_neg (by omega)] at old
        cases old
    · have level' : level = count := by omega
      subst level'
      rw [List.getElem?_take, if_pos (by omega), inside] at isChild
      exact .inr ⟨(Option.some_inj.1 isChild).symm, rfl⟩
  · rintro (⟨level, isChild, isParent⟩ | ⟨rfl, rfl⟩)
    · exact ⟨level, (getElem?_take_succ above).2 (.inl isChild),
        (getElem?_take_succ above).2 (.inl isParent)⟩
    · exact ⟨count, (getElem?_take_succ above).2
          (.inl ((getElem?_take_succ inside).2 (.inr ⟨rfl, rfl⟩))),
        (getElem?_take_succ above).2 (.inr ⟨rfl, rfl⟩)⟩

lemma below_take_one : Below (paths ++ [path.take 1]) child parent ↔ Below paths child parent := by
  rw [below_append_singleton, or_iff_left]
  rintro ⟨level, _, isParent⟩
  rw [List.getElem?_take, if_neg (by omega)] at isParent
  cases isParent

/-- When one more value of the last path keeps the levels unique. -/
lemma levelsUnique_take_succ (inside : path[count]? = some last) :
    LevelsUnique (paths ++ [path.take (count + 1)]) ↔ LevelsUnique (paths ++ [path.take count]) ∧
        ∀ level, OccursAt (paths ++ [path.take count]) last level → level = count := by
  simp only [LevelsUnique, occursAt_take_succ inside]
  constructor
  · intro unique
    refine ⟨fun value level level' here there =>
      unique value level level' (.inl here) (.inl there),
      fun level occurs => unique last level count (.inl occurs) (.inr ⟨rfl, rfl⟩)⟩
  · rintro ⟨unique, only⟩ value level level' (here | ⟨rfl, rfl⟩) (there | ⟨same, rfl⟩)
    · exact unique value level level' here there
    · exact only level (same ▸ here)
    · exact (only level' there).symm
    · rfl

/-- When one more link of the last path keeps the parents unique. -/
lemma parentsUnique_take_succ (inside : path[count]? = some last)
    (above : path[count + 1]? = some next) : ParentsUnique (paths ++ [path.take (count + 2)]) ↔
      ParentsUnique (paths ++ [path.take (count + 1)]) ∧
        ∀ parent, Below (paths ++ [path.take (count + 1)]) last parent → parent = next := by
  simp only [ParentsUnique, below_take_succ inside above]
  constructor
  · intro unique
    refine ⟨fun child parent parent' here there =>
      unique child parent parent' (.inl here) (.inl there),
      fun parent below => unique last parent next (.inl below) (.inr ⟨rfl, rfl⟩)⟩
  · rintro ⟨unique, only⟩ child parent parent' (here | ⟨rfl, rfl⟩) (there | ⟨same, rfl⟩)
    · exact unique child parent parent' here there
    · exact only parent (same ▸ here)
    · exact (only parent' there).symm
    · rfl

end

/-! ## Parts of forests -/

lemma getElem?_of_isPrefix {path path' : List α} {level : Nat} {value : α}
    (isPart : path <+: path') (found : path[level]? = some value) : path'[level]? = some value := by
  obtain ⟨rest, rfl⟩ := isPart
  rwa [List.getElem?_append_left (List.getElem?_eq_some_iff.1 found).1]

section

variable {paths paths' : List (List α)}
variable (parts : ∀ path ∈ paths, ∃ path' ∈ paths', path <+: path')

include parts

lemma OccursAt.mono {value : α} {level : Nat} (occurs : OccursAt paths value level) :
    OccursAt paths' value level := by
  obtain ⟨path, listed, found⟩ := occurs
  obtain ⟨path', listed', isPart⟩ := parts path listed
  exact ⟨path', listed', getElem?_of_isPrefix isPart found⟩

lemma Below.mono {child parent : α} (below : Below paths child parent) :
    Below paths' child parent := by
  obtain ⟨path, listed, level, isChild, isParent⟩ := below
  obtain ⟨path', listed', isPart⟩ := parts path listed
  exact ⟨path', listed', level, getElem?_of_isPrefix isPart isChild,
    getElem?_of_isPrefix isPart isParent⟩

lemma LevelsUnique.mono (unique : LevelsUnique paths') : LevelsUnique paths :=
  fun value level level' here there =>
    unique value level level' (here.mono parts) (there.mono parts)

lemma ParentsUnique.mono (unique : ParentsUnique paths') : ParentsUnique paths :=
  fun child parent parent' here there =>
    unique child parent parent' (here.mono parts) (there.mono parts)

lemma PathForest.mono (forest : PathForest paths') : PathForest paths :=
  ⟨forest.levels.mono parts, forest.parents.mono parts⟩

end

end Unifabric.Lib
