import Unifabric.Lib.Loop

/-!
# Compacting a sorted slice in place

The usual loop which drops repetitions from a sorted slice appends the values
it keeps to a prefix of the same slice, so the array it reads from changes
under it.  A write never passes the position which is read, so the loop keeps
exactly the values of the slice.
-/

namespace Unifabric.Lib

open List

variable {α : Type} [DecidableEq α]

/-- The array behind both slices, and how many values are kept. -/
structure Compacting (α : Type) where
  cells : List α
  kept : Nat

/-- One iteration: keep a value which differs from its predecessor. -/
def compactStep (state : Compacting α) (index : Nat) : Compacting α :=
  match state.cells[index]?, state.cells[index - 1]? with
  | some current, some previous =>
    if current ≠ previous then
      { cells := state.cells.set state.kept current, kept := state.kept + 1 }
    else state
  | _, _ => state

/-- Drop the repetitions of a sorted slice in place. -/
def compactSorted (values : List α) : List α :=
  if values.length < 2 then values
  else
    let final := (List.range' 1 (values.length - 1)).foldl compactStep ⟨values, 1⟩
    final.cells.take final.kept

/-- What holds before the iteration at an index. -/
structure Compacted (values : List α) (index : Nat)
    (state : Compacting α) : Prop where
  length : state.cells.length = values.length
  behind : state.kept ≤ index
  unread : ∀ position, index ≤ position + 1 → state.cells[position]? = values[position]?
  members : ∀ value, value ∈ state.cells.take state.kept ↔ value ∈ values.take index

lemma Compacted.step {values : List α} {index : Nat} {state : Compacting α}
    (compacted : Compacted values index state) (positive : 0 < index)
    (inside : index < values.length) : Compacted values (index + 1) (compactStep state index) := by
  have length := compacted.length
  have behind := compacted.behind
  have current : state.cells[index]? = some values[index] := by
    rw [compacted.unread index (by omega), getElem?_eq_getElem]
  have previous : state.cells[index - 1]? = some values[index - 1] := by
    rw [compacted.unread (index - 1) (by omega), getElem?_eq_getElem]
  have longer : ∀ value, value ∈ values.take (index + 1) ↔
      value ∈ values.take index ∨ value = values[index] := by
    intro value
    rw [take_add_one, getElem?_eq_getElem inside, mem_append, Option.toList_some, mem_singleton]
  unfold compactStep
  rw [current, previous]
  dsimp only
  split_ifs with differs
  · refine ⟨?_, ?_, ?_, ?_⟩
    · rw [length_set, length]
    · show state.kept + 1 ≤ index + 1
      omega
    · intro position unread
      rw [getElem?_set]
      split_ifs with written valid
      · -- The write reaches the position which was just read at most.
        have same : position = index := by omega
        subst same
        rw [getElem?_eq_getElem inside]
      · omega
      · exact compacted.unread position (by omega)
    · intro value
      have taken : (state.cells.set state.kept values[index]).take (state.kept + 1) =
            state.cells.take state.kept ++ [values[index]] := by
        rw [take_add_one, getElem?_set_self (by omega), take_set_of_le le_rfl]
        rfl
      rw [taken, mem_append, mem_singleton, longer, compacted.members]
  · rw [not_not] at differs
    refine ⟨length, by omega, ?_, ?_⟩
    · intro position unread
      exact compacted.unread position (by omega)
    · intro value
      rw [longer, compacted.members, or_iff_left_of_imp]
      rintro rfl
      rw [differs]
      exact mem_take_iff_getElem.2 ⟨index - 1, by omega, rfl⟩

lemma compacted_foldl {values : List α} {count : Nat} (inside : count < values.length) :
    Compacted values (1 + count) ((range' 1 count).foldl compactStep ⟨values, 1⟩) := by
  induction count with
  | zero => exact ⟨rfl, le_rfl, fun _ _ => rfl, fun _ => Iff.rfl⟩
  | succ count ih =>
    rw [range'_1_concat, foldl_concat]
    exact (ih (by omega)).step (by omega) (by omega)

lemma mem_compactSorted (values : List α) (value : α) :
    value ∈ compactSorted values ↔ value ∈ values := by
  unfold compactSorted
  split_ifs with short
  · rfl
  · have final : Compacted values (1 + (values.length - 1))
      ((range' 1 (values.length - 1)).foldl compactStep ⟨values, 1⟩) := compacted_foldl (by omega)
    rw [final.members, take_of_length_le (by omega)]

end Unifabric.Lib
