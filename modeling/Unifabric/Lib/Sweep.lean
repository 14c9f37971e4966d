import Unifabric.Lib.Versioned

/-!
# Sweeps of a store

A client which lists a store and then rewrites the objects one by one can stop
anywhere.  If the rewriting is idempotent, a second sweep from wherever the
first one stopped ends with the same objects as a sweep which did not stop.
-/

namespace Unifabric.Lib

open GoMap Option

variable {α : Type}

/-- Every object afterwards is the changed one. -/
def Updated (change : α → α) (before after : Store α) : Prop :=
  ∀ name : String, after[name]?.map Copy.object = before[name]?.map fun copy => change copy.object

/-- Every object afterwards is untouched or the changed one. -/
def PartlyUpdated (change : α → α) (before after : Store α) : Prop :=
  ∀ name : String, after[name]? = before[name]? ∨ after[name]?.map Copy.object =
      before[name]?.map fun copy => change copy.object

/-- The objects of some names are changed, the others are untouched. -/
def UpdatedAt (change : α → α) (names : List String) (before after : Store α) : Prop :=
  ∀ name : String,
    if name ∈ names then
      after[name]?.map Copy.object = before[name]?.map fun copy => change copy.object
    else after[name]? = before[name]?

section

variable {change : α → α} {nameOf : α → String} {revision : Nat}
  {before middle after : Store α} {names : List String}

lemma Kept.names_nodup (kept : Kept nameOf revision before) :
    ((entries before).map fun copy => nameOf copy.object).Nodup := by
  rw [map_entries_eq_keys fun name copy stored =>
    (kept name copy stored).2]
  exact keys_nodup before

lemma Kept.stored_of_mem (kept : Kept nameOf revision before)
    (listed : copy ∈ entries before) : before[nameOf copy.object]? = some copy := by
  obtain ⟨name, stored⟩ := (mem_entries_iff before copy).1 listed
  rw [(kept name copy stored).2]
  exact stored

lemma updatedAt_nil (change : α → α) (store : Store α) : UpdatedAt change [] store store := by
  intro name
  simp

section

variable (updated : UpdatedAt change names before after)

include updated

lemma UpdatedAt.skip (fresh : name ∉ names)
    (stored : before[name]? = some copy) (same : change copy.object = copy.object) :
    UpdatedAt change (names ++ [name]) before after := by
  intro other
  have known := updated other
  by_cases isNext : other = name
  · subst isNext
    rw [if_neg fresh] at known
    rw [if_pos (by simp), known, stored]
    exact congrArg some same.symm
  · simpa [isNext] using known

lemma UpdatedAt.write (revision : Nat) (stored : before[name]? = some copy) :
    UpdatedAt change (names ++ [name]) before (after.write name revision (change copy.object)) := by
  intro other
  rw [Store.getElem?_write]
  by_cases isNext : name = other
  · subst isNext
    rw [if_pos (by simp), if_pos rfl, stored]
    rfl
  · have known := updated other
    simpa [isNext, Ne.symm isNext] using known

lemma UpdatedAt.partly : PartlyUpdated change before after := by
  intro name
  have known := updated name
  split_ifs at known
  · exact .inr known
  · exact .inl known

end

lemma UpdatedAt.all (kept : Kept nameOf revision before) (updated : UpdatedAt change
      ((entries before).map fun copy => nameOf copy.object)
      before after) : Updated change before after := by
  intro name
  have known := updated name
  split_ifs at known with listed
  · exact known
  · cases stored : before[name]? with
    | none => rw [known, stored]; rfl
    | some copy =>
      have isListed : copy ∈ entries before := (mem_entries_iff before copy).2 ⟨name, stored⟩
      exact absurd (List.mem_map.2 ⟨copy, isListed, (kept name copy stored).2⟩) listed

lemma PartlyUpdated.then (idempotent : ∀ object, change (change object) = change object)
    (first : PartlyUpdated change before middle) (second : Updated change middle after) :
    Updated change before after := by
  intro name
  rw [second name]
  rcases first name with same | changed
  · rw [same]
  · cases old : before[name]? with
    | none =>
      rw [old, map_none, map_eq_none_iff] at changed
      rw [changed]
    | some copy =>
      rw [old, map_some, map_eq_some_iff] at changed
      obtain ⟨new, stored, isChanged⟩ := changed
      rw [stored, map_some, map_some, isChanged, idempotent]

lemma Updated.unique (left : Updated change before after) (right : Updated change before other)
    (name : String) : after[name]?.map Copy.object = other[name]?.map Copy.object :=
  (left name).trans (right name).symm

end

end Unifabric.Lib
