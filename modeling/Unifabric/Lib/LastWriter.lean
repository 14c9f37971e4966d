import Unifabric.Lib.GoMap

/-!
# Tables where the last writer wins

A loop over a list which writes the value of each item under all its keys.  The
entry of a key is the value of the last item with that key, so the order of the
list shows through as soon as two items with different values share a key.
-/

namespace Unifabric.Lib

open List

section

variable {α κ V : Type} [LinearOrder κ]

section

variable (keysOf : α → List κ)

/-- Every item writes its value under each of its keys. -/
def lastWriter (valueOf : α → V) (items : List α) : GoMap κ V :=
  items.foldl (fun table item =>
      (keysOf item).foldl (fun table key => table.insert key (valueOf item)) table)
    ∅

/-- The last item which writes a key. -/
def lastWith (key : κ) (items : List α) : Option α :=
  (items.filter fun item => key ∈ keysOf item).getLast?

private lemma getElem?_foldl_keys (keys : List κ) (value : V) (table : GoMap κ V) (key : κ) :
    (keys.foldl (fun table key => table.insert key value) table)[key]? =
      if key ∈ keys then some value else table[key]? := by
  induction keys generalizing table with
  | nil => simp
  | cons first rest hypothesis =>
    rw [foldl_cons, hypothesis, GoMap.getElem?_insert]
    by_cases same : first = key
    · simp [same]
    · simp [same, Ne.symm same]

/-- The entry of a key is the value of the last item which writes it. -/
lemma getElem?_lastWriter (valueOf : α → V) (items : List α) (key : κ) :
    (lastWriter keysOf valueOf items)[key]? = (lastWith keysOf key items).map valueOf := by
  unfold lastWriter lastWith
  induction items using reverseRecOn with
  | nil => simp
  | append_singleton before last hypothesis =>
    rw [foldl_concat, getElem?_foldl_keys, hypothesis, filter_append]
    by_cases writes : key ∈ keysOf last
    · simp [writes]
    · simp [writes]

lemma lastWith_map {β : Type} (keysOf : β → List κ) (key : κ) (image : α → β) (items : List α) :
    lastWith keysOf key (items.map image) =
      (lastWith (fun item => keysOf (image item)) key items).map image := by
  simp only [lastWith, filter_map, getLast?_map]
  rfl

lemma lastWith_filter (key : κ) (keep : α → Bool) (items : List α) :
    lastWith keysOf key (items.filter keep) =
      lastWith (fun item => if keep item then keysOf item else []) key items := by
  unfold lastWith
  rw [filter_filter]
  congr 2
  funext item
  by_cases kept : keep item <;> simp [kept]

end

lemma map_lastWith_eq {β : Type} {key : κ} {image : α → β} (same : left.Perm right)
    (agree : ∀ item ∈ left, ∀ other ∈ left, key ∈ keysOf item →
      key ∈ keysOf other → image item = image other) :
    (lastWith keysOf key left).map image = (lastWith keysOf key right).map image := by
  have filtered := same.filter fun item => decide (key ∈ keysOf item)
  unfold lastWith
  cases lastLeft : (left.filter fun item => key ∈ keysOf item).getLast? with
  | none =>
    rw [getLast?_eq_none_iff] at lastLeft
    rw [lastLeft] at filtered
    rw [filtered.symm.eq_nil]
    rfl
  | some item =>
    cases lastRight : (right.filter fun item => key ∈ keysOf item).getLast? with
    | none =>
      rw [getLast?_eq_none_iff] at lastRight
      rw [lastRight] at filtered
      rw [filtered.eq_nil] at lastLeft
      exact absurd lastLeft (by simp)
    | some other =>
      have inLeft := mem_of_getLast? lastLeft
      have inRight := filtered.mem_iff.2 (mem_of_getLast? lastRight)
      rw [mem_filter, decide_eq_true_iff] at inLeft inRight
      exact congrArg some (agree item inLeft.1 other inRight.1 inLeft.2 inRight.2)

lemma exists_order_ending (among : item ∈ items) :
    ∃ order : List α, order.Perm items ∧ order.getLast? = some item := by
  obtain ⟨before, after, rfl⟩ := append_of_mem among
  refine ⟨before ++ after ++ [item], ?_, by simp⟩
  rw [append_assoc]
  exact (perm_append_singleton item after).append_left before

/--
A list gives one entry in every order exactly if its items with the key agree.
-/
lemma lastWith_order_iff {β : Type} (keysOf : α → List κ) (key : κ)
    (image : α → β) (items : List α) :
    (∀ order : List α, order.Perm items → (lastWith keysOf key order).map image =
          (lastWith keysOf key items).map image) ↔
      ∀ item ∈ items, ∀ other ∈ items, key ∈ keysOf item →
        key ∈ keysOf other → image item = image other := by
  constructor
  · intro independent item among other otherAmong writes otherWrites
    have shown : ∀ item ∈ items, key ∈ keysOf item →
        some (image item) = (lastWith keysOf key items).map image := by
      intro item among writes
      obtain ⟨order, perm, last⟩ := exists_order_ending among
      rw [← independent order perm]
      obtain ⟨before, rfl⟩ := getLast?_eq_some_iff.1 last
      simp [lastWith, filter_append, writes]
    exact Option.some.inj
      ((shown item among writes).trans (shown other otherAmong otherWrites).symm)
  · intro agree order perm
    exact (map_lastWith_eq perm.symm agree).symm

end

end Unifabric.Lib
