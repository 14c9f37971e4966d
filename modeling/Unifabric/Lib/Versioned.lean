import Unifabric.Lib.GoMap

/-!
# Versioned objects

A store keeps every object with the revision of its last write, and every write
takes a new revision.  A copy which a client has read is therefore either as
old as its version says and equal to what is stored, or stale.
-/

namespace Unifabric.Lib

open GoMap

/-- An object with the revision of its last write. -/
structure Copy (α : Type) where
  version : Nat
  object : α

/-- The objects of a kind, by name. -/
abbrev Store (α : Type) := GoMap String (Copy α)

variable {α : Type}

/-- Every object is stored under its name, with a revision in the past. -/
def Kept (nameOf : α → String) (revision : Nat) (store : Store α) : Prop :=
  ∀ name copy, store[name]? = some copy → copy.version ≤ revision ∧ nameOf copy.object = name

/-- Every object afterwards is unchanged or written after the revision. -/
def WrittenAfter (revision : Nat) (before after : Store α) : Prop :=
  ∀ (name : String) (copy : Copy α), after[name]? = some copy →
    before[name]? = some copy ∨ revision < copy.version

/-- The copy is the stored object or has another version than it. -/
def Truthful (nameOf : α → String) (revision : Nat) (store : Store α) (copy : Copy α) : Prop :=
  copy.version ≤ revision ∧ ∀ stored, store[nameOf copy.object]? = some stored →
      stored.version = copy.version → stored = copy

section

variable {nameOf : α → String} {revision later : Nat} {before after : Store α} {copy : Copy α}

lemma WrittenAfter.refl (store : Store α) : WrittenAfter revision store store := fun _ _ => .inl

lemma Kept.truthful (kept : Kept nameOf revision store) {name : String}
    (stored : store[name]? = some copy) : Truthful nameOf revision store copy := by
  obtain ⟨bounded, rfl⟩ := kept name copy stored
  refine ⟨bounded, fun other isOther _ => ?_⟩
  rw [stored] at isOther
  exact (Option.some.inj isOther).symm

lemma Truthful.writtenAfter (truthful : Truthful nameOf revision before copy)
    (grows : revision ≤ later) (written : WrittenAfter revision before after) :
    Truthful nameOf later after copy := by
  refine ⟨le_trans truthful.1 grows, fun stored isStored sameVersion => ?_⟩
  rcases written (nameOf copy.object) stored isStored with old | new
  · exact truthful.2 stored old sameVersion
  · have bounded := truthful.1
    omega

/-- Write an object. -/
def Store.write (store : Store α) (name : String) (revision : Nat) (object : α) : Store α :=
  store.insert name ⟨revision, object⟩

lemma Store.getElem?_write (store : Store α) (name other : String) (object : α) :
    (store.write name revision object)[other]? =
      if name = other then some ⟨revision, object⟩ else store[other]? :=
  getElem?_insert store name other _

lemma Kept.mono (kept : Kept nameOf revision store) (grows : revision ≤ later) :
    Kept nameOf later store := by
  intro name copy stored
  obtain ⟨bounded, named⟩ := kept name copy stored
  exact ⟨le_trans bounded grows, named⟩

lemma Kept.write (kept : Kept nameOf revision store) (object : α) :
    Kept nameOf (revision + 1) (store.write (nameOf object) (revision + 1) object) := by
  intro name copy stored
  rw [Store.getElem?_write] at stored
  split_ifs at stored with same
  · cases stored
    exact ⟨le_refl _, same⟩
  · exact kept.mono (Nat.le_succ _) name copy stored

lemma writtenAfter_write (store : Store α) (name : String) (object : α) :
    WrittenAfter revision store (store.write name (revision + 1) object) := by
  intro other copy stored
  rw [Store.getElem?_write] at stored
  split_ifs at stored with same
  · cases stored
    exact .inr (Nat.lt_succ_self _)
  · exact .inl stored

lemma Kept.erase (kept : Kept nameOf revision store) (name : String) :
    Kept nameOf revision (store.erase name) := by
  intro other copy stored
  rw [getElem?_erase] at stored
  split_ifs at stored
  exact kept other copy stored

lemma writtenAfter_erase (store : Store α) (name : String) :
    WrittenAfter revision store (store.erase name) := by
  intro other copy stored
  rw [getElem?_erase] at stored
  split_ifs at stored
  exact .inl stored

/-- The stored object, unless the copy is stale. -/
def Store.current (store : Store α) (name : String) (base : Copy α) : Option α :=
  match store[name]? with
  | none => none
  | some stored => if stored.version = base.version then some stored.object else none

lemma Store.current_eq_some (truthful : Truthful nameOf revision store base)
    (current : store.current (nameOf base.object) base = some object) :
    store[nameOf base.object]? = some base ∧ object = base.object := by
  unfold Store.current at current
  split at current
  · cases current
  · next stored isStored =>
    split_ifs at current with sameVersion
    have same := truthful.2 stored isStored sameVersion
    subst same
    exact ⟨isStored, (Option.some.inj current).symm⟩

end

end Unifabric.Lib
