import Unifabric.Lib.Chain

/-!
# The owner of a Pod

The agent's `getTopOwner` reads the first owner of an object, then the first
owner of that one, until an object has none or a read fails.  It keeps no list
of what it has read, so objects which own each other hold it forever.  The
objects are those which the agent may read.
-/

namespace Unifabric.FabricNodeAgent

open Lib Relation

/-! ## Objects -/

structure OwnerReference where
  apiVersion : String
  kind : String
  name : String
  deriving DecidableEq, Repr

/-- An object of the API. -/
structure ApiObject where
  apiVersion : String
  kind : String
  namespaceName : String
  name : String
  ownerReferences : List OwnerReference
  deriving DecidableEq, Repr

/-- The objects of a cluster, and which kinds are in namespaces. -/
structure ObjectStore where
  objects : List ApiObject
  namespaced : String → String → Bool

/-- `Get`: the namespace of a request counts for kinds in namespaces. -/
def ObjectStore.get (store : ObjectStore) (apiVersion kind : String)
    (namespaceName name : String) : Option ApiObject :=
  store.objects.find? fun object =>
    object.apiVersion = apiVersion ∧ object.kind = kind ∧ object.name = name ∧
      (store.namespaced apiVersion kind = true → object.namespaceName = namespaceName)

structure OwnerRef where
  apiVersion : String
  kind : String
  namespaceName : String
  name : String
  deriving DecidableEq, Repr

/-! ## The search -/

variable (store : ObjectStore)

/-- `getTopOwner` in so many rounds; `none` if it has not returned. -/
def getTopOwner : Nat → ApiObject → Option OwnerRef → Option (Option OwnerRef)
  | 0, _, _ => none
  | rounds + 1, obj, lastOwnerRef =>
    match obj.ownerReferences with
    | [] => some lastOwnerRef
    | ownerRef :: _ =>
      match store.get ownerRef.apiVersion ownerRef.kind obj.namespaceName ownerRef.name with
      | none => some none
      | some ownerObj =>
        getTopOwner rounds ownerObj (some ⟨ownerRef.apiVersion, ownerRef.kind, obj.namespaceName,
            ownerRef.name⟩)

/-- The object behind the first owner reference. -/
def firstOwner (obj : ApiObject) : Option ApiObject :=
  obj.ownerReferences.head?.bind fun ownerRef =>
    store.get ownerRef.apiVersion ownerRef.kind obj.namespaceName ownerRef.name

/-- An object is the first owner of another one. -/
def OwnedBy (obj owner : ApiObject) : Prop := firstOwner store obj = some owner

/-- The search has returned when it has come to an object without an owner. -/
lemma getTopOwner_isSome (rounds : Nat) (obj : ApiObject) (lastOwnerRef : Option OwnerRef) :
    (getTopOwner store (rounds + 1) obj lastOwnerRef).isSome ↔
      firstOwner store (runLoop (firstOwner store) rounds obj) = none := by
  induction rounds generalizing obj lastOwnerRef with
  | zero =>
    rw [getTopOwner, runLoop, firstOwner]
    cases obj.ownerReferences with
    | nil => simp
    | cons ownerRef _ =>
      cases found : store.get ownerRef.apiVersion ownerRef.kind obj.namespaceName ownerRef.name <;>
        simp [getTopOwner, found]
  | succ rounds ih =>
    rw [getTopOwner]
    cases owners : obj.ownerReferences with
    | nil =>
      have stopped : firstOwner store obj = none := by simp [firstOwner, owners]
      simp [runLoop_of_none stopped, stopped]
    | cons ownerRef _ =>
      have first : firstOwner store obj = store.get ownerRef.apiVersion
          ownerRef.kind obj.namespaceName ownerRef.name := by
        simp [firstOwner, owners]
      cases found : store.get ownerRef.apiVersion ownerRef.kind obj.namespaceName ownerRef.name with
      | none =>
        rw [found] at first
        simp [found, runLoop_of_none first, first]
      | some ownerObj =>
        simp only [found, runLoop, first]
        exact ih ownerObj _

/--
The search for the owner of a Pod returns after finitely many reads exactly if
no object which it comes to is among its own owners.
-/
theorem getTopOwner_returns_iff (pod : ApiObject) :
    (∃ rounds result, getTopOwner store rounds pod none = some result) ↔
      ¬ ∃ object, ReflTransGen (OwnedBy store) pod object ∧
        TransGen (OwnedBy store) object object := by
  have stops := runLoop_stops_iff_acyclic (fun obj owner found => by
      obtain ⟨_, _, got⟩ := Option.bind_eq_some_iff.mp found
      exact List.mem_of_find?_eq_some got : ∀ obj owner,
        firstOwner store obj = some owner → owner ∈ store.objects) pod
  refine Iff.trans ?_ stops
  constructor
  · rintro ⟨rounds, result, returned⟩
    cases rounds with
    | zero => cases returned
    | succ rounds =>
      refine ⟨rounds, (getTopOwner_isSome store rounds pod none).mp ?_⟩
      rw [returned, Option.isSome_some]
  · rintro ⟨rounds, stopped⟩
    exact ⟨rounds + 1, Option.isSome_iff_exists.mp
      ((getTopOwner_isSome store rounds pod none).mpr stopped)⟩

/-- A custom object which names itself as its owner. -/
def selfOwned : ApiObject :=
  ⟨"example.com/v1", "Job", "default", "a", [⟨"example.com/v1", "Job", "a"⟩]⟩

/-- The agent reads the owner of this Pod again and again. -/
theorem getTopOwner_never_returns :
    ¬ ∃ rounds result, getTopOwner ⟨[selfOwned], fun _ _ => true⟩ rounds
      ⟨"v1", "Pod", "default", "p", [⟨"example.com/v1", "Job", "a"⟩]⟩ none = some result := by
  have again : ∀ rounds lastOwnerRef, getTopOwner
      ⟨[selfOwned], fun _ _ => true⟩ rounds selfOwned lastOwnerRef = none := by
    intro rounds
    induction rounds with
    | zero => exact fun _ => rfl
    | succ rounds induction => exact fun _ => induction _
  rintro ⟨rounds, result, returned⟩
  cases rounds with
  | zero => cases returned
  | succ rounds => cases (again rounds _).symm.trans returned

end Unifabric.FabricNodeAgent
