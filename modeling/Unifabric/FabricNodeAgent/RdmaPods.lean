import Unifabric.CoreV1.Pod
import Unifabric.FabricNodeAgent.Owner
import Unifabric.Lib.Separated

/-!
# The RDMA Pods of a node

`updateRdmaPodsStatus` collects the RDMA Pods of a node and replaces those of
the status if `isRdmaPodsEqual` finds a difference.  Pods and container IDs are
compared through maps and counts, without regard to their order.
-/

namespace Unifabric.FabricNodeAgent

open Lib CoreV1 List

structure RdmaPod where
  namespaceName : String
  name : String
  containerList : List String
  hostRDMA : Bool
  topOwner : Option OwnerRef
  deriving DecidableEq, Repr

/-- The key of a Pod in the map of the old Pods. -/
def RdmaPod.key (pod : RdmaPod) : String :=
  pod.namespaceName ++ "/" ++ pod.name

def isContainerListEqual (old new : List String) : Bool :=
  if old.length ≠ new.length then false
  else
    let oldContainers := old.foldl (fun containers id => containers.insert id ())
      (∅ : GoMap String Unit)
    new.all fun id => oldContainers[id]?.isSome

def isOwnerRefEqual : Option OwnerRef → Option OwnerRef → Bool
  | none, none => true
  | some a, some b =>
    a.apiVersion = b.apiVersion ∧ a.kind = b.kind ∧ a.namespaceName = b.namespaceName ∧
      a.name = b.name
  | _, _ => false

/-- The old Pods by key. -/
def podsByKey (old : List RdmaPod) : GoMap String RdmaPod :=
  old.foldl (fun pods pod => pods.insert pod.key pod) ∅

/-- What the loop over the new Pods checks for one of them. -/
def isUnchanged (oldPods : GoMap String RdmaPod) (pod : RdmaPod) : Bool :=
  match oldPods[pod.key]? with
  | none => false
  | some oldPod =>
    oldPod.hostRDMA = pod.hostRDMA ∧ isContainerListEqual oldPod.containerList pod.containerList ∧
      isOwnerRefEqual oldPod.topOwner pod.topOwner

def isRdmaPodsEqual (old new : List RdmaPod) : Bool :=
  if old.length ≠ new.length then false else new.all (isUnchanged (podsByKey old))

/-! ## Collecting -/

/-- A container: whether it is privileged, if that is set, and what it mounts. -/
structure Container where
  privileged : Option Bool
  mountPaths : List String
  deriving DecidableEq, Repr

/-- A Pod as the agent reads it. -/
structure PodObject extends ApiObject where
  annotations : GoMap String String
  hostNetwork : Bool
  containers : List Container
  phase : PodPhase
  containerIDs : List String

def isSriovRDMA (pod : PodObject) : Bool :=
  "rdma-device".toList <:+: (pod.annotations.getD "k8s.v1.cni.cncf.io/network-status" "").toList

def isHostRDMA (pod : PodObject) : Bool :=
  pod.hostNetwork && pod.containers.any fun container =>
    container.privileged = some true ∧ "/dev/infiniband" ∈ container.mountPaths

def getContainerList (pod : PodObject) : List String :=
  pod.containerIDs.filter (· ≠ "")

variable (store : ObjectStore) (rounds : Nat)

/-- The entry of a Pod; there is none while the search for its owner goes on. -/
def rdmaPodOf (pod : PodObject) : Option RdmaPod :=
  (getTopOwner store rounds pod.toApiObject none).map fun topOwner =>
    { namespaceName := pod.namespaceName
      name := pod.name
      containerList := getContainerList pod
      hostRDMA := isHostRDMA pod
      topOwner := topOwner }

/-- The RDMA Pods among the listed ones. -/
def collectRdmaPods (pods : List PodObject) : Option (List RdmaPod) :=
  (pods.filter fun pod => pod.phase = .running ∧ (isSriovRDMA pod ∨ isHostRDMA pod)).mapM
    (rdmaPodOf store rounds)

/-- `updateRdmaPodsStatus`: whether the status changed, and its Pods. -/
def updateRdmaPodsStatus (listed : Except String (List PodObject)) (status : List RdmaPod) :
    Option (Except String Bool × List RdmaPod) :=
  match listed with
  | .error failure => some (.error failure, status)
  | .ok pods => (collectRdmaPods store rounds pods).map fun rdmaPods =>
      if isRdmaPodsEqual status rdmaPods then (.ok false, status) else (.ok true, rdmaPods)

/-! ## Equality up to order -/

/-- Two entries are equal up to the order of the container IDs. -/
structure SamePod (old new : RdmaPod) : Prop where
  namespaceName : old.namespaceName = new.namespaceName
  name : old.name = new.name
  containerList : old.containerList.Perm new.containerList
  hostRDMA : old.hostRDMA = new.hostRDMA
  topOwner : old.topOwner = new.topOwner

/-- Two lists are equal up to the order of Pods and of container IDs. -/
def SamePods (old new : List RdmaPod) : Prop :=
  ∃ ordered, old.Perm ordered ∧ List.Forall₂ SamePod ordered new

/-- Names are unique and valid, of which only the missing slash matters. -/
structure ValidPods (pods : List RdmaPod) : Prop where
  distinct : (pods.map fun pod => (pod.namespaceName, pod.name)).Nodup
  valid : ∀ pod ∈ pods, '/' ∉ pod.namespaceName.toList
  containers : ∀ pod ∈ pods, pod.containerList.Nodup

lemma perm_of_subset {α : Type} [DecidableEq α] {old new : List α}
    (length : old.length = new.length) (distinct : new.Nodup) (subset : new ⊆ old) : old.Perm new :=
  ((subperm_of_subset distinct subset).perm_of_length_le length.le).symm

lemma isContainerListEqual_iff {old new : List String} (distinct : new.Nodup) :
    isContainerListEqual old new = true ↔ old.Perm new := by
  have known : ∀ container, ((old.foldl (fun containers id => containers.insert id ())
      (∅ : GoMap String Unit))[container]?).isSome ↔ container ∈ old := by
    intro container
    have found := GoMap.getElem?_foldl_insert old (fun id => id) (fun _ => ()) ∅ container
    rw [found]
    simp
  rw [isContainerListEqual]
  constructor
  · intro equal
    split_ifs at equal with length
    rw [all_eq_true] at equal
    exact perm_of_subset (not_not.1 length) distinct fun id listed =>
      (known id).1 (equal id listed)
  · intro same
    rw [if_neg (not_not.2 same.length_eq), all_eq_true]
    exact fun id listed => (known id).2 (same.mem_iff.2 listed)

lemma isOwnerRefEqual_iff : isOwnerRefEqual a b = true ↔ a = b := by
  cases a with
  | none => cases b <;> simp [isOwnerRefEqual]
  | some a =>
    cases b with
    | none => simp [isOwnerRefEqual]
    | some b =>
      cases a
      cases b
      simp [isOwnerRefEqual]

lemma key_inj {left right : RdmaPod} (leftValid : '/' ∉ left.namespaceName.toList)
    (rightValid : '/' ∉ right.namespaceName.toList) (same : left.key = right.key) :
    left.namespaceName = right.namespaceName ∧ left.name = right.name := by
  have texts := congrArg String.toList same
  simp only [RdmaPod.key, String.toList_append, append_assoc] at texts
  have parts := append_separator_inj leftValid rightValid texts
  exact ⟨String.toList_inj.1 parts.1, String.toList_inj.1 parts.2⟩

lemma SamePod.key_eq (same : SamePod old new) : old.key = new.key := by
  rw [RdmaPod.key, same.namespaceName, same.name, RdmaPod.key]

lemma isUnchanged_iff (valid : ValidPods old) {pod : RdmaPod}
    (podValid : '/' ∉ pod.namespaceName.toList) (distinct : pod.containerList.Nodup) :
    isUnchanged (podsByKey old) pod = true ↔ ∃ oldPod ∈ old, SamePod oldPod pod := by
  have unique : ∀ left ∈ old, ∀ right ∈ old, left.key = right.key → left = right := by
    intro left isLeft right isRight same
    exact inj_on_of_nodup_map valid.distinct isLeft isRight
      (Prod.ext_iff.2 (key_inj (valid.valid left isLeft) (valid.valid right isRight) same))
  have found : ∀ oldPod, (podsByKey old)[pod.key]? = some oldPod ↔ _ :=
    GoMap.getElem?_foldl_insert_eq_some_iff unique pod.key
  rw [isUnchanged]
  cases lookup : (podsByKey old)[pod.key]? with
  | none =>
    simp only [Bool.false_eq_true, false_iff]
    rintro ⟨oldPod, listed, same⟩
    rw [(found oldPod).2 ⟨oldPod, listed, same.key_eq, rfl⟩] at lookup
    cases lookup
  | some oldPod =>
    obtain ⟨listed, isKey⟩ : oldPod ∈ old ∧ oldPod.key = pod.key := by
      simpa using (found oldPod).1 lookup
    simp only [decide_eq_true_eq, isContainerListEqual_iff distinct, isOwnerRefEqual_iff]
    constructor
    · rintro ⟨hostRDMA, containerList, topOwner⟩
      obtain ⟨namespaceName, name⟩ := key_inj (valid.valid _ listed) podValid isKey
      exact ⟨_, listed, namespaceName, name, containerList, hostRDMA, topOwner⟩
    · rintro ⟨other, isOther, same⟩
      rw [← unique other isOther oldPod listed (same.key_eq.trans isKey.symm)]
      exact ⟨same.hostRDMA, same.containerList, same.topOwner⟩

lemma isRdmaPodsEqual_iff {new : List RdmaPod} (oldValid : ValidPods old)
    (newValid : ValidPods new) : isRdmaPodsEqual old new = true ↔ SamePods old new := by
  have checked : new.all (isUnchanged (podsByKey old)) = true ↔
      ∀ pod ∈ new, ∃ oldPod ∈ old, SamePod oldPod pod := by
    rw [all_eq_true]
    exact forall₂_congr fun pod listed =>
      isUnchanged_iff oldValid (newValid.valid pod listed) (newValid.containers pod listed)
  rw [isRdmaPodsEqual]
  constructor
  · intro equal
    split_ifs at equal with length
    choose! oldPod isOld same using checked.1 equal
    have ordered : List.Forall₂ SamePod (new.map oldPod) new := by
      rw [forall₂_map_left_iff]
      exact forall₂_same.2 same
    have distinct : (new.map oldPod).Nodup := by
      refine List.Nodup.of_map (fun pod => (pod.namespaceName, pod.name)) ?_
      have names : (new.map oldPod).map (fun pod => (pod.namespaceName, pod.name)) =
          new.map fun pod => (pod.namespaceName, pod.name) := by
        rw [map_map]
        exact map_congr_left fun pod listed => Prod.ext_iff.2
          ⟨(same pod listed).namespaceName, (same pod listed).name⟩
      rw [names]
      exact newValid.distinct
    refine ⟨new.map oldPod, perm_of_subset (by simpa using not_not.1 length) distinct ?_, ordered⟩
    intro pod listed
    obtain ⟨newPod, isNew, rfl⟩ := mem_map.1 listed
    exact isOld newPod isNew
  · rintro ⟨ordered, permuted, alike⟩
    rw [if_neg (not_not.2 (permuted.length_eq.trans alike.length_eq)), checked]
    intro pod listed
    obtain ⟨index, inside, rfl⟩ := mem_iff_getElem.1 listed
    have here : index < ordered.length := alike.length_eq ▸ inside
    exact ⟨ordered[index], permuted.mem_iff.2 (getElem_mem here),
      forall₂_iff_get.1 alike |>.2 index here inside⟩

/--
The comparison decides whether the lists are equal up to order, and the status
is left alone exactly if the collected Pods are equal up to order to its own.
-/
theorem rdma_pod_changes_exact : (∀ old new, ValidPods old → ValidPods new →
      (isRdmaPodsEqual old new = true ↔ SamePods old new)) ∧ ∀ store rounds pods status rdmaPods,
      collectRdmaPods store rounds pods = some rdmaPods → ValidPods status → ValidPods rdmaPods →
      (updateRdmaPodsStatus store rounds (.ok pods) status = some (.ok false, status) ↔
        SamePods status rdmaPods) ∧ (¬ SamePods status rdmaPods →
        updateRdmaPodsStatus store rounds (.ok pods) status = some (.ok true, rdmaPods)) := by
  refine ⟨fun old new => isRdmaPodsEqual_iff, ?_⟩
  intro store rounds pods status rdmaPods collected oldValid newValid
  rw [updateRdmaPodsStatus, collected, Option.map_some, ← isRdmaPodsEqual_iff oldValid newValid]
  cases isRdmaPodsEqual status rdmaPods with
  | true => simp
  | false => simp

/-- Two Pods in another order, one with its container IDs in another order. -/
theorem rdma_pod_changes_exact_reordered :
    let first : RdmaPod := ⟨"dc", "a", ["c1", "c2"], true, none⟩
    let second : RdmaPod := ⟨"dc", "b", ["c3"], false, none⟩
    isRdmaPodsEqual [first, second] [second, { first with containerList := ["c2", "c1"] }] =
      true := by
  intro first second
  refine (rdma_pod_changes_exact.1 _ _ ⟨by decide, by decide, by decide⟩
    ⟨by decide, by decide, by decide⟩).mpr ⟨[second, first], .swap _ _ _, ?_⟩
  exact .cons ⟨rfl, rfl, .refl _, rfl, rfl⟩ (.cons ⟨rfl, rfl, .swap _ _ _, rfl, rfl⟩ .nil)

end Unifabric.FabricNodeAgent
