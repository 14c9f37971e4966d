import Unifabric.CoreV1.Pod
import Unifabric.Lib.LastWriter
import Unifabric.Lib.Loop
import Unifabric.Lib.NetIP

/-!
# The Pods of sFlow records

`PodIPCache`: a table from addresses to the Pods which report them, rebuilt
from every list of Pods.  What `json.Unmarshal` makes of an annotation is an
argument of the model, of which nothing is assumed.
-/

namespace Unifabric.Sflow

open Lib CoreV1

/-! ## Objects -/

structure OwnerRef where
  apiVersion : String
  kind : String
  namespaceName : String
  name : String
  deriving DecidableEq, Repr

structure EndpointAttribution where
  podName : String
  podNamespace : String
  nodeName : String
  topOwnerKind : String
  topOwnerName : String
  topOwnerNamespace : String
  deriving DecidableEq, Repr

/-- `PodInfo`, the addresses as slices of bytes. -/
structure PodInfo where
  name : String
  namespaceName : String
  nodeName : String
  ips : List (List Nat)
  topOwner : Option OwnerRef
  deriving DecidableEq, Repr

/-- An element of the network status annotation. -/
structure NetworkStatus where
  ip : String
  ips : List String
  deriving DecidableEq, Repr

/-- `json.Unmarshal` into the two types the annotations are read as. -/
structure Decoder where
  statuses : String → Option (List NetworkStatus)
  values : String → Option (List String)

def multusNetworkStatusAnnotation : String := "k8s.v1.cni.cncf.io/network-status"

def podIPsAnnotation : String := "k8s.v1.cni.cncf.io/podIPs"

def podIPAnnotation : String := "k8s.v1.cni.cncf.io/podIP"

/-- The Pod of an attribution. -/
def EndpointAttribution.podKey (attr : EndpointAttribution) : String × String :=
  (attr.podNamespace, attr.podName)

/-! ## The addresses of a Pod -/

def normalizeIPKey (ip : List Nat) : String :=
  match to4 ip with
  | some v4 => ipv4String v4
  | none =>
    match to16 ip with
    | some v16 => ipv6String v16
    | none => ""

/-- The closure `addIP`: an address is kept once. -/
def addIP (ips : List (List Nat)) (value : String) : List (List Nat) :=
  let ip := (parseIP value).getD []
  let key := normalizeIPKey ip
  if key = "" ∨ key ∈ ips.map normalizeIPKey then ips else ips ++ [ip]

section

variable (decoder : Decoder)

/-- The values `addAnnotatedPodIPs` hands to `addIP`, in its order. -/
def annotatedPodIPs (annotations : GoMap String String) : List String :=
  let status := annotations.getD multusNetworkStatusAnnotation ""
  let podIP := annotations.getD podIPAnnotation ""
  let podIPs := annotations.getD podIPsAnnotation ""
  (if status = "" then []
    else ((decoder.statuses status).getD []).flatMap fun status =>
      status.ip :: status.ips) ++
  (if podIP = "" then [] else [podIP]) ++
  (if podIPs = "" then [] else (decoder.values podIPs).getD [podIPs])

def podIPs (pod : Pod) : List (List Nat) :=
  (pod.podIPs ++ pod.podIP :: annotatedPodIPs decoder pod.annotations).foldl addIP []

/-! ## The cache -/

/-- The keys `Replace` writes for a Pod. -/
def PodInfo.keys (info : PodInfo) : List String := (info.ips.map normalizeIPKey).filter (· ≠ "")

/-- The entry `Replace` writes for a Pod. -/
def PodInfo.attribution (info : PodInfo) : EndpointAttribution where
  podName := info.name
  podNamespace := info.namespaceName
  nodeName := info.nodeName
  topOwnerKind := (info.topOwner.map OwnerRef.kind).getD ""
  topOwnerName := (info.topOwner.map OwnerRef.name).getD ""
  topOwnerNamespace := (info.topOwner.map OwnerRef.namespaceName).getD ""

structure PodIPCache where
  pods : GoMap String EndpointAttribution

def newPodIPCache : PodIPCache := ⟨∅⟩

def replace (infos : List PodInfo) : PodIPCache :=
  ⟨lastWriter PodInfo.keys PodInfo.attribution infos⟩

/-- Why a context ended. -/
inductive ContextError where
  | canceled
  | deadlineExceeded
  deriving DecidableEq, Repr

/-- A context: whether the n-th look at `Done` finds it closed, and `Err`. -/
structure Context where
  done : Nat → Bool
  err : ContextError

/-- A context which never ends. -/
def background : Context := ⟨fun _ => false, .canceled⟩

/-- What `ReplacePods` keeps of a Pod. -/
def podInfo (topOwner : Option OwnerRef) (pod : Pod) : PodInfo where
  name := pod.name
  namespaceName := pod.namespaceName
  nodeName := pod.nodeName
  ips := podIPs decoder pod
  topOwner := topOwner

/-- The owner a resolver finds for a Pod; the resolver may be nil. -/
def topOwner (ownerResolver : Option (Pod → Option OwnerRef)) (pod : Pod) : Option OwnerRef :=
  ownerResolver.bind fun ownerForPod => ownerForPod pod

/-- How often the context is looked at for a Pod which runs. -/
def looksAt (ownerResolver : Option (Pod → Option OwnerRef)) : Nat :=
  if ownerResolver.isSome then 2 else 1

/--
The loop of `ReplacePods`: the Pods which run, with their owners.  The context
is looked at before every Pod and after every search for an owner.
-/
def collectInfos (ctx : Context) (ownerResolver : Option (Pod → Option OwnerRef)) :
    Nat → List Pod → Except ContextError (List PodInfo)
  | _, [] => .ok []
  | look, pod :: rest =>
    if ctx.done look then .error ctx.err
    else if pod.phase ≠ .running then
      collectInfos ctx ownerResolver (look + 1) rest
    else if ownerResolver.isSome ∧ ctx.done (look + 1) then .error ctx.err
    else do
      let infos ← collectInfos ctx ownerResolver (look + looksAt ownerResolver) rest
      return podInfo decoder (topOwner ownerResolver pod) pod :: infos

/-- `ReplacePods`: the cache after the call, and the error it returns. -/
def replacePods (ctx : Context) (pods : List Pod)
    (ownerResolver : Option (Pod → Option OwnerRef)) (cache : PodIPCache) :
    PodIPCache × Option ContextError :=
  match collectInfos decoder ctx ownerResolver 0 pods with
  | .ok infos => (replace infos, none)
  | .error err => (cache, some err)

end

def PodIPCache.lookup (cache : PodIPCache) (ip : List Nat) : Option EndpointAttribution :=
  let key := normalizeIPKey ip
  if key = "" then none else cache.pods[key]?

/-! ## A finished replacement -/

section

variable {decoder : Decoder}

/-- The Pods which run, in the order of the list. -/
def runningPods (pods : List Pod) : List Pod := pods.filter fun pod => pod.phase = .running

lemma collectInfos_eq_ok (ran : collectInfos decoder ctx ownerResolver look pods = .ok infos) :
    infos = (runningPods pods).map fun pod =>
      podInfo decoder (topOwner ownerResolver pod) pod := by
  induction pods generalizing look infos with
  | nil => exact (Except.ok.inj ran).symm
  | cons pod rest hypothesis =>
    unfold collectInfos at ran
    split_ifs at ran with ended notRunning endedAfter
    · rw [hypothesis ran]
      simp [runningPods, notRunning]
    · rw [not_not] at notRunning
      obtain ⟨found, again, same⟩ := bind_eq_ok.1 ran
      rw [← Except.ok.inj same, hypothesis again]
      simp [runningPods, notRunning]

lemma collectInfos_background (decoder : Decoder) (ownerResolver : Option (Pod → Option OwnerRef))
    (look : Nat) (pods : List Pod) :
    ∃ infos, collectInfos decoder background ownerResolver look pods = .ok infos := by
  induction pods generalizing look with
  | nil => exact ⟨[], rfl⟩
  | cons pod rest hypothesis =>
    unfold collectInfos
    by_cases running : pod.phase = .running
    · obtain ⟨infos, ran⟩ := hypothesis (look + looksAt ownerResolver)
      refine ⟨podInfo decoder (topOwner ownerResolver pod) pod :: infos, ?_⟩
      rw [if_neg (by simp [background]), if_neg (by simpa using running),
        if_neg (by simp [background]), ran]
      rfl
    · obtain ⟨infos, ran⟩ := hypothesis (look + 1)
      refine ⟨infos, ?_⟩
      rw [if_neg (by simp [background]), if_pos running, ran]

/-- The normalized addresses a Pod reports. -/
def reportedKeys (decoder : Decoder) (pod : Pod) : List String :=
  ((podIPs decoder pod).map normalizeIPKey).filter (· ≠ "")

/-- The keys under which a Pod is found: a Pod which does not run has none. -/
def answerKeys (decoder : Decoder) (pod : Pod) : List String :=
  if pod.phase = .running then reportedKeys decoder pod else []

/-- Whether flows of an address can be attributed to a Pod. -/
def Answers (decoder : Decoder) (pod : Pod) (ip : List Nat) : Prop :=
  pod.phase = .running ∧ normalizeIPKey ip ∈ reportedKeys decoder pod

lemma mem_answerKeys_iff (decoder : Decoder) (pod : Pod) (ip : List Nat) :
    normalizeIPKey ip ∈ answerKeys decoder pod ↔ Answers decoder pod ip := by
  unfold answerKeys Answers
  split_ifs with running <;> simp [running]

/-- A replacement which returns no error, and the Pod found after it. -/
lemma podKey_lookup_replacePods (ip : List Nat)
    (ran : replacePods decoder ctx pods ownerResolver cache = (next, none)) :
    (next.lookup ip).map EndpointAttribution.podKey =
      (lastWith (answerKeys decoder) (normalizeIPKey ip) pods).map Pod.key := by
  unfold replacePods at ran
  cases collected : collectInfos decoder ctx ownerResolver 0 pods with
  | error err =>
    rw [collected] at ran
    exact absurd (congrArg Prod.snd ran) (by simp)
  | ok infos =>
    rw [collected] at ran
    obtain rfl : replace infos = next := congrArg Prod.fst ran
    rw [collectInfos_eq_ok collected]
    by_cases blank : normalizeIPKey ip = ""
    · simp [PodIPCache.lookup, blank, lastWith, answerKeys, reportedKeys]
    · simp only [PodIPCache.lookup, if_neg blank, replace,
        getElem?_lastWriter, lastWith_map, Option.map_map, runningPods,
        lastWith_filter, decide_eq_true_eq]
      rfl

lemma replacePods_background (decoder : Decoder) (pods : List Pod)
    (ownerResolver : Option (Pod → Option OwnerRef)) (cache : PodIPCache) :
    ∃ next, replacePods decoder background pods ownerResolver cache = (next, none) := by
  obtain ⟨infos, collected⟩ := collectInfos_background decoder ownerResolver 0 pods
  exact ⟨replace infos, by simp [replacePods, collected]⟩

end

/-! ## The order of the list -/

/-- The Pod found for an address is the same after both replacements. -/
def SamePod (decoder : Decoder) (ip : List Nat) (pods order : List Pod) : Prop :=
  ∀ (ctx ctx' : Context) (ownerResolver ownerResolver' : Option (Pod → Option OwnerRef))
    (cache cache' next next' : PodIPCache),
    replacePods decoder ctx pods ownerResolver cache = (next, none) →
    replacePods decoder ctx' order ownerResolver' cache' = (next', none) →
    (next.lookup ip).map EndpointAttribution.podKey =
      (next'.lookup ip).map EndpointAttribution.podKey

lemma samePod_iff (decoder : Decoder) (ip : List Nat) (pods order : List Pod) :
    SamePod decoder ip pods order ↔
      (lastWith (answerKeys decoder) (normalizeIPKey ip) pods).map Pod.key =
      (lastWith (answerKeys decoder) (normalizeIPKey ip) order).map Pod.key := by
  constructor
  · intro same
    obtain ⟨next, ran⟩ := replacePods_background decoder pods none newPodIPCache
    obtain ⟨next', ran'⟩ := replacePods_background decoder order none newPodIPCache
    rw [← podKey_lookup_replacePods ip ran, ← podKey_lookup_replacePods ip ran']
    exact same _ _ _ _ _ _ _ _ ran ran'
  · intro same ctx ctx' ownerResolver ownerResolver' cache cache' next next' ran ran'
    rw [podKey_lookup_replacePods ip ran, podKey_lookup_replacePods ip ran', same]

/--
The attribution of an address is independent of the order of the Pods exactly
if at most one Pod which runs reports it.
-/
theorem lookup_order_independent_iff (decoder : Decoder) (pods : List Pod)
    (unique : UniqueNames pods) (ip : List Nat) :
    (∀ order : List Pod, order.Perm pods → SamePod decoder ip pods order) ↔
      ∀ pod ∈ pods, ∀ other ∈ pods, Answers decoder pod ip →
        Answers decoder other ip → pod = other := by
  have oneEntry := lastWith_order_iff (answerKeys decoder) (normalizeIPKey ip) Pod.key pods
  simp only [mem_answerKeys_iff] at oneEntry
  simp only [samePod_iff]
  constructor
  · intro independent pod among other otherAmong answers otherAnswers
    have agree := oneEntry.mp fun order perm => (independent order perm).symm
    exact unique.eq_of_key among otherAmong (agree pod among other otherAmong answers otherAnswers)
  · intro single order perm
    refine (oneEntry.mpr ?_ order perm).symm
    intro pod among other otherAmong answers otherAnswers
    rw [single pod among other otherAmong answers otherAnswers]

/-- A Pod of the default namespace which runs and has one address. -/
def addressedPod (name podIP : String) : Pod where
  namespaceName := "default"
  name := name
  uid := name
  annotations := ∅
  nodeName := "node-1"
  hostNetwork := true
  phase := .running
  podIP := podIP
  podIPs := [podIP]

/-- An annotation decoder which reads nothing. -/
def noDecoder : Decoder := ⟨fun _ => none, fun _ => none⟩

/-- Two Pods with two addresses are told apart in both orders. -/
theorem lookup_order_independent_two_addresses :
    let a := addressedPod "a" "10.0.0.1"
    let b := addressedPod "b" "10.0.0.2"
    UniqueNames [a, b] ∧ SamePod noDecoder [10, 0, 0, 1] [a, b] [b, a] := by
  intro a b
  have unique : UniqueNames [a, b] := by
    unfold UniqueNames
    decide
  refine ⟨unique, (lookup_order_independent_iff noDecoder _ unique _).mpr ?_ _
    (List.Perm.swap _ _ _)⟩
  intro pod among other otherAmong answers otherAnswers
  have first : ∀ pod ∈ [a, b], Answers noDecoder pod [10, 0, 0, 1] → pod = a := by
    unfold Answers
    decide +kernel
  rw [first pod among answers, first other otherAmong otherAnswers]

/-- Two Pods of the host network: the address belongs to the later one. -/
theorem lookup_depends_on_order :
    UniqueNames [addressedPod "a" "10.0.0.1", addressedPod "b" "10.0.0.1"] ∧
      (((replacePods noDecoder background
          [addressedPod "a" "10.0.0.1", addressedPod "b" "10.0.0.1"] none
          newPodIPCache).1.lookup [10, 0, 0, 1]).map
        EndpointAttribution.podKey = some ("default", "b")) ∧ ((replacePods noDecoder background
          [addressedPod "b" "10.0.0.1", addressedPod "a" "10.0.0.1"] none
          newPodIPCache).1.lookup [10, 0, 0, 1]).map
        EndpointAttribution.podKey = some ("default", "a") := by
  unfold UniqueNames
  decide +kernel

end Unifabric.Sflow
