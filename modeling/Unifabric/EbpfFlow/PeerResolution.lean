import Unifabric.CoreV1.Pod
import Unifabric.EbpfFlow.EndpointIndex
import Unifabric.Lib.LastWriter

/-!
# The Pod of a peer address

`refresh` indexes the Pods of the cluster by UID, address and hardware address,
and `podForPeer` asks the indexes one after another.  What `json.Unmarshal` and
`strings.ToLower` make of a text, and the owners of the Pods, are arguments of
the model, of which nothing is assumed.
-/

namespace Unifabric.EbpfFlow

open Lib CoreV1 List

variable {pods order : List Pod} {key : String}

/-! ## Annotations -/

structure NetworkStatus where
  ips : List String
  mac : String
  deriving DecidableEq, Repr

/-- `json.Unmarshal` into the types the annotations are read as. -/
structure AnnotationDecoder where
  strings : String → Option (List String)
  string : String → Option String
  statuses : String → Option (List NetworkStatus)
  status : String → Option NetworkStatus

def networkStatusAnnotation : String := "k8s.v1.cni.cncf.io/network-status"

def calicoPodIPAnnotation : String := "cni.projectcalico.org/podIP"

def calicoPodIPsAnnotation : String := "cni.projectcalico.org/podIPs"

def normalizeIP (value : String) : String :=
  let value := trimSpace value
  match parseIP value with
  | some ip => ipString ip
  | none =>
    match parseCIDR value with
    | some ip => ipString ip
    | none => ""

def normalizeMAC (value : String) : String :=
  match parseMAC (trimSpace value) with
  | some mac => hardwareAddrString mac
  | none => ""

/-- The loop of the annotation readers: normal forms, each kept once. -/
def distinctNormalized (normalize : String → String) (values : List String) : List String :=
  values.foldl (fun found value =>
      let normal := normalize value
      if normal = "" ∨ normal ∈ found then found else found ++ [normal])
    []

/-- `strings.FieldsFunc` on commas and spaces. -/
def fieldsOfList (raw : String) : List String :=
  ((raw.toList.splitOnP fun c => c = ',' || isSpace c).filter (· ≠ [])).map String.ofList

section

variable (decoder : AnnotationDecoder)

/-- `parseNetworkStatus`: an array, or one object. -/
def parseNetworkStatus (raw : String) : List NetworkStatus :=
  if trimSpace raw = "" then []
  else
    match decoder.statuses raw with
    | some statuses => statuses
    | none => (decoder.status raw).toList

def networkStatusIPs (raw : String) : List String :=
  distinctNormalized normalizeIP ((parseNetworkStatus decoder raw).flatMap NetworkStatus.ips)

/-- `annotationIPs`: an array, a string, or a plain list. -/
def annotationIPs (raw : String) : List String :=
  let raw := trimSpace raw
  if raw = "" then []
  else
    distinctNormalized normalizeIP (match decoder.strings raw with
        | some values => values
        | none =>
          match decoder.string raw with
          | some value => [value]
          | none => fieldsOfList raw)

def podAnnotationIPs (annotations : GoMap String String) : List String :=
  distinctNormalized normalizeIP
    (networkStatusIPs decoder (annotations.getD networkStatusAnnotation "") ++
      annotationIPs decoder (annotations.getD calicoPodIPAnnotation "") ++
      annotationIPs decoder (annotations.getD calicoPodIPsAnnotation ""))

def podAnnotationMACs (annotations : GoMap String String) : List String :=
  distinctNormalized normalizeMAC ((parseNetworkStatus decoder
      (annotations.getD networkStatusAnnotation "")).map NetworkStatus.mac)

/-! ## The indexes -/

/-- The addresses `refresh` indexes a Pod by. -/
def addressKeys (pod : Pod) : List String :=
  if pod.hostNetwork then []
  else
    ((pod.podIP :: pod.podIPs ++ podAnnotationIPs decoder pod.annotations).map
      normalizeIP).filter (· ≠ "")

/-- The hardware addresses `refresh` indexes a Pod by. -/
def hardwareKeys (pod : Pod) : List String :=
  if pod.hostNetwork then []
  else podAnnotationMACs decoder pod.annotations

end

/-- The key of a Pod in the index by UID. -/
def uidKeys (toLower : String → String) (pod : Pod) : List String := [toLower pod.uid]

/-- `stripPodForFlow`: the cache keeps what the resolver reads. -/
def stripPodForFlow (pod : Pod) : Pod := { pod with phase := .unset }

/-- The peer of a Pod. -/
def peerOfPod (topOwner : Pod → OwnerInfo) (pod : Pod) : Peer where
  namespaceName := pod.namespaceName
  name := pod.name
  owner := topOwner pod
  label := ""
  hostNetwork := pod.hostNetwork

/-- The indexes `podForPeer` reads. -/
structure PeerIndexes where
  byUID : GoMap String Peer
  byIP : GoMap String Peer
  byMAC : GoMap String Peer
  endpoints : EndpointIndex

/-- `newResolver`. -/
def newPeerIndexes : PeerIndexes where
  byUID := ∅
  byIP := ∅
  byMAC := ∅
  endpoints := { pods := ∅, nodes := ∅, stale := 0 }

/-- What the API answers during one refresh. -/
structure RefreshAnswers where
  pods : Option (List Pod)
  topOwner : Pod → OwnerInfo
  endpoints : Option (List RdmaEndpoint)
  now : Int

/--
`refresh`, from the Pods as the cache keeps them.  A list which fails leaves
its indexes unchanged, and without the Pods the objects are not read.
-/
def refresh (runtime : Runtime) (decoder : AnnotationDecoder)
    (toLower : String → String) (answers : RefreshAnswers)
    (state : PeerIndexes) : PeerIndexes :=
  match answers.pods with
  | none => state
  | some pods =>
    let pods := pods.map stripPodForFlow
    let peer := peerOfPod answers.topOwner
    { byUID := lastWriter (uidKeys toLower) peer pods
      byIP := lastWriter (addressKeys decoder) peer pods
      byMAC := lastWriter (hardwareKeys decoder) peer pods
      endpoints :=
        match answers.endpoints with
        | none => state.endpoints
        | some objects => buildEndpointIndex runtime objects answers.now }

/-! ## Resolution -/

def eui64MAC (value : String) : String :=
  match parseIP value with
  | none => ""
  | some ip =>
    if (to4 ip).isSome ∨ ¬ isLinkLocalUnicast ip then ""
    else if ip.getD 11 0 ≠ 0xff ∨ ip.getD 12 0 ≠ 0xfe then ""
    else
      hardwareAddrString [ip.getD 8 0 ^^^ 2, ip.getD 9 0, ip.getD 10 0, ip.getD 13 0,
          ip.getD 14 0, ip.getD 15 0]

def podForPeer (state : PeerIndexes) (ip : String) (destQPN : UInt32) : Peer × String :=
  match state.byIP[ip]? with
  | some peer => (peer, "")
  | none =>
    let mac := eui64MAC ip
    match if mac ≠ "" then state.byMAC[mac]? else none with
    | some peer => (peer, "")
    | none =>
      match podForReportedAddress state.endpoints state.byUID ip destQPN with
      | (peer, device, true) => (peer, device)
      | (_, _, false) => (.ofLabel ip, "")

/-! ## The order of the list -/

/-- No owner. -/
def noOwner : OwnerInfo := { kind := "", namespaceName := "", name := "" }

/-- A peer without its owner, which the API may answer differently each time. -/
def Peer.withoutOwner (peer : Peer) : Peer := { peer with owner := noOwner }

/-- At most one Pod of a list has a key. -/
def AtMostOne (keysOf : Pod → List String) (key : String) (pods : List Pod) : Prop :=
  ∀ pod ∈ pods, ∀ other ∈ pods, key ∈ keysOf pod → key ∈ keysOf other → pod = other

/-- The last Pod with a key, as an end of a flow. -/
def lastPeer (keysOf : Pod → List String) (key : String) (pods : List Pod) : Option Peer :=
  (lastWith keysOf key pods).map (peerOfPod fun _ => noOwner)

/-- An index of stripped Pods finds the last Pod of the list with the key. -/
lemma withoutOwner_lastWriter (keysOf : Pod → List String)
    (stripped : ∀ pod, keysOf (stripPodForFlow pod) = keysOf pod)
    (topOwner : Pod → OwnerInfo) (pods : List Pod) (key : String) :
    (lastWriter keysOf (peerOfPod topOwner)
        (pods.map stripPodForFlow))[key]?.map Peer.withoutOwner = lastPeer keysOf key pods := by
  simp only [getElem?_lastWriter, lastWith_map, stripped, Option.map_map]
  rfl

lemma lastPeer_order_iff (unique : UniqueNames pods) (keysOf : Pod → List String) (key : String) :
    (∀ order : List Pod, order.Perm pods → lastPeer keysOf key order = lastPeer keysOf key pods) ↔
      AtMostOne keysOf key pods := by
  unfold lastPeer
  rw [lastWith_order_iff]
  constructor
  · intro agree pod among other otherAmong has otherHas
    have same := agree pod among other otherAmong has otherHas
    apply unique.eq_of_key among otherAmong
    exact Prod.ext (congrArg Peer.namespaceName same) (congrArg Peer.name same)
  · intro single pod among other otherAmong has otherHas
    rw [single pod among other otherAmong has otherHas]

lemma lastPeer_isSome_iff (keysOf : Pod → List String) (key : String) (pods : List Pod) :
    (lastPeer keysOf key pods).isSome ↔ ∃ pod ∈ pods, key ∈ keysOf pod := by
  simp [lastPeer, lastWith]

lemma lastPeer_isSome_perm (keysOf : Pod → List String) (key : String) (perm : order.Perm pods) :
    (lastPeer keysOf key order).isSome = (lastPeer keysOf key pods).isSome := by
  rw [Bool.eq_iff_iff, lastPeer_isSome_iff, lastPeer_isSome_iff]
  simp only [perm.mem_iff]

/-- The result of `podForPeer` by the last Pods with the keys it asks for. -/
def outcome (endpoints : EndpointIndex) (ip : String) (destQPN : UInt32)
    (byIP byMAC : Option Peer) (byUID : String → Option Peer) : Peer × String :=
  match byIP, byMAC with
  | some peer, _ => (peer, "")
  | none, some peer => (peer, "")
  | none, none =>
    match chosenPod endpoints ip destQPN with
    | some pod => ((byUID pod.uid).getD (.ofLabel ("pod-uid:" ++ pod.uid)), pod.deviceFor destQPN)
    | none =>
      let nodes := endpoints.nodes.getD ip []
      if endpoints.pods.getD ip [] = [] ∧ nodes = [] then (.ofLabel ip, "")
      else (.ofLabel ("node:" ++ ",".intercalate nodes), "")

lemma podForPeer_eq_outcome (state : PeerIndexes) (ip : String)
    (destQPN : UInt32) (noBlank : state.byMAC[""]? = none) :
    (podForPeer state ip destQPN).map Peer.withoutOwner id = outcome state.endpoints ip destQPN
        (state.byIP[ip]?.map Peer.withoutOwner) (state.byMAC[eui64MAC ip]?.map Peer.withoutOwner)
        (fun uid => state.byUID[uid]?.map Peer.withoutOwner) := by
  have asked : (if eui64MAC ip ≠ "" then state.byMAC[eui64MAC ip]? else none) =
      state.byMAC[eui64MAC ip]? := by
    split_ifs with blank
    · rfl
    · rw [not_not.1 blank, noBlank]
  unfold podForPeer outcome podForReportedAddress
  simp only [asked]
  cases state.byIP[ip]? with
  | some peer => rfl
  | none =>
    cases state.byMAC[eui64MAC ip]? with
    | some peer => rfl
    | none =>
      cases chosenPod state.endpoints ip destQPN with
      | some pod =>
        simp only [GoMap.getD_eq]
        cases state.byUID[pod.uid]? <;> rfl
      | none =>
        split_ifs <;> rfl

/-- The nodes of an address do not depend on the order of map ranges. -/
lemma nodes_buildEndpointIndex (runtime other : Runtime) (objects : List RdmaEndpoint) (now : Int) :
    (buildEndpointIndex runtime objects now).nodes =
      (buildEndpointIndex other objects now).nodes := by
  unfold buildEndpointIndex
  induction objects using reverseRecOn with
  | nil => rfl
  | append_singleton before last hypothesis =>
    rw [foldl_concat, foldl_concat, addObject, addObject]
    split_ifs
    · exact hypothesis
    · exact hypothesis
    · simp only [hypothesis]

lemma outcome_runtime (runtime other : Runtime) (objects : List RdmaEndpoint) (now : Int)
    (ip : String) (destQPN : UInt32) :
    outcome (buildEndpointIndex runtime objects now) ip destQPN =
      outcome (buildEndpointIndex other objects now) ip destQPN := by
  funext byIP byMAC byUID
  unfold outcome chosenPod
  rw [getD_buildEndpointIndex, getD_buildEndpointIndex, nodes_buildEndpointIndex runtime other]

lemma ne_blank_of_mem_distinctNormalized {normalize : String → String}
    {values : List String} (found : key ∈ distinctNormalized normalize values) : key ≠ "" := by
  unfold distinctNormalized at found
  induction values using reverseRecOn with
  | nil => simp at found
  | append_singleton before last hypothesis =>
    rw [foldl_concat] at found
    simp only at found
    split_ifs at found with skipped
    · exact hypothesis found
    · rcases mem_append.1 found with earlier | added
      · exact hypothesis earlier
      · rw [mem_singleton.1 added]
        exact fun blank => skipped (.inl blank)

lemma ne_blank_of_mem_hardwareKeys {decoder : AnnotationDecoder} {pod : Pod}
    (found : key ∈ hardwareKeys decoder pod) : key ≠ "" := by
  unfold hardwareKeys at found
  split_ifs at found
  · simp at found
  · exact ne_blank_of_mem_distinctNormalized found

/-- What a refresh from a list of Pods makes of a peer. -/
def outcomeOf (decoder : AnnotationDecoder) (toLower : String → String)
    (endpoints : EndpointIndex) (ip : String) (destQPN : UInt32)
    (pods : List Pod) : Peer × String :=
  outcome endpoints ip destQPN (lastPeer (addressKeys decoder) ip pods)
    (lastPeer (hardwareKeys decoder) (eui64MAC ip) pods)
    (fun uid => lastPeer (uidKeys toLower) uid pods)

lemma podForPeer_refresh (runtime : Runtime) (decoder : AnnotationDecoder)
    (toLower : String → String) (pods : List Pod) (topOwner : Pod → OwnerInfo)
    (objects : List RdmaEndpoint) (now : Int) (state : PeerIndexes) (ip : String)
    (destQPN : UInt32) :
    (podForPeer (refresh runtime decoder toLower
          { pods := some pods, topOwner, endpoints := some objects, now } state)
        ip destQPN).map Peer.withoutOwner id =
      outcomeOf decoder toLower (buildEndpointIndex runtime objects now) ip destQPN pods := by
  rw [podForPeer_eq_outcome]
  · simp only [refresh, outcomeOf]
    rw [withoutOwner_lastWriter (addressKeys decoder) fun _ => rfl,
      withoutOwner_lastWriter (hardwareKeys decoder) fun _ => rfl]
    simp only [withoutOwner_lastWriter (uidKeys toLower) fun _ => rfl]
  · simp only [refresh, getElem?_lastWriter, Option.map_eq_none_iff, lastWith,
      getLast?_eq_none_iff, filter_eq_nil_iff, decide_eq_true_eq]
    intro pod among blank
    exact ne_blank_of_mem_hardwareKeys blank rfl

/-! ## Which index decides -/

/--
The Pods which can be the result: those with the address, else those with the
hardware address in it, else those with the UID the reports pick.
-/
def DecidedByOne (decoder : AnnotationDecoder) (toLower : String → String)
    (endpoints : EndpointIndex) (ip : String) (destQPN : UInt32) (pods : List Pod) : Prop :=
  if ∃ pod ∈ pods, ip ∈ addressKeys decoder pod then
    AtMostOne (addressKeys decoder) ip pods
  else if ∃ pod ∈ pods, eui64MAC ip ∈ hardwareKeys decoder pod then
    AtMostOne (hardwareKeys decoder) (eui64MAC ip) pods
  else
    ∀ reported, chosenPod endpoints ip destQPN = some reported →
      AtMostOne (uidKeys toLower) reported.uid pods

/-- Behind a default, two orders still agree only if their last Pods do. -/
lemma getD_lastPeer_order_iff (unique : UniqueNames pods)
    (keysOf : Pod → List String) (key : String) (fallback : Peer) :
    (∀ order : List Pod, order.Perm pods → (lastPeer keysOf key order).getD fallback =
          (lastPeer keysOf key pods).getD fallback) ↔ AtMostOne keysOf key pods := by
  rw [← lastPeer_order_iff unique]
  refine forall₂_congr fun order perm => ?_
  have both := lastPeer_isSome_perm keysOf key perm
  cases found : lastPeer keysOf key order with
  | none =>
    cases listed : lastPeer keysOf key pods with
    | none => simp
    | some peer => simp [found, listed] at both
  | some peer =>
    cases listed : lastPeer keysOf key pods with
    | none => simp [found, listed] at both
    | some other => simp

lemma lastPeer_eq_none (perm : order.Perm pods) (absent : ¬ ∃ pod ∈ pods, key ∈ keysOf pod) :
    lastPeer keysOf key order = none := by
  rw [← Option.not_isSome_iff_eq_none, lastPeer_isSome_iff]
  simpa only [perm.mem_iff] using absent

lemma exists_lastPeer (perm : order.Perm pods) (present : ∃ pod ∈ pods, key ∈ keysOf pod) :
    ∃ peer, lastPeer keysOf key order = some peer := by
  rw [← Option.isSome_iff_exists, lastPeer_isSome_iff]
  simpa only [perm.mem_iff] using present

lemma outcomeOf_order_iff (decoder : AnnotationDecoder) (toLower : String → String)
    (endpoints : EndpointIndex) (ip : String) (destQPN : UInt32) (unique : UniqueNames pods) :
    (∀ order : List Pod, order.Perm pods → outcomeOf decoder toLower endpoints ip destQPN order =
          outcomeOf decoder toLower endpoints ip destQPN pods) ↔
      DecidedByOne decoder toLower endpoints ip destQPN pods := by
  unfold DecidedByOne
  split_ifs with addressed hardware
  · -- Every order finds a Pod by its address.
    rw [← lastPeer_order_iff unique]
    refine forall₂_congr fun order perm => ?_
    obtain ⟨peer, found⟩ := exists_lastPeer perm addressed
    obtain ⟨listed, foundListed⟩ := exists_lastPeer (.refl pods) addressed
    simp [outcomeOf, outcome, found, foundListed]
  · rw [← lastPeer_order_iff unique]
    refine forall₂_congr fun order perm => ?_
    obtain ⟨peer, found⟩ := exists_lastPeer perm hardware
    obtain ⟨listed, foundListed⟩ := exists_lastPeer (.refl pods) hardware
    simp [outcomeOf, outcome, found, foundListed,
      lastPeer_eq_none perm addressed, lastPeer_eq_none (.refl pods) addressed]
  · -- Only the reports are left to ask.
    have reported : ∀ order : List Pod, order.Perm pods →
        outcomeOf decoder toLower endpoints ip destQPN order =
          outcome endpoints ip destQPN none none
            (fun uid => lastPeer (uidKeys toLower) uid order) := by
      intro order perm
      rw [outcomeOf, lastPeer_eq_none perm addressed, lastPeer_eq_none perm hardware]
    cases chosen : chosenPod endpoints ip destQPN with
    | none =>
      refine iff_of_true (fun order perm => ?_) (by simp)
      rw [reported order perm, reported pods (.refl pods)]
      simp only [outcome, chosen]
    | some pod =>
      simp only [Option.some.injEq, forall_eq']
      rw [← getD_lastPeer_order_iff unique (uidKeys toLower) pod.uid
        (.ofLabel ("pod-uid:" ++ pod.uid))]
      refine forall₂_congr fun order perm => ?_
      rw [reported order perm, reported pods (.refl pods)]
      simp [outcome, chosen]

/-- The result of `podForPeer` is the same after both refreshes. -/
def SamePeer (decoder : AnnotationDecoder) (toLower : String → String)
    (objects : List RdmaEndpoint) (now : Int) (ip : String) (destQPN : UInt32)
    (pods order : List Pod) : Prop :=
  ∀ (runtime runtime' : Runtime) (topOwner topOwner' : Pod → OwnerInfo)
    (state state' : PeerIndexes),
    (podForPeer (refresh runtime decoder toLower
          { pods := some pods, topOwner, endpoints := some objects, now } state)
        ip destQPN).map Peer.withoutOwner id =
      (podForPeer (refresh runtime' decoder toLower
          { pods := some order, topOwner := topOwner',
            endpoints := some objects, now } state')
        ip destQPN).map Peer.withoutOwner id

/--
The Pod of a peer is independent of the order of the Pods exactly if the first
index which knows the peer has a single Pod for it.
-/
theorem podForPeer_order_independent_iff (decoder : AnnotationDecoder)
    (toLower : String → String) (objects : List RdmaEndpoint) (now : Int)
    (ip : String) (destQPN : UInt32) (pods : List Pod) (unique : UniqueNames pods) :
    (∀ order : List Pod, order.Perm pods →
        SamePeer decoder toLower objects now ip destQPN pods order) ↔ DecidedByOne decoder toLower
        (buildEndpointIndex Runtime.canonical objects now) ip destQPN pods := by
  rw [← outcomeOf_order_iff _ _ _ _ _ unique]
  refine forall₂_congr fun order perm => ?_
  unfold SamePeer
  simp only [podForPeer_refresh]
  constructor
  · intro same
    exact (same .canonical .canonical (fun _ => noOwner) (fun _ => noOwner)
      newPeerIndexes newPeerIndexes).symm
  · intro same runtime runtime' topOwner topOwner' state state'
    unfold outcomeOf at same ⊢
    rw [outcome_runtime runtime .canonical, outcome_runtime runtime' .canonical, same]

/-- A Pod of the default namespace with one address. -/
def addressedPod (name : String) (phase : PodPhase) (podIP : String) : Pod where
  namespaceName := "default"
  name := name
  uid := name
  annotations := ∅
  nodeName := "node-1"
  hostNetwork := false
  phase := phase
  podIP := podIP
  podIPs := [podIP]

/-- A decoder which reads no annotation. -/
def noAnnotations : AnnotationDecoder :=
  ⟨fun _ => none, fun _ => none, fun _ => none, fun _ => none⟩

/-- A finished Pod with an address of its own does not matter. -/
theorem podForPeer_order_independent_two_addresses :
    let done := addressedPod "done" .succeeded "10.0.0.1"
    let live := addressedPod "live" .running "10.0.0.2"
    UniqueNames [done, live] ∧
      SamePeer noAnnotations id [] 0 "10.0.0.2" 7 [done, live] [live, done] := by
  intro done live
  have unique : UniqueNames [done, live] := by
    unfold UniqueNames
    decide
  refine ⟨unique, (podForPeer_order_independent_iff noAnnotations id [] 0 _ _ _
    unique).mpr ?_ _ (List.Perm.swap _ _ _)⟩
  rw [DecidedByOne, if_pos (by decide +kernel)]
  unfold AtMostOne
  decide +kernel

/-- A finished Pod keeps its address, which a later Pod was given again. -/
theorem podForPeer_depends_on_order :
    let done := addressedPod "done" .succeeded "10.0.0.1"
    let live := addressedPod "live" .running "10.0.0.1"
    let found (pods : List Pod) := (podForPeer (refresh .canonical noAnnotations id
      { pods := some pods, topOwner := fun _ => noOwner, endpoints := some [], now := 0 }
      newPeerIndexes) "10.0.0.1" 7).1.name
    UniqueNames [done, live] ∧ ([done, live].map Pod.uid).Nodup ∧
      found [done, live] = "live" ∧ found [live, done] = "done" := by
  unfold UniqueNames
  decide +kernel

end Unifabric.EbpfFlow
