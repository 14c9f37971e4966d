import Unifabric.EbpfFlow.EndpointIndex

/-!
# Reported addresses resolve exactly

Which Pod an address resolves to, in terms of the objects alone.
-/

namespace Unifabric.EbpfFlow

open Lib GoMap Option
open List hiding cons getElem?_insert nil

variable {object : RdmaEndpoint} {destQPN : UInt32}

/-! ## What an object contributes -/

lemma mem_portVisits : visit ∈ portVisits object ↔
      ∃ iface ∈ object.status.interfaces, ∃ port ∈ iface.ports, ∃ address ∈ portAddresses port,
          { device := iface.rdmaDevice, port, address } = visit := by
  simp [portVisits, mem_flatMap]

/-- An object has a port which answers to an address. -/
def Answers (object : RdmaEndpoint) (address : String) : Prop :=
  ∃ iface ∈ object.status.interfaces, ∃ port ∈ iface.ports, address ∈ portAddresses port

/-- An object has a queue pair on a port which answers to an address. -/
def Serves (object : RdmaEndpoint) (address : String) (qpn : UInt32) : Prop :=
  ∃ iface ∈ object.status.interfaces, ∃ port ∈ iface.ports,
    address ∈ portAddresses port ∧ ∃ qp ∈ port.queuePairs, qp.qpn = qpn

lemma answers_iff_visit : Answers object address ↔
      ∃ visit ∈ portVisits object, visit.address = address := by
  constructor
  · rintro ⟨iface, listed, port, ofIface, answers⟩
    exact ⟨_, mem_portVisits.2 ⟨iface, listed, port, ofIface, address, answers, rfl⟩, rfl⟩
  · rintro ⟨visit, visited, rfl⟩
    obtain ⟨iface, listed, port, ofIface, address, answers, rfl⟩ := mem_portVisits.1 visited
    exact ⟨iface, listed, port, ofIface, answers⟩

lemma serves_iff_visit : Serves object address qpn ↔
      ∃ visit ∈ portVisits object, visit.address = address ∧
        ∃ qp ∈ visit.port.queuePairs, qp.qpn = qpn := by
  constructor
  · rintro ⟨iface, listed, port, ofIface, answers, qp⟩
    exact ⟨_, mem_portVisits.2 ⟨iface, listed, port, ofIface, address, answers, rfl⟩, rfl, qp⟩
  · rintro ⟨visit, visited, rfl, qp⟩
    obtain ⟨iface, listed, port, ofIface, address, answers, rfl⟩ := mem_portVisits.1 visited
    exact ⟨iface, listed, port, ofIface, answers, qp⟩

lemma isSome_qpns_addPort (pod : ReportedPod) (visit : PortVisit) (qpn : UInt32) :
    ((pod.addPort visit).qpns[qpn.toNat]?).isSome ↔ (pod.qpns[qpn.toNat]?).isSome ∨
        ∃ qp ∈ visit.port.queuePairs, qp.qpn = qpn := by
  rw [ReportedPod.addPort]
  induction visit.port.queuePairs using reverseRecOn with
  | nil => simp
  | append_singleton before last ih =>
    rw [foldl_append, foldl_cons, foldl_nil, getElem?_insert]
    by_cases same : last.qpn = qpn
    · rw [if_pos (congrArg UInt32.toNat same)]
      simp [same]
    · rw [if_neg fun equal => same (UInt32.toNat_inj.1 equal), ih]
      simp [same]

lemma getElem?_visits (fresh : ReportedPod) (empty : fresh.qpns = ∅)
    (visits : List PortVisit) (address : String) :
    let found := (visits.foldl (fun byAddress visit =>
        byAddress.insert visit.address ((byAddress.getD visit.address fresh).addPort visit))
      (∅ : GoMap String ReportedPod))[address]?
    (found.isSome ↔ ∃ visit ∈ visits, visit.address = address) ∧
      (found.getD fresh).uid = fresh.uid ∧
      ∀ qpn : UInt32, ((found.getD fresh).qpns[qpn.toNat]?).isSome ↔
        ∃ visit ∈ visits, visit.address = address ∧ ∃ qp ∈ visit.port.queuePairs, qp.qpn = qpn := by
  induction visits using reverseRecOn with
  | nil => simp [empty]
  | append_singleton before last ih =>
    obtain ⟨seen, uid, qpns⟩ := ih
    simp only [foldl_append, foldl_cons, foldl_nil, getElem?_insert]
    generalize before.foldl _ (∅ : GoMap String ReportedPod) = byAddress at seen uid qpns ⊢
    by_cases same : last.address = address
    · subst same
      refine ⟨by simp, ?_, ?_⟩
      · simp only [if_true, getD_some, getD_eq]
        exact uid
      · intro qpn
        simp only [if_true, getD_some, getD_eq, isSome_qpns_addPort, qpns, mem_append,
          mem_singleton]
        constructor
        · rintro (⟨visit, visited, rest⟩ | qp)
          · exact ⟨visit, .inl visited, rest⟩
          · exact ⟨last, .inr rfl, rfl, qp⟩
        · rintro ⟨visit, visited | rfl, at_, qp⟩
          · exact .inl ⟨visit, visited, at_, qp⟩
          · exact .inr qp
    · simp only [if_neg same]
      have others : ∀ (P : PortVisit → Prop), (∃ visit ∈ before ++ [last], visit.address = address ∧
            P visit) ↔
          ∃ visit ∈ before, visit.address = address ∧ P visit := by
        intro P
        constructor
        · rintro ⟨visit, visited, at_, rest⟩
          rcases mem_append.1 visited with old | new
          · exact ⟨visit, old, at_, rest⟩
          · rw [mem_singleton.1 new] at at_
            exact absurd at_ same
        · rintro ⟨visit, visited, rest⟩
          exact ⟨visit, mem_append_left _ visited, rest⟩
      refine ⟨?_, uid, ?_⟩
      · rw [seen]
        simpa only [and_true] using (others fun _ => True).symm
      · intro qpn
        rw [qpns, others]

lemma entryOf_eq_some (found : entryOf now address object = some pod) :
    object.isStale now = false ∧ podUIDOf object ≠ "" ∧
      Answers object address ∧ pod.uid = podUIDOf object ∧
      ∀ qpn, pod.hasQPN qpn = true ↔ qpn ≠ 0 ∧ Serves object address qpn := by
  rw [entryOf] at found
  split_ifs at found with skipped
  rw [not_or, Bool.not_eq_true] at skipped
  have known := getElem?_visits
    { uid := podUIDOf object
      node := object.status.nodeName
      devices := []
      qpns := ∅ } rfl (portVisits object) address
  rw [← podsByAddress, found] at known
  obtain ⟨seen, uid, qpns⟩ := known
  refine ⟨skipped.1, skipped.2, ?_, uid, ?_⟩
  · rw [answers_iff_visit]
    exact seen.1 rfl
  · intro qpn
    rw [serves_iff_visit, ← qpns qpn]
    simp [ReportedPod.hasQPN]

lemma exists_entryOf (fresh : object.isStale now = false) (owned : podUIDOf object ≠ "")
    (answers : Answers object address) : ∃ pod, entryOf now address object = some pod := by
  have known := (getElem?_visits
    { uid := podUIDOf object
      node := object.status.nodeName
      devices := []
      qpns := ∅ } rfl (portVisits object) address).1.2
    (answers_iff_visit.1 answers)
  rw [entryOf, if_neg (by simp [fresh, owned])]
  exact isSome_iff_exists.1 known

/-! ## Which Pod is picked -/

section

variable (objects : List RdmaEndpoint) (now : Int) (address : String)

/-- A Pod of a fresh object with a port which answers to the address. -/
def HoldsAddress (uid : String) : Prop :=
  ∃ object ∈ objects, object.isStale now = false ∧
    podUIDOf object = uid ∧ uid ≠ "" ∧ Answers object address

/-- Such a Pod with the queue pair on such a port. -/
def HoldsQueuePair (destQPN : UInt32) (uid : String) : Prop :=
  destQPN ≠ 0 ∧ ∃ object ∈ objects, object.isStale now = false ∧
    podUIDOf object = uid ∧ uid ≠ "" ∧ Serves object address destQPN

/-- A property only one Pod has. -/
def IsOnly (property : String → Prop) (uid : String) : Prop :=
  property uid ∧ ∀ other, property other → other = uid

/--
The only Pod with the queue pair, or else the only Pod with the address.
-/
def Picked (destQPN : UInt32) (uid : String) : Prop :=
  IsOnly (HoldsQueuePair objects now address destQPN) uid ∨ (¬ ∃ other,
        IsOnly (HoldsQueuePair objects now address destQPN) other) ∧
      IsOnly (HoldsAddress objects now address) uid

end

lemma Serves.answers (serves : Serves object address qpn) : Answers object address := by
  obtain ⟨iface, listed, port, ofIface, answers, _⟩ := serves
  exact ⟨iface, listed, port, ofIface, answers⟩

section

variable {objects : List RdmaEndpoint} {now : Int} {address : String}

lemma mem_uids_iff : uid ∈ (objects.filterMap (entryOf now address)).map ReportedPod.uid ↔
      HoldsAddress objects now address uid := by
  rw [List.mem_map]
  constructor
  · rintro ⟨pod, listed, rfl⟩
    obtain ⟨object, published, found⟩ := List.mem_filterMap.1 listed
    obtain ⟨fresh, owned, answers, uid, _⟩ := entryOf_eq_some found
    exact ⟨object, published, fresh, uid.symm, uid ▸ owned, answers⟩
  · rintro ⟨object, published, fresh, rfl, owned, answers⟩
    obtain ⟨pod, found⟩ := exists_entryOf fresh owned answers
    obtain ⟨_, _, _, uid, _⟩ := entryOf_eq_some found
    exact ⟨pod, List.mem_filterMap.2 ⟨object, published, found⟩, uid⟩

lemma mem_matched_uids_iff : uid ∈ ((objects.filterMap (entryOf now address)).filter
        fun pod => pod.hasQPN destQPN).map ReportedPod.uid ↔
      HoldsQueuePair objects now address destQPN uid := by
  rw [List.mem_map]
  constructor
  · rintro ⟨pod, listed, rfl⟩
    obtain ⟨candidate, matched⟩ := List.mem_filter.1 listed
    obtain ⟨object, published, found⟩ := List.mem_filterMap.1 candidate
    obtain ⟨fresh, owned, _, uid, qpns⟩ := entryOf_eq_some found
    obtain ⟨nonzero, serves⟩ := (qpns destQPN).1 matched
    exact ⟨nonzero, object, published, fresh, uid.symm, uid ▸ owned, serves⟩
  · rintro ⟨nonzero, object, published, fresh, rfl, owned, serves⟩
    obtain ⟨pod, found⟩ := exists_entryOf fresh owned serves.answers
    obtain ⟨_, _, _, uid, qpns⟩ := entryOf_eq_some found
    exact ⟨pod, List.mem_filter.2 ⟨List.mem_filterMap.2 ⟨object, published, found⟩,
      (qpns destQPN).2 ⟨nonzero, serves⟩⟩, uid⟩

lemma uids_nodup (distinct : (objects.map podUIDOf).Nodup) :
    ((objects.filterMap (entryOf now address)).map ReportedPod.uid).Nodup := by
  induction objects with
  | nil => simp
  | cons first rest ih =>
    rw [map_cons, nodup_cons] at distinct
    cases found : entryOf now address first with
    | none =>
      rw [filterMap_cons_none found]
      exact ih distinct.2
    | some pod =>
      rw [filterMap_cons_some found, map_cons, nodup_cons]
      refine ⟨?_, ih distinct.2⟩
      intro again
      obtain ⟨object, published, _, owner, _⟩ := mem_uids_iff.1 again
      obtain ⟨_, _, _, uid, _⟩ := entryOf_eq_some found
      exact distinct.1 (mem_map.2 ⟨object, published, owner.trans uid⟩)

end

lemma soleElement_key (distinct : (pods.map ReportedPod.uid).Nodup) (uid : String) :
    (soleElement pods).map ReportedPod.uid = some uid ↔
      IsOnly (fun other => other ∈ pods.map ReportedPod.uid) uid := by
  cases pods with
  | nil => simp [soleElement, IsOnly]
  | cons first rest =>
    cases rest with
    | nil =>
      simp only [soleElement, IsOnly, map_some, some.injEq, map_cons, map_nil, mem_singleton]
      constructor
      · rintro rfl
        exact ⟨rfl, fun other equal => equal⟩
      · rintro ⟨equal, _⟩
        exact equal.symm
    | cons second others =>
      simp only [soleElement, map_none, reduceCtorEq, false_iff]
      rintro ⟨_, only⟩
      have left := only first.uid (by simp)
      have right := only second.uid (by simp)
      rw [map_cons, map_cons, nodup_cons] at distinct
      exact distinct.1 (by rw [left, ← right]; exact mem_cons_self)

lemma chosenPod_eq_some_iff (runtime : Runtime) (distinct : (objects.map podUIDOf).Nodup)
    (now : Int) (address : String) (destQPN : UInt32) (uid : String) :
    (chosenPod (buildEndpointIndex runtime objects now) address destQPN).map
        ReportedPod.uid = some uid ↔ Picked objects now address destQPN uid := by
  have pods : ((objects.filterMap (entryOf now address)).map
    ReportedPod.uid).Nodup := uids_nodup distinct
  have matched : (((objects.filterMap (entryOf now address)).filter
      fun pod => pod.hasQPN destQPN).map ReportedPod.uid).Nodup :=
    pods.sublist (filter_sublist.map _)
  have byQueuePair := soleElement_key matched
  have byAddress := soleElement_key pods
  simp only [mem_matched_uids_iff] at byQueuePair
  simp only [mem_uids_iff] at byAddress
  rw [chosenPod, getD_buildEndpointIndex, map_or, Picked]
  cases first : (soleElement ((objects.filterMap
      (entryOf now address)).filter fun pod => pod.hasQPN destQPN)).map ReportedPod.uid with
  | some other =>
    have only := (byQueuePair other).1 first
    rw [some_or, some.injEq]
    constructor
    · rintro rfl
      exact .inl only
    · rintro (same | ⟨none, _⟩)
      · exact same.2 other only.1
      · exact absurd ⟨other, only⟩ none
  | none =>
    have noOther : ¬ ∃ other, IsOnly (HoldsQueuePair objects now address destQPN) other := by
      rintro ⟨other, only⟩
      rw [(byQueuePair other).2 only] at first
      cases first
    rw [none_or, byAddress]
    constructor
    · exact fun only => .inr ⟨noOther, only⟩
    · rintro (only | ⟨_, only⟩)
      · exact absurd ⟨uid, only⟩ noOther
      · exact only

/-- Neither the order of the objects nor that of the maps matters. -/
lemma chosenPod_perm (runtime other : Runtime) (same : objects.Perm permuted) (now : Int)
    (address : String) (destQPN : UInt32) :
    chosenPod (buildEndpointIndex runtime objects now) address destQPN =
      chosenPod (buildEndpointIndex other permuted now) address destQPN := by
  have pods := same.filterMap (entryOf now address)
  rw [chosenPod, chosenPod, getD_buildEndpointIndex, getD_buildEndpointIndex]
  rw [soleElement_perm pods, soleElement_perm (pods.filter _)]

lemma podForReportedAddress_of_chosen (chosen : chosenPod index address destQPN = some pod)
    (byUID : GoMap String Peer) : podForReportedAddress index byUID address destQPN =
      (byUID.getD pod.uid (.ofLabel ("pod-uid:" ++ pod.uid)), pod.deviceFor destQPN, true) := by
  rw [podForReportedAddress, chosen]

lemma podForReportedAddress_of_none (chosen : chosenPod index address destQPN = none)
    (byUID : GoMap String Peer) : (podForReportedAddress index byUID address destQPN).1.isPod =
      false := by
  rw [podForReportedAddress, chosen]
  dsimp only
  split_ifs
  · rfl
  · rfl

/--
For objects with distinct owners, a reported address resolves to the Pod the
fresh reports single out and to no Pod if they single out none, in whatever
order the objects and the maps are visited.
-/
theorem podForReportedAddress_picks (runtime other : Runtime)
    (objects permuted : List RdmaEndpoint) (now : Int)
    (byUID : GoMap String Peer) (address : String) (destQPN : UInt32)
    (distinct : (objects.map podUIDOf).Nodup)
    (same : objects.Perm permuted) :
    let index := buildEndpointIndex runtime objects now
    let index' := buildEndpointIndex other permuted now
    (∀ uid, (chosenPod index address destQPN).map ReportedPod.uid =
        some uid ↔ Picked objects now address destQPN uid) ∧
    (∀ uid, Picked objects now address destQPN uid → ∃ device,
        podForReportedAddress index byUID address destQPN =
            (byUID.getD uid (.ofLabel ("pod-uid:" ++ uid)), device, true) ∧
          podForReportedAddress index' byUID address destQPN =
            podForReportedAddress index byUID address destQPN) ∧
    ((∀ uid, ¬ Picked objects now address destQPN uid) →
      (podForReportedAddress index byUID address destQPN).1.isPod = false ∧
        (podForReportedAddress index' byUID address destQPN).1.isPod = false) := by
  intro index index'
  have picks := chosenPod_eq_some_iff runtime distinct now address destQPN
  have order : chosenPod index' address destQPN = chosenPod index address destQPN :=
    (chosenPod_perm runtime other same now address destQPN).symm
  refine ⟨picks, ?_, ?_⟩
  · intro uid picked
    rcases Option.map_eq_some_iff.mp ((picks uid).mpr picked) with ⟨pod, chosen, rfl⟩
    refine ⟨pod.deviceFor destQPN, podForReportedAddress_of_chosen chosen byUID, ?_⟩
    rw [podForReportedAddress_of_chosen chosen byUID,
      podForReportedAddress_of_chosen (order.trans chosen) byUID]
  · intro unpicked
    have chosen : chosenPod index address destQPN = none := by
      cases found : chosenPod index address destQPN with
      | none => rfl
      | some pod =>
        refine absurd ((picks pod.uid).mp ?_) (unpicked pod.uid)
        exact Option.map_eq_some_iff.mpr ⟨pod, found, rfl⟩
    exact ⟨podForReportedAddress_of_none chosen byUID,
      podForReportedAddress_of_none (order.trans chosen) byUID⟩

/-- An object whose only port answers to `fe80::1`. -/
def sharedEndpoint (uid : String) (qpn : UInt32) : RdmaEndpoint :=
  { namespaceName := "default"
    name := uid
    labels := ∅
    ownerReferences :=
      [{ apiVersion := "v1", kind := "Pod", name := uid, uid,
         controller := true, blockOwnerDeletion := false }]
    status :=
      { nodeName := "node"
        hostNetwork := false
        lastUpdateTime := 0
        interfaces :=
          [{ name := "net0"
             rdmaDevice := "mlx5_0"
             ports :=
               [{ port := 1
                  linkLayer := .ethernet
                  lid := 0
                  subnetPrefix := ""
                  gids := [{ index := 0, gid := "fe80::1" }]
                  queuePairs := [{ qpn, pid := 1 }] }] }] } }

theorem podForReportedAddress_picks_shared : ∃ device, podForReportedAddress
          (buildEndpointIndex .canonical [sharedEndpoint "a" 4, sharedEndpoint "b" 5] 0)
          ∅ "fe80::1" 5 = (.ofLabel "pod-uid:b", device, true) := by
  have picks := podForReportedAddress_picks .canonical .canonical
    [sharedEndpoint "a" 4, sharedEndpoint "b" 5]
    [sharedEndpoint "a" 4, sharedEndpoint "b" 5] 0 ∅ "fe80::1" 5
    (by decide) (List.Perm.refl _)
  rcases picks.2.1 "b" ((picks.1 "b").mp (by decide +kernel)) with ⟨device, resolved, _⟩
  exact ⟨device, resolved⟩

end Unifabric.EbpfFlow
