import Unifabric.SwitchAgent.Lldp
import Unifabric.SwitchTopology.Subscription

/-!
# Snapshots the controller accepts

`normalizeSnapshotNeighbors` rejects a snapshot with an entry without a remote
name, and the agent copies the name from the document as it is.  What it
accepts it summarizes: one neighbour for each name, with the number of links.
-/

namespace Unifabric.SwitchTopology

open Lib V1beta1 SwitchAgent
open List hiding after beq_eq_decide count keys lt_of_le_of_lt next

variable {runtime : Runtime} {snapshot : LldpNeighborSnapshot} {neighbors : List SwitchNeighbor}

section

variable {ignoreSwitchPorts : List String} {nodeNames normalizedNodeNames : GoMap String Bool}

/-- Whether the entries which are not ignored all have a remote name. -/
def NamedEntries (ignoreSwitchPorts : List String)
    (neighbors : List SwitchAgent.LldpNeighbor) : Prop :=
  ∀ neighbor ∈ neighbors, shouldIgnoreSwitchPort neighbor.localPort ignoreSwitchPorts = false →
      neighbor.remoteSystemName ≠ ""

lemma countNeighbor_eq_error :
    countNeighbor ignoreSwitchPorts nodeNames normalizedNodeNames counts neighbor = .error error ↔
      shouldIgnoreSwitchPort neighbor.localPort ignoreSwitchPorts = false ∧
        neighbor.remoteSystemName = "" ∧ error = malformedNeighbor := by
  unfold countNeighbor
  split_ifs with ignored unnamed
  · simp [ignored]
  · simp [ignored, unnamed, eq_comm]
  · simp [unnamed]

lemma normalizeSnapshotNeighbors_accepts_iff (runtime : Runtime) (snapshot : LldpNeighborSnapshot) :
    (∃ neighbors, normalizeSnapshotNeighbors runtime snapshot ignoreSwitchPorts
          nodeNames normalizedNodeNames = .ok neighbors) ↔
      NamedEntries ignoreSwitchPorts snapshot.lldpNeighbors := by
  constructor
  · rintro ⟨neighbors, accepted⟩ neighbor among notIgnored unnamed
    obtain ⟨counts, counted, _⟩ := bind_eq_ok.1 accepted
    obtain ⟨before, after, stepped⟩ := exists_step_of_foldlM counted among
    rw [countNeighbor_eq_error.2 ⟨notIgnored, unnamed, rfl⟩] at stepped
    cases stepped
  · intro named
    have counted : ∃ counts, snapshot.lldpNeighbors.foldlM
        (countNeighbor ignoreSwitchPorts nodeNames normalizedNodeNames)
        { order := [], linkCounts := ∅ } = .ok counts := by
      apply foldlM_succeeds_of_forall
      intro neighbor among counts
      cases stepped : countNeighbor ignoreSwitchPorts nodeNames
          normalizedNodeNames counts neighbor with
      | ok next => exact ⟨next, rfl⟩
      | error error =>
        obtain ⟨notIgnored, unnamed, _⟩ := countNeighbor_eq_error.1 stepped
        exact absurd unnamed (named neighbor among notIgnored)
    obtain ⟨counts, counted⟩ := counted
    exact ⟨_, bind_eq_ok.2 ⟨counts, counted, rfl⟩⟩

end

/-! ## What the agent sends -/

/-- Whether the interfaces which are reported and not ignored have a name. -/
def NamedInterfaces (ignoreSwitchPorts : List String) (response : LldpJson0Response) : Prop :=
  ∀ lldpData ∈ response.lldp, ∀ iface ∈ lldpData.interface,
    ∀ chassis port name id, iface.chassis.head? = some chassis →
      iface.port.head? = some port → chassis.name.head? = some name →
      port.id.head? = some id →
      shouldIgnoreSwitchPort iface.name ignoreSwitchPorts = false → name ≠ ""

lemma namedEntries_collectNeighbors (agent : Runtime) (switchName : String)
    (ignoreSwitchPorts : List String) (response : LldpJson0Response) :
    NamedEntries ignoreSwitchPorts (collectNeighbors agent switchName response).lldpNeighbors ↔
      NamedInterfaces ignoreSwitchPorts response := by
  constructor
  · intro named lldpData listed iface ofData chassis port name id hasChassis
      hasPort hasName hasId notIgnored
    exact named _ (mem_collectNeighbors.2 ⟨lldpData, listed, iface, ofData,
      interfaceNeighbor_eq_some.2 ⟨chassis, port, name, id, hasChassis,
        hasPort, hasName, hasId, rfl⟩⟩) notIgnored
  · intro named neighbor among notIgnored
    obtain ⟨lldpData, listed, iface, ofData, found⟩ := mem_collectNeighbors.1 among
    obtain ⟨chassis, port, name, id, hasChassis, hasPort, hasName, hasId,
      rfl⟩ := interfaceNeighbor_eq_some.1 found
    exact named lldpData listed iface ofData chassis port name id hasChassis
      hasPort hasName hasId notIgnored

/--
The controller accepts the snapshot of a document exactly if every interface
which is reported and not ignored has a remote name which is not empty.
-/
theorem snapshot_accepted_iff_named (agent controller : Runtime)
    (unmarshal : List UInt8 → Except String LldpJson0Response)
    (switchName : String) (generation : UInt64) (output : List UInt8)
    (ignoreSwitchPorts : List String) (nodeNames normalizedNodeNames : GoMap String Bool)
    (snapshot : LldpNeighborSnapshot)
    (parsed : parseSnapshot agent unmarshal switchName generation output = .ok snapshot) :
    (∃ neighbors, normalizeSnapshotNeighbors controller snapshot ignoreSwitchPorts
          nodeNames normalizedNodeNames = .ok neighbors) ↔
      ∀ response, unmarshal output = .ok response → NamedInterfaces ignoreSwitchPorts response := by
  unfold parseSnapshot at parsed
  cases decoded : unmarshal output with
  | error message =>
    rw [decoded] at parsed
    cases parsed
  | ok response =>
    rw [decoded] at parsed
    obtain rfl := Except.ok.inj parsed
    rw [normalizeSnapshotNeighbors_accepts_iff]
    simp only [Except.ok.injEq, forall_eq']
    exact namedEntries_collectNeighbors agent switchName ignoreSwitchPorts response

/-- A document with one interface. -/
def oneInterface (name : String) : LldpJson0Response :=
  ⟨[⟨[⟨"Ethernet1", [⟨[name]⟩], [⟨["Ethernet49"]⟩]⟩]⟩]⟩

/-- The text of the document. -/
def interfaceDocument (name : String) : List UInt8 :=
  ("\x7b\"lldp\":[\x7b\"interface\":[\x7b\"name\":\"Ethernet1\",\"chassis\":[\x7b\"name\":" ++
    "[\x7b\"value\":\"" ++ name ++ "\"\x7d]\x7d],\"port\":[\x7b\"id\":[\x7b\"value\":" ++
    "\"Ethernet49\"\x7d]\x7d]\x7d]\x7d]\x7d").toByteArray.data.toList

/-- A decoder which knows two documents. -/
def decodeDocument (output : List UInt8) : Except String LldpJson0Response :=
  match ["spine-1", ""].find? fun name => interfaceDocument name = output with
  | some name => .ok (oneInterface name)
  | none => .error "unexpected end of JSON input"

lemma decodeDocument_spine :
    decodeDocument (interfaceDocument "spine-1") = .ok (oneInterface "spine-1") := by
  decide +kernel

/-- The snapshot of a document with a named neighbour is accepted. -/
theorem snapshot_accepted_named_interface : ∃ snapshot,
      parseSnapshot .canonical decodeDocument "leaf-1" 1 (interfaceDocument "spine-1") =
          .ok snapshot ∧
        ∃ neighbors, normalizeSnapshotNeighbors .canonical snapshot [] ∅ ∅ = .ok neighbors := by
  have parsed : parseSnapshot .canonical decodeDocument "leaf-1" 1 (interfaceDocument "spine-1") =
      .ok (collectSnapshot (collectNeighbors .canonical "leaf-1" (oneInterface "spine-1")) 1) := by
    rw [parseSnapshot, decodeDocument_spine]
  refine ⟨_, parsed, (snapshot_accepted_iff_named .canonical .canonical decodeDocument "leaf-1" 1 _
    [] ∅ ∅ _ parsed).mpr ?_⟩
  intro response decoded
  cases decodeDocument_spine.symm.trans decoded
  intro lldpData listed iface ofData chassis port name id hasChassis hasPort hasName hasId _
  simp only [oneInterface, mem_singleton] at listed
  subst listed
  simp only [mem_singleton] at ofData
  subst ofData
  cases hasChassis
  cases hasName
  decide

/-- A neighbour which announces an empty name has the snapshot rejected. -/
theorem snapshot_rejected_empty_name :
    (parseSnapshot .canonical decodeDocument "leaf-1" 1 (interfaceDocument "")).toOption.map
        (fun snapshot => normalizeSnapshotNeighbors .canonical snapshot [] ∅ ∅) =
      some (.error malformedNeighbor) := by
  decide +kernel

/-! ## The summary of a snapshot -/

/-- What the neighbours of a Switch are sorted by. -/
def neighborIndex (neighbor : SwitchNeighbor) : Lex (String × String) :=
  toLex (typeText neighbor, neighbor.remoteSystemName)

section

variable (ignoreSwitchPorts : List String) (nodeNames normalizedNodeNames : GoMap String Bool)

/-- The entries of a snapshot whose port is not ignored. -/
def countedEntries (neighbors : List SwitchAgent.LldpNeighbor) : List SwitchAgent.LldpNeighbor :=
  neighbors.filter fun neighbor => !shouldIgnoreSwitchPort neighbor.localPort ignoreSwitchPorts

/-- The key under which a name is counted. -/
def nameKey (name : String) : NeighborKey :=
  ⟨classifyRemoteSystemType name nodeNames normalizedNodeNames, name⟩

/-- The keys which are counted, one for each entry. -/
def countedKeys (neighbors : List SwitchAgent.LldpNeighbor) : List NeighborKey :=
  (countedEntries ignoreSwitchPorts neighbors).map fun neighbor =>
    nameKey nodeNames normalizedNodeNames neighbor.remoteSystemName

/-- The variables of the loop after a list of keys. -/
structure LinkCounts.Counts (counts : LinkCounts) (keys : List NeighborKey) :
    Prop where
  distinct : counts.order.Nodup
  listed : ∀ key, key ∈ counts.order ↔ key ∈ keys
  counted : ∀ key : NeighborKey, counts.linkCounts.getD key.index 0 = Int32.ofNat (keys.count key)

/-- The neighbour which is stored for a key. -/
def neighborOf (keys : List NeighborKey) (key : NeighborKey) : SwitchNeighbor where
  remoteSystemType := some key.remoteSystemType
  remoteSystemName := key.remoteSystemName
  linkCount := Int32.ofNat (keys.count key)

variable {ignoreSwitchPorts nodeNames normalizedNodeNames}

lemma index_injective : NeighborKey.index.Injective := by
  rintro ⟨leftType, leftName⟩ ⟨rightType, rightName⟩ same
  simp only [NeighborKey.index, toLex_inj, Prod.mk.injEq] at same
  obtain ⟨sameText, rfl⟩ := same
  cases leftType <;> cases rightType <;> simp_all [RemoteSystemType.text]

lemma neighborLess_eq : neighborLess = fun left right =>
    decide (neighborIndex left < neighborIndex right) := by
  funext left right
  rw [neighborLess, neighborIndex, neighborIndex, Bool.eq_iff_iff,
    decide_eq_true_iff, Prod.Lex.toLex_lt_toLex]
  split_ifs with different
  · simp [different]
  · rw [not_not] at different
    simp [different]

lemma ofNat_eq_zero_iff (small : count < 2 ^ 31) : Int32.ofNat count = 0 ↔ count = 0 := by
  rw [← Int32.toInt_inj, Int32.toInt_ofNat_of_lt small, Int32.toInt_zero]
  exact Int.natCast_eq_zero

lemma LinkCounts.Counts.append {counts : LinkCounts} (ok : counts.Counts keys)
    (small : keys.length < 2 ^ 31) (key : NeighborKey) :
    LinkCounts.Counts
      { order := if counts.linkCounts.getD key.index 0 = 0 then
            counts.order ++ [key] else counts.order
        linkCounts := counts.linkCounts.insert key.index (counts.linkCounts.getD key.index 0 + 1) }
      (keys ++ [key]) := by
  have isNew : counts.linkCounts.getD key.index 0 = 0 ↔ key ∉ keys := by
    rw [ok.counted, ofNat_eq_zero_iff
      (lt_of_le_of_lt count_le_length small), count_eq_zero]
  refine ⟨?_, fun other => ?_, fun other => ?_⟩
  · split_ifs with absent
    · exact nodup_append_comm.1 (nodup_cons.2
        ⟨fun among => isNew.1 absent ((ok.listed key).1 among), ok.distinct⟩)
    · exact ok.distinct
  · split_ifs with absent
    · simp [ok.listed]
    · rw [isNew, not_not] at absent
      simp only [ok.listed, mem_append, mem_singleton]
      exact ⟨.inl, fun member => member.elim id fun same => same ▸ absent⟩
  · rw [GoMap.getD_insert, count_append, count_singleton]
    by_cases same : key = other
    · subst same
      simp [ok.counted, Int32.ofNat_add]
    · simp [index_injective.ne same, ok.counted, same]

lemma count_countedKeys (neighbors : List SwitchAgent.LldpNeighbor) (name : String) :
    (countedKeys ignoreSwitchPorts nodeNames normalizedNodeNames
        neighbors).count (nameKey nodeNames normalizedNodeNames name) =
      (countedEntries ignoreSwitchPorts neighbors).countP fun entry =>
        entry.remoteSystemName = name := by
  rw [countedKeys, List.count, countP_map]
  congr 1
  funext entry
  simp only [Function.comp_apply, nameKey, beq_eq_decide]
  grind

lemma exists_order_of_accepted (small : snapshot.lldpNeighbors.length < 2 ^ 31)
    (accepted : normalizeSnapshotNeighbors runtime snapshot ignoreSwitchPorts
      nodeNames normalizedNodeNames = .ok neighbors) :
    ∃ order : List NeighborKey, order.Nodup ∧ (∀ key, key ∈ order ↔
        key ∈ countedKeys ignoreSwitchPorts nodeNames normalizedNodeNames snapshot.lldpNeighbors) ∧
      neighbors = runtime.sortSlice neighborLess (order.map (neighborOf
        (countedKeys ignoreSwitchPorts nodeNames normalizedNodeNames snapshot.lldpNeighbors))) := by
  obtain ⟨counts, counted, same⟩ := bind_eq_ok.1 accepted
  have ok := foldlM_prefix_induction counted
    (fun done counts => counts.Counts (countedKeys ignoreSwitchPorts nodeNames
      normalizedNodeNames done))
    ⟨nodup_nil, fun _ => Iff.rfl, fun _ => rfl⟩ (by
      intro done neighbor rest counts next split ok stepped
      have short : (countedKeys ignoreSwitchPorts nodeNames
          normalizedNodeNames done).length < 2 ^ 31 := by
        refine lt_of_le_of_lt ?_ small
        rw [split, countedKeys, length_map, length_append]
        exact le_add_right (length_filter_le _ _)
      unfold countNeighbor at stepped
      split_ifs at stepped with ignored unnamed
      · obtain rfl := Except.ok.inj stepped
        simpa [countedKeys, countedEntries, ignored] using ok
      · obtain rfl := Except.ok.inj stepped
        have extended : countedKeys ignoreSwitchPorts nodeNames
            normalizedNodeNames (done ++ [neighbor]) =
              countedKeys ignoreSwitchPorts nodeNames normalizedNodeNames
                done ++ [nameKey nodeNames normalizedNodeNames neighbor.remoteSystemName] := by
          simp [countedKeys, countedEntries, ignored]
        rw [extended]
        exact ok.append short _)
  refine ⟨counts.order, ok.distinct, ok.listed, ?_⟩
  rw [← Except.ok.inj same]
  simp only [ok.counted]
  rfl

lemma namedEntries_iff {neighbors : List SwitchAgent.LldpNeighbor} :
    NamedEntries ignoreSwitchPorts neighbors ↔ ∀ entry ∈ countedEntries ignoreSwitchPorts neighbors,
        entry.remoteSystemName ≠ "" := by
  simp [NamedEntries, countedEntries]

lemma normalizeSnapshotNeighbors_eq_error_iff {error : SubscriptionError} :
    normalizeSnapshotNeighbors runtime snapshot ignoreSwitchPorts nodeNames
        normalizedNodeNames = .error error ↔
      error = malformedNeighbor ∧ ¬ NamedEntries ignoreSwitchPorts snapshot.lldpNeighbors := by
  rw [← @normalizeSnapshotNeighbors_accepts_iff ignoreSwitchPorts nodeNames
    normalizedNodeNames runtime snapshot]
  cases result : normalizeSnapshotNeighbors runtime snapshot
      ignoreSwitchPorts nodeNames normalizedNodeNames with
  | ok neighbors => simp
  | error failure =>
    rcases bind_eq_error.1 result with failed | ⟨_, _, failed⟩
    · obtain ⟨entry, _, counts, stepped⟩ := foldlM_eq_error failed
      rw [(countNeighbor_eq_error.1 stepped).2.2]
      simp [eq_comm]
    · cases failed

lemma normalizeSnapshotNeighbors_perm {snapshot' : LldpNeighborSnapshot}
    (small : snapshot.lldpNeighbors.length < 2 ^ 31)
    (same : snapshot'.lldpNeighbors.Perm snapshot.lldpNeighbors)
    (accepted : normalizeSnapshotNeighbors runtime snapshot ignoreSwitchPorts
      nodeNames normalizedNodeNames = .ok neighbors)
    (accepted' : normalizeSnapshotNeighbors runtime snapshot'
      ignoreSwitchPorts nodeNames normalizedNodeNames = .ok neighbors') :
    neighbors' = neighbors := by
  obtain ⟨order, distinct, listed, rfl⟩ := exists_order_of_accepted small accepted
  obtain ⟨order', distinct', listed', rfl⟩ :=
    exists_order_of_accepted (same.length_eq ▸ small) accepted'
  have sameKeys : (countedKeys ignoreSwitchPorts nodeNames normalizedNodeNames
      snapshot'.lldpNeighbors).Perm (countedKeys ignoreSwitchPorts nodeNames
        normalizedNodeNames snapshot.lldpNeighbors) :=
    (same.filter _).map _
  have sameOrder : order'.Perm order :=
    (perm_ext_iff_of_nodup distinct' distinct).2 fun key => by
      rw [listed, listed', sameKeys.mem_iff]
  have sameCounts : neighborOf (countedKeys ignoreSwitchPorts nodeNames
      normalizedNodeNames snapshot'.lldpNeighbors) =
        neighborOf (countedKeys ignoreSwitchPorts nodeNames
          normalizedNodeNames snapshot.lldpNeighbors) := by
    funext key
    rw [neighborOf, neighborOf, sameKeys.count_eq]
  rw [sameCounts, neighborLess_eq]
  refine sortSlice_eq_of_key _ _ (sameOrder.map _) ?_
  rw [map_map]
  exact distinct'.map index_injective

/-- The names of the neighbours are distinct, and in strict order. -/
lemma pairwise_of_accepted (small : snapshot.lldpNeighbors.length < 2 ^ 31)
    (accepted : normalizeSnapshotNeighbors runtime snapshot ignoreSwitchPorts
      nodeNames normalizedNodeNames = .ok neighbors) : neighbors.Pairwise fun left right =>
      neighborIndex left < neighborIndex right := by
  obtain ⟨order, distinct, listed, rfl⟩ := exists_order_of_accepted small accepted
  have different : (((runtime.sortSlice neighborLess (order.map (neighborOf
      (countedKeys ignoreSwitchPorts nodeNames normalizedNodeNames
        snapshot.lldpNeighbors)))).map neighborIndex)).Nodup := by
    rw [((runtime.sortSlice_perm _ _).map _).nodup_iff, map_map]
    exact distinct.map index_injective
  have sorted := runtime.sortSlice_sorted neighborLess (order.map (neighborOf
    (countedKeys ignoreSwitchPorts nodeNames normalizedNodeNames snapshot.lldpNeighbors)))
    (neighborLess_eq ▸ strictWeakOrder_of_key neighborIndex)
  refine (sorted.and (pairwise_map.1 different)).imp ?_
  rintro left right ⟨notAbove, distinct⟩
  simp only [neighborLess_eq, decide_eq_false_iff_not, not_lt] at notAbove
  exact lt_of_le_of_ne notAbove distinct

end

/--
A snapshot is rejected exactly if an entry which is not ignored has no remote
name.  Otherwise its neighbours are strictly sorted by type and name, they are
the remote names which are not ignored with the number of their entries, and
the order of the entries does not matter.
-/
theorem normalizeSnapshotNeighbors_summarizes (runtime : Runtime)
    (snapshot : LldpNeighborSnapshot) (ignoreSwitchPorts : List String)
    (nodeNames normalizedNodeNames : GoMap String Bool)
    (small : snapshot.lldpNeighbors.length < 2 ^ 31) :
    ((∃ error, normalizeSnapshotNeighbors runtime snapshot ignoreSwitchPorts
          nodeNames normalizedNodeNames = .error error) ↔
      ∃ entry ∈ countedEntries ignoreSwitchPorts snapshot.lldpNeighbors,
        entry.remoteSystemName = "") ∧ (∀ neighbors, normalizeSnapshotNeighbors runtime snapshot
          ignoreSwitchPorts nodeNames normalizedNodeNames = .ok neighbors →
      neighbors.Pairwise (fun left right => neighborIndex left < neighborIndex right) ∧
      (∀ name, name ∈ neighbors.map SwitchNeighbor.remoteSystemName ↔
        ∃ entry ∈ countedEntries ignoreSwitchPorts snapshot.lldpNeighbors,
          entry.remoteSystemName = name) ∧ ∀ neighbor ∈ neighbors, neighbor.linkCount.toInt =
        (countedEntries ignoreSwitchPorts snapshot.lldpNeighbors).countP
          fun entry => entry.remoteSystemName = neighbor.remoteSystemName) ∧
    ∀ entries : List SwitchAgent.LldpNeighbor, entries.Perm snapshot.lldpNeighbors →
        normalizeSnapshotNeighbors runtime
            { snapshot with lldpNeighbors := entries } ignoreSwitchPorts
            nodeNames normalizedNodeNames =
          normalizeSnapshotNeighbors runtime snapshot ignoreSwitchPorts
            nodeNames normalizedNodeNames := by
  refine ⟨?_, fun neighbors accepted => ⟨?_, fun name => ?_, ?_⟩, ?_⟩
  · simp [normalizeSnapshotNeighbors_eq_error_iff, namedEntries_iff]
  · exact pairwise_of_accepted small accepted
  · obtain ⟨order, _, listed, rfl⟩ := exists_order_of_accepted small accepted
    simp only [mem_map, Sorter.mem_sortSlice, exists_exists_and_eq_and, listed, countedKeys]
    rfl
  · obtain ⟨order, _, listed, rfl⟩ := exists_order_of_accepted small accepted
    intro neighbor stored
    simp only [Sorter.mem_sortSlice, mem_map, listed] at stored
    obtain ⟨key, among, rfl⟩ := stored
    obtain ⟨entry, _, rfl⟩ := mem_map.mp among
    have short : (countedEntries ignoreSwitchPorts snapshot.lldpNeighbors).length < 2 ^ 31 :=
      lt_of_le_of_lt (length_filter_le _ _) small
    change (Int32.ofNat ((countedKeys _ _ _ _).count _)).toInt = _
    rw [count_countedKeys, Int32.toInt_ofNat_of_lt (lt_of_le_of_lt countP_le_length short)]
    rfl
  · intro entries same
    cases result : normalizeSnapshotNeighbors runtime snapshot
        ignoreSwitchPorts nodeNames normalizedNodeNames with
    | error failure =>
      rw [normalizeSnapshotNeighbors_eq_error_iff] at result ⊢
      rw [namedEntries_iff] at result ⊢
      simpa [countedEntries, same.mem_iff] using result
    | ok neighbors =>
      have named := (normalizeSnapshotNeighbors_accepts_iff runtime snapshot).mp ⟨neighbors, result⟩
      obtain ⟨neighbors', accepted⟩ :=
        (normalizeSnapshotNeighbors_accepts_iff runtime
          { snapshot with lldpNeighbors := entries }).mpr
          fun entry among => named entry (same.mem_iff.mp among)
      rw [accepted, normalizeSnapshotNeighbors_perm small same result accepted]

/-- A snapshot with two links to one neighbour. -/
def twoLinks : LldpNeighborSnapshot :=
  ⟨"leaf-1", [⟨"leaf-1", "Ethernet1", "spine-1", "e1"⟩,
    ⟨"leaf-1", "Ethernet2", "spine-1", "e2"⟩], 1⟩

theorem normalizeSnapshotNeighbors_two_links : ∃ neighbors,
      normalizeSnapshotNeighbors .canonical twoLinks [] ∅ ∅ = .ok neighbors ∧
        "spine-1" ∈ neighbors.map SwitchNeighbor.remoteSystemName := by
  have summary := normalizeSnapshotNeighbors_summarizes .canonical twoLinks [] ∅ ∅ (by decide)
  refine ⟨_, rfl, ((summary.2.1 _ rfl).2.1 "spine-1").mpr ?_⟩
  exact ⟨_, mem_cons_self, rfl⟩

end Unifabric.SwitchTopology
