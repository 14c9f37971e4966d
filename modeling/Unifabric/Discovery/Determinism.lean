import Unifabric.Discovery.TieredGraph

/-!
# Discovery does not depend on map iteration

Every stage ranges over maps, but sorts what it collects or assigns every key
on its own.  Two runs which share a sorting function therefore agree stage by
stage, whatever order their maps are visited in; the list of edges, which is
never sorted, agrees up to order.
-/

namespace Unifabric.Discovery

open Lib List GoMap

/-! ## Zones and groups -/

section

variable (runtime runtime' : Runtime)

lemma sortedBoolKeys_congr (site : List String) (table : GoMap String Bool) :
    sortedBoolKeys runtime site table = sortedBoolKeys runtime' site table := by
  rw [sortedBoolKeys_eq, sortedBoolKeys_eq]

lemma collectConnectedZones_congr (graph : TopologyGraph) : collectConnectedZones runtime graph =
      collectConnectedZones runtime' graph := by
  have starts : collectHostStarts runtime graph = collectHostStarts runtime' graph := by
    refine sortValues_eq_of_perm (List.Perm.filter _ ?_)
    exact (runtime.range_perm _ _).trans (runtime'.range_perm _ _).symm
  have step : zoneStep runtime = zoneStep runtime' := by
    funext adj search
    unfold zoneStep
    simp only [sortedBoolKeys_congr runtime runtime']
  unfold collectConnectedZones collectZoneDeviceNames
  rw [starts, step]

lemma buildLowerGroupToTierDevices_congr (adj : Adjacency) (zone : ZoneDeviceView) (tier : Int)
    (lowerDeviceToGroup : GoMap String String) :
    buildLowerGroupToTierDevices runtime adj zone tier lowerDeviceToGroup =
      buildLowerGroupToTierDevices runtime' adj zone tier lowerDeviceToGroup := by
  have index : indexLowerGroups runtime adj zone tier lowerDeviceToGroup =
      indexLowerGroups runtime' adj zone tier lowerDeviceToGroup := by
    funext table deviceName
    unfold indexLowerGroups
    rw [sortedBoolKeys_congr runtime runtime']
  unfold buildLowerGroupToTierDevices
  cases zone.devicesByTier[tier]? with
  | none => rfl
  | some devicesInTier =>
    simp only [sortedDeviceNames_eq, index]
    refine Std.ExtTreeMap.ext_getElem? fun lowerGroupName => ?_
    rw [runtime.getElem?_range_update _ (fun values => dedupeSortedStrings (sortValues values)) [],
      runtime'.getElem?_range_update _ (fun values => dedupeSortedStrings (sortValues values)) []]

lemma buildTierGroups_congr (adj : Adjacency) (zone : ZoneDeviceView) (tier : Int)
    (options : DiscoverOptions) (lowerDeviceToGroup : GoMap String String) :
    buildTierGroups runtime adj zone tier options lowerDeviceToGroup =
      buildTierGroups runtime' adj zone tier options lowerDeviceToGroup := by
  have step : groupStep runtime = groupStep runtime' := by
    funext adj zone tier lowerDeviceToGroup lowerGroupToTierDevices search
    unfold groupStep
    simp only [sortedBoolKeys_congr runtime runtime']
  unfold buildTierGroups collectGroup
  simp only [step, sortedDeviceNames_eq, sortedNamesFromMap_eq,
    buildLowerGroupToTierDevices_congr runtime runtime']

lemma getElem?_hostGroups (zone : ZoneDeviceView) (name : String) :
    (hostGroups runtime zone)[name]? =
      if name ∈ zone.devices ∧ (zone.devices.getD name .zero).tier = 0 then some name
      else none := by
  have filtered := getElem?_foldl_insert
    ((runtime.range ["BuildTopology", "zone"] zone.devices.keys).filter
      fun name => (zone.devices.getD name .zero).tier = 0)
    id id (∅ : GoMap String String) name
  rw [foldl_filter] at filtered
  simp only [id_eq, map_id, mem_filter, runtime.mem_range,
    Std.ExtTreeMap.mem_keys, decide_eq_true_eq,
    Std.ExtTreeMap.getElem?_empty] at filtered
  exact filtered

lemma hostGroups_congr (zone : ZoneDeviceView) :
    hostGroups runtime zone = hostGroups runtime' zone := by
  refine Std.ExtTreeMap.ext_getElem? fun name => ?_
  rw [getElem?_hostGroups, getElem?_hostGroups]

lemma addTier_congr (adj : Adjacency) (zone : ZoneDeviceView) (options : DiscoverOptions) :
    addTier runtime adj zone options = addTier runtime' adj zone options := by
  funext state tier
  unfold addTier
  rw [buildTierGroups_congr runtime runtime']

lemma buildParentIndexForZone_congr (adj : Adjacency)
    (zone : ZoneDeviceView) (topology : Topology) :
    buildParentIndexForZone runtime adj zone topology =
      buildParentIndexForZone runtime' adj zone topology := by
  unfold buildParentIndexForZone buildDeviceToGroupIndex
    buildGroupParentIndex buildDeviceParentIndex addParents setParents
  simp only [sortedTierKeys_eq, sortedDeviceNames_eq, sortedBoolKeys_congr runtime runtime']

lemma addZone_congr (graph : TopologyGraph) (options : DiscoverOptions) :
    addZone runtime graph options = addZone runtime' graph options := by
  funext topology zoneDeviceNames
  unfold addZone
  simp only [sortedTierKeys_eq, addTier_congr runtime runtime', hostGroups_congr runtime runtime',
    buildParentIndexForZone_congr runtime runtime']

end

/-! ## Sorting the result -/

lemma getElem?_sortNodesByTier (runtime : Runtime) (site : List String)
    (nodesByTier : GoMap Int (List String)) (tier : Int) :
    (sortNodesByTier runtime site nodesByTier)[tier]? = nodesByTier[tier]?.map fun names =>
        dedupeSortedStrings (sortValues names) := by
  have updated := runtime.getElem?_range_update site
    (fun names : List String => dedupeSortedStrings (sortValues names)) []
    nodesByTier tier
  unfold sortNodesByTier
  rw [updated]

lemma getElem?_sortGroupsByTier (runtime : Runtime)
    (groupsByTier : GoMap Int (List TopologyGroup)) (tier : Int) :
    (sortGroupsByTier runtime groupsByTier)[tier]? = groupsByTier[tier]?.map
        (runtime.sortSlice fun left right => decide (left.name < right.name)) := by
  have updated := runtime.getElem?_range_update ["sortGroupsByTier"]
    (runtime.sortSlice fun left right : TopologyGroup =>
      decide (left.name < right.name))
    [] groupsByTier tier
  unfold sortGroupsByTier
  rw [updated]

/-! ## Devices and physical edges -/

/-- The tier under which the devices loop lists a device. -/
def ListedAt (devices : GoMap String Device) (tier : Int) (name : String) : Bool :=
  decide (0 ≤ tierOf devices name) && decide (tierOf devices name = tier)

lemma foldl_addDeviceNode_spec (devices : GoMap String Device)
    (names : List String) (topology : Topology) :
    let final := names.foldl (addDeviceNode devices) topology
    (∀ name : String, final.nodes[name]? =
        if name ∈ names ∧ 0 ≤ tierOf devices name then
          some { name := name, type := .device
                 tier := tierOf devices name
                 deviceType := typeOf devices name, members := [] }
        else topology.nodes[name]?) ∧
      (∀ tier : Int, final.nodesByTier[tier]? =
        if names.filter (ListedAt devices tier) = [] then
          topology.nodesByTier[tier]?
        else
          some (topology.nodesByTier.getD tier [] ++ names.filter (ListedAt devices tier))) ∧
      final.edges = topology.edges ∧
      final.groupsByTier = topology.groupsByTier ∧
      final.parentIndex = topology.parentIndex := by
  induction names generalizing topology with
  | nil => simp
  | cons first rest ih =>
    obtain ⟨nodes, byTier, others⟩ := ih (addDeviceNode devices topology first)
    simp only [List.foldl_cons]
    by_cases tiered : 0 ≤ tierOf devices first
    · have added : addDeviceNode devices topology first =
          { topology with
            nodes := topology.nodes.insert first
              { name := first, type := .device
                tier := tierOf devices first
                deviceType := typeOf devices first, members := [] }
            nodesByTier := topology.nodesByTier.insert (tierOf devices first)
              (topology.nodesByTier.getD (tierOf devices first) [] ++ [first]) } := by
        unfold addDeviceNode
        rw [if_neg (by unfold tierOf at tiered; omega)]
        rfl
      rw [added] at nodes byTier others ⊢
      refine ⟨?_, ?_, others⟩
      · intro name
        rw [nodes, GoMap.getElem?_insert]
        by_cases same : first = name
        · subst same
          simp [tiered]
        · simp [same, Ne.symm same]
      · intro tier
        rw [byTier]
        simp only [GoMap.getElem?_insert, GoMap.getD_eq]
        by_cases same : tierOf devices first = tier
        · subst same
          have listed : ListedAt devices (tierOf devices first) first = true := by
            simp [ListedAt, tiered]
          rw [List.filter_cons_of_pos listed]
          by_cases empty : rest.filter (ListedAt devices (tierOf devices first)) = []
          · simp [empty]
          · simp [empty]
        · have unlisted : ¬ ListedAt devices tier first = true := by simp [ListedAt, same]
          rw [List.filter_cons_of_neg unlisted, if_neg same]
    · have skipped : addDeviceNode devices topology first =
          topology := by
        unfold addDeviceNode
        rw [if_pos (by unfold tierOf at tiered; omega)]
      rw [skipped] at nodes byTier others ⊢
      refine ⟨?_, ?_, others⟩
      · intro name
        rw [nodes]
        by_cases same : name = first
        · subst same
          simp [tiered]
        · simp [same]
      · intro tier
        rw [byTier, List.filter_cons_of_neg]
        simp [ListedAt, tiered]

lemma physicalEdges_perm (runtime runtime' : Runtime) (adj : Adjacency) :
    (physicalEdges runtime adj).Perm (physicalEdges runtime' adj) := by
  refine List.Perm.flatMap ((runtime.range_perm _ _).trans (runtime'.range_perm _ _).symm) ?_
  intro a _
  exact List.Perm.filterMap _ ((runtime.range_perm _ _).trans (runtime'.range_perm _ _).symm)

/-! ## Equality up to the order of edges -/

/-- Two results which differ at most in the order of their edges. -/
structure SameTopology (left right : Topology) : Prop where
  nodes : left.nodes = right.nodes
  nodesByTier : left.nodesByTier = right.nodesByTier
  groupsByTier : left.groupsByTier = right.groupsByTier
  parentIndex : left.parentIndex = right.parentIndex
  edges : left.edges.Perm right.edges

lemma deviceTopology_same (runtime runtime' : Runtime) (graph : TopologyGraph) :
    SameTopology (deviceTopology runtime graph) (deviceTopology runtime' graph) := by
  have visited : (runtime.range ["BuildTopology", "devices"] graph.devices.keys).Perm
        (runtime'.range ["BuildTopology", "devices"] graph.devices.keys) :=
    (runtime.range_perm _ _).trans (runtime'.range_perm _ _).symm
  obtain ⟨nodes, byTier, _, groups, parents⟩ := foldl_addDeviceNode_spec graph.devices
    (runtime.range ["BuildTopology", "devices"] graph.devices.keys)
    { nodes := ∅, edges := [], nodesByTier := ∅, groupsByTier := ∅, parentIndex := ∅ }
  obtain ⟨nodes', byTier', _, groups', parents'⟩ :=
    foldl_addDeviceNode_spec graph.devices
      (runtime'.range ["BuildTopology", "devices"] graph.devices.keys)
      { nodes := ∅, edges := [], nodesByTier := ∅, groupsByTier := ∅, parentIndex := ∅ }
  unfold deviceTopology
  refine
    { nodes := ?_
      nodesByTier := ?_
      groupsByTier := groups.trans groups'.symm
      parentIndex := parents.trans parents'.symm
      edges := physicalEdges_perm runtime runtime' graph.adj }
  · refine Std.ExtTreeMap.ext_getElem? fun name => ?_
    simp only [nodes, nodes', visited.mem_iff]
  · refine Std.ExtTreeMap.ext_getElem? fun tier => ?_
    simp only [getElem?_sortNodesByTier, byTier, byTier']
    have listed := visited.filter (ListedAt graph.devices tier)
    by_cases empty : (runtime.range ["BuildTopology", "devices"]
        graph.devices.keys).filter (ListedAt graph.devices tier) = []
    · rw [if_pos empty, if_pos]
      rw [empty] at listed
      exact listed.symm.eq_nil
    · rw [if_neg empty, if_neg]
      · simp [sortValues_eq_of_perm listed]
      · intro noneListed
        rw [noneListed] at listed
        exact empty listed.eq_nil

lemma addGroup_same (tier : Int) (group : TopologyGroup)
    (same : SameTopology left.topology right.topology)
    (groups : left.deviceToGroup = right.deviceToGroup) :
    SameTopology (addGroup tier left group).topology (addGroup tier right group).topology ∧
      (addGroup tier left group).deviceToGroup = (addGroup tier right group).deviceToGroup := by
  unfold addGroup
  split_ifs
  · refine ⟨⟨same.nodes, same.nodesByTier, ?_, same.parentIndex, same.edges⟩, ?_⟩
    · simp only [same.groupsByTier]
    · simp only [groups]
  · refine ⟨⟨?_, ?_, ?_, same.parentIndex, ?_⟩, ?_⟩
    · simp only [same.nodes]
    · simp only [same.nodesByTier]
    · simp only [same.groupsByTier]
    · exact same.edges.append_right _
    · simp only [groups]

lemma foldl_addGroup_same (tier : Int) (groups : List TopologyGroup)
    (same : SameTopology left.topology right.topology)
    (assigned : left.deviceToGroup = right.deviceToGroup) :
    SameTopology (groups.foldl (addGroup tier) left).topology
        (groups.foldl (addGroup tier) right).topology ∧
      (groups.foldl (addGroup tier) left).deviceToGroup =
        (groups.foldl (addGroup tier) right).deviceToGroup := by
  induction groups generalizing left right with
  | nil => exact ⟨same, assigned⟩
  | cons group rest ih =>
    obtain ⟨nextSame, nextAssigned⟩ := addGroup_same tier group same assigned
    exact ih nextSame nextAssigned

lemma foldl_addTier_same (runtime : Runtime) (adj : Adjacency) (zone : ZoneDeviceView)
    (options : DiscoverOptions) (tiers : List Int) (left right : ZoneState)
    (same : SameTopology left.topology right.topology)
    (assigned : left.deviceToGroup = right.deviceToGroup) :
    SameTopology (tiers.foldl (addTier runtime adj zone options) left).topology
        (tiers.foldl (addTier runtime adj zone options) right).topology ∧
      (tiers.foldl (addTier runtime adj zone options) left).deviceToGroup =
        (tiers.foldl (addTier runtime adj zone options) right).deviceToGroup := by
  induction tiers generalizing left right with
  | nil => exact ⟨same, assigned⟩
  | cons tier rest ih =>
    by_cases isHost : tier = 0
    · subst isHost
      exact ih left right same assigned
    · have next := foldl_addGroup_same tier (buildTierGroups runtime adj zone tier options
          left.deviceToGroup) same assigned
      refine ih _ _ ?_ ?_
      · simpa only [addTier, isHost, if_false, assigned] using next.1
      · simpa only [addTier, isHost, if_false, assigned] using next.2

lemma addZone_same (runtime : Runtime) (graph : TopologyGraph) (options : DiscoverOptions)
    (zoneDeviceNames : List String) (same : SameTopology left right) :
    SameTopology (addZone runtime graph options left zoneDeviceNames)
      (addZone runtime graph options right zoneDeviceNames) := by
  obtain ⟨grouped, _⟩ := foldl_addTier_same runtime graph.adj
    (buildZoneDeviceView graph zoneDeviceNames) options
    (sortedTierKeys runtime ["BuildTopology", "tiers"]
      (buildZoneDeviceView graph zoneDeviceNames).devicesByTier)
    { topology := left
      deviceToGroup :=
        hostGroups runtime (buildZoneDeviceView graph zoneDeviceNames) }
    { topology := right
      deviceToGroup :=
        hostGroups runtime (buildZoneDeviceView graph zoneDeviceNames) }
    same rfl
  unfold addZone buildParentIndexForZone buildDeviceToGroupIndex
  refine ⟨grouped.nodes, grouped.nodesByTier, grouped.groupsByTier, ?_, grouped.edges⟩
  simp only [grouped.groupsByTier, grouped.parentIndex]

lemma foldl_addZone_same (runtime : Runtime) (graph : TopologyGraph) (options : DiscoverOptions)
    (zones : List (List String)) (same : SameTopology left right) :
    SameTopology (zones.foldl (addZone runtime graph options) left)
      (zones.foldl (addZone runtime graph options) right) := by
  induction zones generalizing left right with
  | nil => exact same
  | cons zone rest ih => exact ih (addZone_same runtime graph options zone same)

lemma buildTopology_same (sameSorter : runtime.toSorter = runtime'.toSorter)
    (graph : TopologyGraph) (options : DiscoverOptions) :
    SameTopology (buildTopology runtime graph options) (buildTopology runtime' graph options) := by
  have processed := foldl_addZone_same runtime' graph options (collectConnectedZones runtime' graph)
    (deviceTopology_same runtime runtime' graph)
  unfold buildTopology
  rw [addZone_congr runtime runtime', collectConnectedZones_congr runtime runtime']
  refine ⟨processed.nodes, ?_, ?_, processed.parentIndex, processed.edges⟩
  · refine Std.ExtTreeMap.ext_getElem? fun tier => ?_
    rw [getElem?_sortNodesByTier, getElem?_sortNodesByTier, processed.nodesByTier]
  · refine Std.ExtTreeMap.ext_getElem? fun tier => ?_
    rw [getElem?_sortGroupsByTier, getElem?_sortGroupsByTier, processed.groupsByTier, sameSorter]

/-! ## Discovery -/

/-- Grouping reads the devices and the adjacency, not the list of links. -/
lemma buildTopology_eq_of_devices_adj (runtime : Runtime) (options : DiscoverOptions)
    (devices : graph.devices = graph'.devices) (adj : graph.adj = graph'.adj) :
    buildTopology runtime graph options = buildTopology runtime graph' options := by
  obtain ⟨devices₁, adj₁, links₁⟩ := graph
  obtain ⟨devices₂, adj₂, links₂⟩ := graph'
  simp only at devices adj
  subst devices adj
  rfl

/-- The order of map iteration only affects the order of the edges. -/
lemma discoverTopology_order (sorter : Sorter) (order order' : MapOrder) (hosts : List Host)
    (switches : List Switch) (options : List DiscoverOption) :
    SameTopology (discoverTopology ⟨order, sorter⟩ hosts switches options)
      (discoverTopology ⟨order', sorter⟩ hosts switches options) := by
  have same : SameFabric hosts hosts switches switches :=
    ⟨fun _ => Iff.rfl, fun _ => Iff.rfl, fun _ _ => Iff.rfl⟩
  obtain ⟨devices, adj⟩ := tieredGraph_congr ⟨order, sorter⟩ ⟨order', sorter⟩ same
  unfold discoverTopology
  rw [buildTopology_eq_of_devices_adj ⟨order, sorter⟩ _ devices adj]
  refine buildTopology_same ?_ _ _
  rfl

/--
Discovery depends on the fabric, not on its presentation: inputs with the same
hosts, switches and accepted links have the same result in every order of map
iteration, up to the order of the edges.
-/
theorem discoverTopology_depends_on_fabric (sorter : Sorter) (order order' : MapOrder)
    (options : List DiscoverOption)
    {hosts hosts' : List Host} {switches switches' : List Switch}
    (same : SameFabric hosts hosts' switches switches') :
    SameTopology (discoverTopology ⟨order, sorter⟩ hosts switches options)
      (discoverTopology ⟨order', sorter⟩ hosts' switches' options) := by
  obtain ⟨devices, adj⟩ := tieredGraph_congr ⟨order, sorter⟩ ⟨order', sorter⟩ same
  unfold discoverTopology
  rw [buildTopology_eq_of_devices_adj ⟨order, sorter⟩ _ devices adj]
  refine buildTopology_same ?_ _ _
  rfl

/-- A link reported from its other end, with a host and two switches. -/
theorem discoverTopology_depends_on_fabric_other_end :
    let left : List Switch := [⟨"leaf", [⟨"leaf", "h"⟩, ⟨"leaf", "spine"⟩]⟩, ⟨"spine", []⟩]
    let right : List Switch := [⟨"spine", [⟨"", "leaf"⟩]⟩, ⟨"leaf", [⟨"", "h"⟩, ⟨"", "h"⟩]⟩]
    SameFabric [⟨"h"⟩] [⟨"h"⟩, ⟨"h"⟩] left right ∧
      SameTopology (discoverTopology .canonical [⟨"h"⟩] left [])
        (discoverTopology .canonical [⟨"h"⟩, ⟨"h"⟩] right []) := by
  intro left right
  have same : SameFabric [⟨"h"⟩] [⟨"h"⟩, ⟨"h"⟩] left right := by
    refine ⟨by simp [hostNames], by simp [left, right, switchNames, or_comm], ?_⟩
    intro a b
    simp [left, right, Linked, Reports, Known, hostNames, switchNames]
    grind
  exact ⟨same, discoverTopology_depends_on_fabric Sorter.canonical
    MapOrder.canonical MapOrder.canonical [] same⟩

/--
The neighbour entries of known name, among them those whose remote name is
empty, which discovery ignores.
-/
def NamesKnown (hosts : List Host) (switches : List Switch) (a b : String) : Prop :=
  ∃ switch ∈ switches, ∃ neighbor ∈ switch.neighbors,
    switch.name = a ∧ neighbor.remoteSystemName = b ∧ (neighbor.localDeviceName = "" ∨
        neighbor.localDeviceName = switch.name) ∧
      Known hosts switches b

/--
For a switch without a name the end which reports the link matters, since an
empty remote name is never resolved.
-/
theorem empty_name_reporting_end_matters :
    let near : List Switch := [⟨"", [⟨"", "h"⟩, ⟨"", "a"⟩]⟩, ⟨"a", []⟩]
    let far : List Switch := [⟨"", [⟨"", "h"⟩]⟩, ⟨"a", [⟨"", ""⟩]⟩]
    let linked (switches : List Switch) (a b : String) :=
      NamesKnown [⟨"h"⟩] switches a b ∨ NamesKnown [⟨"h"⟩] switches b a
    (∀ a b, linked near a b ↔ linked far a b) ∧
      (discoverTopology .canonical [⟨"h"⟩] near []).nodes ≠
        (discoverTopology .canonical [⟨"h"⟩] far []).nodes := by
  intro near far linked
  refine ⟨?_, ?_⟩
  · intro a b
    simp [linked, near, far, NamesKnown, Known, hostNames, switchNames]
    grind
  · intro same
    have present : (discoverTopology .canonical [⟨"h"⟩] near []).nodes.contains "a" = true := by
      decide +kernel
    have absent : (discoverTopology .canonical [⟨"h"⟩] far []).nodes.contains "a" = false := by
      decide +kernel
    rw [same, absent] at present
    exact Bool.false_ne_true present

end Unifabric.Discovery
