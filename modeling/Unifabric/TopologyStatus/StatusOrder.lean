import Unifabric.TopologyStatus.GroupRuns
import Unifabric.TopologyStatus.StatusLoops

/-!
# The status depends on the views only

Lists and maps are visited in an order which the status does not show: objects
are folded in name order, and domains and groups are sorted by keys without
ties.  Two runs over lists with the same views give the same result.
-/

namespace Unifabric.TopologyStatus

open Lib TopologyLabel V1beta1 List GoMap

/-! ## Sorting without ties -/

/-- Higher tiers first, then names. -/
def domainKey (domain : TopologyDomain) : Int ×ₗ String := toLex (-domain.tier, domain.name)

/-- Joined paths, then joined Nodes. -/
def groupKey (group : TopologyNodeGroup) : String ×ₗ String :=
  toLex (nodeGroupKey group.switchDomainPath, String.intercalate "\x00" group.nodes)

lemma domainLess_eq : domainLess = fun left right => decide (domainKey left < domainKey right) := by
  funext left right
  rw [domainLess, domainKey, domainKey]
  by_cases same : left.tier = right.tier
  · simp [Prod.Lex.toLex_lt_toLex, same]
  · simp [Prod.Lex.toLex_lt_toLex, same]

lemma groupLess_eq : groupLess = fun left right => decide (groupKey left < groupKey right) := by
  funext left right
  rw [groupLess, groupKey, groupKey]
  by_cases same : nodeGroupKey left.switchDomainPath = nodeGroupKey right.switchDomainPath
  · simp [Prod.Lex.toLex_lt_toLex, same]
  · simp [Prod.Lex.toLex_lt_toLex, same]

section

variable {relations : DomainRelations} {domains : Domains} {nodeGroups : NodeGroups} {count : Nat}

lemma finishDomain_eq (runtime : Runtime) :
    finishDomain runtime = finishDomain Runtime.canonical := by
  funext state
  simp only [finishDomain, sortedSet_eq]

lemma DomainsMatch.name_eq (matched : DomainsMatch relations domains) {value : String}
    (found : domains[value]? = some state) : state.domain.name = value := by
  obtain ⟨level, _, domain⟩ := matched.domain value state found
  rw [domain]

lemma finishDomain_name (runtime : Runtime) (state : DomainState) :
    (finishDomain runtime state).name = state.domain.name :=
  rfl

lemma DomainsMatch.names (matched : DomainsMatch relations domains) (runtime : Runtime) :
    (domains.entries.map fun state => (finishDomain runtime state).name) = domains.keys := by
  refine map_entries_eq_keys fun value state found => ?_
  rw [finishDomain_name, matched.name_eq found]

lemma finishStatus_eq (runtime runtime' : Runtime) (matched : DomainsMatch relations domains)
    (kept : GroupsKept count nodeGroups) (previous : List TopologyNodeGroup) :
    finishStatus runtime domains nodeGroups previous =
      finishStatus runtime' domains nodeGroups previous := by
  have perm {α β : Type} (site : List String) (entries : List α)
      (finish : α → β) : ((runtime.range site entries).map finish).Perm
        ((runtime'.range site entries).map finish) :=
    ((runtime.range_perm site entries).trans (runtime'.range_perm site entries).symm).map finish
  have sameDomains : runtime.sortSlice domainLess ((runtime.range ["domains"] domains.entries).map
        (finishDomain Runtime.canonical)) =
      runtime'.sortSlice domainLess ((runtime'.range ["domains"] domains.entries).map
          (finishDomain Runtime.canonical)) := by
    rw [domainLess_eq]
    refine sortSlice_eq_of_key _ _ (perm _ _ _) ?_
    refine List.Nodup.of_map (fun key => (ofLex key).2) ?_
    rw [map_map, map_map]
    have names := keys_nodup domains
    rw [← matched.names Runtime.canonical] at names
    exact ((runtime.range_perm _ domains.entries).map _).nodup_iff.2 names
  have sameGroups : runtime.sortSlice groupLess
      ((runtime.range ["nodeGroups"] nodeGroups.entries).map
        fun group => { group with nodes := sortValues group.nodes }) =
      runtime'.sortSlice groupLess ((runtime'.range ["nodeGroups"] nodeGroups.entries).map
          fun group => { group with nodes := sortValues group.nodes }) := by
    rw [groupLess_eq]
    refine sortSlice_eq_of_key _ _ (perm _ _ _) ?_
    refine List.Nodup.of_map (fun key => (ofLex key).1) ?_
    rw [map_map, map_map]
    have keys := keys_nodup nodeGroups
    rw [← map_entries_eq_keys kept.keyed] at keys
    exact ((runtime.range_perm _ nodeGroups.entries).map _).nodup_iff.2 keys
  rw [finishStatus, finishStatus, finishDomain_eq runtime,
    finishDomain_eq runtime', sameDomains, sameGroups]

end

/-! ## The result depends on the views -/

section

variable {check : String → List String} {template : Template}

lemma nodeView_name {view : String × GoMap Int String}
    (isView : nodeView template node = some view) : view.1 = node.name := by
  unfold nodeView at isView
  split_ifs at isView
  cases isView
  rfl

lemma switchView_name {switch : LabeledResource} (isView : switchView switch = some view) :
    view.1 = switch.name := by
  unfold switchView at isView
  split_ifs at isView
  cases isView
  rfl

lemma nodup_view_names {β : Type} {view : LabeledResource → Option (String × β)}
    (named : ∀ resource value, view resource = some value → value.1 = resource.name)
    {resources : List LabeledResource} (distinct : (resources.map LabeledResource.name).Nodup) :
    ((resources.filterMap view).map Prod.fst).Nodup := by
  rw [map_filterMap]
  refine List.Nodup.sublist ?_ distinct
  induction resources with
  | nil => exact List.Sublist.refl _
  | cons resource rest ih =>
    have later := ih (List.Nodup.of_cons distinct)
    rw [filterMap_cons]
    cases isView : view resource with
    | none => exact later.cons _
    | some value =>
      rw [Option.map_some, map_cons, ← named resource value isView]
      exact later.cons_cons _

lemma buildTopologyStatus_congr (plain : PlainLabelValues check)
    (runtime runtime' : Runtime) {snapshot snapshot' : LabelSnapshot}
    (distinctNodes : (snapshot.nodes.map LabeledResource.name).Nodup)
    (distinctSwitches : (snapshot.switches.map LabeledResource.name).Nodup)
    (nodes : (snapshot.nodes.filterMap (nodeView template)).Perm
      (snapshot'.nodes.filterMap (nodeView template)))
    (switches : (snapshot.switches.filterMap switchView).Perm
      (snapshot'.switches.filterMap switchView)) (previous : List TopologyNodeGroup) :
    buildTopologyStatus runtime check (some template) snapshot previous =
      buildTopologyStatus runtime' check (some template) snapshot' previous := by
  have sameNodes := filterMap_sortByName_eq runtime runtime' (fun _ _ => nodeView_name) nodes
    (nodup_view_names (fun _ _ => nodeView_name) distinctNodes)
  have sameSwitches := filterMap_sortByName_eq runtime runtime'
    (fun _ _ => switchView_name) switches
    (nodup_view_names (fun _ _ => switchView_name) distinctSwitches)
  unfold buildTopologyStatus
  simp only [foldlM_addNode, foldlM_addSwitch, sameNodes, sameSwitches]
  cases built : ((sortByName runtime' snapshot'.nodes).filterMap
      (nodeView template)).foldlM (addTiers check) ⟨∅, ∅⟩ with
  | error failure => rfl
  | ok state =>
    dsimp only [bind, Except.bind]
    cases joined : ((sortByName runtime' snapshot'.switches).filterMap
        switchView).foldlM (addMember check) ⟨state.domains, []⟩ with
    | error failure => rfl
    | ok final =>
      have kept : GroupsKept _ state.nodeGroups :=
        groupsKept_of_built plain ((foldlM_addNode runtime' _ _).trans built)
      have nodesLoop := (eq_ok_of_decides (nodesLoop_decides check _) built).2
      have switchesLoop := (eq_ok_of_decides (switchesLoop_decides check _ _ nodesLoop.1) joined).2
      dsimp only
      rw [finishStatus_eq runtime runtime' switchesLoop.1 kept previous]

end

end Unifabric.TopologyStatus
