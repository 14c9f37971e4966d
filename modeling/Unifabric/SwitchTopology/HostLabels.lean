import Unifabric.SwitchTopology.InputsSpec
import Unifabric.SwitchTopology.PlanSound

/-!
# The labels of the hosts

Hosts and switches share one namespace in the device graph, and a name used
twice is a switch.  A host of its own name gets a tier-1 label from every
successful plan; a host named like a switch is not a host of the graph, and
gets none.
-/

namespace Unifabric.SwitchTopology

open Lib V1beta1 TopologyLabel GoMap List Option

variable {runtime : Runtime} {inputs : TopologyInputs} {template : Template}
open Unifabric.Discovery (Topology TopologyGroup DistinctGroupNames
  hostNames switchNames fabric tieredGraph_tiered discoveredGroups_grouping
  mem_groupsByTier_iff HasParent)
open Relation

variable {host : Discovery.Host} {switchName name key : String} {tier other : Int}
  {context : PlanContext}

/-! ## The first step of a walk -/

section

variable {topology : Topology} {hosts : List Discovery.Host} {records : List DiscoveredGroup}

lemma walkUp_of_normalized (normalized : normalizeDiscoveredGroups runtime topology hosts = .ok
      records) (isHost : host ∈ hosts) : ∃ nodesByGroup walk, walkUp topology.parentIndex
      (indexGroups runtime topology).groupsByName host.name
      (Walk.start host.name nodesByGroup) = .ok walk := by
  unfold normalizeDiscoveredGroups at normalized
  dsimp only at normalized
  split at normalized
  · cases normalized
  · next nodesByGroup walked =>
    have all := foldlM_prefix_induction walked (fun done _ => ∀ host ∈ done, ∃ nodesByGroup walk,
        walkUp topology.parentIndex (indexGroups runtime topology).groupsByName host.name
          (Walk.start host.name nodesByGroup) = .ok walk) (by simp) (by
        intro done first rest state next _ reached stepped
        refine forall_mem_concat reached ?_
        unfold walkHost at stepped
        split at stepped
        · cases stepped
        · next walk finished => exact ⟨state, walk, finished⟩)
    exact all host isHost

lemma exists_group_of_parentStep
    (normalized : normalizeDiscoveredGroups runtime topology hosts = .ok records)
    (isHost : host ∈ hosts) (listed : TiersListed topology)
    (step : ParentStep topology.parentIndex host.name parent) :
    ∃ group ∈ topology.groupsByTier.getD 1 [], group.name = parent := by
  obtain ⟨nodesByGroup, walk, finished⟩ := walkUp_of_normalized normalized isHost
  unfold walkUp at finished
  cases stepped : walkStep topology.parentIndex
      (indexGroups runtime topology).groupsByName host.name
      (Walk.start host.name nodesByGroup) with
  | none =>
    have stop : topology.parentIndex.getD host.name [] = [] := walkStep_eq_none stepped
    rw [ParentStep, stop] at step
    cases step
  | some result =>
    cases result with
    | error failure =>
      simp only [runLoopM, stepped] at finished
      cases finished
    | ok next =>
      obtain ⟨found, group, isStep, _, isGroup, tier, _⟩ := walkStep_eq_ok stepped
      have same : found = parent := isStep.unique step
      subst same
      rw [indexGroups_groupsByName] at isGroup
      obtain ⟨isListed, named⟩ := mem_of_foldl_insert isGroup
      obtain ⟨groupTier, _, inTier⟩ := (mem_indexedGroups_iff group).1 isListed
      have sameTier : group.tier = groupTier := listed groupTier group inTier
      have first : group.tier = 1 := tier
      rw [← sameTier, first] at inTier
      exact ⟨group, inTier, named⟩

end

/-! ## Parents of hosts -/

/-- A switch next to a host of its own name is on the first level. -/
lemma level_one_of_reports
    (reports : Discovery.Reports inputs.hosts inputs.switches switchName hostName)
    (isBase : (fabric inputs.hosts inputs.switches).base hostName) :
    (fabric inputs.hosts inputs.switches).Level 1 switchName := by
  have isInner : switchName ∈ switchNames inputs.switches := by
    obtain ⟨switch, listed, _, _, named, _⟩ := reports
    exact mem_map.2 ⟨switch, listed, named⟩
  refine ⟨⟨isInner, hostName, .inl reports, isBase⟩, ?_⟩
  intro shorter less reached
  have zero : shorter = 0 := by omega
  subst zero
  exact reached.2 isInner

lemma exists_parentStep_of_base (runtime : Runtime)
    (reports : Discovery.Reports inputs.hosts inputs.switches switchName hostName)
    (isBase : (fabric inputs.hosts inputs.switches).base hostName) :
    ∃ parent, ParentStep (discoverInputs runtime inputs).parentIndex hostName parent := by
  have tiered := tieredGraph_tiered runtime inputs.hosts inputs.switches
  have hasEntry := Discovery.mem_parentIndex_of_hasParent runtime tiered
    planOptions
    (.inl ⟨0, switchName, (LayeredGraph.level_zero_iff hostName).2 isBase, .inr reports,
      level_one_of_reports reports isBase, rfl⟩)
  obtain ⟨parents, found⟩ := (mem_iff _ _).1 hasEntry
  obtain ⟨parent, rfl, _⟩ := Discovery.parentIndex_sound runtime tiered _ hostName parents found
  refine ⟨parent, ?_⟩
  unfold ParentStep
  rw [getD_eq]
  exact congrArg (·.getD []) found

lemma exists_group_above (isSwitch : name ∈ switchNames inputs.switches)
    (step : ParentStep (discoverInputs runtime inputs).parentIndex name parent) :
    ∃ tier, 2 ≤ tier ∧ ∃ group ∈ (discoverInputs runtime
      inputs).groupsByTier.getD tier [], group.name = parent := by
  have tiered := tieredGraph_tiered runtime inputs.hosts inputs.switches
  have grouping := discoveredGroups_grouping runtime tiered planOptions
  have above : ∀ {level : Nat} {device : String},
      (fabric inputs.hosts inputs.switches).Level (level + 1) device →
      Discovery.ParentOf (fabric inputs.hosts inputs.switches)
        (Discovery.groupNameOf (Discovery.discoveredGroups runtime
          (Discovery.tieredGraph runtime inputs.hosts inputs.switches)
          planOptions)) device parent →
      ∃ tier, 2 ≤ tier ∧ ∃ group ∈ (discoverInputs runtime
        inputs).groupsByTier.getD tier [], group.name = parent := by
    intro level device reached isParent
    obtain ⟨group, listed, tier, named, _⟩ := isParent.exists_group grouping reached
    refine ⟨group.tier, by omega, group, ?_, named⟩
    exact (mem_groupsByTier_iff runtime tiered _ group.tier group).2 ⟨listed, rfl⟩
  unfold ParentStep at step
  rw [getD_eq] at step
  cases found : (discoverInputs runtime inputs).parentIndex[name]? with
  | none =>
    rw [found] at step
    cases step
  | some parents =>
    rw [found, getD_some] at step
    subst step
    rcases Discovery.parentIndex_sound runtime tiered _ name [parent]
      found with ⟨other, equal, hasParent⟩
    cases equal
    rcases hasParent with device | ⟨group, listed, rfl, isParent⟩
    · obtain ⟨level, neighbor, reached, rest⟩ := device
      cases level with
      | zero => exact absurd isSwitch ((LayeredGraph.level_zero_iff name).1 reached).2
      | succ level => exact above reached ⟨level + 1, neighbor, reached, rest⟩
    · obtain ⟨member, inGroup, memberParent, _⟩ := isParent
      obtain ⟨level, tier⟩ := grouping.level group listed
      exact above (grouping.level_of_mem listed tier inGroup) memberParent

/-! ## Labels of hosts -/

section

variable {role : SwitchRole} {fabricNodes : List FabricNode} {switches : List Switch}
  {nodes : List Node} {plan : AutoLabelPlan} {maxByTier : GoMap Int Int} {entries : List PlanEntry}
  {state : PlanState}

/-- The label the Node of a name carries, existing or planned. -/
def hostLabel (nodes : List Node) (plan : AutoLabelPlan) (key name : String) : Option String :=
  (desiredLabel plan.nodes name key).or
    (((nodes.foldl (fun table node => table.insert node.name node)
      (∅ : GoMap String Node))[name]?).bind fun node => node.labels[key]?)

section

variable
  (run : PlanRun runtime role template fabricNodes switches nodes plan inputs maxByTier entries
      state)

include run

lemma PlanRun.hostLabel_of_mem {entry : PlanEntry}
    (isEntry : entry ∈ entries) (inGroup : name ∈ entry.group.nodes) :
    ∃ value, hostLabel nodes plan entry.key name = some value := by
  unfold hostLabel
  rcases run.planned.node entry isEntry name inGroup with carried | ⟨_, desired⟩
  · cases found : desiredLabel plan.nodes name entry.key with
    | none => exact ⟨entry.name, carried⟩
    | some value => exact ⟨value, rfl⟩
  · rw [run.plan_eq] at desired
    exact ⟨entry.name, by rw [desired, some_or]⟩

lemma PlanRun.hostLabel_of_base {records : List DiscoveredGroup}
    (normalized : normalizeDiscoveredGroups runtime (discoverInputs runtime
      inputs) inputs.hosts = .ok records) (isHost : host ∈ inputs.hosts)
    (nonempty : host.name ≠ "") (own : host.name ∉ switchNames inputs.switches) :
    ∃ value, hostLabel nodes plan (template.key 1) host.name = some value := by
  have named : host.name ∈ hostNames inputs.hosts := mem_map_of_mem isHost
  obtain ⟨_, reports⟩ := exists_reports run.built named nonempty
  obtain ⟨parent, step⟩ := exists_parentStep_of_base runtime reports ⟨named, own⟩
  rcases exists_group_of_parentStep normalized isHost
    tiersListed_buildTopology step with ⟨group, inTier, isParent⟩
  obtain ⟨entry, isEntry, tier, normalizes⟩ := run.complete 1 group inTier
  have inGroup : host.name ∈ entry.group.nodes := by
    rw [normalizes.nodes, normalizes.name, isParent]
    exact ⟨named, TransGen.single step⟩
  have key : entry.key = template.key 1 := by rw [(run.entry entry isEntry).2.1, tier]
  rw [← key]
  exact run.hostLabel_of_mem isEntry inGroup

/-- A host named like a switch is only labelled if it was before. -/
lemma PlanRun.existing_of_switch
    (normalized : normalizeDiscoveredGroups runtime (discoverInputs runtime
      inputs) inputs.hosts = .ok records)
    (distinct : DistinctGroupNames (discoverInputs runtime inputs)) (isHost : host ∈ inputs.hosts)
    (isSwitch : host.name ∈ switchNames inputs.switches) :
    desiredLabel plan.nodes host.name (template.key 1) = none := by
  cases desired : desiredLabel plan.nodes host.name (template.key 1) with
  | none => rfl
  | some value =>
    exfalso
    rw [← run.plan_eq] at desired
    obtain ⟨entry, isEntry, inGroup, _⟩ := run.planned.nodeSource _ _ _ desired
    obtain ⟨_, _, _, group, normalizes⟩ := run.entry entry isEntry
    obtain ⟨_, leads⟩ := (normalizes.nodes host.name).1 inGroup
    obtain ⟨parent, step, _⟩ := TransGen.head'_iff.1 leads
    rcases exists_group_of_parentStep normalized isHost
      tiersListed_buildTopology step with ⟨lower, inFirst, lowerName⟩
    obtain ⟨tier, above, upper, inTier, upperName⟩ := exists_group_above isSwitch step
    have equal := tier_eq_of_name_eq distinct inFirst inTier (lowerName.trans upperName.symm)
    omega

end

/-- Without Switches of the role every group is on the first tier. -/
lemma tier_eq_one_of_nodeOnly
    (built : buildTopologyInputsForRole runtime role fabricNodes switches = .ok inputs)
    (nodeOnly : inputs.nodeOnly = true)
    (own : ∀ name ∈ hostNames inputs.hosts, name ∉ switchNames inputs.switches)
    (listed : group ∈ (discoverInputs runtime inputs).groupsByTier.getD tier []) : tier = 1 := by
  obtain ⟨level, isTier, member, _, reached⟩ := exists_member_of_group listed
  cases level with
  | zero => omega
  | succ level =>
    exfalso
    obtain ⟨below, linked, belowLevel⟩ := reached.lower
    have isSwitch : member ∈ switchNames inputs.switches := reached.inner
    have belowSwitch : below ∈ switchNames inputs.switches := belowLevel.inner
    rcases linked with reports | reports
    · exact own below (isHost_of_reports built nodeOnly reports) belowSwitch
    · exact own member (isHost_of_reports built nodeOnly reports) isSwitch

end

/-! ## Where the tier error comes from -/

lemma addDesired_ne_nodeOnlyTier
    (differs : ∀ name existing value key tier, conflict name existing value
      key ≠ .nodeOnlyTier tier) :
    addDesired conflict desired name key value ≠ .error (.nodeOnlyTier tier) := by
  intro failed
  simp only [addDesired] at failed
  split at failed
  · split_ifs at failed
    exact differs _ _ _ _ tier (Except.error.inj failed)
  · cases failed

lemma planNode_ne_nodeOnlyTier :
    planNode context tier key name plan nodeName ≠ .error (.nodeOnlyTier other) := by
  intro failed
  unfold planNode at failed
  split at failed
  · split_ifs at failed
    cases failed
  · rw [AutoLabelPlan.addNode] at failed
    cases added : addDesired .conflictingNode plan.nodes nodeName key name with
    | ok nodes =>
      rw [added] at failed
      cases failed
    | error failure =>
      rw [added] at failed
      cases failed
      exact addDesired_ne_nodeOnlyTier (by simp) added

lemma planSwitch_ne_nodeOnlyTier :
    planSwitch context name plan switchName ≠ .error (.nodeOnlyTier other) := by
  intro failed
  simp only [planSwitch] at failed
  split at failed
  · split_ifs at failed
    cases failed
  · split_ifs at failed
    · cases failed
    · rw [AutoLabelPlan.addSwitch] at failed
      cases added : addDesired .conflictingSwitch plan.switches switchName
          topologyDomainLabel name with
      | ok switches =>
        rw [added] at failed
        cases failed
      | error failure =>
        rw [added] at failed
        cases failed
        exact addDesired_ne_nodeOnlyTier (by simp) added

lemma lockedNames_ne_nodeOnlyTier : lockedNames context tier key group ≠
      .error (.nodeOnlyTier other) := by
  intro failed
  rcases bind_eq_error.1 failed with nodes | ⟨_, _, switches⟩
  · obtain ⟨nodeName, _, locked, stepped⟩ := foldlM_eq_error nodes
    unfold lockNode at stepped
    split at stepped
    · cases stepped
    · split at stepped
      · cases stepped
      · split at stepped
        · cases stepped
        · cases stepped
  · obtain ⟨switchName, _, locked, stepped⟩ := foldlM_eq_error switches
    simp only [lockSwitch] at stepped
    split at stepped
    · split_ifs at stepped
      cases stepped
    · split_ifs at stepped
      split at stepped
      · cases stepped
      · cases stepped

lemma planGroup_ne_nodeOnlyTier :
    planGroup runtime context tier key state group ≠ .error (.nodeOnlyTier other) := by
  intro failed
  rcases bind_eq_error.1 failed with locks | ⟨locked, _, afterLocks⟩
  · exact lockedNames_ne_nodeOnlyTier locks
  rcases bind_eq_error.1 afterLocks with choice | ⟨⟨name, maxByTier⟩, _, afterName⟩
  · simp only [chooseName] at choice
    split at choice
    · cases choice
    · cases choice
    · cases choice
  rcases bind_eq_error.1 afterName with claim | ⟨owners, _, afterClaim⟩
  · unfold claimName at claim
    split at claim
    · split_ifs at claim
      cases claim
    · cases claim
  rcases bind_eq_error.1 afterClaim with nodes | ⟨withNodes, _, rest⟩
  · obtain ⟨_, _, _, stepped⟩ := foldlM_eq_error nodes
    exact planNode_ne_nodeOnlyTier stepped
  rcases bind_eq_error.1 rest with planned | ⟨plan, _, result⟩
  · obtain ⟨_, _, _, stepped⟩ := foldlM_eq_error planned
    exact planSwitch_ne_nodeOnlyTier stepped
  · cases result

/-- The tier error names a tier of a group other than the first. -/
lemma planGroups_eq_nodeOnlyTier
    (failed : planGroups runtime template switches nodes inputs maxByTier
      groups = .error (.nodeOnlyTier tier)) :
    inputs.nodeOnly = true ∧ tier ≠ 1 ∧ ∃ group ∈ groups, group.tier = tier := by
  simp only [planGroups] at failed
  cases folded : (Discovery.sortedTierKeys runtime
      ["buildAutoLabelPlan", "tiers"] (groupByTier groups)).foldlM
      (planTier runtime template (planContext nodes switches inputs)
        inputs.nodeOnly (groupByTier groups))
      { plan := .empty, maxByTier := maxByTier, assignedOwners := ∅ } with
  | ok state =>
    rw [folded] at failed
    cases failed
  | error failure =>
    rw [folded] at failed
    cases failed
    obtain ⟨other, listed, state, stepped⟩ := foldlM_eq_error folded
    unfold planTier at stepped
    split_ifs at stepped with nodeOnly
    · cases stepped
      rw [Discovery.sortedTierKeys_eq] at listed
      exact ⟨nodeOnly.1, nodeOnly.2, (mem_keys_groupByTier_iff groups _).1 listed⟩
    · split at stepped
      · cases stepped
      · obtain ⟨_, _, _, inGroup⟩ := foldlM_eq_error stepped
        exact absurd inGroup planGroup_ne_nodeOnlyTier

lemma scanExisting_ne_nodeOnlyTier :
    scanExisting runtime role template switches nodes ≠ .error (.nodeOnlyTier tier) := by
  intro failed
  rcases bind_eq_error.1 failed with byNodes | ⟨_, _, bySwitches⟩
  · obtain ⟨node, _, state, scanned⟩ := foldlM_eq_error byNodes
    obtain ⟨key, _, state, stepped⟩ := foldlM_eq_error scanned
    unfold scanNodeLabel at stepped
    split at stepped
    · cases stepped
    · split at stepped
      · cases stepped
      · cases stepped
  · obtain ⟨switch, _, state, stepped⟩ := foldlM_eq_error bySwitches
    simp only [scanExistingAutoMemberName] at stepped
    split_ifs at stepped
    split at stepped
    · cases stepped
    · cases stepped

/--
In a successful plan with hosts and switches every host ends with a label of
the first tier if the hosts which have no name of their own carry one before;
while the names of the groups are distinct this is also necessary.  If all
hosts have names of their own, a plan without Switches of the role never fails
because of the tier.
-/
theorem hosts_labelled_iff_own_names (runtime : Runtime) (role : SwitchRole) (template : Template)
    (fabricNodes : List FabricNode) (switches : List Switch)
    (nodes : List Node) (inputs : TopologyInputs) (built : buildTopologyInputsForRole runtime role
      (eligibleFabricNodes fabricNodes nodes) switches = .ok inputs) :
    (∀ plan, buildAutoLabelPlan runtime role template fabricNodes switches nodes = .ok plan →
      inputs.hosts ≠ [] → inputs.switches ≠ [] → ((∀ host ∈ inputs.hosts,
            host.name ∈ switchNames inputs.switches ∨ host.name = "" →
              hostLabel nodes .empty (template.key 1) host.name ≠ none) →
          ∀ host ∈ inputs.hosts, hostLabel nodes plan (template.key 1) host.name ≠ none) ∧
        (DistinctGroupNames (discoverInputs runtime inputs) → (∀ host ∈ inputs.hosts,
            hostLabel nodes plan (template.key 1) host.name ≠ none) →
          ∀ host ∈ inputs.hosts, host.name ∈ switchNames inputs.switches →
              hostLabel nodes .empty (template.key 1) host.name ≠ none)) ∧
    ((∀ name ∈ hostNames inputs.hosts, name ∉ switchNames inputs.switches) →
      switchesOfRole role switches = [] →
        ∀ tier, buildAutoLabelPlan runtime role template fabricNodes
          switches nodes ≠ .error (.nodeOnlyTier tier)) := by
  constructor
  · intro plan succeeded hasHosts hasSwitches
    rcases exists_planRun succeeded with ⟨inputs', maxByTier, entries, state, run⟩
    cases run.built.symm.trans built
    have normalized : ∃ records, normalizeDiscoveredGroups runtime
        (discoverInputs runtime inputs) inputs.hosts = .ok records := by
      rcases buildAutoLabelPlan_eq_ok succeeded with ⟨_, other, _, builtToo, finished⟩
      rw [built] at builtToo
      cases builtToo
      rcases finished with ⟨none, _⟩ | ⟨records, isOk, _⟩
      · exact absurd none (not_or.mpr ⟨hasHosts, hasSwitches⟩)
      · exact ⟨records, isOk⟩
    rcases normalized with ⟨records, normalized⟩
    constructor
    · intro existing host isHost
      by_cases named : host.name ∈ switchNames inputs.switches ∨ host.name = ""
      · have before := existing host isHost named
        unfold hostLabel at before ⊢
        cases desired : desiredLabel plan.nodes host.name (template.key 1) with
        | some value => simp
        | none => simpa [AutoLabelPlan.empty, desiredLabel, getD_eq] using before
      · rw [not_or] at named
        rcases run.hostLabel_of_base normalized isHost named.2 named.1 with ⟨value, found⟩
        rw [found]
        exact some_ne_none value
    · intro distinct labelled host isHost isSwitch
      have after := labelled host isHost
      have unplanned := run.existing_of_switch normalized distinct isHost isSwitch
      unfold hostLabel at after ⊢
      rw [unplanned] at after
      simpa [AutoLabelPlan.empty, desiredLabel, getD_eq] using after
  · intro own none tier failed
    rcases bind_eq_error.mp failed with scan | ⟨maxByTier, _, rest⟩
    · exact scanExisting_ne_nodeOnlyTier scan
    · rw [built] at rest
      dsimp only at rest
      split_ifs at rest
      split at rest
      · cases rest
      · next records normalized =>
          rcases planGroups_eq_nodeOnlyTier rest with ⟨nodeOnly, differs, record, listed, isTier⟩
          rcases (normalizeDiscoveredGroups_spec normalized).1 record
            listed with ⟨group, normalizes⟩
          have first := tier_eq_one_of_nodeOnly built nodeOnly own normalizes.listed
          exact differs (isTier.symm.trans first)

/-- One host below a leaf it sees by LLDP. -/
theorem hosts_labelled_iff_own_names_one_leaf :
    ∃ plan, buildAutoLabelPlan .canonical .scaleOut ⟨"tier", ""⟩
        [belowLeaf "n1" "p1"] [] [⟨"n1", ∅⟩] = .ok plan ∧
      hostLabel [⟨"n1", ∅⟩] plan "tier1" "n1" ≠ none := by
  obtain ⟨plan, succeeded⟩ : ∃ plan, buildAutoLabelPlan .canonical .scaleOut ⟨"tier", ""⟩
        [belowLeaf "n1" "p1"] [] [⟨"n1", ∅⟩] = .ok plan := by
    decide +kernel
  obtain ⟨inputs, built, names⟩ : ∃ inputs, buildTopologyInputsForRole .canonical .scaleOut
        (eligibleFabricNodes [belowLeaf "n1" "p1"] [⟨"n1", ∅⟩]) [] =
        .ok inputs ∧
      inputs.hosts = [⟨"n1"⟩] ∧ switchNames inputs.switches = ["leaf"] := by
    decide +kernel
  refine ⟨plan, succeeded, ?_⟩
  have isKey : (⟨"tier", ""⟩ : Template).key 1 = "tier1" := by decide +kernel
  rw [← isKey]
  refine ((hosts_labelled_iff_own_names .canonical .scaleOut
    ⟨"tier", ""⟩ _ [] _ inputs built).1 plan succeeded ?_ ?_).1 ?_
    ⟨"n1"⟩ ?_
  · rw [names.1]
    exact cons_ne_nil _ _
  · intro none
    rw [none] at names
    cases names.2
  · intro host isHost named
    rw [names.1, mem_singleton] at isHost
    rw [names.2, isHost] at named
    simp at named
  · rw [names.1]
    exact mem_singleton_self _

/--
Two hosts wired to each other: each is taken for the leaf of the other, no
host is left in the graph, and the plan succeeds without a label.  With a leaf
above them the group of the two is on tier 2, which the plan refuses.
-/
theorem hosts_named_like_leaves_lost :
    let nodes : List Node := [⟨"n1", ∅⟩, ⟨"n2", ∅⟩]
    let wired : List FabricNode :=
      [⟨"n1", none, [⟨"up", ⟨"n2", "p1"⟩⟩], []⟩, ⟨"n2", none, [⟨"up", ⟨"n1", "p1"⟩⟩], []⟩]
    ((buildAutoLabelPlan .canonical .scaleOut ⟨"tier", ""⟩ wired [] nodes).toOption.map fun plan =>
        (hostLabel nodes plan "tier1" "n1", hostLabel nodes plan "tier1" "n2")) =
        some (none, none) ∧
      ((buildTopologyInputsForRole .canonical .scaleOut wired []).toOption.map
        fun inputs => (hostNames inputs.hosts, switchNames inputs.switches)) =
        some (["n1", "n2"], ["n1", "n2"]) ∧ (buildAutoLabelPlan .canonical .scaleOut ⟨"tier", ""⟩
        [belowLeaf "n1" "p1", ⟨"n2", none, [⟨"up", ⟨"leaf", "p2"⟩⟩, ⟨"up", ⟨"n3", "p1"⟩⟩], []⟩,
          ⟨"n3", none, [⟨"up", ⟨"leaf", "p3"⟩⟩, ⟨"up", ⟨"n2", "p1"⟩⟩], []⟩] []
        [⟨"n1", ∅⟩, ⟨"n2", ∅⟩, ⟨"n3", ∅⟩]).map (fun _ => ()) = .error (.nodeOnlyTier 2) := by
  refine ⟨?_, ?_, ?_⟩
  · decide +kernel
  · decide +kernel
  · decide +kernel

end Unifabric.SwitchTopology
