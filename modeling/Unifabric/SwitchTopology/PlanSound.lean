import Unifabric.SwitchTopology.Existing
import Unifabric.SwitchTopology.ParentTree

/-!
# Labels after a plan

The labels of a successful plan, added to the existing ones, encode the
discovered groups: Nodes carry the same value on a tier exactly if they are
below the same group, and Switches carry the value of their group.
-/

namespace Unifabric.SwitchTopology

open Lib V1beta1 TopologyLabel List GoMap

variable {nodes : List Node} {switches : List Switch} {inputs : TopologyInputs}
  {entries : List PlanEntry} {state : PlanState}
open Unifabric.Discovery (Topology TopologyGroup DistinctGroupNames hostNames switchNames)

variable {node : Node} {switch : Switch} {entry : PlanEntry}

/-! ## The stages of a plan -/

lemma buildAutoLabelPlan_eq_ok
    (succeeded : buildAutoLabelPlan runtime role template fabricNodes switches nodes = .ok plan) :
    ∃ maxByTier inputs, scanExisting runtime role template switches nodes = .ok maxByTier ∧
      buildTopologyInputsForRole runtime role
        (eligibleFabricNodes fabricNodes nodes) switches = .ok inputs ∧
      ((inputs.hosts = [] ∨ inputs.switches = []) ∧ plan = .empty ∨
        ∃ groups, normalizeDiscoveredGroups runtime
            (discoverInputs runtime inputs) inputs.hosts = .ok groups ∧
          planGroups runtime template switches nodes inputs maxByTier groups = .ok plan) := by
  obtain ⟨maxByTier, scanned, rest⟩ := bind_eq_ok.1 succeeded
  refine ⟨maxByTier, ?_⟩
  split at rest
  · simp at rest
  · next inputs built =>
    refine ⟨inputs, scanned, built, ?_⟩
    split_ifs at rest with empty
    · cases rest
      refine .inl ⟨?_, rfl⟩
      simpa [List.isEmpty_iff] using empty
    · split at rest
      · simp at rest
      · next groups normalized => exact .inr ⟨groups, normalized, rest⟩

lemma buildAutoLabelPlan_succeeds
    (scanned : scanExisting runtime role template switches nodes = .ok maxByTier)
    (built : buildTopologyInputsForRole runtime role
      (eligibleFabricNodes fabricNodes nodes) switches = .ok inputs)
    (finished : inputs.hosts = [] ∨ inputs.switches = [] ∨
      ∃ groups plan, normalizeDiscoveredGroups runtime
          (discoverInputs runtime inputs) inputs.hosts = .ok groups ∧
        planGroups runtime template switches nodes inputs maxByTier groups = .ok plan) :
    ∃ plan, buildAutoLabelPlan runtime role template fabricNodes switches nodes = .ok plan := by
  by_cases empty : inputs.hosts.isEmpty ∨ inputs.switches.isEmpty
  · refine ⟨.empty, bind_eq_ok.2 ⟨maxByTier, scanned, ?_⟩⟩
    rw [built]
    exact if_pos empty
  · have nonempty := empty
    rw [List.isEmpty_iff, List.isEmpty_iff, not_or] at nonempty
    rcases finished with none | none | ⟨groups, plan, normalized, planned⟩
    · exact absurd none nonempty.1
    · exact absurd none nonempty.2
    · refine ⟨plan, bind_eq_ok.2 ⟨maxByTier, scanned, ?_⟩⟩
      rw [built]
      dsimp only
      rw [if_neg empty, normalized]
      exact planned

/-! ## Labels after the plan -/

section

/-- The label of an object after the desired labels are added. -/
def labelAfter (desired : GoMap String Labels) (name : String)
    (existing : Labels) (key : String) : Option String :=
  match desiredLabel desired name key with
  | some value => some value
  | none => existing[key]?

/-- The label a Node carries once the plan is applied. -/
def nodeLabelAfter (plan : AutoLabelPlan) (node : Node) (key : String) : Option String :=
  labelAfter plan.nodes node.name node.labels key

/-- The domain a Switch carries once the plan is applied. -/
def domainAfter (plan : AutoLabelPlan) (switch : Switch) : Option String :=
  labelAfter plan.switches switch.name switch.labels topologyDomainLabel

/-- Discovery places the Node below the group. -/
def PlacedBelow (topology : Topology) (inputs : TopologyInputs)
    (node : Node) (group : TopologyGroup) : Prop :=
  node.name ∈ hostNames inputs.hosts ∧ LeadsTo topology.parentIndex node.name group.name

variable {initialMax : GoMap Int Int}

lemma nodeLabel_planContext (unique : (nodes.map Node.name).Nodup)
    (listed : node ∈ nodes) (key : String) :
    (planContext nodes switches inputs).nodeLabel key node.name = node.labels[key]? := by
  have found : (planContext nodes switches inputs).nodesByName[node.name]? = some node :=
    getElem?_foldl_insert_of_mem unique listed
  unfold PlanContext.nodeLabel
  rw [found]
  rfl

lemma switchesByName_planContext (unique : (switches.map Switch.name).Nodup)
    (listed : switch ∈ switches) :
    (planContext nodes switches inputs).switchesByName[switch.name]? = some switch :=
  getElem?_foldl_insert_of_mem unique listed

lemma switchDomain_planContext (unique : (switches.map Switch.name).Nodup)
    (listed : switch ∈ switches) : (planContext nodes switches inputs).switchDomain switch.name =
      switch.labels.getD topologyDomainLabel "" := by
  unfold PlanContext.switchDomain
  rw [switchesByName_planContext unique listed]
  rfl

lemma Planned.nodeLabelAfter_eq
    (planned : Planned (planContext nodes switches inputs) initialMax entries state)
    (unique : (nodes.map Node.name).Nodup) (listed : node ∈ nodes) (isEntry : entry ∈ entries)
    (inGroup : node.name ∈ entry.group.nodes) :
    nodeLabelAfter state.plan node entry.key = some entry.name := by
  have label : (planContext nodes switches inputs).nodeLabel entry.key
      node.name = node.labels[entry.key]? :=
    nodeLabel_planContext unique listed entry.key
  unfold nodeLabelAfter labelAfter
  rcases planned.node entry isEntry node.name inGroup with carried | ⟨_, desired⟩
  · cases found : desiredLabel state.plan.nodes node.name entry.key with
    | none => exact label.symm.trans carried
    | some value =>
      obtain ⟨_, _, _, _, _, free⟩ := planned.nodeSource node.name entry.key value found
      rw [carried] at free
      cases free
  · rw [desired]

/-- A Switch of a processed group carries the name of the group. -/
lemma Planned.domainAfter_eq
    (planned : Planned (planContext nodes switches inputs) initialMax entries state)
    (unique : (switches.map Switch.name).Nodup) (listed : switch ∈ switches)
    (isEntry : entry ∈ entries) (nonempty : entry.name ≠ "")
    (inGroup : switch.name ∈ entry.group.members) :
    domainAfter state.plan switch = some entry.name := by
  have domain : (planContext nodes switches inputs).switchDomain
      switch.name = switch.labels.getD topologyDomainLabel "" :=
    switchDomain_planContext unique listed
  unfold domainAfter labelAfter
  rcases planned.switch entry isEntry switch.name inGroup switch
    (switchesByName_planContext unique listed) with
    carried | ⟨_, desired⟩
  · cases found : desiredLabel state.plan.switches switch.name topologyDomainLabel with
    | none =>
      rw [domain, getD_eq] at carried
      cases existing : switch.labels[topologyDomainLabel]? with
      | none =>
        rw [existing] at carried
        exact absurd carried.symm nonempty
      | some value =>
        rw [existing] at carried
        exact congrArg some carried
    | some value =>
      rcases planned.switchSource switch.name topologyDomainLabel value
        found with ⟨_, _, _, _, _, free, _⟩
      rw [carried] at free
      exact absurd free nonempty
  · rw [desired]

lemma autoDomainName_ne_empty (tier number : Int) : autoDomainName tier number ≠ "" := by
  intro empty
  have texts := congrArg String.toList empty
  rw [autoDomainName, String.toList_ofList] at texts
  cases texts

/-- The name of a processed group is an automatic name of its tier. -/
lemma Planned.eq_autoDomainName (planned : Planned context initialMax entries state)
    (isEntry : entry ∈ entries) : ∃ number, entry.name = autoDomainName entry.tier number := by
  obtain ⟨before, after, split⟩ := append_of_mem isEntry
  rcases planned.named before entry after split with ⟨_, parses⟩ | ⟨_, named⟩
  · exact parses.eq_autoDomainName
  · exact ⟨_, named⟩

lemma Planned.name_ne_empty (planned : Planned context initialMax entries state)
    (isEntry : entry ∈ entries) : entry.name ≠ "" := by
  obtain ⟨number, named⟩ := planned.eq_autoDomainName isEntry
  rw [named]
  exact autoDomainName_ne_empty _ _

lemma ownerOf_injective (positive : 0 ≤ tier) (positive' : 0 ≤ tier')
    (equal : ownerOf tier name = ownerOf tier' name') : tier = tier' ∧ name = name' := by
  obtain ⟨n, rfl⟩ := Int.eq_ofNat_of_zero_le positive
  obtain ⟨m, rfl⟩ := Int.eq_ofNat_of_zero_le positive'
  have texts := append_cancel_left (String.ofList_inj.1 equal)
  obtain ⟨same, rest⟩ := digits_append_injective (by decide : (':').isDigit = false) texts
  exact ⟨congrArg Int.ofNat same, String.toList_inj.1 rest⟩

end

/-! ## The run of a plan -/

section

variable {runtime : Runtime} {role : SwitchRole} {template : Template}
  {fabricNodes : List FabricNode} {plan : AutoLabelPlan}

/-- The options of the discovery run of a plan. -/
abbrev planOptions : Discovery.DiscoverOptions :=
  Discovery.withHashLength 40 (Discovery.withHashGroupName Discovery.defaultDiscoverOptions)

lemma exists_member_of_group
    (listed : group ∈ (discoverInputs runtime inputs).groupsByTier.getD tier []) :
    ∃ level : Nat, tier = (level + 1 : Nat) ∧ ∃ member ∈ group.members,
      (Discovery.fabric inputs.hosts inputs.switches).Level (level + 1) member := by
  have tiered := Discovery.tieredGraph_tiered runtime inputs.hosts inputs.switches
  rcases (Discovery.mem_groupsByTier_iff runtime tiered _ tier group).1
    listed with ⟨isGroup, isTier⟩
  have grouping := Discovery.discoveredGroups_grouping runtime tiered planOptions
  obtain ⟨level, groupTier⟩ := grouping.level group isGroup
  obtain ⟨start, reached, isClass⟩ := grouping.isClass group isGroup level groupTier
  exact ⟨level, isTier.symm.trans groupTier, start,
    (isClass start).2 Relation.ReflTransGen.refl, reached⟩

lemma groupsByTier_empty (empty : inputs.hosts = [] ∨ inputs.switches = []) (tier : Int) :
    (discoverInputs runtime inputs).groupsByTier.getD tier [] = [] := by
  refine eq_nil_iff_forall_not_mem.2 fun group listed => ?_
  obtain ⟨level, _, member, _, reached⟩ := exists_member_of_group listed
  rcases empty with noHosts | noSwitches
  · obtain ⟨host, isBase, _⟩ := reached.connected_base
    have isHost : host ∈ hostNames inputs.hosts := isBase.1
    simp [noHosts, hostNames] at isHost
  · have isSwitch : member ∈ switchNames inputs.switches := reached.inner
    simp [noSwitches, switchNames] at isSwitch

/-- The groups of a plan; none if the discovered groups are refused. -/
def discoveredRecords (runtime : Runtime) (inputs : TopologyInputs) : List DiscoveredGroup :=
  (normalizeDiscoveredGroups runtime (discoverInputs runtime inputs) inputs.hosts).toOption.getD []

lemma normalizes_of_mem_discoveredRecords (listed : record ∈ discoveredRecords runtime inputs) :
    ∃ group, Normalizes (discoverInputs runtime inputs) inputs.hosts group record := by
  unfold discoveredRecords at listed
  cases normalized : normalizeDiscoveredGroups runtime
      (discoverInputs runtime inputs) inputs.hosts with
  | error failure => simp [normalized, Except.toOption] at listed
  | ok records =>
    rw [normalized] at listed
    exact (normalizeDiscoveredGroups_spec normalized).1 record listed

/-- The run behind a successful plan. -/
structure PlanRun (runtime : Runtime) (role : SwitchRole)
    (template : Template) (fabricNodes : List FabricNode)
    (switches : List Switch) (nodes : List Node) (plan : AutoLabelPlan)
    (inputs : TopologyInputs) (maxByTier : GoMap Int Int)
    (entries : List PlanEntry) (state : PlanState) : Prop where
  scanned : scanExisting runtime role template switches nodes = .ok maxByTier
  built : buildTopologyInputsForRole runtime role
    (eligibleFabricNodes fabricNodes nodes) switches = .ok inputs
  planned : Planned (planContext nodes switches inputs) maxByTier entries state
  plan_eq : state.plan = plan
  entry : ∀ entry ∈ entries, 1 ≤ entry.tier ∧ entry.key = template.key entry.tier ∧
    entry.group.tier = entry.tier ∧
    ∃ group, Normalizes (discoverInputs runtime inputs) inputs.hosts group entry.group
  complete : ∀ tier, ∀ group ∈ (discoverInputs runtime inputs).groupsByTier.getD tier [],
    ∃ entry ∈ entries, entry.tier = tier ∧
      Normalizes (discoverInputs runtime inputs) inputs.hosts group entry.group
  normalized : entries = [] ∨ ∃ groups, normalizeDiscoveredGroups runtime
    (discoverInputs runtime inputs) inputs.hosts = .ok groups
  order : entries.map PlanEntry.group = planOrder runtime (discoveredRecords runtime inputs)
  full : plan.Full

lemma exists_planRun
    (succeeded : buildAutoLabelPlan runtime role template fabricNodes switches nodes = .ok plan) :
    ∃ inputs maxByTier entries state, PlanRun runtime role template
      fabricNodes switches nodes plan inputs maxByTier entries state := by
  obtain ⟨maxByTier, inputs, scanned, built, finished⟩ := buildAutoLabelPlan_eq_ok succeeded
  have inRange := wrapInt_scanExisting scanned
  rcases finished with ⟨empty, rfl⟩ | ⟨groups, normalized, planned⟩
  · refine ⟨inputs, maxByTier, [], _, scanned, built, planned_nil inRange,
      rfl, by simp, ?_, .inl rfl, ?_, ?_⟩
    · intro tier group listed
      simp [groupsByTier_empty empty] at listed
    · have none : discoveredRecords runtime inputs = [] := by
        refine eq_nil_iff_forall_not_mem.2 fun record listed => ?_
        obtain ⟨group, normalizes⟩ := normalizes_of_mem_discoveredRecords listed
        have inTier := normalizes.listed
        rw [groupsByTier_empty empty] at inTier
        cases inTier
      rw [none]
      exact (List.Perm.eq_nil (planOrder_perm [])).symm
    · exact ⟨by simp [AutoLabelPlan.empty, AllDesired], by simp [AutoLabelPlan.empty, AllDesired]⟩
  · obtain ⟨entries, state, isPlanned, isPlan, keys, order⟩ := planGroups_eq_ok inRange planned
    obtain ⟨records, covered⟩ := normalizeDiscoveredGroups_spec normalized
    have listedIff : ∀ record, record ∈ entries.map PlanEntry.group ↔ record ∈ groups := by
      intro record
      rw [order, mem_planOrder_iff]
    refine ⟨inputs, maxByTier, entries, state, scanned, built, isPlanned,
      isPlan, ?_, ?_, .inr ⟨groups, normalized⟩, ?_,
      planGroups_full planned⟩
    · intro entry listed
      have inGroups := (listedIff _).1 (mem_map_of_mem listed)
      have positive := (tiers_of_planGroups planned inGroups).1
      rw [(keys entry listed).1] at positive
      exact ⟨positive, (keys entry listed).2, (keys entry listed).1, records _ inGroups⟩
    · intro tier group listed
      obtain ⟨level, isTier, _⟩ := exists_member_of_group listed
      obtain ⟨record, inGroups, recordTier, normalizes⟩ := covered tier (by omega) group listed
      obtain ⟨entry, isEntry, rfl⟩ := mem_map.1 ((listedIff record).2 inGroups)
      refine ⟨entry, isEntry, ?_, normalizes⟩
      rw [← recordTier, (keys entry isEntry).1]
    · rw [discoveredRecords, normalized]
      exact order

variable {maxByTier : GoMap Int Int}

section

variable
  (run : PlanRun runtime role template fabricNodes switches nodes plan inputs maxByTier entries
      state)

include run

lemma PlanRun.mem_discoveredRecords_iff (record : DiscoveredGroup) :
    record ∈ discoveredRecords runtime inputs ↔ ∃ entry ∈ entries, entry.group = record := by
  have perm : (planOrder runtime (discoveredRecords runtime inputs)).Perm
      (discoveredRecords runtime inputs) :=
    planOrder_perm _
  rw [← perm.mem_iff, ← run.order, mem_map]

/-- A Node below a group is labelled with the name of its entry. -/
lemma PlanRun.nodeLabelAfter_eq (unique : (nodes.map Node.name).Nodup) (listed : node ∈ nodes)
    (isEntry : entry ∈ entries)
    (normalizes : Normalizes (discoverInputs runtime inputs) inputs.hosts group entry.group)
    (placed : PlacedBelow (discoverInputs runtime inputs) inputs node group) :
    nodeLabelAfter plan node (template.key entry.tier) = some entry.name := by
  rw [← run.plan_eq, ← (run.entry entry isEntry).2.1]
  refine run.planned.nodeLabelAfter_eq unique listed isEntry ?_
  rw [normalizes.nodes, normalizes.name]
  exact placed

lemma PlanRun.eq_of_name_eq (isLeft : left ∈ entries) (isRight : right ∈ entries)
    (equal : left.name = right.name) :
    left.tier = right.tier ∧ left.group.internalName = right.group.internalName := by
  have leftOwner := run.planned.owner left isLeft
  have rightOwner := run.planned.owner right isRight
  rw [equal, rightOwner] at leftOwner
  have leftPositive := (run.entry left isLeft).1
  have rightPositive := (run.entry right isRight).1
  exact ownerOf_injective (by omega) (by omega) (Option.some.inj leftOwner).symm

end

end

/-! ## Soundness -/

/--
After a successful plan two Nodes below groups of a tier carry the same value
on that tier exactly if they are below the same group, and a Switch of a group
carries the value of the Nodes below the group and of no Node below another.
-/
theorem buildAutoLabelPlan_labels_groups (runtime : Runtime)
    (role : SwitchRole) (template : Template)
    (fabricNodes : List FabricNode) (switches : List Switch)
    (nodes : List Node)
    (uniqueNodes : (nodes.map Node.name).Nodup)
    (uniqueSwitches : (switches.map Switch.name).Nodup)
    (plan : AutoLabelPlan) (inputs : TopologyInputs)
    (succeeded : buildAutoLabelPlan runtime role template fabricNodes switches nodes = .ok plan)
    (built : buildTopologyInputsForRole runtime role
      (eligibleFabricNodes fabricNodes nodes) switches = .ok inputs)
    (distinct : DistinctGroupNames (discoverInputs runtime inputs)) :
    let topology := discoverInputs runtime inputs
    (∀ tier key, template.render tier = .ok key → ∀ left ∈ nodes, ∀ right ∈ nodes,
      ∀ leftGroup ∈ topology.groupsByTier.getD tier [],
      ∀ rightGroup ∈ topology.groupsByTier.getD tier [],
      PlacedBelow topology inputs left leftGroup →
      PlacedBelow topology inputs right rightGroup →
        (∃ value, nodeLabelAfter plan left key = some value) ∧
        (nodeLabelAfter plan left key = nodeLabelAfter plan right key ↔
          ∃ group ∈ topology.groupsByTier.getD tier [], PlacedBelow topology inputs left group ∧
              PlacedBelow topology inputs right group)) ∧
    ∀ tier key, template.render tier = .ok key → ∀ group ∈ topology.groupsByTier.getD tier [],
      ∀ switch ∈ switches, effectiveSwitchRole switch = role →
      switch.name ∈ group.members → ∃ value, domainAfter plan switch = some value ∧
          (∀ node ∈ nodes, PlacedBelow topology inputs node group →
            nodeLabelAfter plan node key = some value) ∧
          ∀ tier' key', template.render tier' = .ok key' →
            ∀ other ∈ topology.groupsByTier.getD tier' [],
            ¬ (tier' = tier ∧ Discovery.SameMembers other group) →
            ∀ node ∈ nodes, PlacedBelow topology inputs node other →
              nodeLabelAfter plan node key' ≠ some value := by
  intro topology
  rcases exists_planRun succeeded with ⟨inputs', maxByTier, entries, state, run⟩
  cases run.built.symm.trans built
  constructor
  · intro tier key rendered left leftListed right rightListed leftGroup
      inLeft rightGroup inRight leftPlaced rightPlaced
    rcases render_eq_ok_iff.mp rendered with ⟨_, rfl⟩
    rcases run.complete tier leftGroup inLeft with ⟨leftEntry, isLeft, rfl, leftNormalizes⟩
    rcases run.complete leftEntry.tier rightGroup inRight with
      ⟨rightEntry, isRight, sameTier, rightNormalizes⟩
    have leftLabel := run.nodeLabelAfter_eq uniqueNodes leftListed isLeft leftNormalizes leftPlaced
    have rightLabel := run.nodeLabelAfter_eq uniqueNodes rightListed
      isRight rightNormalizes rightPlaced
    rw [sameTier] at rightLabel
    refine ⟨⟨leftEntry.name, leftLabel⟩, ?_⟩
    constructor
    · intro equal
      rw [leftLabel, rightLabel, Option.some.injEq] at equal
      have sameName := (run.eq_of_name_eq isLeft isRight equal).2
      rw [leftNormalizes.name, rightNormalizes.name] at sameName
      refine ⟨leftGroup, inLeft, leftPlaced, rightPlaced.1, ?_⟩
      rw [sameName]
      exact rightPlaced.2
    · rintro ⟨group, inGroup, leftBelow, rightBelow⟩
      rcases run.complete leftEntry.tier group inGroup with ⟨entry, isEntry, entryTier, normalizes⟩
      have leftAgain := run.nodeLabelAfter_eq uniqueNodes leftListed isEntry normalizes leftBelow
      have rightAgain := run.nodeLabelAfter_eq uniqueNodes rightListed isEntry normalizes rightBelow
      rw [entryTier] at leftAgain rightAgain
      rw [leftAgain, rightAgain]
  · intro tier key rendered group inGroup switch isSwitch _ isMember
    rcases render_eq_ok_iff.mp rendered with ⟨_, rfl⟩
    rcases run.complete tier group inGroup with ⟨entry, isEntry, rfl, normalizes⟩
    refine ⟨entry.name, ?_, ?_, ?_⟩
    · rw [← run.plan_eq]
      refine run.planned.domainAfter_eq uniqueSwitches isSwitch isEntry
        (run.planned.name_ne_empty isEntry) ?_
      rw [normalizes.members, mem_sortValues]
      exact isMember
    · intro node isNode placed
      exact run.nodeLabelAfter_eq uniqueNodes isNode isEntry normalizes placed
    · intro tier' key' rendered' other inOther differs node isNode placed carried
      rcases render_eq_ok_iff.mp rendered' with ⟨_, rfl⟩
      rcases run.complete tier' other inOther with ⟨otherEntry, isOther, rfl, otherNormalizes⟩
      have label := run.nodeLabelAfter_eq uniqueNodes isNode isOther otherNormalizes placed
      rw [label, Option.some.injEq] at carried
      have same := (run.eq_of_name_eq isOther isEntry carried).2
      rw [otherNormalizes.name, normalizes.name] at same
      exact differs (distinct _ (Discovery.mem_keys_of_mem_getD inOther) _
        (Discovery.mem_keys_of_mem_getD inGroup) other inOther group
        inGroup same)

/-- A FabricNode with one link, to a leaf. -/
def belowLeaf (name port : String) : FabricNode := ⟨name, none, [⟨"up", ⟨"leaf", port⟩⟩], []⟩

/-- A leaf without labels which reports nothing. -/
def leafSwitch : Switch := ⟨"leaf", ∅, ∅, none, "", []⟩

/-- Two Nodes below one leaf. -/
theorem buildAutoLabelPlan_labels_groups_one_leaf :
    let fabricNodes := [belowLeaf "n1" "p1", belowLeaf "n2" "p2"]
    ∃ plan inputs, buildAutoLabelPlan .canonical .scaleOut ⟨"tier", ""⟩
        fabricNodes [leafSwitch] [⟨"n1", ∅⟩, ⟨"n2", ∅⟩] = .ok plan ∧
      buildTopologyInputsForRole .canonical .scaleOut fabricNodes [leafSwitch] = .ok inputs ∧
      ∀ group ∈ (discoverInputs .canonical inputs).groupsByTier.getD 1 [],
        "leaf" ∈ group.members → ∃ value, domainAfter plan leafSwitch = some value := by
  intro fabricNodes
  obtain ⟨plan, succeeded⟩ : ∃ plan, buildAutoLabelPlan .canonical .scaleOut ⟨"tier", ""⟩
      fabricNodes [leafSwitch] [⟨"n1", ∅⟩, ⟨"n2", ∅⟩] = .ok plan := by
    decide +kernel
  obtain ⟨inputs, built, named⟩ : ∃ inputs, buildTopologyInputsForRole .canonical .scaleOut
      fabricNodes [leafSwitch] = .ok inputs ∧
        DistinctGroupNames (discoverInputs .canonical inputs) := by
    decide +kernel
  refine ⟨plan, inputs, succeeded, built, fun group listed isMember => ?_⟩
  obtain ⟨value, domain, _⟩ := (buildAutoLabelPlan_labels_groups .canonical .scaleOut
    ⟨"tier", ""⟩ _ _ _ (by decide) (by decide) plan inputs succeeded built named).2 1 "tier1"
    (by decide +kernel) group listed leafSwitch (by simp) rfl isMember
  exact ⟨value, domain⟩

end Unifabric.SwitchTopology
