import Unifabric.SwitchTopology.PlanSound

/-!
# Isolation of roles

The plan of a role scans, and builds its inputs from, the Switches of that
role, but looks the members of a group up among all Switches.  The result
depends on the Switches of the role alone exactly as long as no Switch of
another role is named like a member of a group.
-/

namespace Unifabric.SwitchTopology

open Lib V1beta1 TopologyLabel List

variable {switches : List Switch}
open Unifabric.Discovery (fabric)

/-! ## The plan of the Switches of a role -/

section

variable {runtime : Runtime} {role : SwitchRole} {template : Template}
  {fabricNodes : List FabricNode} {nodes : List Node}

lemma switchesOfRole_idem : switchesOfRole role (switchesOfRole role switches) =
      switchesOfRole role switches := by
  unfold switchesOfRole
  rw [filter_filter]
  simp only [Bool.and_self]

lemma scanExisting_ofRole : scanExisting runtime role template (switchesOfRole role switches)
        nodes = scanExisting runtime role template switches nodes := by
  unfold scanExisting
  rw [switchesOfRole_idem]

lemma buildTopologyInputsForRole_ofRole : buildTopologyInputsForRole runtime role fabricNodes
        (switchesOfRole role switches) =
      buildTopologyInputsForRole runtime role fabricNodes switches := by
  unfold buildTopologyInputsForRole
  rw [switchesOfRole_idem]

/-- Contexts which agree on the members of a group plan it alike. -/
lemma planGroup_congr (left right : PlanContext) (sameNodes : left.nodesByName = right.nodesByName)
    (sameSynthetic : left.syntheticSwitches = right.syntheticSwitches)
    (agree : ∀ name ∈ group.members, left.switchesByName[name]? = right.switchesByName[name]?)
    (tier : Int) (key : String) (state : PlanState) :
    planGroup runtime left tier key state group = planGroup runtime right tier key state group := by
  have nodeLocks : lockNode left tier key = lockNode right tier key := by
    funext locked nodeName
    unfold lockNode
    rw [sameNodes]
  have switchLocks : ∀ locked, group.members.foldlM (lockSwitch left tier) locked =
        group.members.foldlM (lockSwitch right tier) locked := by
    refine foldlM_congr fun name listed locked => ?_
    unfold lockSwitch
    rw [agree name listed, sameSynthetic]
  have nodePlans : ∀ name, planNode left tier key name = planNode right tier key name := by
    intro name
    funext plan nodeName
    unfold planNode
    rw [sameNodes]
  have switchPlans : ∀ name plan, group.members.foldlM (planSwitch left name) plan =
        group.members.foldlM (planSwitch right name) plan := by
    intro name
    refine foldlM_congr fun switchName listed plan => ?_
    unfold planSwitch
    rw [agree switchName listed, sameSynthetic]
  simp only [planGroup, lockedNames, nodeLocks, switchLocks, nodePlans, switchPlans]

/-- Contexts which agree on the members of all groups plan alike. -/
lemma planGroups_congr {inputs : TopologyInputs}
    (agree : ∀ group ∈ groups, ∀ name ∈ group.members,
      (planContext nodes switches inputs).switchesByName[name]? =
        (planContext nodes others inputs).switchesByName[name]?) :
    planGroups runtime template switches nodes inputs maxByTier groups =
      planGroups runtime template others nodes inputs maxByTier
        groups := by
  refine congrArg (Except.map PlanState.plan) (foldlM_congr (fun tier _ state => ?_) _)
  unfold planTier
  split_ifs
  · rfl
  · split
    · rfl
    · refine foldlM_congr (fun group listed state => ?_) _
      rw [Sorter.mem_sortSlice, mem_groupByTier_iff] at listed
      exact planGroup_congr (planContext nodes switches inputs)
        (planContext nodes others inputs) rfl rfl (agree group listed.1)
        tier _ state

end

/-! ## Members of groups -/

section

variable {runtime : Runtime} {inputs : TopologyInputs}

/-- A switch of the inputs which discovery connects to a host. -/
def Connects (inputs : TopologyInputs) (name : String) : Prop :=
  ∃ level, (fabric inputs.hosts inputs.switches).Level (level + 1) name

lemma Normalizes.connects
    (normalizes : Normalizes (discoverInputs runtime inputs) inputs.hosts group record)
    {name : String} (isMember : name ∈ record.members) : Connects inputs name := by
  have tiered := Discovery.tieredGraph_tiered runtime inputs.hosts inputs.switches
  rcases (Discovery.mem_groupsByTier_iff runtime tiered _ record.tier
    group).1 normalizes.listed with ⟨isGroup, _⟩
  have grouping := Discovery.discoveredGroups_grouping runtime tiered planOptions
  obtain ⟨level, tier⟩ := grouping.level group isGroup
  rw [normalizes.members, mem_sortValues] at isMember
  exact ⟨level, grouping.level_of_mem isGroup tier isMember⟩

end

/-! ## Isolation -/

section

variable (runtime : Runtime) (role : SwitchRole) (template : Template)
  (fabricNodes : List FabricNode) (nodes : List Node)

/--
The result is that of the Switches of the role alone, and every Switch in the
plan is one of them.
-/
def RoleIsolated (switches : List Switch) : Prop :=
  buildAutoLabelPlan runtime role template fabricNodes switches nodes =
      buildAutoLabelPlan runtime role template fabricNodes (switchesOfRole role switches) nodes ∧
    ∀ plan, buildAutoLabelPlan runtime role template fabricNodes switches nodes = .ok plan →
      ∀ name ∈ plan.switches, ∃ switch ∈ switches,
        switch.name = name ∧ effectiveSwitchRole switch = role

/--
No Switch of another role has the name of a switch of the role's inputs which
discovery connects to a host.
-/
def NamesOfRole (switches : List Switch) : Prop :=
  ∀ inputs, buildTopologyInputsForRole runtime role
      (eligibleFabricNodes fabricNodes nodes) switches = .ok inputs →
    ∀ switch ∈ switches, effectiveSwitchRole switch ≠ role → ¬ Connects inputs switch.name

/-- The lists differ only in the Switches of other roles. -/
def SameRolePart (switches others : List Switch) : Prop :=
  switchesOfRole role switches = switchesOfRole role others

/-- The same Switches, those of other roles with other labels. -/
def Relabelled (switches others : List Switch) : Prop :=
  List.Forall₂ (fun switch other =>
    switch.name = other.name ∧ effectiveSwitchRole switch = effectiveSwitchRole other ∧
      (effectiveSwitchRole switch = role → switch = other))
    switches others

variable {runtime role template fabricNodes nodes}

lemma Relabelled.sameRolePart (relabelled : Relabelled role switches others) :
    SameRolePart role switches others := by
  unfold SameRolePart switchesOfRole
  induction relabelled with
  | nil => rfl
  | cons same _ ih =>
    obtain ⟨_, sameRole, identical⟩ := same
    rw [filter_cons, filter_cons, ih]
    simp only [beq_iff_eq, ← sameRole]
    split_ifs with isRole
    · rw [identical isRole]
    · rfl

lemma PlanRun.switch_of_mem (run : PlanRun runtime role template fabricNodes switches nodes plan
      inputs maxByTier entries state) (listed : name ∈ plan.switches) :
    Connects inputs name ∧ ∃ switch ∈ switches, switch.name = name := by
  obtain ⟨key, value, desired⟩ := run.full.2 name listed
  rw [← run.plan_eq] at desired
  rcases run.planned.switchSource name key value desired with
    ⟨entry, isEntry, isMember, _, _, _, switch, found⟩
  obtain ⟨_, _, _, group, normalizes⟩ := run.entry entry isEntry
  refine ⟨normalizes.connects isMember, ?_⟩
  exact ⟨switch, GoMap.mem_of_foldl_insert found⟩

/-- Where only Switches of the role are looked up, only they matter. -/
lemma buildAutoLabelPlan_ofRole (names : NamesOfRole runtime role fabricNodes nodes switches) :
    buildAutoLabelPlan runtime role template fabricNodes switches nodes =
      buildAutoLabelPlan runtime role template fabricNodes
        (switchesOfRole role switches) nodes := by
  unfold buildAutoLabelPlan
  rw [scanExisting_ofRole, buildTopologyInputsForRole_ofRole]
  refine congrArg (scanExisting runtime role template switches nodes >>= ·)
    (funext fun maxByTier => ?_)
  cases built : buildTopologyInputsForRole runtime role
      (eligibleFabricNodes fabricNodes nodes) switches with
  | error cause => rfl
  | ok inputs =>
    simp only
    split_ifs
    · rfl
    · cases normalized : normalizeDiscoveredGroups runtime
          (discoverInputs runtime inputs) inputs.hosts with
      | error cause => rfl
      | ok groups =>
        refine planGroups_congr fun group listed name isMember => ?_
        obtain ⟨source, normalizes⟩ := (normalizeDiscoveredGroups_spec normalized).1 group listed
        have connects := normalizes.connects isMember
        refine (GoMap.getElem?_foldl_insert_filter switches
          Switch.name (fun switch => effectiveSwitchRole switch == role)
          ?_ rfl).symm
        intro switch isSwitch named
        rw [beq_iff_eq]
        by_contra otherRole
        exact names inputs built switch isSwitch otherRole (named ▸ connects)

lemma roleIsolated_of_namesOfRole (names : NamesOfRole runtime role fabricNodes nodes switches) :
    RoleIsolated runtime role template fabricNodes nodes switches := by
  refine ⟨buildAutoLabelPlan_ofRole names, ?_⟩
  intro plan succeeded name listed
  obtain ⟨inputs, _, _, _, run⟩ := exists_planRun succeeded
  obtain ⟨connects, switch, isSwitch, rfl⟩ := run.switch_of_mem listed
  refine ⟨switch, isSwitch, rfl, ?_⟩
  by_contra otherRole
  exact names inputs run.built switch isSwitch otherRole connects

lemma mem_of_desiredLabel (found : desiredLabel desired name key = some value) :
    name ∈ desired := by
  by_contra absent
  unfold desiredLabel at found
  rw [GoMap.getD_eq, (GoMap.getElem?_eq_none_iff _ _).2 absent] at found
  simp at found

lemma namesOfRole_congr (relabelled : Relabelled role switches others)
    (names : NamesOfRole runtime role fabricNodes nodes switches) :
    NamesOfRole runtime role fabricNodes nodes others := by
  intro inputs built other isOther otherRole
  have same : SameRolePart role switches others := relabelled.sameRolePart
  have builtToo : buildTopologyInputsForRole runtime role
      (eligibleFabricNodes fabricNodes nodes) switches = .ok inputs := by
    rw [← buildTopologyInputsForRole_ofRole, same, buildTopologyInputsForRole_ofRole]
    exact built
  obtain ⟨index, bound, rfl⟩ := mem_iff_getElem.1 isOther
  have lengths := relabelled.length_eq
  have pair := (forall₂_iff_get.1 relabelled).2 index (by omega) bound
  simp only [get_eq_getElem] at pair
  rw [← pair.1]
  refine names inputs builtToo _ (getElem_mem _) ?_
  rw [pair.2.1]
  exact otherRole

/-- Take the labels from the Switches of other roles. -/
def unlabelOthers (role : SwitchRole) (switches : List Switch) : List Switch :=
  switches.map fun switch =>
    if effectiveSwitchRole switch = role then switch
    else { switch with labels := ∅ }

lemma relabelled_unlabelOthers : Relabelled role switches (unlabelOthers role switches) := by
  unfold Relabelled unlabelOthers
  rw [forall₂_map_right_iff, forall₂_same]
  intro switch _
  split_ifs with isRole
  · exact ⟨rfl, rfl, fun _ => rfl⟩
  · exact ⟨rfl, rfl, fun same => absurd same isRole⟩

/--
Where a Switch of another role has the name of a member of a group, the plan
names it as soon as it has no label.
-/
lemma namesOfRole_of_roleIsolated (unique : (switches.map Switch.name).Nodup)
    (succeeded : buildAutoLabelPlan runtime role template fabricNodes
      (switchesOfRole role switches) nodes = .ok plan)
    (isolated : RoleIsolated runtime role template fabricNodes nodes
      (unlabelOthers role switches)) :
    NamesOfRole runtime role fabricNodes nodes switches := by
  intro inputs built switch isSwitch otherRole connects
  have same : SameRolePart role switches (unlabelOthers role switches) :=
    relabelled_unlabelOthers.sameRolePart
  have planned : buildAutoLabelPlan runtime role template fabricNodes
      (unlabelOthers role switches) nodes = .ok plan := by
    rw [isolated.1, ← same]
    exact succeeded
  obtain ⟨inputs', maxByTier, entries, state, run⟩ := exists_planRun planned
  have sameInputs : inputs' = inputs := by
    have again := run.built
    rw [← buildTopologyInputsForRole_ofRole, ← same,
      buildTopologyInputsForRole_ofRole, built] at again
    exact (Except.ok.inj again).symm
  subst sameInputs
  have isOther : { switch with labels := ∅ } ∈ unlabelOthers role switches :=
    mem_map.2 ⟨switch, isSwitch, if_neg otherRole⟩
  have sameNames : (unlabelOthers role switches).map Switch.name = switches.map Switch.name := by
    unfold unlabelOthers
    rw [map_map]
    refine map_congr_left fun other _ => ?_
    simp only [Function.comp_apply]
    split_ifs
    · rfl
    · rfl
  rw [← sameNames] at unique
  obtain ⟨level, reached⟩ := connects
  rcases Discovery.exists_group_of_level [Discovery.withHashGroupName, Discovery.withHashLength 40]
    reached with ⟨group, inTier, isMember⟩
  obtain ⟨entry, isEntry, _, normalizes⟩ := run.complete _ group inTier
  have inRecord : switch.name ∈ entry.group.members := by
    rw [normalizes.members, mem_sortValues]
    exact isMember
  have unlabelled : (planContext nodes (unlabelOthers role switches)
      inputs').switchDomain switch.name = "" := by
    refine (switchDomain_planContext unique isOther).trans ?_
    rw [GoMap.getD_eq, Std.ExtTreeMap.getElem?_empty, Option.getD_none]
  have found : (planContext nodes (unlabelOthers role switches)
      inputs').switchesByName[switch.name]? = some { switch with labels := ∅ } :=
    switchesByName_planContext unique isOther
  rcases run.planned.switch entry isEntry switch.name inRecord _ found with carried | ⟨_, desired⟩
  · rw [unlabelled] at carried
    exact run.planned.name_ne_empty isEntry carried.symm
  · rw [run.plan_eq] at desired
    rcases isolated.2 plan planned switch.name
      (mem_of_desiredLabel desired) with ⟨other, listed, named, isRole⟩
    have equal := inj_on_of_nodup_map unique listed isOther named
    rw [equal] at isRole
    exact otherRole isRole

end

/-! ## The condition is exact -/

/--
While no Switch of another role is named like a member of a group, the result
depends on the Switches of the role alone and the plan names only them.  If
the Switches of the role have a plan, this condition is also necessary for
isolation from all relabellings of the other Switches.
-/
theorem roleIsolated_iff_namesOfRole (runtime : Runtime) (role : SwitchRole) (template : Template)
    (fabricNodes : List FabricNode) (nodes : List Node) (switches : List Switch)
    (unique : (switches.map Switch.name).Nodup) :
    (NamesOfRole runtime role fabricNodes nodes switches →
      RoleIsolated runtime role template fabricNodes nodes switches ∧
      ∀ others, SameRolePart role switches others →
        NamesOfRole runtime role fabricNodes nodes others →
          buildAutoLabelPlan runtime role template fabricNodes others nodes =
            buildAutoLabelPlan runtime role template fabricNodes switches nodes) ∧
    ∀ plan, buildAutoLabelPlan runtime role template fabricNodes
        (switchesOfRole role switches) nodes = .ok plan →
      ((∀ others, Relabelled role switches others →
          RoleIsolated runtime role template fabricNodes nodes others) ↔
        NamesOfRole runtime role fabricNodes nodes switches) := by
  constructor
  · intro names
    refine ⟨roleIsolated_of_namesOfRole names, ?_⟩
    intro others same otherNames
    rw [buildAutoLabelPlan_ofRole names, buildAutoLabelPlan_ofRole otherNames, same]
  · intro plan succeeded
    constructor
    · intro isolated
      exact namesOfRole_of_roleIsolated unique succeeded (isolated _ relabelled_unlabelOthers)
    · intro names others relabelled
      exact roleIsolated_of_namesOfRole (namesOfRole_congr relabelled names)

/-- A leaf of the role next to a Switch of another role. -/
theorem roleIsolated_iff_namesOfRole_storage_switch :
    let other : Switch := ⟨"other", ∅, ∅, some .storage, "", []⟩
    buildAutoLabelPlan .canonical .scaleOut ⟨"tier", ""⟩ [belowLeaf "n1" "p1"]
        [leafSwitch, other] [⟨"n1", ∅⟩] =
      buildAutoLabelPlan .canonical .scaleOut ⟨"tier", ""⟩ [belowLeaf "n1" "p1"]
        [leafSwitch] [⟨"n1", ∅⟩] := by
  intro other
  have names : NamesOfRole .canonical .scaleOut [belowLeaf "n1" "p1"] [⟨"n1", ∅⟩]
      [leafSwitch, other] := by
    intro inputs built switch isSwitch otherRole connects
    rcases connects with ⟨level, reached⟩
    have isInput : switch.name ∈ Discovery.switchNames inputs.switches := reached.inner
    have inputNames : ((buildTopologyInputsForRole .canonical .scaleOut (eligibleFabricNodes
          [belowLeaf "n1" "p1"] [⟨"n1", ∅⟩]) [leafSwitch, other]).toOption.all
            fun inputs => decide (Discovery.switchNames inputs.switches = ["leaf"])) = true := by
      decide +kernel
    simp only [built, Except.toOption, Option.all_some, decide_eq_true_eq] at inputNames
    rw [inputNames, List.mem_singleton] at isInput
    simp only [List.mem_cons, List.not_mem_nil, or_false] at isSwitch
    rcases isSwitch with rfl | rfl
    · exact otherRole rfl
    · simp [other] at isInput
  exact ((roleIsolated_iff_namesOfRole .canonical .scaleOut
    ⟨"tier", ""⟩ _ _ _ (by decide)).1 names).1.1

/--
The leaf which a node sees by LLDP has the name of a storage Switch: the
scale-out plan labels that Switch, and takes over its label.
-/
theorem storage_switch_changes_scaleOut_plan :
    let planned (switches : List Switch) := (buildAutoLabelPlan .canonical .scaleOut ⟨"tier", ""⟩
      [belowLeaf "n1" "p1"] switches [⟨"n1", ∅⟩]).toOption.map fun plan =>
        (desiredLabel plan.nodes "n1" "tier1",
          desiredLabel plan.switches "leaf" topologyDomainLabel)
    planned [⟨"leaf", ∅, ∅, some .storage, "", []⟩] =
        some (some "tier1-group1", some "tier1-group1") ∧
      planned [⟨"leaf", (∅ : Labels).insert topologyDomainLabel "tier1-group7", ∅, some .storage,
        "", []⟩] = some (some "tier1-group7", none) ∧
      planned [] = some (some "tier1-group1", none) := by
  refine ⟨?_, ?_, ?_⟩
  · decide +kernel
  · decide +kernel
  · decide +kernel

end Unifabric.SwitchTopology
