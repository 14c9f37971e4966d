import Unifabric.SwitchTopology.Apply
import Unifabric.SwitchTopology.RoleIsolation

/-!
# A cluster with a part of a plan

Labels which a plan adds do not change the inputs of discovery.  What the next
plan looks up is what the plan looked up before, or what it has added.
-/

namespace Unifabric.SwitchTopology

open Lib V1beta1 TopologyLabel GoMap Option

variable {role : SwitchRole} {fabricNodes : List FabricNode} {switches switches' : List Switch}
  {plan : AutoLabelPlan} {nodes : List Node} {inputs : TopologyInputs}

variable {before : Switch} {entry : PlanEntry} {value key : String}

/-! ## The inputs -/

section

variable {sorter : Sorter} {order order' : MapOrder}

lemma switchesOfRole_unlabelled : switchesOfRole role
        (switches.map fun switch => { switch with labels := ∅ }) =
      (switchesOfRole role switches).map fun switch =>
        { switch with labels := ∅ } := by
  unfold switchesOfRole
  rw [List.filter_map]
  rfl

lemma buildTopologyInputsForRole_unlabelled (runtime : Runtime) :
    buildTopologyInputsForRole runtime role fabricNodes
        (switches.map fun switch => { switch with labels := ∅ }) =
      buildTopologyInputsForRole runtime role fabricNodes switches := by
  unfold buildTopologyInputsForRole normalizedNames
  simp only [switchesOfRole_unlabelled, List.isEmpty_map, List.all_map,
    List.foldl_map, List.foldlM_map]
  rfl

/-- The inputs depend neither on map order nor on labels of Switches. -/
lemma buildTopologyInputsForRole_congr
    (same : (switches'.map fun switch => { switch with labels := ∅ }) =
      switches.map fun switch => { switch with labels := ∅ }) :
    buildTopologyInputsForRole ⟨order', sorter⟩ role fabricNodes switches' =
      buildTopologyInputsForRole ⟨order, sorter⟩ role fabricNodes
        switches := by
  rw [← buildTopologyInputsForRole_unlabelled, same, buildTopologyInputsForRole_unlabelled]
  unfold buildTopologyInputsForRole
  simp only [Discovery.sortedNamesFromMap_eq]
  rfl

end

/-! ## What the next plan looks up -/

/-- Lookups which differ only by labels of the plan. -/
structure PatchedContext (plan : AutoLabelPlan)
    (before after : PlanContext) : Prop where
  node : ∀ name : String, after.nodesByName[name]? = none ↔ before.nodesByName[name]? = none
  nodeLabel : ∀ key name, after.nodeLabel key name = before.nodeLabel key name ∨
    ∃ value, desiredLabel plan.nodes name key = some value ∧ after.nodeLabel key name = some value
  switch : ∀ name : String, after.switchesByName[name]? = none ↔ before.switchesByName[name]? = none
  domain : ∀ name, after.switchDomain name = before.switchDomain name ∨
    desiredLabel plan.switches name topologyDomainLabel = some (after.switchDomain name)
  synthetic : after.syntheticSwitches = before.syntheticSwitches

section

variable {nodes' : List Node}

lemma SwitchPatched.name_eq {after : Switch} (patched : SwitchPatched plan before after) :
    after.name = before.name := by
  have same := congrArg Switch.name patched.same
  exact same

lemma SwitchPatched.role_eq (patched : SwitchPatched plan before after) :
    effectiveSwitchRole after = effectiveSwitchRole before := by
  have same := congrArg effectiveSwitchRole patched.same
  exact same

lemma SwitchPatched.domain (patched : SwitchPatched plan before after) :
    after.labels.getD topologyDomainLabel "" = before.labels.getD topologyDomainLabel "" ∨
      desiredLabel plan.switches before.name topologyDomainLabel =
        some (after.labels.getD topologyDomainLabel "") := by
  rcases patched.label topologyDomainLabel with same | ⟨value, desired, new⟩
  · refine .inl ?_
    rw [getD_eq, same, getD_eq]
  · rw [getD_of_getElem? new]
    exact .inr desired

lemma lookup_node (switches switches' : List Switch) (inputs : TopologyInputs)
    (patched : nodes.Forall₂ (NodePatched plan) nodes') (name : String) :
    GoMap.FoundAlike (fun before after => NodePatched plan before after ∧ before.name = name)
      (planContext nodes switches inputs).nodesByName[name]?
      (planContext nodes' switches' inputs).nodesByName[name]? :=
  foldl_insert_forall₂ (fun _ _ pair => pair.name) patched (foundAlike_empty _ name)

lemma lookup_switch (nodes nodes' : List Node) (inputs : TopologyInputs)
    (patched : switches.Forall₂ (SwitchPatched plan) switches') (name : String) :
    GoMap.FoundAlike (fun before after => SwitchPatched plan before after ∧ before.name = name)
      (planContext nodes switches inputs).switchesByName[name]?
      (planContext nodes' switches' inputs).switchesByName[name]? :=
  foldl_insert_forall₂ (fun _ _ pair => pair.name_eq) patched (foundAlike_empty _ name)

/-- A cluster with a part of the labels of the plan. -/
structure PatchedCluster (plan : AutoLabelPlan) (nodes nodes' : List Node)
    (switches switches' : List Switch) : Prop where
  nodes : nodes.Forall₂ (NodePatched plan) nodes'
  switches : switches.Forall₂ (SwitchPatched plan) switches'

lemma PatchedCluster.context (cluster : PatchedCluster plan nodes nodes' switches switches') :
    PatchedContext plan (planContext nodes switches inputs)
      (planContext nodes' switches' inputs) where
  node := by
    intro name
    rcases lookup_node switches switches' inputs cluster.nodes name with
      ⟨before, after⟩ | ⟨_, _, _, before, after⟩
    · simp [before, after]
    · simp [before, after]
  nodeLabel := by
    intro key name
    unfold PlanContext.nodeLabel
    rcases lookup_node switches switches' inputs cluster.nodes name with
      ⟨before, after⟩ | ⟨_, _, ⟨pair, named⟩, before, after⟩
    · simp [before, after]
    · rw [before, after, ← named]
      exact pair.label key
  switch := by
    intro name
    rcases lookup_switch nodes nodes' inputs cluster.switches name with
      ⟨before, after⟩ | ⟨_, _, _, before, after⟩
    · simp [before, after]
    · simp [before, after]
  domain := by
    intro name
    unfold PlanContext.switchDomain
    rcases lookup_switch nodes nodes' inputs cluster.switches name with
      ⟨before, after⟩ | ⟨_, _, ⟨pair, named⟩, before, after⟩
    · simp [before, after]
    · rw [before, after, ← named]
      exact pair.domain
  synthetic := rfl

end

/-! ## The groups of the plan in the patched cluster -/

section

variable {runtime : Runtime} {template : Template} {maxByTier : GoMap Int Int}
  {entries : List PlanEntry} {state : PlanState} {after : PlanContext}

section

variable
  (run : PlanRun runtime role template fabricNodes switches nodes plan inputs maxByTier entries
      state)
variable (patched : PatchedContext plan (planContext nodes switches inputs) after)

include run patched

/-- A Node of a group carries its label or the name of the group. -/
lemma PlanRun.nodeLabel_patched (isEntry : entry ∈ entries)
    (inGroup : nodeName ∈ entry.group.nodes) : (after.nodeLabel entry.key nodeName = none ∧
        (planContext nodes switches inputs).nodeLabel entry.key nodeName = none) ∨
      after.nodeLabel entry.key nodeName = some entry.name := by
  rcases patched.nodeLabel entry.key nodeName with same | ⟨value, desired, new⟩
  · rcases run.planned.node entry isEntry nodeName inGroup with carried | ⟨free, _⟩
    · exact .inr (same.trans carried)
    · exact .inl ⟨same.trans free, free⟩
  · rw [← run.plan_eq] at desired
    obtain ⟨_, _, _, _, _, free⟩ := run.planned.nodeSource nodeName entry.key value desired
    rcases run.planned.node entry isEntry nodeName inGroup with carried | ⟨_, named⟩
    · rw [carried] at free
      cases free
    · rw [named] at desired
      rw [new, ← desired]
      exact .inr rfl

/-- A Switch of a group carries its domain or the name of the group. -/
lemma PlanRun.switchDomain_patched (isEntry : entry ∈ entries)
    (inGroup : switchName ∈ entry.group.members) : (after.switchDomain switchName = "" ∧
        (planContext nodes switches inputs).switchDomain switchName = "") ∨
      after.switchDomain switchName = entry.name := by
  have nonempty := run.planned.name_ne_empty isEntry
  cases found : (planContext nodes switches inputs).switchesByName[switchName]? with
  | none =>
    have missing := (patched.switch switchName).2 found
    refine .inl ⟨?_, ?_⟩
    · simp [PlanContext.switchDomain, missing]
    · simp [PlanContext.switchDomain, found]
  | some switch =>
    rcases patched.domain switchName with same | desired
    · rcases run.planned.switch entry isEntry switchName inGroup switch
        found with carried | ⟨free, _⟩
      · exact .inr (same.trans carried)
      · exact .inl ⟨same.trans free, free⟩
    · rw [← run.plan_eq] at desired
      rcases run.planned.switchSource switchName topologyDomainLabel _
        desired with ⟨_, _, _, _, _, free, _⟩
      rcases run.planned.switch entry isEntry switchName inGroup switch
        found with carried | ⟨_, named⟩
      · rw [free] at carried
        exact absurd carried.symm nonempty
      · rw [named] at desired
        exact .inr (some.inj desired).symm

lemma PlanRun.name_of_carries_patched (isEntry : entry ∈ entries)
    (carried : Carries after entry.key entry.group value) : value = entry.name := by
  rcases carried with ⟨nodeName, inGroup, found⟩ | ⟨switchName, inGroup, found, nonempty⟩
  · rcases run.nodeLabel_patched patched isEntry inGroup with ⟨free, _⟩ | named
    · rw [free] at found
      cases found
    · rw [named] at found
      exact (some.inj found).symm
  · rcases run.switchDomain_patched patched isEntry inGroup with ⟨free, _⟩ | named
    · exact absurd (found.symm.trans free) nonempty
    · exact found.symm.trans named

lemma PlanRun.isFree_of_patched (isEntry : entry ∈ entries)
    (free : isFree after entry.key entry.group = true) :
    isFree (planContext nodes switches inputs) entry.key entry.group = true := by
  rw [isFree_iff] at free ⊢
  rintro value (⟨nodeName, inGroup, found⟩ | ⟨switchName, inGroup, found, nonempty⟩)
  · rcases run.nodeLabel_patched patched isEntry inGroup with ⟨_, unlabelled⟩ | named
    · rw [unlabelled] at found
      cases found
    · exact free _ (.inl ⟨nodeName, inGroup, named⟩)
  · rcases run.switchDomain_patched patched isEntry inGroup with ⟨_, unlabelled⟩ | named
    · exact nonempty (found.symm.trans unlabelled)
    · exact free _ (.inr ⟨switchName, inGroup, named, run.planned.name_ne_empty isEntry⟩)

lemma PlanRun.groupExists_patched (isEntry : entry ∈ entries) : GroupExists after entry.group where
  node := by
    intro nodeName inGroup
    obtain ⟨node, found⟩ := (run.planned.exist entry isEntry).node nodeName inGroup
    rw [← ne_none_iff_exists', ne_eq, patched.node, found]
    exact some_ne_none node
  switch := by
    intro switchName inGroup missing
    rw [patched.synthetic]
    exact (run.planned.exist entry isEntry).switch switchName inGroup
      ((patched.switch switchName).1 missing)

end

/-! ## Applied patches -/

lemma reconciled_label (applying : Runtime) {labels : Labels} {desired : GoMap String Labels}
    (fillable : Fillable labels (desired.getD name ∅))
    (isDesired : desiredLabel desired name key = some value) :
    ∃ final, reconcileLabelMap applying labels (desired.getD name ∅) none =
      .ok final ∧ final.1[key]? = some value := by
  obtain ⟨final, reconciled⟩ := reconcileLabelMap_succeeds fillable
  have lookup := (reconcileLabelMap_eq_ok reconciled).2 key
  rw [← desiredLabel, isDesired] at lookup
  exact ⟨final, reconciled, lookup⟩

/-- A patched object is found where the object was. -/
lemma lookup_applied {α : Type} {nameOf : α → String} {patch : α → α}
    (names : ∀ object, nameOf (patch object) = nameOf object) (applied : String → Bool)
    {objects : List α} {object : α} (isApplied : applied name = true)
    (found : (objects.foldl (fun table object => table.insert (nameOf object) object)
      (∅ : GoMap String α))[name]? = some object) :
    ((objects.map fun object =>
        if applied (nameOf object) then patch object else object).foldl
      (fun table object => table.insert (nameOf object) object)
      (∅ : GoMap String α))[name]? = some (patch object) := by
  rw [getElem?_foldl_insert_map, found, map_some,
    (mem_of_foldl_insert found).2, if_pos isApplied]
  intro object
  split_ifs
  · exact names object
  · rfl

section

variable
  (run : PlanRun runtime role template fabricNodes switches nodes plan inputs maxByTier entries
      state)

include run

lemma PlanRun.nodeLabel_applied (applying : Runtime) {applied : String → Bool}
    (whole : ∀ name ∈ plan.nodes, applied name = true) (switches' : List Switch) {nodeName : String}
    (desired : desiredLabel plan.nodes nodeName key = some value) :
    (planContext (patchedNodes applying plan applied nodes) switches'
      inputs).nodeLabel key nodeName = some value := by
  have source (other otherValue : String) (isDesired : desiredLabel plan.nodes nodeName other =
        some otherValue) :=
    run.planned.nodeSource nodeName other otherValue (run.plan_eq ▸ isDesired)
  obtain ⟨entry, isEntry, inGroup, _⟩ := source key value desired
  obtain ⟨node, found⟩ := (run.planned.exist entry isEntry).node nodeName inGroup
  have fillable : Fillable node.labels (plan.nodes.getD nodeName ∅) := by
    intro other otherValue isDesired
    obtain ⟨_, _, _, _, _, free⟩ := source other otherValue isDesired
    rw [nodeLabel_of_found found] at free
    rw [getD_eq, free]
    exact .inl rfl
  obtain ⟨final, reconciled, lookup⟩ := reconciled_label applying fillable desired
  rw [nodeLabel_of_found (lookup_applied (fun node => (nodePatched node).name)
    applied (whole nodeName (mem_of_desiredLabel desired)) found),
    patchedNode, (mem_of_foldl_insert found).2, reconciled]
  exact lookup

lemma PlanRun.switchDomain_applied (applying : Runtime) {applied : String → Bool}
    (whole : ∀ name ∈ plan.switches, applied name = true) (nodes' : List Node) {switchName : String}
    (desired : desiredLabel plan.switches switchName topologyDomainLabel = some value) :
    (planContext nodes' (patchedSwitches applying plan applied switches)
      inputs).switchDomain switchName = value := by
  have source (other otherValue : String) (isDesired : desiredLabel plan.switches switchName other =
        some otherValue) :=
    run.planned.switchSource switchName other otherValue (run.plan_eq ▸ isDesired)
  obtain ⟨_, _, _, _, _, _, switch, found⟩ := source topologyDomainLabel value desired
  have fillable : Fillable switch.labels (plan.switches.getD switchName ∅) := by
    intro other otherValue isDesired
    obtain ⟨_, _, _, isKey, _, free, _⟩ := source other otherValue isDesired
    rw [switchDomain_of_found found] at free
    rw [isKey]
    exact .inl free
  obtain ⟨final, reconciled, lookup⟩ := reconciled_label applying fillable desired
  rw [switchDomain_of_found (lookup_applied (fun switch => (switchPatched switch).name_eq) applied
    (whole switchName (mem_of_desiredLabel desired)) found),
    patchedSwitch, (mem_of_foldl_insert found).2, reconciled]
  exact getD_of_getElem? lookup

end

end

end Unifabric.SwitchTopology
