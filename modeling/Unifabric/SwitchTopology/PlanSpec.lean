import Unifabric.SwitchTopology.NormalizeSpec
import Unifabric.SwitchTopology.PlanOrder

/-!
# What a label plan contains

A successful run of the group loop gives every discovered group one name.
Every Node and Switch of the group carries it, either already or by the plan,
the plan contains nothing else, and no name has two owners.
-/

namespace Unifabric.SwitchTopology

open Lib V1beta1 TopologyLabel
open List hiding after all keys

variable {key name : String} {context : PlanContext} {tier : Int}

variable {conflict : String → String → String → String → PlanError}
  {desired next : GoMap String Labels} {value nodeName switchName : String} {locked : StringSet}
  {group : DiscoveredGroup} {runtime : Runtime}

/-! ## Desired labels -/

/-- The value desired for a label of an object. -/
def desiredLabel (desired : GoMap String Labels) (name key : String) : Option String :=
  (desired.getD name ∅)[key]?

lemma desiredLabel_insert (desired : GoMap String Labels) (name key value other otherKey : String) :
    desiredLabel (desired.insert name ((desired.getD name ∅).insert key value)) other otherKey =
      if name = other ∧ key = otherKey then some value
      else desiredLabel desired other otherKey := by
  unfold desiredLabel
  rw [GoMap.getD_eq, GoMap.getElem?_insert]
  by_cases sameName : name = other
  · subst sameName
    rw [if_pos rfl, Option.getD_some, GoMap.getElem?_insert]
    by_cases sameKey : key = otherKey
    · simp [sameKey]
    · simp [sameKey]
  · rw [if_neg sameName, ← GoMap.getD_eq]
    simp [sameName]

lemma addDesired_eq_ok (added : addDesired conflict desired name key value = .ok next) :
    (∀ existing, desiredLabel desired name key = some existing → existing = value) ∧
      ∀ other otherKey, desiredLabel next other otherKey =
        if name = other ∧ key = otherKey then some value
        else desiredLabel desired other otherKey := by
  simp only [addDesired] at added
  split at added
  · next existing found =>
    split_ifs at added with differs
    rw [not_not] at differs
    cases added
    refine ⟨?_, desiredLabel_insert desired name key value⟩
    intro old isOld
    unfold desiredLabel at isOld
    rw [found] at isOld
    rw [← Option.some.inj isOld, differs]
  · next missing =>
    cases added
    refine ⟨?_, desiredLabel_insert desired name key value⟩
    intro old isOld
    unfold desiredLabel at isOld
    rw [missing] at isOld
    cases isOld

/-- Desired labels which are kept. -/
def Keeps (before after : GoMap String Labels) : Prop :=
  ∀ name key value, desiredLabel before name key = some value →
    desiredLabel after name key = some value

lemma Keeps.refl (desired : GoMap String Labels) : Keeps desired desired :=
  fun _ _ _ found => found

lemma Keeps.trans (left : Keeps first second) (right : Keeps second third) : Keeps first third :=
  fun name key value found => right name key value (left name key value found)

lemma keeps_of_addDesired (added : addDesired conflict desired name key value = .ok next) :
    Keeps desired next := by
  obtain ⟨agrees, lookup⟩ := addDesired_eq_ok added
  intro other otherKey old found
  rw [lookup]
  split_ifs with same
  · obtain ⟨rfl, rfl⟩ := same
    rw [agrees old found]
  · exact found

/-- Every object in the desired labels has a desired label. -/
def AllDesired (desired : GoMap String Labels) : Prop :=
  ∀ name ∈ desired, ∃ key value, desiredLabel desired name key = some value

lemma AllDesired.addDesired (full : AllDesired desired)
    (added : addDesired conflict desired name key value = .ok next) : AllDesired next := by
  have keeps := keeps_of_addDesired added
  have lookup := (addDesired_eq_ok added).2
  have shape : next = desired.insert name ((desired.getD name ∅).insert key value) := by
    simp only [SwitchTopology.addDesired] at added
    split at added
    · split_ifs at added
      exact (Except.ok.inj added).symm
    · exact (Except.ok.inj added).symm
  intro other listed
  rw [shape] at listed
  rcases (GoMap.mem_insert _ _ _ _).1 listed with rfl | old
  · exact ⟨key, value, by rw [lookup, if_pos ⟨rfl, rfl⟩]⟩
  · obtain ⟨oldKey, oldValue, found⟩ := full other old
    exact ⟨oldKey, oldValue, keeps _ _ _ found⟩

/--
The members of a list carry a name or are planned to get it, and nothing else
is planned.
-/
structure Assigned (carried free : String → Prop) (key name : String)
    (members : List String) (before after : GoMap String Labels) :
    Prop where
  keeps : Keeps before after
  labelled : ∀ member ∈ members, carried member ∨
    free member ∧ desiredLabel after member key = some name
  source : ∀ other otherKey value, desiredLabel after other otherKey = some value →
      desiredLabel before other otherKey = some value ∨
        (other ∈ members ∧ otherKey = key ∧ value = name ∧ free other)
  full : AllDesired before → AllDesired after

section

variable {carried free : String → Prop} {member : String} {members : List String}

lemma assigned_of_carried (all : ∀ member ∈ members, carried member) :
    Assigned carried free key name members desired desired :=
  ⟨Keeps.refl _, fun member listed => .inl (all member listed), fun _ _ _ => .inl, id⟩

lemma assigned_addDesired (isFree : free member)
    (added : addDesired conflict desired member key name = .ok next) :
    Assigned carried free key name [member] desired next := by
  obtain ⟨_, lookup⟩ := addDesired_eq_ok added
  refine ⟨keeps_of_addDesired added, ?_, ?_, fun full =>
    full.addDesired added⟩
  · intro other listed
    rw [mem_singleton.1 listed, lookup, if_pos ⟨rfl, rfl⟩]
    exact .inr ⟨isFree, rfl⟩
  · intro other otherKey value found
    rw [lookup] at found
    split_ifs at found with same
    · obtain ⟨rfl, rfl⟩ := same
      exact .inr ⟨mem_singleton_self _, rfl, (Option.some.inj found).symm, isFree⟩
    · exact .inl found

lemma Assigned.append (first : Assigned carried free key name members before desired)
    (second : Assigned carried free key name [member] desired after) :
    Assigned carried free key name (members ++ [member]) before after := by
  refine ⟨first.keeps.trans second.keeps, ?_, ?_, second.full ∘ first.full⟩
  · intro other listed
    rcases mem_append.1 listed with earlier | last
    · rcases first.labelled other earlier with carried | ⟨free, desired⟩
      · exact .inl carried
      · exact .inr ⟨free, second.keeps _ _ _ desired⟩
    · exact second.labelled other last
  · intro other otherKey value found
    rcases second.source other otherKey value found with old | ⟨last, rest⟩
    · rcases first.source other otherKey value old with before | ⟨listed, rest⟩
      · exact .inl before
      · exact .inr ⟨mem_append_left _ listed, rest⟩
    · exact .inr ⟨mem_append_right _ last, rest⟩

/-- A loop assigns the name to all members if each step does to its own. -/
lemma assigned_foldlM {step : AutoLabelPlan → String → Except PlanError AutoLabelPlan}
    {labels others : AutoLabelPlan → GoMap String Labels}
    (each : ∀ plan member after, step plan member = .ok after → others after = others plan ∧
        Assigned carried free key name [member] (labels plan) (labels after))
    (planned : members.foldlM step plan = .ok after) :
    others after = others plan ∧ Assigned carried free key name members (labels plan)
        (labels after) := by
  refine foldlM_prefix_induction planned (fun done state => others state = others plan ∧
      Assigned carried free key name done (labels plan) (labels state))
    ⟨rfl, assigned_of_carried nofun⟩ ?_
  intro done member rest state after _ reached stepped
  obtain ⟨same, assigned⟩ := each state member after stepped
  exact ⟨same.trans reached.1, reached.2.append assigned⟩

end

/-! ## Labels of one group -/

/-- The label a Node carries. -/
def PlanContext.nodeLabel (context : PlanContext) (key nodeName : String) : Option String :=
  (context.nodesByName[nodeName]?).bind fun node => node.labels[key]?

/-- The domain a Switch carries; empty counts as missing. -/
def PlanContext.switchDomain (context : PlanContext) (switchName : String) : String :=
  ((context.switchesByName[switchName]?).map fun switch =>
    switch.labels.getD topologyDomainLabel "").getD ""

lemma switchDomain_of_found (found : context.switchesByName[switchName]? = some switch) :
    context.switchDomain switchName = switch.labels.getD topologyDomainLabel "" := by
  unfold PlanContext.switchDomain
  rw [found]
  rfl

lemma nodeLabel_of_found (found : context.nodesByName[nodeName]? = some node) :
    context.nodeLabel key nodeName = node.labels[key]? := by
  unfold PlanContext.nodeLabel
  rw [found]
  rfl

lemma planNode_eq_ok {plan next : AutoLabelPlan}
    (planned : planNode context tier key name plan nodeName = .ok next) :
    next.switches = plan.switches ∧ Assigned (context.nodeLabel key · = some name)
        (context.nodeLabel key · = none) key name [nodeName] plan.nodes next.nodes := by
  unfold planNode at planned
  split at planned
  · next current found =>
    split_ifs at planned with differs
    rw [not_not] at differs
    cases planned
    refine ⟨rfl, assigned_of_carried fun member listed => ?_⟩
    rw [mem_singleton.1 listed, ← differs]
    exact found
  · next missing =>
    obtain ⟨nodes, added, rfl⟩ := map_eq_ok.1 planned
    exact ⟨rfl, assigned_addDesired missing added⟩

lemma foldlM_planNode_eq_ok {nodes : List String} {plan next : AutoLabelPlan}
    (planned : nodes.foldlM (planNode context tier key name) plan = .ok next) :
    next.switches = plan.switches ∧ Assigned (context.nodeLabel key · = some name)
        (context.nodeLabel key · = none) key name nodes plan.nodes next.nodes :=
  assigned_foldlM (fun _ _ _ => planNode_eq_ok) planned

/-- There is no such Switch, or it carries the domain. -/
def PlanContext.CarriesDomain (context : PlanContext) (name switchName : String) : Prop :=
  context.switchesByName[switchName]? = none ∨ context.switchDomain switchName = name

/-- There is such a Switch, and it carries no domain. -/
def PlanContext.LacksDomain (context : PlanContext) (switchName : String) : Prop :=
  context.switchDomain switchName = "" ∧ ∃ switch, context.switchesByName[switchName]? = some switch

lemma planSwitch_eq_ok {plan next : AutoLabelPlan}
    (planned : planSwitch context name plan switchName = .ok next) :
    next.nodes = plan.nodes ∧ Assigned (context.CarriesDomain name) context.LacksDomain
        topologyDomainLabel name [switchName] plan.switches next.switches := by
  simp only [planSwitch] at planned
  split at planned
  · next missing =>
    split_ifs at planned
    cases planned
    refine ⟨rfl, assigned_of_carried fun member listed => ?_⟩
    rw [mem_singleton.1 listed]
    exact .inl missing
  · next switch found =>
    rw [← switchDomain_of_found found] at planned
    split_ifs at planned with labelled differs
    · rw [not_not] at differs
      cases planned
      refine ⟨rfl, assigned_of_carried fun member listed => ?_⟩
      rw [mem_singleton.1 listed]
      exact .inr differs
    · rw [not_not] at labelled
      obtain ⟨switches, added, rfl⟩ := map_eq_ok.1 planned
      exact ⟨rfl, assigned_addDesired ⟨labelled, switch, found⟩ added⟩

lemma foldlM_planSwitch_eq_ok {members : List String} {plan next : AutoLabelPlan}
    (planned : members.foldlM (planSwitch context name) plan = .ok next) :
    next.nodes = plan.nodes ∧ Assigned (context.CarriesDomain name) context.LacksDomain
        topologyDomainLabel name members plan.switches next.switches :=
  assigned_foldlM (fun _ _ _ => planSwitch_eq_ok) planned

/-- The value is read as a name of the tier. -/
def Parses (tier : Int) (value : String) : Prop :=
  ∃ number, parseAutoDomainName value tier = .ok number

lemma Parses.eq_autoDomainName (parses : Parses tier value) :
    ∃ number, value = autoDomainName tier number := by
  obtain ⟨number, parsed⟩ := parses
  exact ⟨number, (parseAutoDomainNameParts_eq_ok_iff.1
    (parseAutoDomainName_eq_ok_iff.1 parsed)).2.2⟩

lemma lockNode_eq_ok {next : StringSet}
    (stepped : lockNode context tier key locked nodeName = .ok next) :
    ((∃ node, context.nodesByName[nodeName]? = some node) ∧
        ∀ value, context.nodeLabel key nodeName = some value → Parses tier value) ∧
      ∀ value, value ∈ next ↔ value ∈ locked ∨ context.nodeLabel key nodeName = some value := by
  unfold lockNode at stepped
  split at stepped
  · simp at stepped
  · next node found =>
    rw [nodeLabel_of_found found]
    split at stepped
    · next missing =>
      cases stepped
      simp [missing, found]
    · next carried isCarried =>
      split at stepped
      · simp at stepped
      · next number parsed =>
        cases stepped
        rw [isCarried]
        refine ⟨⟨⟨node, found⟩, ?_⟩, ?_⟩
        · rintro value ⟨⟩
          exact ⟨number, parsed⟩
        · intro value
          rw [GoMap.mem_insert, Option.some.injEq, eq_comm]
          exact or_comm

lemma lockSwitch_eq_ok {next : StringSet}
    (stepped : lockSwitch context tier locked switchName = .ok next) :
    ((context.switchesByName[switchName]? = none →
        context.syntheticSwitches.getD switchName false = true) ∧
      (context.switchDomain switchName ≠ "" → Parses tier (context.switchDomain switchName))) ∧
      ∀ value, value ∈ next ↔ value ∈ locked ∨
        (context.switchDomain switchName = value ∧ value ≠ "") := by
  simp only [lockSwitch] at stepped
  split at stepped
  · next missing =>
    split_ifs at stepped with synthetic
    cases stepped
    have domain : context.switchDomain switchName = "" := by
      unfold PlanContext.switchDomain
      rw [missing]
      rfl
    rw [domain]
    refine ⟨⟨fun _ => synthetic, fun labelled => absurd rfl labelled⟩, fun value => ?_⟩
    constructor
    · exact .inl
    · rintro (old | ⟨rfl, nonempty⟩)
      · exact old
      · exact absurd rfl nonempty
  · next switch found =>
    have known : context.switchesByName[switchName]? = none →
        context.syntheticSwitches.getD switchName false = true := by
      intro missing
      rw [found] at missing
      cases missing
    rw [← switchDomain_of_found found] at stepped
    split_ifs at stepped with unlabelled
    · cases stepped
      refine ⟨⟨known, fun labelled => absurd unlabelled labelled⟩, fun value => ?_⟩
      constructor
      · exact .inl
      · rintro (old | ⟨rfl, nonempty⟩)
        · exact old
        · exact absurd unlabelled nonempty
    · split at stepped
      · simp at stepped
      · next number parsed =>
        cases stepped
        refine ⟨⟨known, fun _ => ⟨number, parsed⟩⟩, fun value => ?_⟩
        rw [GoMap.mem_insert]
        constructor
        · rintro (rfl | old)
          · exact .inr ⟨rfl, unlabelled⟩
          · exact .inl old
        · rintro (old | ⟨rfl, _⟩)
          · exact .inr old
          · exact .inl rfl

/-- The name is carried by a Node or a Switch of the group. -/
def Carries (context : PlanContext) (key : String)
    (group : DiscoveredGroup) (value : String) : Prop :=
  (∃ nodeName ∈ group.nodes, context.nodeLabel key nodeName = some value) ∨
    ∃ switchName ∈ group.members, context.switchDomain switchName = value ∧ value ≠ ""

/-- No Node and no Switch of the group carries a name. -/
def isFree (context : PlanContext) (key : String) (group : DiscoveredGroup) : Bool :=
  group.nodes.all (fun nodeName =>
      (context.nodeLabel key nodeName).isNone) &&
    group.members.all fun switchName => context.switchDomain switchName == ""

lemma isFree_iff : isFree context key group = true ↔
      ∀ value, ¬ Carries context key group value := by
  simp only [isFree, Bool.and_eq_true, all_eq_true, beq_iff_eq, Option.isNone_iff_eq_none]
  constructor
  · rintro ⟨nodes, members⟩ value
      (⟨nodeName, listed, carried⟩ | ⟨switchName, listed, rfl, nonempty⟩)
    · rw [nodes nodeName listed] at carried
      cases carried
    · exact nonempty (members switchName listed)
  · intro free
    constructor
    · intro nodeName listed
      rw [Option.eq_none_iff_forall_ne_some]
      intro value carried
      exact free value (.inl ⟨nodeName, listed, carried⟩)
    · intro switchName listed
      by_contra nonempty
      exact free _ (.inr ⟨switchName, listed, rfl, nonempty⟩)

/-- The Nodes and Switches of a group exist, unless they are synthetic. -/
structure GroupExists (context : PlanContext)
    (group : DiscoveredGroup) : Prop where
  node : ∀ nodeName ∈ group.nodes, ∃ node, context.nodesByName[nodeName]? = some node
  switch : ∀ switchName ∈ group.members, context.switchesByName[switchName]? = none →
      context.syntheticSwitches.getD switchName false = true

lemma lockedNames_eq_ok (collected : lockedNames context tier key group = .ok locked) :
    GroupExists context group ∧ (∀ value, value ∈ locked ↔ Carries context key group value) ∧
      ∀ value ∈ locked, Parses tier value := by
  obtain ⟨byNodes, nodes, switches⟩ := bind_eq_ok.1 collected
  rcases foldlM_collect nodes (fun state value => value ∈ state) (fun nodeName =>
      (∃ node, context.nodesByName[nodeName]? = some node) ∧
        ∀ value, context.nodeLabel key nodeName = some value → Parses tier value)
    (fun nodeName value => context.nodeLabel key nodeName = some value)
    (fun _ _ _ => lockNode_eq_ok) with ⟨nodesGood, nodeNames⟩
  rcases foldlM_collect switches (fun state value => value ∈ state) (fun switchName =>
      (context.switchesByName[switchName]? = none →
        context.syntheticSwitches.getD switchName false = true) ∧
      (context.switchDomain switchName ≠ "" → Parses tier (context.switchDomain switchName)))
    (fun switchName value =>
      context.switchDomain switchName = value ∧ value ≠ "")
    (fun _ _ _ => lockSwitch_eq_ok) with ⟨switchesGood, allNames⟩
  have names : ∀ value, value ∈ locked ↔ Carries context key group value := by
    intro value
    rw [allNames, nodeNames]
    simp [Carries]
  refine ⟨⟨fun nodeName listed => (nodesGood nodeName listed).1,
    fun switchName listed => (switchesGood switchName listed).1⟩,
    names, ?_⟩
  intro value inLocked
  rcases (names value).1 inLocked with
    ⟨nodeName, listed, carried⟩ | ⟨switchName, listed, rfl, nonempty⟩
  · exact (nodesGood nodeName listed).2 value carried
  · exact (switchesGood switchName listed).2 nonempty

/-- The chosen name is the only locked one, or the next of the tier. -/
lemma chooseName_eq_ok
    (chosen : chooseName runtime tier maxByTier group locked = .ok (name, maxAfter)) :
    (name ∈ locked ∧ (∀ value ∈ locked, value = name) ∧ maxAfter = maxByTier) ∨
      ((∀ value, value ∉ locked) ∧ name = autoDomainName tier
          (wrapInt (maxByTier.getD tier 0 + 1)) ∧
        maxAfter = maxByTier.insert tier (wrapInt (maxByTier.getD tier 0 + 1))) := by
  have member : ∀ value, value ∈ sortedStringSet runtime
      ["buildAutoLabelPlan", group.internalName, "locked"] locked ↔ value ∈ locked :=
    mem_sortedStringSet runtime _ locked
  simp only [chooseName] at chosen
  split at chosen
  · next empty =>
    rw [empty] at member
    cases chosen
    exact .inr ⟨fun value inLocked => by
      simpa using (member value).2 inLocked, rfl, rfl⟩
  · next only single =>
    rw [single] at member
    cases chosen
    refine .inl ⟨(member name).1 (by simp), ?_, rfl⟩
    intro value inLocked
    simpa using (member value).2 inLocked
  · simp at chosen

lemma claimName_eq_ok {owners next : GoMap String String}
    {owner : String} (claimed : claimName owners name owner = .ok next) :
    (∀ existing, owners[name]? = some existing → existing = owner) ∧
      next = owners.insert name owner := by
  unfold claimName at claimed
  split at claimed
  · next existing found =>
    split_ifs at claimed with differs
    rw [not_not] at differs
    cases claimed
    refine ⟨?_, rfl⟩
    intro other isOther
    rw [found] at isOther
    rw [← Option.some.inj isOther, differs]
  · next missing =>
    cases claimed
    refine ⟨?_, rfl⟩
    intro other isOther
    rw [missing] at isOther
    cases isOther

/-! ## The group loop -/

/-- A processed group with the key of its tier and its name. -/
structure PlanEntry where
  tier : Int
  key : String
  group : DiscoveredGroup
  name : String

section

variable {initialMax : GoMap Int Int}

/-- The owner of the name of an entry. -/
def PlanEntry.owner (entry : PlanEntry) : String := ownerOf entry.tier entry.group.internalName

/-- The processed groups of a tier which got a new name. -/
def freshCount (context : PlanContext) (entries : List PlanEntry) (tier : Int) : Nat :=
  entries.countP fun entry => decide (entry.tier = tier) && isFree context entry.key entry.group

/-- The number of the next new name of a tier. -/
def nextNumber (context : PlanContext) (initialMax : GoMap Int Int)
    (entries : List PlanEntry) (tier : Int) : Int :=
  wrapInt (initialMax.getD tier 0 + freshCount context entries tier + 1)

/--
The name of an entry is the one its members carry, or, if they carry none, the
name of the given number.
-/
def PlanEntry.Named (context : PlanContext) (number : Int) (entry : PlanEntry) : Prop :=
  (Carries context entry.key entry.group entry.name ∧ Parses entry.tier entry.name) ∨
    (isFree context entry.key entry.group = true ∧ entry.name = autoDomainName entry.tier number)

/-- What the state of the group loop says of the processed groups. -/
structure Planned (context : PlanContext) (initialMax : GoMap Int Int)
    (entries : List PlanEntry) (state : PlanState) : Prop where
  exist : ∀ entry ∈ entries, GroupExists context entry.group
  named : ∀ before entry after, entries = before ++ entry :: after →
    entry.Named context (nextNumber context initialMax before entry.tier)
  locked : ∀ entry ∈ entries, ∀ value,
    Carries context entry.key entry.group value → value = entry.name
  owner : ∀ entry ∈ entries, state.assignedOwners[entry.name]? = some entry.owner
  ownerSource : ∀ name owner, state.assignedOwners[name]? = some owner →
    ∃ entry ∈ entries, entry.name = name ∧ entry.owner = owner
  node : ∀ entry ∈ entries, ∀ nodeName ∈ entry.group.nodes,
    context.nodeLabel entry.key nodeName = some entry.name ∨
      context.nodeLabel entry.key nodeName = none ∧
        desiredLabel state.plan.nodes nodeName entry.key = some entry.name
  switch : ∀ entry ∈ entries, ∀ switchName ∈ entry.group.members,
    ∀ switch, context.switchesByName[switchName]? = some switch →
      context.switchDomain switchName = entry.name ∨ context.switchDomain switchName = "" ∧
          desiredLabel state.plan.switches switchName topologyDomainLabel = some entry.name
  nodeSource : ∀ nodeName key value, desiredLabel state.plan.nodes nodeName key = some value →
      ∃ entry ∈ entries, nodeName ∈ entry.group.nodes ∧ key = entry.key ∧ value = entry.name ∧
        context.nodeLabel key nodeName = none
  switchSource : ∀ switchName key value,
    desiredLabel state.plan.switches switchName key = some value →
      ∃ entry ∈ entries, switchName ∈ entry.group.members ∧
        key = topologyDomainLabel ∧ value = entry.name ∧
        context.switchDomain switchName = "" ∧
        ∃ switch, context.switchesByName[switchName]? = some switch
  max : ∀ tier, state.maxByTier.getD tier 0 =
    wrapInt (initialMax.getD tier 0 + freshCount context entries tier)

lemma planned_nil (inRange : ∀ tier, wrapInt (initialMax.getD tier 0) = initialMax.getD tier 0) :
    Planned context initialMax [] (.start initialMax) where
  exist := by simp
  named := by simp
  locked := by simp
  owner := by simp
  ownerSource := by simp [PlanState.start]
  node := by simp
  switch := by simp
  nodeSource := by simp [PlanState.start, AutoLabelPlan.empty, desiredLabel, GoMap.getD_eq]
  switchSource := by simp [PlanState.start, AutoLabelPlan.empty, desiredLabel, GoMap.getD_eq]
  max := by simp [PlanState.start, freshCount, inRange]

lemma Planned.addGroup {state next : PlanState} (before : Planned context initialMax entries state)
    (stepped : planGroup runtime context tier key state group = .ok next) :
    ∃ name, Planned context initialMax (entries ++ [⟨tier, key, group, name⟩]) next := by
  obtain ⟨locked, isLocked, afterLocks⟩ := bind_eq_ok.1 stepped
  obtain ⟨⟨name, maxAfter⟩, chosen, afterName⟩ := bind_eq_ok.1 afterLocks
  obtain ⟨owners, claimed, afterClaim⟩ := bind_eq_ok.1 afterName
  obtain ⟨withNodes, plannedNodes, afterNodes⟩ := bind_eq_ok.1 afterClaim
  obtain ⟨plan, plannedSwitches, result⟩ := bind_eq_ok.1 afterNodes
  cases result
  obtain ⟨isThere, lockedIff, parses⟩ := lockedNames_eq_ok isLocked
  obtain ⟨agrees, rfl⟩ := claimName_eq_ok claimed
  obtain ⟨sameSwitches, byNodes⟩ := foldlM_planNode_eq_ok plannedNodes
  obtain ⟨sameNodes, bySwitches⟩ := foldlM_planSwitch_eq_ok plannedSwitches
  rw [sameSwitches] at bySwitches
  have number : wrapInt (state.maxByTier.getD tier 0 + 1) =
      nextNumber context initialMax entries tier := by
    rw [before.max, wrapInt_add]
    rfl
  have chosenFacts := chooseName_eq_ok chosen
  rw [number] at chosenFacts
  have newNamed : PlanEntry.Named context (nextNumber context initialMax entries tier)
      ⟨tier, key, group, name⟩ ∧ (∀ value, Carries context key group value → value = name) := by
    rcases chosenFacts with ⟨inLocked, only, _⟩ | ⟨none, named, _⟩
    · refine ⟨.inl ⟨(lockedIff name).1 inLocked, parses name inLocked⟩, ?_⟩
      intro value carried
      exact only value ((lockedIff value).2 carried)
    · have free : ∀ value, ¬ Carries context key group value :=
        fun value carried => none value ((lockedIff value).2 carried)
      exact ⟨.inr ⟨isFree_iff.2 free, named⟩, fun value carried => absurd carried (free value)⟩
  refine ⟨name, ?_⟩
  constructor
  case exist => exact forall_mem_concat before.exist isThere
  case named =>
    intro earlier entry after split
    rcases append_singleton_eq_split split with ⟨rfl, rfl, rfl⟩ | ⟨between, rfl, inner⟩
    · exact newNamed.1
    · exact before.named earlier entry between inner
  case locked => exact forall_mem_concat before.locked newNamed.2
  case owner =>
    simp only [GoMap.getElem?_insert]
    refine forall_mem_concat (fun entry listed => ?_) (if_pos rfl)
    have owned := before.owner entry listed
    split_ifs with same
    · rw [← same] at owned
      rw [agrees entry.owner owned]
    · exact owned
  case ownerSource =>
    intro other owner found
    rw [GoMap.getElem?_insert] at found
    split_ifs at found with same
    · cases found
      exact ⟨_, mem_append_right _ (mem_singleton_self _), same, rfl⟩
    · obtain ⟨entry, listed, rest⟩ := before.ownerSource other owner found
      exact ⟨entry, mem_append_left _ listed, rest⟩
  case node =>
    rw [sameNodes]
    refine forall_mem_concat ?_ byNodes.labelled
    intro entry listed nodeName inGroup
    exact (before.node entry listed nodeName inGroup).imp_right
      (And.imp_right (byNodes.keeps _ _ _))
  case switch =>
    refine forall_mem_concat ?_ ?_
    · intro entry listed switchName inGroup switch found
      exact (before.switch entry listed switchName inGroup switch
        found).imp_right (And.imp_right (bySwitches.keeps _ _ _))
    · intro switchName inGroup switch found
      rcases bySwitches.labelled switchName inGroup with (missing | carried) | ⟨⟨free, _⟩, desired⟩
      · cases missing.symm.trans found
      · exact .inl carried
      · exact .inr ⟨free, desired⟩
  case nodeSource =>
    intro nodeName otherKey value found
    rw [sameNodes] at found
    rcases byNodes.source nodeName otherKey value found with old | ⟨inGroup, rfl, rfl, free⟩
    · obtain ⟨entry, listed, rest⟩ := before.nodeSource nodeName otherKey value old
      exact ⟨entry, mem_append_left _ listed, rest⟩
    · exact ⟨_, mem_append_right _ (mem_singleton_self _), inGroup, rfl, rfl, free⟩
  case switchSource =>
    intro switchName otherKey value found
    rcases bySwitches.source switchName otherKey value found with
      old | ⟨inGroup, rfl, rfl, free, isThere⟩
    · obtain ⟨entry, listed, rest⟩ := before.switchSource switchName otherKey value old
      exact ⟨entry, mem_append_left _ listed, rest⟩
    · exact ⟨_, mem_append_right _ (mem_singleton_self _), inGroup, rfl, rfl, free, isThere⟩
  case max =>
    intro other
    rw [freshCount, countP_append, countP_singleton, ← freshCount]
    rcases chosenFacts with ⟨inLocked, _, rfl⟩ | ⟨none, _, rfl⟩
    · have carried : isFree context key group ≠ true := by
        rw [Ne, isFree_iff]
        exact fun free => free name ((lockedIff name).1 inLocked)
      rw [if_neg (by simp [carried]), before.max]
      rfl
    · have free : isFree context key group = true :=
        isFree_iff.2 fun value carried => none value ((lockedIff value).2 carried)
      rw [GoMap.getD_insert]
      by_cases same : tier = other
      · subst same
        rw [if_pos rfl, if_pos (by simp [free]), nextNumber]
        push_cast
        ring_nf
      · rw [if_neg same, if_neg (by simp [same]), before.max]
        rfl

lemma planGroups_eq_ok {template : Template} {nodes : List Node} {inputs : TopologyInputs}
    (inRange : ∀ tier, wrapInt (initialMax.getD tier 0) = initialMax.getD tier 0)
    (planned : planGroups runtime template switches nodes inputs initialMax groups = .ok plan) :
    ∃ entries state, Planned (planContext nodes switches inputs)
        initialMax entries state ∧ state.plan = plan ∧
      (∀ entry ∈ entries, entry.group.tier = entry.tier ∧ entry.key = template.key entry.tier) ∧
      entries.map PlanEntry.group = planOrder runtime groups := by
  obtain ⟨state, finished, isPlan⟩ := foldlM_planOrder_of_ok planned
  have reached := foldlM_prefix_induction finished (fun done state => ∃ entries,
      Planned (planContext nodes switches inputs) initialMax entries state ∧
      (∀ entry ∈ entries, entry.group.tier = entry.tier ∧ entry.key = template.key entry.tier) ∧
      entries.map PlanEntry.group = done)
    ⟨[], planned_nil inRange, by simp, rfl⟩ (by
      rintro done group rest state after _ ⟨entries, isPlanned, keys, groupsEq⟩ stepped
      obtain ⟨name, next⟩ := isPlanned.addGroup stepped
      refine ⟨_, next, forall_mem_concat keys ⟨rfl, rfl⟩, ?_⟩
      rw [map_append, groupsEq]
      rfl)
  obtain ⟨entries, isPlanned, keys, groupsEq⟩ := reached
  exact ⟨entries, state, isPlanned, isPlan, keys, groupsEq⟩

end

/-! ## No empty entries -/

/-- Every object of a plan has a desired label. -/
def AutoLabelPlan.Full (plan : AutoLabelPlan) : Prop :=
  AllDesired plan.nodes ∧ AllDesired plan.switches

lemma AutoLabelPlan.Full.planGroup {state next : PlanState} (full : state.plan.Full)
    (stepped : planGroup runtime context tier key state group = .ok next) : next.plan.Full := by
  obtain ⟨locked, _, afterLocks⟩ := bind_eq_ok.1 stepped
  obtain ⟨⟨assigned, _⟩, _, afterName⟩ := bind_eq_ok.1 afterLocks
  obtain ⟨owners, _, afterClaim⟩ := bind_eq_ok.1 afterName
  obtain ⟨withNodes, nodes, afterNodes⟩ := bind_eq_ok.1 afterClaim
  obtain ⟨plan, switches, result⟩ := bind_eq_ok.1 afterNodes
  cases result
  obtain ⟨sameSwitches, byNodes⟩ := foldlM_planNode_eq_ok nodes
  obtain ⟨sameNodes, bySwitches⟩ := foldlM_planSwitch_eq_ok switches
  refine ⟨?_, bySwitches.full ?_⟩
  · rw [sameNodes]
    exact byNodes.full full.1
  · rw [sameSwitches]
    exact full.2

lemma planGroups_full
    (planned : planGroups runtime template switches nodes inputs maxByTier groups = .ok plan) :
    plan.Full := by
  simp only [planGroups] at planned
  obtain ⟨state, finished, rfl⟩ := map_eq_ok.1 planned
  refine foldlM_prefix_induction finished (fun _ state => state.plan.Full) ?_ ?_
  · exact ⟨by simp [AutoLabelPlan.empty, AllDesired], by simp [AutoLabelPlan.empty, AllDesired]⟩
  · intro _ tier _ state next _ reached stepped
    unfold planTier at stepped
    split_ifs at stepped
    split at stepped
    · simp at stepped
    · exact foldlM_prefix_induction stepped (fun _ state => state.plan.Full) reached
        (fun _ _ _ _ _ _ full taken => full.planGroup taken)

end Unifabric.SwitchTopology
