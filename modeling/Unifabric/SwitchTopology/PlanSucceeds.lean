import Unifabric.SwitchTopology.FreshNames

/-!
# When the group loop succeeds

The group loop assigns names without an error if the names which the groups
carry are consistent: every group carries at most one, no two groups carry the
same, groups with a common Node or Switch carry the same, and the numbers of
each tier suffice for the groups without a name.
-/

namespace Unifabric.SwitchTopology

open Lib V1beta1 TopologyLabel List

variable {runtime : Runtime} {context : PlanContext}

/-! ## One group -/

section

variable {tier : Int} {key name : String} {group : DiscoveredGroup}

lemma addDesired_succeeds {conflict : String → String → String → String → PlanError}
    {desired : GoMap String Labels} {object value : String}
    (agrees : ∀ existing, desiredLabel desired object key = some existing → existing = value) :
    ∃ next, addDesired conflict desired object key value = .ok next := by
  unfold addDesired
  dsimp only
  split
  · next existing found =>
    rw [if_neg (not_not.2 (agrees existing found))]
    exact ⟨_, rfl⟩
  · exact ⟨_, rfl⟩

/-- A loop which assigns a name fails only where another name is planned. -/
lemma foldlM_assigned_succeeds {carried free : String → Prop} {members : List String}
    {step : AutoLabelPlan → String → Except PlanError AutoLabelPlan}
    {labels others : AutoLabelPlan → GoMap String Labels}
    (each : ∀ plan member after, step plan member = .ok after → others after = others plan ∧
        Assigned carried free key name [member] (labels plan) (labels after))
    (succeeds : ∀ plan, ∀ member ∈ members,
      (∀ value, desiredLabel (labels plan) member key = some value →
        value = name) → ∃ after, step plan member = .ok after)
    (desired : ∀ member ∈ members, ∀ value,
      desiredLabel (labels plan) member key = some value → value = name) :
    ∃ after, members.foldlM step plan = .ok after := by
  refine Exists.imp (fun _ => And.left) (foldlM_succeeds
    (fun _ state => ∀ member ∈ members, ∀ value,
      desiredLabel (labels state) member key = some value → value = name)
    desired ?_)
  intro done member rest state split agrees
  have listed : member ∈ members := by
    rw [split]
    exact mem_append_right _ (.head _)
  obtain ⟨after, stepped⟩ := succeeds state member listed (agrees member listed)
  refine ⟨after, stepped, fun other isOther value found => ?_⟩
  rcases (each state member after stepped).2.source other key value found with old | ⟨_, _, same, _⟩
  · exact agrees other isOther value old
  · exact same

lemma foldlM_planNode_succeeds {nodes : List String} {plan : AutoLabelPlan}
    (carried : ∀ nodeName ∈ nodes, ∀ current,
      context.nodeLabel key nodeName = some current → current = name)
    (desired : ∀ nodeName ∈ nodes, ∀ value,
      desiredLabel plan.nodes nodeName key = some value → value = name) :
    ∃ next, nodes.foldlM (planNode context tier key name) plan = .ok next := by
  refine foldlM_assigned_succeeds (fun _ _ _ => planNode_eq_ok) ?_ desired
  intro state nodeName listed agrees
  unfold planNode
  split
  · next current found =>
    rw [if_neg (not_not.2 (carried nodeName listed current found))]
    exact ⟨_, rfl⟩
  · obtain ⟨next, added⟩ := addDesired_succeeds agrees
    exact ⟨_, map_eq_ok.2 ⟨next, added, rfl⟩⟩

lemma foldlM_planSwitch_succeeds {members : List String} {plan : AutoLabelPlan}
    (known : ∀ switchName ∈ members, context.switchesByName[switchName]? = none →
        context.syntheticSwitches.getD switchName false = true)
    (carried : ∀ switchName ∈ members, context.switchDomain switchName ≠ "" →
        context.switchDomain switchName = name)
    (desired : ∀ switchName ∈ members, ∀ value,
      desiredLabel plan.switches switchName topologyDomainLabel = some value → value = name) :
    ∃ next, members.foldlM (planSwitch context name) plan = .ok next := by
  refine foldlM_assigned_succeeds (fun _ _ _ => planSwitch_eq_ok) ?_ desired
  intro state switchName listed agrees
  unfold planSwitch
  split
  · next missing =>
    rw [if_pos (known switchName listed missing)]
    exact ⟨_, rfl⟩
  · next switch found =>
    rw [← switchDomain_of_found found]
    dsimp only
    split_ifs with labelled differs
    · exact absurd (carried switchName listed labelled) differs
    · exact ⟨_, rfl⟩
    · obtain ⟨next, added⟩ := addDesired_succeeds agrees
      exact ⟨_, map_eq_ok.2 ⟨next, added, rfl⟩⟩

/-- The locks of an existing group with readable names are collected. -/
lemma lockedNames_succeeds (isThere : GroupExists context group)
    (parses : ∀ value, Carries context key group value → Parses tier value) :
    ∃ locked, lockedNames context tier key group = .ok locked := by
  have nodes : ∃ byNodes, group.nodes.foldlM (lockNode context tier key) ∅ = .ok byNodes := by
    refine foldlM_succeeds_of_forall ∅ fun nodeName listed locked => ?_
    obtain ⟨node, found⟩ := isThere.node nodeName listed
    unfold lockNode
    rw [found]
    dsimp only
    split
    · exact ⟨_, rfl⟩
    · next value carried =>
      rcases parses value (.inl ⟨nodeName, listed,
        (nodeLabel_of_found found).trans carried⟩) with ⟨number, parsed⟩
      rw [parsed]
      exact ⟨_, rfl⟩
  obtain ⟨byNodes, nodes⟩ := nodes
  have switches : ∃ locked, group.members.foldlM
      (lockSwitch context tier) byNodes = .ok locked := by
    refine foldlM_succeeds_of_forall byNodes fun switchName listed locked => ?_
    unfold lockSwitch
    split
    · next missing =>
      rw [if_pos (isThere.switch switchName listed missing)]
      exact ⟨_, rfl⟩
    · next switch found =>
      rw [← switchDomain_of_found found]
      dsimp only
      split_ifs with unlabelled
      · exact ⟨_, rfl⟩
      · obtain ⟨number, parsed⟩ := parses _ (.inr ⟨switchName, listed, rfl, unlabelled⟩)
        rw [parsed]
        exact ⟨_, rfl⟩
  obtain ⟨locked, switches⟩ := switches
  exact ⟨locked, bind_eq_ok.2 ⟨byNodes, nodes, switches⟩⟩

lemma chooseName_succeeds (only : ∀ left ∈ locked, ∀ right ∈ locked, left = right) :
    ∃ chosen, chooseName runtime tier maxByTier group locked = .ok chosen := by
  have member := mem_sortedStringSet runtime
    ["buildAutoLabelPlan", group.internalName, "locked"] locked
  have once : (sortedStringSet runtime
      ["buildAutoLabelPlan", group.internalName, "locked"] locked).Nodup :=
    (sortValues_perm _).nodup_iff.2
      ((runtime.range_perm _ _).nodup_iff.2 (GoMap.keys_nodup locked))
  unfold chooseName
  generalize sortedStringSet runtime
    ["buildAutoLabelPlan", group.internalName, "locked"] locked = names
    at member once
  match names with
  | [] => exact ⟨_, rfl⟩
  | [_] => exact ⟨_, rfl⟩
  | first :: second :: rest =>
    have same := only first ((member first).1 (by simp)) second ((member second).1 (by simp))
    simp [same] at once

/-- A group with at most one name is planned if the name is free. -/
lemma planGroup_succeeds {state : PlanState} (isThere : GroupExists context group)
    (parses : ∀ value, Carries context key group value → Parses tier value)
    (only : ∀ left right, Carries context key group left →
      Carries context key group right → left = right)
    (good : ∀ name, Carries context key group name ∨
        (isFree context key group = true ∧ name = autoDomainName tier
          (wrapInt (state.maxByTier.getD tier 0 + 1))) →
      (∀ owner, state.assignedOwners[name]? = some owner →
        owner = ownerOf tier group.internalName) ∧
      (∀ nodeName ∈ group.nodes, ∀ value, desiredLabel state.plan.nodes nodeName key = some value →
          value = name) ∧
      ∀ switchName ∈ group.members, ∀ value,
        desiredLabel state.plan.switches switchName topologyDomainLabel =
          some value → value = name) :
    ∃ next, planGroup runtime context tier key state group = .ok next := by
  obtain ⟨locked, isLocked⟩ := lockedNames_succeeds isThere parses
  have lockedIff := (lockedNames_eq_ok isLocked).2.1
  have chosen : ∃ chosen, chooseName runtime tier state.maxByTier group locked = .ok chosen :=
    chooseName_succeeds fun left isLeft right isRight =>
      only left right ((lockedIff left).1 isLeft) ((lockedIff right).1 isRight)
  obtain ⟨⟨name, maxAfter⟩, chosen⟩ := chosen
  have facts : (Carries context key group name ∨
      (isFree context key group = true ∧ name = autoDomainName tier
        (wrapInt (state.maxByTier.getD tier 0 + 1)))) ∧
      ∀ value, Carries context key group value → value = name := by
    rcases chooseName_eq_ok chosen with ⟨inLocked, isOnly, _⟩ | ⟨none, named, _⟩
    · exact ⟨.inl ((lockedIff name).1 inLocked),
        fun value carried => isOnly value ((lockedIff value).2 carried)⟩
    · have free : ∀ value, ¬ Carries context key group value :=
        fun value carried => none value ((lockedIff value).2 carried)
      exact ⟨.inr ⟨isFree_iff.2 free, named⟩, fun value carried => absurd carried (free value)⟩
  obtain ⟨owners, nodes, switches⟩ := good name facts.1
  have claimed : ∃ after, claimName state.assignedOwners name
      (ownerOf tier group.internalName) = .ok after := by
    unfold claimName
    split
    · next existing found =>
      rw [if_neg (not_not.2 (owners existing found))]
      exact ⟨_, rfl⟩
    · exact ⟨_, rfl⟩
  obtain ⟨after, claimed⟩ := claimed
  have plannedNodes : ∃ withNodes, group.nodes.foldlM
      (planNode context tier key name) state.plan = .ok withNodes :=
    foldlM_planNode_succeeds (fun nodeName listed current found => facts.2 current
        (.inl ⟨nodeName, listed, found⟩)) nodes
  obtain ⟨withNodes, plannedNodes⟩ := plannedNodes
  rw [← (foldlM_planNode_eq_ok plannedNodes).1] at switches
  rcases foldlM_planSwitch_succeeds isThere.switch (fun switchName listed labelled => facts.2 _
      (.inr ⟨switchName, listed, rfl, labelled⟩)) switches with
    ⟨plan, plannedSwitches⟩
  refine ⟨{ plan, maxByTier := maxAfter, assignedOwners := after }, ?_⟩
  refine bind_eq_ok.2 ⟨locked, isLocked, ?_⟩
  refine bind_eq_ok.2 ⟨(name, maxAfter), chosen, ?_⟩
  refine bind_eq_ok.2 ⟨after, claimed, ?_⟩
  refine bind_eq_ok.2 ⟨withNodes, plannedNodes, ?_⟩
  exact bind_eq_ok.2 ⟨plan, plannedSwitches, rfl⟩

end

/-! ## All groups -/

/-- Two groups with a Node of one label or a Switch in common. -/
def Shares (context : PlanContext) (left right : PlanEntry) : Prop :=
  (left.key = right.key ∧ ∃ nodeName ∈ left.group.nodes, nodeName ∈ right.group.nodes) ∨
    ∃ switchName ∈ left.group.members, switchName ∈ right.group.members ∧
      ∃ switch, context.switchesByName[switchName]? = some switch

/--
Names for groups which agree with what the groups carry.  Only the names of
groups which carry one matter, the others get a new one.
-/
structure Assignable (context : PlanContext) (template : Template)
    (maxByTier : GoMap Int Int) (target : List PlanEntry) : Prop where
  entry : ∀ entry ∈ target, 1 ≤ entry.tier ∧
    entry.group.tier = entry.tier ∧ entry.key = template.key entry.tier
  exist : ∀ entry ∈ target, GroupExists context entry.group
  carried : ∀ entry ∈ target, ∀ value,
    Carries context entry.key entry.group value → value = entry.name ∧
      ∃ number, parseAutoDomainName value entry.tier = .ok number ∧
        number ≤ maxByTier.getD entry.tier 0
  owner : ∀ left ∈ target, ∀ right ∈ target, left.name = right.name → left.owner = right.owner
  shared : target.Pairwise fun left right => Shares context left right →
    isFree context left.key left.group = false ∧ isFree context right.key right.group = false ∧
      left.name = right.name
  room : ∀ tier, 0 < freshCount context target tier →
    maxByTier.getD tier 0 + freshCount context target tier ≤ maxInt

section

variable {template : Template} {maxByTier : GoMap Int Int} {target : List PlanEntry}

section

variable (assignable : Assignable context template maxByTier target)
variable (inRange : ∀ tier, 0 ≤ maxByTier.getD tier 0 ∧ maxByTier.getD tier 0 ≤ maxInt)

include assignable inRange

/--
The name of a planned group is that of the target if the group carries one, and
its number is above those in use only if the name is new.
-/
lemma Assignable.name_of_planned {early entries : List PlanEntry}
    (isPart : ∀ other ∈ early, other ∈ target) (planned : Planned context maxByTier entries state)
    (keys : ∀ entry ∈ entries, entry.group.tier = entry.tier ∧ entry.key = template.key entry.tier)
    (groups : entries.map PlanEntry.group = early.map PlanEntry.group)
    (room : ∀ tier, 0 < freshCount context entries tier → maxByTier.getD tier
      0 + freshCount context entries tier ≤ maxInt)
    {entry : PlanEntry} (isEntry : entry ∈ entries) :
    ∃ other ∈ early, other.group = entry.group ∧ other.key = entry.key ∧ other.tier = entry.tier ∧
      (isFree context entry.key entry.group = false → entry.name = other.name) ∧
      ∃ number, entry.name = autoDomainName entry.tier number ∧
        number ≤ maxByTier.getD entry.tier 0 + freshCount context entries entry.tier ∧
        (isFree context entry.key entry.group = true → maxByTier.getD entry.tier 0 < number) := by
  have listed : entry.group ∈ early.map PlanEntry.group := by
    rw [← groups]
    exact mem_map_of_mem isEntry
  obtain ⟨other, isOther, sameGroup⟩ := mem_map.1 listed
  have facts := assignable.entry other (isPart other isOther)
  have sameTier : other.tier = entry.tier := by rw [← facts.2.1, sameGroup, (keys entry isEntry).1]
  have sameKey : other.key = entry.key := by rw [facts.2.2, sameTier, (keys entry isEntry).2]
  refine ⟨other, isOther, sameGroup, sameKey, sameTier, ?_⟩
  cases free : isFree context entry.key entry.group with
  | true =>
    have isSome : 0 < freshCount context entries entry.tier :=
      countP_pos_iff.2 ⟨entry, isEntry, by simp [free]⟩
    rcases planned.number_of_free isEntry free (inRange entry.tier).1
      (room entry.tier isSome) with ⟨number, named, above, below⟩
    exact ⟨by simp, number, named, below, fun _ => above⟩
  | false =>
    have carried : ∃ value, Carries context entry.key entry.group
        value := by
      by_contra none
      push Not at none
      rw [isFree_iff.2 none] at free
      cases free
    obtain ⟨value, carried⟩ := carried
    have isName := planned.locked entry isEntry value carried
    rw [← sameGroup, ← sameKey] at carried
    rcases assignable.carried other (isPart other isOther) value
      carried with ⟨aimed, number, parsed, bounded⟩
    rw [parseAutoDomainName_eq_ok_iff] at parsed
    have named := (autoDomainName_of_parse parsed).2.2
    rw [sameTier] at named bounded
    refine ⟨fun _ => isName.symm.trans aimed, number, isName.symm.trans named, by omega, by simp⟩

lemma Assignable.planStep_succeeds {early : List PlanEntry}
    (isPart : target = early ++ aim :: late) {entries : List PlanEntry}
    (planned : Planned context maxByTier entries state)
    (keys : ∀ entry ∈ entries, entry.group.tier = entry.tier ∧ entry.key = template.key entry.tier)
    (groups : entries.map PlanEntry.group = early.map PlanEntry.group) :
    ∃ next, planStep runtime template context state aim.group = .ok next := by
  have inTarget : aim ∈ target := by
    rw [isPart]
    exact mem_append_right _ (.head _)
  have isEarly : ∀ other ∈ early, other ∈ target := by
    intro other isOther
    rw [isPart]
    exact mem_append_left _ isOther
  have facts := assignable.entry aim inTarget
  have count : ∀ tier, freshCount context entries tier + freshCount context (aim :: late) tier =
        freshCount context target tier := by
    intro tier
    rw [isPart, freshCount_append, freshCount_eq_freeGroups keys, groups,
      ← freshCount_eq_freeGroups fun other isOther =>
        (assignable.entry other (isEarly other isOther)).2]
  have number : wrapInt (state.maxByTier.getD aim.tier 0 + 1) =
      nextNumber context maxByTier entries aim.tier := by
    rw [planned.max, wrapInt_add]
    rfl
  have earlier : ∀ entry ∈ entries, _ := fun entry isEntry =>
    assignable.name_of_planned inRange isEarly planned keys groups (fun tier isSome => by
      have total := count tier
      have room := assignable.room tier (by omega)
      omega) isEntry
  unfold planStep
  rw [facts.2.1, ← facts.2.2]
  refine planGroup_succeeds (assignable.exist aim inTarget) ?_ ?_ ?_
  · intro value carried
    obtain ⟨found, parsed, _⟩ := (assignable.carried aim inTarget value carried).2
    exact ⟨found, parsed⟩
  · intro left right isLeft isRight
    rw [(assignable.carried aim inTarget left isLeft).1,
      (assignable.carried aim inTarget right isRight).1]
  rw [number]
  intro name isName
  have common : ∀ entry ∈ entries, ∀ other ∈ early,
      other.group = entry.group → other.key = entry.key →
      (isFree context entry.key entry.group = false → entry.name = other.name) →
      Shares context other aim → entry.name = name := by
    intro entry _ other isOther sameGroup sameKey named shares
    have pairs := assignable.shared
    rw [isPart, pairwise_append] at pairs
    rcases pairs.2.2 other isOther aim (.head _) shares with
      ⟨otherNotFree, notFree, sameName⟩
    rw [sameGroup, sameKey] at otherNotFree
    rcases isName with carried | ⟨free, _⟩
    · rw [named otherNotFree, sameName, (assignable.carried aim inTarget name carried).1]
    · rw [notFree] at free
      cases free
  refine ⟨?_, ?_, ?_⟩
  · intro owner found
    obtain ⟨entry, isEntry, sameName, rfl⟩ := planned.ownerSource name owner found
    rcases earlier entry isEntry with ⟨other, isOther, sameGroup, sameKey,
      sameTier, named, own, ownName, below, above⟩
    have positive := (assignable.entry other (isEarly other isOther)).1
    rcases isName with carried | ⟨free, isNew⟩
    · obtain ⟨aimed, found, parsed, bounded⟩ := assignable.carried aim inTarget name carried
      rw [parseAutoDomainName_eq_ok_iff] at parsed
      have texts := (autoDomainName_of_parse parsed).2.2
      rw [← sameName, ownName] at texts
      obtain ⟨tiers, numbers⟩ := autoDomainName_injective (by omega) (by omega) texts
      cases entryFree : isFree context entry.key entry.group with
      | false =>
        have sameOwner := assignable.owner other (isEarly other isOther)
          aim inTarget (by rw [← named entryFree, sameName, aimed])
        rwa [PlanEntry.owner, sameGroup, sameTier] at sameOwner
      | true =>
        have new := above entryFree
        rw [← tiers] at bounded
        omega
    · -- the number of a new name has not been given yet
      have isSome : 0 < freshCount context (aim :: late) aim.tier :=
        countP_pos_iff.2 ⟨aim, .head _, by simp [free]⟩
      have total := count aim.tier
      have room := assignable.room aim.tier (by omega)
      rw [nextNumber_eq (inRange aim.tier).1 (by omega)] at isNew
      rw [ownName, isNew] at sameName
      obtain ⟨tiers, numbers⟩ := autoDomainName_injective (by omega) (by omega) sameName
      rw [tiers] at below
      omega
  · intro nodeName listed value desired
    rcases planned.nodeSource nodeName aim.key value desired with
      ⟨entry, isEntry, inGroup, isKey, rfl, _⟩
    obtain ⟨other, isOther, sameGroup, sameKey, _, named, _⟩ := earlier entry isEntry
    refine common entry isEntry other isOther sameGroup sameKey named
      (.inl ⟨sameKey.trans isKey.symm, nodeName, ?_, listed⟩)
    rwa [sameGroup]
  · intro switchName listed value desired
    rcases planned.switchSource switchName topologyDomainLabel value
      desired with ⟨entry, isEntry, inGroup, _, rfl, _, isThere⟩
    obtain ⟨other, isOther, sameGroup, sameKey, _, named, _⟩ := earlier entry isEntry
    refine common entry isEntry other isOther sameGroup sameKey named
      (.inr ⟨switchName, ?_, listed, isThere⟩)
    rwa [sameGroup]

lemma Assignable.foldlM_planStep_succeeds : ∃ state, (target.map PlanEntry.group).foldlM
      (planStep runtime template context) (.start maxByTier) = .ok state := by
  have bound : (maxInt : Int) = 2 ^ 63 - 1 := by decide
  have wrapped : ∀ tier, wrapInt (maxByTier.getD tier 0) = maxByTier.getD tier 0 := by
    intro tier
    have range := inRange tier
    exact wrapInt_eq_self (by omega) (by omega)
  have succeeds : ∃ state, (target.map PlanEntry.group).foldlM
      (planStep runtime template context) (.start maxByTier) = .ok state ∧
        ∃ entries, Planned context maxByTier entries state ∧
          (∀ entry ∈ entries, entry.group.tier = entry.tier ∧ entry.key = template.key entry.tier) ∧
          entries.map PlanEntry.group = target.map PlanEntry.group := by
    refine foldlM_succeeds (fun done state => ∃ entries, Planned context maxByTier entries state ∧
        (∀ entry ∈ entries, entry.group.tier = entry.tier ∧ entry.key = template.key entry.tier) ∧
        entries.map PlanEntry.group = done)
      ⟨[], planned_nil wrapped, by simp, rfl⟩ ?_
    rintro done group rest state split ⟨entries, planned, keys, groups⟩
    obtain ⟨early, remaining, isPart, isDone, isRest⟩ := map_eq_append_iff.1 split
    obtain ⟨aim, late, rfl, rfl, _⟩ := map_eq_cons_iff.1 isRest
    rcases assignable.planStep_succeeds inRange isPart planned keys
      (groups.trans isDone.symm) with ⟨next, stepped⟩
    refine ⟨next, stepped, ?_⟩
    obtain ⟨name, after⟩ := planned.addGroup stepped
    refine ⟨_, after, forall_mem_concat keys ⟨rfl, rfl⟩, ?_⟩
    rw [map_append, groups]
    rfl
  obtain ⟨state, finished, _⟩ := succeeds
  exact ⟨state, finished⟩

end

end

end Unifabric.SwitchTopology
