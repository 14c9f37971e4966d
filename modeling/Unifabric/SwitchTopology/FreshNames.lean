import Unifabric.SwitchTopology.PlanSound

/-!
# New names

A group whose Nodes and Switches carry no name gets the next number of its
tier.  While the numbers of the tier do not overflow, the new names are read
back and their numbers exceed every number in use.
-/

namespace Unifabric.SwitchTopology

open Lib V1beta1 TopologyLabel List Option

variable {entries : List PlanEntry} {state : PlanState} {runtime : Runtime}
  {fabricNodes : List FabricNode} {plan : AutoLabelPlan} {maxByTier : GoMap Int Int}
  {groups : List DiscoveredGroup}
open Unifabric.Discovery (NamesLaw)

variable {entry : PlanEntry} {tier : Int}

/-! ## Numbers of new names -/

section

variable {context : PlanContext} {initialMax : GoMap Int Int}

lemma freshCount_append (left right : List PlanEntry) (tier : Int) :
    freshCount context (left ++ right) tier =
      freshCount context left tier + freshCount context right tier :=
  countP_append

lemma freshCount_lt {before after : List PlanEntry}
    (free : isFree context entry.key entry.group = true) :
    freshCount context before entry.tier <
      freshCount context (before ++ entry :: after) entry.tier := by
  rw [freshCount_append]
  have pos : 0 < freshCount context (entry :: after) entry.tier :=
    countP_pos_iff.2 ⟨entry, mem_cons_self, by simp [free]⟩
  omega

/-- While the numbers of the tier last, they are given in order. -/
lemma nextNumber_eq (nonneg : 0 ≤ initialMax.getD tier 0)
    (room : initialMax.getD tier 0 + freshCount context entries tier < maxInt) :
    nextNumber context initialMax entries tier =
      initialMax.getD tier 0 + freshCount context entries tier + 1 := by
  have bound : (maxInt : Int) = 2 ^ 63 - 1 := by decide
  exact wrapInt_eq_self (by omega) (by omega)

lemma Planned.number_of_free (planned : Planned context initialMax entries state)
    (isEntry : entry ∈ entries) (free : isFree context entry.key entry.group = true)
    (nonneg : 0 ≤ initialMax.getD entry.tier 0)
    (room : initialMax.getD entry.tier 0 + freshCount context entries entry.tier ≤ maxInt) :
    ∃ number, entry.name = autoDomainName entry.tier number ∧
      initialMax.getD entry.tier 0 < number ∧
      number ≤ initialMax.getD entry.tier 0 + freshCount context entries entry.tier := by
  obtain ⟨before, after, split⟩ := append_of_mem isEntry
  have less : freshCount context before entry.tier < freshCount context entries entry.tier := by
    rw [split]
    exact freshCount_lt free
  rcases planned.named before entry after split with ⟨carried, _⟩ | ⟨_, named⟩
  · exact absurd carried (isFree_iff.1 free entry.name)
  · rw [nextNumber_eq nonneg (by omega)] at named
    exact ⟨_, named, by omega, by omega⟩

/-- Once the numbers of the tier are used up, a name is not read back. -/
lemma Planned.exists_overflow (planned : Planned context initialMax entries state)
    (positive : 1 ≤ tier) (bounded : initialMax.getD tier 0 ≤ maxInt)
    (full : maxInt < initialMax.getD tier 0 + freshCount context entries tier) :
    ∃ entry ∈ entries, entry.tier = tier ∧ isFree context entry.key entry.group = true ∧
      ¬ Parses tier entry.name := by
  have bound : (maxInt : Int) = 2 ^ 63 - 1 := by decide
  have less : (maxInt - initialMax.getD tier 0).toNat < freshCount context entries tier := by omega
  obtain ⟨before, entry, after, split, isFresh, counted⟩ := exists_split_of_lt_countP less
  rw [Bool.and_eq_true, decide_eq_true_eq] at isFresh
  obtain ⟨rfl, free⟩ := isFresh
  refine ⟨entry, ?_, rfl, free, ?_⟩
  · rw [split]
    exact mem_append_right _ mem_cons_self
  · rintro ⟨number, parsed⟩
    rw [parseAutoDomainName_eq_ok_iff, parseAutoDomainNameParts_eq_ok_iff] at parsed
    rcases planned.named before entry after split with ⟨carried, _⟩ | ⟨_, named⟩
    · exact isFree_iff.1 free _ carried
    · -- the counter has wrapped around to the smallest number
      have wrapped : nextNumber context initialMax before entry.tier = -2 ^ 63 := by
        have counted : freshCount context before entry.tier =
            (maxInt - initialMax.getD entry.tier 0).toNat :=
          counted
        have last : initialMax.getD entry.tier 0 +
            freshCount context before entry.tier + 1 = 2 ^ 63 := by
          omega
        rw [nextNumber, last]
        decide
      rw [named, wrapped] at parsed
      have same := (autoDomainName_injective (by omega) (by omega) parsed.2.2).2
      omega

end

/-! ## The groups of a plan -/

section

variable {role : SwitchRole} {template : Template} {switches : List Switch} {nodes : List Node}
  {inputs : TopologyInputs}

/-- The number of groups of a tier which carry no name. -/
def freeGroups (context : PlanContext) (template : Template)
    (groups : List DiscoveredGroup) (tier : Int) : Nat :=
  groups.countP fun group => decide (group.tier = tier) &&
    isFree context (template.key group.tier) group

lemma freeGroups_of_tiers (isTiers : groups.map DiscoveredGroup.tier = tiers)
    (isSome : 0 < freeGroups context template groups tier) :
    tier ∈ tiers ∧ freeGroups context template groups tier ≤ tiers.length := by
  obtain ⟨group, isGroup, isFresh⟩ := countP_pos_iff.1 isSome
  rw [Bool.and_eq_true, decide_eq_true_eq] at isFresh
  rw [← isTiers, ← isFresh.1, length_map]
  exact ⟨mem_map_of_mem isGroup, countP_le_length⟩

/-- The value the plan wants on a Node or a Switch of the group. -/
def PlannedValue (plan : AutoLabelPlan) (template : Template)
    (group : DiscoveredGroup) (value : String) : Prop :=
  (∃ nodeName ∈ group.nodes, desiredLabel plan.nodes nodeName
      (template.key group.tier) = some value) ∨
    ∃ switchName ∈ group.members, desiredLabel plan.switches switchName
      topologyDomainLabel = some value

/-- The value is carried by a Node or a Switch of the role in the group. -/
def CarriedInRole (role : SwitchRole) (context : PlanContext)
    (key : String) (group : DiscoveredGroup) (value : String) : Prop :=
  (∃ nodeName ∈ group.nodes, context.nodeLabel key nodeName = some value) ∨
    ∃ switchName ∈ group.members, ∃ switch, context.switchesByName[switchName]? = some switch ∧
        effectiveSwitchRole switch = role ∧
        switch.labels.getD topologyDomainLabel "" = value ∧ value ≠ ""

lemma freshCount_eq_freeGroups
    (keys : ∀ entry ∈ entries, entry.group.tier = entry.tier ∧ entry.key = template.key entry.tier)
    (context : PlanContext) (tier : Int) : freshCount context entries tier =
      freeGroups context template (entries.map PlanEntry.group) tier := by
  unfold freshCount freeGroups
  rw [countP_map]
  refine countP_congr fun entry isEntry => ?_
  simp only [Function.comp_apply, (keys entry isEntry).1, (keys entry isEntry).2]

section

variable
  (run : PlanRun runtime role template fabricNodes switches nodes plan inputs maxByTier entries
      state)

include run

lemma PlanRun.freshCount_eq (context : PlanContext) (tier : Int) :
    freshCount context entries tier = freeGroups context template (discoveredRecords runtime inputs)
        tier := by
  have perm : (planOrder runtime (discoveredRecords runtime inputs)).Perm
      (discoveredRecords runtime inputs) :=
    planOrder_perm _
  rw [freshCount_eq_freeGroups (fun entry isEntry =>
    ⟨(run.entry entry isEntry).2.2.1, (run.entry entry isEntry).2.1⟩),
    run.order]
  exact perm.countP_eq _

lemma PlanRun.name_eq_of_plannedValue (isEntry : entry ∈ entries)
    (planned : PlannedValue plan template entry.group value) : entry.name = value := by
  have facts := run.entry entry isEntry
  rw [PlannedValue, facts.2.2.1, ← facts.2.1, ← run.plan_eq] at planned
  rcases planned with ⟨nodeName, inGroup, desired⟩ | ⟨switchName, inGroup, desired⟩
  · obtain ⟨_, _, _, _, _, free⟩ := run.planned.nodeSource _ _ _ desired
    rcases run.planned.node entry isEntry nodeName inGroup with carried | ⟨_, same⟩
    · rw [carried] at free
      cases free
    · rw [same] at desired
      exact some.inj desired
  · obtain ⟨_, _, _, _, _, free, switch, found⟩ := run.planned.switchSource _ _ _ desired
    rcases run.planned.switch entry isEntry switchName inGroup switch found with carried | ⟨_, same⟩
    · rw [free] at carried
      exact absurd carried.symm (run.planned.name_ne_empty isEntry)
    · rw [same] at desired
      exact some.inj desired

lemma PlanRun.plannedValue_of_unlabelled (isEntry : entry ∈ entries)
    (inGroup : nodeName ∈ entry.group.nodes)
    (unlabelled : (planContext nodes switches inputs).nodeLabel entry.key nodeName = none) :
    PlannedValue plan template entry.group entry.name := by
  have facts := run.entry entry isEntry
  refine .inl ⟨nodeName, inGroup, ?_⟩
  rw [facts.2.2.1, ← facts.2.1, ← run.plan_eq]
  rcases run.planned.node entry isEntry nodeName inGroup with carried | ⟨_, same⟩
  · rw [unlabelled] at carried
    cases carried
  · exact same

lemma PlanRun.exists_group_of_desired : (∀ nodeName key value,
      desiredLabel plan.nodes nodeName key = some value →
        ∃ group ∈ discoveredRecords runtime inputs,
          nodeName ∈ group.nodes ∧ key = template.key group.tier) ∧
      ∀ switchName key value, desiredLabel plan.switches switchName key = some value →
          key = topologyDomainLabel ∧ ∃ group ∈ discoveredRecords runtime inputs,
              switchName ∈ group.members := by
  have listed : ∀ entry ∈ entries, entry.group ∈ discoveredRecords runtime inputs :=
    fun entry isEntry => (run.mem_discoveredRecords_iff _).2 ⟨entry, isEntry, rfl⟩
  rw [← run.plan_eq]
  constructor
  · intro nodeName key value desired
    obtain ⟨entry, isEntry, inGroup, rfl, _⟩ := run.planned.nodeSource nodeName key value desired
    have facts := run.entry entry isEntry
    exact ⟨entry.group, listed entry isEntry, inGroup, by rw [facts.2.2.1, facts.2.1]⟩
  · intro switchName key value desired
    rcases run.planned.switchSource switchName key value desired with
      ⟨entry, isEntry, inGroup, rfl, _⟩
    exact ⟨rfl, entry.group, listed entry isEntry, inGroup⟩

end

end

/-! ## New names are read back -/

section

variable (role : SwitchRole) (template : Template) (switches : List Switch) (nodes : List Node)
  (inputs : TopologyInputs)

/--
The value is read back with the tier of the group, and if neither a Node nor a
Switch of the role in the group carries it, its number exceeds every number in
use on the tier.
-/
def ReadBackNew (group : DiscoveredGroup) (value : String) : Prop :=
  ∃ number, parseAutoDomainName value group.tier = .ok number ∧
    (¬ CarriedInRole role (planContext nodes switches inputs)
        (template.key group.tier) group value →
      ∀ existing, ExistingNumber role template switches nodes group.tier
        existing → existing < number)

/-- The numbers of every tier suffice for its groups without a name. -/
def EnoughNumbers (groups : List DiscoveredGroup) : Prop :=
  ∀ tier, 0 < freeGroups (planContext nodes switches inputs) template groups tier → tier ≤ maxInt ∧
      freeGroups (planContext nodes switches inputs) template groups tier ≤ maxInt ∧
      ∀ existing, ExistingNumber role template switches nodes tier existing →
        existing + freeGroups (planContext nodes switches inputs) template groups tier ≤ maxInt

/--
A name which a group only takes from Switches of other roles has a number above
those in use.
-/
def OthersAbove (groups : List DiscoveredGroup) : Prop :=
  ∀ group ∈ groups, ∀ value, Carries (planContext nodes switches inputs) (template.key group.tier)
        group value →
      ¬ CarriedInRole role (planContext nodes switches inputs)
          (template.key group.tier) group value →
        ∀ existing number, ExistingNumber role template switches nodes group.tier existing →
          parseAutoDomainName value group.tier = .ok number → existing < number

end

section

variable {role : SwitchRole} {template : Template} {switches : List Switch} {nodes : List Node}
  {inputs : TopologyInputs}

lemma EnoughNumbers.room (enough : EnoughNumbers role template switches nodes inputs groups)
    (scanned : scanExisting runtime role template switches nodes = .ok maxByTier)
    (some : 0 < freeGroups (planContext nodes switches inputs) template groups tier) :
    maxByTier.getD tier 0 + freeGroups (planContext nodes switches inputs)
      template groups tier ≤ maxInt := by
  rcases (scanExisting_eq_ok scanned).2.attained tier with zero | existing
  · rw [zero, GoMap.getD_eq, Std.ExtTreeMap.getElem?_empty, getD_none]
    have bounded := (enough tier some).2.1
    omega
  · exact (enough tier some).2.2 _ existing

section

variable
  (run : PlanRun runtime role template fabricNodes switches nodes plan inputs maxByTier entries
      state)

include run

/-- A group without a name gets one which is read back and new. -/
lemma PlanRun.exists_number_of_free (enough : EnoughNumbers role template switches nodes inputs
      (discoveredRecords runtime inputs)) (isEntry : entry ∈ entries)
    (free : isFree (planContext nodes switches inputs) entry.key entry.group = true) :
    ∃ number, parseAutoDomainName entry.name entry.tier = .ok number ∧
      maxByTier.getD entry.tier 0 < number ∧
      number ≤ maxByTier.getD entry.tier 0 + freeGroups (planContext nodes switches inputs) template
          (discoveredRecords runtime inputs) entry.tier := by
  have count := run.freshCount_eq (planContext nodes switches inputs) entry.tier
  have isSome : 0 < freeGroups (planContext nodes switches inputs) template
      (discoveredRecords runtime inputs) entry.tier := by
    rw [← count]
    exact countP_pos_iff.2 ⟨entry, isEntry, by simp [free]⟩
  have room := enough.room run.scanned isSome
  have nonneg := (range_scanExisting run.scanned entry.tier).1
  rcases run.planned.number_of_free isEntry free nonneg
    (by rw [count]; exact room) with ⟨number, named, above, below⟩
  rw [count] at below
  refine ⟨number, ?_, above, below⟩
  rw [parseAutoDomainName_eq_ok_iff, named]
  exact parse_autoDomainName (run.entry entry isEntry).1
    (enough entry.tier isSome).1 (by omega) (by omega)

/-- With enough numbers every planned value is read back and new. -/
lemma PlanRun.readBackNew
    (enough : EnoughNumbers role template switches nodes inputs (discoveredRecords runtime inputs))
    (others : OthersAbove role template switches nodes inputs (discoveredRecords runtime inputs))
    (isEntry : entry ∈ entries) : ReadBackNew role template switches nodes inputs entry.group
      entry.name := by
  have facts := run.entry entry isEntry
  have inGroups : entry.group ∈ discoveredRecords runtime inputs :=
    (run.mem_discoveredRecords_iff _).2 ⟨entry, isEntry, rfl⟩
  obtain ⟨before, after, split⟩ := append_of_mem isEntry
  rcases run.planned.named before entry after split with ⟨carried, number, parsed⟩ | ⟨free, _⟩
  · rw [← facts.2.2.1] at parsed
    refine ⟨number, parsed, fun notCarried existing isExisting => ?_⟩
    refine others entry.group inGroups entry.name ?_ notCarried existing number isExisting parsed
    rwa [facts.2.2.1, ← facts.2.1]
  · obtain ⟨number, parsed, above, _⟩ := run.exists_number_of_free enough isEntry free
    rw [← facts.2.2.1] at parsed
    refine ⟨number, parsed, fun _ existing isExisting => ?_⟩
    have covered := (scanExisting_eq_ok run.scanned).2.covers _ existing isExisting
    rw [facts.2.2.1] at covered
    omega

section

variable (law : NamesLaw inputs.hosts inputs.switches (discoverInputs runtime inputs))
  (fresh : ∀ group ∈ discoveredRecords runtime inputs, ∀ value,
    PlannedValue plan template group value →
      ReadBackNew role template switches nodes inputs group value)

include law fresh

lemma PlanRun.enoughNumbers : EnoughNumbers role template switches nodes inputs
      (discoveredRecords runtime inputs) := by
  have parses : ∀ entry ∈ entries,
      isFree (planContext nodes switches inputs) entry.key entry.group =
        true → Parses entry.tier entry.name := by
    intro entry isEntry free
    have facts := run.entry entry isEntry
    obtain ⟨group, normalizes⟩ := facts.2.2.2
    obtain ⟨nodeName, inGroup⟩ := normalizes.exists_node rfl law
    have unlabelled : (planContext nodes switches inputs).nodeLabel entry.key nodeName = none := by
      rw [eq_none_iff_forall_ne_some]
      intro value carried
      exact isFree_iff.1 free value (.inl ⟨nodeName, inGroup, carried⟩)
    rcases fresh entry.group ((run.mem_discoveredRecords_iff _).2
      ⟨entry, isEntry, rfl⟩) entry.name
      (run.plannedValue_of_unlabelled isEntry inGroup unlabelled) with
      ⟨number, parsed, _⟩
    rw [facts.2.2.1] at parsed
    exact ⟨number, parsed⟩
  have room : ∀ tier, 0 < freeGroups (planContext nodes switches inputs)
      template (discoveredRecords runtime inputs) tier →
        tier ≤ maxInt ∧ maxByTier.getD tier 0 + freeGroups
          (planContext nodes switches inputs) template
          (discoveredRecords runtime inputs) tier ≤ maxInt := by
    intro tier isSome
    rw [← run.freshCount_eq] at isSome ⊢
    obtain ⟨entry, isEntry, isFresh⟩ := countP_pos_iff.1 isSome
    rw [Bool.and_eq_true, decide_eq_true_eq] at isFresh
    obtain ⟨rfl, free⟩ := isFresh
    constructor
    · obtain ⟨number, parsed⟩ := parses entry isEntry free
      rw [parseAutoDomainName_eq_ok_iff, parseAutoDomainNameParts_eq_ok_iff] at parsed
      exact parsed.1.2
    · by_contra full
      rcases run.planned.exists_overflow (run.entry entry isEntry).1
        (range_scanExisting run.scanned _).2 (not_le.1 full) with
        ⟨last, isLast, tier, lastFree, unread⟩
      rw [← tier] at unread
      exact unread (parses last isLast lastFree)
  intro tier isSome
  have nonneg := (range_scanExisting run.scanned tier).1
  obtain ⟨bounded, above⟩ := room tier isSome
  refine ⟨bounded, by omega, fun existing isExisting => ?_⟩
  have covered := (scanExisting_eq_ok run.scanned).2.covers tier existing isExisting
  omega

lemma PlanRun.othersAbove : OthersAbove role template switches nodes inputs
      (discoveredRecords runtime inputs) := by
  intro record isRecord value carried notCarried existing number isExisting parsed
  obtain ⟨entry, isEntry, rfl⟩ := (run.mem_discoveredRecords_iff record).1 isRecord
  have facts := run.entry entry isEntry
  have key : template.key entry.group.tier = entry.key := by rw [facts.2.2.1, facts.2.1]
  rw [key] at carried notCarried
  have isName : value = entry.name := run.planned.locked entry isEntry value carried
  obtain ⟨group, normalizes⟩ := facts.2.2.2
  obtain ⟨nodeName, inGroup⟩ := normalizes.exists_node rfl law
  have unlabelled : (planContext nodes switches inputs).nodeLabel entry.key nodeName = none := by
    rw [eq_none_iff_forall_ne_some]
    intro other isOther
    have same := run.planned.locked entry isEntry other (.inl ⟨nodeName, inGroup, isOther⟩)
    refine notCarried (.inl ⟨nodeName, inGroup, ?_⟩)
    rw [isOther, isName, same]
  rcases fresh entry.group isRecord entry.name
    (run.plannedValue_of_unlabelled isEntry inGroup unlabelled) with
    ⟨found, isFound, above⟩
  rw [← isName] at isFound above
  rw [parsed] at isFound
  cases isFound
  rw [key] at above
  exact above notCarried existing isExisting

end

end

end

/-- Nodes without labels, and one elsewhere with a number in use. -/
def numberedNodes : List Node :=
  [⟨"n0", (∅ : Labels).insert "tier1" "tier1-group4"⟩, ⟨"n1", ∅⟩, ⟨"n2", ∅⟩]

/-- The FabricNodes of the Nodes without labels. -/
def leafNodes : List FabricNode := [belowLeaf "n1" "p1", belowLeaf "n2" "p2"]

lemma planned_of_leafNodes :
    (∃ plan, buildAutoLabelPlan .canonical .scaleOut ⟨"tier", ""⟩ leafNodes [leafSwitch]
      numberedNodes = .ok plan) ∧ (∃ inputs, buildTopologyInputsForRole .canonical .scaleOut
        (eligibleFabricNodes leafNodes numberedNodes) [leafSwitch] = .ok inputs ∧
      (discoveredRecords .canonical inputs).map DiscoveredGroup.tier = [1] ∧
      (∀ group ∈ discoveredRecords .canonical inputs, isFree (planContext numberedNodes
        [leafSwitch] inputs) (Template.key ⟨"tier", ""⟩ group.tier) group = true) ∧
      Discovery.DistinctGroupNames (discoverInputs .canonical inputs)) ∧
    ∀ existing, ExistingNumber .scaleOut ⟨"tier", ""⟩ [leafSwitch] numberedNodes 1 existing →
      existing ≤ 4 := by
  refine ⟨by decide +kernel, by decide +kernel, fun existing isExisting => ?_⟩
  obtain ⟨maxByTier, scanned, isMax⟩ : ∃ maxByTier, scanExisting .canonical .scaleOut
      ⟨"tier", ""⟩ [leafSwitch] numberedNodes = .ok maxByTier ∧ maxByTier.getD 1 0 = 4 := by
    decide +kernel
  rw [← isMax]
  exact (scanExisting_eq_ok scanned).2.covers 1 existing isExisting

/-! ## The law -/

/--
Every value of a successful plan belongs to a discovered group.  It is read
back with the tier of the group, and a value new to the Nodes and Switches of
the role in the group has a number above all numbers in use on the tier, if
the numbers suffice for the groups without a name and names taken from
Switches of other roles are above those in use.  Under the naming law this is
also necessary.
-/
theorem planned_names_new_iff_enough (runtime : Runtime) (role : SwitchRole) (template : Template)
    (fabricNodes : List FabricNode) (switches : List Switch)
    (nodes : List Node) (plan : AutoLabelPlan) (inputs : TopologyInputs)
    (succeeded : buildAutoLabelPlan runtime role template fabricNodes switches nodes = .ok plan)
    (built : buildTopologyInputsForRole runtime role
      (eligibleFabricNodes fabricNodes nodes) switches = .ok inputs) :
    let groups := discoveredRecords runtime inputs
    ((∀ nodeName key value, desiredLabel plan.nodes nodeName key = some value →
          ∃ group ∈ groups, nodeName ∈ group.nodes ∧ key = template.key group.tier) ∧
      ∀ switchName key value, desiredLabel plan.switches switchName key = some value →
          key = topologyDomainLabel ∧ ∃ group ∈ groups, switchName ∈ group.members) ∧
    (EnoughNumbers role template switches nodes inputs groups →
      OthersAbove role template switches nodes inputs groups →
        ∀ group ∈ groups, ∀ value, PlannedValue plan template group value →
          ReadBackNew role template switches nodes inputs group value) ∧
    (NamesLaw inputs.hosts inputs.switches (discoverInputs runtime inputs) →
      (∀ group ∈ groups, ∀ value, PlannedValue plan template group value →
          ReadBackNew role template switches nodes inputs group value) →
        EnoughNumbers role template switches nodes inputs groups ∧
          OthersAbove role template switches nodes inputs groups) := by
  intro groups
  rcases exists_planRun succeeded with ⟨inputs', maxByTier, entries, state, run⟩
  cases run.built.symm.trans built
  refine ⟨run.exists_group_of_desired, ?_, ?_⟩
  · intro enough others group isGroup value isPlanned
    rcases (run.mem_discoveredRecords_iff group).mp isGroup with ⟨entry, isEntry, rfl⟩
    rw [← run.name_eq_of_plannedValue isEntry isPlanned]
    exact run.readBackNew enough others isEntry
  · intro law fresh
    exact ⟨run.enoughNumbers law fresh, run.othersAbove law fresh⟩

/-- Two Nodes below a leaf, and a number in use elsewhere. -/
theorem planned_names_new_iff_enough_one_leaf : ∃ plan inputs,
      buildAutoLabelPlan .canonical .scaleOut ⟨"tier", ""⟩ leafNodes [leafSwitch]
        numberedNodes = .ok plan ∧ buildTopologyInputsForRole .canonical .scaleOut
        (eligibleFabricNodes leafNodes numberedNodes) [leafSwitch] = .ok inputs ∧
      ∀ group ∈ discoveredRecords .canonical inputs, ∀ value,
        PlannedValue plan ⟨"tier", ""⟩ group value →
          ReadBackNew .scaleOut ⟨"tier", ""⟩ [leafSwitch] numberedNodes inputs group value := by
  obtain ⟨⟨plan, succeeded⟩, ⟨inputs, built, records, free, _⟩, used⟩ := planned_of_leafNodes
  refine ⟨plan, inputs, succeeded, built, ?_⟩
  refine (planned_names_new_iff_enough .canonical .scaleOut
    ⟨"tier", ""⟩ _ _ _ plan inputs succeeded built).2.1 ?_ ?_
  · intro tier isSome
    obtain ⟨inTiers, few⟩ := freeGroups_of_tiers records isSome
    obtain rfl := mem_singleton.mp inTiers
    simp only [length_singleton] at few
    have bound : (maxInt : Int) = 2 ^ 63 - 1 := by decide
    refine ⟨by omega, by omega, fun existing isExisting => ?_⟩
    have least := used existing isExisting
    omega
  · intro group isGroup value carried
    exact absurd carried (isFree_iff.1 (free group isGroup) value)

/--
With the largest number in use the next one wraps around and is not read back.
A synthetic leaf named like a Switch of another role takes the number of that
Switch, which may be below those in use.
-/
theorem planned_names_overflow : ((buildAutoLabelPlan .canonical .scaleOut ⟨"tier", ""⟩
        [belowLeaf "n1" "p1"] [] [⟨"n0", (∅ : Labels).insert "tier1"
            "tier1-group9223372036854775807"⟩, ⟨"n1", ∅⟩]).toOption.bind fun plan =>
            desiredLabel plan.nodes "n1" "tier1") = some "tier1-group-9223372036854775808" ∧
      ¬ Parses 1 "tier1-group-9223372036854775808" ∧
      ((buildAutoLabelPlan .canonical .scaleOut ⟨"tier", ""⟩ [belowLeaf "n1" "p1"]
        [⟨"leaf", (∅ : Labels).insert topologyDomainLabel "tier1-group3", ∅, some .storage, "", []⟩]
        [⟨"n0", (∅ : Labels).insert "tier1" "tier1-group7"⟩, ⟨"n1", ∅⟩]).toOption.bind fun plan =>
            desiredLabel plan.nodes "n1" "tier1") = some "tier1-group3" := by
  refine ⟨?_, ?_, ?_⟩
  · decide +kernel
  · rintro ⟨number, parsed⟩
    have failed : parseAutoDomainName "tier1-group-9223372036854775808" 1 =
        .error (.format "tier1-group-9223372036854775808") := by
      decide +kernel
    rw [failed] at parsed
    cases parsed
  · decide +kernel

end Unifabric.SwitchTopology
