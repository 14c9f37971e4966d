import Unifabric.SwitchTopology.PatchedCluster
import Unifabric.SwitchTopology.PlanSucceeds
import Unifabric.SwitchTopology.RecordOrder

/-!
# Planning again

If only a part of a plan is applied, the next plan succeeds, keeps the names
which are applied and completes the rest; once a plan is applied completely,
the next one is empty.
-/

namespace Unifabric.SwitchTopology

open Lib V1beta1 TopologyLabel GoMap Std.ExtTreeMap Option

variable {runtime : Runtime} {role : SwitchRole} {template : Template}
  {switches switches' : List Switch} {nodes nodes' : List Node} {inputs : TopologyInputs}
  {maxByTier : GoMap Int Int} {fabricNodes : List FabricNode} {plan : AutoLabelPlan}
  {entries : List PlanEntry} {state : PlanState}
open Unifabric.Discovery (DistinctGroupNames)

variable {tier : Int} {plans : Nat} {groups : List DiscoveredGroup} {entry : PlanEntry}

/-! ## Numbers in use afterwards -/

lemma inUse_of_carries
    (scanned : scanExisting runtime role template switches nodes = .ok maxByTier)
    (ofRole : ∀ name ∈ group.members, ∀ switch ∈ switches, switch.name = name
      → effectiveSwitchRole switch = role)
    (carried : Carries (planContext nodes switches inputs) (template.key tier) group value)
    (parses : Parses tier value) :
    ∃ number, parseAutoDomainName value tier = .ok number ∧ number ≤ maxByTier.getD tier 0 := by
  obtain ⟨number, parsed⟩ := parses
  refine ⟨number, parsed, (scanExisting_eq_ok scanned).2.covers tier number ?_⟩
  have parts := parseAutoDomainName_eq_ok_iff.1 parsed
  rcases carried with ⟨nodeName, _, found⟩ | ⟨switchName, inGroup, rfl, nonempty⟩
  · obtain ⟨node, isNode, label⟩ := bind_eq_some_iff.1 found
    have range := (autoDomainName_of_parse parts).1
    exact .inl ⟨node, (mem_of_foldl_insert isNode).1,
      template.key tier, value, matchTier_key range.1 range.2, label, parsed⟩
  · cases isSwitch : (planContext nodes switches inputs).switchesByName[switchName]? with
    | none => simp [PlanContext.switchDomain, isSwitch] at nonempty
    | some switch =>
      obtain ⟨listed, named⟩ := mem_of_foldl_insert isSwitch
      rw [switchDomain_of_found isSwitch] at parts
      exact .inr ⟨switch, listed, ofRole switchName inGroup switch listed named, parts⟩

/--
The numbers of every tier suffice for several plans which give each of its
groups without a name a new one.
-/
def EnoughFor (plans : Nat) (role : SwitchRole) (template : Template)
    (switches : List Switch) (nodes : List Node) (inputs : TopologyInputs)
    (groups : List DiscoveredGroup) : Prop :=
  ∀ tier, 0 < freeGroups (planContext nodes switches inputs) template groups tier → tier ≤ maxInt ∧
      ↑(plans * freeGroups (planContext nodes switches inputs) template groups tier) ≤ maxInt ∧
      ∀ existing, ExistingNumber role template switches nodes tier existing →
        existing + ↑(plans * freeGroups (planContext nodes switches inputs) template groups tier) ≤
            maxInt

lemma mem_of_split (split : entries = before ++ left :: (between ++ right :: after)) :
    left ∈ entries ∧ right ∈ entries := by
  rw [split]
  simp

lemma EnoughFor.enough (enough : EnoughFor (plans + 1) role template switches nodes inputs groups) :
    EnoughNumbers role template switches nodes inputs groups := by
  intro tier isSome
  obtain ⟨bounded, few, room⟩ := enough tier isSome
  rw [Nat.succ_mul] at few room
  refine ⟨bounded, by omega, fun existing isExisting => ?_⟩
  have above := room existing isExisting
  omega

section

variable
  (run : PlanRun runtime role template fabricNodes switches nodes plan inputs maxByTier entries
      state)

include run

lemma PlanRun.ofRole (names : NamesOfRole runtime role fabricNodes nodes switches)
    (isEntry : entry ∈ entries) : ∀ name ∈ entry.group.members, ∀ switch ∈ switches,
      switch.name = name → effectiveSwitchRole switch = role := by
  rintro name inGroup switch isSwitch rfl
  obtain ⟨group, normalizes⟩ := (run.entry entry isEntry).2.2.2
  by_contra other
  exact names inputs run.built switch isSwitch other (normalizes.connects inGroup)

/-- A label of the plan is the name of a group of the tier of its key. -/
lemma PlanRun.entry_of_desired (desired : desiredLabel plan.nodes name key = some value)
    (matched : template.matchTier key = some tier) :
    ∃ entry ∈ entries, entry.tier = tier ∧ entry.name = value := by
  rw [← run.plan_eq] at desired
  obtain ⟨entry, isEntry, _, isKey, isName, _⟩ := run.planned.nodeSource name key value desired
  have facts := run.entry entry isEntry
  obtain ⟨positive, _, same⟩ := key_of_matchTier matched
  rw [isKey, facts.2.1] at same
  exact ⟨entry, isEntry, (key_injective positive facts.1 same).symm, isName.symm⟩

lemma PlanRun.name_eq_of_shares (isLeft : left ∈ entries) (isRight : right ∈ entries)
    (shares : Shares (planContext nodes switches inputs) left right) : left.name = right.name := by
  rcases shares with ⟨sameKey, nodeName, inLeft, inRight⟩ |
    ⟨switchName, inLeft, inRight, switch, found⟩
  · have ofLeft := run.planned.node left isLeft nodeName inLeft
    have ofRight := run.planned.node right isRight nodeName inRight
    rw [sameKey] at ofLeft
    rcases ofLeft with leftCarried | ⟨leftFree, leftDesired⟩
    · rcases ofRight with rightCarried | ⟨rightFree, _⟩
      · rw [leftCarried] at rightCarried
        exact some.inj rightCarried
      · rw [leftCarried] at rightFree
        cases rightFree
    · rcases ofRight with rightCarried | ⟨_, rightDesired⟩
      · rw [leftFree] at rightCarried
        cases rightCarried
      · rw [leftDesired] at rightDesired
        exact some.inj rightDesired
  · have leftNonempty := run.planned.name_ne_empty isLeft
    have rightNonempty := run.planned.name_ne_empty isRight
    rcases run.planned.switch left isLeft switchName inLeft switch found
      with leftCarried | ⟨leftFree, leftDesired⟩
    · rcases run.planned.switch right isRight switchName inRight switch
        found with rightCarried | ⟨rightFree, _⟩
      · exact leftCarried.symm.trans rightCarried
      · exact absurd (leftCarried.symm.trans rightFree) leftNonempty
    · rcases run.planned.switch right isRight switchName inRight switch
        found with rightCarried | ⟨_, rightDesired⟩
      · exact absurd (rightCarried.symm.trans leftFree) rightNonempty
      · rw [leftDesired] at rightDesired
        exact some.inj rightDesired

/-- A group which is named afterwards was named or has got a name. -/
lemma PlanRun.freeGroups_patched
    (cluster : PatchedCluster plan nodes nodes' switches switches') (tier : Int) :
    freeGroups (planContext nodes' switches' inputs) template
        (discoveredRecords runtime inputs) tier ≤
      freeGroups (planContext nodes switches inputs) template
        (discoveredRecords runtime inputs) tier := by
  refine List.countP_mono_left fun record isRecord free => ?_
  obtain ⟨entry, isEntry, rfl⟩ := (run.mem_discoveredRecords_iff record).1 isRecord
  have facts := run.entry entry isEntry
  rw [Bool.and_eq_true, facts.2.2.1, ← facts.2.1] at free ⊢
  exact ⟨free.1, run.isFree_of_patched cluster.context isEntry free.2⟩

section

variable
  (enough : EnoughNumbers role template switches nodes inputs (discoveredRecords runtime inputs))

include enough

lemma PlanRun.parses (isEntry : entry ∈ entries) : Parses entry.tier entry.name := by
  obtain ⟨before, after, split⟩ := List.append_of_mem isEntry
  rcases run.planned.named before entry after split with ⟨_, parses⟩ | ⟨free, _⟩
  · exact parses
  · obtain ⟨number, parsed, _⟩ := run.exists_number_of_free enough isEntry free
    exact ⟨number, parsed⟩

lemma PlanRun.readable_patched (cluster : PatchedCluster plan nodes nodes' switches switches') :
    ReadableLabels role template switches' nodes' := by
  have readable := (scanExisting_eq_ok run.scanned).1
  constructor
  · intro after isAfter key tier value matched found
    obtain ⟨before, isBefore, pair⟩ := exists_left_of_forall₂ cluster.nodes isAfter
    rcases pair.label key with same | ⟨new, desired, isNew⟩
    · exact readable.node before isBefore key tier value matched (same.symm.trans found)
    · rw [isNew] at found
      cases found
      obtain ⟨entry, isEntry, rfl, rfl⟩ := run.entry_of_desired desired matched
      exact run.parses enough isEntry
  · intro after isAfter isRole labelled
    obtain ⟨before, isBefore, pair⟩ := exists_left_of_forall₂ cluster.switches isAfter
    rw [pair.role_eq] at isRole
    unfold DomainNumber
    rcases pair.domain with same | desired
    · rw [same] at labelled ⊢
      exact readable.switch before isBefore isRole labelled
    · rw [← run.plan_eq] at desired
      obtain ⟨entry, isEntry, _, _, isName, _⟩ := run.planned.switchSource _ _ _ desired
      rw [isName]
      obtain ⟨number, parsed⟩ := run.parses enough isEntry
      exact ⟨entry.tier, number, parseAutoDomainName_eq_ok_iff.1 parsed⟩

variable (names : NamesOfRole runtime role fabricNodes nodes switches)

include names

lemma PlanRun.number_le (isEntry : entry ∈ entries) :
    ∃ number, parseAutoDomainName entry.name entry.tier = .ok number ∧
      number ≤ maxByTier.getD entry.tier 0 + freeGroups (planContext nodes switches inputs) template
          (discoveredRecords runtime inputs) entry.tier := by
  cases free : isFree (planContext nodes switches inputs) entry.key entry.group with
  | true =>
    obtain ⟨number, parsed, _, below⟩ := run.exists_number_of_free enough isEntry free
    exact ⟨number, parsed, below⟩
  | false =>
    obtain ⟨before, after, split⟩ := List.append_of_mem isEntry
    rcases run.planned.named before entry after split with ⟨carried, parses⟩ | ⟨isFree, _⟩
    · rw [(run.entry entry isEntry).2.1] at carried
      rcases inUse_of_carries run.scanned (run.ofRole names isEntry)
        carried parses with ⟨number, parsed, bounded⟩
      exact ⟨number, parsed, by omega⟩
    · rw [free] at isFree
      cases isFree

lemma PlanRun.existing_patched (cluster : PatchedCluster plan nodes nodes' switches switches')
    (existing : ExistingNumber role template switches' nodes' tier number) :
    number ≤ maxByTier.getD tier 0 + freeGroups (planContext nodes switches inputs) template
        (discoveredRecords runtime inputs) tier := by
  have covers := (scanExisting_eq_ok run.scanned).2.covers
  have ofEntry : ∀ entry ∈ entries, entry.tier = tier →
      parseAutoDomainName entry.name tier = .ok number →
      number ≤ maxByTier.getD tier 0 + freeGroups (planContext nodes switches inputs) template
          (discoveredRecords runtime inputs) tier := by
    rintro entry isEntry rfl parsed
    obtain ⟨found, isFound, bounded⟩ := run.number_le enough names isEntry
    rw [parsed] at isFound
    cases isFound
    exact bounded
  rcases existing with ⟨after, isAfter, key, value, matched, found,
    parsed⟩ | ⟨after, isAfter, isRole, parsed⟩
  · obtain ⟨before, isBefore, pair⟩ := exists_left_of_forall₂ cluster.nodes isAfter
    rcases pair.label key with same | ⟨new, desired, isNew⟩
    · have old := covers tier number (.inl ⟨before, isBefore, key, value,
        matched, same.symm.trans found, parsed⟩)
      omega
    · rw [isNew] at found
      cases found
      obtain ⟨entry, isEntry, isTier, rfl⟩ := run.entry_of_desired desired matched
      exact ofEntry entry isEntry isTier parsed
  · obtain ⟨before, isBefore, pair⟩ := exists_left_of_forall₂ cluster.switches isAfter
    rw [pair.role_eq] at isRole
    unfold DomainNumber at parsed
    rcases pair.domain with same | desired
    · rw [same] at parsed
      have old := covers tier number (.inr ⟨before, isBefore, isRole, parsed⟩)
      omega
    · rw [← run.plan_eq] at desired
      obtain ⟨entry, isEntry, _, _, isName, _⟩ := run.planned.switchSource _ _ _ desired
      rw [isName] at parsed
      obtain ⟨found, isFound⟩ := run.parses enough isEntry
      have parts := parseAutoDomainName_eq_ok_iff.1 isFound
      rw [parts] at parsed
      cases parsed
      exact ofEntry entry isEntry rfl isFound

lemma PlanRun.carried_of_name_eq (split : entries = before ++ left :: (between ++ right :: after))
    (equal : left.name = right.name) :
    isFree (planContext nodes switches inputs) left.key left.group = false ∧
      isFree (planContext nodes switches inputs) right.key right.group = false := by
  obtain ⟨isLeft, isRight⟩ := mem_of_split split
  have sameTier := (run.eq_of_name_eq isLeft isRight equal).1
  have differ : ∀ old ∈ entries, ∀ new ∈ entries, old.name = new.name → old.tier = new.tier →
      isFree (planContext nodes switches inputs) new.key new.group = true →
      isFree (planContext nodes switches inputs) old.key old.group =
        true := by
    intro old isOld new isNew sameName tiers newFree
    by_contra carried
    obtain ⟨early, late, isPart⟩ := List.append_of_mem isOld
    rcases run.planned.named early old late isPart with ⟨isCarried, parses⟩ | ⟨oldFree, _⟩
    · rw [(run.entry old isOld).2.1] at isCarried
      rcases inUse_of_carries run.scanned (run.ofRole names isOld)
        isCarried parses with ⟨number, parsed, bounded⟩
      obtain ⟨found, isFound, above, _⟩ := run.exists_number_of_free enough isNew newFree
      rw [← sameName, ← tiers, parsed] at isFound
      cases isFound
      rw [← tiers] at above
      omega
    · exact carried oldFree
  have notBoth : isFree (planContext nodes switches inputs) left.key left.group = true →
      isFree (planContext nodes switches inputs) right.key right.group = true → False := by
    intro leftFree rightFree
    have rightSplit : entries = (before ++ left :: between) ++ right :: after := by
      rw [split, List.append_assoc, List.cons_append]
    have less : freshCount (planContext nodes switches inputs) before
        left.tier < freshCount (planContext nodes switches inputs)
          (before ++ left :: between) left.tier :=
      freshCount_lt leftFree
    have last : freshCount (planContext nodes switches inputs)
        (before ++ left :: between) right.tier <
          freshCount (planContext nodes switches inputs) entries
            right.tier := by
      rw [rightSplit]
      exact freshCount_lt rightFree
    have count := run.freshCount_eq (planContext nodes switches inputs) right.tier
    have room := enough.room run.scanned
      (show 0 < freeGroups (planContext nodes switches inputs) template
        (discoveredRecords runtime inputs) right.tier by omega)
    have nonneg := (range_scanExisting run.scanned right.tier).1
    have positive := (run.entry right isRight).1
    rcases run.planned.named before left _ split with ⟨carried, _⟩ | ⟨_, leftNamed⟩
    · exact isFree_iff.1 leftFree _ carried
    rcases run.planned.named _ right after rightSplit with ⟨carried, _⟩ | ⟨_, rightNamed⟩
    · exact isFree_iff.1 rightFree _ carried
    rw [sameTier] at less leftNamed
    rw [nextNumber_eq nonneg (by omega)] at leftNamed rightNamed
    rw [leftNamed, rightNamed] at equal
    have numbers := (autoDomainName_injective (by omega) (by omega) equal).2
    omega
  cases leftFree : isFree (planContext nodes switches inputs) left.key
      left.group with
  | true =>
    exact absurd (differ right isRight left isLeft equal.symm
      sameTier.symm leftFree) (notBoth leftFree)
  | false =>
    refine ⟨rfl, ?_⟩
    by_contra rightFree
    rw [Bool.not_eq_false] at rightFree
    rw [differ left isLeft right isRight equal sameTier rightFree] at leftFree
    cases leftFree

/-- The names of the plan are consistent with the cluster.context cluster. -/
lemma PlanRun.assignable_patched
    (cluster : PatchedCluster plan nodes nodes' switches switches')
    (enoughAfter : EnoughNumbers role template switches' nodes' inputs
      (discoveredRecords runtime inputs))
    (scanned : scanExisting again role template switches' nodes' = .ok maxAfter)
    (perm : target.Perm entries) :
    Assignable (planContext nodes' switches' inputs) template maxAfter
      target := by
  have keys : ∀ entry ∈ target, entry.group.tier = entry.tier ∧
      entry.key = template.key entry.tier := by
    intro entry isEntry
    have facts := run.entry entry (perm.mem_iff.1 isEntry)
    exact ⟨facts.2.2.1, facts.2.1⟩
  constructor
  case entry =>
    intro entry isEntry
    exact ⟨(run.entry entry (perm.mem_iff.1 isEntry)).1, keys entry isEntry⟩
  case exist =>
    intro entry isEntry
    exact run.groupExists_patched cluster.context (perm.mem_iff.1 isEntry)
  case carried =>
    intro entry inTarget value carried
    have isEntry := perm.mem_iff.1 inTarget
    have isName := run.name_of_carries_patched cluster.context isEntry carried
    refine ⟨isName, ?_⟩
    rw [(keys entry inTarget).2] at carried
    refine inUse_of_carries scanned ?_ carried ?_
    · intro name inGroup after isAfter isNamed
      obtain ⟨before, isBefore, pair⟩ := exists_left_of_forall₂ cluster.switches isAfter
      rw [pair.role_eq]
      exact run.ofRole names isEntry name inGroup before isBefore (pair.name_eq.symm.trans isNamed)
    · rw [isName]
      exact run.parses enough isEntry
  case owner =>
    intro left isLeft right isRight equal
    rcases run.eq_of_name_eq (perm.mem_iff.1 isLeft)
      (perm.mem_iff.1 isRight) equal with ⟨sameTier, sameName⟩
    rw [PlanEntry.owner, PlanEntry.owner, sameTier, sameName]
  case shared =>
    have symmetric : ∀ {left right : PlanEntry},
        (Shares (planContext nodes' switches' inputs) left right →
          isFree (planContext nodes' switches' inputs) left.key left.group = false ∧
            isFree (planContext nodes' switches' inputs) right.key
              right.group = false ∧ left.name = right.name) →
        Shares (planContext nodes' switches' inputs) right left →
          isFree (planContext nodes' switches' inputs) right.key right.group = false ∧
            isFree (planContext nodes' switches' inputs) left.key
              left.group = false ∧ right.name = left.name := by
      intro left right agree shares
      have swapped : Shares (planContext nodes' switches' inputs) left
          right := by
        rcases shares with ⟨sameKey, nodeName, inRight, inLeft⟩ |
          ⟨switchName, inRight, inLeft, isThere⟩
        · exact .inl ⟨sameKey.symm, nodeName, inLeft, inRight⟩
        · exact .inr ⟨switchName, inLeft, inRight, isThere⟩
      obtain ⟨leftCarries, rightCarries, sameName⟩ := agree swapped
      exact ⟨rightCarries, leftCarries, sameName.symm⟩
    refine (perm.pairwise_iff symmetric).2 (pairwise_of_splits ?_)
    intro before left between right after split shares
    obtain ⟨isLeft, isRight⟩ := mem_of_split split
    have sharedBefore : Shares (planContext nodes switches inputs) left
        right := by
      rcases shares with common | ⟨switchName, inLeft, inRight, switch, found⟩
      · exact .inl common
      · refine .inr ⟨switchName, inLeft, inRight, ?_⟩
        rw [← ne_none_iff_exists', ne_eq, ← cluster.context.switch, found]
        exact some_ne_none switch
    have equal := run.name_eq_of_shares isLeft isRight sharedBefore
    obtain ⟨leftCarries, rightCarries⟩ := run.carried_of_name_eq enough names split equal
    have stays : ∀ entry ∈ entries,
        isFree (planContext nodes switches inputs) entry.key entry.group = false →
        isFree (planContext nodes' switches' inputs) entry.key entry.group = false := by
      intro entry isEntry carries
      by_contra free
      rw [Bool.not_eq_false] at free
      rw [run.isFree_of_patched cluster.context isEntry free] at carries
      cases carries
    exact ⟨stays left isLeft leftCarries, stays right isRight rightCarries, equal⟩
  case room =>
    intro tier isSome
    have count : freshCount (planContext nodes' switches' inputs) target
        tier = freeGroups (planContext nodes' switches' inputs) template
          (discoveredRecords runtime inputs) tier := by
      rw [← run.freshCount_eq]
      exact perm.countP_eq _
    rw [count] at isSome ⊢
    exact enoughAfter.room scanned isSome

end

lemma PlanRun.enough_patched (names : NamesOfRole runtime role fabricNodes nodes switches)
    (enough : EnoughFor (plans + 1) role template switches nodes inputs
      (discoveredRecords runtime inputs))
    (cluster : PatchedCluster plan nodes nodes' switches switches') :
    EnoughFor plans role template switches' nodes' inputs (discoveredRecords runtime inputs) := by
  intro tier isSome
  have fewer := run.freeGroups_patched cluster tier
  have scaled := Nat.mul_le_mul_left plans fewer
  obtain ⟨bounded, few, room⟩ := enough tier (by omega)
  rw [Nat.succ_mul] at few room
  have largest : maxByTier.getD tier 0 +
      ↑(plans * freeGroups (planContext nodes switches inputs) template
          (discoveredRecords runtime inputs) tier +
        freeGroups (planContext nodes switches inputs) template
          (discoveredRecords runtime inputs) tier) ≤ maxInt := by
    rcases (scanExisting_eq_ok run.scanned).2.attained tier with zero | existing
    · rw [zero, getD_eq, getElem?_empty, getD_none]
      omega
    · exact room _ existing
  refine ⟨bounded, by omega, fun existing isExisting => ?_⟩
  have above := run.existing_patched enough.enough names cluster isExisting
  omega

end

/-! ## The next plan -/

section

variable {sorter : Sorter} {order : MapOrder}

lemma eligibleFabricNodes_patched (patched : nodes.Forall₂ (NodePatched plan) nodes') :
    eligibleFabricNodes fabricNodes nodes' = eligibleFabricNodes fabricNodes nodes := by
  have names : nodes'.map Node.name = nodes.map Node.name := by
    induction patched with
    | nil => rfl
    | cons pair _ ih => rw [List.map_cons, List.map_cons, pair.name, ih]
  unfold eligibleFabricNodes
  rw [names]

lemma inputs_patched (order' : MapOrder)
    (cluster : PatchedCluster plan nodes nodes' switches switches') :
    buildTopologyInputsForRole ⟨order', sorter⟩ role
        (eligibleFabricNodes fabricNodes nodes') switches' =
      buildTopologyInputsForRole ⟨order, sorter⟩ role
        (eligibleFabricNodes fabricNodes nodes) switches := by
  obtain ⟨nodesPatched, switchesPatched⟩ := cluster
  rw [eligibleFabricNodes_patched nodesPatched]
  refine buildTopologyInputsForRole_congr ?_
  induction switchesPatched with
  | nil => rfl
  | cons pair _ ih => rw [List.map_cons, List.map_cons, pair.same, ih]

lemma namesOfRole_patched (order' : MapOrder)
    (names : NamesOfRole ⟨order, sorter⟩ role fabricNodes nodes switches)
    (cluster : PatchedCluster plan nodes nodes' switches switches') :
    NamesOfRole ⟨order', sorter⟩ role fabricNodes nodes' switches' := by
  intro inputs built after isAfter other
  rw [inputs_patched order' cluster] at built
  obtain ⟨before, isBefore, pair⟩ := exists_left_of_forall₂ cluster.switches isAfter
  rw [pair.role_eq] at other
  rw [pair.name_eq]
  exact names inputs built before isBefore other

lemma freeGroups_perm (perm : groups.Perm groups') (tier : Int) :
    freeGroups context template groups tier = freeGroups context template groups' tier :=
  perm.countP_eq _

lemma EnoughFor.perm (perm : groups.Perm groups')
    (enough : EnoughFor plans role template switches nodes inputs groups) :
    EnoughFor plans role template switches nodes inputs groups' := by
  unfold EnoughFor at enough ⊢
  simpa only [freeGroups_perm perm] using enough

lemma replan_succeeds (order' : MapOrder)
    (succeeded : buildAutoLabelPlan ⟨order, sorter⟩ role template fabricNodes
      switches nodes = .ok plan) (built : buildTopologyInputsForRole ⟨order, sorter⟩ role
      (eligibleFabricNodes fabricNodes nodes) switches = .ok inputs)
    (distinct : DistinctGroupNames (discoverInputs ⟨order, sorter⟩ inputs))
    (names : NamesOfRole ⟨order, sorter⟩ role fabricNodes nodes switches)
    (enough : EnoughFor (plans + 2) role template switches nodes inputs
      (discoveredRecords ⟨order, sorter⟩ inputs))
    (cluster : PatchedCluster plan nodes nodes' switches switches') :
    ∃ next, buildAutoLabelPlan ⟨order', sorter⟩ role template fabricNodes
      switches' nodes' = .ok next := by
  obtain ⟨inputs', maxByTier, entries, state, run⟩ := exists_planRun succeeded
  cases run.built.symm.trans built
  have enoughAfter := (run.enough_patched names enough cluster).enough
  have scanned : ∃ maxAfter, scanExisting ⟨order', sorter⟩ role template
      switches' nodes' = .ok maxAfter :=
    scanExisting_succeeds (run.readable_patched enough.enough cluster)
  obtain ⟨maxAfter, scanned⟩ := scanned
  obtain ⟨_, inputs, _, isBuilt, finished⟩ := buildAutoLabelPlan_eq_ok succeeded
  cases isBuilt.symm.trans built
  have builtAfter := (inputs_patched order' cluster).trans built
  rcases finished with ⟨empty, _⟩ | ⟨records, normalized, planned⟩
  · exact buildAutoLabelPlan_succeeds scanned builtAfter (empty.imp_right .inl)
  rcases normalizeDiscoveredGroups_order sorter order order' distinct
    normalized with ⟨records', normalized', perm⟩
  have isRecords : discoveredRecords ⟨order, sorter⟩ inputs = records := by
    rw [discoveredRecords, normalized]
    rfl
  have sameGroups : (entries.map PlanEntry.group).Perm (planOrder ⟨order', sorter⟩ records') := by
    rw [run.order, isRecords]
    exact (planOrder_perm records).trans (perm.trans (planOrder_perm records').symm)
  obtain ⟨target, isTarget, isOrder⟩ := exists_perm_of_map_perm sameGroups
  have assignable : Assignable (planContext nodes' switches' inputs) template maxAfter target :=
    run.assignable_patched enough.enough names cluster enoughAfter scanned isTarget
  obtain ⟨final, finished⟩ := assignable.foldlM_planStep_succeeds (range_scanExisting scanned)
  rw [isOrder] at finished
  refine buildAutoLabelPlan_succeeds scanned builtAfter (.inr (.inr
    ⟨records', final.plan, normalized', ?_⟩))
  rw [planGroups_eq (fun group isGroup => (tiers_of_planGroups planned
      (perm.mem_iff.2 isGroup)).1)
    (fun nodeOnly group isGroup => (tiers_of_planGroups planned
      (perm.mem_iff.2 isGroup)).2 nodeOnly)]
  exact map_eq_ok.2 ⟨final, finished, rfl⟩

end

/-! ## After a whole plan -/

section

variable {runtime' : Runtime} {next : AutoLabelPlan} {maxAfter : GoMap Int Int}
  {entries' : List PlanEntry} {state' : PlanState}

lemma PlanRun.exists_same_group
    (run : PlanRun runtime role template fabricNodes switches nodes plan
      inputs maxByTier entries state)
    (again : PlanRun runtime' role template fabricNodes switches' nodes'
      next inputs maxAfter entries' state')
    (perm : (discoveredRecords runtime inputs).Perm (discoveredRecords runtime' inputs))
    (isEntry : entry' ∈ entries') :
    ∃ entry ∈ entries, entry.group = entry'.group ∧ entry.key = entry'.key := by
  have isRecord : entry'.group ∈ discoveredRecords runtime inputs :=
    perm.mem_iff.2 ((again.mem_discoveredRecords_iff _).2 ⟨entry', isEntry, rfl⟩)
  obtain ⟨entry, isOld, sameGroup⟩ := (run.mem_discoveredRecords_iff _).1 isRecord
  have facts := run.entry entry isOld
  have facts' := again.entry entry' isEntry
  refine ⟨entry, isOld, sameGroup, ?_⟩
  rw [facts.2.1, facts'.2.1, ← facts.2.2.1, ← facts'.2.2.1, sameGroup]

lemma PlanRun.eq_empty_of_applied
    (run : PlanRun runtime role template fabricNodes switches nodes plan
      inputs maxByTier entries state) (applying : Runtime)
    (again : PlanRun runtime' role template fabricNodes
      (patchedSwitches applying plan appliedSwitches switches)
      (patchedNodes applying plan appliedNodes nodes) next inputs maxAfter entries' state')
    (perm : (discoveredRecords runtime inputs).Perm (discoveredRecords runtime' inputs))
    (wholeNodes : ∀ name ∈ plan.nodes, appliedNodes name = true)
    (wholeSwitches : ∀ name ∈ plan.switches, appliedSwitches name = true) : next = .empty := by
  have patched : PatchedContext plan (planContext nodes switches inputs)
      (planContext (patchedNodes applying plan appliedNodes nodes)
        (patchedSwitches applying plan appliedSwitches switches) inputs) :=
    PatchedCluster.context
      ⟨nodesPatched appliedNodes nodes, switchesPatched appliedSwitches switches⟩
  have noNode : ∀ name key value, desiredLabel next.nodes name key ≠ some value := by
    intro name key value desired
    rw [← again.plan_eq] at desired
    rcases again.planned.nodeSource name key value desired with
      ⟨entry', isEntry', inGroup, rfl, _, unlabelled⟩
    obtain ⟨entry, isEntry, sameGroup, sameKey⟩ := run.exists_same_group again perm isEntry'
    rw [← sameGroup] at inGroup
    rw [← sameKey] at unlabelled
    rcases run.planned.node entry isEntry name inGroup with carried | ⟨_, wanted⟩
    · rcases run.nodeLabel_patched patched isEntry inGroup with ⟨_, free⟩ | named
      · rw [carried] at free
        cases free
      · rw [named] at unlabelled
        cases unlabelled
    · rw [run.plan_eq] at wanted
      rw [run.nodeLabel_applied applying wholeNodes _ wanted] at unlabelled
      cases unlabelled
  have noSwitch : ∀ name key value, desiredLabel next.switches name key ≠ some value := by
    intro name key value desired
    rw [← again.plan_eq] at desired
    rcases again.planned.switchSource name key value desired with
      ⟨entry', isEntry', inGroup, _, _, unlabelled, isThere⟩
    obtain ⟨entry, isEntry, sameGroup, _⟩ := run.exists_same_group again perm isEntry'
    rw [← sameGroup] at inGroup
    have nonempty := run.planned.name_ne_empty isEntry
    have wasThere : ∃ switch, (planContext nodes switches
        inputs).switchesByName[name]? = some switch := by
      rw [← ne_none_iff_exists', ne_eq, ← patched.switch, ← ne_eq, ne_none_iff_exists']
      exact isThere
    obtain ⟨switch, found⟩ := wasThere
    rcases run.planned.switch entry isEntry name inGroup switch found with carried | ⟨_, wanted⟩
    · rcases run.switchDomain_patched patched isEntry inGroup with ⟨_, free⟩ | named
      · exact nonempty (carried.symm.trans free)
      · exact nonempty (named.symm.trans unlabelled)
    · rw [run.plan_eq] at wanted
      exact nonempty ((run.switchDomain_applied applying wholeSwitches _
        wanted).symm.trans unlabelled)
  have nodesEmpty : next.nodes = ∅ := by
    rw [eq_empty_iff_forall_not_mem]
    intro name listed
    obtain ⟨key, value, desired⟩ := again.full.1 name listed
    exact noNode name key value desired
  have switchesEmpty : next.switches = ∅ := by
    rw [eq_empty_iff_forall_not_mem]
    intro name listed
    obtain ⟨key, value, desired⟩ := again.full.2 name listed
    exact noSwitch name key value desired
  cases next
  cases nodesEmpty
  cases switchesEmpty
  rfl

end

/-! ## Recovery -/

/--
If a part of the patches of a successful plan is applied, the next plan
succeeds, gives a group with an applied label no other value, and after it is
applied a third plan is empty.  If all patches are applied, the second plan is
empty already.
-/
theorem replan_after_partial_apply (sorter : Sorter)
    (order order' order'' : MapOrder) (applying applying' : Runtime)
    (role : SwitchRole) (template : Template)
    (fabricNodes : List FabricNode) (switches : List Switch)
    (nodes : List Node) (plan : AutoLabelPlan) (inputs : TopologyInputs)
    (succeeded : buildAutoLabelPlan ⟨order, sorter⟩ role template
      fabricNodes switches nodes = .ok plan)
    (built : buildTopologyInputsForRole ⟨order, sorter⟩ role
      (eligibleFabricNodes fabricNodes nodes) switches = .ok inputs)
    (distinct : DistinctGroupNames (discoverInputs ⟨order, sorter⟩ inputs))
    (names : NamesOfRole ⟨order, sorter⟩ role fabricNodes nodes switches)
    (enough : EnoughFor 3 role template switches nodes inputs
      (discoveredRecords ⟨order, sorter⟩ inputs))
    (appliedNodes appliedSwitches : String → Bool) :
    let nodes' := patchedNodes applying plan appliedNodes nodes
    let switches' := patchedSwitches applying plan appliedSwitches switches
    ∃ second, buildAutoLabelPlan ⟨order', sorter⟩ role template fabricNodes
        switches' nodes' = .ok second ∧
      (∀ group ∈ discoveredRecords ⟨order, sorter⟩ inputs, ∀ value planned,
          Carries (planContext nodes' switches' inputs) (template.key group.tier) group value →
            PlannedValue second template group planned → planned = value) ∧
      buildAutoLabelPlan ⟨order'', sorter⟩ role template fabricNodes
        (patchedSwitches applying' second (fun _ => true) switches')
        (patchedNodes applying' second (fun _ => true) nodes') = .ok .empty ∧
      ((∀ name ∈ plan.nodes, appliedNodes name = true) →
        (∀ name ∈ plan.switches, appliedSwitches name = true) → second = .empty) := by
  intro nodes' switches'
  have first : PatchedCluster plan nodes nodes' switches switches' :=
    ⟨nodesPatched appliedNodes nodes, switchesPatched appliedSwitches switches⟩
  rcases replan_succeeds order' succeeded built distinct names enough
    first with ⟨second, secondOk⟩
  rcases exists_planRun succeeded with ⟨inputs₁, maxByTier, entries, state, run⟩
  cases run.built.symm.trans built
  have built' := (inputs_patched order' first).trans built
  rcases exists_planRun secondOk with ⟨inputs₂, maxByTier', entries', state', again⟩
  cases again.built.symm.trans built'
  have perm := discoveredRecords_order sorter order order' distinct
  refine ⟨second, secondOk, ?_, ?_, ?_⟩
  · intro group isGroup value planned carried isPlanned
    rcases (again.mem_discoveredRecords_iff group).mp
      (perm.mem_iff.mp isGroup) with ⟨entry, isEntry, rfl⟩
    have facts := again.entry entry isEntry
    rw [facts.2.2.1, ← facts.2.1] at carried
    rw [again.planned.locked entry isEntry value carried,
      again.name_eq_of_plannedValue isEntry isPlanned]
  · have last : PatchedCluster second nodes' (patchedNodes applying' second (fun _ => true) nodes')
        switches' (patchedSwitches applying' second (fun _ => true) switches') :=
      ⟨nodesPatched _ nodes', switchesPatched _ switches'⟩
    have distinct' := distinctGroupNames_order sorter order order' distinct
    rcases replan_succeeds order'' secondOk built' distinct'
      (namesOfRole_patched order' names first)
      ((run.enough_patched names enough first).perm
        perm) last with ⟨third, thirdOk⟩
    rcases exists_planRun thirdOk with ⟨inputs₃, maxByTier'', entries'', state'', final⟩
    cases final.built.symm.trans ((inputs_patched order'' last).trans built')
    rw [thirdOk, again.eq_empty_of_applied applying' final
      (discoveredRecords_order sorter order' order'' distinct')
      (fun _ _ => rfl) (fun _ _ => rfl)]
  · exact run.eq_empty_of_applied applying again perm

/-- Two Nodes below a leaf; of their patches and that of the leaf one is applied. -/
theorem replan_after_partial_apply_one_leaf : ∃ plan second,
    let nodes := patchedNodes .canonical plan (· == "n1") numberedNodes
    let switches := patchedSwitches .canonical plan (fun _ => false) [leafSwitch]
    buildAutoLabelPlan .canonical .scaleOut ⟨"tier", ""⟩ leafNodes [leafSwitch]
        numberedNodes = .ok plan ∧
      buildAutoLabelPlan .canonical .scaleOut ⟨"tier", ""⟩ leafNodes switches nodes = .ok second ∧
      buildAutoLabelPlan .canonical .scaleOut ⟨"tier", ""⟩ leafNodes
        (patchedSwitches .canonical second (fun _ => true) switches)
        (patchedNodes .canonical second (fun _ => true) nodes) = .ok .empty := by
  obtain ⟨⟨plan, succeeded⟩, ⟨inputs, built, records, _, distinct⟩, used⟩ := planned_of_leafNodes
  have enough : EnoughFor 3 .scaleOut ⟨"tier", ""⟩ [leafSwitch] numberedNodes inputs
      (discoveredRecords .canonical inputs) := by
    intro tier isSome
    obtain ⟨inTiers, few⟩ := freeGroups_of_tiers records isSome
    obtain rfl := List.mem_singleton.mp inTiers
    have bound : (maxInt : Int) = 2 ^ 63 - 1 := by decide
    simp only [List.length_singleton] at few
    refine ⟨by omega, by omega, fun existing isExisting => ?_⟩
    have least := used existing isExisting
    omega
  have ofRole : NamesOfRole .canonical .scaleOut leafNodes numberedNodes [leafSwitch] := by
    intro _ _ switch isSwitch otherRole
    cases List.mem_singleton.mp isSwitch
    exact absurd rfl otherRole
  obtain ⟨second, secondOk, _, thirdOk, _⟩ := replan_after_partial_apply .canonical
    .canonical .canonical .canonical .canonical .canonical .scaleOut ⟨"tier", ""⟩ _ _ _ plan
    inputs succeeded built distinct ofRole enough (· == "n1") (fun _ => false)
  exact ⟨plan, second, succeeded, secondOk, thirdOk⟩

end Unifabric.SwitchTopology
