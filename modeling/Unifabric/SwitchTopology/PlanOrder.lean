import Unifabric.Discovery.GraphSpec
import Unifabric.SwitchTopology.Plan

/-!
# The order of the group loop

The plan goes through the tiers in order and through the groups of a tier in
the order of their members.  This is one pass over all groups in an order which
only depends on the groups.
-/

namespace Unifabric.SwitchTopology

open Lib V1beta1 TopologyLabel List GoMap

/-! ## The order -/

/-- The groups in the order in which they are processed. -/
def planOrder (runtime : Runtime) (groups : List DiscoveredGroup) : List DiscoveredGroup :=
  (Discovery.sortedTierKeys runtime ["buildAutoLabelPlan", "tiers"]
      (groupByTier groups)).flatMap fun tier =>
    runtime.sortSlice (fun left right => decide (groupSortKey left < groupSortKey right))
      ((groupByTier groups).getD tier [])

/-- Process one group with the key of its own tier. -/
def planStep (runtime : Runtime) (template : Template)
    (context : PlanContext) (state : PlanState) (group : DiscoveredGroup) :
    Except PlanError PlanState :=
  planGroup runtime context group.tier (template.key group.tier) state group

section

variable {runtime : Runtime}

section

variable (groups : List DiscoveredGroup)

lemma getD_groupByTier (tier : Int) :
    (groupByTier groups).getD tier [] = groups.filter fun group => group.tier = tier := by
  refine foldl_prefix_induction _ groups ∅ (fun done (table : GoMap Int (List DiscoveredGroup)) =>
      table.getD tier [] = done.filter fun group => group.tier = tier)
    ?_ ?_
  · simp [getD_eq]
  · intro done group _ table _ collected
    rw [getD_insert, filter_append]
    by_cases same : group.tier = tier
    · rw [if_pos same, same, collected]
      simp [same]
    · rw [if_neg same, collected]
      simp [same]

lemma mem_keys_groupByTier_iff (tier : Int) :
    tier ∈ (groupByTier groups).keys ↔ ∃ group ∈ groups, group.tier = tier := by
  rw [Std.ExtTreeMap.mem_keys]
  refine foldl_prefix_induction _ groups ∅ (fun done (table : GoMap Int (List DiscoveredGroup)) =>
      tier ∈ table ↔ ∃ group ∈ done, group.tier = tier) (by simp) ?_
  intro done group _ table _ collected
  rw [mem_insert, collected]
  simp only [mem_append, mem_singleton, or_and_right, exists_or, exists_eq_left]
  rw [or_comm, eq_comm]

lemma mem_groupByTier_iff (tier : Int) (group : DiscoveredGroup) :
    group ∈ (groupByTier groups).getD tier [] ↔ group ∈ groups ∧ group.tier = tier := by
  rw [getD_groupByTier, mem_filter, decide_eq_true_eq]

lemma flatMap_filter_perm {tiers : List Int} (once : tiers.Nodup) : (tiers.flatMap fun tier =>
        groups.filter fun group => group.tier = tier).Perm
      (groups.filter fun group => group.tier ∈ tiers) := by
  induction tiers with
  | nil => simp
  | cons first rest ih =>
    rw [nodup_cons] at once
    have split := filter_append_perm (fun group : DiscoveredGroup => decide (group.tier = first))
      (groups.filter fun group => group.tier ∈ first :: rest)
    rw [filter_filter, filter_filter] at split
    refine ((ih once.2).append_left _).trans ((List.Perm.of_eq ?_).trans split)
    congr 1
    · refine filter_congr fun group _ => ?_
      by_cases same : group.tier = first
      · simp [same]
      · simp [same]
    · refine filter_congr fun group _ => ?_
      by_cases same : group.tier = first
      · simp [same, once.1]
      · simp [same]

lemma planOrder_perm : (planOrder runtime groups).Perm groups := by
  have inTiers : (planOrder runtime groups).Perm ((groupByTier groups).keys.flatMap fun tier =>
        groups.filter fun group => group.tier = tier) := by
    unfold planOrder
    rw [Discovery.sortedTierKeys_eq]
    refine List.Perm.flatMap_left _ fun tier _ => ?_
    rw [getD_groupByTier]
    exact runtime.sortSlice_perm _ _
  refine inTiers.trans ((flatMap_filter_perm groups (keys_nodup _)).trans (List.Perm.of_eq ?_))
  refine filter_eq_self.2 fun group listed => ?_
  rw [decide_eq_true_eq, mem_keys_groupByTier_iff]
  exact ⟨group, listed, rfl⟩

lemma mem_planOrder_iff (group : DiscoveredGroup) :
    group ∈ planOrder runtime groups ↔ group ∈ groups :=
  (planOrder_perm groups).mem_iff

end

/-! ## The loop in this order -/

variable {template : Template} {switches : List Switch}
  {nodes : List Node} {inputs : TopologyInputs}
  {maxByTier : GoMap Int Int} {groups : List DiscoveredGroup}

/-- Where the group loop starts. -/
def PlanState.start (maxByTier : GoMap Int Int) : PlanState :=
  { plan := .empty, maxByTier, assignedOwners := ∅ }

lemma planTier_eq {tier : Int} (positive : 1 ≤ tier)
    (accepted : inputs.nodeOnly = true → tier = 1) (state : PlanState) :
    planTier runtime template (planContext nodes switches inputs)
        inputs.nodeOnly (groupByTier groups) state tier =
      (runtime.sortSlice (fun left right =>
            decide (groupSortKey left < groupSortKey right))
          ((groupByTier groups).getD tier [])).foldlM
        (planStep runtime template (planContext nodes switches inputs))
        state := by
  have rendered : template.render tier = .ok (template.key tier) :=
    render_eq_ok_iff.2 ⟨positive, rfl⟩
  unfold planTier
  rw [if_neg fun refused => refused.2 (accepted refused.1), rendered]
  refine foldlM_congr (fun group listed state => ?_) state
  rw [Sorter.mem_sortSlice, mem_groupByTier_iff] at listed
  rw [planStep, listed.2]

lemma planGroups_eq (positive : ∀ group ∈ groups, 1 ≤ group.tier)
    (accepted : inputs.nodeOnly = true → ∀ group ∈ groups, group.tier = 1) :
    planGroups runtime template switches nodes inputs maxByTier groups =
      ((planOrder runtime groups).foldlM
        (planStep runtime template (planContext nodes switches inputs))
        (.start maxByTier)).map PlanState.plan := by
  unfold planGroups planOrder
  dsimp only
  rw [foldlM_flatMap]
  congr 1
  refine foldlM_congr (fun tier listed state => ?_) _
  rw [Discovery.sortedTierKeys_eq, mem_keys_groupByTier_iff] at listed
  obtain ⟨group, isGroup, rfl⟩ := listed
  exact planTier_eq (positive group isGroup) (fun nodeOnly => accepted nodeOnly group isGroup) state

lemma tiers_of_planGroups {plan : AutoLabelPlan}
    (planned : planGroups runtime template switches nodes inputs maxByTier groups = .ok plan)
    {group : DiscoveredGroup} (isGroup : group ∈ groups) :
    1 ≤ group.tier ∧ (inputs.nodeOnly = true → group.tier = 1) := by
  obtain ⟨state, finished, _⟩ := map_eq_ok.1 planned
  have listed : group.tier ∈ Discovery.sortedTierKeys runtime
      ["buildAutoLabelPlan", "tiers"] (groupByTier groups) := by
    rw [Discovery.sortedTierKeys_eq, mem_keys_groupByTier_iff]
    exact ⟨group, isGroup, rfl⟩
  obtain ⟨before, after, stepped⟩ := exists_step_of_foldlM finished listed
  unfold planTier at stepped
  split_ifs at stepped with refused
  split at stepped
  · cases stepped
  · next key rendered =>
    refine ⟨(render_eq_ok_iff.1 rendered).1, fun nodeOnly => ?_⟩
    by_contra differs
    exact refused ⟨nodeOnly, differs⟩

lemma foldlM_planOrder_of_ok {plan : AutoLabelPlan}
    (planned : planGroups runtime template switches nodes inputs maxByTier groups = .ok plan) :
    ∃ state, (planOrder runtime groups).foldlM
        (planStep runtime template (planContext nodes switches inputs))
        (.start maxByTier) = .ok state ∧ state.plan = plan := by
  rw [planGroups_eq (fun group isGroup => (tiers_of_planGroups planned isGroup).1)
    (fun nodeOnly group isGroup =>
      (tiers_of_planGroups planned isGroup).2 nodeOnly)] at planned
  exact map_eq_ok.1 planned

end

end Unifabric.SwitchTopology
