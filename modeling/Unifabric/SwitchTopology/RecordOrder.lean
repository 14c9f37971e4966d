import Unifabric.SwitchTopology.PlanSound

/-!
# The groups of a plan in every map order

While the discovered groups have distinct names, the records of a plan do not
depend on the order in which maps are iterated, up to their own order.
-/

namespace Unifabric.SwitchTopology

open Lib V1beta1 List

variable {runtime : Runtime} {inputs : TopologyInputs}
open Unifabric.Discovery (Topology TopologyGroup DistinctGroupNames
  discoverTopology_order tieredGraph_tiered discoveredGroups_grouping
  mem_groupsByTier_iff mem_keys_of_mem_getD)

/-! ## Groups of one name or with a common member -/

lemma group_eq_of_common_member
    (inLeft : left ∈ (discoverInputs runtime inputs).groupsByTier.getD tier [])
    (inRight : right ∈ (discoverInputs runtime inputs).groupsByTier.getD tier' [])
    (isLeft : member ∈ left.members) (isRight : member ∈ right.members) : left = right := by
  have tiered := tieredGraph_tiered runtime inputs.hosts inputs.switches
  have grouping := discoveredGroups_grouping runtime tiered planOptions
  have leftListed := ((mem_groupsByTier_iff runtime tiered _ tier left).1 inLeft).1
  have rightListed := ((mem_groupsByTier_iff runtime tiered _ tier' right).1 inRight).1
  exact grouping.eq_of_common_member leftListed rightListed isLeft isRight

/-- Listed groups of one name are the same if names are distinct. -/
lemma group_eq_of_name_eq (distinct : DistinctGroupNames (discoverInputs runtime inputs))
    (inLeft : left ∈ (discoverInputs runtime inputs).groupsByTier.getD tier [])
    (inRight : right ∈ (discoverInputs runtime inputs).groupsByTier.getD tier' [])
    (equal : left.name = right.name) : left = right := by
  obtain ⟨_, _, member, isLeft, _⟩ := exists_member_of_group inLeft
  have members := (distinct tier (mem_keys_of_mem_getD inLeft) tier'
    (mem_keys_of_mem_getD inRight) left inLeft right inRight equal).2
  exact group_eq_of_common_member inLeft inRight isLeft (members.1 member isLeft)

/-! ## The index -/

section

variable {runtime' : Runtime} {topology topology' : Topology}

lemma indexGroups_deviceToGroup : (indexGroups runtime topology).deviceToGroup =
      ((indexedGroups runtime topology).flatMap fun group =>
          group.members.map fun member => (member, group.name)).foldl
        (fun table entry => table.insert entry.1 entry.2) ∅ := by
  have fold : ∀ (groups : List TopologyGroup) (index : GroupNameIndex),
      (groups.foldl indexGroup index).deviceToGroup = (groups.flatMap fun group =>
            group.members.map fun member => (member, group.name)).foldl
          (fun table entry => table.insert entry.1 entry.2)
          index.deviceToGroup := by
    intro groups
    induction groups with
    | nil => intro index; rfl
    | cons first rest ih =>
      intro index
      rw [foldl_cons, ih, flatMap_cons, foldl_append, foldl_map]
      rfl
  rw [← fold _ { groupsByName := ∅, deviceToGroup := ∅ }]
  unfold indexGroups indexedGroups
  rw [foldl_flatMap]
  congr 2
  funext index tier
  split_ifs
  · rfl
  · rfl

lemma indexGroups_congr (same : topology.groupsByTier = topology'.groupsByTier)
    (names : ∀ left ∈ indexedGroups runtime topology, ∀ right ∈ indexedGroups runtime topology,
        left.name = right.name → left = right)
    (members : ∀ left ∈ indexedGroups runtime topology, ∀ right ∈ indexedGroups runtime topology,
        ∀ member ∈ left.members, member ∈ right.members → left = right) :
    indexGroups runtime topology = indexGroups runtime' topology' := by
  have sameGroups : ∀ group, group ∈ indexedGroups runtime topology ↔
      group ∈ indexedGroups runtime' topology' := by
    intro group
    rw [mem_indexedGroups_iff, mem_indexedGroups_iff, same]
  have groupsByName : (indexGroups runtime topology).groupsByName =
      (indexGroups runtime' topology').groupsByName := by
    rw [indexGroups_groupsByName, indexGroups_groupsByName]
    exact GoMap.foldl_insert_congr sameGroups names
  have deviceToGroup : (indexGroups runtime topology).deviceToGroup =
      (indexGroups runtime' topology').deviceToGroup := by
    rw [indexGroups_deviceToGroup, indexGroups_deviceToGroup]
    refine GoMap.foldl_insert_congr (fun entry => ?_) ?_
    · simp only [mem_flatMap, sameGroups]
    · intro left isLeft right isRight sameMember
      obtain ⟨leftGroup, inLeft, leftPair⟩ := mem_flatMap.1 isLeft
      obtain ⟨rightGroup, inRight, rightPair⟩ := mem_flatMap.1 isRight
      obtain ⟨leftMember, leftIn, rfl⟩ := mem_map.1 leftPair
      obtain ⟨rightMember, rightIn, rfl⟩ := mem_map.1 rightPair
      subst sameMember
      rw [members leftGroup inLeft rightGroup inRight leftMember leftIn rightIn]
  cases left : indexGroups runtime topology
  cases right : indexGroups runtime' topology'
  rw [left, right] at groupsByName deviceToGroup
  cases groupsByName
  cases deviceToGroup
  rfl

variable (runtime runtime')

lemma sortedStringSet_congr (site : List String) (set : StringSet) :
    sortedStringSet runtime site set = sortedStringSet runtime' site set := by
  rw [sortedStringSet, sortedStringSet, MapOrder.sort_range_keys, MapOrder.sort_range_keys]

lemma normalizeGroup_congr (deviceToGroup : GoMap String String)
    (nodesByGroup : GoMap String StringSet) (tier : Int) :
    normalizeGroup runtime deviceToGroup nodesByGroup tier =
      normalizeGroup runtime' deviceToGroup nodesByGroup tier := by
  funext group
  unfold normalizeGroup lowerNames
  simp only [sortedStringSet_congr runtime runtime']

end

/-! ## The records -/

section

variable (sorter : Sorter)
variable (order order' : MapOrder)

variable (distinct : DistinctGroupNames (discoverInputs ⟨order, sorter⟩ inputs))

include sorter order order' distinct

lemma normalizeDiscoveredGroups_order
    (normalized : normalizeDiscoveredGroups ⟨order, sorter⟩ (discoverInputs
      ⟨order, sorter⟩ inputs) inputs.hosts = .ok records) :
    ∃ records', normalizeDiscoveredGroups ⟨order', sorter⟩
        (discoverInputs ⟨order', sorter⟩ inputs) inputs.hosts =
          .ok records' ∧ records.Perm records' := by
  have same : Discovery.SameTopology (discoverInputs ⟨order, sorter⟩ inputs)
      (discoverInputs ⟨order', sorter⟩ inputs) :=
    discoverTopology_order sorter order order' inputs.hosts inputs.switches _
  have index : indexGroups ⟨order, sorter⟩ (discoverInputs ⟨order, sorter⟩ inputs) =
        indexGroups ⟨order', sorter⟩ (discoverInputs ⟨order', sorter⟩ inputs) := by
    refine indexGroups_congr same.groupsByTier ?_ ?_
    · intro left isLeft right isRight equal
      obtain ⟨_, _, inLeft⟩ := (mem_indexedGroups_iff left).1 isLeft
      obtain ⟨_, _, inRight⟩ := (mem_indexedGroups_iff right).1 isRight
      exact group_eq_of_name_eq distinct inLeft inRight equal
    · intro left isLeft right isRight member inMembers alsoRight
      obtain ⟨_, _, inLeft⟩ := (mem_indexedGroups_iff left).1 isLeft
      obtain ⟨_, _, inRight⟩ := (mem_indexedGroups_iff right).1 isRight
      exact group_eq_of_common_member inLeft inRight inMembers alsoRight
  unfold normalizeDiscoveredGroups at normalized ⊢
  dsimp only at normalized ⊢
  rw [index, same.parentIndex, same.groupsByTier] at normalized
  split at normalized
  · cases normalized
  · next nodesByGroup walked =>
    cases normalized
    refine ⟨_, rfl, ?_⟩
    simp only [normalizeGroup_congr ⟨order, sorter⟩ ⟨order', sorter⟩]
    exact ((order.range_perm _ _).trans (order'.range_perm _ _).symm).flatMap_right _

lemma distinctGroupNames_order : DistinctGroupNames (discoverInputs ⟨order', sorter⟩ inputs) := by
  have same : Discovery.SameTopology (discoverInputs ⟨order, sorter⟩ inputs)
      (discoverInputs ⟨order', sorter⟩ inputs) :=
    discoverTopology_order sorter order order' inputs.hosts inputs.switches _
  unfold DistinctGroupNames at distinct ⊢
  rwa [← same.groupsByTier]

lemma discoveredRecords_order : (discoveredRecords ⟨order, sorter⟩ inputs).Perm
      (discoveredRecords ⟨order', sorter⟩ inputs) := by
  unfold discoveredRecords
  cases normalized : normalizeDiscoveredGroups ⟨order, sorter⟩
      (discoverInputs ⟨order, sorter⟩ inputs) inputs.hosts with
  | ok records =>
    rcases normalizeDiscoveredGroups_order sorter order order' distinct
      normalized with ⟨records', normalized', perm⟩
    rw [normalized']
    exact perm
  | error failure =>
    cases normalized' : normalizeDiscoveredGroups ⟨order', sorter⟩
        (discoverInputs ⟨order', sorter⟩ inputs) inputs.hosts with
    | error failure' => exact List.Perm.refl _
    | ok records' =>
      rcases normalizeDiscoveredGroups_order sorter order' order
        (distinctGroupNames_order sorter order order' distinct)
        normalized' with ⟨records, succeeded, _⟩
      rw [normalized] at succeeded
      cases succeeded

end

end Unifabric.SwitchTopology
