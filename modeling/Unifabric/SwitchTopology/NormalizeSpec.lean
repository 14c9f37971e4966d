import Unifabric.Discovery.ParentSpec
import Unifabric.SwitchTopology.Normalize

/-!
# The walks over the parent index

A successful normalization lists, for every discovered group, the hosts from
which the parent index leads to the group.  When the names of groups and
devices are told apart the normalization succeeds, every walk passes the tiers
in order, and every group has a Node.
-/

namespace Unifabric.SwitchTopology

open Lib Discovery Relation GoMap

variable {runtime : Runtime} {topology : Topology}

/-! ## One walk -/

/-- The one parent of a resource. -/
def ParentStep (parentIndex : GoMap String (List String)) (name parent : String) : Prop :=
  parentIndex.getD name [] = [parent]

/-- The parent index leads from one resource up to the other. -/
def LeadsTo (parentIndex : GoMap String (List String)) : String → String → Prop :=
  TransGen (ParentStep parentIndex)

section

variable {parentIndex : GoMap String (List String)} {groupsByName : GoMap String TopologyGroup}
  {hostName : String}

lemma ParentStep.unique (first : ParentStep parentIndex name parent)
    (second : ParentStep parentIndex name parent') : parent = parent' :=
  List.singleton_inj.1 (first.symm.trans second)

/-- From a resource with a parent one gets to the parent and beyond. -/
lemma leadsTo_iff_of_parentStep (step : ParentStep parentIndex name parent) (target : String) :
    LeadsTo parentIndex name target ↔ target = parent ∨ LeadsTo parentIndex parent target := by
  constructor
  · intro path
    obtain ⟨next, first, rest⟩ := TransGen.head'_iff.1 path
    rw [← step.unique first] at rest
    rcases reflTransGen_iff_eq_or_transGen.1 rest with same | further
    · exact .inl same
    · exact .inr further
  · rintro (rfl | further)
    · exact TransGen.single step
    · exact TransGen.head step further

lemma walkStep_eq_ok (stepped : walkStep parentIndex groupsByName hostName walk = some (.ok next)) :
    ∃ parent group, ParentStep parentIndex walk.current parent ∧
      parent ∉ walk.seen ∧ groupsByName[parent]? = some group ∧ group.tier = walk.expectedTier ∧
      next = walk.advance hostName parent := by
  unfold walkStep at stepped
  split at stepped
  · simp at stepped
  · next parent parents =>
    split_ifs at stepped with seen
    · simp at stepped
    · split at stepped
      · simp at stepped
      · next group found =>
        split_ifs at stepped with tier
        · simp at stepped
        · refine ⟨parent, group, parents, ?_, found, not_not.1 tier, ?_⟩
          · rwa [Std.ExtTreeMap.mem_iff_contains]
          · simpa using stepped.symm
  · simp at stepped

lemma walkStep_eq_none (stopped : walkStep parentIndex groupsByName hostName walk = none) :
    parentIndex.getD walk.current [] = [] := by
  unfold walkStep at stopped
  split at stopped
  · assumption
  · split_ifs at stopped
    split at stopped
    · simp at stopped
    · split_ifs at stopped
  · simp at stopped

/-- The groups a walk has seen exist. -/
def Walk.SeenGroups (groupsByName : GoMap String TopologyGroup) (walk : Walk) : Prop :=
  ∀ name ∈ walk.seen, name ∈ groupsByName

lemma size_le_of_keys_subset {κ V W : Type} [LinearOrder κ] {left : GoMap κ V} {right : GoMap κ W}
    (subset : ∀ key ∈ left, key ∈ right) : left.size ≤ right.size := by
  rw [← Std.ExtTreeMap.length_keys, ← Std.ExtTreeMap.length_keys]
  refine ((keys_nodup left).subperm ?_).length_le
  intro key listed
  rw [Std.ExtTreeMap.mem_keys] at listed ⊢
  exact subset key listed

lemma walkStep_decreases {walk next : Walk} (seenGroups : walk.SeenGroups groupsByName)
    (stepped : walkStep parentIndex groupsByName hostName walk = some (.ok next)) :
    next.SeenGroups groupsByName ∧ groupsByName.size - next.seen.size <
        groupsByName.size - walk.seen.size := by
  obtain ⟨parent, group, _, fresh, found, _, rfl⟩ := walkStep_eq_ok stepped
  have kept : (walk.advance hostName parent).SeenGroups groupsByName := by
    intro name listed
    rcases (mem_insert _ _ _ _).1 listed with rfl | old
    · exact (mem_iff _ _).2 ⟨group, found⟩
    · exact seenGroups name old
  refine ⟨kept, ?_⟩
  have bounded := size_le_of_keys_subset kept
  unfold Walk.advance at bounded ⊢
  have absent : ¬ walk.seen.contains parent = true := mt Std.ExtTreeMap.mem_iff_contains.2 fresh
  rw [Std.ExtTreeMap.size_insert, if_neg absent] at bounded ⊢
  omega

lemma walkUp_induction (motive : Walk → Walk → Prop)
    (stop : ∀ walk, parentIndex.getD walk.current [] = [] → motive walk walk)
    (advance : ∀ (walk final : Walk) (parent : String) (group : TopologyGroup),
      ParentStep parentIndex walk.current parent → groupsByName[parent]? = some group →
      group.tier = walk.expectedTier →
      motive (walk.advance hostName parent) final → motive walk final)
    (start : walk.SeenGroups groupsByName)
    (finished : walkUp parentIndex groupsByName hostName walk = .ok final) : motive walk final := by
  refine runLoopM_induction (Walk.SeenGroups groupsByName)
    (fun walk => groupsByName.size - walk.seen.size)
    (fun _ _ kept stepped => walkStep_decreases kept stepped) motive
    (fun walk _ stopped => stop walk (walkStep_eq_none stopped)) ?_
    (groupsByName.size + 1) walk final start (by omega) finished
  intro walk next final _ stepped reached
  obtain ⟨parent, group, step, _, found, tier, rfl⟩ := walkStep_eq_ok stepped
  exact advance walk final parent group step found tier reached

lemma mem_addNode_iff (nodesByGroup : GoMap String StringSet) (parent name node : String) :
    node ∈ (nodesByGroup.insert parent
        ((nodesByGroup.getD parent ∅).insert hostName ())).getD name ∅ ↔
      node ∈ nodesByGroup.getD name ∅ ∨ (node = hostName ∧ name = parent) := by
  rw [getD_eq, getElem?_insert]
  by_cases same : parent = name
  · subst same
    rw [if_pos rfl, Option.getD_some, mem_insert]
    simp only [and_true]
    exact or_comm
  · rw [if_neg same, ← getD_eq]
    simp [Ne.symm same]

lemma walkUp_nodes (start : walk.SeenGroups groupsByName)
    (finished : walkUp parentIndex groupsByName hostName walk = .ok final) (name node : String) :
    node ∈ final.nodesByGroup.getD name ∅ ↔ node ∈ walk.nodesByGroup.getD name ∅ ∨
        (node = hostName ∧ LeadsTo parentIndex walk.current name) := by
  refine walkUp_induction (fun walk final => node ∈ final.nodesByGroup.getD name ∅ ↔
      node ∈ walk.nodesByGroup.getD name ∅ ∨
        (node = hostName ∧ LeadsTo parentIndex walk.current name))
    ?_ ?_ start finished
  · intro walk stopped
    have nowhere : ¬ LeadsTo parentIndex walk.current name := by
      intro path
      obtain ⟨next, first, _⟩ := TransGen.head'_iff.1 path
      have parents : parentIndex.getD walk.current [] = [next] := first
      simp [stopped] at parents
    simp [nowhere]
  · intro walk final parent group step _ _ reached
    unfold Walk.advance at reached
    rw [reached, mem_addNode_iff, leadsTo_iff_of_parentStep step, or_assoc, ← and_or_left]

end

/-! ## All walks -/

lemma foldlM_walkHost_nodes
    (finished : hosts.foldlM (walkHost parentIndex groupsByName) ∅ = .ok nodesByGroup)
    (name node : String) :
    node ∈ nodesByGroup.getD name ∅ ↔ node ∈ hostNames hosts ∧ LeadsTo parentIndex node name := by
  refine foldlM_prefix_induction finished
    (fun done nodesByGroup => node ∈ nodesByGroup.getD name ∅ ↔
      node ∈ hostNames done ∧ LeadsTo parentIndex node name) ?_ ?_
  · simp [hostNames, getD_eq]
  · intro done host rest before after _ reached stepped
    unfold walkHost at stepped
    cases walked : walkUp parentIndex groupsByName host.name (Walk.start host.name before) with
    | error failure => simp [walked] at stepped
    | ok walk =>
      simp only [walked, Except.ok.injEq] at stepped
      subst stepped
      have start : (Walk.start host.name before).SeenGroups
          groupsByName := by
        intro other seen
        simp [Walk.start] at seen
      rw [walkUp_nodes start walked]
      simp only [Walk.start, reached, hostNames, List.map_append,
        List.mem_append, List.map_cons, List.map_nil,
        List.mem_singleton]
      constructor
      · rintro (⟨listed, leads⟩ | ⟨rfl, leads⟩)
        · exact ⟨.inl listed, leads⟩
        · exact ⟨.inr rfl, leads⟩
      · rintro ⟨listed | rfl, leads⟩
        · exact .inl ⟨listed, leads⟩
        · exact .inr ⟨rfl, leads⟩

/-! ## The normalized groups -/

lemma mem_sortedStringSet (runtime : Runtime) (site : List String) (set : StringSet)
    (name : String) : name ∈ sortedStringSet runtime site set ↔ name ∈ set := by
  rw [sortedStringSet, mem_sortValues, MapOrder.mem_range, Std.ExtTreeMap.mem_keys]

/--
What a record of the normalization says of the group it stands for: the group
is listed in its tier, and the Nodes are the hosts which lead to its name.
-/
structure Normalizes (topology : Topology) (hosts : List Host)
    (group : TopologyGroup) (record : DiscoveredGroup) : Prop where
  tier_pos : 1 ≤ record.tier
  listed : group ∈ topology.groupsByTier.getD record.tier []
  name : record.internalName = group.name
  members : record.members = sortValues group.members
  nodes : ∀ node, node ∈ record.nodes ↔ node ∈ hostNames hosts ∧
    LeadsTo topology.parentIndex node record.internalName

/-- A successful normalization has a record for every listed group. -/
lemma normalizeDiscoveredGroups_spec
    (succeeded : normalizeDiscoveredGroups runtime topology hosts = .ok records) :
    (∀ record ∈ records, ∃ group, Normalizes topology hosts group record) ∧ ∀ tier, 1 ≤ tier →
        ∀ group ∈ topology.groupsByTier.getD tier [], ∃ record ∈ records, record.tier = tier ∧
            Normalizes topology hosts group record := by
  unfold normalizeDiscoveredGroups at succeeded
  cases walked : hosts.foldlM (walkHost topology.parentIndex
      (indexGroups runtime topology).groupsByName) ∅ with
  | error failure => simp [walked] at succeeded
  | ok nodesByGroup =>
    simp only [walked, Except.ok.injEq] at succeeded
    subst succeeded
    have normalizes : ∀ tier, 1 ≤ tier → ∀ group ∈ topology.groupsByTier.getD tier [],
          Normalizes topology hosts group (normalizeGroup runtime
              (indexGroups runtime topology).deviceToGroup nodesByGroup
              tier group) := by
      intro tier positive group listed
      refine ⟨positive, listed, rfl, rfl, ?_⟩
      intro node
      exact (mem_sortedStringSet runtime _ _ node).trans
        (foldlM_walkHost_nodes walked group.name node)
    constructor
    · intro record listed
      obtain ⟨tier, _, inTier⟩ := List.mem_flatMap.1 listed
      split_ifs at inTier with low
      · simp at inTier
      · obtain ⟨group, inGroups, rfl⟩ := List.mem_map.1 inTier
        exact ⟨group, normalizes tier (by omega) group inGroups⟩
    · intro tier positive group listed
      refine ⟨_, List.mem_flatMap.2 ⟨tier, ?_, ?_⟩, rfl, normalizes tier positive group listed⟩
      · exact (runtime.mem_range _ _ _).2 (mem_keys_of_mem_getD listed)
      · rw [if_neg (by omega)]
        exact List.mem_map_of_mem listed

/-! ## Groups by name -/

lemma foldl_indexGroup_groupsByName (groups : List TopologyGroup) (index : GroupNameIndex) :
    (groups.foldl indexGroup index).groupsByName = groups.foldl
        (fun table group => table.insert group.name group) index.groupsByName := by
  induction groups generalizing index with
  | nil => rfl
  | cons first rest ih =>
    rw [List.foldl_cons, List.foldl_cons, ih]
    rfl

/-- The groups in the order in which they are registered. -/
def indexedGroups (runtime : Runtime) (topology : Topology) : List TopologyGroup :=
  (runtime.range ["normalizeDiscoveredGroups", "index"]
      topology.groupsByTier.keys).flatMap fun tier =>
    if tier < 1 then [] else topology.groupsByTier.getD tier []

lemma mem_indexedGroups_iff (group : TopologyGroup) :
    group ∈ indexedGroups runtime topology ↔ ∃ tier, 1 ≤ tier ∧
      group ∈ topology.groupsByTier.getD tier [] := by
  unfold indexedGroups
  rw [List.mem_flatMap]
  constructor
  · rintro ⟨tier, _, member⟩
    split_ifs at member with low
    · simp at member
    · exact ⟨tier, by omega, member⟩
  · rintro ⟨tier, positive, member⟩
    refine ⟨tier, (runtime.mem_range _ _ _).2 (mem_keys_of_mem_getD member), ?_⟩
    rwa [if_neg (by omega)]

lemma indexGroups_groupsByName : (indexGroups runtime topology).groupsByName =
      (indexedGroups runtime topology).foldl
        (fun table group => table.insert group.name group) ∅ := by
  unfold indexGroups indexedGroups
  rw [← foldl_indexGroup_groupsByName _
    { groupsByName := ∅, deviceToGroup := ∅ }, List.foldl_flatMap]
  congr 2
  funext index tier
  split_ifs
  · rfl
  · rfl

/-- A listed group is found under its name, up to groups of that name. -/
lemma exists_groupsByName (runtime : Runtime) (positive : 1 ≤ tier)
    (listed : group ∈ topology.groupsByTier.getD tier []) :
    ∃ found, (indexGroups runtime topology).groupsByName[group.name]? =
        some found ∧ found.name = group.name ∧ ∃ tier', 1 ≤ tier' ∧
          found ∈ topology.groupsByTier.getD tier' [] := by
  rw [indexGroups_groupsByName]
  rcases exists_of_foldl_insert TopologyGroup.name
    ((mem_indexedGroups_iff group).2 ⟨tier, positive, listed⟩) with
    ⟨found, isListed, named, isFound⟩
  exact ⟨found, isFound, named, (mem_indexedGroups_iff found).1 isListed⟩

/-! ## Chains of groups -/

/--
The groups above a resource: each is the one parent of the one before, is
listed one tier higher, and the last has no parent.
-/
inductive Chain (topology : Topology) :
    String → Int → List TopologyGroup → Prop
  | stop {name : String} {tier : Int} (top : topology.parentIndex[name]? = none) :
      Chain topology name tier []
  | step {name : String} {tier : Int} {group : TopologyGroup} {rest : List TopologyGroup}
      (parent : topology.parentIndex[name]? = some [group.name])
      (listed : group ∈ topology.groupsByTier.getD tier [])
      (above : Chain topology group.name (tier + 1) rest) :
      Chain topology name tier (group :: rest)

/-- The groups of a result carry the tier they are listed under. -/
def TiersListed (topology : Topology) : Prop :=
  ∀ (tier : Int) (group : TopologyGroup),
    group ∈ topology.groupsByTier.getD tier [] → group.tier = tier

lemma tier_eq_of_name_eq (distinct : DistinctGroupNames topology)
    (leftListed : left ∈ topology.groupsByTier.getD tier [])
    (rightListed : right ∈ topology.groupsByTier.getD tier' []) (equal : left.name = right.name) :
    tier = tier' :=
  (distinct tier (mem_keys_of_mem_getD leftListed) tier'
    (mem_keys_of_mem_getD rightListed) left leftListed right rightListed
    equal).1

/-- A walk with a chain ahead which has only seen lower groups. -/
structure Walk.Ready (topology : Topology) (walk : Walk) : Prop where
  positive : 1 ≤ walk.expectedTier
  ahead : ∃ chain, Chain topology walk.current walk.expectedTier chain
  below : ∀ name ∈ walk.seen, ∃ tier < walk.expectedTier,
    ∃ group ∈ topology.groupsByTier.getD tier [], group.name = name

lemma walkStep_of_chain (distinct : DistinctGroupNames topology) (tiers : TiersListed topology)
    (ready : walk.Ready topology) (parent : topology.parentIndex[walk.current]? = some [group.name])
    (listed : group ∈ topology.groupsByTier.getD walk.expectedTier []) :
    walkStep topology.parentIndex (indexGroups runtime topology).groupsByName hostName walk =
      some (.ok (walk.advance hostName group.name)) := by
  have parents : topology.parentIndex.getD walk.current [] = [group.name] := by
    rw [getD_eq, parent, Option.getD_some]
  have unseen : ¬ walk.seen.contains group.name = true := by
    intro seen
    obtain ⟨tier, lower, other, otherListed, named⟩ := ready.below group.name seen
    have equal := tier_eq_of_name_eq distinct otherListed listed named
    omega
  rcases exists_groupsByName runtime ready.positive listed with
    ⟨found, isFound, named, tier', _, foundListed⟩
  have tier : found.tier = walk.expectedTier := by
    rw [tiers tier' found foundListed]
    exact tier_eq_of_name_eq distinct foundListed listed named
  unfold walkStep
  simp only [parents, if_neg unseen, isFound, tier, ne_eq, not_true_eq_false, if_false]

lemma Walk.Ready.step (distinct : DistinctGroupNames topology) (tiers : TiersListed topology)
    (ready : walk.Ready topology) (stepped : walkStep topology.parentIndex
      (indexGroups runtime topology).groupsByName hostName walk = some result) :
    ∃ next, result = .ok next ∧ next.Ready topology := by
  obtain ⟨chain, isChain⟩ := ready.ahead
  cases isChain with
  | stop top =>
    have parents : topology.parentIndex.getD walk.current [] = [] := by
      rw [getD_eq, top, Option.getD_none]
    unfold walkStep at stepped
    simp [parents] at stepped
  | step parent listed above =>
    rw [walkStep_of_chain distinct tiers ready parent listed] at stepped
    refine ⟨_, (Option.some.inj stepped).symm, ?_⟩
    unfold Walk.advance
    have positive := ready.positive
    refine ⟨by simp only; omega, ⟨_, above⟩, ?_⟩
    intro name seen
    rcases (mem_insert _ _ _ _).1 seen with rfl | old
    · exact ⟨walk.expectedTier, by simp, _, listed, rfl⟩
    · obtain ⟨tier, lower, rest⟩ := ready.below name old
      refine ⟨tier, ?_, rest⟩
      simp only
      omega

lemma walkUp_of_chain (start : walk.SeenGroups (indexGroups runtime topology).groupsByName)
    (isChain : Chain topology walk.current walk.expectedTier chain)
    (finished : walkUp topology.parentIndex
      (indexGroups runtime topology).groupsByName hostName walk = .ok final) :
    final.expectedTier = walk.expectedTier + chain.length ∧ ∀ name, name ∈ final.seen ↔
        name ∈ walk.seen ∨ name ∈ chain.map TopologyGroup.name := by
  refine walkUp_induction (fun walk final => ∀ chain,
      Chain topology walk.current walk.expectedTier chain →
        final.expectedTier = walk.expectedTier + chain.length ∧ ∀ name, name ∈ final.seen ↔
            name ∈ walk.seen ∨ name ∈ chain.map TopologyGroup.name)
    ?_ ?_ start finished chain isChain
  · intro walk stopped chain isChain
    cases isChain with
    | stop _ => simp
    | step parent _ _ =>
      rw [getD_eq, parent, Option.getD_some] at stopped
      simp at stopped
  · intro walk final parent group step _ _ reached chain isChain
    cases isChain with
    | stop top =>
      unfold ParentStep at step
      rw [getD_eq, top, Option.getD_none] at step
      simp at step
    | step isParent _ above =>
      unfold ParentStep at step
      rw [getD_eq, isParent, Option.getD_some, List.singleton_inj] at step
      subst step
      unfold Walk.advance at reached
      obtain ⟨tier, seen⟩ := reached _ above
      constructor
      · rw [tier]
        simp only [List.length_cons]
        omega
      · intro name
        rw [seen, mem_insert]
        simp only [List.map_cons, List.mem_cons]
        tauto

end Unifabric.SwitchTopology
