import Unifabric.TopologyStatus.GroupNames

/-!
# Names of node groups over runs

Every successful `BuildTopologyStatus` gets the groups of the last one.  Its own
groups have distinct paths of label values, so names stay distinct in every
run, and a path keeps its name as long as it stays.
-/

namespace Unifabric.TopologyStatus

open Lib TopologyLabel V1beta1
open List hiding after count insert keys le_trans length next

variable {check : String → List String}

/-! ## The groups of one status -/

/-- A label value holds no NUL character. -/
def PlainLabelValues (isValidLabelValue : String → List String) : Prop :=
  ∀ value, isValidLabelValue value = [] → '\x00' ∉ value.toList

/-- The groups are stored under the keys of their paths. -/
structure GroupsKept (count : Nat) (nodeGroups : NodeGroups) : Prop where
  keyed : ∀ (key : String) (group : TopologyNodeGroup), nodeGroups[key]? = some group →
      nodeGroupKey group.switchDomainPath = key
  valid : ∀ (key : String) (group : TopologyNodeGroup),
    nodeGroups[key]? = some group → ValidPath group.switchDomainPath
  size : nodeGroups.size ≤ count

section

variable {runtime : Runtime} {template : Template} {nodeName : String} {values : GoMap Int String}

/-- A tier which is checked is in order, and its value is a label value. -/
lemma checkTier_eq_ok (checked : checkTier check nodeName values domains entry = .ok next) :
    entry.1 = (entry.2 : Int) + 1 ∧ check (values.getD entry.1 "") = [] := by
  unfold checkTier at checked
  split_ifs at checked with numbered
  refine ⟨not_not.1 numbered, ?_⟩
  dsimp only at checked
  cases valid : validateDomainName check (values.getD entry.1 "") with
  | error reason =>
    rw [valid] at checked
    cases checked
  | ok _ =>
    unfold validateDomainName at valid
    split_ifs at valid
    split at valid
    · assumption
    · cases valid

lemma validPath_of_checked (plain : PlainLabelValues check) (nonempty : tiers ≠ [])
    (checked : tiers.zipIdx.foldlM (checkTier check nodeName values) domains = .ok ensured) :
    ValidPath ((range' 1 tiers.length).reverse.map
      fun tier : Nat => values.getD (tier : Int) "") := by
  have valid := foldlM_prefix_induction checked
    (fun done _ => ∀ entry ∈ done, entry.1 = (entry.2 : Int) + 1 ∧
      check (values.getD entry.1 "") = [])
    (by simp)
    (by
      intro done entry rest state next _ before stepped
      exact forall_mem_concat before (checkTier_eq_ok stepped))
  refine ⟨?_, fun value listed => ?_⟩
  · simpa using nonempty
  · obtain ⟨tier, isTier, rfl⟩ := mem_map.1 listed
    rw [mem_reverse, mem_range'_1] at isTier
    have inside : tier - 1 < tiers.length := by omega
    have isEntry : (tiers[tier - 1], tier - 1) ∈ tiers.zipIdx := by
      rw [mem_zipIdx_iff_getElem?]
      exact getElem?_eq_getElem inside
    obtain ⟨numbered, isValid⟩ := valid _ isEntry
    have same : tiers[tier - 1] = (tier : Int) := by
      omega
    rw [same] at isValid
    exact plain _ isValid

/-- A Node leaves the groups as they are or joins the group of its path. -/
lemma addNode_nodeGroups (plain : PlainLabelValues check) {state next : BuildState}
    (added : addNode check runtime template state node = .ok next) :
    next.nodeGroups = state.nodeGroups ∨ ∃ path, ValidPath path ∧
      next.nodeGroups = addToGroup state.nodeGroups path node.name := by
  unfold addNode at added
  cases labels : labelsByTier runtime ["labelsByTier", node.name] template node.labels with
  | error conflict =>
    rw [labels] at added
    cases added
  | ok values =>
    rw [labels] at added
    dsimp only at added
    split_ifs at added with empty
    · cases added
      exact .inl rfl
    · have nonempty : sortedTiers runtime ["sortedTiers", node.name] values ≠ [] := by
        intro isNil
        rw [sortedTiers, MapOrder.sort_range_keys] at isNil
        have none := Std.ExtTreeMap.length_keys (t := values)
        rw [isNil, length_nil] at none
        rw [Std.ExtTreeMap.isEmpty_eq_size_beq_zero, ← none] at empty
        exact empty rfl
      obtain ⟨ensured, checked, later⟩ := bind_eq_ok.1 added
      obtain ⟨linked, _, finished⟩ := bind_eq_ok.1 later
      cases finished
      exact .inr ⟨_, validPath_of_checked plain nonempty checked, rfl⟩

lemma GroupsKept.addToGroup {nodeGroups : NodeGroups} (kept : GroupsKept count nodeGroups)
    (valid : ValidPath path) (nodeName : String) :
    GroupsKept (count + 1) (addToGroup nodeGroups path nodeName) := by
  have insert {group : TopologyNodeGroup}
      (isPath : nodeGroupKey group.switchDomainPath = nodeGroupKey path)
      (isValid : ValidPath group.switchDomainPath) :
      GroupsKept (count + 1) (nodeGroups.insert (nodeGroupKey path) group) := by
    refine ⟨fun key other found => ?_, fun key other found => ?_,
      le_trans Std.ExtTreeMap.size_insert_le (Nat.succ_le_succ kept.size)⟩
    · rw [GoMap.getElem?_insert] at found
      split_ifs at found with same
      · cases found
        exact isPath.trans same
      · exact kept.keyed key other found
    · rw [GoMap.getElem?_insert] at found
      split_ifs at found
      · cases found
        exact isValid
      · exact kept.valid key other found
  unfold TopologyStatus.addToGroup
  split
  · exact insert rfl valid
  · next group found =>
    have keyed := kept.keyed (nodeGroupKey path) group found
    have isValid := kept.valid (nodeGroupKey path) group found
    exact insert keyed isValid

lemma groupsKept_of_built (plain : PlainLabelValues check) {nodes : List LabeledResource}
    (succeeded : nodes.foldlM (addNode check runtime template) ⟨∅, ∅⟩ = .ok built) :
    GroupsKept nodes.length built.nodeGroups := by
  refine foldlM_prefix_induction succeeded
    (fun done state => GroupsKept done.length state.nodeGroups)
    ⟨by simp, by simp, by simp⟩ ?_
  intro done node rest state next _ kept added
  rw [length_append, length_singleton]
  rcases addNode_nodeGroups plain added with same | ⟨path, valid, joined⟩
  · rw [same]
    exact ⟨kept.keyed, kept.valid, le_trans kept.size (Nat.le_succ _)⟩
  · rw [joined]
    exact kept.addToGroup valid node.name

lemma GroupsKept.distinctPaths {nodeGroups : NodeGroups} (kept : GroupsKept count nodeGroups)
    (runtime : Runtime) :
    let groups := runtime.sortSlice groupLess ((runtime.range ["nodeGroups"] nodeGroups.entries).map
        fun group => { group with nodes := sortValues group.nodes })
    DistinctPaths groups ∧ groups.length ≤ count := by
  intro groups
  have entries : (groups.map (·.switchDomainPath)).Perm
      (nodeGroups.entries.map (·.switchDomainPath)) := by
    have sorted := (runtime.sortSlice_perm groupLess
      ((runtime.range ["nodeGroups"] nodeGroups.entries).map
        fun group => { group with nodes := sortValues group.nodes })).map (·.switchDomainPath)
    rw [map_map] at sorted
    exact sorted.trans ((runtime.range_perm ["nodeGroups"] nodeGroups.entries).map _)
  refine ⟨⟨fun group listed => ?_, ?_⟩, ?_⟩
  · have isPath := entries.subset (mem_map_of_mem listed)
    obtain ⟨source, isSource, same⟩ := mem_map.1 isPath
    obtain ⟨key, found⟩ := (GoMap.mem_entries_iff nodeGroups source).1 isSource
    rw [← same]
    exact kept.valid key source found
  · refine entries.nodup_iff.2 ?_
    have keys := GoMap.keys_nodup nodeGroups
    rw [← GoMap.map_entries_eq_keys kept.keyed] at keys
    refine List.Nodup.of_map nodeGroupKey ?_
    rw [map_map]
    exact keys
  · have counted := entries.length_eq
    rw [length_map, length_map, GoMap.entries, length_map, Std.ExtTreeMap.length_toList] at counted
    rw [counted]
    exact kept.size

end

/-! ## Runs -/

/--
One successful `BuildTopologyStatus` with the groups of the last one.  A slice
of Nodes has less than 2^62 elements.
-/
def Builds (isValidLabelValue : String → List String)
    (previous next : List TopologyNodeGroup) : Prop :=
  ∃ (runtime : Runtime) (template : Option Template)
    (snapshot : LabelSnapshot) (result : BuildResult),
    snapshot.nodes.length < 2 ^ 62 ∧ buildTopologyStatus runtime isValidLabelValue template snapshot
        previous = .ok result ∧
      result.status.nodes = next

/-- The path stays in the groups. -/
def BuildsKeeping (isValidLabelValue : String → List String)
    (path : List String) (previous next : List TopologyNodeGroup) : Prop :=
  Builds isValidLabelValue previous next ∧ path ∈ next.map (·.switchDomainPath)

/-- What holds of the groups of a run. -/
structure RunGroups (groups : List TopologyNodeGroup) : Prop extends
    DistinctNames groups where
  length : groups.length < 2 ^ 62

section

variable {previous next groups : List TopologyNodeGroup}

lemma unnamed_path : (fun group : TopologyNodeGroup =>
    group.switchDomainPath) = (·.switchDomainPath) ∘ unnamed :=
  rfl

section

variable (assigned : NamesAssigned groups previous next)

include assigned

lemma NamesAssigned.paths : next.map (·.switchDomainPath) = groups.map (·.switchDomainPath) := by
  rw [unnamed_path, ← map_map, ← map_map, assigned.same]

lemma NamesAssigned.group_named
    (listed : group ∈ next) : ∃ earlier, GroupNamed previous earlier group := by
  obtain ⟨earlier, later, split⟩ := append_of_mem listed
  refine ⟨earlier, assigned.law earlier group ⟨later, ?_⟩⟩
  rw [split, append_assoc, singleton_append]

lemma NamesAssigned.distinctNames
    (paths : DistinctPaths groups) (distinct : DistinctNames previous) : DistinctNames next where
  valid group listed := by
    have isPath : group.switchDomainPath ∈
      next.map (·.switchDomainPath) := mem_map_of_mem listed
    rw [assigned.paths] at isPath
    obtain ⟨source, isSource, same⟩ := mem_map.1 isPath
    rw [← same]
    exact paths.valid source isSource
  distinct := assigned.paths ▸ paths.distinct
  names := assigned.distinct
  named group listed := by
    obtain ⟨earlier, law⟩ := assigned.group_named listed
    by_cases stays : ∃ old ∈ previous, old.switchDomainPath = group.switchDomainPath
    · obtain ⟨old, isOld, same⟩ := stays
      rw [law.kept old isOld same]
      exact distinct.named old isOld
    · obtain ⟨number, _, named⟩ := law.numbered fun old isOld same => stays ⟨old, isOld, same⟩
      rw [named]
      intro empty
      have texts := congrArg String.toList empty
      simp [numberedName, nodeGroupNamePrefix] at texts

end

lemma namesAssigned_of_builds (plain : PlainLabelValues check)
    (run : RunGroups previous) (builds : Builds check previous next) :
    ∃ groups, DistinctPaths groups ∧ groups.length < 2 ^ 62 ∧
      NamesAssigned groups previous next := by
  obtain ⟨runtime, template, snapshot, result, few, built, rfl⟩ := builds
  cases template with
  | none => cases built
  | some template =>
    obtain ⟨state, nodes, later⟩ := bind_eq_ok.1 built
    obtain ⟨joined, _, finished⟩ := bind_eq_ok.1 later
    cases finished
    have kept := groupsKept_of_built plain nodes
    have sorted : (sortByName runtime snapshot.nodes).length = snapshot.nodes.length :=
      (runtime.sortSlice_perm _ _).length_eq
    obtain ⟨paths, bounded⟩ := kept.distinctPaths runtime
    have length := run.length
    refine ⟨_, paths, by omega, namesAssigned_assignNodeGroupNames paths run.toDistinctNames ?_⟩
    have room : (2 : Nat) ^ 62 + 2 ^ 62 - 2 ≤ maxInt := by decide
    omega

/-- One status keeps names distinct, and paths keep their names. -/
lemma RunGroups.builds (run : RunGroups previous) (plain : PlainLabelValues check)
    (builds : Builds check previous next) : RunGroups next ∧ ∀ old ∈ previous, ∀ new ∈ next,
      new.switchDomainPath = old.switchDomainPath → new.name = old.name := by
  obtain ⟨groups, paths, few, assigned⟩ := namesAssigned_of_builds plain run builds
  refine ⟨⟨assigned.distinctNames paths run.toDistinctNames, ?_⟩,
    fun old isOld new isNew same => ?_⟩
  · have counted := congrArg List.length assigned.same
    rw [length_map, length_map] at counted
    omega
  · obtain ⟨earlier, law⟩ := assigned.group_named isNew
    exact law.kept old isOld same.symm

lemma runGroups_nil : RunGroups [] := ⟨⟨⟨by simp, by simp⟩, by simp, by simp⟩, by simp⟩

lemma runGroups_of_reachable (plain : PlainLabelValues check)
    (reached : Relation.ReflTransGen (Builds check) [] groups) : RunGroups groups := by
  induction reached with
  | refl => exact runGroups_nil
  | tail _ builds run => exact (run.builds plain builds).1

lemma RunGroups.name_kept (run : RunGroups previous) (plain : PlainLabelValues check)
    (listed : old ∈ previous)
    (stays : Relation.ReflTransGen (BuildsKeeping check old.switchDomainPath) previous next) :
    RunGroups next ∧ ∃ new ∈ next,
      new.switchDomainPath = old.switchDomainPath ∧ new.name = old.name := by
  induction stays with
  | refl => exact ⟨run, old, listed, rfl, rfl⟩
  | tail _ step kept =>
    obtain ⟨middle, current, isCurrent, samePath, sameName⟩ := kept
    obtain ⟨after, names⟩ := middle.builds plain step.1
    obtain ⟨new, isNew, stayed⟩ := mem_map.1 step.2
    refine ⟨after, new, isNew, stayed, ?_⟩
    rw [names current isCurrent new isNew (stayed.trans samePath.symm), sameName]

end

/--
`assignNodeGroupNames` gives every group the name it should have, and in every
run of `BuildTopologyStatus` from no groups on the names are distinct and a
path keeps its name as long as it stays.
-/
theorem nodeGroup_names_stable_and_unique (isValidLabelValue : String → List String)
    (plain : PlainLabelValues isValidLabelValue) :
    (∀ groups previous : List TopologyNodeGroup, DistinctPaths groups → DistinctNames previous →
      previous.length + groups.length ≤ maxInt → NamesAssigned groups previous
          (assignNodeGroupNames groups previous)) ∧
    ∀ groups : List TopologyNodeGroup, Relation.ReflTransGen (Builds isValidLabelValue) [] groups →
        (groups.map (·.name)).Nodup ∧
        ∀ old ∈ groups, ∀ later : List TopologyNodeGroup, Relation.ReflTransGen
            (BuildsKeeping isValidLabelValue old.switchDomainPath) groups later →
          ∀ new ∈ later, new.switchDomainPath = old.switchDomainPath → new.name = old.name := by
  refine ⟨fun groups previous paths distinct room =>
    namesAssigned_assignNodeGroupNames paths distinct room,
    fun groups reached => ?_⟩
  have run := runGroups_of_reachable plain reached
  refine ⟨run.names, fun old listed later stays new isNew same => ?_⟩
  rcases run.name_kept plain listed stays with ⟨after, kept, isKept, samePath, sameName⟩
  rw [← sameName, inj_on_of_nodup_map after.distinct isNew isKept (same.trans samePath.symm)]

/-- A check of label values which finds NUL characters. -/
def findsNul (value : String) : List String := if '\x00' ∈ value.toList then ["NUL"] else []

lemma plainLabelValues_findsNul : PlainLabelValues findsNul := by
  intro value valid listed
  rw [findsNul, if_pos listed] at valid
  cases valid

/-- One group keeps its name, and a new one and a status from none. -/
theorem nodeGroup_names_two_groups :
    NamesAssigned [⟨"", ["n1"], ["rack1"]⟩, ⟨"", ["n2"], ["rack2"]⟩]
        [⟨"node-group1", ["n2"], ["rack2"]⟩]
        (assignNodeGroupNames [⟨"", ["n1"], ["rack1"]⟩, ⟨"", ["n2"], ["rack2"]⟩]
          [⟨"node-group1", ["n2"], ["rack2"]⟩]) ∧
      Builds findsNul [] [⟨"node-group1", ["n1"], ["rack1"]⟩] ∧
      ([⟨"node-group1", ["n1"], ["rack1"]⟩].map
        fun group : TopologyNodeGroup => group.name).Nodup := by
  have paths (path : String) (plain : '\x00' ∉ path.toList) : ValidPath [path] :=
    ⟨cons_ne_nil _ _, fun value listed => by
      rwa [mem_singleton.mp listed]⟩
  have builds : Builds findsNul [] [⟨"node-group1", ["n1"], ["rack1"]⟩] := by
    refine ⟨Runtime.canonical, some ⟨"tier", ""⟩,
      ⟨[⟨"n1", (∅ : Labels).insert "tier1" "rack1"⟩], []⟩,
      ⟨⟨[⟨"rack1", 1, "", []⟩], [⟨"node-group1", ["n1"], ["rack1"]⟩]⟩, []⟩,
      by decide, ?_, rfl⟩
    decide +kernel
  have both := nodeGroup_names_stable_and_unique findsNul plainLabelValues_findsNul
  refine ⟨both.1 _ _ ⟨?_, by decide⟩ ⟨⟨?_, by decide⟩, by decide, by decide⟩
    (by decide), builds, (both.2 _ (.single builds)).1⟩
  · simp only [forall_mem_cons, not_mem_nil, false_implies, implies_true, and_true]
    exact ⟨paths "rack1" (by decide), paths "rack2" (by decide)⟩
  · simp only [forall_mem_cons, not_mem_nil, false_implies, implies_true, and_true]
    exact paths "rack2" (by decide)

end Unifabric.TopologyStatus
