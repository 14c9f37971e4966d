import Unifabric.TopologyStatus.StatusForest

/-!
# The topologies of a Node

`matchingTopologies` of the FabricNode controller looks for label keys of the
templates, whatever their values are.  The status of a Topology counts a Node
by its labels with a value, so a Node with nothing but empty values is in the
topology for one controller and not for the other.
-/

namespace Unifabric.TopologyStatus

open Lib TopologyLabel V1beta1 GoMap Std.ExtTreeMap Option

def fixedTopologyNames : List String :=
  ["scaleout", "scaleup", "storage"]

/-- A label has a key of the template. -/
def hasTierKey (runtime : Runtime) (template : Option Template) (labels : Labels) : Bool :=
  (runtime.range ["matchingTopologies"] labels.keys).any fun key =>
    (template.bind (·.matchTier key)).isSome

def matchingTopologies (runtime : Runtime) (labels : Labels) (templates : Option TemplateSet) :
    List String :=
  match templates with
  | none => []
  | some set =>
    if labels.isEmpty then []
    else fixedTopologyNames.filter fun name => hasTierKey runtime (set.forTopology name) labels

/-- The Node is in a group of the status. -/
def InStatus (result : BuildResult) (name : String) : Prop :=
  ∃ group ∈ result.status.nodes, name ∈ group.nodes

/-- The labels have a key of the template. -/
def HasTierKey (template : Template) (labels : Labels) : Prop :=
  ∃ key ∈ labels, (template.matchTier key).isSome

/-- The labels have a key of the template with a value. -/
def HasTierValue (template : Template) (labels : Labels) : Prop :=
  ∃ tier value, TierLabel template labels tier value

variable {runtime : Runtime} {template : Template}

lemma mem_matchingTopologies (fixed : name ∈ fixedTopologyNames)
    (found : templates.forTopology name = some template) :
    name ∈ matchingTopologies runtime labels (some templates) ↔ HasTierKey template labels := by
  have keys : hasTierKey runtime (some template) labels = true ↔ HasTierKey template labels := by
    rw [hasTierKey, List.any_eq_true]
    simp only [MapOrder.mem_range, mem_keys_iff, ← mem_iff, bind_some]
    rfl
  rw [matchingTopologies]
  split_ifs with empty
  · refine iff_of_false List.not_mem_nil ?_
    rintro ⟨key, listed, _⟩
    rw [isEmpty_iff.1 empty] at listed
    exact not_mem_empty listed
  · rw [List.mem_filter, found, keys, and_iff_right fixed]

lemma mem_groupsOf_iff :
    (∃ group ∈ (groupsOf views).entries, name ∈ group.nodes) ↔ ∃ view ∈ views, view.1 = name := by
  constructor
  · rintro ⟨group, listed, isNode⟩
    obtain ⟨key, found⟩ := (mem_entries_iff _ _).1 listed
    rw [getElem?_groupsOf, map_eq_some_iff] at found
    obtain ⟨_, _, rfl⟩ := found
    obtain ⟨view, isView, isName⟩ := List.mem_map.1 isNode
    exact ⟨view, (List.mem_filter.1 isView).1, isName⟩
  · rintro ⟨view, listed, rfl⟩
    have isView : view ∈ viewsAt (nodeGroupKey (viewPath view).reverse) views :=
      List.mem_filter.2 ⟨listed, decide_eq_true rfl⟩
    have found := getElem?_groupsOf views (nodeGroupKey (viewPath view).reverse)
    cases first : viewsAt (nodeGroupKey (viewPath view).reverse) views with
    | nil =>
      rw [first] at isView
      cases isView
    | cons other rest =>
      rw [List.head?_eq_some_iff.2 ⟨rest, first⟩, map_some] at found
      exact ⟨_, (mem_entries_iff _ _).2 ⟨_, found⟩, List.mem_map_of_mem isView⟩

/-- A Node is in the status exactly if a Node of its name has a value. -/
lemma inStatus_iff (built : buildTopologyStatus runtime check (some template) snapshot previous =
      .ok result) (name : String) : InStatus result name ↔
      ∃ node ∈ snapshot.nodes, node.name = name ∧ HasTierValue template node.labels := by
  have decides := buildTopologyStatus_decides check template runtime snapshot previous
    rfl rfl
  obtain ⟨domains, _, isStatus⟩ := (eq_ok_of_decides decides built).2.status
  have groups := finishStatus_unnamed ((sortByName runtime snapshot.nodes).filterMap
    (nodeView template)) runtime domains previous
  have unnamedNodes : ∀ group : TopologyNodeGroup, (unnamed group).nodes = group.nodes :=
    fun _ => rfl
  have inGroups : InStatus result name ↔ ∃ group ∈ (groupsOf ((sortByName runtime
      snapshot.nodes).filterMap (nodeView template))).entries, name ∈ group.nodes := by
    rw [InStatus, isStatus]
    constructor
    · rintro ⟨group, listed, isNode⟩
      rcases List.mem_map.1 (groups.subset (List.mem_map_of_mem listed)) with
        ⟨source, isSource, same⟩
      refine ⟨source, isSource, ?_⟩
      rw [← unnamedNodes group, ← same] at isNode
      exact (mem_sortValues _ _).1 isNode
    · rintro ⟨source, isSource, isNode⟩
      rcases List.mem_map.1 (groups.symm.subset (List.mem_map_of_mem isSource)) with
        ⟨group, listed, same⟩
      refine ⟨group, listed, ?_⟩
      rw [← unnamedNodes group, same]
      exact (mem_sortValues _ _).2 isNode
  rw [inGroups, mem_groupsOf_iff]
  constructor
  · rintro ⟨view, listed, isName⟩
    rcases (nodeViews_sortByName runtime template snapshot view).1 listed with
      ⟨node, isNode, viewed⟩
    obtain ⟨valued, rfl⟩ := nodeView_eq_some_iff.1 viewed
    exact ⟨node, isNode, isName, valued⟩
  · rintro ⟨node, isNode, isName, valued⟩
    exact ⟨_, (nodeViews_sortByName runtime template snapshot _).2
      ⟨node, isNode, nodeView_eq_some_iff.2 ⟨valued, rfl⟩⟩, isName⟩

/--
The two controllers agree about a Node exactly if it has a key of the template
just in case a Node of its name has one with a value.
-/
theorem membership_agrees_iff_values (runtime : Runtime)
    (isValidLabelValue : String → List String) (templates : TemplateSet) (topologyName : String)
    (template : Template) (fixed : topologyName ∈ fixedTopologyNames)
    (found : templates.forTopology topologyName = some template) (snapshot : LabelSnapshot)
    (previous : List TopologyNodeGroup) (result : BuildResult)
    (built : buildTopologyStatus runtime isValidLabelValue (templates.forTopology topologyName)
      snapshot previous = .ok result) (node : LabeledResource) :
    (topologyName ∈ matchingTopologies runtime node.labels (some templates) ↔
      InStatus result node.name) ↔
    ((HasTierKey template node.labels → ∃ other ∈ snapshot.nodes, other.name = node.name ∧
        HasTierValue template other.labels) ∧
      ∀ other ∈ snapshot.nodes, other.name = node.name → HasTierValue template other.labels →
        HasTierKey template node.labels) := by
  rw [found] at built
  rw [mem_matchingTopologies fixed found, inStatus_iff built]
  constructor
  · rintro ⟨forward, backward⟩
    exact ⟨forward, fun other isOther sameName hasValue =>
      backward ⟨other, isOther, sameName, hasValue⟩⟩
  · rintro ⟨forward, backward⟩
    refine ⟨forward, ?_⟩
    rintro ⟨other, isOther, sameName, hasValue⟩
    exact backward other isOther sameName hasValue

/-- A Node with a value is a member for both. -/
theorem membership_agrees_iff_values_one_rack :
    let labels := (∅ : Labels).insert "out-1" "rack1"
    let templates : TemplateSet := ⟨⟨"up-", ""⟩, ⟨"out-", ""⟩, ⟨"storage-", ""⟩⟩
    ∃ result, buildTopologyStatus .canonical findsNul (some ⟨"out-", ""⟩) ⟨[⟨"n1", labels⟩], []⟩
        [] = .ok result ∧
      ("scaleout" ∈ matchingTopologies .canonical labels (some templates) ↔
        InStatus result "n1") := by
  intro labels templates
  obtain ⟨result, built⟩ : ∃ result, buildTopologyStatus .canonical findsNul
      (some ⟨"out-", ""⟩) ⟨[⟨"n1", labels⟩], []⟩ [] = .ok result := by
    decide +kernel
  have valued : HasTierValue ⟨"out-", ""⟩ labels :=
    ⟨1, "rack1", "out-1", by decide +kernel, by simp [labels], by decide⟩
  refine ⟨result, built, (membership_agrees_iff_values .canonical findsNul templates "scaleout"
    ⟨"out-", ""⟩ (by decide) rfl ⟨[⟨"n1", labels⟩], []⟩ [] result built
    ⟨"n1", labels⟩).mpr ⟨?_, ?_⟩⟩
  · exact fun _ => ⟨_, List.mem_cons_self, rfl, valued⟩
  · exact fun _ _ _ _ => ⟨"out-1", by simp [labels], by decide +kernel⟩

/-- A Node whose only topology label is empty. -/
theorem empty_value_is_member_of_topology_only :
    "scaleout" ∈ matchingTopologies .canonical ((∅ : Labels).insert "out-1" "")
        (some ⟨⟨"up-", ""⟩, ⟨"out-", ""⟩, ⟨"storage-", ""⟩⟩) ∧
      (buildTopologyStatus .canonical findsNul (some ⟨"out-", ""⟩)
        ⟨[⟨"n1", (∅ : Labels).insert "out-1" ""⟩], []⟩ []).map (·.status.nodes) = .ok [] := by
  constructor
  · decide +kernel
  · decide +kernel

end Unifabric.TopologyStatus
