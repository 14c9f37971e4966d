import Unifabric.TopologyLabel.Compile
import Unifabric.TopologyStatus.StatusOrder

/-!
# Which events reach the status

The controller ignores events about Nodes and Switches which leave the labels
of all templates, the domain label and the role of the Switch as they are.
Such an event changes no view of a snapshot, so the status of every Topology
stays the same.
-/

namespace Unifabric.TopologyStatus

open Lib TopologyLabel V1beta1 GoMap List

/-! ## The predicate -/

/-- An object the controller watches. -/
inductive WatchedObject where
  | node (node : Node)
  | switch (switch : Switch)

def WatchedObject.getLabels : WatchedObject → Labels
  | .node object => object.labels
  | .switch object => object.labels

/-- An event about a watched object; `none` is nil. -/
inductive WatchEvent where
  | create (object : Option WatchedObject)
  | delete (object : Option WatchedObject)
  | update (objectOld objectNew : Option WatchedObject)
  | generic (object : Option WatchedObject)

def isTopologyDomainLabel (label : String) : Bool := label = topologyDomainLabel

/-- The key has the form of a template, or is the label of a domain. -/
def isTopologyKey (templates : TemplateSet) (key : String) : Bool :=
  isTopologyDomainLabel key || templates.all.any fun labelTemplate =>
      (labelTemplate.matchTier key).isSome

def effectiveTopologySwitchRole (switch : Switch) : SwitchRole := switch.role.getD .scaleOut

section

variable (runtime : Runtime) (templates : Option TemplateSet)

def filteredTopologyLabels (object : Option WatchedObject) : Labels :=
  match object, templates with
  | some object, some templates =>
    (runtime.range ["filteredTopologyLabels"] object.getLabels.toList).foldl (fun result entry =>
          if isTopologyKey templates entry.1 then
            result.insert entry.1 entry.2
          else result) ∅
  | _, _ => ∅

def hasTopologyLabels (object : Option WatchedObject) : Bool :=
  (filteredTopologyLabels runtime templates object).size ≠ 0

def topologyLabelPredicate : WatchEvent → Bool
  | .create object => hasTopologyLabels runtime templates object
  | .delete object => hasTopologyLabels runtime templates object
  | .update objectOld objectNew =>
    let labelsDiffer := decide (filteredTopologyLabels runtime templates objectOld ≠
        filteredTopologyLabels runtime templates objectNew)
    match objectOld, objectNew with
    | some (.switch oldSwitch), some (.switch newSwitch) =>
      if effectiveTopologySwitchRole oldSwitch ≠ effectiveTopologySwitchRole newSwitch then true
      else labelsDiffer
    | _, _ => labelsDiffer
  | .generic object => hasTopologyLabels runtime templates object

end

/-! ## Snapshots -/

/-- The Nodes and the Switches of a cluster, each with its own name. -/
structure WatchedCluster where
  nodes : List Node
  switches : List Switch
  nodeNames : (nodes.map (·.name)).Nodup
  switchNames : (switches.map (·.name)).Nodup

def switchBelongsToTopology (switch : Switch) (topologyName : String) : Bool :=
  match topologyName with
  | "scaleout" => effectiveTopologySwitchRole switch = .scaleOut
  | "scaleup" => effectiveTopologySwitchRole switch = .scaleUp
  | "storage" => effectiveTopologySwitchRole switch = .storage
  | _ => false

/-- The snapshot which `Reconcile` takes for a Topology. -/
def WatchedCluster.snapshot (cluster : WatchedCluster) (topologyName : String) : LabelSnapshot where
  nodes := cluster.nodes.map fun node => ⟨node.name, node.labels⟩
  switches :=
    (cluster.switches.filter fun switch => switchBelongsToTopology switch topologyName).map
        fun switch => ⟨switch.name, switch.labels⟩

/-- The event is about the change from one cluster to another. -/
inductive EventChanges : WatchEvent → WatchedCluster → WatchedCluster → Prop
  | createNode {node : Node} {before after : WatchedCluster}
      (nodes : after.nodes.Perm (node :: before.nodes))
      (switches : after.switches.Perm before.switches) :
      EventChanges (.create (some (.node node))) before after
  | createSwitch {switch : Switch} {before after : WatchedCluster}
      (nodes : after.nodes.Perm before.nodes)
      (switches : after.switches.Perm (switch :: before.switches)) :
      EventChanges (.create (some (.switch switch))) before after
  | deleteNode {node : Node} {before after : WatchedCluster}
      (nodes : before.nodes.Perm (node :: after.nodes))
      (switches : before.switches.Perm after.switches) :
      EventChanges (.delete (some (.node node))) before after
  | deleteSwitch {switch : Switch} {before after : WatchedCluster}
      (nodes : before.nodes.Perm after.nodes)
      (switches : before.switches.Perm (switch :: after.switches)) :
      EventChanges (.delete (some (.switch switch))) before after
  | updateNode {old new : Node} {others : List Node}
      {before after : WatchedCluster} (name : old.name = new.name)
      (oldNodes : before.nodes.Perm (old :: others))
      (newNodes : after.nodes.Perm (new :: others))
      (switches : before.switches.Perm after.switches) :
      EventChanges (.update (some (.node old)) (some (.node new))) before after
  | updateSwitch {old new : Switch} {others : List Switch}
      {before after : WatchedCluster} (name : old.name = new.name)
      (nodes : before.nodes.Perm after.nodes)
      (oldSwitches : before.switches.Perm (old :: others))
      (newSwitches : after.switches.Perm (new :: others)) :
      EventChanges (.update (some (.switch old)) (some (.switch new))) before after

/-! ## Filtered labels -/

section

variable {runtime : Runtime} {templates : TemplateSet}

/-- The filter keeps the labels with the keys of the templates. -/
lemma getElem?_filteredTopologyLabels :
    (filteredTopologyLabels runtime (some templates) (some object))[key]? = some value ↔
      isTopologyKey templates key = true ∧ object.getLabels[key]? = some value := by
  unfold filteredTopologyLabels
  dsimp only
  rw [← foldl_filter, getElem?_foldl_insert_eq_some_iff]
  · simp only [mem_filter, MapOrder.mem_range,
      Std.ExtTreeMap.mem_toList_iff_getElem?_eq_some, Prod.exists]
    constructor
    · rintro ⟨other, text, ⟨found, isKey⟩, rfl, rfl⟩
      exact ⟨isKey, found⟩
    · rintro ⟨isKey, found⟩
      exact ⟨key, value, ⟨found, isKey⟩, rfl, rfl⟩
  · rintro ⟨key, left⟩ isLeft ⟨other, right⟩ isRight rfl
    simp only [mem_filter, MapOrder.mem_range,
      Std.ExtTreeMap.mem_toList_iff_getElem?_eq_some] at isLeft isRight
    exact Option.some_inj.1 (isLeft.1.symm.trans isRight.1)

/-- Objects with the same filtered labels agree on the keys of templates. -/
lemma labels_eq_of_filtered (same : filteredTopologyLabels runtime (some templates) (some old) =
      filteredTopologyLabels runtime (some templates) (some new))
    (isKey : isTopologyKey templates key = true) : old.getLabels[key]? = new.getLabels[key]? := by
  refine Option.ext fun value => ?_
  have found (object : WatchedObject) : object.getLabels[key]? = some value ↔
        (filteredTopologyLabels runtime (some templates) (some object))[key]? = some value := by
    rw [getElem?_filteredTopologyLabels, and_iff_right isKey]
  rw [found, found, same]

/-- An object without filtered labels has none with a key of a template. -/
lemma labels_eq_none_of_filtered
    (rejected : hasTopologyLabels runtime (some templates) (some object) = false)
    (isKey : isTopologyKey templates key = true) : object.getLabels[key]? = none := by
  have empty : (filteredTopologyLabels runtime (some templates) (some object)).size = 0 := by
    simpa [hasTopologyLabels] using rejected
  refine Option.eq_none_iff_forall_ne_some.2 fun value found => ?_
  have kept : (filteredTopologyLabels runtime (some templates) (some object))[key]? = some value :=
    getElem?_filteredTopologyLabels.2 ⟨isKey, found⟩
  have listed := (mem_keys_iff _ _).2 ⟨value, kept⟩
  have positive := length_pos_of_mem listed
  rw [Std.ExtTreeMap.length_keys, empty] at positive
  exact absurd positive (lt_irrefl 0)

lemma isTopologyKey_domain : isTopologyKey templates topologyDomainLabel = true := by
  simp [isTopologyKey, isTopologyDomainLabel]

lemma isTopologyKey_of_matchTier (listed : template ∈ templates.all)
    (matched : template.matchTier key = some tier) : isTopologyKey templates key = true := by
  rw [isTopologyKey, Bool.or_eq_true, any_eq_true]
  exact .inr ⟨template, listed, by rw [matched]; rfl⟩

end

/-! ## Views of one object -/

section

variable {template : Template}

lemma nodeView_eq_of_labels (name : old.name = new.name)
    (same : ∀ key tier, template.matchTier key = some tier → old.labels[key]? = new.labels[key]?) :
    nodeView template old = nodeView template new := by
  have tiers : tierValues template old.labels = tierValues template new.labels := by
    refine Std.ExtTreeMap.ext_getElem? fun tier => Option.ext fun value => ?_
    rw [getElem?_tierValues, getElem?_tierValues]
    refine exists_congr fun key => and_congr_right fun matched => ?_
    rw [same key tier matched]
  rw [nodeView, nodeView, tiers, name]

lemma nodeView_eq_none_of_labels
    (unlabelled : ∀ key tier, template.matchTier key = some tier → node.labels[key]? = none) :
    nodeView template node = none := by
  have empty : tierValues template node.labels = ∅ := by
    refine Std.ExtTreeMap.ext_getElem? fun tier => Option.ext fun value => ?_
    rw [getElem?_tierValues, Std.ExtTreeMap.getElem?_empty]
    constructor
    · rintro ⟨key, matched, found, _⟩
      rw [unlabelled key tier matched] at found
      cases found
    · intro found
      cases found
  rw [nodeView, empty, if_pos Std.ExtTreeMap.isEmpty_empty]

/-- The view of a Switch for a Topology. -/
def switchViewFor (topologyName : String) (switch : Switch) : Option (String × String) :=
  if switchBelongsToTopology switch topologyName then
    switchView ⟨switch.name, switch.labels⟩
  else none

lemma switchViewFor_eq_of_label (name : old.name = new.name)
    (role : effectiveTopologySwitchRole old = effectiveTopologySwitchRole new)
    (same : old.labels[topologyDomainLabel]? = new.labels[topologyDomainLabel]?)
    (topologyName : String) : switchViewFor topologyName old = switchViewFor topologyName new := by
  have belongs : switchBelongsToTopology old topologyName =
      switchBelongsToTopology new topologyName := by
    unfold switchBelongsToTopology
    rw [role]
  rw [switchViewFor, switchViewFor, belongs, switchView, switchView, getD_eq, getD_eq, same, name]

lemma switchViewFor_eq_none_of_label (unlabelled : switch.labels[topologyDomainLabel]? = none)
    (topologyName : String) : switchViewFor topologyName switch = none := by
  rw [switchViewFor, switchView, getD_eq, unlabelled]
  simp

end

/-! ## Views of a snapshot -/

section

variable {α β : Type} {view : α → Option β} {left right others : List α} {old new : α}

lemma filterMap_perm_of_cons (same : left.Perm (old :: right)) (unseen : view old = none) :
    (left.filterMap view).Perm (right.filterMap view) := by
  have views := same.filterMap view
  rwa [filterMap_cons_none unseen] at views

/-- Replacing an object by one with the same view does not change them. -/
lemma filterMap_perm_of_replace (before : left.Perm (old :: others))
    (after : right.Perm (new :: others)) (same : view old = view new) :
    (left.filterMap view).Perm (right.filterMap view) := by
  have views : (old :: others).filterMap view = (new :: others).filterMap view := by
    rw [filterMap_cons, filterMap_cons, same]
  exact (before.filterMap view).trans (views ▸ (after.filterMap view).symm)

lemma snapshot_nodeViews (cluster : WatchedCluster) (template : Template) (topologyName : String) :
    (cluster.snapshot topologyName).nodes.filterMap (nodeView template) = cluster.nodes.filterMap
        fun node => nodeView template ⟨node.name, node.labels⟩ :=
  filterMap_map

lemma snapshot_switchViews (cluster : WatchedCluster) (topologyName : String) :
    (cluster.snapshot topologyName).switches.filterMap switchView =
      cluster.switches.filterMap (switchViewFor topologyName) := by
  unfold WatchedCluster.snapshot
  rw [filterMap_map, filterMap_filter]
  rfl

end

/-! ## Rejected events -/

section

variable {check : String → List String} {runtime : Runtime}
  {templates : TemplateSet} {template : Template} {event : WatchEvent}
  {before after : WatchedCluster}

lemma EventChanges.views_perm (changed : EventChanges event before after)
    (rejected : topologyLabelPredicate runtime (some templates) event = false)
    (listed : template ∈ templates.all) (topologyName : String) :
    ((before.snapshot topologyName).nodes.filterMap (nodeView template)).Perm
      ((after.snapshot topologyName).nodes.filterMap (nodeView template)) ∧
    ((before.snapshot topologyName).switches.filterMap switchView).Perm
      ((after.snapshot topologyName).switches.filterMap switchView) := by
  rw [snapshot_nodeViews, snapshot_nodeViews, snapshot_switchViews, snapshot_switchViews]
  have unseenNode {node : Node} (none : hasTopologyLabels runtime (some templates)
        (some (.node node)) = false) :
      nodeView template ⟨node.name, node.labels⟩ = .none :=
    nodeView_eq_none_of_labels fun key tier matched =>
      labels_eq_none_of_filtered none (isTopologyKey_of_matchTier listed matched)
  have unseenSwitch {switch : Switch} (none : hasTopologyLabels runtime (some templates)
        (some (.switch switch)) = false) :
      switchViewFor topologyName switch = .none :=
    switchViewFor_eq_none_of_label
      (labels_eq_none_of_filtered none isTopologyKey_domain) topologyName
  cases changed with
  | createNode nodes switches =>
    exact ⟨(filterMap_perm_of_cons nodes (unseenNode rejected)).symm, (switches.filterMap _).symm⟩
  | createSwitch nodes switches =>
    exact ⟨(nodes.filterMap _).symm, (filterMap_perm_of_cons switches (unseenSwitch rejected)).symm⟩
  | deleteNode nodes switches =>
    exact ⟨filterMap_perm_of_cons nodes (unseenNode rejected), switches.filterMap _⟩
  | deleteSwitch nodes switches =>
    exact ⟨nodes.filterMap _, filterMap_perm_of_cons switches (unseenSwitch rejected)⟩
  | updateNode name oldNodes newNodes switches =>
    have same := not_not.1 (of_decide_eq_false rejected)
    refine ⟨filterMap_perm_of_replace oldNodes newNodes ?_, switches.filterMap _⟩
    exact nodeView_eq_of_labels name fun key tier matched =>
      labels_eq_of_filtered same (isTopologyKey_of_matchTier listed matched)
  | updateSwitch name nodes oldSwitches newSwitches =>
    unfold topologyLabelPredicate at rejected
    dsimp only at rejected
    split_ifs at rejected with role
    have same := not_not.1 (of_decide_eq_false rejected)
    refine ⟨nodes.filterMap _, filterMap_perm_of_replace oldSwitches newSwitches ?_⟩
    exact switchViewFor_eq_of_label name (not_not.1 role)
      (labels_eq_of_filtered same isTopologyKey_domain) topologyName

/--
An event which the predicate rejects leaves the result of
`BuildTopologyStatus` as it is, for every Topology, with every runtime before
and after the event.
-/
theorem rejected_event_keeps_status (plain : PlainLabelValues isValidLabelValue)
    {templates : Option TemplateSet} (changed : EventChanges event before after)
    (rejected : topologyLabelPredicate runtime templates event = false)
    (topologyName : String) (previous : List TopologyNodeGroup) (earlier later : Runtime) :
    buildTopologyStatus earlier isValidLabelValue (templates.bind (·.forTopology topologyName))
        (before.snapshot topologyName) previous =
      buildTopologyStatus later isValidLabelValue (templates.bind (·.forTopology topologyName))
        (after.snapshot topologyName) previous := by
  cases found : templates.bind (·.forTopology topologyName) with
  | none => rfl
  | some template =>
    rcases Option.bind_eq_some_iff.mp found with ⟨compiled, rfl, isTemplate⟩
    rcases changed.views_perm rejected
      (TemplateSet.mem_all_of_forTopology isTemplate) topologyName with
      ⟨nodes, switches⟩
    refine buildTopologyStatus_congr plain earlier later ?_ ?_ nodes switches previous
    · rw [WatchedCluster.snapshot, map_map]
      exact before.nodeNames
    · rw [WatchedCluster.snapshot, map_map]
      exact before.switchNames.sublist (filter_sublist.map _)

end

/-- A new Node without labels next to a labelled one. -/
theorem unlabelled_node_keeps_status :
    let templates : TemplateSet := ⟨⟨"up-", ""⟩, ⟨"out-", ""⟩, ⟨"storage-", ""⟩⟩
    let labelled : Node := ⟨"n1", (∅ : Labels).insert "out-1" "rack1"⟩
    compileSet plainLibrary .canonical (withTier "up-") (withTier "out-") (withTier "storage-") =
        .ok templates ∧
      topologyLabelPredicate .canonical (some templates)
          (.create (some (.node ⟨"n2", ∅⟩))) = false ∧
      buildTopologyStatus .canonical findsNul (some ⟨"out-", ""⟩) ⟨[⟨"n1", labelled.labels⟩], []⟩
          [] = buildTopologyStatus .canonical findsNul (some ⟨"out-", ""⟩)
          ⟨[⟨"n2", ∅⟩, ⟨"n1", labelled.labels⟩], []⟩ [] := by
  intro templates labelled
  have rejected : topologyLabelPredicate .canonical (some templates)
      (.create (some (.node ⟨"n2", ∅⟩))) = false := by
    decide +kernel
  refine ⟨by decide +kernel, rejected, ?_⟩
  have created : EventChanges (.create (some (.node ⟨"n2", ∅⟩)))
      ⟨[labelled], [], by decide, by decide⟩ ⟨[⟨"n2", ∅⟩, labelled], [], by decide, by decide⟩ :=
    .createNode (.refl _) (.refl _)
  exact rejected_event_keeps_status plainLabelValues_findsNul created
    rejected "scaleout" [] .canonical .canonical

end Unifabric.TopologyStatus
