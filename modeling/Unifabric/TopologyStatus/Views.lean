import Unifabric.TopologyStatus.DomainsSpec

/-!
# What the status reads

Of a Node the status reads its name and the values of its tiers, of a Switch
its name and its domain.  Objects without labels are skipped.  Both loops are
loops over these views in name order, and the runtime has no choice in them.
-/

namespace Unifabric.TopologyStatus

open Lib TopologyLabel V1beta1 List

/-! ## Views -/

/-- The values of the tiers which the labels match. -/
def tierValues (template : Template) (labels : Labels) : GoMap Int String :=
  match labelsByTier Runtime.canonical [] template labels with
  | .ok values => values
  | .error _ => ∅

/-- The name and the tiers of a Node which has any. -/
def nodeView (template : Template) (node : LabeledResource) : Option (String × GoMap Int String) :=
  if (tierValues template node.labels).isEmpty then none
  else some (node.name, tierValues template node.labels)

/-- The name and the domain of a Switch which has one. -/
def switchView (switch : LabeledResource) : Option (String × String) :=
  if switch.labels.getD topologyDomainLabel "" = "" then none
  else some (switch.name, switch.labels.getD topologyDomainLabel "")

/-- Add the tiers of a Node. -/
def addTiers (isValidLabelValue : String → List String) (state : BuildState)
    (view : String × GoMap Int String) : Except BuildError BuildState := do
  let ensured ← view.2.keys.zipIdx.foldlM (checkTier isValidLabelValue view.1 view.2) state.domains
  let linked ← (List.range' 1 (view.2.keys.length - 1)).foldlM
    (addParent Runtime.canonical view.1 view.2) ensured
  .ok
    { domains := linked
      nodeGroups := addToGroup state.nodeGroups ((List.range' 1 view.2.keys.length).reverse.map
          fun tier : Nat => view.2.getD (tier : Int) "") view.1 }

/-- Add a Switch to its domain. -/
def addMember (isValidLabelValue : String → List String)
    (state : SwitchState) (view : String × String) :
    Except BuildError SwitchState :=
  match validateDomainName isValidLabelValue view.2 with
  | .error reason => .error (.switchDomainName view.1 reason)
  | .ok () =>
    match state.domains[view.2]? with
    | none =>
      .ok { state with pending := state.pending ++ [pendingText view.1 view.2] }
    | some domain =>
      .ok { state with
        domains := state.domains.insert view.2
          { domain with
            members := domain.members.insert view.1 () } }

/-! ## The loops read views -/

section

variable {check : String → List String} {template : Template}

section

variable (runtime : Runtime)

lemma labelsByTier_eq (site : List String) (template : Template) (labels : Labels) :
    labelsByTier runtime site template labels = .ok (tierValues template labels) := by
  obtain ⟨values, found, spec⟩ := labelsByTier_spec runtime site template labels
  obtain ⟨values', found', spec'⟩ := labelsByTier_spec Runtime.canonical [] template labels
  have same : values = values' := by
    refine Std.ExtTreeMap.ext_getElem? fun tier => Option.ext fun value => ?_
    rw [spec, spec']
  rw [found, tierValues, found', same]

lemma getElem?_tierValues {labels : Labels} {tier : Int} {value : String} :
    (tierValues template labels)[tier]? = some value ↔ TierLabel template labels tier value := by
  obtain ⟨values, found, spec⟩ := labelsByTier_spec Runtime.canonical [] template labels
  rw [tierValues, found]
  exact spec tier value

lemma sortedSet_eq (site : List String)
    (values : NameSet) : sortedSet runtime site values = values.keys :=
  runtime.sort_range_keys _ values

lemma addParent_eq (nodeName : String) (values : GoMap Int String) :
    addParent runtime nodeName values = addParent Runtime.canonical nodeName values := by
  funext domains tier
  simp only [addParent, sortedSet_eq]

lemma addNode_eq (state : BuildState) (node : LabeledResource) :
    addNode check runtime template state node = match nodeView template node with
      | some view => addTiers check state view
      | none => pure state := by
  unfold addNode nodeView
  rw [labelsByTier_eq]
  dsimp only
  have tiers : sortedTiers runtime ["sortedTiers", node.name] (tierValues template node.labels) =
        (tierValues template node.labels).keys :=
    runtime.sort_range_keys _ _
  by_cases empty : (tierValues template node.labels).isEmpty = true
  · rw [if_pos empty, if_pos empty]
    rfl
  · rw [if_neg empty, if_neg empty, tiers, addParent_eq]
    rfl

lemma addSwitch_eq (state : SwitchState) (switch : LabeledResource) : addSwitch check state switch =
      match switchView switch with
      | some view => addMember check state view
      | none => pure state := by
  unfold addSwitch switchView
  by_cases empty : switch.labels.getD topologyDomainLabel "" = ""
  · rw [if_pos empty, if_pos empty]
    rfl
  · rw [if_neg empty, if_neg empty]
    rfl

lemma foldlM_addNode (nodes : List LabeledResource) (start : BuildState) :
    nodes.foldlM (addNode check runtime template) start =
      (nodes.filterMap (nodeView template)).foldlM (addTiers check) start := by
  rw [foldlM_filterMap]
  refine foldlM_congr (fun node _ state => ?_) start
  rw [addNode_eq]
  cases nodeView template node <;> rfl

end

lemma foldlM_addSwitch (switches : List LabeledResource) (start : SwitchState) :
    switches.foldlM (addSwitch check) start =
      (switches.filterMap switchView).foldlM (addMember check) start := by
  rw [foldlM_filterMap]
  refine foldlM_congr (fun switch _ state => ?_) start
  rw [addSwitch_eq]
  cases switchView switch <;> rfl

end

/-! ## Views in name order -/

section

variable {β : Type} {view : LabeledResource → Option (String × β)}

lemma filterMap_sortByName_eq (runtime runtime' : Runtime)
    (named : ∀ resource value, view resource = some value → value.1 = resource.name)
    {left right : List LabeledResource} (same : (left.filterMap view).Perm (right.filterMap view))
    (distinct : ((left.filterMap view).map Prod.fst).Nodup) :
    (sortByName runtime left).filterMap view = (sortByName runtime' right).filterMap view := by
  have sorted (runtime : Runtime) (resources : List LabeledResource) :
      ((sortByName runtime resources).filterMap view).Pairwise
        fun here there => here.1 ≤ there.1 := by
    have order := runtime.sortSlice_sorted _ resources (strictWeakOrder_of_key LabeledResource.name)
    refine List.Pairwise.filterMap view ?_ order
    intro first second later value isValue value' isValue'
    rw [named first value isValue, named second value' isValue']
    rw [decide_eq_false_iff_not, not_lt] at later
    exact later
  have perm (runtime : Runtime) (resources : List LabeledResource) :
      ((sortByName runtime resources).filterMap view).Perm (resources.filterMap view) :=
    (runtime.sortSlice_perm _ resources).filterMap view
  refine List.Perm.eq_of_pairwise ?_ (sorted runtime left) (sorted runtime' right)
    ((perm runtime left).trans (same.trans (perm runtime' right).symm))
  intro here there isHere isThere below above
  refine inj_on_of_nodup_map distinct ((perm runtime left).mem_iff.1 isHere)
    (same.mem_iff.2 ((perm runtime' right).mem_iff.1 isThere))
    (le_antisymm below above)

end

end Unifabric.TopologyStatus
