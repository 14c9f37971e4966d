import Unifabric.SwitchTopology.PlanSound

/-!
# Applying a plan

`reconcileLabelMap` fills the missing labels of an object and refuses to
replace a label with another value.  Every label of a plan was missing when
the plan was made, so a patch of an unchanged object succeeds and leaves it
with the labels of the plan.
-/

namespace Unifabric.SwitchTopology

open Lib V1beta1 TopologyLabel GoMap List

variable {labels desired existing : Labels} {key value : String}

/-! ## Labels of one object -/

/-- A label with another value than the desired one. -/
structure LockedLabel where
  key : String
  current : String
  value : String
  deriving DecidableEq, Repr

/-- The text of the error. -/
def LockedLabel.message (failure : LockedLabel) : String :=
  "label " ++ failure.key.quote ++ " is locked to " ++
    failure.current.quote ++ ", refusing to replace it with " ++
    failure.value.quote

/-- Remove labels, and report whether there were any. -/
def removeLabels (runtime : Runtime) (removeLabel : String → Bool)
    (labels : Labels) : Labels × Bool :=
  (runtime.range ["reconcileLabelMap", "result"] labels.keys).foldl (fun state key =>
      if removeLabel key then (state.1.erase key, true) else state)
    (labels, false)

/-- Fill one label. -/
def fillLabel (desired : Labels) (state : Labels × Bool) (key : String) :
    Except LockedLabel (Labels × Bool) :=
  let value := desired.getD key ""
  let current := state.1.getD key ""
  if current ≠ "" then
    if current ≠ value then .error ⟨key, current, value⟩ else .ok state
  else .ok (state.1.insert key value, true)

/-- `reconcileLabelMap`: the labels, and whether they changed. -/
def reconcileLabelMap (runtime : Runtime) (existing desired : Labels)
    (removeLabel : Option (String → Bool)) : Except LockedLabel (Labels × Bool) :=
  let kept :=
    match removeLabel with
    | none => (existing, false)
    | some remove => removeLabels runtime remove existing
  (runtime.range ["reconcileLabelMap", "desired"] desired.keys).foldlM (fillLabel desired) kept

section

variable {runtime : Runtime}

lemma getElem?_removeLabels (remove : String → Bool) (labels : Labels) (key : String) :
    (removeLabels runtime remove labels).1[key]? = if remove key then none else labels[key]? := by
  have visited := foldl_prefix_induction (fun (state : Labels × Bool) key =>
      if remove key then (state.1.erase key, true) else state)
    (runtime.range ["reconcileLabelMap", "result"] labels.keys)
    (labels, false)
    (fun done state => state.1[key]? =
      if key ∈ done ∧ remove key then none else labels[key]?)
    (by simp)
    (by
      intro done value rest state _ reached
      by_cases removed : remove value
      · rw [if_pos removed, GoMap.getElem?_erase, reached]
        by_cases same : value = key
        · subst same
          simp [removed]
        · simp [same, Ne.symm same]
      · rw [if_neg removed, reached]
        by_cases same : value = key
        · subst same
          simp [removed]
        · simp [Ne.symm same])
  unfold removeLabels
  rw [visited]
  by_cases listed : key ∈ labels
  · simp [MapOrder.mem_range, listed]
  · rw [← GoMap.getElem?_eq_none_iff] at listed
    simp [listed]

lemma removeLabels_of_unchanged (unchanged : (removeLabels runtime remove labels).2 = false) :
    (removeLabels runtime remove labels).1 = labels := by
  have visited := foldl_prefix_induction (fun (state : Labels × Bool) key =>
      if remove key then (state.1.erase key, true) else state)
    (runtime.range ["reconcileLabelMap", "result"] labels.keys)
    (labels, false)
    (fun _ state => state.2 = false → state.1 = labels)
    (fun _ => rfl)
    (by
      intro done value rest state _ reached quiet
      split_ifs at quiet ⊢
      exact reached quiet)
  exact visited unchanged

lemma reconcileLabelMap_remove (remove : String → Bool) (existing : Labels) :
    reconcileLabelMap runtime existing ∅ (some remove) =
      .ok (removeLabels runtime remove existing) := by
  have nothing : runtime.range ["reconcileLabelMap", "desired"] (∅ : Labels).keys = [] := by
    refine eq_nil_iff_forall_not_mem.2 fun other listed => ?_
    rw [MapOrder.mem_range, Std.ExtTreeMap.mem_keys] at listed
    exact Std.ExtTreeMap.not_mem_empty listed
  unfold reconcileLabelMap
  rw [nothing]
  rfl

/-- A label which can be filled is missing, empty or as desired. -/
def Fillable (kept desired : Labels) : Prop :=
  ∀ key value, desired[key]? = some value → kept.getD key "" = "" ∨ kept[key]? = some value

lemma getD_of_getElem? (found : labels[key]? = some value) : labels.getD key "" = value := by
  rw [getD_eq, found, Option.getD_some]

lemma fillLabel_eq_ok {state next : Labels × Bool} (isDesired : desired[key]? = some value)
    (filled : fillLabel desired state key = .ok next) :
    (state.1.getD key "" = "" ∨ state.1[key]? = some value) ∧ ∀ other, next.1[other]? =
        if key = other then some value else state.1[other]? := by
  unfold fillLabel at filled
  rw [getD_of_getElem? isDesired] at filled
  dsimp only at filled
  split_ifs at filled with nonempty same
  · rw [not_not] at same
    cases filled
    have found : state.1[key]? = some value := by
      rw [getD_eq] at same nonempty
      cases current : state.1[key]? with
      | none => simp [current] at nonempty
      | some old => rw [← same, current, Option.getD_some]
    refine ⟨.inr found, fun other => ?_⟩
    split_ifs with isKey
    · rw [← isKey, found]
    · rfl
  · rw [not_not] at nonempty
    cases filled
    refine ⟨.inl nonempty, fun other => ?_⟩
    exact getElem?_insert state.1 key other value

lemma fillLabel_succeeds {state : Labels × Bool} (isDesired : desired[key]? = some value)
    (free : state.1.getD key "" = "" ∨ state.1[key]? = some value) :
    ∃ next, fillLabel desired state key = .ok next := by
  unfold fillLabel
  rw [getD_of_getElem? isDesired]
  dsimp only
  split_ifs with nonempty differs
  · rcases free with empty | found
    · exact absurd empty nonempty
    · exact absurd (getD_of_getElem? found) differs
  · exact ⟨_, rfl⟩
  · exact ⟨_, rfl⟩

lemma foldlM_fillLabel_eq_ok {keys : List String} (once : keys.Nodup)
    (listed : ∀ key ∈ keys, ∃ value, desired[key]? = some value)
    (filled : keys.foldlM (fillLabel desired) kept = .ok final) :
    (∀ key ∈ keys, ∀ value, desired[key]? = some value →
        kept.1.getD key "" = "" ∨ kept.1[key]? = some value) ∧
      ∀ key, final.1[key]? =
        if key ∈ keys then desired[key]? else kept.1[key]? := by
  refine foldlM_prefix_induction filled (fun done state => (∀ key ∈ done, ∀ value,
        desired[key]? = some value → kept.1.getD key "" = "" ∨ kept.1[key]? = some value) ∧
      ∀ key : String, state.1[key]? =
        if key ∈ done then desired[key]? else kept.1[key]?)
    ⟨by simp, by simp⟩ ?_
  intro done key rest state next split reached stepped
  rw [split, nodup_append] at once
  have fresh : key ∉ done := fun inDone => once.2.2 key inDone key mem_cons_self rfl
  obtain ⟨value, isDesired⟩ := listed key (split ▸ mem_append_right done mem_cons_self)
  obtain ⟨free, lookup⟩ := fillLabel_eq_ok isDesired stepped
  have unchanged : state.1[key]? = kept.1[key]? := by rw [reached.2, if_neg fresh]
  rw [getD_eq, unchanged, ← getD_eq] at free
  constructor
  · refine forall_mem_concat reached.1 fun otherValue isOther => ?_
    rw [isDesired] at isOther
    cases isOther
    exact free
  · intro other
    rw [lookup, reached.2]
    by_cases same : key = other
    · subst same
      simp [isDesired]
    · simp [same, Ne.symm same]

lemma reconcileLabelMap_eq_ok {final : Labels × Bool}
    (reconciled : reconcileLabelMap runtime existing desired none = .ok final) :
    Fillable existing desired ∧
      ∀ key : String, final.1[key]? = (desired[key]?).or existing[key]? := by
  have listed : ∀ key : String, key ∈ runtime.range ["reconcileLabelMap", "desired"] desired.keys ↔
        ∃ value, desired[key]? = some value := by
    intro key
    rw [MapOrder.mem_range, mem_keys_iff]
  rcases foldlM_fillLabel_eq_ok ((runtime.range_perm _ _).nodup_iff.2 (keys_nodup desired))
    (fun key => (listed key).1) reconciled with ⟨fillable, lookup⟩
  constructor
  · intro key value isDesired
    exact fillable key ((listed key).2 ⟨value, isDesired⟩) value isDesired
  · intro key
    rw [lookup]
    cases isDesired : desired[key]? with
    | none =>
      rw [if_neg]
      · rfl
      · rw [listed, isDesired]
        simp
    | some value =>
      rw [if_pos ((listed key).2 ⟨value, isDesired⟩)]
      rfl

lemma reconcileLabelMap_succeeds (fillable : Fillable existing desired) :
    ∃ final, reconcileLabelMap runtime existing desired none = .ok final := by
  have filled : ∃ final, (runtime.range ["reconcileLabelMap", "desired"]
      desired.keys).foldlM (fillLabel desired) (existing, false) =
        .ok final ∧ Fillable final.1 desired := by
    refine foldlM_succeeds (fun _ (state : Labels × Bool) => Fillable state.1 desired) fillable ?_
    intro done key rest state split reached
    have listed : key ∈ runtime.range ["reconcileLabelMap", "desired"]
        desired.keys :=
      split ▸ mem_append_right done mem_cons_self
    rw [MapOrder.mem_range, mem_keys_iff] at listed
    obtain ⟨value, isDesired⟩ := listed
    obtain ⟨next, stepped⟩ := fillLabel_succeeds isDesired (reached key value isDesired)
    refine ⟨next, stepped, ?_⟩
    have lookup := (fillLabel_eq_ok isDesired stepped).2
    intro other otherValue isOther
    rw [getD_eq, lookup]
    by_cases same : key = other
    · subst same
      rw [isDesired] at isOther
      cases isOther
      exact .inr (if_pos rfl)
    · rw [if_neg same, ← getD_eq]
      exact reached other otherValue isOther
  obtain ⟨final, filled, _⟩ := filled
  exact ⟨final, filled⟩

end

/-! ## Patched objects -/

/-- The Node after `patchNodeLabels`; as it was if the patch is refused. -/
def patchedNode (runtime : Runtime) (plan : AutoLabelPlan) (node : Node) : Node :=
  match reconcileLabelMap runtime node.labels (plan.nodes.getD node.name ∅) none with
  | .ok (labels, _) => { node with labels }
  | .error _ => node

/-- The Switch after `patchSwitchLabels`. -/
def patchedSwitch (runtime : Runtime) (plan : AutoLabelPlan) (switch : Switch) : Switch :=
  match reconcileLabelMap runtime switch.labels (plan.switches.getD switch.name ∅) none with
  | .ok (labels, _) => { switch with labels }
  | .error _ => switch

/-- The Nodes after the patches of the named ones. -/
def patchedNodes (runtime : Runtime) (plan : AutoLabelPlan)
    (applied : String → Bool) (nodes : List Node) : List Node :=
  nodes.map fun node => if applied node.name then patchedNode runtime plan node else node

/-- The Switches after the patches of the named ones. -/
def patchedSwitches (runtime : Runtime) (plan : AutoLabelPlan)
    (applied : String → Bool) (switches : List Switch) : List Switch :=
  switches.map fun switch =>
    if applied switch.name then patchedSwitch runtime plan switch
    else switch

/-- A Node some of whose planned labels are written. -/
structure NodePatched (plan : AutoLabelPlan) (before after : Node) : Prop where
  name : after.name = before.name
  label : ∀ key : String, after.labels[key]? = before.labels[key]? ∨
    ∃ value, desiredLabel plan.nodes before.name key = some value ∧ after.labels[key]? = some value

/-- A Switch some of whose planned labels are written. -/
structure SwitchPatched (plan : AutoLabelPlan) (before after : Switch) : Prop where
  same : { after with labels := ∅ } = { before with labels := ∅ }
  label : ∀ key : String, after.labels[key]? = before.labels[key]? ∨
    ∃ value, desiredLabel plan.switches before.name key = some value ∧
      after.labels[key]? = some value

section

variable {runtime : Runtime} {plan : AutoLabelPlan}

lemma patched_label {desired : GoMap String Labels}
    (reconciled : reconcileLabelMap runtime existing (desired.getD name ∅)
      none = .ok (labels, changed)) (key : String) :
    labels[key]? = existing[key]? ∨ ∃ value, desiredLabel desired name key = some value ∧
        labels[key]? = some value := by
  have lookup := (reconcileLabelMap_eq_ok reconciled).2 key
  rw [← desiredLabel] at lookup
  cases isDesired : desiredLabel desired name key with
  | none =>
    rw [isDesired] at lookup
    exact .inl lookup
  | some value =>
    rw [isDesired] at lookup
    exact .inr ⟨value, rfl, lookup⟩

lemma nodePatched (node : Node) : NodePatched plan node (patchedNode runtime plan node) := by
  unfold patchedNode
  split
  · next labels changed reconciled => exact ⟨rfl, patched_label reconciled⟩
  · exact ⟨rfl, fun _ => .inl rfl⟩

lemma switchPatched (switch : Switch) :
    SwitchPatched plan switch (patchedSwitch runtime plan switch) := by
  unfold patchedSwitch
  split
  · next labels changed reconciled => exact ⟨rfl, patched_label reconciled⟩
  · exact ⟨rfl, fun _ => .inl rfl⟩

lemma nodesPatched (applied : String → Bool) (nodes : List Node) :
    nodes.Forall₂ (NodePatched plan) (patchedNodes runtime plan applied nodes) := by
  unfold patchedNodes
  rw [forall₂_map_right_iff, forall₂_same]
  intro node _
  split_ifs
  · exact nodePatched node
  · exact ⟨rfl, fun _ => .inl rfl⟩

lemma switchesPatched (applied : String → Bool) (switches : List Switch) :
    switches.Forall₂ (SwitchPatched plan) (patchedSwitches runtime plan applied switches) := by
  unfold patchedSwitches
  rw [forall₂_map_right_iff, forall₂_same]
  intro switch _
  split_ifs
  · exact switchPatched switch
  · exact ⟨rfl, fun _ => .inl rfl⟩

end

end Unifabric.SwitchTopology
