import Unifabric.Lib.Transition
import Unifabric.SwitchTopology.Reconcile

/-!
# Locked labels

Whatever other clients do and whichever requests fail, a Reconcile only fills
labels which are empty, unless it resets a Topology which is being deleted.
Every patch is computed from a copy the Reconcile has listed, and the server
only accepts it while the copy is what is stored.
-/

namespace Unifabric.SwitchTopology

open Lib V1beta1 TopologyLabel GoMap Program

variable {log : Log} {managed : List ManagedTopology} {after : Cluster}

variable {plan : AutoLabelPlan} {name : String}

/-! ## What the log says -/

/-- The request was answered so. -/
def Answered (log : Log) (request : Request) (answer : Answer request) : Prop :=
  (⟨request, answer⟩ : Exchange Request Answer) ∈ log

/-- The request patches labels of a Node or a Switch. -/
def Request.isLabelPatch : Request → Bool
  | .patchNode _ _ => true
  | .patchSwitch _ _ => true
  | _ => false

/-- The request reports that a plan failed. -/
def Request.isReport : Request → Bool
  | .getCachedTopology _ => true
  | .event _ _ => true
  | _ => false

/-- No label was patched so far. -/
def NoLabelPatch (log : Log) : Prop := ∀ exchange ∈ log, exchange.1.isLabelPatch = false

/--
The Reconcile is in `resetTopology` of the topology: it has read it with a
deletion timestamp and the finalizer, and has not gone on to list FabricNodes.
-/
def Resetting (log : Log) (topology : ManagedTopology) : Prop :=
  (∃ copy, Answered log (Request.getTopology topology.name) (Except.ok copy) ∧
    copy.object.deletionTimestamp = true ∧ autoTopologyFinalizer ∈ copy.object.finalizers) ∧
    ∀ exchange ∈ log, exchange.1 ≠ .listFabricNodes

/-- The key is the key of a tier of the topology. -/
def ManagedTopology.HasKey (topology : ManagedTopology) (key : String) : Prop :=
  ∃ tier, 1 ≤ tier ∧ key = topology.labelTemplate.key tier

/--
Labels of a Node which a Reconcile may write: keys of a managed topology which
are empty, or which belong to a topology it resets.
-/
def NodeWrite (managed : List ManagedTopology) (log : Log) (before after : Labels) : Prop :=
  ∀ key : String, after[key]? = before[key]? ∨ ∃ topology ∈ managed, topology.HasKey key ∧
      (before.getD key "" = "" ∨ Resetting log topology)

/--
Labels of a Switch which a Reconcile may write: the domain, if it is empty or
the topology of its role is reset.
-/
def SwitchWrite (managed : List ManagedTopology) (log : Log)
    (switch : Switch) (after : Labels) : Prop :=
  ∀ key : String, after[key]? = switch.labels[key]? ∨ key = topologyDomainLabel ∧
      (switch.labels.getD key "" = "" ∨
        ∃ topology ∈ managed, effectiveSwitchRole switch = topology.role ∧ Resetting log topology)

/-- A request a Reconcile may issue after the exchanges of the log. -/
def Allowed (managed : List ManagedTopology) (log : Log) : Request → Prop
  | .patchNode base labels =>
    (∃ items, Answered log Request.listNodes (Except.ok items) ∧
      base ∈ items) ∧ NodeWrite managed log base.object.labels labels
  | .patchSwitch base labels =>
    (∃ items, Answered log Request.listSwitches (Except.ok items) ∧
      base ∈ items) ∧ SwitchWrite managed log base.object labels
  | .getCachedTopology _ => NoLabelPatch log
  | .event _ _ => NoLabelPatch log
  | _ => True

/-- The plan of a role failed, or contradicts that of another. -/
def ReconcileError.isPlanFailure : ReconcileError → Bool
  | .plan _ _ => true
  | .merge _ _ => true
  | _ => false

/-- How a Reconcile may fail after the exchanges of the log. -/
def MayFail (log : Log) (failure : ReconcileError) : Prop :=
  failure.isPlanFailure = true → NoLabelPatch log

lemma Answered.append {request : Request} {answer : Answer request}
    (answered : Answered log request answer) (exchange : Exchange Request Answer) :
    Answered (log ++ [exchange]) request answer :=
  List.mem_append_left _ answered

lemma answered_last (request : Request) (answer : Answer request) :
    Answered (log ++ [⟨request, answer⟩]) request answer :=
  List.mem_append_right _ (.head _)

lemma NoLabelPatch.append (quiet : NoLabelPatch log) {exchange : Exchange Request Answer}
    (other : exchange.1.isLabelPatch = false) : NoLabelPatch (log ++ [exchange]) := by
  exact forall_mem_concat quiet other

lemma Resetting.append {topology : ManagedTopology} (resetting : Resetting log topology)
    {exchange : Exchange Request Answer} (other : exchange.1 ≠ .listFabricNodes) :
    Resetting (log ++ [exchange]) topology := by
  obtain ⟨⟨copy, read, deleted⟩, noList⟩ := resetting
  exact ⟨⟨copy, read.append exchange, deleted⟩, forall_mem_concat noList other⟩

/-! ## What a Reconcile requests -/

/-- The program only issues allowed requests and fails as it may. -/
abbrev Acts {α : Type} (managed : List ManagedTopology)
    (returned : Log → α → Prop) (log : Log) (program : Action α) : Prop :=
  program.Obeys (Allowed managed) MayFail returned log

section

variable {α : Type} {returned : Log → α → Prop} {allowed : Log → Request → Prop}
  {failed : Log → ReconcileError → Prop}

lemma acts_ask (allowed : Allowed managed log request)
    (continues : ∀ answer, Acts managed returned (log ++ [⟨request, answer⟩]) (next answer)) :
    Acts managed returned log (ask request >>= next) :=
  ⟨allowed, continues⟩

section

variable {runtime : Runtime} {desired : Labels} {remove : Option (String → Bool)}
  (lenient : ∀ later failure, failure.isPlanFailure = false → failed later failure)

include lenient

lemma obeys_require (returned : Log → α → Prop)
    (holds : ∀ value, result = .ok value → returned log value) :
    Obeys allowed failed returned log (require result) := by
  cases result with
  | ok value => exact holds value rfl
  | error cause => exact lenient _ _ rfl

/-- A label patch does what its request does, or nothing. -/
lemma obeys_patchLabels {current : Labels} {failure : LockedLabel → ReconcileError}
    {patch : Labels → Action Unit} {keeps : Log → Prop} (holds : keeps log)
    (fails : ∀ cause, (failure cause).isPlanFailure = false)
    (patches : ∀ labels changed,
      reconcileLabelMap runtime current desired remove = .ok (labels, changed) →
        Obeys allowed failed (fun later _ => keeps later) log (patch labels)) :
    Obeys allowed failed (fun later _ => keeps later) log
      (patchLabels runtime current desired remove failure patch) := by
  unfold patchLabels
  split
  · exact lenient _ _ (fails _)
  · next labels changed reconciled =>
    split_ifs
    · exact patches labels changed reconciled
    · exact holds

end

lemma mayFail_of_not_plan (later : Log) (failure : ReconcileError)
    (other : failure.isPlanFailure = false) : MayFail later failure := by
  intro isPlan
  rw [other] at isPlan
  cases isPlan

lemma acts_require (returned : Log → α → Prop)
    (holds : ∀ value, result = .ok value → returned log value) :
    Acts managed returned log (require result) :=
  obeys_require mayFail_of_not_plan returned holds

end

/-! ## Labels which are filled or removed -/

section

variable {runtime : Runtime} {existing desired labels : Labels} {changed : Bool}

lemma label_of_filled (reconciled : reconcileLabelMap runtime existing desired none =
      .ok (labels, changed)) (key : String) :
    labels[key]? = existing[key]? ∨ existing.getD key "" = "" ∧
        ∃ value, desired[key]? = some value := by
  obtain ⟨fillable, lookup⟩ := reconcileLabelMap_eq_ok reconciled
  have found := lookup key
  cases isDesired : desired[key]? with
  | none =>
    rw [isDesired] at found
    exact .inl found
  | some value =>
    rw [isDesired] at found
    rcases fillable key value isDesired with empty | same
    · exact .inr ⟨empty, value, rfl⟩
    · exact .inl (found.trans same.symm)

lemma label_of_removed
    (reconciled : reconcileLabelMap runtime existing ∅ (some remove) = .ok (labels, changed))
    (key : String) : labels[key]? = existing[key]? ∨ remove key = true := by
  rw [reconcileLabelMap_remove] at reconciled
  have removed := Except.ok.inj reconciled
  have lookup : (removeLabels runtime remove existing).1[key]? =
      if remove key then none else existing[key]? :=
    getElem?_removeLabels remove existing key
  rw [removed] at lookup
  rw [lookup]
  cases isRemoved : remove key with
  | true => exact .inr rfl
  | false => exact .inl rfl

end

/-! ## Keys of plans -/

/-- The plan only contains keys of managed topologies and domains. -/
structure PlanKeys (managed : List ManagedTopology)
    (plan : AutoLabelPlan) : Prop where
  node : ∀ name key value, desiredLabel plan.nodes name key = some value →
    ∃ topology ∈ managed, topology.HasKey key
  switch : ∀ name key value, desiredLabel plan.switches name key = some value →
      key = topologyDomainLabel

lemma planKeys_empty : PlanKeys managed .empty := by
  constructor
  · simp [AutoLabelPlan.empty, desiredLabel, getD_eq]
  · simp [AutoLabelPlan.empty, desiredLabel, getD_eq]

lemma planKeys_of_buildAutoLabelPlan (isManaged : topology ∈ managed)
    (planned : buildAutoLabelPlan runtime topology.role topology.labelTemplate
      fabricNodes switches nodes = .ok plan) : PlanKeys managed plan := by
  obtain ⟨inputs, maxByTier, entries, state, run⟩ := exists_planRun planned
  rw [← run.plan_eq]
  constructor
  · intro name key value desired
    obtain ⟨entry, isEntry, _, rfl, _⟩ := run.planned.nodeSource name key value desired
    have facts := run.entry entry isEntry
    exact ⟨topology, isManaged, entry.tier, facts.1, facts.2.1⟩
  · intro name key value desired
    obtain ⟨_, _, _, isKey, _⟩ := run.planned.switchSource name key value desired
    exact isKey

lemma PlanKeys.addNode (keys : PlanKeys managed plan)
    (isKey : ∃ topology ∈ managed, topology.HasKey key)
    (added : plan.addNode name key value = .ok next) : PlanKeys managed next := by
  obtain ⟨nodes, isAdded, rfl⟩ := map_eq_ok.1 added
  have lookup := (addDesired_eq_ok isAdded).2
  refine ⟨fun other otherKey otherValue desired => ?_, keys.switch⟩
  rw [lookup] at desired
  split_ifs at desired with same
  · rwa [← same.2]
  · exact keys.node other otherKey otherValue desired

lemma PlanKeys.addSwitch (keys : PlanKeys managed plan) (isKey : key = topologyDomainLabel)
    (added : plan.addSwitch name key value = .ok next) : PlanKeys managed next := by
  obtain ⟨switches, isAdded, rfl⟩ := map_eq_ok.1 added
  have lookup := (addDesired_eq_ok isAdded).2
  refine ⟨keys.node, fun other otherKey otherValue desired => ?_⟩
  rw [lookup] at desired
  split_ifs at desired with same
  · rwa [← same.2]
  · exact keys.switch other otherKey otherValue desired

/-- A merged plan only has keys of the two plans. -/
lemma PlanKeys.merge (keys : PlanKeys managed plan) (others : PlanKeys managed other)
    (isMerged : plan.merge runtime other = .ok merged) : PlanKeys managed merged := by
  have desired : ∀ {table : GoMap String Labels} {name key : String} {site : List String},
      key ∈ runtime.range site (table.getD name ∅).keys →
        ∃ value, desiredLabel table name key = some value := by
    intro table name key site listed
    rw [MapOrder.mem_range, mem_keys_iff] at listed
    exact listed
  obtain ⟨withNodes, nodes, switches⟩ := bind_eq_ok.1 isMerged
  have afterNodes : PlanKeys managed withNodes := by
    refine foldlM_prefix_induction nodes (fun _ state => PlanKeys managed state) keys ?_
    intro _ name _ state next _ before stepped
    refine foldlM_prefix_induction stepped (fun _ state => PlanKeys managed state) before ?_
    intro done key rest current after split holds added
    obtain ⟨value, isDesired⟩ := desired (split ▸ List.mem_append_right done (.head _))
    exact holds.addNode (others.node name key value isDesired) added
  refine foldlM_prefix_induction switches (fun _ state => PlanKeys managed state) afterNodes ?_
  intro _ name _ state next _ before stepped
  refine foldlM_prefix_induction stepped (fun _ state => PlanKeys managed state) before ?_
  intro done key rest current after split holds added
  obtain ⟨value, isDesired⟩ := desired (split ▸ List.mem_append_right done (.head _))
  exact holds.addSwitch (others.switch name key value isDesired) added

/-! ## The phases of a Reconcile -/

/-- Neither labels were patched nor FabricNodes listed. -/
structure Quiet (log : Log) : Prop where
  noPatch : NoLabelPatch log
  noList : ∀ exchange ∈ log, exchange.1 ≠ .listFabricNodes

lemma Quiet.append (quiet : Quiet log) {exchange : Exchange Request Answer}
    (noPatch : exchange.1.isLabelPatch = false) (noList : exchange.1 ≠ .listFabricNodes) :
    Quiet (log ++ [exchange]) := by
  exact ⟨quiet.noPatch.append noPatch, forall_mem_concat quiet.noList noList⟩

lemma acts_releaseUnmanaged (names : List String) (quiet : Quiet log) :
    Acts managed (fun later _ => Quiet later) log (releaseUnmanaged managed names) := by
  induction names generalizing log with
  | nil => exact quiet
  | cons name rest ih =>
    unfold releaseUnmanaged
    split_ifs
    · exact ih quiet
    · refine acts_ask trivial fun answer => ?_
      have read : Quiet (log ++ [⟨Request.getTopology name, answer⟩]) := quiet.append rfl (by simp)
      split
      · exact ih read
      · intro isPlan
        cases isPlan
      · split_ifs
        · refine acts_ask trivial fun answer => ?_
          refine Obeys.bind (acts_require (fun later _ => Quiet later)
            fun _ _ => read.append rfl (by simp)) ?_
          exact fun later _ holds => holds
        · exact ih read

/-- A reset only removes labels of its topology. -/
lemma acts_resetTopology (isManaged : topology ∈ managed) (resetting : Resetting log topology) :
    Acts managed (fun _ _ => True) log (resetTopology runtime copy topology) := by
  refine acts_ask trivial fun nodesAnswer => ?_
  refine Obeys.bind (acts_require (fun later items =>
    Answered later Request.listNodes (Except.ok items) ∧ Resetting later topology) ?_) ?_
  · rintro items rfl
    exact ⟨answered_last _ _, resetting.append (by simp)⟩
  rintro log nodes ⟨nodesRead, resetting⟩
  refine acts_ask trivial fun switchesAnswer => ?_
  refine Obeys.bind (acts_require (fun later items =>
    Answered later Request.listNodes (Except.ok nodes) ∧
      Answered later Request.listSwitches (Except.ok items) ∧
      Resetting later topology) ?_) ?_
  · rintro items rfl
    exact ⟨nodesRead.append _, answered_last _ _, resetting.append (by simp)⟩
  rintro log switches ⟨nodesRead, switchesRead, resetting⟩
  refine Obeys.bind (obeys_foldlM (fun later _ =>
    Answered later Request.listNodes (Except.ok nodes) ∧
      Answered later Request.listSwitches (Except.ok switches) ∧
      Resetting later topology) ?_
    ⟨nodesRead, switchesRead, resetting⟩) ?_
  · rintro log _ node isNode holds
    refine obeys_patchLabels mayFail_of_not_plan holds
      (fun _ => rfl) fun labels changed reconciled =>
      acts_ask ⟨⟨nodes, holds.1, isNode⟩, fun key => ?_⟩ fun answer =>
        acts_require _ fun _ _ => ?_
    · rcases label_of_removed reconciled key with same | removed
      · exact .inl same
      · obtain ⟨tier, matched⟩ := Option.isSome_iff_exists.1 removed
        obtain ⟨positive, _, isKey⟩ := key_of_matchTier matched
        exact .inr ⟨topology, isManaged, ⟨tier, positive, isKey.symm⟩, .inr holds.2.2⟩
    · exact ⟨holds.1.append _, holds.2.1.append _, holds.2.2.append (by simp)⟩
  rintro log _ ⟨nodesRead, switchesRead, resetting⟩
  refine Obeys.bind (obeys_foldlM (fun later _ =>
    Answered later Request.listSwitches (Except.ok switches) ∧
      Resetting later topology) ?_ ⟨switchesRead, resetting⟩) ?_
  · rintro log _ switch isSwitch holds
    split_ifs with isRole
    · exact holds
    · rw [not_not] at isRole
      refine obeys_patchLabels mayFail_of_not_plan holds
        (fun _ => rfl) fun labels changed reconciled =>
        acts_ask ⟨⟨switches, holds.1, isSwitch⟩, fun key => ?_⟩ fun answer =>
          acts_require _ fun _ _ => ⟨holds.1.append _, holds.2.append (by simp)⟩
      rcases label_of_removed reconciled key with same | removed
      · exact .inl same
      · rw [decide_eq_true_eq] at removed
        exact .inr ⟨removed, .inr ⟨topology, isManaged, isRole, holds.2⟩⟩
  rintro log _ _
  exact acts_ask trivial fun _ => acts_require _ fun _ _ => trivial

lemma acts_resetDeleted (areManaged : ∀ topology ∈ topologies, topology ∈ managed)
    (quiet : Quiet log) : Acts managed (fun later deleted => deleted = false → Quiet later) log
      (resetDeleted runtime topologies) := by
  induction topologies generalizing log with
  | nil => exact fun _ => quiet
  | cons topology rest ih =>
    have others := fun other listed => areManaged other (.tail _ listed)
    refine acts_ask trivial fun answer => ?_
    have read : Quiet (log ++ [⟨Request.getTopology topology.name, answer⟩]) :=
      quiet.append rfl (by simp)
    split
    · exact ih others read
    · intro isPlan
      cases isPlan
    · next copy =>
      split_ifs with deleted finalized
      · refine Obeys.bind (acts_resetTopology
          (areManaged topology (.head _)) ?_) ?_
        · exact ⟨⟨copy, answered_last _ _, deleted, finalized⟩, read.noList⟩
        · intro later _ _ isFalse
          cases isFalse
      · intro isFalse
        cases isFalse
      · exact ih others read

lemma acts_ensureTopologyFinalizer (keeps : Log → Prop) (holds : keeps log)
    (kept : ∀ later (exchange : Exchange Request Answer),
      exchange.1.isLabelPatch = false → keeps later → keeps (later ++ [exchange])) :
    Acts managed (fun later _ => keeps later) log (ensureTopologyFinalizer name create) := by
  refine acts_ask trivial fun answer => ?_
  have read := kept log ⟨Request.getTopology name, answer⟩ rfl holds
  split
  · split_ifs
    · exact acts_ask trivial fun _ => acts_require _ fun _ _ => kept _ _ rfl read
    · exact read
  · intro isPlan
    cases isPlan
  · split_ifs
    · exact read
    · exact acts_ask trivial fun _ => acts_require _ fun _ _ => kept _ _ rfl read

lemma acts_reportConflict (quiet : NoLabelPatch log) :
    Acts managed (fun later _ => NoLabelPatch later) log (reportConflict name message) := by
  refine acts_ask quiet fun answer => ?_
  have read : NoLabelPatch (log ++ [⟨Request.getCachedTopology name, answer⟩]) := quiet.append rfl
  split
  · exact ⟨read, fun _ => read.append rfl⟩
  · exact read

/-- What holds of the log while the roles are planned. -/
structure Planning (nodes : List (Copy Node))
    (switches : List (Copy Switch)) (log : Log) : Prop where
  noPatch : NoLabelPatch log
  nodesRead : Answered log Request.listNodes (Except.ok nodes)
  switchesRead : Answered log Request.listSwitches (Except.ok switches)

lemma acts_planRole (isManaged : topology ∈ managed) (keys : PlanKeys managed plan)
    (planning : Planning nodes switches log) :
    Acts managed (fun later merged => Planning nodes switches later ∧ PlanKeys managed merged) log
      (planRole runtime fabricNodes (switches.map Copy.object)
        (nodes.map Copy.object) plan topology) := by
  unfold planRole
  split
  · exact Obeys.bind (acts_reportConflict planning.noPatch) fun later _ quiet _ => quiet
  · next rolePlan planned =>
    refine Obeys.bind (acts_ensureTopologyFinalizer
      (Planning nodes switches) planning ?_) ?_
    · intro later exchange other holds
      exact ⟨holds.noPatch.append other, holds.nodesRead.append _, holds.switchesRead.append _⟩
    · intro later _ holds
      split
      · exact Obeys.bind (acts_reportConflict holds.noPatch) fun later _ quiet _ => quiet
      · next merged isMerged =>
        exact ⟨holds, keys.merge (planKeys_of_buildAutoLabelPlan isManaged planned) isMerged⟩

lemma mem_of_copiesByName {α : Type} {nameOf : α → String} {items : List (Copy α)} {copy : Copy α}
    (found : (copiesByName nameOf items)[name]? = some copy) :
    copy ∈ items ∧ nameOf copy.object = name :=
  mem_of_foldl_insert found

/-- A plan is applied by filling labels of managed topologies. -/
lemma acts_applyPlan {runtime : Runtime} {nodes : List (Copy Node)}
    {switches : List (Copy Switch)} (keys : PlanKeys managed plan)
    (nodesRead : Answered log Request.listNodes (Except.ok nodes))
    (switchesRead : Answered log Request.listSwitches (Except.ok switches)) :
    Acts managed (fun _ _ => True) log (applyPlan runtime plan nodes switches) := by
  refine Obeys.bind (obeys_foldlM (fun later _ =>
    Answered later Request.listNodes (Except.ok nodes) ∧
      Answered later Request.listSwitches (Except.ok switches)) ?_
    ⟨nodesRead, switchesRead⟩) ?_
  · rintro log _ name _ holds
    unfold applyNode
    split
    · intro isPlan
      cases isPlan
    · next node found =>
      obtain ⟨isNode, named⟩ := mem_of_copiesByName found
      refine obeys_patchLabels mayFail_of_not_plan holds
        (fun _ => rfl) fun labels changed reconciled =>
        acts_ask ⟨⟨nodes, holds.1, isNode⟩, fun key => ?_⟩ fun answer =>
          acts_require _ fun _ _ => ⟨holds.1.append _, holds.2.append _⟩
      rcases label_of_filled reconciled key with same | ⟨empty, value, desired⟩
      · exact .inl same
      · obtain ⟨topology, isManaged, isKey⟩ := keys.node name key value desired
        exact .inr ⟨topology, isManaged, isKey, .inl empty⟩
  rintro log _ ⟨_, switchesRead⟩
  refine (obeys_foldlM (fun later _ =>
    Answered later Request.listSwitches (Except.ok switches)) ?_
    switchesRead).imp fun _ _ _ => trivial
  rintro log _ name _ holds
  unfold applySwitch
  split
  · intro isPlan
    cases isPlan
  · next switch found =>
    obtain ⟨isSwitch, named⟩ := mem_of_copiesByName found
    refine obeys_patchLabels mayFail_of_not_plan holds
      (fun _ => rfl) fun labels changed reconciled =>
      acts_ask ⟨⟨switches, holds, isSwitch⟩, fun key => ?_⟩ fun answer =>
        acts_require _ fun _ _ => holds.append _
    rcases label_of_filled reconciled key with same | ⟨empty, value, desired⟩
    · exact .inl same
    · exact .inr ⟨keys.switch name key value desired, .inl empty⟩

lemma acts_reconcile (runtime : Runtime) (managed : List ManagedTopology) :
    Acts managed (fun _ _ => True) [] (reconcile runtime managed) := by
  have quiet : Quiet [] := ⟨by simp [NoLabelPatch], by simp⟩
  refine Obeys.bind (acts_releaseUnmanaged _ quiet) ?_
  intro log released quiet
  split_ifs
  · trivial
  refine Obeys.bind (acts_resetDeleted (fun _ => id) quiet) ?_
  intro log deleted notDeleted
  split_ifs with isDeleted
  · trivial
  rw [Bool.not_eq_true] at isDeleted
  have noPatch := (notDeleted isDeleted).noPatch
  refine acts_ask trivial fun answer => ?_
  refine Obeys.bind (acts_require (fun later _ =>
    NoLabelPatch later) fun _ _ => noPatch.append rfl) ?_
  intro log fabricNodes noPatch
  refine acts_ask trivial fun answer => ?_
  refine Obeys.bind (acts_require (fun later items =>
    NoLabelPatch later ∧ Answered later Request.listSwitches (Except.ok items)) ?_) ?_
  · rintro items rfl
    exact ⟨noPatch.append rfl, answered_last _ _⟩
  rintro log switches ⟨noPatch, switchesRead⟩
  refine acts_ask trivial fun answer => ?_
  refine Obeys.bind (acts_require (fun later items =>
    Planning items switches later) ?_) ?_
  · rintro items rfl
    exact ⟨noPatch.append rfl, answered_last _ _, switchesRead.append _⟩
  intro log nodes planning
  refine Obeys.bind (obeys_foldlM (fun later plan =>
    Planning nodes switches later ∧ PlanKeys managed plan) ?_
    ⟨planning, planKeys_empty⟩) ?_
  · rintro log plan topology isManaged ⟨planning, keys⟩
    exact acts_planRole isManaged keys planning
  rintro log plan ⟨planning, keys⟩
  exact Obeys.bind (acts_applyPlan keys planning.nodesRead
    planning.switchesRead) fun _ _ _ => trivial

/-! ## The controller among other clients -/

/-- A Reconcile which is under way. -/
structure Activation where
  log : Log
  rest : Action ReconcileResult

/-- The cluster and the Reconcile which is under way, if any. -/
structure ControlledCluster where
  cluster : Cluster
  activation : Option Activation

/--
One step: another client writes, a Reconcile starts, the server serves its next
request, or the Reconcile ends, at its end or with the process.
-/
inductive ControllerStep (managed : List ManagedTopology) :
    ControlledCluster → ControlledCluster → Prop
  | other {cluster after : Cluster} {activation : Option Activation}
      (writes : OtherWrites cluster after) :
      ControllerStep managed ⟨cluster, activation⟩ ⟨after, activation⟩
  | start (runtime : Runtime) (cluster : Cluster) : ControllerStep managed ⟨cluster, none⟩
        ⟨cluster, some ⟨[], reconcile runtime managed⟩⟩
  | serve {cluster after : Cluster} {log : Log} {request : Request}
      {next : Answer request → Action ReconcileResult}
      {answer : Answer request}
      (served : Serves cluster request answer after) :
      ControllerStep managed ⟨cluster, some ⟨log, .call request next⟩⟩
        ⟨after, some ⟨log ++ [⟨request, answer⟩], next answer⟩⟩
  | stop (cluster : Cluster) (activation : Activation) :
      ControllerStep managed ⟨cluster, some activation⟩ ⟨cluster, none⟩

/-- The copies in the log are truthful. -/
structure TruthfulLog (cluster : Cluster) (log : Log) : Prop where
  nodes : ∀ items, Answered log Request.listNodes (Except.ok items) → ∀ copy ∈ items,
      Truthful Node.name cluster.revision cluster.nodes copy
  switches : ∀ items, Answered log Request.listSwitches (Except.ok items) → ∀ copy ∈ items,
        Truthful Switch.name cluster.revision cluster.switches copy

/-- What holds of a Reconcile under way. -/
def Underway (managed : List ManagedTopology) (system : ControlledCluster) : Prop :=
  ∀ activation, system.activation = some activation →
    (∃ runtime, (reconcile runtime managed).Reaches activation.log
      activation.rest) ∧ TruthfulLog system.cluster activation.log

section

variable {cluster : Cluster}

lemma TruthfulLog.later (truthful : TruthfulLog cluster log)
    (writes : OtherWrites cluster after) : TruthfulLog after log where
  nodes := fun items read copy listed =>
    (truthful.nodes items read copy listed).writtenAfter writes.revision writes.nodes
  switches := fun items read copy listed =>
    (truthful.switches items read copy listed).writtenAfter writes.revision writes.switches

lemma TruthfulLog.serve (truthful : TruthfulLog cluster log) {request : Request}
    {answer : Answer request} (served : Serves cluster request answer after) :
    TruthfulLog after (log ++ [⟨request, answer⟩]) := by
  have before := truthful.later served.otherWrites
  constructor
  · intro items read copy listed
    rcases List.mem_append.1 read with earlier | last
    · exact before.nodes items earlier copy listed
    · cases List.mem_singleton.1 last
      obtain ⟨rfl, stored⟩ := served
      rw [stored items rfl] at listed
      obtain ⟨name, found⟩ := (mem_entries_iff _ _).1 listed
      exact after.nodesKept.truthful found
  · intro items read copy listed
    rcases List.mem_append.1 read with earlier | last
    · exact before.switches items earlier copy listed
    · cases List.mem_singleton.1 last
      obtain ⟨rfl, stored⟩ := served
      rw [stored items rfl] at listed
      obtain ⟨name, found⟩ := (mem_entries_iff _ _).1 listed
      exact after.switchesKept.truthful found

lemma Underway.step (underway : Underway managed before)
    (stepped : ControllerStep managed before next) : Underway managed next := by
  cases stepped with
  | other writes =>
    intro activation isActive
    obtain ⟨reaches, truthful⟩ := underway activation isActive
    exact ⟨reaches, truthful.later writes⟩
  | start runtime cluster =>
    intro activation isActive
    cases isActive
    refine ⟨⟨runtime, .refl⟩, ?_, ?_⟩
    · intro items read
      cases read
    · intro items read
      cases read
  | @serve _ _ _ _ _ answer served =>
    intro activation isActive
    cases isActive
    obtain ⟨⟨runtime, reaches⟩, truthful⟩ := underway _ rfl
    exact ⟨⟨runtime, reaches.answered answer⟩, truthful.serve served⟩
  | stop cluster activation =>
    intro activation isActive
    cases isActive

lemma underway_of_reachable
    (reached : Relation.ReflTransGen (ControllerStep managed) ⟨start, none⟩ system) :
    Underway managed system := by
  induction reached with
  | refl =>
    intro activation isActive
    cases isActive
  | tail _ stepped ih => exact ih.step stepped

end

/-! ## What a request changes -/

/--
Every Node and every Switch is as before, or differs only by labels which the
Reconcile may write.
-/
structure LabelsKept (managed : List ManagedTopology) (log : Log)
    (before after : Cluster) : Prop where
  node : ∀ name : String, after.nodes[name]? = before.nodes[name]? ∨
    ∃ old new, before.nodes[name]? = some old ∧ after.nodes[name]? = some new ∧
      { new.object with labels := ∅ } = { old.object with labels := ∅ } ∧
      NodeWrite managed log old.object.labels new.object.labels
  switch : ∀ name : String, after.switches[name]? = before.switches[name]? ∨
      ∃ old new, before.switches[name]? = some old ∧ after.switches[name]? = some new ∧
        { new.object with labels := ∅ } = { old.object with labels := ∅ } ∧
        SwitchWrite managed log old.object new.object.labels

section

variable {before : Cluster}

lemma labelsKept_of_same (nodes : after.nodes = before.nodes)
    (switches : after.switches = before.switches) : LabelsKept managed log before after where
  node := fun _ => .inl (by rw [nodes])
  switch := fun _ => .inl (by rw [switches])

lemma labelsKept_of_allowed (truthful : TruthfulLog before log)
    (allowed : Allowed managed log request) (served : Serves before request answer after) :
    LabelsKept managed log before after := by
  cases request with
  | getTopology name => exact served.1 ▸ labelsKept_of_same rfl rfl
  | listFabricNodes => exact served.1 ▸ labelsKept_of_same rfl rfl
  | listSwitches => exact served.1 ▸ labelsKept_of_same rfl rfl
  | listNodes => exact served.1 ▸ labelsKept_of_same rfl rfl
  | getCachedTopology name =>
    have same : after = before := served
    exact same ▸ labelsKept_of_same rfl rfl
  | event topology message =>
    have same : after = before := served
    exact same ▸ labelsKept_of_same rfl rfl
  | createTopology topology =>
    rcases served with ⟨rfl, _⟩ | created
    · exact labelsKept_of_same rfl rfl
    · unfold Cluster.createTopology at created
      split_ifs at created
      cases created
      exact labelsKept_of_same rfl rfl
  | patchTopology base finalizers =>
    rcases served with ⟨rfl, _⟩ | patched
    · exact labelsKept_of_same rfl rfl
    · obtain ⟨topology, _, rfl⟩ := Option.map_eq_some_iff.1 patched
      split_ifs
      · exact labelsKept_of_same rfl rfl
      · exact labelsKept_of_same rfl rfl
  | patchNode base labels =>
    rcases served with ⟨rfl, _⟩ | patched
    · exact labelsKept_of_same rfl rfl
    · obtain ⟨⟨items, read, listed⟩, write⟩ := allowed
      rcases Cluster.patchNode_eq_some (truthful.nodes items read base listed) patched with
        ⟨stored, rfl⟩
      refine ⟨fun name => ?_, fun _ => .inl rfl⟩
      by_cases same : base.object.name = name
      · subst same
        exact .inr ⟨base, _, stored, (Store.getElem?_write _ _ _ _).trans (if_pos rfl), rfl, write⟩
      · exact .inl ((Store.getElem?_write _ _ _ _).trans (if_neg same))
  | patchSwitch base labels =>
    rcases served with ⟨rfl, _⟩ | patched
    · exact labelsKept_of_same rfl rfl
    · obtain ⟨⟨items, read, listed⟩, write⟩ := allowed
      rcases Cluster.patchSwitch_eq_some (truthful.switches items read base listed) patched with
        ⟨stored, rfl⟩
      refine ⟨fun _ => .inl rfl, fun name => ?_⟩
      by_cases same : base.object.name = name
      · subst same
        exact .inr ⟨base, _, stored, (Store.getElem?_write _ _ _ _).trans (if_pos rfl), rfl, write⟩
      · exact .inl ((Store.getElem?_write _ _ _ _).trans (if_neg same))

end

/-! ## The law -/

/--
In every run of the controller among other clients, a request of a Reconcile
changes nothing of Nodes and Switches but labels of managed topologies and
domains which are empty, or which belong to a topology it resets.  A Reconcile
which fails with a plan, or reports that one failed, has patched no label.
-/
theorem reconcile_keeps_locked_labels (managed : List ManagedTopology)
    (start : Cluster) (system : ControlledCluster)
    (reached : Relation.ReflTransGen (ControllerStep managed) ⟨start, none⟩ system)
    (log : Log) (rest : Action ReconcileResult) (active : system.activation = some ⟨log, rest⟩) :
    (∀ request next answer after, rest = .call request next →
      Serves system.cluster request answer after → LabelsKept managed log system.cluster after) ∧
    (∀ failure, rest = .fail failure → failure.isPlanFailure = true → NoLabelPatch log) ∧
    ∀ request next, rest = .call request next → request.isReport = true → NoLabelPatch log := by
  rcases underway_of_reachable reached _ active with ⟨⟨runtime, reaches⟩, truthful⟩
  have obeys := reaches.obeys (acts_reconcile runtime managed)
  refine ⟨?_, ?_, ?_⟩
  · rintro request next answer after rfl served
    exact labelsKept_of_allowed truthful obeys.1 served
  · rintro failure rfl isPlan
    exact obeys isPlan
  · rintro request next rfl isReport
    cases request with
    | getCachedTopology name => exact obeys.1
    | event topology message => exact obeys.1
    | _ => cases isReport

/-- Another client writes a Node, if one is given, and the next request is served. -/
def ControlledCluster.advance (system : ControlledCluster) (written : Option Node) :
    Option ControlledCluster :=
  let before := written.elim system.cluster system.cluster.writeNode
  match system.activation with
  | some ⟨log, .call request next⟩ =>
    let (answer, after) := before.respond request
    some ⟨after, some ⟨log ++ [⟨request, answer⟩], next answer⟩⟩
  | _ => none

lemma reachable_of_advance (advanced : system.advance written = some next) :
    Relation.ReflTransGen (ControllerStep managed) system next := by
  obtain ⟨cluster, _ | ⟨log, rest⟩⟩ := system
  · cases advanced
  have wrote : OtherWrites cluster (written.elim cluster cluster.writeNode) := by
    cases written with
    | none => exact .refl _
    | some node => exact otherWrites_writeNode cluster node
  cases rest with
  | done value => cases advanced
  | fail failure => cases advanced
  | call request continues =>
    cases advanced
    exact .tail (.single (.other wrote)) (.serve (serves_respond _ request))

/-- The scale-out fabric with labels tier1, tier2 and so on. -/
def scaleOutTiers : ManagedTopology := ⟨topologyScaleOut, .scaleOut, ⟨"tier", ""⟩⟩

/-- A Node with a label and one without, below one Switch. -/
def halfLabelledCluster : Cluster :=
  { (Cluster.empty.writeNode ⟨"n1", (∅ : Labels).insert "tier1" "tier1-group1"⟩).writeNode
      ⟨"n2", ∅⟩ with
    fabricNodes := ((∅ : GoMap String FabricNode).insert "n1"
      ⟨"n1", none, [⟨"up", ⟨"leaf", "p1"⟩⟩], []⟩).insert "n2"
      ⟨"n2", none, [⟨"up", ⟨"leaf", "p2"⟩⟩], []⟩ }

/-- A label of a stored Node. -/
def Cluster.nodeLabel (cluster : Cluster) (name key : String) : Option String :=
  cluster.nodes[name]?.bind (·.object.labels[key]?)

/-- The next request labels the second Node and leaves the first one alone. -/
def ControlledCluster.labelsSecond (system : ControlledCluster) : Bool :=
  match system.activation with
  | some ⟨_, .call (.patchNode base labels) _⟩ =>
    (system.cluster.patchNode base labels).any fun after =>
      system.cluster.nodeLabel "n1" "tier1" = some "other" ∧
      system.cluster.nodeLabel "n2" "tier1" = none ∧
      after.nodeLabel "n1" "tier1" = some "other" ∧
      after.nodeLabel "n2" "tier1" = some "tier1-group1"
  | _ => false

/--
Another client relabels the first Node after the Reconcile has listed it.  The
Reconcile then labels the second Node and leaves the first one alone.
-/
theorem reconcile_labels_unlabelled_node : ∃ cluster log base labels next after,
      Relation.ReflTransGen (ControllerStep [scaleOutTiers]) ⟨halfLabelledCluster, none⟩
        ⟨cluster, some ⟨log, .call (.patchNode base labels) next⟩⟩ ∧
      Serves cluster (.patchNode base labels) (Except.ok ()) after ∧
      cluster.nodeLabel "n1" "tier1" = some "other" ∧ cluster.nodeLabel "n2" "tier1" = none ∧
      after.nodeLabel "n1" "tier1" = some "other" ∧
      after.nodeLabel "n2" "tier1" = some "tier1-group1" ∧
      LabelsKept [scaleOutTiers] log cluster after := by
  have run : (runEvents ControlledCluster.advance
      ⟨halfLabelledCluster, some ⟨[], reconcile .canonical [scaleOutTiers]⟩⟩
      [none, none, none, none, none, some ⟨"n1", (∅ : Labels).insert "tier1" "other"⟩, none]).any
        ControlledCluster.labelsSecond = true := by
    decide +kernel
  obtain ⟨⟨cluster, _ | ⟨log, rest⟩⟩, later, holds⟩ :=
    exists_reached (fun _ _ _ => reachable_of_advance) run
  · cases holds
  have reached := Relation.ReflTransGen.head (.start .canonical halfLabelledCluster) later
  cases rest with
  | call request next =>
    cases request with
    | patchNode base labels =>
      obtain ⟨after, patched, labelled⟩ := (Option.any_eq_true _ _).1 holds
      obtain ⟨first, second, still, filled⟩ := of_decide_eq_true labelled
      have served : Serves cluster (.patchNode base labels) (Except.ok ()) after := .inr patched
      exact ⟨cluster, log, base, labels, next, after, reached, served, first, second, still, filled,
        (reconcile_keeps_locked_labels _ _ _ reached _ _ rfl).1 _ _ _ _ rfl served⟩
    | _ => cases holds
  | _ => cases holds

end Unifabric.SwitchTopology
