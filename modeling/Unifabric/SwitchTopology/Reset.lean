import Unifabric.Lib.ServedProgram
import Unifabric.Lib.Sweep
import Unifabric.SwitchTopology.Reconcile

/-!
# Resetting a Topology

`resetTopology` is a sequence of patches and may stop at any of them.  In every
state it comes to, Nodes and Switches are as they were or without the labels of
the Topology, and its finalizer is only removed after all of them are.  The
sweeps are idempotent, so it does not matter how often the reset starts again.
-/

namespace Unifabric.SwitchTopology

open Lib Lib.Program V1beta1 TopologyLabel GoMap List Option

variable {cluster start : Cluster} {runtime : Runtime} {topology : ManagedTopology}

/-! ## What a reset is for -/

/-- The labels without those which are to be removed. -/
def clearedLabels (remove : String → Bool) (labels : Labels) : Labels :=
  labels.filter fun key _ => !remove key

section

variable (topology : ManagedTopology)

/-- The key of a label of the Topology on Nodes. -/
def ManagedTopology.matchesKey (key : String) : Bool :=
  (topology.labelTemplate.matchTier key).isSome

/-- The Node without the labels of the Topology. -/
def resetNode (node : Node) : Node :=
  { node with labels := clearedLabels topology.matchesKey node.labels }

/-- The Switch without its domain, if it has the role of the Topology. -/
def resetSwitch (switch : Switch) : Switch :=
  if effectiveSwitchRole switch = topology.role then
    { switch with labels := clearedLabels (fun key => key = topologyDomainLabel) switch.labels }
  else switch

/-- No label of the Topology is left. -/
structure Cleared (topology : ManagedTopology) (cluster : Cluster) : Prop where
  nodes : ∀ (name : String) (copy : Copy Node), cluster.nodes[name]? = some copy →
    ∀ key, (topology.labelTemplate.matchTier key).isSome → copy.object.labels[key]? = none
  switches : ∀ (name : String) (copy : Copy Switch), cluster.switches[name]? = some copy →
    effectiveSwitchRole copy.object = topology.role →
      copy.object.labels[topologyDomainLabel]? = none

/--
What differs from the start: labels of the Topology are removed, and perhaps
the Topology itself is patched.
-/
structure OnlyReset (topology : ManagedTopology)
    (start cluster : Cluster) : Prop where
  fabricNodes : cluster.fabricNodes = start.fabricNodes
  nodes : PartlyUpdated (resetNode topology) start.nodes cluster.nodes
  switches : PartlyUpdated (resetSwitch topology) start.switches cluster.switches
  topologies : ∀ name, name ≠ topology.name → cluster.topologies[name]? = start.topologies[name]?

/-- No Topology of the name carries the finalizer. -/
def Released (cluster : Cluster) : Prop :=
  ∀ copy, cluster.topologies[topology.name]? = some copy →
    autoTopologyFinalizer ∉ copy.object.finalizers

/-- The Nodes and Switches of the clusters are the same. -/
def SameObjects (left right : Cluster) : Prop :=
  (∀ name : String, left.nodes[name]?.map Copy.object = right.nodes[name]?.map Copy.object) ∧
  ∀ name : String, left.switches[name]?.map Copy.object = right.switches[name]?.map Copy.object

lemma getElem?_clearedLabels (remove : String → Bool) (labels : Labels) (key : String) :
    (clearedLabels remove labels)[key]? = if remove key then none else labels[key]? := by
  unfold clearedLabels
  rw [Std.ExtTreeMap.getElem?_filter']
  cases remove key <;> cases labels[key]? <;> rfl

lemma clearedLabels_idem (remove : String → Bool) (labels : Labels) :
    clearedLabels remove (clearedLabels remove labels) = clearedLabels remove labels := by
  refine Std.ExtTreeMap.ext_getElem? fun key => ?_
  rw [getElem?_clearedLabels, getElem?_clearedLabels]
  split_ifs <;> rfl

lemma reconcileLabelMap_clears (runtime : Runtime) (remove : String → Bool) (existing : Labels) :
    ∃ changed, reconcileLabelMap runtime existing ∅ (some remove) =
        .ok (clearedLabels remove existing, changed) ∧
      (changed = false → clearedLabels remove existing = existing) := by
  have cleared : (removeLabels runtime remove existing).1 = clearedLabels remove existing := by
    refine Std.ExtTreeMap.ext_getElem? fun key => ?_
    rw [getElem?_removeLabels, getElem?_clearedLabels]
  refine ⟨(removeLabels runtime remove existing).2, ?_, fun unchanged => ?_⟩
  · rw [reconcileLabelMap_remove, ← cleared]
  · rw [← cleared, removeLabels_of_unchanged unchanged]

lemma resetNode_idem (node : Node) :
    resetNode topology (resetNode topology node) = resetNode topology node := by
  simp only [resetNode, clearedLabels_idem]

lemma resetSwitch_idem (switch : Switch) :
    resetSwitch topology (resetSwitch topology switch) = resetSwitch topology switch := by
  by_cases ofRole : effectiveSwitchRole switch = topology.role
  · have still : effectiveSwitchRole (resetSwitch topology switch) =
        topology.role := by
      rw [resetSwitch, if_pos ofRole]
      exact ofRole
    rw [resetSwitch, if_pos still]
    simp only [resetSwitch, if_pos ofRole, clearedLabels_idem]
  · simp only [resetSwitch, if_neg ofRole]

end

/-! ## One patch -/

section

variable {always : Cluster → Prop} {returned : Unit → Cluster → Prop} {after : Cluster}
  {remove : String → Bool}

lemma Store.current_of_stored {α : Type} {store : Store α} {name : String} {base : Copy α}
    (stored : store[name]? = some base) : Store.current store name base = some base.object := by
  rw [Store.current, stored]
  exact if_pos rfl

lemma Cluster.patchNode_of_stored {base : Copy Node}
    (stored : cluster.nodes[base.object.name]? = some base) (labels : Labels) :
    cluster.patchNode base labels = some (cluster.writeNode { base.object with labels }) := by
  rw [Cluster.patchNode, Store.current_of_stored stored, map_some, mergeLabels_self]

lemma Cluster.patchSwitch_of_stored {base : Copy Switch}
    (stored : cluster.switches[base.object.name]? = some base) (labels : Labels) :
    cluster.patchSwitch base labels = some (cluster.writeSwitch { base.object with labels }) := by
  rw [Cluster.patchSwitch, Store.current_of_stored stored, map_some, mergeLabels_self]

lemma ensures_require {written : Option Cluster} {answer : Except ApiError Unit}
    (accepted : Accepted cluster written answer after) (here : always cluster)
    (effect : ∀ next, written = some next → always next ∧ returned () next) :
    Ensures Serves always returned after (require answer) := by
  rcases accepted with ⟨rfl, failed⟩ | isWritten
  · cases answer with
    | error cause => exact here
    | ok value => exact absurd rfl failed
  · cases answer with
    | error cause => exact (effect after isWritten).1
    | ok value => exact effect after isWritten

lemma returns_require {α : Type} (value : α) :
    Returns Serves (require (.ok value)) cluster value cluster :=
  returns_done value

lemma attains_listNodes {α : Type} {returned : α → Cluster → Prop}
    {next : List (Copy Node) → Action α} (here : always cluster)
    (rest : Attains Serves always returned cluster (next (entries cluster.nodes))) :
    Attains Serves always returned cluster (do next (← require (← ask Request.listNodes))) := by
  have possible : Serves cluster .listNodes (Except.ok (entries cluster.nodes)) cluster :=
    ⟨rfl, fun items same => (Except.ok.inj same).symm⟩
  refine attains_ask here possible rest.2 fun answer after served => ?_
  obtain ⟨rfl, complete⟩ := served
  cases answer with
  | error cause => exact here
  | ok items =>
    cases complete items rfl
    exact rest.1

lemma attains_listSwitches {α : Type} {returned : α → Cluster → Prop}
    {next : List (Copy Switch) → Action α} (here : always cluster)
    (rest : Attains Serves always returned cluster (next (entries cluster.switches))) :
    Attains Serves always returned cluster (do next (← require (← ask Request.listSwitches))) := by
  have possible : Serves cluster .listSwitches
      (Except.ok (entries cluster.switches)) cluster :=
    ⟨rfl, fun items same => (Except.ok.inj same).symm⟩
  refine attains_ask here possible rest.2 fun answer after served => ?_
  obtain ⟨rfl, complete⟩ := served
  cases answer with
  | error cause => exact here
  | ok items =>
    cases complete items rfl
    exact rest.1

/-- An object is skipped if it has no label to remove, and patched otherwise. -/
lemma attains_patchLabels {labels : Labels} {failure : LockedLabel → ReconcileError}
    {patch : Labels → Action Unit} (here : always cluster)
    (skipped : clearedLabels remove labels = labels → returned () cluster)
    (patched : Attains Serves always returned cluster (patch (clearedLabels remove labels))) :
    Attains Serves always returned cluster
      (patchLabels runtime labels ∅ (some remove) failure patch) := by
  rcases reconcileLabelMap_clears runtime remove labels with ⟨changed, reconciled, quiet⟩
  rw [patchLabels, reconciled]
  dsimp only
  split_ifs with isChanged
  · exact patched
  · exact attains_done here (skipped (quiet (Bool.eq_false_of_not_eq_true isChanged)))

end

/-! ## The sweeps -/

/-- Where a reset is before it patches the Topology. -/
structure ResetStage (topology : ManagedTopology) (start : Cluster)
    (nodes : List (Copy Node)) (switches : List (Copy Switch))
    (cluster : Cluster) : Prop where
  fabricNodes : cluster.fabricNodes = start.fabricNodes
  nodes : UpdatedAt (resetNode topology)
    (nodes.map fun copy => copy.object.name) start.nodes cluster.nodes
  switches : UpdatedAt (resetSwitch topology)
    (switches.map fun copy => copy.object.name) start.switches
    cluster.switches
  topologies : cluster.topologies = start.topologies

/-- What a run of a reset returns with. -/
structure ResetDone (topology : ManagedTopology) (start cluster : Cluster) :
    Prop where
  nodes : Updated (resetNode topology) start.nodes cluster.nodes
  switches : Updated (resetSwitch topology) start.switches cluster.switches
  released : Released topology cluster

/-- What every run of a reset keeps. -/
structure ResetKeeps (topology : ManagedTopology)
    (start cluster : Cluster) : Prop extends
    OnlyReset topology start cluster where
  ordered : cluster.topologies ≠ start.topologies → ResetDone topology start cluster

section

variable {nodes : List (Copy Node)} {switches : List (Copy Switch)}

lemma ResetDone.cleared (done : ResetDone topology start cluster) : Cleared topology cluster where
  nodes name copy stored key matched := by
    have known := done.nodes name
    rw [stored, map_some, eq_comm, map_eq_some_iff] at known
    obtain ⟨old, _, isReset⟩ := known
    rw [← isReset, resetNode, getElem?_clearedLabels]
    exact if_pos matched
  switches name copy stored ofRole := by
    have known := done.switches name
    rw [stored, map_some, eq_comm, map_eq_some_iff] at known
    obtain ⟨old, _, isReset⟩ := known
    rw [← isReset] at ofRole ⊢
    unfold resetSwitch at ofRole ⊢
    split_ifs at ofRole ⊢ with had
    · simp only
      rw [getElem?_clearedLabels]
      exact if_pos (decide_eq_true rfl)
    · exact absurd ofRole had

lemma ResetDone.sameObjects (left : ResetDone topology start cluster)
    (right : ResetDone topology start other) : SameObjects cluster other :=
  ⟨left.nodes.unique right.nodes, left.switches.unique right.switches⟩

lemma OnlyReset.then {final : Cluster} (first : OnlyReset topology start cluster)
    (second : ResetDone topology cluster final) :
    ResetDone topology start final where
  nodes := first.nodes.then (resetNode_idem topology) second.nodes
  switches := first.switches.then (resetSwitch_idem topology) second.switches
  released := second.released

lemma resetStage_start (topology : ManagedTopology) (start : Cluster) :
    ResetStage topology start [] [] start where
  fabricNodes := rfl
  nodes := updatedAt_nil _ _
  switches := updatedAt_nil _ _
  topologies := rfl

lemma ResetStage.keeps (stage : ResetStage topology start nodes switches cluster) :
    ResetKeeps topology start cluster where
  fabricNodes := stage.fabricNodes
  nodes := stage.nodes.partly
  switches := stage.switches.partly
  topologies name _ := by rw [stage.topologies]
  ordered changed := absurd stage.topologies changed

/-- The next copy of a list of all copies is stored and not visited yet. -/
lemma next_of_entries {α : Type} {nameOf : α → String} {store : Store α}
    (kept : Kept nameOf revision store) {done rest : List (Copy α)} {copy : Copy α}
    (split : entries store = done ++ copy :: rest) : store[nameOf copy.object]? = some copy ∧
      nameOf copy.object ∉ done.map fun copy => nameOf copy.object := by
  refine ⟨kept.stored_of_mem (by rw [split]; simp), fun visited => ?_⟩
  have once := kept.names_nodup
  rw [split, map_append, map_cons] at once
  exact (disjoint_of_nodup_append once) visited mem_cons_self

/-- The first sweep resets every Node. -/
lemma attains_resetNodes : Attains Serves (ResetKeeps topology start)
      (fun _ => ResetStage topology start (entries start.nodes) [])
      start
      ((entries start.nodes).foldlM (fun _ node => patchNodeLabels runtime node ∅
          (some fun key => (topology.labelTemplate.matchTier key).isSome))
        ()) := by
  refine attains_foldlM (fun done _ => ResetStage topology start done [])
    (fun _ _ _ => ResetStage.keeps) ?_ (resetStage_start topology start)
  intro done node rest _ cluster split stage
  obtain ⟨stored, fresh⟩ := next_of_entries start.nodesKept split
  have untouched := stage.nodes node.object.name
  rw [if_neg fresh] at untouched
  have effect := Cluster.patchNode_of_stored (untouched.trans stored)
  refine attains_patchLabels stage.keeps (fun same => ?_) (attains_ask stage.keeps
    (.inr (effect _)) ⟨(), _, returns_require ()⟩ fun answer after served =>
      ensures_require served stage.keeps fun next written => ?_)
  · refine { stage with nodes := ?_ }
    rw [map_append, map_singleton]
    refine stage.nodes.skip fresh stored ?_
    exact congrArg (fun labels => { node.object with labels }) same
  · have advanced : ResetStage topology start (done ++ [node]) [] next := by
      cases (effect _).symm.trans written
      refine { stage with nodes := ?_ }
      rw [map_append, map_singleton]
      exact stage.nodes.write _ stored
    exact ⟨advanced.keeps, advanced⟩

/-- The second sweep resets every Switch. -/
lemma attains_resetSwitches (stage : ResetStage topology start nodes [] cluster) :
    Attains Serves (ResetKeeps topology start) (fun _ => ResetStage topology start nodes
        (entries start.switches)) cluster
      ((entries start.switches).foldlM (fun _ switch =>
          if effectiveSwitchRole switch.object ≠ topology.role then .done ()
          else patchSwitchLabels runtime switch ∅
            (some fun key => key = topologyDomainLabel)) ()) := by
  refine attains_foldlM (fun done _ => ResetStage topology start nodes done)
    (fun _ _ _ => ResetStage.keeps) ?_ stage
  intro done switch rest _ cluster split stage
  obtain ⟨stored, fresh⟩ := next_of_entries start.switchesKept split
  have untouched := stage.switches switch.object.name
  rw [if_neg fresh] at untouched
  have skips (same : resetSwitch topology switch.object = switch.object) :
      ResetStage topology start nodes (done ++ [switch]) cluster := by
    refine { stage with switches := ?_ }
    rw [map_append, map_singleton]
    exact stage.switches.skip fresh stored same
  by_cases ofRole : effectiveSwitchRole switch.object = topology.role
  · rw [if_neg (not_not.2 ofRole)]
    have effect := Cluster.patchSwitch_of_stored (untouched.trans stored)
    refine attains_patchLabels stage.keeps (fun same => skips ?_) (attains_ask stage.keeps
      (.inr (effect _)) ⟨(), _, returns_require ()⟩ fun answer after served =>
        ensures_require served stage.keeps fun next written => ?_)
    · rw [resetSwitch, if_pos ofRole, same]
    · have advanced : ResetStage topology start nodes (done ++ [switch]) next := by
        cases (effect _).symm.trans written
        refine { stage with switches := ?_ }
        rw [map_append, map_singleton]
        have written := stage.switches.write (cluster.revision + 1) stored
        rw [resetSwitch, if_pos ofRole] at written
        exact written
      exact ⟨advanced.keeps, advanced⟩
  · rw [if_pos ofRole]
    exact attains_done stage.keeps (skips (if_neg ofRole))

end

/-! ## The whole reset -/

section

variable {copy : Copy TopologyResource}

/-- After the sweeps, a patch of the Topology takes its finalizer and nothing else. -/
lemma ResetStage.patchTopology {after : Cluster} {finalizers : List String}
    (stage : ResetStage topology start (entries start.nodes)
      (entries start.switches) cluster)
    (stored : cluster.topologies[topology.name]? = some copy)
    (named : copy.object.name = topology.name) (removed : autoTopologyFinalizer ∉ finalizers)
    (patched : cluster.patchTopology copy finalizers = some after) :
    ResetKeeps topology start after ∧ ResetDone topology start after := by
  rw [Cluster.patchTopology, named, Store.current_of_stored stored,
    map_some, some.injEq] at patched
  have frame : after.fabricNodes = cluster.fabricNodes ∧
      after.nodes = cluster.nodes ∧ after.switches = cluster.switches ∧
      (∀ name, name ≠ topology.name → after.topologies[name]? = cluster.topologies[name]?) ∧
      Released topology after := by
    rw [← patched]
    split_ifs
    · refine ⟨rfl, rfl, rfl, fun name other => ?_, fun current found => ?_⟩
      · rw [Cluster.eraseTopology, getElem?_erase, named, if_neg (Ne.symm other)]
      · rw [Cluster.eraseTopology, getElem?_erase, if_pos named] at found
        cases found
    · refine ⟨rfl, rfl, rfl, fun name other => ?_, fun current found => ?_⟩
      · rw [Cluster.writeTopology, Store.getElem?_write, named, if_neg (Ne.symm other)]
      · rw [Cluster.writeTopology, Store.getElem?_write, if_pos named] at found
        cases found
        exact removed
  obtain ⟨fabricNodes, nodes, switches, others, released⟩ := frame
  have done : ResetDone topology start after := by
    refine ⟨?_, ?_, released⟩
    · rw [nodes]
      exact stage.nodes.all start.nodesKept
    · rw [switches]
      exact stage.switches.all start.switchesKept
  refine ⟨{
    fabricNodes := fabricNodes.trans stage.fabricNodes
    nodes := by rw [nodes]; exact stage.nodes.partly
    switches := by rw [switches]; exact stage.switches.partly
    topologies := fun name other => ?_
    ordered := fun _ => done }, done⟩
  rw [others name other, stage.topologies]

/-- Every run of a reset keeps what it should, and some run returns. -/
lemma attains_resetTopology (runtime : Runtime) (topology : ManagedTopology)
    (stored : start.topologies[topology.name]? = some copy) :
    Attains Serves (ResetKeeps topology start) (fun _ => ResetDone topology start) start
      (resetTopology runtime copy topology) := by
  have here := (resetStage_start topology start).keeps
  have named := (start.topologiesKept topology.name copy stored).2
  refine attains_listNodes here (attains_listSwitches here ?_)
  refine attains_resetNodes.bind fun _ swept stage => ?_
  refine (attains_resetSwitches stage).bind fun _ cluster stage => ?_
  have still : cluster.topologies[topology.name]? = some copy := by rw [stage.topologies, stored]
  have current := Store.current_of_stored still
  rw [← named] at current
  exact attains_ask stage.keeps (.inr (by rw [Cluster.patchTopology, current, map_some]))
    ⟨(), _, returns_require ()⟩ fun answer after served =>
      ensures_require served stage.keeps fun next patched =>
        stage.patchTopology still named (by simp [removeString]) patched

/--
Wherever a reset stops, only labels of the Topology are gone.  The Topology is
untouched unless all of them are.  A reset can return, and when it does, the
labels and the finalizer are gone.  Resetting again ends with the objects of a
reset which does not stop.
-/
theorem resetTopology_complete_and_restartable (runtime : Runtime)
    (topology : ManagedTopology) (start : Cluster) (copy : Copy TopologyResource)
    (stored : start.topologies[topology.name]? = some copy)
    (cluster : Cluster) (rest : Action Unit)
    (comes : Comes Serves (start, resetTopology runtime copy topology) (cluster, rest)) :
    OnlyReset topology start cluster ∧ (cluster.topologies ≠ start.topologies →
        Cleared topology cluster ∧ Released topology cluster ∧
          ∀ unfailed, Returns Serves (resetTopology runtime copy topology)
            start () unfailed → SameObjects cluster unfailed) ∧
      (∃ unfailed, Returns Serves (resetTopology runtime copy topology) start () unfailed) ∧
      (∀ unfailed, Returns Serves (resetTopology runtime copy topology) start () unfailed →
        Cleared topology unfailed ∧ Released topology unfailed) ∧
      ∀ (again : Runtime) (current : Copy TopologyResource),
        cluster.topologies[topology.name]? = some current →
          (∃ final, Returns Serves (resetTopology again current topology) cluster () final) ∧
          ∀ final unfailed, Returns Serves (resetTopology again current topology) cluster () final →
            Returns Serves (resetTopology runtime copy topology) start () unfailed →
            SameObjects final unfailed ∧ Released topology final := by
  have attains := attains_resetTopology runtime topology stored
  have keeps := (Comes.ensures comes attains.1).here
  have atOnce {unfailed : Cluster}
      (returns : Returns Serves (resetTopology runtime copy topology) start
        () unfailed) : ResetDone topology start unfailed :=
    (Comes.ensures returns attains.1).2
  refine ⟨keeps.toOnlyReset, fun patched => ?_, ?_, fun unfailed returns => ?_,
    fun again current isStored => ?_⟩
  · have done := keeps.ordered patched
    exact ⟨done.cleared, done.released, fun unfailed returns => done.sameObjects (atOnce returns)⟩
  · rcases attains.2 with ⟨_, unfailed, returns⟩
    exact ⟨unfailed, returns⟩
  · exact ⟨(atOnce returns).cleared, (atOnce returns).released⟩
  · have attainsAgain := attains_resetTopology again topology isStored
    refine ⟨?_, fun final unfailed returnsAgain returns => ?_⟩
    · rcases attainsAgain.2 with ⟨_, final, returns⟩
      exact ⟨final, returns⟩
    · have later : ResetDone topology cluster final := (Comes.ensures returnsAgain attainsAgain.1).2
      exact ⟨(keeps.toOnlyReset.then later).sameObjects (atOnce returns), later.released⟩

/-- A cluster with a deleted Topology and a Node with one of its labels. -/
def deletedTopology : Cluster :=
  (Cluster.empty.writeTopology ⟨topologyScaleOut, true, [autoTopologyFinalizer]⟩).writeNode
    ⟨"node", ((∅ : Labels).insert "tier1" "group1").insert "zone" "z1"⟩

/-- A reset of that cluster which is not interrupted leaves the other label. -/
theorem resetTopology_restartable_deleted : ∃ copy final node,
      deletedTopology.topologies[topologyScaleOut]? = some copy ∧
      Returns Serves (resetTopology .canonical copy ⟨topologyScaleOut, .scaleOut, ⟨"tier", ""⟩⟩)
        deletedTopology () final ∧ Released ⟨topologyScaleOut, .scaleOut, ⟨"tier", ""⟩⟩ final ∧
      final.nodes["node"]? = some node ∧ node.object.labels["tier1"]? = none ∧
      node.object.labels["zone"]? = some "z1" := by
  have stored : deletedTopology.topologies[topologyScaleOut]? =
      some ⟨1, ⟨topologyScaleOut, true, [autoTopologyFinalizer]⟩⟩ := by
    rw [deletedTopology, Cluster.writeNode, Cluster.writeTopology, Store.getElem?_write]
    exact if_pos rfl
  have law := resetTopology_complete_and_restartable .canonical
    ⟨topologyScaleOut, .scaleOut, ⟨"tier", ""⟩⟩ _ _ stored
  obtain ⟨final, returns⟩ := (law _ _ .refl).2.2.1
  obtain ⟨only, _, _, gone, _⟩ := law _ _ returns
  obtain ⟨cleared, released⟩ := gone final returns
  have held : ∃ node, final.nodes["node"]? = some node ∧
      node.object.labels["zone"]? = some "z1" := by
    rcases only.nodes "node" with same | reset
    · exact ⟨_, same, by decide +kernel⟩
    · obtain ⟨node, found, isReset⟩ := map_eq_some_iff.1 reset
      exact ⟨node, found, by rw [isReset]; decide +kernel⟩
  obtain ⟨node, found, zone⟩ := held
  exact ⟨_, final, node, stored, returns, released, found,
    cleared.nodes _ _ found _ (by decide +kernel), zone⟩

end

end Unifabric.SwitchTopology
