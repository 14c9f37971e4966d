import Unifabric.Lib.Program
import Unifabric.Lib.Versioned
import Unifabric.SwitchTopology.Inputs

/-!
# The API server

What the label controller requests of the API server, and what the server does
with it.  Every request may fail, also after it has taken effect.  A patch
carries the version of the copy it was computed from and is rejected if the
object has another one.  Other clients may write anything at any time; what
they write gets a new version.
-/

namespace Unifabric.SwitchTopology

open Lib V1beta1 GoMap Option

variable {cluster after : Cluster}

/-! ## Objects and requests -/

/-- The metadata of a Topology which the controller reads or writes. -/
structure TopologyResource where
  name : String
  deletionTimestamp : Bool
  finalizers : List String
  deriving DecidableEq, Repr

/-- Why a request fails. -/
inductive ApiError where
  | notFound
  | conflict
  | alreadyExists
  | other (message : String)
  deriving DecidableEq, Repr

/-- The requests of the controller. -/
inductive Request where
  | getTopology (name : String)
  | listFabricNodes
  | listSwitches
  | listNodes
  | createTopology (topology : TopologyResource)
  | patchTopology (base : Copy TopologyResource) (finalizers : List String)
  | patchNode (base : Copy Node) (labels : Labels)
  | patchSwitch (base : Copy Switch) (labels : Labels)
  | getCachedTopology (name : String)
  | event (topology : TopologyResource) (message : String)

/-- What a request is answered with. -/
def Answer : Request → Type
  | .getTopology _ => Except ApiError (Copy TopologyResource)
  | .listFabricNodes => Except ApiError (List FabricNode)
  | .listSwitches => Except ApiError (List (Copy Switch))
  | .listNodes => Except ApiError (List (Copy Node))
  | .createTopology _ => Except ApiError Unit
  | .patchTopology _ _ => Except ApiError Unit
  | .patchNode _ _ => Except ApiError Unit
  | .patchSwitch _ _ => Except ApiError Unit
  | .getCachedTopology _ => Except ApiError TopologyResource
  | .event _ _ => Unit

/-- The exchanges of a Reconcile. -/
abbrev Log := List (Exchange Request Answer)

/-! ## The cluster -/

/-- The objects the server stores, and the revision of the last write. -/
structure Cluster where
  revision : Nat
  fabricNodes : GoMap String FabricNode
  nodes : Store Node
  switches : Store Switch
  topologies : Store TopologyResource
  nodesKept : Kept Node.name revision nodes
  switchesKept : Kept Switch.name revision switches
  topologiesKept : Kept TopologyResource.name revision topologies

/-- The cluster without objects. -/
def Cluster.empty : Cluster where
  revision := 0
  fabricNodes := ∅
  nodes := ∅
  switches := ∅
  topologies := ∅
  nodesKept := by simp [Kept]
  switchesKept := by simp [Kept]
  topologiesKept := by simp [Kept]

/-- The cluster after a write of a Node. -/
def Cluster.writeNode (cluster : Cluster) (node : Node) : Cluster where
  revision := cluster.revision + 1
  fabricNodes := cluster.fabricNodes
  nodes := cluster.nodes.write node.name (cluster.revision + 1) node
  switches := cluster.switches
  topologies := cluster.topologies
  nodesKept := cluster.nodesKept.write node
  switchesKept := cluster.switchesKept.mono (Nat.le_succ _)
  topologiesKept := cluster.topologiesKept.mono (Nat.le_succ _)

/-- The cluster after a write of a Switch. -/
def Cluster.writeSwitch (cluster : Cluster) (switch : Switch) : Cluster where
  revision := cluster.revision + 1
  fabricNodes := cluster.fabricNodes
  nodes := cluster.nodes
  switches := cluster.switches.write switch.name (cluster.revision + 1) switch
  topologies := cluster.topologies
  nodesKept := cluster.nodesKept.mono (Nat.le_succ _)
  switchesKept := cluster.switchesKept.write switch
  topologiesKept := cluster.topologiesKept.mono (Nat.le_succ _)

/-- The cluster after a write of a Topology. -/
def Cluster.writeTopology (cluster : Cluster) (topology : TopologyResource) : Cluster where
  revision := cluster.revision + 1
  fabricNodes := cluster.fabricNodes
  nodes := cluster.nodes
  switches := cluster.switches
  topologies := cluster.topologies.write topology.name (cluster.revision + 1) topology
  nodesKept := cluster.nodesKept.mono (Nat.le_succ _)
  switchesKept := cluster.switchesKept.mono (Nat.le_succ _)
  topologiesKept := cluster.topologiesKept.write topology

/-- The cluster after a Topology is gone. -/
def Cluster.eraseTopology (cluster : Cluster) (name : String) : Cluster where
  revision := cluster.revision + 1
  fabricNodes := cluster.fabricNodes
  nodes := cluster.nodes
  switches := cluster.switches
  topologies := cluster.topologies.erase name
  nodesKept := cluster.nodesKept.mono (Nat.le_succ _)
  switchesKept := cluster.switchesKept.mono (Nat.le_succ _)
  topologiesKept := (cluster.topologiesKept.erase name).mono (Nat.le_succ _)

/-! ## Patches -/

/--
The labels after a merge patch from the base to the target: labels which the
target lacks are removed, labels which differ are set, others are as they are.
-/
def mergeLabels (base target current : Labels) : Labels :=
  let removed := base.keys.foldl (fun labels key =>
      if key ∈ target then labels else labels.erase key) current
  target.keys.foldl (fun labels key =>
      if base[key]? = target[key]? then labels
      else labels.insert key (target.getD key "")) removed

section

variable (cluster : Cluster)

include cluster

/-- The cluster after a patch of a Node. -/
def Cluster.patchNode (base : Copy Node) (labels : Labels) : Option Cluster :=
  (cluster.nodes.current base.object.name base).map fun node =>
    cluster.writeNode { node with labels := mergeLabels base.object.labels labels node.labels }

/-- The cluster after a patch of a Switch. -/
def Cluster.patchSwitch (base : Copy Switch)
    (labels : Labels) : Option Cluster :=
  (cluster.switches.current base.object.name base).map fun switch =>
    cluster.writeSwitch
      { switch with labels := mergeLabels base.object.labels labels switch.labels }

/--
The cluster after a patch of a Topology.  A deleted Topology is gone with its
last finalizer.
-/
def Cluster.patchTopology (base : Copy TopologyResource)
    (finalizers : List String) : Option Cluster :=
  (cluster.topologies.current base.object.name base).map fun topology =>
    if topology.deletionTimestamp ∧ finalizers = [] then
      cluster.eraseTopology topology.name
    else cluster.writeTopology { topology with finalizers }

/-- The cluster after a Topology is created. -/
def Cluster.createTopology (topology : TopologyResource) : Option Cluster :=
  if topology.name ∈ cluster.topologies then none
  else some (cluster.writeTopology topology)

/-! ## The server -/

/--
A write which is rejected leaves the cluster as it is and fails.  One which is
accepted takes effect, and its answer may still be lost.
-/
def Accepted (written : Option Cluster) (answer : Except ApiError Unit) (after : Cluster) : Prop :=
  (after = cluster ∧ answer ≠ .ok ()) ∨ written = some after

/--
What the server does with a request.  A read which succeeds returns what is
stored; the cache may return anything.
-/
def Serves : (request : Request) → Answer request → Cluster → Prop
  | .getTopology name, answer, after =>
    after = cluster ∧ ∀ copy, answer = .ok copy → cluster.topologies[name]? = some copy
  | .listFabricNodes, answer, after =>
    after = cluster ∧ ∀ items, answer = .ok items → items = entries cluster.fabricNodes
  | .listSwitches, answer, after =>
    after = cluster ∧ ∀ items, answer = .ok items → items = entries cluster.switches
  | .listNodes, answer, after =>
    after = cluster ∧ ∀ items, answer = .ok items → items = entries cluster.nodes
  | .createTopology topology, answer, after =>
    Accepted cluster (cluster.createTopology topology) answer after
  | .patchTopology base finalizers, answer, after =>
    Accepted cluster (cluster.patchTopology base finalizers) answer after
  | .patchNode base labels, answer, after =>
    Accepted cluster (cluster.patchNode base labels) answer after
  | .patchSwitch base labels, answer, after =>
    Accepted cluster (cluster.patchSwitch base labels) answer after
  | .getCachedTopology _, _, after => after = cluster
  | .event _ _, _, after => after = cluster

end

/-- What other clients may do: whatever they write gets a new version. -/
structure OtherWrites (before after : Cluster) : Prop where
  revision : before.revision ≤ after.revision
  nodes : WrittenAfter before.revision before.nodes after.nodes
  switches : WrittenAfter before.revision before.switches after.switches
  topologies : WrittenAfter before.revision before.topologies after.topologies

/-! ## Patches of current copies -/

lemma mergeLabels_self (base target : Labels) : mergeLabels base target base = target := by
  refine Std.ExtTreeMap.ext_getElem? fun key => ?_
  dsimp only [mergeLabels]
  rw [GoMap.getElem?_foldl_keys _ (fun key old =>
      if base[key]? = target[key]? then old else some (target.getD key "")) (by grind)
      _ (GoMap.keys_nodup target),
    GoMap.getElem?_foldl_keys _ (fun key old => if key ∈ target then old else none) (by grind)
      _ (GoMap.keys_nodup base)]
  by_cases inTarget : key ∈ target
  · obtain ⟨text, found⟩ := (GoMap.mem_iff target key).1 inTarget
    rw [if_pos (Std.ExtTreeMap.mem_keys.2 inTarget), GoMap.getD_eq, found]
    split_ifs <;> simp_all
  · have missing := (GoMap.getElem?_eq_none_iff target key).2 inTarget
    rw [if_neg (mt Std.ExtTreeMap.mem_keys.1 inTarget), missing]
    split_ifs with inBase
    · rfl
    · exact (GoMap.getElem?_eq_none_iff base key).2 (mt Std.ExtTreeMap.mem_keys.2 inBase)

lemma Cluster.patchNode_eq_some (truthful : Truthful Node.name cluster.revision cluster.nodes base)
    (patched : cluster.patchNode base labels = some after) :
    cluster.nodes[base.object.name]? = some base ∧
      after = cluster.writeNode { base.object with labels } := by
  obtain ⟨node, found, rfl⟩ := map_eq_some_iff.1 patched
  obtain ⟨stored, rfl⟩ := Store.current_eq_some truthful found
  rw [mergeLabels_self]
  exact ⟨stored, rfl⟩

/-- A patch of a truthful copy of a Switch gives it the labels. -/
lemma Cluster.patchSwitch_eq_some
    (truthful : Truthful Switch.name cluster.revision cluster.switches base)
    (patched : cluster.patchSwitch base labels = some after) :
    cluster.switches[base.object.name]? = some base ∧
      after = cluster.writeSwitch { base.object with labels } := by
  obtain ⟨switch, found, rfl⟩ := map_eq_some_iff.1 patched
  obtain ⟨stored, rfl⟩ := Store.current_eq_some truthful found
  rw [mergeLabels_self]
  exact ⟨stored, rfl⟩

/-! ## What a request changes -/

lemma OtherWrites.refl (cluster : Cluster) : OtherWrites cluster cluster where
  revision := le_refl _
  nodes := .refl _
  switches := .refl _
  topologies := .refl _

lemma otherWrites_writeNode (cluster : Cluster) (node : Node) :
    OtherWrites cluster (cluster.writeNode node) where
  revision := Nat.le_succ _
  nodes := writtenAfter_write _ _ _
  switches := .refl _
  topologies := .refl _

lemma otherWrites_writeSwitch (cluster : Cluster) (switch : Switch) :
    OtherWrites cluster (cluster.writeSwitch switch) where
  revision := Nat.le_succ _
  nodes := .refl _
  switches := writtenAfter_write _ _ _
  topologies := .refl _

lemma otherWrites_writeTopology (cluster : Cluster) (topology : TopologyResource) :
    OtherWrites cluster (cluster.writeTopology topology) where
  revision := Nat.le_succ _
  nodes := .refl _
  switches := .refl _
  topologies := writtenAfter_write _ _ _

lemma otherWrites_eraseTopology (cluster : Cluster) (name : String) :
    OtherWrites cluster (cluster.eraseTopology name) where
  revision := Nat.le_succ _
  nodes := .refl _
  switches := .refl _
  topologies := writtenAfter_erase _ _

lemma Accepted.otherWrites (accepted : Accepted cluster written answer after)
    (writes : written = some after → OtherWrites cluster after) : OtherWrites cluster after := by
  rcases accepted with ⟨rfl, _⟩ | isWritten
  · exact .refl _
  · exact writes isWritten

lemma Serves.otherWrites (served : Serves cluster request answer after) :
    OtherWrites cluster after := by
  cases request with
  | getTopology name => exact served.1 ▸ .refl _
  | listFabricNodes => exact served.1 ▸ .refl _
  | listSwitches => exact served.1 ▸ .refl _
  | listNodes => exact served.1 ▸ .refl _
  | getCachedTopology name =>
    have same : after = cluster := served
    exact same ▸ .refl _
  | event topology message =>
    have same : after = cluster := served
    exact same ▸ .refl _
  | createTopology topology =>
    refine Accepted.otherWrites served fun created => ?_
    unfold Cluster.createTopology at created
    split_ifs at created
    cases created
    exact otherWrites_writeTopology _ _
  | patchTopology base finalizers =>
    refine Accepted.otherWrites served fun patched => ?_
    obtain ⟨topology, _, rfl⟩ := map_eq_some_iff.1 patched
    split_ifs
    · exact otherWrites_eraseTopology _ _
    · exact otherWrites_writeTopology _ _
  | patchNode base labels =>
    refine Accepted.otherWrites served fun patched => ?_
    obtain ⟨node, _, rfl⟩ := map_eq_some_iff.1 patched
    exact otherWrites_writeNode _ _
  | patchSwitch base labels =>
    refine Accepted.otherWrites served fun patched => ?_
    obtain ⟨switch, _, rfl⟩ := map_eq_some_iff.1 patched
    exact otherWrites_writeSwitch _ _

/-! ## A server which does not fail -/

/-- A server which fails no request without a reason. -/
def Cluster.respond (cluster : Cluster) : (request : Request) → Answer request × Cluster
  | .getTopology name =>
    (match cluster.topologies[name]? with
      | some copy => .ok copy
      | none => .error .notFound, cluster)
  | .listFabricNodes => (.ok (entries cluster.fabricNodes), cluster)
  | .listSwitches => (.ok (entries cluster.switches), cluster)
  | .listNodes => (.ok (entries cluster.nodes), cluster)
  | .createTopology topology =>
    match cluster.createTopology topology with
    | some after => (.ok (), after)
    | none => (.error .alreadyExists, cluster)
  | .patchTopology base finalizers =>
    match cluster.patchTopology base finalizers with
    | some after => (.ok (), after)
    | none => (.error .conflict, cluster)
  | .patchNode base labels =>
    match cluster.patchNode base labels with
    | some after => (.ok (), after)
    | none => (.error .conflict, cluster)
  | .patchSwitch base labels =>
    match cluster.patchSwitch base labels with
    | some after => (.ok (), after)
    | none => (.error .conflict, cluster)
  | .getCachedTopology name =>
    (match cluster.topologies[name]? with
      | some copy => .ok copy.object
      | none => .error .notFound, cluster)
  | .event _ _ => ((), cluster)

lemma serves_respond (cluster : Cluster) (request : Request) :
    Serves cluster request (cluster.respond request).1 (cluster.respond request).2 := by
  have written {result : Option Cluster} {error : ApiError} :
      let answered : Except ApiError Unit × Cluster :=
        match result with
        | some after => (.ok (), after)
        | none => (.error error, cluster)
      Accepted cluster result answered.1 answered.2 := by
    cases result with
    | none => exact .inl ⟨rfl, by simp⟩
    | some after => exact .inr rfl
  cases request with
  | getTopology name =>
    refine ⟨rfl, fun copy isRead => ?_⟩
    cases stored : cluster.topologies[name]? with
    | none => simp [Cluster.respond, stored] at isRead
    | some current =>
      simp only [Cluster.respond, stored] at isRead
      exact congrArg some (Except.ok.inj isRead)
  | listFabricNodes => exact ⟨rfl, fun _ isRead => (Except.ok.inj isRead).symm⟩
  | listSwitches => exact ⟨rfl, fun _ isRead => (Except.ok.inj isRead).symm⟩
  | listNodes => exact ⟨rfl, fun _ isRead => (Except.ok.inj isRead).symm⟩
  | createTopology topology => exact written
  | patchTopology base finalizers => exact written
  | patchNode base labels => exact written
  | patchSwitch base labels => exact written
  | getCachedTopology name => rfl
  | event topology message => rfl

end Unifabric.SwitchTopology
