import Unifabric.SwitchTopology.LockedLabels

/-!
# Ownership before labels

A Reconcile should patch labels of a role only while the Topology of the role
exists and carries the finalizer, so that a deletion waits for the reset.  The
check for deletion, the finalizer and the patches are separate requests, and
other clients may delete or create Topologies in between.  The guarantee holds
unless `ensureTopologyFinalizer` reads a Topology which is being deleted and
does not carry the finalizer: then it returns without taking ownership, and the
labels are patched all the same.
-/

namespace Unifabric.SwitchTopology

open Lib V1beta1 TopologyLabel GoMap Option Relation

/-! ## Other clients -/

/-- The cluster after a deletion: finalizers keep a Topology. -/
def Cluster.deleteTopology (cluster : Cluster) (name : String) : Cluster :=
  match cluster.topologies[name]? with
  | none => cluster
  | some copy =>
    if copy.object.finalizers = [] then cluster.eraseTopology name
    else cluster.writeTopology { copy.object with deletionTimestamp := true }

/-- The cluster after another controller has set finalizers. -/
def Cluster.setFinalizers (cluster : Cluster) (name : String)
    (finalizers : List String) : Cluster :=
  match cluster.topologies[name]? with
  | none => cluster
  | some copy =>
    if copy.object.deletionTimestamp ∧ finalizers = [] then
      cluster.eraseTopology name
    else cluster.writeTopology { copy.object with finalizers }

/--
What other clients do: they write Nodes, Switches and FabricNodes, create and
delete Topologies, and other controllers set and remove their own finalizers.
-/
inductive ClientWrites (cluster : Cluster) : Cluster → Prop
  | objects {after : Cluster} (writes : OtherWrites cluster after)
      (topologies : after.topologies = cluster.topologies) :
      ClientWrites cluster after
  | create {after : Cluster} {topology : TopologyResource}
      (created : cluster.createTopology topology = some after) :
      ClientWrites cluster after
  | delete (name : String) : ClientWrites cluster (cluster.deleteTopology name)
  | finalizers {name : String} {copy : Copy TopologyResource}
      (stored : cluster.topologies[name]? = some copy)
      {finalizers : List String}
      (others : autoTopologyFinalizer ∈ finalizers ↔
        autoTopologyFinalizer ∈ copy.object.finalizers) :
      ClientWrites cluster (cluster.setFinalizers name finalizers)

/-- The Topology exists and carries the finalizer. -/
def topologyOwned (cluster : Cluster) (name : String) : Bool :=
  cluster.topologies[name]?.any fun copy => autoTopologyFinalizer ∈ copy.object.finalizers

section

variable {cluster after : Cluster} {name : String}

lemma owned_iff : topologyOwned cluster name = true ↔
    ∃ copy, cluster.topologies[name]? = some copy ∧
      autoTopologyFinalizer ∈ copy.object.finalizers := by
  simp [topologyOwned, any_eq_true]

lemma owned_writeTopology (isOwned : topologyOwned cluster name = true)
    (keeps : topology.name = name → autoTopologyFinalizer ∈ topology.finalizers) :
    topologyOwned (cluster.writeTopology topology) name = true := by
  obtain ⟨copy, stored, finalized⟩ := owned_iff.1 isOwned
  refine owned_iff.2 ?_
  rw [Cluster.writeTopology, Store.getElem?_write]
  split_ifs with same
  · exact ⟨_, rfl, keeps same⟩
  · exact ⟨copy, stored, finalized⟩

lemma owned_of_written (finalized : autoTopologyFinalizer ∈ topology.finalizers) :
    topologyOwned (cluster.writeTopology topology) topology.name = true := by
  refine owned_iff.2 ?_
  rw [Cluster.writeTopology, Store.getElem?_write, if_pos rfl]
  exact ⟨_, rfl, finalized⟩

lemma owned_eraseTopology {other : String} (isOwned : topologyOwned cluster name = true)
    (differs : other ≠ name) : topologyOwned (cluster.eraseTopology other) name = true := by
  obtain ⟨copy, stored, finalized⟩ := owned_iff.1 isOwned
  refine owned_iff.2 ⟨copy, ?_, finalized⟩
  rw [Cluster.eraseTopology, getElem?_erase, if_neg differs, stored]

lemma owned_congr (same : after.topologies = cluster.topologies)
    (isOwned : topologyOwned cluster name = true) : topologyOwned after name = true := by
  rw [topologyOwned, same]
  exact isOwned

lemma owned_createTopology (created : cluster.createTopology topology = some after)
    (isOwned : topologyOwned cluster name = true) : topologyOwned after name = true := by
  unfold Cluster.createTopology at created
  split_ifs at created with exists_
  cases created
  refine owned_writeTopology isOwned fun same => ?_
  obtain ⟨copy, stored, _⟩ := owned_iff.1 isOwned
  rw [← same] at stored
  exact absurd ((mem_iff _ _).2 ⟨copy, stored⟩) exists_

lemma ClientWrites.owned (writes : ClientWrites cluster after)
    (isOwned : topologyOwned cluster name = true) : topologyOwned after name = true := by
  obtain ⟨copy, stored, finalized⟩ := owned_iff.1 isOwned
  cases writes with
  | objects _ topologies => exact owned_congr topologies isOwned
  | create created => exact owned_createTopology created isOwned
  | delete other =>
    unfold Cluster.deleteTopology
    split
    · exact isOwned
    · next current isStored =>
      have named := (cluster.topologiesKept other current isStored).2
      have keeps (same : other = name) : current = copy := by
        rw [same, stored] at isStored
        exact (some.inj isStored).symm
      split_ifs with bare
      · refine owned_eraseTopology isOwned fun same => ?_
        rw [keeps same] at bare
        rw [bare] at finalized
        exact List.not_mem_nil finalized
      · refine owned_writeTopology isOwned fun same => ?_
        rw [keeps (named.symm.trans same)]
        exact finalized
  | finalizers isStored others =>
    next other current finalizers =>
    have named := (cluster.topologiesKept other current isStored).2
    have keeps (same : other = name) : autoTopologyFinalizer ∈ finalizers := by
      rw [same, stored] at isStored
      rw [others, ← some.inj isStored]
      exact finalized
    unfold Cluster.setFinalizers
    rw [isStored]
    dsimp only
    split_ifs with bare
    · refine owned_eraseTopology isOwned fun same => ?_
      have listed := keeps same
      rw [bare.2] at listed
      exact List.not_mem_nil listed
    · exact owned_writeTopology isOwned fun same => keeps (named.symm.trans same)

end

/-! ## Which patches are for a role -/

/-- The answer of a list of FabricNodes. -/
def listedFabricNodes : Exchange Request Answer → Option (List FabricNode)
  | ⟨.listFabricNodes, answer⟩ => Except.toOption answer
  | _ => none

/-- The answer of a list of Switches. -/
def listedSwitches : Exchange Request Answer → Option (List (Copy Switch))
  | ⟨.listSwitches, answer⟩ => Except.toOption answer
  | _ => none

/-- The answer of a list of Nodes. -/
def listedNodes : Exchange Request Answer → Option (List (Copy Node))
  | ⟨.listNodes, answer⟩ => Except.toOption answer
  | _ => none

/-- The plan of a role, from the lists which the Reconcile has read. -/
def rolePlan (runtime : Runtime) (log : Log) (topology : ManagedTopology) :
    Option AutoLabelPlan := do
  let fabricNodes ← log.findSome? listedFabricNodes
  let switches ← log.findSome? listedSwitches
  let nodes ← log.findSome? listedNodes
  (buildAutoLabelPlan (runtime.within ["plan", topology.name])
    topology.role topology.labelTemplate fabricNodes
    (switches.map Copy.object) (nodes.map Copy.object)).toOption

/-- The request patches an object of the plan. -/
def AutoLabelPlan.covers (plan : AutoLabelPlan) : Request → Bool
  | .patchNode base _ => base.object.name ∈ plan.nodes
  | .patchSwitch base _ => base.object.name ∈ plan.switches
  | _ => false

/--
The request patches labels of the role: the Reconcile has planned, and the plan
of the role contains the object.
-/
def patchesFor (runtime : Runtime) (log : Log) (topology : ManagedTopology)
    (request : Request) : Bool :=
  (rolePlan runtime log topology).any fun plan => plan.covers request

/-! ## One Reconcile among other clients -/

/--
One step: another client writes, or the server serves the next request of the
Reconcile.
-/
inductive OwnershipStep (permitted : Log → Request → Cluster → Bool) :
    Cluster × Activation → Cluster × Activation → Prop
  | other {cluster after : Cluster} {activation : Activation}
      (writes : ClientWrites cluster after) :
      OwnershipStep permitted (cluster, activation) (after, activation)
  | serve {cluster after : Cluster} {log : Log} {request : Request}
      {next : Answer request → Action ReconcileResult}
      {answer : Answer request}
      (permits : permitted log request cluster = true)
      (served : Serves cluster request answer after) :
      OwnershipStep permitted (cluster, ⟨log, .call request next⟩)
        (after, ⟨log ++ [⟨request, answer⟩], next answer⟩)

/-- The Reconcile has listed the FabricNodes and plans. -/
def plans (log : Log) : Bool := (log.findSome? listedFabricNodes).isSome

/--
A Topology which `ensureTopologyFinalizer` reads is not being deleted without
the finalizer.
-/
def readsOwnable (log : Log) : Request → Cluster → Bool
  | .getTopology name, cluster =>
    !plans log || cluster.topologies[name]?.all fun copy =>
      !copy.object.deletionTimestamp || decide (autoTopologyFinalizer ∈ copy.object.finalizers)
  | _, _ => true

/-! ## What the log says of ownership -/

/-- The request takes the finalizer away. -/
def Request.releases : Request → Prop
  | .patchTopology _ finalizers => autoTopologyFinalizer ∉ finalizers
  | _ => False

/-- The finalizer was not taken away so far. -/
def NoRelease (log : Log) : Prop := ∀ exchange ∈ log, ¬ exchange.1.releases

/-- The exchange shows that the Topology is owned. -/
def Shows (name : String) : (request : Request) → Answer request → Prop
  | .getTopology other, answer => other = name ∧ ∃ copy, answer = Except.ok copy ∧
        autoTopologyFinalizer ∈ copy.object.finalizers
  | .createTopology topology, answer => topology.name = name ∧
      answer = Except.ok () ∧ autoTopologyFinalizer ∈ topology.finalizers
  | .patchTopology base _, answer => base.object.name = name ∧ answer = Except.ok ()
  | _, _ => False

/-- The Reconcile has read a deleted Topology without the finalizer. -/
def UnownedRead (log : Log) (name : String) : Prop :=
  ∃ (before : Log) (copy : Copy TopologyResource),
    before ++ [⟨Request.getTopology name, Except.ok copy⟩] <+: log ∧
      plans before = true ∧ copy.object.deletionTimestamp = true ∧
      autoTopologyFinalizer ∉ copy.object.finalizers

/-- What `ensureTopologyFinalizer` has done. -/
def Secured (log : Log) (name : String) : Prop :=
  (∃ exchange ∈ log, Shows name exchange.1 exchange.2) ∨ (∃ copy finalizers,
      Answered log (Request.getTopology name) (Except.ok copy) ∧
        Answered log (Request.patchTopology copy finalizers) (Except.ok ())) ∨
    UnownedRead log name

/-- Labels of a role are patched after its Topology is secured. -/
def OwnedPatch (runtime : Runtime) (managed : List ManagedTopology)
    (log : Log) (request : Request) : Prop :=
  ∀ topology ∈ managed, patchesFor runtime log topology request = true →
    NoRelease log ∧ Secured log topology.name

section

variable {log : Log} {name : String}

lemma NoRelease.append (noRelease : NoRelease log) (keeps : ¬ exchange.1.releases) :
    NoRelease (log ++ [exchange]) := by
  exact forall_mem_concat noRelease keeps

lemma Secured.append (secured : Secured log name) (exchange : Exchange Request Answer) :
    Secured (log ++ [exchange]) name := by
  rcases secured with ⟨shown, listed, shows⟩ |
    ⟨copy, finalizers, read, patched⟩ | ⟨before, copy, isPrefix, rest⟩
  · exact .inl ⟨shown, List.mem_append_left _ listed, shows⟩
  · exact .inr (.inl ⟨copy, finalizers, read.append _, patched.append _⟩)
  · exact .inr (.inr ⟨before, copy, isPrefix.trans (List.prefix_append _ _), rest⟩)

lemma findSome?_append_of_some {α : Type} {listed : Exchange Request Answer → Option α}
    {items : α} (found : log.findSome? listed = some items) (exchange : Exchange Request Answer) :
    (log ++ [exchange]).findSome? listed = some items := by
  rw [List.findSome?_append, found]
  rfl

end

/-! ## The phases of a Reconcile -/

/-- The program patches labels of a role after its Topology is secured. -/
abbrev Owns {α : Type} (runtime : Runtime) (managed : List ManagedTopology)
    (returned : Log → α → Prop) (log : Log) (program : Action α) : Prop :=
  program.Obeys (OwnedPatch runtime managed) (fun _ _ => True) returned log

/-- So far the Reconcile has only read Topologies. -/
def Fresh (log : Log) : Prop := ∀ exchange ∈ log, ∃ name, exchange.1 = .getTopology name

/-- The Reconcile has read the lists and plans. -/
structure Listed (fabricNodes : List FabricNode)
    (switches : List (Copy Switch)) (nodes : List (Copy Node))
    (log : Log) : Prop where
  noRelease : NoRelease log
  fabricNodes : log.findSome? listedFabricNodes = some fabricNodes
  switches : log.findSome? listedSwitches = some switches
  nodes : log.findSome? listedNodes = some nodes

section

variable {runtime : Runtime} {managed : List ManagedTopology} {log : Log}
  {fabricNodes : List FabricNode} {switches : List (Copy Switch)}
  {nodes : List (Copy Node)} {α : Type} {returned : Log → α → Prop}

lemma ownedPatch_of_not_patch {request : Request} (other : request.isLabelPatch = false) :
    OwnedPatch runtime managed log request := by
  intro topology _ patches
  have never (plan : AutoLabelPlan) : plan.covers request = false := by
    cases request with
    | patchNode base labels => cases other
    | patchSwitch base labels => cases other
    | _ => rfl
  rw [patchesFor, any_eq_true] at patches
  obtain ⟨plan, _, covers⟩ := patches
  rw [never] at covers
  cases covers

lemma owns_ask {next : Answer request → Action α} (other : request.isLabelPatch = false)
    (continues : ∀ answer, Owns runtime managed returned (log ++ [⟨request, answer⟩])
      (next answer)) :
    Owns runtime managed returned log (Program.ask request >>= next) :=
  ⟨ownedPatch_of_not_patch other, continues⟩

lemma owns_require (returned : Log → α → Prop) {result : Except ApiError α}
    (holds : ∀ value, result = .ok value → returned log value) :
    Owns runtime managed returned log (require result) :=
  obeys_require (fun _ _ _ => trivial) returned holds

lemma Fresh.read (fresh : Fresh log) (name : String) (answer : Answer (.getTopology name)) :
    Fresh (log ++ [⟨.getTopology name, answer⟩]) := by
  exact forall_mem_concat fresh ⟨name, rfl⟩

lemma Fresh.findSome? (fresh : Fresh log) {listed : Exchange Request Answer → Option α}
    (never : ∀ name answer, listed ⟨.getTopology name, answer⟩ = none) :
    log.findSome? listed = none := by
  refine List.findSome?_eq_none_iff.2 fun exchange isListed => ?_
  obtain ⟨request, answer⟩ := exchange
  obtain ⟨name, rfl⟩ := fresh _ isListed
  exact never name answer

lemma owns_releaseUnmanaged (names : List String) (fresh : Fresh log) :
    Owns runtime managed (fun later released => released = false →
      Fresh later) log (releaseUnmanaged managed names) := by
  induction names generalizing log with
  | nil => exact fun _ => fresh
  | cons name rest ih =>
    unfold releaseUnmanaged
    split_ifs
    · exact ih fresh
    · refine owns_ask rfl fun answer => ?_
      split
      · exact ih (fresh.read name _)
      · trivial
      · split_ifs
        · refine owns_ask rfl fun answer => ?_
          refine Program.Obeys.bind (owns_require (fun _ _ => True) fun _ _ => trivial) ?_
          intro later _ _ isFalse
          cases isFalse
        · exact ih (fresh.read name _)

lemma ownedPatch_of_not_planned (unplanned : log.findSome? listedFabricNodes = none) :
    OwnedPatch runtime managed log request := by
  intro topology _ patches
  rw [patchesFor, rolePlan, unplanned] at patches
  cases patches

lemma owns_resetTopology {copy : Copy TopologyResource} (fresh : Fresh log) :
    Owns runtime managed (fun _ _ => True) log (resetTopology runtime copy topology) := by
  have unplanned : log.findSome? listedFabricNodes = none := fresh.findSome? fun _ _ => rfl
  have append {later : Log} {exchange : Exchange Request Answer}
      (before : later.findSome? listedFabricNodes = none)
      (other : listedFabricNodes exchange = none) :
      (later ++ [exchange]).findSome? listedFabricNodes = none := by
    rw [List.findSome?_append, before]
    simp [other]
  unfold resetTopology
  refine owns_ask rfl fun answer => ?_
  refine Program.Obeys.bind (owns_require (fun later _ =>
    later.findSome? listedFabricNodes = none)
    fun _ _ => append unplanned rfl) ?_
  intro log nodes unplanned
  refine owns_ask rfl fun answer => ?_
  refine Program.Obeys.bind (owns_require (fun later _ =>
    later.findSome? listedFabricNodes = none)
    fun _ _ => append unplanned rfl) ?_
  intro log switches unplanned
  refine Program.Obeys.bind (Program.obeys_foldlM (fun later _ =>
    later.findSome? listedFabricNodes = none) ?_ unplanned) ?_
  · intro later _ node _ before
    exact obeys_patchLabels (fun _ _ _ => trivial) before (fun _ => rfl) fun _ _ _ =>
      ⟨ownedPatch_of_not_planned before, fun _ => owns_require _ fun _ _ => append before rfl⟩
  intro log _ unplanned
  refine Program.Obeys.bind (Program.obeys_foldlM (fun later _ =>
    later.findSome? listedFabricNodes = none) ?_ unplanned) ?_
  · intro later _ switch _ before
    split_ifs
    · exact before
    · exact obeys_patchLabels (fun _ _ _ => trivial) before (fun _ => rfl) fun _ _ _ =>
        ⟨ownedPatch_of_not_planned before, fun _ => owns_require _ fun _ _ => append before rfl⟩
  intro log _ unplanned
  exact owns_ask rfl fun answer => owns_require _ fun _ _ => trivial

lemma owns_resetDeleted (topologies : List ManagedTopology) (fresh : Fresh log) :
    Owns runtime managed (fun later deleted => deleted = false →
      Fresh later) log (resetDeleted runtime topologies) := by
  induction topologies generalizing log with
  | nil => exact fun _ => fresh
  | cons topology rest ih =>
    unfold resetDeleted
    refine owns_ask rfl fun answer => ?_
    split
    · exact ih (fresh.read topology.name _)
    · trivial
    · split_ifs
      · refine Program.Obeys.bind (owns_resetTopology (fresh.read topology.name _)) ?_
        intro later _ _ isFalse
        cases isFalse
      · intro isFalse
        cases isFalse
      · exact ih (fresh.read topology.name _)

lemma Listed.append (listed : Listed fabricNodes switches nodes log)
    {exchange : Exchange Request Answer} (keeps : ¬ exchange.1.releases) :
    Listed fabricNodes switches nodes (log ++ [exchange]) where
  noRelease := listed.noRelease.append keeps
  fabricNodes := findSome?_append_of_some listed.fabricNodes exchange
  switches := findSome?_append_of_some listed.switches exchange
  nodes := findSome?_append_of_some listed.nodes exchange

/-- `ensureTopologyFinalizer` secures a Topology which has labels to plan. -/
lemma owns_ensureTopologyFinalizer {name : String} (planning : plans log = true)
    (keeps : Log → Prop) (holds : keeps log)
    (kept : ∀ later (exchange : Exchange Request Answer),
      ¬ exchange.1.releases → keeps later → keeps (later ++ [exchange])) :
    Owns runtime managed (fun later _ => keeps later ∧ (create = true → Secured later name)) log
      (ensureTopologyFinalizer name create) := by
  unfold ensureTopologyFinalizer
  refine owns_ask rfl fun answer => ?_
  have read := kept log ⟨Request.getTopology name, answer⟩ id holds
  split
  · split_ifs with creates
    · refine owns_ask rfl fun created => owns_require _ fun _ isCreated => ?_
      refine ⟨kept _ _ id read, fun _ => .inl ⟨_,
        List.mem_append_right _ (.head _), rfl, isCreated, ?_⟩⟩
      exact List.mem_singleton.2 rfl
    · exact ⟨read, fun isCreate => absurd isCreate creates⟩
  · trivial
  · next copy =>
    split_ifs with skips
    · refine ⟨read, fun _ => ?_⟩
      by_cases finalized : autoTopologyFinalizer ∈ copy.object.finalizers
      · exact .inl ⟨_, List.mem_append_right _ (.head _), rfl, copy, rfl, finalized⟩
      · exact .inr (.inr ⟨log, copy, List.prefix_rfl, planning,
          skips.resolve_right finalized, finalized⟩)
    · have added : ¬ (Request.patchTopology copy (sortValues
          (copy.object.finalizers ++ [autoTopologyFinalizer]))).releases := by
        intro releases
        exact releases (by simp)
      refine owns_ask rfl fun patched => owns_require _ fun _ isPatched => ?_
      cases isPatched
      exact ⟨kept _ _ added read, fun _ => .inr (.inl ⟨copy, _,
        (answered_last _ _).append _, answered_last _ _⟩)⟩

lemma owns_reportConflict {name message : String} : Owns runtime managed (fun _ _ => True) log
      (reportConflict name message) := by
  unfold reportConflict
  refine owns_ask rfl fun answer => ?_
  split
  · exact ⟨ownedPatch_of_not_patch rfl, fun _ => trivial⟩
  · trivial

/-- The role has labels to plan. -/
def Due (runtime : Runtime) (fabricNodes : List FabricNode)
    (switches : List (Copy Switch)) (nodes : List (Copy Node))
    (topology : ManagedTopology) : Prop :=
  ∃ plan, buildAutoLabelPlan (runtime.within ["plan", topology.name])
      topology.role topology.labelTemplate fabricNodes
      (switches.map Copy.object) (nodes.map Copy.object) = .ok plan ∧
    plan.isEmpty = false

/-- The roles with labels to plan are secured. -/
structure SecuredRoles (runtime : Runtime) (fabricNodes : List FabricNode)
    (switches : List (Copy Switch)) (nodes : List (Copy Node))
    (done : List ManagedTopology) (log : Log) : Prop where
  listed : Listed fabricNodes switches nodes log
  secured : ∀ topology ∈ done, Due runtime fabricNodes switches nodes topology →
      Secured log topology.name

lemma SecuredRoles.append (roles : SecuredRoles runtime fabricNodes switches nodes done log)
    (keeps : ¬ exchange.1.releases) :
    SecuredRoles runtime fabricNodes switches nodes done (log ++ [exchange]) where
  listed := roles.listed.append keeps
  secured topology isDone due := (roles.secured topology isDone due).append exchange

lemma owns_planRole {done : List ManagedTopology}
    (roles : SecuredRoles runtime fabricNodes switches nodes done log) :
    Owns runtime managed (fun later _ => SecuredRoles runtime fabricNodes
        switches nodes (done ++ [topology]) later) log
      (planRole runtime fabricNodes (switches.map Copy.object)
        (nodes.map Copy.object) plan topology) := by
  have planning : plans log = true := by
    rw [plans, roles.listed.fabricNodes]
    rfl
  unfold planRole
  split
  · exact Program.Obeys.bind owns_reportConflict fun _ _ _ => trivial
  · next rolePlan planned =>
    refine Program.Obeys.bind (owns_ensureTopologyFinalizer planning
      (SecuredRoles runtime fabricNodes switches nodes done) roles
      fun _ _ keeps holds => holds.append keeps) ?_
    rintro later _ ⟨holds, secures⟩
    split
    · exact Program.Obeys.bind owns_reportConflict fun _ _ _ => trivial
    · refine ⟨holds.listed, fun other isDone due => ?_⟩
      rcases List.mem_append.1 isDone with earlier | isLast
      · exact holds.secured other earlier due
      · cases List.mem_singleton.1 isLast
        obtain ⟨duePlan, isPlan, nonempty⟩ := due
        rw [planned] at isPlan
        cases isPlan
        exact secures (by rw [nonempty]; rfl)

lemma isEmpty_of_covers {plan : AutoLabelPlan} (covers : plan.covers request = true) :
    plan.isEmpty = false := by
  have nonempty {labels : GoMap String Labels} {name : String}
      (listed : name ∈ labels) : labels.isEmpty = false :=
    isEmpty_eq_false_iff.2 ⟨name, listed⟩
  unfold AutoLabelPlan.isEmpty
  cases request with
  | patchNode base labels => rw [nonempty (of_decide_eq_true covers), Bool.false_and]
  | patchSwitch base labels => rw [nonempty (of_decide_eq_true covers), Bool.and_false]
  | _ => cases covers

lemma SecuredRoles.ownedPatch
    (roles : SecuredRoles runtime fabricNodes switches nodes managed log) :
    OwnedPatch runtime managed log request := by
  intro topology isManaged patches
  refine ⟨roles.listed.noRelease, roles.secured topology isManaged ?_⟩
  rw [patchesFor, any_eq_true] at patches
  obtain ⟨plan, isPlan, covers⟩ := patches
  simp only [rolePlan, roles.listed.fabricNodes, roles.listed.switches,
    roles.listed.nodes, bind_eq_bind, bind_some] at isPlan
  refine ⟨plan, ?_, isEmpty_of_covers covers⟩
  revert isPlan
  cases buildAutoLabelPlan (runtime.within ["plan", topology.name])
      topology.role topology.labelTemplate fabricNodes
      (switches.map Copy.object) (nodes.map Copy.object) with
  | error cause =>
    intro isPlan
    cases isPlan
  | ok made =>
    intro isPlan
    exact congrArg Except.ok (some.inj isPlan)

lemma owns_applyPlan {plan : AutoLabelPlan}
    (roles : SecuredRoles runtime fabricNodes switches nodes managed log) :
    Owns runtime managed (fun _ _ => True) log (applyPlan runtime plan nodes switches) := by
  unfold applyPlan
  refine Program.Obeys.bind (Program.obeys_foldlM (fun later _ =>
    SecuredRoles runtime fabricNodes switches nodes managed later) ?_
    roles) ?_
  · intro later _ name _ before
    unfold applyNode
    split
    · trivial
    · exact obeys_patchLabels (fun _ _ _ => trivial) before (fun _ => rfl) fun _ _ _ =>
        ⟨before.ownedPatch, fun _ => owns_require _ fun _ _ => before.append id⟩
  intro log _ roles
  refine (Program.obeys_foldlM (fun later _ =>
    SecuredRoles runtime fabricNodes switches nodes managed later) ?_
    roles).imp fun _ _ _ => trivial
  intro later _ name _ before
  unfold applySwitch
  split
  · trivial
  · exact obeys_patchLabels (fun _ _ _ => trivial) before (fun _ => rfl) fun _ _ _ =>
      ⟨before.ownedPatch, fun _ => owns_require _ fun _ _ => before.append id⟩

lemma Fresh.listed (fresh : Fresh log) : Listed fabricNodes switches nodes
      (log ++ [⟨.listFabricNodes, Except.ok fabricNodes⟩] ++
        [⟨.listSwitches, Except.ok switches⟩] ++ [⟨.listNodes, Except.ok nodes⟩]) where
  noRelease := by
    have noRelease : NoRelease log := by
      intro exchange listed
      obtain ⟨name, isRead⟩ := fresh exchange listed
      rw [isRead]
      exact id
    exact ((noRelease.append id).append id).append id
  fabricNodes := by
    have none : log.findSome? listedFabricNodes = none := fresh.findSome? fun _ _ => rfl
    simp only [List.findSome?_append, none]
    rfl
  switches := by
    have none : log.findSome? listedSwitches = none := fresh.findSome? fun _ _ => rfl
    simp only [List.findSome?_append, none]
    rfl
  nodes := by
    have none : log.findSome? listedNodes = none := fresh.findSome? fun _ _ => rfl
    simp only [List.findSome?_append, none]
    rfl

/-- A Reconcile patches labels of a role after its Topology is secured. -/
lemma owns_reconcile (runtime : Runtime) (managed : List ManagedTopology) :
    Owns runtime managed (fun _ _ => True) [] (reconcile runtime managed) := by
  unfold reconcile
  refine Program.Obeys.bind (owns_releaseUnmanaged _ (by simp [Fresh])) ?_
  intro log released fresh
  split_ifs with isReleased
  · trivial
  refine Program.Obeys.bind (owns_resetDeleted managed
    (fresh (Bool.eq_false_of_not_eq_true isReleased))) ?_
  intro log deleted fresh
  split_ifs with isDeleted
  · trivial
  have onlyReads := fresh (Bool.eq_false_of_not_eq_true isDeleted)
  refine owns_ask rfl fun answer => ?_
  refine Program.Obeys.bind (owns_require (fun later items =>
    later = log ++ [⟨.listFabricNodes, Except.ok items⟩]) ?_) ?_
  · rintro items rfl
    rfl
  rintro _ fabricNodes rfl
  refine owns_ask rfl fun answer => ?_
  refine Program.Obeys.bind (owns_require (fun later items =>
    later = log ++ [⟨.listFabricNodes, Except.ok fabricNodes⟩] ++
      [⟨.listSwitches, Except.ok items⟩]) ?_) ?_
  · rintro items rfl
    rfl
  rintro _ switches rfl
  refine owns_ask rfl fun answer => ?_
  refine Program.Obeys.bind (owns_require (fun later items =>
    SecuredRoles runtime fabricNodes switches items [] later) ?_) ?_
  · rintro items rfl
    exact ⟨onlyReads.listed, by simp⟩
  intro log nodes initial
  refine Program.Obeys.bind (Program.obeys_foldlM_prefix (fun done later _ =>
    SecuredRoles runtime fabricNodes switches nodes done later) ?_
    initial) ?_
  · intro done topology rest later plan _ roles
    exact owns_planRole roles
  intro later plan roles
  exact Program.Obeys.bind (owns_applyPlan roles) fun _ _ _ => trivial

end

/-! ## What the server guarantees -/

/-- What the log says of ownership is true of the cluster. -/
structure OwnershipKept (cluster : Cluster) (log : Log) : Prop where
  named : ∀ name copy, Answered log (Request.getTopology name) (Except.ok copy) →
      copy.object.name = name
  owned : NoRelease log → ∀ name, ∀ exchange ∈ log,
    Shows name exchange.1 exchange.2 → topologyOwned cluster name = true

section

variable {cluster after : Cluster} {log : Log} {request : Request}
  {answer : Answer request} {name : String}

lemma Cluster.patchTopology_writes (patched : cluster.patchTopology base finalizers = some after)
    (finalized : autoTopologyFinalizer ∈ finalizers) :
    ∃ topology : TopologyResource, topology.name = base.object.name ∧
      topology.finalizers = finalizers ∧ after = cluster.writeTopology topology := by
  obtain ⟨stored, found, rfl⟩ := map_eq_some_iff.1 patched
  have named : stored.name = base.object.name := by
    unfold Store.current at found
    split at found
    · cases found
    · next copy isStored =>
      split_ifs at found
      cases found
      exact (cluster.topologiesKept _ copy isStored).2
  have remains : ¬ (stored.deletionTimestamp = true ∧ finalizers = []) := by
    rintro ⟨_, rfl⟩
    exact List.not_mem_nil finalized
  rw [if_neg remains]
  exact ⟨{ stored with finalizers }, named, rfl, rfl⟩

/-- A request which does not take the finalizer away keeps what is owned. -/
lemma Serves.owned (served : Serves cluster request answer after) (keeps : ¬ request.releases)
    (isOwned : topologyOwned cluster name = true) : topologyOwned after name = true := by
  have accepted {written : Option Cluster} {result : Except ApiError Unit}
      (isAccepted : Accepted cluster written result after)
      (effect : written = some after → topologyOwned after name = true) :
      topologyOwned after name = true := by
    rcases isAccepted with ⟨rfl, _⟩ | isWritten
    · exact isOwned
    · exact effect isWritten
  cases request with
  | getTopology other => exact served.1 ▸ isOwned
  | listFabricNodes => exact served.1 ▸ isOwned
  | listSwitches => exact served.1 ▸ isOwned
  | listNodes => exact served.1 ▸ isOwned
  | getCachedTopology other =>
    have same : after = cluster := served
    exact same ▸ isOwned
  | event topology message =>
    have same : after = cluster := served
    exact same ▸ isOwned
  | createTopology topology =>
    exact accepted served fun created => owned_createTopology created isOwned
  | patchTopology base finalizers =>
    refine accepted served fun patched => ?_
    obtain ⟨topology, _, isList, rfl⟩ := Cluster.patchTopology_writes patched (not_not.1 keeps)
    exact owned_writeTopology isOwned fun _ => isList ▸ not_not.1 keeps
  | patchNode base labels =>
    refine accepted served fun patched => ?_
    obtain ⟨node, _, rfl⟩ := map_eq_some_iff.1 patched
    exact owned_congr rfl isOwned
  | patchSwitch base labels =>
    refine accepted served fun patched => ?_
    obtain ⟨switch, _, rfl⟩ := map_eq_some_iff.1 patched
    exact owned_congr rfl isOwned

lemma Serves.shows (served : Serves cluster request answer after) (keeps : ¬ request.releases)
    (isShown : Shows name request answer) : topologyOwned after name = true := by
  have accepted {written : Option Cluster} (isAccepted : Accepted cluster written (.ok ()) after) :
      written = some after := by
    rcases isAccepted with ⟨_, failed⟩ | isWritten
    · exact absurd rfl failed
    · exact isWritten
  cases request with
  | getTopology other =>
    obtain ⟨rfl, copy, isRead, finalized⟩ := isShown
    obtain ⟨rfl, reads⟩ := served
    exact owned_iff.2 ⟨copy, reads copy isRead, finalized⟩
  | createTopology topology =>
    obtain ⟨rfl, rfl, finalized⟩ := isShown
    have created := accepted served
    unfold Cluster.createTopology at created
    split_ifs at created
    cases created
    exact owned_of_written finalized
  | patchTopology base finalizers =>
    obtain ⟨rfl, rfl⟩ := isShown
    rcases Cluster.patchTopology_writes (accepted served)
        (not_not.1 keeps) with ⟨topology, named, isList, rfl⟩
    rw [← named]
    exact owned_of_written (isList ▸ not_not.1 keeps)
  | _ => cases isShown

lemma OwnershipKept.serve (kept : OwnershipKept cluster log)
    (served : Serves cluster request answer after) :
    OwnershipKept after (log ++ [⟨request, answer⟩]) where
  named other copy read := by
    rcases List.mem_append.1 read with earlier | isLast
    · exact kept.named other copy earlier
    · cases List.mem_singleton.1 isLast
      exact (cluster.topologiesKept other copy (served.2 copy rfl)).2
  owned noRelease other exchange listed shows := by
    have keeps : ¬ request.releases :=
      noRelease ⟨request, answer⟩ (List.mem_append_right _ (.head _))
    rcases List.mem_append.1 listed with earlier | isLast
    · refine served.owned keeps (kept.owned ?_ other exchange earlier shows)
      exact fun entry isEntry => noRelease entry (List.mem_append_left _ isEntry)
    · cases List.mem_singleton.1 isLast
      exact served.shows keeps shows

lemma OwnershipKept.other (kept : OwnershipKept cluster log)
    (writes : ClientWrites cluster after) : OwnershipKept after log where
  named := kept.named
  owned noRelease name exchange listed shows :=
    writes.owned (kept.owned noRelease name exchange listed shows)

/-- A secured Topology is owned, unless it was read without the finalizer. -/
lemma OwnershipKept.secured (kept : OwnershipKept cluster log)
    (noRelease : NoRelease log) (secured : Secured log name)
    (ownable : ¬ UnownedRead log name) : topologyOwned cluster name = true := by
  rcases secured with ⟨exchange, listed, shows⟩ | ⟨copy, finalizers, read, patched⟩ | unowned
  · exact kept.owned noRelease name exchange listed shows
  · exact kept.owned noRelease name _ patched ⟨kept.named name copy read, rfl⟩
  · exact absurd unowned ownable

end

/-! ## Runs -/

/-- What holds of the Reconcile under way. -/
structure OwnershipInvariant (runtime : Runtime)
    (managed : List ManagedTopology) (system : Cluster × Activation) :
    Prop where
  reaches : (reconcile runtime managed).Reaches system.2.log system.2.rest
  kept : OwnershipKept system.1 system.2.log
  ownable : ∀ name, ¬ UnownedRead system.2.log name

section

variable {runtime : Runtime} {managed : List ManagedTopology}

lemma not_unownedRead_append (permits : readsOwnable log request cluster = true)
    (served : Serves cluster request answer after) (ownable : ¬ UnownedRead log name) :
    ¬ UnownedRead (log ++ [⟨request, answer⟩]) name := by
  rintro ⟨before, copy, isPrefix, planning, deleted, bare⟩
  rcases List.prefix_concat_iff.1 isPrefix with whole | earlier
  · obtain ⟨rfl, last⟩ := List.append_inj' whole rfl
    cases List.singleton_inj.1 last
    have stored := served.2 copy rfl
    simp [readsOwnable, planning, stored, deleted, bare] at permits
  · exact ownable ⟨before, copy, earlier, planning, deleted, bare⟩

lemma OwnershipInvariant.step (invariant : OwnershipInvariant runtime managed before)
    (step : OwnershipStep readsOwnable before after) :
    OwnershipInvariant runtime managed after := by
  cases step with
  | other writes => exact ⟨invariant.reaches, invariant.kept.other writes, invariant.ownable⟩
  | serve permits served =>
    exact ⟨invariant.reaches.answered _, invariant.kept.serve served,
      fun name => not_unownedRead_append permits served (invariant.ownable name)⟩

lemma ownershipInvariant_of_reachable (reached : ReflTransGen (OwnershipStep readsOwnable)
      (start, ⟨[], reconcile runtime managed⟩) system) :
    OwnershipInvariant runtime managed system := by
  induction reached with
  | refl =>
    refine ⟨.refl, ⟨?_, ?_⟩, ?_⟩
    · intro name copy read
      exact absurd read List.not_mem_nil
    · intro _ name exchange listed
      exact absurd listed List.not_mem_nil
    · rintro name ⟨before, copy, isPrefix, _⟩
      have isNil := List.prefix_nil.1 isPrefix
      simp at isNil
  | tail _ step invariant => exact invariant.step step

/--
In every run in which `ensureTopologyFinalizer` does not read a Topology which
is being deleted without the finalizer, labels of a role are only patched while
the Topology of the role exists and carries the finalizer.
-/
theorem label_patches_are_owned (runtime : Runtime)
    (managed : List ManagedTopology) (start cluster : Cluster) (log : Log)
    (request : Request) (next : Answer request → Action ReconcileResult)
    (reached : Relation.ReflTransGen (OwnershipStep readsOwnable)
      (start, ⟨[], reconcile runtime managed⟩) (cluster, ⟨log, .call request next⟩))
    (topology : ManagedTopology) (isManaged : topology ∈ managed)
    (patches : patchesFor runtime log topology request = true) :
    topologyOwned cluster topology.name = true := by
  have invariant := ownershipInvariant_of_reachable reached
  have obeys := invariant.reaches.obeys (owns_reconcile runtime managed)
  rcases obeys.1 topology isManaged patches with ⟨noRelease, secured⟩
  exact invariant.kept.secured noRelease secured (invariant.ownable topology.name)

end

/-! ## Runs at a server which does not fail -/

/-- A Topology is deleted, if one is named, and the next request is served. -/
def serveNext (permitted : Log → Request → Cluster → Bool)
    (system : Cluster × Activation) (deleted : Option String) : Option (Cluster × Activation) :=
  let before := deleted.elim system.1 system.1.deleteTopology
  match system.2.rest with
  | .call request next =>
    if permitted system.2.log request before then
      let (answer, after) := before.respond request
      some (after, ⟨system.2.log ++ [⟨request, answer⟩], next answer⟩)
    else none
  | _ => none

section

variable {permitted : Log → Request → Cluster → Bool}

lemma reachable_of_serveNext (served : serveNext permitted system deleted = some next) :
    ReflTransGen (OwnershipStep permitted) system next := by
  obtain ⟨cluster, log, rest⟩ := system
  have deletes : ReflTransGen (OwnershipStep permitted) (cluster, ⟨log, rest⟩)
      (deleted.elim cluster cluster.deleteTopology, ⟨log, rest⟩) := by
    cases deleted with
    | none => exact .refl
    | some name => exact .single (.other (.delete name))
  refine deletes.trans ?_
  cases rest with
  | done value => cases served
  | fail failure => cases served
  | call request continues =>
    simp only [serveNext] at served
    split_ifs at served with permits
    cases served
    exact .single (.serve permits (serves_respond _ request))

lemma exists_reachable (permitted : Log → Request → Cluster → Bool)
    (system : Cluster × Activation) (schedule : List (Option String))
    (check : Cluster → Log → Request → Bool)
    (found : (runEvents (serveNext permitted) system schedule).any (fun reached =>
        match reached.2.rest with
        | .call request _ => check reached.1 reached.2.log request
        | _ => false) = true) :
    ∃ cluster log request next, ReflTransGen (OwnershipStep permitted) system
        (cluster, ⟨log, .call request next⟩) ∧
      check cluster log request = true := by
  obtain ⟨⟨cluster, log, rest⟩, reached, holds⟩ :=
    exists_reached (fun _ _ _ => reachable_of_serveNext) found
  cases rest with
  | done value => cases holds
  | fail failure => cases holds
  | call request next => exact ⟨cluster, log, request, next, reached, holds⟩

/-- A cluster with a Node which is to be labelled. -/
def unlabelledCluster : Cluster :=
  { Cluster.empty.writeNode ⟨"n1", ∅⟩ with
    fabricNodes := (∅ : GoMap String FabricNode).insert "n1"
      ⟨"n1", none, [⟨"up", ⟨"leaf", "p1"⟩⟩], []⟩ }

/-- The Node is labelled after the Topology is created. -/
theorem label_patch_is_owned_after_creation : ∃ cluster log request next,
      Relation.ReflTransGen (OwnershipStep readsOwnable)
        (unlabelledCluster, ⟨[], reconcile .canonical
          [scaleOutTiers]⟩) (cluster, ⟨log, .call request next⟩) ∧
      patchesFor .canonical log scaleOutTiers request = true ∧
      topologyOwned cluster topologyScaleOut = true := by
  obtain ⟨cluster, log, request, next, reached, patches⟩ := exists_reachable readsOwnable
    (unlabelledCluster, ⟨[], reconcile .canonical [scaleOutTiers]⟩)
    [none, none, none, none, none, none, none]
    (fun _ log request => patchesFor .canonical log scaleOutTiers request) (by decide +kernel)
  exact ⟨cluster, log, request, next, reached, patches,
    label_patches_are_owned _ _ _ _ _ _ _ reached scaleOutTiers
      (List.mem_singleton.mpr rfl) patches⟩

/-- The cluster with a Topology which another controller protects. -/
def protectedCluster : Cluster :=
  unlabelledCluster.writeTopology ⟨topologyScaleOut, false, ["protection"]⟩

/--
Another controller's finalizer keeps a Topology which is deleted after the
check for deletions.  The Node is labelled although the Topology does not carry
the finalizer of the controller.
-/
theorem label_patched_without_ownership : ∃ cluster log request next,
      Relation.ReflTransGen (OwnershipStep fun _ _ _ => true)
        (protectedCluster, ⟨[], reconcile .canonical
          [scaleOutTiers]⟩) (cluster, ⟨log, .call request next⟩) ∧
      patchesFor .canonical log scaleOutTiers request = true ∧
      topologyOwned cluster topologyScaleOut = false := by
  obtain ⟨cluster, log, request, next, reached, unowned⟩ := exists_reachable (fun _ _ _ => true)
    (protectedCluster, ⟨[], reconcile .canonical [scaleOutTiers]⟩)
    [none, none, some topologyScaleOut, none, none, none]
    (fun cluster log request => patchesFor .canonical log scaleOutTiers request &&
      !topologyOwned cluster topologyScaleOut) (by decide +kernel)
  rw [Bool.and_eq_true, Bool.not_eq_true'] at unowned
  exact ⟨cluster, log, request, next, reached, unowned⟩

end

end Unifabric.SwitchTopology
