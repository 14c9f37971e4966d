import Unifabric.SwitchTopology.ApiServer
import Unifabric.SwitchTopology.Apply

/-!
# The label controller

`Reconcile` as a program of requests to the API server.  It releases the
finalizer of topologies which are no longer managed, removes the labels of a
managed Topology which is being deleted, and otherwise plans the labels of all
managed roles from one list of each kind and patches them.
-/

namespace Unifabric.SwitchTopology

open Lib V1beta1 TopologyLabel

/-! ## Configuration -/

structure ManagedTopology where
  name : String
  role : SwitchRole
  labelTemplate : Template
  deriving DecidableEq, Repr

/-- The Topology of the scale-out fabric. -/
def topologyScaleOut : String := "scaleout"

/-- The Topology of the storage fabric. -/
def topologyStorage : String := "storage"

/-- The finalizer of the controller. -/
def autoTopologyFinalizer : String := "unifabric.io/auto-discovered-topology-labels"

/-! ## Results -/

/-- When the controller is called again. -/
inductive ReconcileResult where
  | requeueAfterSecond
  | resync
  deriving DecidableEq, Repr

/-- Why a Reconcile fails. -/
inductive ReconcileError where
  | api (cause : ApiError)
  | plan (topology : String) (cause : PlanError)
  | merge (topology : String) (cause : PlanError)
  | nodeDisappeared (node : String)
  | switchDisappeared (switch : String)
  | nodeLabel (node : String) (cause : LockedLabel)
  | switchLabel (switch : String) (cause : LockedLabel)
  deriving DecidableEq, Repr

/-- The text of the error. -/
def ReconcileError.message : ReconcileError → String
  | .api .notFound => "not found"
  | .api .conflict => "conflict"
  | .api .alreadyExists => "already exists"
  | .api (.other message) => message
  | .plan _ cause => cause.message
  | .merge _ cause => cause.message
  | .nodeDisappeared node =>
    "Node " ++ node.quote ++ " disappeared before topology labels could be patched"
  | .switchDisappeared switch =>
    "Switch " ++ switch.quote ++ " disappeared before topology labels could be patched"
  | .nodeLabel node cause => "Node " ++ node.quote ++ ": " ++ cause.message
  | .switchLabel switch cause => "Switch " ++ switch.quote ++ ": " ++ cause.message

/-- A program of the controller. -/
abbrev Action := Program Request Answer ReconcileError

/-- End with the error of a request, or continue with its answer. -/
def require {α : Type} : Except ApiError α → Action α
  | .ok value => .done value
  | .error cause => .fail (.api cause)

/-! ## Plans -/

def AutoLabelPlan.merge (runtime : Runtime) (plan other : AutoLabelPlan) :
    Except PlanError AutoLabelPlan := do
  let withNodes ← (runtime.range ["merge", "nodes"] other.nodes.keys).foldlM (fun current name =>
      let labels := other.nodes.getD name ∅
      (runtime.range ["merge", "nodes", name] labels.keys).foldlM
        (fun (current : AutoLabelPlan) key =>
          current.addNode name key (labels.getD key "")) current) plan
  (runtime.range ["merge", "switches"] other.switches.keys).foldlM (fun current name =>
      let labels := other.switches.getD name ∅
      (runtime.range ["merge", "switches", name] labels.keys).foldlM
        (fun (current : AutoLabelPlan) key =>
          current.addSwitch name key (labels.getD key "")) current)
    withNodes

/-- `empty`. -/
def AutoLabelPlan.isEmpty (plan : AutoLabelPlan) : Bool :=
  plan.nodes.isEmpty && plan.switches.isEmpty

/-! ## Patches -/

/-- Reconcile the labels of an object, and patch it if they change. -/
def patchLabels (runtime : Runtime) (current desired : Labels)
    (removeLabel : Option (String → Bool)) (failure : LockedLabel → ReconcileError)
    (patch : Labels → Action Unit) : Action Unit :=
  match reconcileLabelMap runtime current desired removeLabel with
  | .error cause => .fail (failure cause)
  | .ok (labels, changed) => if changed then patch labels else .done ()

def patchNodeLabels (runtime : Runtime) (base : Copy Node)
    (desired : Labels) (removeLabel : Option (String → Bool)) : Action Unit :=
  patchLabels (runtime.within ["patchNodeLabels", base.object.name])
    base.object.labels desired removeLabel (.nodeLabel base.object.name) fun labels => do
      require (← Program.ask (Request.patchNode base labels))

def patchSwitchLabels (runtime : Runtime) (base : Copy Switch)
    (desired : Labels) (removeLabel : Option (String → Bool)) : Action Unit :=
  patchLabels (runtime.within ["patchSwitchLabels", base.object.name])
    base.object.labels desired removeLabel (.switchLabel base.object.name) fun labels => do
      require (← Program.ask (Request.patchSwitch base labels))

def sortedNestedMapKeys (runtime : Runtime) (site : List String)
    (values : GoMap String Labels) : List String :=
  sortValues (runtime.range site values.keys)

/-- The copies by name. -/
def copiesByName {α : Type} (nameOf : α → String) (items : List (Copy α)) : GoMap String (Copy α) :=
  items.foldl (fun table item => table.insert (nameOf item.object) item) ∅

/-- Patch one Node of the plan. -/
def applyNode (runtime : Runtime) (plan : AutoLabelPlan)
    (nodes : List (Copy Node)) (name : String) : Action Unit :=
  match (copiesByName Node.name nodes)[name]? with
  | none => .fail (.nodeDisappeared name)
  | some node => patchNodeLabels runtime node (plan.nodes.getD name ∅) none

/-- Patch one Switch of the plan. -/
def applySwitch (runtime : Runtime) (plan : AutoLabelPlan)
    (switches : List (Copy Switch)) (name : String) : Action Unit :=
  match (copiesByName Switch.name switches)[name]? with
  | none => .fail (.switchDisappeared name)
  | some switch => patchSwitchLabels runtime switch (plan.switches.getD name ∅) none

def applyPlan (runtime : Runtime) (plan : AutoLabelPlan)
    (nodes : List (Copy Node)) (switches : List (Copy Switch)) :
    Action Unit := do
  (sortedNestedMapKeys runtime ["applyPlan", "nodes"] plan.nodes).foldlM
    (fun _ name => applyNode runtime plan nodes name) ()
  (sortedNestedMapKeys runtime ["applyPlan", "switches"] plan.switches).foldlM
    (fun _ name => applySwitch runtime plan switches name) ()

/-! ## Topologies -/

def removeString (values : List String) (target : String) : List String :=
  values.filter fun value => value ≠ target

def ensureTopologyFinalizer (name : String) (createIfMissing : Bool) : Action Unit := do
  match ← Program.ask (Request.getTopology name) with
  | .error .notFound =>
    if createIfMissing then
      require (← Program.ask (Request.createTopology ⟨name, false, [autoTopologyFinalizer]⟩))
    else .done ()
  | .error cause => .fail (.api cause)
  | .ok copy =>
    if copy.object.deletionTimestamp ∨ autoTopologyFinalizer ∈ copy.object.finalizers then .done ()
    else
      require (← Program.ask (Request.patchTopology copy
        (sortValues (copy.object.finalizers ++ [autoTopologyFinalizer]))))

/-- `releaseUnmanagedFinalizers` of the remaining names. -/
def releaseUnmanaged (managed : List ManagedTopology) : List String → Action Bool
  | [] => .done false
  | name :: rest =>
    if managed.any fun topology => topology.name = name then
      releaseUnmanaged managed rest
    else do
      match ← Program.ask (Request.getTopology name) with
      | .error .notFound => releaseUnmanaged managed rest
      | .error cause => .fail (.api cause)
      | .ok copy =>
        if autoTopologyFinalizer ∉ copy.object.finalizers then
          releaseUnmanaged managed rest
        else do
          require (← Program.ask (Request.patchTopology copy (removeString copy.object.finalizers
              autoTopologyFinalizer)))
          return true

def releaseUnmanagedFinalizers (managed : List ManagedTopology) : Action Bool :=
  releaseUnmanaged managed [topologyScaleOut, topologyStorage]

def resetTopology (runtime : Runtime) (copy : Copy TopologyResource)
    (topology : ManagedTopology) : Action Unit := do
  let nodes ← require (← Program.ask Request.listNodes)
  let switches ← require (← Program.ask Request.listSwitches)
  nodes.foldlM (fun _ node => patchNodeLabels runtime node ∅
      (some fun key => (topology.labelTemplate.matchTier key).isSome)) ()
  switches.foldlM (fun _ switch =>
      if effectiveSwitchRole switch.object ≠ topology.role then .done ()
      else patchSwitchLabels runtime switch ∅ (some fun key => key = topologyDomainLabel)) ()
  require (← Program.ask (Request.patchTopology copy
    (removeString copy.object.finalizers autoTopologyFinalizer)))

/-- Reset the first managed Topology which is being deleted. -/
def resetDeleted (runtime : Runtime) : List ManagedTopology → Action Bool
  | [] => .done false
  | topology :: rest => do
      match ← Program.ask (Request.getTopology topology.name) with
      | .error .notFound => resetDeleted runtime rest
      | .error cause => .fail (.api cause)
      | .ok copy =>
        if copy.object.deletionTimestamp then do
          if autoTopologyFinalizer ∈ copy.object.finalizers then
            resetTopology runtime copy topology
          return true
        else resetDeleted runtime rest

/-! ## Reconcile -/

def reportConflict (name message : String) : Action Unit := do
  match ← Program.ask (Request.getCachedTopology name) with
  | .ok topology => Program.ask (Request.event topology message)
  | .error _ => .done ()

/-- Plan one role. -/
def planRole (runtime : Runtime) (fabricNodes : List FabricNode)
    (switches : List Switch) (nodes : List Node) (plan : AutoLabelPlan)
    (topology : ManagedTopology) : Action AutoLabelPlan :=
  match buildAutoLabelPlan (runtime.within ["plan", topology.name])
      topology.role topology.labelTemplate fabricNodes switches nodes with
  | .error cause => do
      reportConflict topology.name cause.message
      .fail (.plan topology.name cause)
  | .ok rolePlan => do
      ensureTopologyFinalizer topology.name (!rolePlan.isEmpty)
      match plan.merge (runtime.within ["plan", topology.name]) rolePlan with
      | .error cause => do
          reportConflict topology.name cause.message
          .fail (.merge topology.name cause)
      | .ok merged => return merged

def reconcile (runtime : Runtime) (managed : List ManagedTopology) : Action ReconcileResult := do
  if ← releaseUnmanagedFinalizers managed then
    return .requeueAfterSecond
  if ← resetDeleted runtime managed then
    return .requeueAfterSecond
  let fabricNodes ← require (← Program.ask Request.listFabricNodes)
  let switches ← require (← Program.ask Request.listSwitches)
  let nodes ← require (← Program.ask Request.listNodes)
  let plan ← managed.foldlM (planRole runtime fabricNodes (switches.map Copy.object)
      (nodes.map Copy.object)) .empty
  applyPlan runtime plan nodes switches
  return .resync

end Unifabric.SwitchTopology
