import Unifabric.SwitchTopology.AutoName
import Unifabric.SwitchTopology.Inputs
import Unifabric.SwitchTopology.Normalize
import Unifabric.TopologyLabel.Template

/-!
# The label plan

`buildAutoLabelPlan`: every discovered group is given the name which labels of
its Nodes and Switches lock, or else the next free name of its tier, and the
labels which are missing make up the plan.
-/

namespace Unifabric.SwitchTopology

open Lib V1beta1 TopologyLabel

/-! ## Plans and errors -/

/-- The labels to add, by Node and by Switch name. -/
structure AutoLabelPlan where
  nodes : GoMap String Labels
  switches : GoMap String Labels

/-- `newAutoLabelPlan`. -/
def AutoLabelPlan.empty : AutoLabelPlan := { nodes := ∅, switches := ∅ }

/-- Why no plan is made. -/
inductive PlanError where
  | nodeLabel (node key : String) (cause : AutoNameError)
  | switchLabel (switch : String) (cause : AutoNameError)
  | inputs (cause : InputsError)
  | normalize (cause : NormalizeError)
  | nodeOnlyTier (tier : Int)
  | render (cause : RenderError)
  | missingNode (node : String)
  | missingSwitch (switch : String)
  | multipleLocked (tier : Int) (members names : List String)
  | sharedName (name : String)
  | nodeLocked (node current : String) (tier : Int) (required : String)
  | switchLocked (switch current required : String)
  | conflictingNode (node existing value key : String)
  | conflictingSwitch (switch existing value key : String)
  deriving DecidableEq, Repr

/-- The text of the error. -/
def PlanError.message : PlanError → String
  | .nodeLabel node key cause =>
    "Node " ++ node.quote ++ " label " ++ key.quote ++ ": " ++ cause.message
  | .switchLabel switch cause =>
    "Switch " ++ switch.quote ++ " label " ++ topologyDomainLabel.quote ++ ": " ++ cause.message
  | .inputs cause => cause.message
  | .normalize cause => cause.message
  | .nodeOnlyTier tier => "node-only topology produced unexpected tier " ++ toString tier
  | .render cause => cause.message
  | .missingNode node => "discovered Node " ++ node.quote ++ " does not exist"
  | .missingSwitch switch => "discovered Switch " ++ switch.quote ++ " does not exist"
  | .multipleLocked tier members names =>
    "discovered tier " ++ toString tier ++ " group with Switches [" ++
      ", ".intercalate members ++ "] has multiple locked names: " ++
      ", ".intercalate names
  | .sharedName name =>
    "locked domain name " ++ name.quote ++ " is used by multiple discovered groups"
  | .nodeLocked node current tier required =>
    "Node " ++ node.quote ++ " is locked to " ++ current.quote ++
      " at tier " ++ toString tier ++ " but discovery requires " ++
      required.quote
  | .switchLocked switch current required =>
    "Switch " ++ switch.quote ++ " domain is locked to " ++
      current.quote ++ " but discovery requires " ++ required.quote
  | .conflictingNode node existing value key =>
    "Node " ++ node.quote ++ " has conflicting desired values " ++
      existing.quote ++ " and " ++ value.quote ++ " for label " ++
      key.quote
  | .conflictingSwitch switch existing value key =>
    "Switch " ++ switch.quote ++ " has conflicting desired values " ++
      existing.quote ++ " and " ++ value.quote ++ " for label " ++
      key.quote

/-- Add one desired label, unless another value is desired already. -/
def addDesired (conflict : String → String → String → String → PlanError)
    (desired : GoMap String Labels) (name key value : String) :
    Except PlanError (GoMap String Labels) :=
  let labels := desired.getD name ∅
  match labels[key]? with
  | some existing =>
    if existing ≠ value then .error (conflict name existing value key)
    else .ok (desired.insert name (labels.insert key value))
  | none => .ok (desired.insert name (labels.insert key value))

def AutoLabelPlan.addNode (plan : AutoLabelPlan)
    (name key value : String) : Except PlanError AutoLabelPlan :=
  (addDesired .conflictingNode plan.nodes name key value).map fun nodes =>
    { plan with nodes := nodes }

def AutoLabelPlan.addSwitch (plan : AutoLabelPlan)
    (name key value : String) : Except PlanError AutoLabelPlan :=
  (addDesired .conflictingSwitch plan.switches name key value).map
    fun switches => { plan with switches := switches }

/-! ## Existing names -/

/-- Raise the largest number of a tier. -/
def raiseMax (maxByTier : GoMap Int Int) (tier group : Int) : GoMap Int Int :=
  if maxByTier.getD tier 0 < group then maxByTier.insert tier group
  else maxByTier

/-- Scan one label of a Node. -/
def scanNodeLabel (template : Template) (node : Node) (maxByTier : GoMap Int Int) (key : String) :
    Except PlanError (GoMap Int Int) :=
  match template.matchTier key with
  | none => .ok maxByTier
  | some tier =>
    match parseAutoDomainName (node.labels.getD key "") tier with
    | .error cause => .error (.nodeLabel node.name key cause)
    | .ok group => .ok (raiseMax maxByTier tier group)

variable (runtime : Runtime)

/-- `scanExistingAutoNames` of a Node. -/
def scanExistingAutoNames (template : Template) (maxByTier : GoMap Int Int) (node : Node) :
    Except PlanError (GoMap Int Int) :=
  (runtime.range ["scanExistingAutoNames", node.name] node.labels.keys).foldlM
    (scanNodeLabel template node) maxByTier

def scanExistingAutoMemberName (maxByTier : GoMap Int Int)
    (switch : Switch) : Except PlanError (GoMap Int Int) :=
  let value := switch.labels.getD topologyDomainLabel ""
  if value = "" then .ok maxByTier
  else
    match parseAutoDomainNameParts value with
    | .error cause => .error (.switchLabel switch.name cause)
    | .ok (tier, group) => .ok (raiseMax maxByTier tier group)

/-! ## One group -/

/-- What the group loop looks up. -/
structure PlanContext where
  nodesByName : GoMap String Node
  switchesByName : GoMap String Switch
  syntheticSwitches : GoMap String Bool

/-- What the group loop changes. -/
structure PlanState where
  plan : AutoLabelPlan
  maxByTier : GoMap Int Int
  assignedOwners : GoMap String String

section

variable (context : PlanContext) (tier : Int)

/-- Collect the name a Node of the group is locked to. -/
def lockNode (key : String) (locked : StringSet) (nodeName : String) :
    Except PlanError StringSet :=
  match context.nodesByName[nodeName]? with
  | none => .error (.missingNode nodeName)
  | some node =>
    match node.labels[key]? with
    | none => .ok locked
    | some value =>
      match parseAutoDomainName value tier with
      | .error cause => .error (.nodeLabel nodeName key cause)
      | .ok _ => .ok (locked.insert value ())

/-- Collect the name a Switch of the group is locked to. -/
def lockSwitch (locked : StringSet) (switchName : String) : Except PlanError StringSet :=
  match context.switchesByName[switchName]? with
  | none =>
    if context.syntheticSwitches.getD switchName false then .ok locked
    else .error (.missingSwitch switchName)
  | some switch =>
    let value := switch.labels.getD topologyDomainLabel ""
    if value = "" then .ok locked
    else
      match parseAutoDomainName value tier with
      | .error cause => .error (.switchLabel switchName cause)
      | .ok _ => .ok (locked.insert value ())

/-- The names the members of a group are locked to. -/
def lockedNames (key : String)
    (group : DiscoveredGroup) : Except PlanError StringSet := do
  let byNodes ← group.nodes.foldlM (lockNode context tier key) ∅
  group.members.foldlM (lockSwitch context tier) byNodes

/-- The name of a group, and the largest numbers afterwards. -/
def chooseName (maxByTier : GoMap Int Int) (group : DiscoveredGroup) (locked : StringSet) :
    Except PlanError (String × GoMap Int Int) :=
  match sortedStringSet runtime ["buildAutoLabelPlan", group.internalName, "locked"] locked with
  | [] =>
    let next := wrapInt (maxByTier.getD tier 0 + 1)
    .ok (autoDomainName tier next, maxByTier.insert tier next)
  | [name] => .ok (name, maxByTier)
  | names => .error (.multipleLocked tier group.members names)

/-- The owner of an assigned name. -/
def ownerOf (internalName : String) : String :=
  String.ofList ("tier".toList ++ (digits tier ++ ':' :: internalName.toList))

/-- Claim a name for a group. -/
def claimName (assignedOwners : GoMap String String) (name owner : String) :
    Except PlanError (GoMap String String) :=
  match assignedOwners[name]? with
  | some existing =>
    if existing ≠ owner then .error (.sharedName name)
    else .ok (assignedOwners.insert name owner)
  | none => .ok (assignedOwners.insert name owner)

/-- Plan the label of one Node. -/
def planNode (key assignedName : String) (plan : AutoLabelPlan)
    (nodeName : String) : Except PlanError AutoLabelPlan :=
  match (context.nodesByName[nodeName]?).bind fun node =>
      node.labels[key]? with
  | some current =>
    if current ≠ assignedName then
      .error (.nodeLocked nodeName current tier assignedName)
    else .ok plan
  | none => plan.addNode nodeName key assignedName

/-- Plan the label of one Switch. -/
def planSwitch (assignedName : String) (plan : AutoLabelPlan) (switchName : String) :
    Except PlanError AutoLabelPlan :=
  match context.switchesByName[switchName]? with
  | none =>
    if context.syntheticSwitches.getD switchName false then .ok plan
    else .error (.missingSwitch switchName)
  | some switch =>
    let current := switch.labels.getD topologyDomainLabel ""
    if current ≠ "" then
      if current ≠ assignedName then
        .error (.switchLocked switchName current assignedName)
      else .ok plan
    else plan.addSwitch switchName topologyDomainLabel assignedName

/-- Process one group. -/
def planGroup (key : String) (state : PlanState) (group : DiscoveredGroup) :
    Except PlanError PlanState := do
  let locked ← lockedNames context tier key group
  let (assignedName, maxByTier) ← chooseName runtime tier state.maxByTier group locked
  let assignedOwners ← claimName state.assignedOwners assignedName (ownerOf tier group.internalName)
  let withNodes ← group.nodes.foldlM (planNode context tier key assignedName) state.plan
  let plan ← group.members.foldlM (planSwitch context assignedName) withNodes
  return { plan, maxByTier, assignedOwners }

end

/-! ## All groups -/

/-- The text by which the groups of a tier are ordered. -/
def groupSortKey (group : DiscoveredGroup) : String :=
  "\x00".intercalate group.members ++ "\x01" ++ "\x00".intercalate group.lower

/-- The groups by tier. -/
def groupByTier (groups : List DiscoveredGroup) : GoMap Int (List DiscoveredGroup) :=
  groups.foldl (fun table group =>
      table.insert group.tier (table.getD group.tier [] ++ [group]))
    ∅

/-- Process one tier. -/
def planTier (template : Template) (context : PlanContext) (nodeOnly : Bool)
    (groupsByTier : GoMap Int (List DiscoveredGroup))
    (state : PlanState) (tier : Int) : Except PlanError PlanState :=
  if nodeOnly ∧ tier ≠ 1 then .error (.nodeOnlyTier tier)
  else
    match template.render tier with
    | .error cause => .error (.render cause)
    | .ok key =>
      (runtime.sortSlice (fun left right =>
            decide (groupSortKey left < groupSortKey right))
          (groupsByTier.getD tier [])).foldlM
        (planGroup runtime context tier key) state

/-- The context of the group loop. -/
def planContext (nodes : List Node) (switches : List Switch)
    (inputs : TopologyInputs) : PlanContext :=
  { nodesByName := nodes.foldl (fun table node => table.insert node.name node) ∅
    switchesByName := switches.foldl (fun table switch => table.insert switch.name switch) ∅
    syntheticSwitches := inputs.syntheticSwitches }

/-- The largest numbers the existing labels use. -/
def scanExisting (role : SwitchRole)
    (template : Template) (switches : List Switch) (nodes : List Node) :
    Except PlanError (GoMap Int Int) := do
  let byNodes ← nodes.foldlM (scanExistingAutoNames runtime template) ∅
  (switchesOfRole role switches).foldlM scanExistingAutoMemberName byNodes

/-- The FabricNodes whose Node exists. -/
def eligibleFabricNodes (fabricNodes : List FabricNode) (nodes : List Node) : List FabricNode :=
  fabricNodes.filter fun fabricNode => (nodes.map Node.name).contains fabricNode.name

/-- The discovery run of a plan. -/
def discoverInputs (inputs : TopologyInputs) : Discovery.Topology :=
  Discovery.discoverTopology runtime inputs.hosts inputs.switches
    [Discovery.withHashGroupName, Discovery.withHashLength 40]

/-- Process the discovered groups tier by tier. -/
def planGroups (template : Template)
    (switches : List Switch) (nodes : List Node) (inputs : TopologyInputs)
    (maxByTier : GoMap Int Int) (groups : List DiscoveredGroup) : Except PlanError AutoLabelPlan :=
  let groupsByTier := groupByTier groups
  ((Discovery.sortedTierKeys runtime ["buildAutoLabelPlan", "tiers"] groupsByTier).foldlM
    (planTier runtime template (planContext nodes switches inputs) inputs.nodeOnly groupsByTier)
    { plan := .empty, maxByTier := maxByTier, assignedOwners := ∅ }).map PlanState.plan

def buildAutoLabelPlan (role : SwitchRole)
    (template : Template) (fabricNodes : List FabricNode)
    (switches : List Switch) (nodes : List Node) :
    Except PlanError AutoLabelPlan := do
  let maxByTier ← scanExisting runtime role template switches nodes
  match buildTopologyInputsForRole runtime role
      (eligibleFabricNodes fabricNodes nodes) switches with
  | .error cause => .error (.inputs cause)
  | .ok inputs =>
    if inputs.hosts.isEmpty ∨ inputs.switches.isEmpty then .ok .empty
    else
      match normalizeDiscoveredGroups runtime (discoverInputs runtime inputs) inputs.hosts with
      | .error cause => .error (.normalize cause)
      | .ok groups => planGroups runtime template switches nodes inputs maxByTier groups

end Unifabric.SwitchTopology
