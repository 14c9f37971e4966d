import Unifabric.Lib.Loop
import Unifabric.TopologyLabel.Template
import Unifabric.V1beta1.Topology

/-!
# The status of a Topology from labels

`BuildTopologyStatus`: the labels of the Nodes which match a template are
their paths through the forest of domains, and the Switches are members of the
domains they name.  Conflicting labels of Nodes are an error; a Switch whose
domain is on no Node is pending.
-/

namespace Unifabric.TopologyStatus

open Lib TopologyLabel V1beta1

/-! ## Inputs and results -/

/-- The name and the labels of an object. -/
structure LabeledResource where
  name : String
  labels : Labels

/-- The objects a status is built from. -/
structure LabelSnapshot where
  nodes : List LabeledResource
  switches : List LabeledResource

/-- A status and what is pending. -/
structure BuildResult where
  status : TopologyStatus
  pending : List String
  deriving DecidableEq, Repr

/-- A Go set of names. -/
abbrev NameSet := GoMap String Unit

/-- A domain under construction. -/
structure DomainState where
  domain : TopologyDomain
  parents : NameSet
  members : NameSet

/-- The domains by name. -/
abbrev Domains := GoMap String DomainState

/-- The groups of Nodes by the key of their path. -/
abbrev NodeGroups := GoMap String TopologyNodeGroup

/-! ## Errors -/

/-- Why a text is not the name of a domain. -/
inductive DomainNameError where
  | empty
  | invalid (name : String) (problems : List String)
  deriving DecidableEq, Repr

/-- The text of the error. -/
def DomainNameError.message : DomainNameError → String
  | .empty => "domain name must not be empty"
  | .invalid name problems =>
    "domain name " ++ name.quote ++ " is invalid: " ++ String.intercalate ", " problems

/-- Why a domain cannot be at a tier. -/
inductive EnsureError where
  | range (tier : Int)
  | twoTiers (name : String) (existing tier : Int)
  deriving DecidableEq, Repr

/-- The text of the error. -/
def EnsureError.message : EnsureError → String
  | .range tier => "tier " ++ toString tier ++ " exceeds the Topology API range"
  | .twoTiers name existing tier =>
    "domain " ++ name.quote ++ " appears in both tier " ++
      toString existing ++ " and tier " ++ toString tier

/-- Two label keys of one tier. -/
structure TierConflict where
  tier : Int
  existing : String
  value : String
  deriving DecidableEq, Repr

/-- The text of the error. -/
def TierConflict.message (conflict : TierConflict) : String :=
  "multiple label keys resolve to tier " ++ toString conflict.tier ++
    " with values " ++ conflict.existing.quote ++ " and " ++
    conflict.value.quote

/-- Why a status cannot be built. -/
inductive BuildError where
  | noTemplate
  | nodeTiers (node : String) (conflict : TierConflict)
  | discontinuous (node : String) (expected found : Int)
  | nodeDomainName (node : String) (tier : Int) (reason : DomainNameError)
  | nodeDomain (node : String) (reason : EnsureError)
  | multipleParents (domain : String) (parents : List String)
  | switchDomainName (switch : String) (reason : DomainNameError)
  deriving DecidableEq, Repr

/-- The text of the error. -/
def BuildError.message : BuildError → String
  | .noTemplate => "topology label template must not be nil"
  | .nodeTiers node conflict => "Node " ++ node.quote ++ ": " ++ conflict.message
  | .discontinuous node expected found =>
    "Node " ++ node.quote ++ " has a discontinuous topology path: expected tier " ++
      toString expected ++ ", found tier " ++ toString found
  | .nodeDomainName node tier reason =>
    "Node " ++ node.quote ++ " tier " ++ toString tier ++ ": " ++ reason.message
  | .nodeDomain node reason => "Node " ++ node.quote ++ ": " ++ reason.message
  | .multipleParents domain parents =>
    "domain " ++ domain.quote ++ " has multiple parents: " ++ String.intercalate ", " parents
  | .switchDomainName switch reason => "Switch " ++ switch.quote ++ ": " ++ reason.message

/-! ## Labels -/

/-- The largest tier of the API. -/
def maxTier : Int := 2 ^ 31 - 1

section

variable (runtime : Runtime) (site : List String) (template : Template) (labels : Labels)

/-- The body of the loop of `labelsByTier`. -/
def addTierLabel (result : GoMap Int String) (key : String) :
    Except TierConflict (GoMap Int String) :=
  match template.matchTier key with
  | none => .ok result
  | some tier =>
    let value := labels.getD key ""
    if value = "" then .ok result
    else
      match result[tier]? with
      | some existing =>
        if existing ≠ value then .error ⟨tier, existing, value⟩
        else .ok (result.insert tier value)
      | none => .ok (result.insert tier value)

def labelsByTier : Except TierConflict (GoMap Int String) :=
  (sortValues (runtime.range (site ++ ["keys"]) labels.keys)).foldlM
    (addTierLabel template labels) ∅

def sortedTiers (values : GoMap Int String) : List Int :=
  sortValues (runtime.range (site ++ ["tiers"]) values.keys)

def sortedSet (values : NameSet) : List String :=
  sortValues (runtime.range (site ++ ["set"]) values.keys)

end

/-! ## Nodes -/

/-- The state of the loops over the Nodes. -/
structure BuildState where
  domains : Domains
  nodeGroups : NodeGroups

def nodeGroupKey (path : List String) : String := String.intercalate "\x00" path

def ensureDomain (domains : Domains) (name : String) (tier : Int) : Except EnsureError Domains :=
  if tier > maxTier then .error (.range tier)
  else
    match domains[name]? with
    | some existing =>
      if existing.domain.tier ≠ tier then
        .error (.twoTiers name existing.domain.tier tier)
      else .ok domains
    | none =>
      .ok (domains.insert name
        { domain :=
            { name := name, tier := tier, parent := "",
              switchMember := [] }
          parents := ∅
          members := ∅ })

/-- Append a Node to the group of its path. -/
def addToGroup (nodeGroups : NodeGroups) (path : List String) (nodeName : String) : NodeGroups :=
  match nodeGroups[nodeGroupKey path]? with
  | none =>
    nodeGroups.insert (nodeGroupKey path)
      { name := "", nodes := [nodeName], switchDomainPath := path }
  | some group =>
    nodeGroups.insert (nodeGroupKey path) { group with nodes := group.nodes ++ [nodeName] }

section

variable (isValidLabelValue : String → List String)

/-- `validateDomainName`; the check of the library lists problems. -/
def validateDomainName (name : String) : Except DomainNameError Unit :=
  if name = "" then .error .empty
  else
    match isValidLabelValue name with
    | [] => .ok ()
    | problems => .error (.invalid name problems)

/-- The body of the loop over the tiers of a Node. -/
def checkTier (nodeName : String) (valuesByTier : GoMap Int String)
    (domains : Domains) (entry : Int × Nat) : Except BuildError Domains :=
  if entry.1 ≠ (entry.2 : Int) + 1 then
    .error (.discontinuous nodeName ((entry.2 : Int) + 1) entry.1)
  else
    let value := valuesByTier.getD entry.1 ""
    match validateDomainName isValidLabelValue value with
    | .error reason => .error (.nodeDomainName nodeName entry.1 reason)
    | .ok () =>
      match ensureDomain domains value entry.1 with
      | .error reason => .error (.nodeDomain nodeName reason)
      | .ok ensured => .ok ensured

variable (runtime : Runtime)

/-- The body of the loop which links a Node's domains to their parents. -/
def addParent (nodeName : String) (valuesByTier : GoMap Int String)
    (domains : Domains) (tier : Nat) : Except BuildError Domains :=
  let childName := valuesByTier.getD (tier : Int) ""
  let parentName := valuesByTier.getD ((tier : Int) + 1) ""
  match domains[childName]? with
  | none => .ok domains
  | some child =>
    let parents := child.parents.insert parentName ()
    if parents.size > 1 then
      .error (.multipleParents childName
        (sortedSet runtime ["parents", nodeName, childName] parents))
    else .ok (domains.insert childName { child with parents := parents })

variable (template : Template)

/-- The body of the loop over the Nodes. -/
def addNode (state : BuildState) (node : LabeledResource) : Except BuildError BuildState :=
  match labelsByTier runtime ["labelsByTier", node.name] template node.labels with
  | .error conflict => .error (.nodeTiers node.name conflict)
  | .ok valuesByTier =>
    if valuesByTier.isEmpty then .ok state
    else do
      let tiers := sortedTiers runtime ["sortedTiers", node.name] valuesByTier
      let ensured ← tiers.zipIdx.foldlM
        (checkTier isValidLabelValue node.name valuesByTier) state.domains
      let linked ← (List.range' 1 (tiers.length - 1)).foldlM
        (addParent runtime node.name valuesByTier) ensured
      let path := (List.range' 1 tiers.length).reverse.map
        fun tier : Nat => valuesByTier.getD (tier : Int) ""
      .ok
        { domains := linked, nodeGroups := addToGroup state.nodeGroups path node.name }

end

/-! ## Switches -/

/-- The state of the loop over the Switches. -/
structure SwitchState where
  domains : Domains
  pending : List String

/-- The text about a Switch whose domain is on no Node. -/
def pendingText (switchName value : String) : String :=
  "Switch " ++ switchName.quote ++ " domain " ++ value.quote ++ " has no matching Node domain"

/-- The body of the loop over the Switches. -/
def addSwitch (isValidLabelValue : String → List String)
    (state : SwitchState) (switch : LabeledResource) :
    Except BuildError SwitchState :=
  let value := switch.labels.getD topologyDomainLabel ""
  if value = "" then .ok state
  else
    match validateDomainName isValidLabelValue value with
    | .error reason => .error (.switchDomainName switch.name reason)
    | .ok () =>
      match state.domains[value]? with
      | none =>
        .ok { state with pending := state.pending ++ [pendingText switch.name value] }
      | some domain =>
        .ok { state with
          domains := state.domains.insert value
            { domain with
              members := domain.members.insert switch.name () } }

/-! ## Names of groups -/

def nodeGroupNamePrefix : String := "node-group"

/-- `strconv.Atoi` of a text, as far as the result is positive. -/
def positiveAtoi (text : List Char) : Option Nat :=
  let unsigned :=
    match text with
    | '+' :: rest => rest
    | _ => text
  if unsigned ≠ [] ∧ unsigned.all Char.isDigit then
    (atoi unsigned).filter (0 < ·)
  else none

def parseNodeGroupNumber (name : String) : Option Nat :=
  (nodeGroupNamePrefix.toList.isPrefixOf? name.toList).bind positiveAtoi

/-- The first number from a number on which is not used. -/
def nextFree (used : GoMap Nat Unit) (number : Nat) : Nat :=
  runLoop (fun candidate =>
      if used.contains candidate then some (candidate + 1) else none)
    (used.size + 1) number

/-- The variables of the loop which names groups. -/
structure Naming where
  usedNumbers : GoMap Nat Unit
  nextNumber : Nat
  named : List TopologyNodeGroup

/-- The body of the loop which names groups. -/
def nameGroup (previousNameByKey : GoMap String String) (naming : Naming)
    (group : TopologyNodeGroup) : Naming :=
  let kept := previousNameByKey.getD (nodeGroupKey group.switchDomainPath) ""
  if kept ≠ "" then
    { naming with named := naming.named ++ [{ group with name := kept }] }
  else
    let number := nextFree naming.usedNumbers naming.nextNumber
    { usedNumbers := naming.usedNumbers.insert number ()
      nextNumber := number + 1
      named := naming.named ++
        [{ group with
            name := nodeGroupNamePrefix ++ String.ofList (digits (number : Int)) }] }

def assignNodeGroupNames (groups previous : List TopologyNodeGroup) : List TopologyNodeGroup :=
  let previousNameByKey := previous.foldl (fun table group =>
      table.insert (nodeGroupKey group.switchDomainPath) group.name)
    (∅ : GoMap String String)
  let usedNumbers := previous.foldl (fun used group =>
      match parseNodeGroupNumber group.name with
      | some number => used.insert number ()
      | none => used)
    (∅ : GoMap Nat Unit)
  (groups.foldl (nameGroup previousNameByKey) ⟨usedNumbers, 1, []⟩).named

/-! ## The status -/

/-- The order of the domains: higher tiers first, then names. -/
def domainLess (left right : TopologyDomain) : Bool :=
  if left.tier ≠ right.tier then decide (left.tier > right.tier)
  else decide (left.name < right.name)

/-- The order of the groups: joined paths, then joined Nodes. -/
def groupLess (left right : TopologyNodeGroup) : Bool :=
  if nodeGroupKey left.switchDomainPath ≠ nodeGroupKey right.switchDomainPath then
    decide (nodeGroupKey left.switchDomainPath < nodeGroupKey right.switchDomainPath)
  else
    decide (String.intercalate "\x00" left.nodes < String.intercalate "\x00" right.nodes)

section

variable (runtime : Runtime)

/-- The domain of a state, with its parent and its members. -/
def finishDomain (state : DomainState) : TopologyDomain :=
  { state.domain with
    parent :=
      match sortedSet runtime ["parent", state.domain.name] state.parents with
      | [parent] => parent
      | _ => state.domain.parent
    switchMember :=
      sortedSet runtime ["members", state.domain.name] state.members }

/-- The status behind the loops. -/
def finishStatus (domains : Domains) (nodeGroups : NodeGroups)
    (previousNodeGroups : List TopologyNodeGroup) : TopologyStatus :=
  { domains :=
      runtime.sortSlice domainLess ((runtime.range ["domains"] domains.entries).map
          (finishDomain runtime))
    nodes :=
      assignNodeGroupNames (runtime.sortSlice groupLess
          ((runtime.range ["nodeGroups"] nodeGroups.entries).map
            fun group => { group with nodes := sortValues group.nodes }))
        previousNodeGroups }

/-- The objects in name order. -/
def sortByName (resources : List LabeledResource) : List LabeledResource :=
  runtime.sortSlice (fun left right => decide (left.name < right.name)) resources

def buildTopologyStatus (isValidLabelValue : String → List String)
    (labelTemplate : Option Template) (snapshot : LabelSnapshot)
    (previousNodeGroups : List TopologyNodeGroup) :
    Except BuildError BuildResult :=
  match labelTemplate with
  | none => .error .noTemplate
  | some template => do
      let built ← (sortByName runtime snapshot.nodes).foldlM
        (addNode isValidLabelValue runtime template) ⟨∅, ∅⟩
      let joined ← (sortByName runtime snapshot.switches).foldlM
        (addSwitch isValidLabelValue) ⟨built.domains, []⟩
      .ok
        { status := finishStatus runtime joined.domains built.nodeGroups previousNodeGroups
          pending := sortValues joined.pending }

end

end Unifabric.TopologyStatus
