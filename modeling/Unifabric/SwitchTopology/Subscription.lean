import Unifabric.Lib.GlobMatch
import Unifabric.SwitchAgent.Agent
import Unifabric.SwitchTopology.Inputs

/-!
# The subscription to a switch agent

The controller side of a stream: a snapshot is dropped unless its generation
is newer than the last one accepted, its neighbours are classified, counted
and sorted, and the result is written to the status of the Switch.  A stream
which ends marks the Switch as disconnected.
-/

namespace Unifabric.SwitchTopology

open Lib V1beta1 SwitchAgent

/-! ## Errors of a subscription -/

/-- The codes of a stream error which are told apart. -/
inductive StatusCode where
  | invalidArgument
  | failedPrecondition
  | unauthenticated
  | permissionDenied
  | unavailable
  | unknown
  deriving DecidableEq, Repr

/-- The error which ends a stream, with the text it prints. -/
structure SubscriptionError where
  code : StatusCode
  message : String
  deriving DecidableEq, Repr

/-- `strings.Contains` on a list of characters. -/
def containsText (part text : List Char) : Bool := text.tails.any fun rest => part.isPrefixOf rest

def classifySubscriptionError (error : SubscriptionError) : String :=
  let message := error.message.toList.map toLowerAscii
  if error.code = .invalidArgument then "SnapshotRejected"
  else if error.code = .failedPrecondition ∨
      error.code = .unauthenticated ∨ error.code = .permissionDenied then
    "AuthenticationFailed"
  else if containsText "certificate".toList message ∨ containsText "tls".toList message then
    "AuthenticationFailed"
  else "DialFailed"

/-- The error for an entry without a remote name. -/
def malformedNeighbor : SubscriptionError :=
  { code := .invalidArgument
    message :=
      "rpc error: code = InvalidArgument desc = snapshot contains " ++
        "malformed lldp neighbor entry" }

/-- The error of a stream to an agent without a snapshot. -/
def snapshotNotReady : SubscriptionError :=
  { code := .unavailable
    message :=
      "rpc error: code = Unavailable desc = lldp snapshot not ready" }

/-! ## Neighbours of a snapshot -/

/-- `shouldIgnoreSwitchPort`; a bad pattern matches nothing. -/
def shouldIgnoreSwitchPort (port : String) (patterns : List String) : Bool :=
  patterns.any fun pattern => filepathMatch pattern port == some true

/-- `kubernetesNodeNames`: the names as they are, and normalized. -/
def kubernetesNodeNames (nodes : List String) : GoMap String Bool × GoMap String Bool :=
  (nodes.foldl (fun names node => names.insert node true) ∅, nodes.foldl
      (fun names node => names.insert (normalizeResourceName node) true) ∅)

def classifyRemoteSystemType (remoteSystemName : String)
    (nodeNames normalizedNodeNames : GoMap String Bool) : RemoteSystemType :=
  if nodeNames.getD remoteSystemName false ∨
      normalizedNodeNames.getD (normalizeResourceName remoteSystemName) false then
    .kubernetesNode
  else .switch

/-- The identity of a neighbour, without its ports. -/
structure NeighborKey where
  remoteSystemType : RemoteSystemType
  remoteSystemName : String
  deriving DecidableEq, Repr

/-- The key of a neighbour as a pair of texts. -/
def NeighborKey.index (key : NeighborKey) : Lex (String × String) :=
  toLex (key.remoteSystemType.text, key.remoteSystemName)

/-- The neighbours found so far, in order, with their number of links. -/
structure LinkCounts where
  order : List NeighborKey
  linkCounts : GoMap (Lex (String × String)) Int32

/-- Count one entry of a snapshot. -/
def countNeighbor (ignoreSwitchPorts : List String)
    (nodeNames normalizedNodeNames : GoMap String Bool)
    (counts : LinkCounts) (neighbor : SwitchAgent.LldpNeighbor) :
    Except SubscriptionError LinkCounts :=
  if shouldIgnoreSwitchPort neighbor.localPort ignoreSwitchPorts then
    .ok counts
  else if neighbor.remoteSystemName = "" then .error malformedNeighbor
  else
    let key : NeighborKey :=
      { remoteSystemType :=
          classifyRemoteSystemType neighbor.remoteSystemName nodeNames
            normalizedNodeNames
        remoteSystemName := neighbor.remoteSystemName }
    let count := counts.linkCounts.getD key.index 0
    .ok
      { order := if count = 0 then counts.order ++ [key] else counts.order
        linkCounts := counts.linkCounts.insert key.index (count + 1) }

/-- The text of the type of a stored neighbour. -/
def typeText (neighbor : SwitchNeighbor) : String :=
  (neighbor.remoteSystemType.map RemoteSystemType.text).getD ""

/-- The order of the stored neighbours. -/
def neighborLess (left right : SwitchNeighbor) : Bool :=
  if typeText left ≠ typeText right then typeText left < typeText right
  else left.remoteSystemName < right.remoteSystemName

def normalizeSnapshotNeighbors (runtime : Runtime)
    (snapshot : LldpNeighborSnapshot) (ignoreSwitchPorts : List String)
    (nodeNames normalizedNodeNames : GoMap String Bool) :
    Except SubscriptionError (List SwitchNeighbor) := do
  let counts ← snapshot.lldpNeighbors.foldlM
      (countNeighbor ignoreSwitchPorts nodeNames normalizedNodeNames)
      { order := [], linkCounts := ∅ }
  return runtime.sortSlice neighborLess (counts.order.map fun key =>
      { remoteSystemType := some key.remoteSystemType
        remoteSystemName := key.remoteSystemName
        linkCount := counts.linkCounts.getD key.index 0 })

/-! ## The status of a Switch -/

/-- The status of a condition. -/
inductive ConditionStatus where
  | isTrue
  | isFalse
  | isUnknown
  deriving DecidableEq, Repr

/-- A condition of a status. -/
structure Condition where
  type : String
  status : ConditionStatus
  observedGeneration : Int
  lastTransitionTime : Int
  reason : String
  message : String
  deriving DecidableEq, Repr

/-- The status of a Switch. -/
structure SwitchStatus where
  hostname : String
  healthy : Bool
  conditions : List Condition
  lldpNeighborCount : Int32
  lldpNeighbors : List SwitchNeighbor
  deriving DecidableEq, Repr

/-- A Switch, with its metadata generation. -/
structure SwitchObject where
  generation : Int
  status : SwitchStatus
  deriving DecidableEq, Repr

/-- The first condition of a type. -/
def findStatusCondition (conditions : List Condition) (type : String) : Option Condition :=
  conditions.find? fun condition => condition.type = type

/--
The library functions on a status: setting a condition replaces the condition
of its type or adds it and leaves the other types alone, and the semantic
comparison tells equal values.
-/
structure StatusLibrary where
  setStatusCondition : List Condition → Condition → List Condition
  deepEqual : SwitchStatus → SwitchStatus → Bool
  find_set : ∀ conditions condition, (findStatusCondition (setStatusCondition conditions condition)
        condition.type).map Condition.status = some condition.status
  find_set_of_ne : ∀ conditions condition type, type ≠ condition.type →
    findStatusCondition (setStatusCondition conditions condition) type =
      findStatusCondition conditions type
  deepEqual_iff : ∀ left right, deepEqual left right = true ↔ left = right

/-- Replace the condition of the same type in place, or append it. -/
def replaceCondition (condition : Condition) : List Condition → List Condition
  | [] => [condition]
  | first :: rest =>
    if first.type = condition.type then
      { condition with
        lastTransitionTime :=
          if first.status = condition.status then
            first.lastTransitionTime
          else condition.lastTransitionTime } :: rest
    else first :: replaceCondition condition rest

lemma findStatusCondition_cons (first : Condition) (rest : List Condition) (type : String) :
    findStatusCondition (first :: rest) type = if first.type = type then some first
      else findStatusCondition rest type := by
  rw [findStatusCondition, List.find?_cons]
  by_cases found : first.type = type
  · simp [found]
  · simp [found, findStatusCondition]

lemma find_replaceCondition (condition : Condition) (conditions : List Condition) :
    (findStatusCondition (replaceCondition condition conditions)
        condition.type).map Condition.status = some condition.status := by
  induction conditions with
  | nil =>
    rw [replaceCondition, findStatusCondition_cons, if_pos rfl]
    rfl
  | cons first rest ih =>
    by_cases same : first.type = condition.type
    · rw [replaceCondition, if_pos same, findStatusCondition_cons, if_pos rfl]
      rfl
    · rw [replaceCondition, if_neg same, findStatusCondition_cons, if_neg same]
      exact ih

lemma find_replaceCondition_of_ne (condition : Condition) (conditions : List Condition)
    {type : String} (other : type ≠ condition.type) :
    findStatusCondition (replaceCondition condition conditions) type =
      findStatusCondition conditions type := by
  induction conditions with
  | nil => rw [replaceCondition, findStatusCondition_cons, if_neg (Ne.symm other)]
  | cons first rest ih =>
    by_cases same : first.type = condition.type
    · have differs : first.type ≠ type := fun equal => other (equal.symm.trans same)
      rw [replaceCondition, if_pos same, findStatusCondition_cons,
        if_neg (Ne.symm other), findStatusCondition_cons,
        if_neg differs]
    · rw [replaceCondition, if_neg same, findStatusCondition_cons, findStatusCondition_cons, ih]

/-- The library functions with structural equality. -/
def StatusLibrary.structural : StatusLibrary where
  setStatusCondition conditions condition := replaceCondition condition conditions
  deepEqual left right := left = right
  find_set conditions condition := find_replaceCondition condition conditions
  find_set_of_ne conditions condition _ other :=
    find_replaceCondition_of_ne condition conditions other
  deepEqual_iff _ _ := decide_eq_true_iff

section

variable (library : StatusLibrary)

/-- `setSwitchCondition` at a time. -/
def setSwitchCondition (now : Int) (generation : Int) (type : String)
    (conditionStatus : ConditionStatus) (reason message : String)
    (status : SwitchStatus) : SwitchStatus :=
  { status with
    conditions :=
      library.setStatusCondition status.conditions
        { type := type
          status := conditionStatus
          observedGeneration := generation
          lastTransitionTime := now
          reason := reason
          message := message } }

/--
`mutateSwitchStatus`.  The first argument is the error which is left after the
retries, if any.  A Switch which does not exist is left alone, and so is one
whose status does not change.
-/
def mutateSwitchStatus (failure : Option SubscriptionError)
    (mutate : SwitchObject → SwitchStatus) (switch : Option SwitchObject) :
    Except SubscriptionError Unit × Option SwitchObject :=
  match failure, switch with
  | some error, _ => (.error error, switch)
  | none, none => (.ok (), none)
  | none, some object =>
    (.ok (), some (if library.deepEqual object.status (mutate object) then object
        else { object with status := mutate object }))

/-- The status `markSwitchDisconnected` writes. -/
def disconnectedStatus (now : Int) (reason message : String)
    (switch : SwitchObject) : SwitchStatus :=
  setSwitchCondition library now switch.generation "Ready" .isFalse "DataStale" message
    (setSwitchCondition library now switch.generation "Connected" .isFalse
      reason message { switch.status with healthy := false })

def markSwitchDisconnected (failure : Option SubscriptionError) (now : Int)
    (reason message : String) (switch : Option SwitchObject) :
    Except SubscriptionError Unit × Option SwitchObject :=
  mutateSwitchStatus library failure (disconnectedStatus library now reason message) switch

/-- The status `handleSnapshot` writes. -/
def acceptedStatus (now : Int) (hostname : String) (generation : UInt64)
    (neighbors : List SwitchNeighbor) (switch : SwitchObject) :
    SwitchStatus :=
  setSwitchCondition library now switch.generation "Ready" .isTrue "SnapshotAccepted"
    ("accepted LLDP snapshot generation " ++ toString generation.toNat)
    (setSwitchCondition library now switch.generation "Connected" .isTrue "StreamReady"
      "controller is receiving LLDP snapshots from switch agent"
      { switch.status with
        hostname := hostname
        healthy := true
        lldpNeighborCount := Int32.ofNat neighbors.length
        lldpNeighbors := neighbors })

/-- What the calls to the API during one snapshot yield. -/
structure SnapshotCalls where
  /-- The names of the Nodes, unless the list call fails. -/
  nodeList : Option (List String)
  /-- The error of the status write which is left after its retries. -/
  writeFailure : Option SubscriptionError
  now : Int

/-- The neighbours `handleSnapshot` computes. -/
def snapshotNeighbors (runtime : Runtime) (ignoreSwitchPorts : List String)
    (nodeList : Option (List String)) (snapshot : LldpNeighborSnapshot) :
    Except SubscriptionError (List SwitchNeighbor) :=
  let (nodeNames, normalizedNodeNames) := kubernetesNodeNames (nodeList.getD [])
  normalizeSnapshotNeighbors runtime snapshot ignoreSwitchPorts nodeNames normalizedNodeNames

/-- The result of a snapshot, the Switch and the last generation after it. -/
structure SnapshotResult where
  result : Except SubscriptionError Bool
  switch : Option SwitchObject
  lastGeneration : UInt64

def handleSnapshot (runtime : Runtime) (ignoreSwitchPorts : List String)
    (switchName : String) (calls : SnapshotCalls)
    (snapshot : LldpNeighborSnapshot) (switch : Option SwitchObject)
    (lastGeneration : UInt64) : SnapshotResult :=
  if snapshot.generation ≤ lastGeneration then
    { result := .ok false, switch, lastGeneration }
  else
    match snapshotNeighbors runtime ignoreSwitchPorts calls.nodeList snapshot with
    | .error error => { result := .error error, switch, lastGeneration }
    | .ok neighbors =>
      let hostname :=
        if snapshot.switchName = "" then switchName
        else snapshot.switchName
      match mutateSwitchStatus library calls.writeFailure (acceptedStatus library calls.now hostname
            snapshot.generation neighbors) switch with
      | (.error error, switch) => { result := .error error, switch, lastGeneration }
      | (.ok (), switch) =>
        { result := .ok true, switch, lastGeneration := snapshot.generation }

end

end Unifabric.SwitchTopology
