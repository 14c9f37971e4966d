import Unifabric.Discovery.Topology
import Unifabric.Lib.GoText
import Unifabric.V1beta1.Types

/-!
# Inputs of the discovery

`buildTopologyInputsForRole`: the FabricNodes and Switches of one role become
hosts and switches with neighbours.  Without Switches of the role the leaves
are named after the LLDP hostnames the nodes see (node-only); if every Switch
carries manual neighbours they replace the reported ones (semi-automatic).
-/

namespace Unifabric.SwitchTopology

open Lib V1beta1

/-! ## Names -/

/-- The lower-case ASCII letters and the digits. -/
def isNameChar (c : Char) : Bool := ('a' ≤ c && c ≤ 'z') || ('0' ≤ c && c ≤ '9')

/-- Every run of other characters becomes one dash. -/
def dashRuns (previousDash : Bool) : List Char → List Char
  | [] => []
  | c :: rest =>
    if isNameChar c then c :: dashRuns false rest
    else if previousDash then dashRuns true rest
    else '-' :: dashRuns true rest

def normalizeResourceName (name : String) : String :=
  String.ofList (trimBy (· == '-') (dashRuns false ((trimSpace name).toList.map toLowerAscii)))

def effectiveSwitchRole (switch : Switch) : SwitchRole := switch.role.getD .scaleOut

def nodeNicsForRole (node : FabricNode) : SwitchRole → List NicInfo
  | .scaleOut => if node.nodeRole = some .storage then [] else node.scaleOutNics
  | .scaleUp => []
  | .storage => node.storageNics

/-! ## Manual neighbours -/

/-- Why the inputs cannot be built. -/
inductive InputsError where
  | manualFormat (switch : String)
  | manualEmptyName (switch : String)
  | unknownNeighbor (switch : String) (role : SwitchRole) (neighbor : String)
  | selfReference (switch : String)
  deriving DecidableEq, Repr

/-- The text of the error, without the text of the JSON library. -/
def InputsError.message : InputsError → String
  | .manualFormat switch =>
    "Switch " ++ switch.quote ++ " annotation " ++
      switchNeighborsAnnotation.quote ++ " must be a JSON string array"
  | .manualEmptyName switch =>
    "Switch " ++ switch.quote ++ " annotation " ++ switchNeighborsAnnotation.quote ++
      " contains an empty neighbor name"
  | .unknownNeighbor switch role neighbor =>
    "Switch " ++ switch.quote ++ " annotation " ++
      switchNeighborsAnnotation.quote ++ " references unknown " ++
      role.text ++ " Switch or node-discovered leaf " ++ neighbor.quote
  | .selfReference switch =>
    "Switch " ++ switch.quote ++ " annotation " ++
      switchNeighborsAnnotation.quote ++ " must not reference itself"

def hasManualSwitchNeighbors (switch : Switch) : Bool :=
  switch.annotations.contains switchNeighborsAnnotation

def parseManualSwitchNeighbors (switch : Switch) : Except InputsError (List String) :=
  let raw := trimSpace (switch.annotations.getD switchNeighborsAnnotation "")
  if raw = "" then .ok []
  else
    match unmarshalStrings raw with
    | none => .error (.manualFormat switch.name)
    | some neighbors =>
      if (neighbors.map trimSpace).contains "" then
        .error (.manualEmptyName switch.name)
      else
        .ok (Discovery.dedupeSortedStrings (sortValues (neighbors.map trimSpace)))

/-! ## Builders -/

/-- The neighbours of a switch under construction. -/
structure TopologySwitchBuilder where
  neighbors : List Discovery.Neighbor
  seen : GoMap String Bool

/-- The builders by switch name. -/
abbrev Builders := GoMap String TopologySwitchBuilder

/-- A builder without neighbours. -/
def TopologySwitchBuilder.empty : TopologySwitchBuilder := { neighbors := [], seen := ∅ }

def ensureSwitchBuilder (builders : Builders) (switchName : String) : Builders :=
  if builders.contains switchName then builders
  else builders.insert switchName .empty

/-- `addNeighbor` on a builder. -/
def TopologySwitchBuilder.addNeighbor (builder : TopologySwitchBuilder)
    (neighbor : Discovery.Neighbor) : TopologySwitchBuilder :=
  if neighbor.remoteSystemName = "" then builder
  else if builder.seen.getD neighbor.remoteSystemName false then builder
  else
    { neighbors := builder.neighbors ++ [neighbor]
      seen := builder.seen.insert neighbor.remoteSystemName true }

/-- Add a neighbour to the builder of a switch, which exists afterwards. -/
def addBuilderNeighbor (builders : Builders) (switchName remoteSystemName : String) : Builders :=
  builders.insert switchName ((builders.getD switchName .empty).addNeighbor
      { localDeviceName := switchName, remoteSystemName := remoteSystemName })

/-- `resolveSwitchName`; `none` where the second result is false. -/
def resolveSwitchName (raw : String) (normalizedSwitchNames : GoMap String String)
    (existing : Builders) : Option String :=
  if existing.contains raw then some raw
  else
    match normalizedSwitchNames[normalizeResourceName raw]? with
    | none => none
    | some switchName => if existing.contains switchName then some switchName else none

def canonicalRemoteSystemName (raw : String) (hostNames : GoMap String Bool)
    (normalizedSwitchNames : GoMap String String) : String :=
  if hostNames.getD raw false then raw
  else
    match normalizedSwitchNames[normalizeResourceName raw]? with
    | some switchName => switchName
    | none => raw

/-! ## Host links -/

/-- What the node loop has collected. -/
structure HostLinks where
  builders : Builders
  syntheticSwitches : GoMap String Bool
  participatingHosts : GoMap String Bool

/-- Process one NIC of a node. -/
def addNic (normalizedSwitchNames : GoMap String String)
    (synthetic : Bool) (nodeName : String) (links : HostLinks)
    (nic : NicInfo) : HostLinks :=
  if nic.state ≠ "up" ∨ nic.lldpNeighbor.hostname = "" ∨ nic.lldpNeighbor.port = "" then
    links
  else
    match resolveSwitchName nic.lldpNeighbor.hostname
        normalizedSwitchNames links.builders with
    | some switchName =>
      { links with
        builders := addBuilderNeighbor links.builders switchName nodeName
        participatingHosts :=
          links.participatingHosts.insert nodeName true }
    | none =>
      if synthetic then
        let switchName := normalizeResourceName nic.lldpNeighbor.hostname
        if switchName = "" then links
        else
          { builders := addBuilderNeighbor links.builders switchName nodeName
            syntheticSwitches := links.syntheticSwitches.insert switchName true
            participatingHosts :=
              links.participatingHosts.insert nodeName true }
      else links

/-- Process the NICs of one node. -/
def addFabricNode (role : SwitchRole)
    (normalizedSwitchNames : GoMap String String) (synthetic : Bool)
    (links : HostLinks) (node : FabricNode) : HostLinks :=
  (nodeNicsForRole node role).foldl (addNic normalizedSwitchNames synthetic node.name) links

/-! ## Switch links -/

/-- Process one manual neighbour of a switch. -/
def addManualNeighbor (role : SwitchRole) (switchName : String)
    (normalizedSwitchNames : GoMap String String)
    (syntheticSwitches : GoMap String Bool) (builders : Builders)
    (neighborName : String) : Except InputsError Builders :=
  let resolved :=
    match resolveSwitchName neighborName normalizedSwitchNames builders with
    | some found => some found
    | none =>
      if syntheticSwitches.getD (normalizeResourceName neighborName) false then
        some (normalizeResourceName neighborName)
      else none
  match resolved with
  | none => .error (.unknownNeighbor switchName role neighborName)
  | some neighborSwitchName =>
    if neighborSwitchName = switchName then
      .error (.selfReference switchName)
    else
      .ok (addBuilderNeighbor builders switchName neighborSwitchName)

/-- Process one reported neighbour of a switch. -/
def addReportedNeighbor (switchName : String) (managedHosts : GoMap String Bool)
    (normalizedSwitchNames : GoMap String String) (builders : Builders)
    (neighbor : SwitchNeighbor) : Builders :=
  let remoteSystemName :=
    canonicalRemoteSystemName neighbor.remoteSystemName managedHosts normalizedSwitchNames
  if neighbor.remoteSystemType = some .kubernetesNode ∨
      managedHosts.getD remoteSystemName false then
    builders
  else addBuilderNeighbor builders switchName remoteSystemName

/-- Process one switch of the role. -/
def addSwitchLinks (role : SwitchRole) (semiAutomatic : Bool) (managedHosts : GoMap String Bool)
    (normalizedSwitchNames : GoMap String String)
    (syntheticSwitches : GoMap String Bool) (builders : Builders)
    (switch : Switch) : Except InputsError Builders :=
  let ensured := ensureSwitchBuilder builders switch.name
  if semiAutomatic then
    match parseManualSwitchNeighbors switch with
    | .error failure => .error failure
    | .ok neighbors =>
      neighbors.foldlM (addManualNeighbor role switch.name normalizedSwitchNames syntheticSwitches)
        ensured
  else
    .ok (switch.lldpNeighbors.foldl
      (addReportedNeighbor switch.name managedHosts normalizedSwitchNames)
      ensured)

/-! ## Inputs -/

/-- The inputs of one discovery run. -/
structure TopologyInputs where
  hosts : List Discovery.Host
  switches : List Discovery.Switch
  nodeOnly : Bool
  syntheticSwitches : GoMap String Bool

/-- The Switches of a role. -/
def switchesOfRole (role : SwitchRole) (switches : List Switch) : List Switch :=
  switches.filter fun switch => effectiveSwitchRole switch == role

lemma mem_switchesOfRole_iff {role : SwitchRole} {switches : List Switch} (switch : Switch) :
    switch ∈ switchesOfRole role switches ↔
      switch ∈ switches ∧ effectiveSwitchRole switch = role := by
  unfold switchesOfRole
  rw [List.mem_filter, beq_iff_eq]

/-- The switch names by normalized name and by normalized hostname. -/
def normalizedNames (roleSwitches : List Switch) : GoMap String String :=
  roleSwitches.foldl (fun table switch =>
      let named := table.insert (normalizeResourceName switch.name) switch.name
      if switch.hostname = "" then named
      else
        named.insert (normalizeResourceName switch.hostname) switch.name)
    ∅

/-- The switch of a builder, its neighbours in name order. -/
def finishBuilder (runtime : Runtime) (builders : Builders)
    (switchName : String) : Discovery.Switch :=
  { name := switchName
    neighbors :=
      runtime.sortSlice (fun left right =>
          decide (left.remoteSystemName < right.remoteSystemName))
        (builders.getD switchName .empty).neighbors }

def buildTopologyInputsForRole (runtime : Runtime) (role : SwitchRole)
    (fabricNodes : List FabricNode) (switches : List Switch) :
    Except InputsError TopologyInputs :=
  let managedHosts :=
    fabricNodes.foldl (fun table node => table.insert node.name true) (∅ : GoMap String Bool)
  let roleSwitches := switchesOfRole role switches
  let normalizedSwitchNames := normalizedNames roleSwitches
  let nodeOnly := roleSwitches.isEmpty
  let semiAutomatic := !nodeOnly && roleSwitches.all hasManualSwitchNeighbors
  let builders :=
    roleSwitches.foldl (fun builders switch => ensureSwitchBuilder builders switch.name)
      (∅ : Builders)
  let links :=
    fabricNodes.foldl (addFabricNode role normalizedSwitchNames (nodeOnly || semiAutomatic))
      { builders := builders, syntheticSwitches := ∅, participatingHosts := ∅ }
  match roleSwitches.foldlM (addSwitchLinks role semiAutomatic managedHosts
        normalizedSwitchNames links.syntheticSwitches)
      links.builders with
  | .error failure => .error failure
  | .ok finished =>
    .ok
      { hosts :=
          (Discovery.sortedNamesFromMap runtime ["sortedMapKeys", "hosts"]
            links.participatingHosts).map fun name => ⟨name⟩
        switches :=
          (Discovery.sortedNamesFromMap runtime ["sortedMapKeys", "switches"] finished).map
            (finishBuilder runtime finished)
        nodeOnly := nodeOnly
        syntheticSwitches := links.syntheticSwitches }

end Unifabric.SwitchTopology
