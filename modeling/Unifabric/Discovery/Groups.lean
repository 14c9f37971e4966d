import Unifabric.Discovery.Graph
import Unifabric.Lib.Sha1

/-!
# Zones and tier groups

The second half of `pkg/topology`, as far as one zone is concerned.  A zone is
a connected component of the normalized graph which contains a host.  Inside a
zone the switches of one tier are grouped: two switches belong together when a
chain of lower groups connects them, and a group is named after its members.
-/

namespace Unifabric.Discovery

open Lib

/-! ## Zones -/

/-- The state of the search which collects one zone. -/
structure ZoneSearch where
  queue : List String
  visited : GoMap String Bool
  result : List String

variable (runtime : Runtime) (adj : Adjacency)

/-- One iteration of the zone search. -/
def zoneStep (search : ZoneSearch) : Option ZoneSearch :=
  match search.queue with
  | [] => none
  | current :: rest =>
    if search.visited.getD current false then
      some { search with queue := rest }
    else
      let visited := search.visited.insert current true
      let neighbors :=
        sortedBoolKeys runtime ["collectZoneDeviceNames", current] (adj.getD current ∅)
      some
        { queue := rest ++
            neighbors.filter fun neighbor => !(visited.getD neighbor false)
          visited := visited
          result := search.result ++ [current] }

/-- The number of adjacency entries, which bounds every queue. -/
def entryCount : Nat := (adj.keys.map fun name => (adj.getD name ∅).size).sum

/-- Collect the zone of one host, with the devices visited so far. -/
def collectZoneDeviceNames (start : String) (visited : GoMap String Bool) :
    List String × GoMap String Bool :=
  let final :=
    runLoop (zoneStep runtime adj) (entryCount adj + 2)
      { queue := [start], visited := visited, result := [] }
  (sortValues final.result, final.visited)

/-- The sorted host names, where the zone search starts. -/
def collectHostStarts (graph : TopologyGraph) : List String :=
  sortValues ((runtime.range ["collectHostStarts"] graph.devices.keys).filter
      fun name => (graph.devices.getD name .zero).type == .host)

def collectConnectedZones (graph : TopologyGraph) : List (List String) :=
  ((collectHostStarts runtime graph).foldl (fun state start =>
      if state.2.getD start false then state
      else
        let collected := collectZoneDeviceNames runtime graph.adj start state.2
        (state.1 ++ [collected.1], collected.2))
    (([], ∅) : List (List String) × GoMap String Bool)).1

/-- The devices of a zone, also indexed by tier. -/
structure ZoneDeviceView where
  devices : GoMap String Device
  devicesByTier : GoMap Int (GoMap String Device)

def buildZoneDeviceView (graph : TopologyGraph) (deviceNames : List String) : ZoneDeviceView :=
  deviceNames.foldl (fun zone name =>
      let device := graph.devices.getD name .zero
      { devices := zone.devices.insert name device
        devicesByTier := zone.devicesByTier.insert device.tier
          ((zone.devicesByTier.getD device.tier ∅).insert name device) })
    { devices := ∅, devicesByTier := ∅ }

/-! ## Group names -/

/-- How a group with several members is named. -/
inductive GroupNameMode where
  | concat
  | hash
  deriving DecidableEq, Repr

/-- Options of a discovery run. -/
structure DiscoverOptions where
  groupNameMode : GroupNameMode
  hashLength : Int
  deriving DecidableEq, Repr

/-- An option changes the options. -/
abbrev DiscoverOption := DiscoverOptions → DiscoverOptions

/-- The options before any option is applied. -/
def defaultDiscoverOptions : DiscoverOptions := { groupNameMode := .concat, hashLength := 7 }

/-- Name groups by joining their members. -/
def withConcatGroupName : DiscoverOption := fun options => { options with groupNameMode := .concat }

/-- Name groups by a digest of their joined members. -/
def withHashGroupName : DiscoverOption := fun options => { options with groupNameMode := .hash }

/-- Set the length of the digest names; a length below one is ignored. -/
def withHashLength (length : Int) : DiscoverOption := fun options =>
  if 0 < length then { options with hashLength := length } else options

/-- The first characters of the digest, 7 when the length is out of range. -/
def shortSHA (text : String) (length : Int) : String :=
  let full := Sha1.hexSum text
  let kept : Int := if length ≤ 0 ∨ (full.length : Int) < length then 7 else length
  String.ofList (full.take kept.toNat)

def generateGroupName (memberNames : List String) (options : DiscoverOptions) : String :=
  match sortValues memberNames with
  | [single] => single
  | names =>
    let base := "-".intercalate names
    match options.groupNameMode with
    | .hash => shortSHA base options.hashLength
    | .concat => base ++ "-group"

/-! ## Groups of one tier -/

/-- A group of switches of one tier. -/
structure TopologyGroup where
  name : String
  tier : Int
  members : List String
  lowerTierNodes : List String
  upperTierNodes : List String
  deriving DecidableEq, Repr

/-- The group a device was put into; a device without one is its own. -/
def groupNameOfDevice (deviceName : String) (deviceToGroup : GoMap String String) : String :=
  deviceToGroup.getD deviceName deviceName

variable (zone : ZoneDeviceView) (tier : Int)

section

variable (lowerDeviceToGroup : GoMap String String)

/-- Record a device under the group of one neighbour in the tier below. -/
def indexLowerNeighbor (deviceName : String)
    (index : GoMap String (List String)) (neighbor : String) : GoMap String (List String) :=
  match zone.devices[neighbor]? with
  | none => index
  | some neighborDevice =>
    if neighborDevice.tier ≠ tier - 1 then index
    else
      let lowerGroupName := groupNameOfDevice neighbor lowerDeviceToGroup
      index.insert lowerGroupName (index.getD lowerGroupName [] ++ [deviceName])

/-- Record a device under the lower groups it is linked to. -/
def indexLowerGroups (index : GoMap String (List String)) (deviceName : String) :
    GoMap String (List String) :=
  (sortedBoolKeys runtime ["buildLowerGroupToTierDevices", deviceName]
      (adj.getD deviceName ∅)).foldl
    (indexLowerNeighbor zone tier lowerDeviceToGroup deviceName) index

/-- The devices of a tier which each lower group is linked to. -/
def buildLowerGroupToTierDevices : GoMap String (List String) :=
  match zone.devicesByTier[tier]? with
  | none => ∅
  | some devicesInTier =>
    let collected :=
      (sortedDeviceNames runtime ["buildLowerGroupToTierDevices", "devices"] devicesInTier).foldl
        (indexLowerGroups runtime adj zone tier lowerDeviceToGroup) ∅
    (runtime.range ["buildLowerGroupToTierDevices", "result"] collected.keys).foldl
      (fun index lowerGroupName =>
        index.insert lowerGroupName (dedupeSortedStrings
            (sortValues (index.getD lowerGroupName []))))
      collected

/-- The state of the search which collects one group. -/
structure GroupSearch where
  queue : List String
  processed : GoMap String Bool
  members : GoMap String Device
  lower : GoMap String Device
  upper : GoMap String Device

variable (lowerGroupToTierDevices : GoMap String (List String))

/-- Look at one neighbour of the device the group search has popped. -/
def visitGroupNeighbor (search : GroupSearch) (neighbor : String) : GroupSearch :=
  match zone.devices[neighbor]? with
  | none => search
  | some neighborDevice =>
    let search :=
      if neighborDevice.tier = tier - 1 then
        let lowerGroupName := groupNameOfDevice neighbor lowerDeviceToGroup
        { search with
          lower := search.lower.insert neighbor neighborDevice
          queue := search.queue ++ (lowerGroupToTierDevices.getD lowerGroupName []).filter
              fun related => !(search.processed.getD related false) }
      else search
    if neighborDevice.tier = tier + 1 then
      { search with upper := search.upper.insert neighbor neighborDevice }
    else search

/-- One iteration of the group search. -/
def groupStep (search : GroupSearch) : Option GroupSearch :=
  match search.queue with
  | [] => none
  | current :: rest =>
    if search.processed.getD current false then
      some { search with queue := rest }
    else
      some ((sortedBoolKeys runtime ["BuildTierGroups", current] (adj.getD current ∅)).foldl
          (visitGroupNeighbor zone tier lowerDeviceToGroup lowerGroupToTierDevices)
          { search with
            queue := rest
            processed := search.processed.insert current true
            members := search.members.insert current (zone.devices.getD current .zero) })

/--
Collect the group of one device.  A device is expanded once and queues at most
the tier for each of its entries, which bounds the loop.
-/
def collectGroup (devicesInTier : GoMap String Device)
    (name : String) (processed : GoMap String Bool) : GroupSearch :=
  runLoop (groupStep runtime adj zone tier lowerDeviceToGroup lowerGroupToTierDevices)
    (entryCount adj * devicesInTier.size + 2)
    { queue := [name], processed := processed, members := ∅, lower := ∅, upper := ∅ }

end

def buildTierGroups (options : DiscoverOptions)
    (lowerDeviceToGroup : GoMap String String) : List TopologyGroup :=
  match zone.devicesByTier[tier]? with
  | none => []
  | some devicesInTier =>
    let lowerGroupToTierDevices :=
      buildLowerGroupToTierDevices runtime adj zone tier lowerDeviceToGroup
    ((sortedDeviceNames runtime ["BuildTierGroups"] devicesInTier).foldl (fun state name =>
        if state.2.getD name false then state
        else
          let final :=
            collectGroup runtime adj zone tier lowerDeviceToGroup
              lowerGroupToTierDevices devicesInTier name state.2
          let memberNames :=
            sortedNamesFromMap runtime ["BuildTierGroups", name, "members"] final.members
          (state.1 ++
            [{ name := generateGroupName memberNames options
               tier := tier
               members := memberNames
               lowerTierNodes :=
                 sortedNamesFromMap runtime ["BuildTierGroups", name, "lower"] final.lower
               upperTierNodes :=
                 sortedNamesFromMap runtime ["BuildTierGroups", name, "upper"] final.upper }],
            final.processed))
      (([], ∅) : List TopologyGroup × GoMap String Bool)).1

end Unifabric.Discovery
