import Unifabric.Lib.Loop
import Unifabric.Lib.GoMap

/-!
# The device graph

The first half of `pkg/topology`: hosts and switches become devices, accepted
LLDP neighbours become undirected edges, a breadth-first search from the
switches next to a host infers a tier for every reachable switch, and the
edges which do not join consecutive tiers are dropped.
-/

namespace Unifabric.Discovery

open Lib

/-! ## Data model -/

/-- A host, as discovery receives it. -/
structure Host where
  name : String
  deriving DecidableEq, Repr

/-- One LLDP neighbour reported by a switch. -/
structure Neighbor where
  localDeviceName : String
  remoteSystemName : String
  deriving DecidableEq, Repr

/-- A switch with the neighbours it reports. -/
structure Switch where
  name : String
  neighbors : List Neighbor
  deriving DecidableEq, Repr

/-- The device type; `unset` is the zero value of the string type. -/
inductive DeviceType where
  | unset
  | host
  | switch
  deriving DecidableEq, Repr

/-- A vertex of the device graph. -/
structure Device where
  name : String
  type : DeviceType
  tier : Int
  deriving DecidableEq, Repr

/-- The value a lookup of a missing device yields. -/
def Device.zero : Device := { name := "", type := .unset, tier := 0 }

/-- One accepted neighbour report. -/
structure Link where
  srcDevice : String
  dstDevice : String
  lldp : Neighbor
  deriving DecidableEq, Repr

/-- Adjacency rows, keyed by device name. -/
abbrev Adjacency := GoMap String (GoMap String Bool)

/-- The device graph. -/
structure TopologyGraph where
  devices : GoMap String Device
  adj : Adjacency
  links : List Link

/-! ## Sorted keys -/

section

variable (runtime : Runtime) (site : List String)

/-- The sorted names of a map keyed by name. -/
def sortedDeviceNames {V : Type} (table : GoMap String V) : List String :=
  sortValues (runtime.range site table.keys)

/-- The same function under its second name in the source. -/
def sortedNamesFromMap {V : Type} (table : GoMap String V) : List String :=
  sortedDeviceNames runtime site table

/-- The sorted names which a set maps to `true`. -/
def sortedBoolKeys (table : GoMap String Bool) : List String :=
  sortValues ((runtime.range site table.keys).filter fun name =>
      table.getD name false)

/-- The sorted tiers of a map keyed by tier. -/
def sortedTierKeys {V : Type} (table : GoMap Int V) : List Int :=
  sortValues (runtime.range site table.keys)

end

/-- Drop every value which equals its predecessor. -/
def dedupeSortedStrings : List String → List String
  | [] => []
  | first :: rest =>
    first :: ((first :: rest).zip rest).filterMap fun pair =>
      if pair.2 ≠ pair.1 then some pair.2 else none

/-! ## Building the graph -/

/-- Make sure a device has a row. -/
def ensureVertex (adj : Adjacency) (name : String) : Adjacency :=
  if adj.contains name then adj else adj.insert name ∅

/-- Set one directed entry of the adjacency. -/
def setEdge (adj : Adjacency) (source target : String) : Adjacency :=
  adj.insert source ((adj.getD source ∅).insert target true)

/-- Join two devices in both directions. -/
def addUndirectedEdge (adj : Adjacency) (a b : String) : Adjacency :=
  setEdge (setEdge (ensureVertex (ensureVertex adj a) b) a b) b a

/-- The known device names. -/
structure DeviceResolver where
  byName : GoMap String String

variable (runtime : Runtime)

/-- Index the devices by name. -/
def newDeviceResolver (devices : GoMap String Device) : DeviceResolver :=
  { byName :=
      (runtime.range ["NewDeviceResolver"] devices.keys).foldl
        (fun table name => table.insert name name) ∅ }

/-- The device a neighbour entry names, if it is known. -/
def DeviceResolver.resolve (resolver : DeviceResolver) (neighbor : Neighbor) : Option String :=
  if neighbor.remoteSystemName = "" then none
  else resolver.byName[neighbor.remoteSystemName]?

/-- Register devices by name, each with its own row. -/
def addDevices (deviceOf : String → Device) (graph : TopologyGraph)
    (names : List String) : TopologyGraph :=
  names.foldl (fun graph name =>
      { graph with
        devices := graph.devices.insert name (deviceOf name)
        adj := ensureVertex graph.adj name })
    graph

variable (graph : TopologyGraph)

/-- Register the hosts. -/
def addHosts (hosts : List Host) : TopologyGraph :=
  addDevices (fun name => { name := name, type := .host, tier := 0 }) graph (hosts.map Host.name)

/-- Register the switches; a switch replaces a host of the same name. -/
def addSwitches (switches : List Switch) : TopologyGraph :=
  addDevices (fun name => { name := name, type := .switch, tier := -1 })
    graph (switches.map Switch.name)

/-- Process one neighbour entry of a switch. -/
def addNeighbor (resolver : DeviceResolver) (switchName : String)
    (graph : TopologyGraph) (neighbor : Neighbor) : TopologyGraph :=
  if neighbor.localDeviceName ≠ "" ∧ neighbor.localDeviceName ≠ switchName then
    graph
  else
    match resolver.resolve neighbor with
    | none => graph
    | some dstDevice =>
      { graph with
        links := graph.links ++
          [{ srcDevice := switchName, dstDevice := dstDevice, lldp := neighbor }]
        adj := addUndirectedEdge graph.adj switchName dstDevice }

def buildTopologyGraph (hosts : List Host) (switches : List Switch) : TopologyGraph :=
  let registered := addSwitches (addHosts { devices := ∅, adj := ∅, links := [] } hosts) switches
  let resolver := newDeviceResolver runtime registered.devices
  switches.foldl (fun graph switch =>
      switch.neighbors.foldl (addNeighbor resolver switch.name) graph)
    registered

/-! ## Tier inference -/

/-- The state of the tier search. -/
structure TierSearch where
  devices : GoMap String Device
  queue : List String

/-- Whether some neighbour of a switch is a host. -/
def hasHostNeighbor (devices : GoMap String Device) (adj : Adjacency)
    (switchName : String) : Bool :=
  (runtime.range ["hasHostNeighbor", switchName] (adj.getD switchName ∅).keys).any fun neighbor =>
    (devices.getD neighbor .zero).type == .host

/-- Put a switch next to a host on tier 1 and queue it. -/
def seedTier (adj : Adjacency)
    (search : TierSearch) (name : String) : TierSearch :=
  let device := search.devices.getD name .zero
  if device.type ≠ .switch then search
  else if hasHostNeighbor runtime search.devices adj name then
    { devices := search.devices.insert name { device with tier := 1 }
      queue := search.queue ++ [name] }
  else search

/-- Give an untiered switch the tier above the current one and queue it. -/
def visitTierNeighbor (currentTier : Int) (search : TierSearch) (neighbor : String) : TierSearch :=
  let neighborDevice := search.devices.getD neighbor .zero
  if neighborDevice.type ≠ .switch then search
  else if neighborDevice.tier ≠ -1 then search
  else
    { devices := search.devices.insert neighbor
        { neighborDevice with tier := currentTier + 1 }
      queue := search.queue ++ [neighbor] }

/-- One iteration of the tier search: pop a switch, visit its neighbours. -/
def tierStep (adj : Adjacency) (search : TierSearch) : Option TierSearch :=
  match search.queue with
  | [] => none
  | current :: rest =>
    let currentTier := (search.devices.getD current .zero).tier
    some ((sortedBoolKeys runtime ["InferTiers", current] (adj.getD current ∅)).foldl
        (visitTierNeighbor currentTier)
        { search with queue := rest })

/-- The switches next to a host, queued in name order. -/
def seedTiers : TierSearch :=
  let seeded :=
    (runtime.range ["InferTiers"] graph.devices.keys).foldl (seedTier runtime graph.adj)
      { devices := graph.devices, queue := [] }
  { seeded with queue := sortValues seeded.queue }

/--
`InferTiers`.  Every device is queued at most once, so the loop is bounded by
the number of devices.
-/
def inferTiers : TopologyGraph :=
  let seeded := seedTiers runtime graph
  let final :=
    runLoop (tierStep runtime graph.adj) (seeded.queue.length + graph.devices.size + 1) seeded
  { graph with devices := final.devices }

/-! ## Edges between consecutive tiers -/

/-- Keep an edge between consecutive tiers, in both directions. -/
def keepTierEdge (devices : GoMap String Device) (a : String)
    (newAdj : Adjacency) (b : String) : Adjacency :=
  let da := devices.getD a .zero
  let db := devices.getD b .zero
  if da.tier < 0 ∨ db.tier < 0 then newAdj
  else if (da.tier - db.tier).natAbs ≠ 1 then newAdj
  else setEdge (setEdge newAdj a b) b a

def normalizeTierEdges :
    TopologyGraph :=
  let rows :=
    (runtime.range ["NormalizeTierEdges", "devices"] graph.devices.keys).foldl
      (fun adj name => adj.insert name ∅) (∅ : Adjacency)
  { graph with
    adj :=
      (runtime.range ["NormalizeTierEdges", "adj"] graph.adj.keys).foldl (fun newAdj a =>
          (runtime.range ["NormalizeTierEdges", "adj", a] (graph.adj.getD a ∅).keys).foldl
            (keepTierEdge graph.devices a) newAdj)
        rows }

end Unifabric.Discovery
