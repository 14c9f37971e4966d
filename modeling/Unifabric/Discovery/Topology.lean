import Unifabric.Discovery.Groups

/-!
# Discovered topologies

`BuildTopology` and `DiscoverTopology`: the result of a discovery run with its
nodes, edges, groups by tier and the index of parents.
-/

namespace Unifabric.Discovery

open Lib

/-! ## The result -/

/-- Whether a node of the result is a device or a group. -/
inductive TopologyNodeType where
  | device
  | group
  deriving DecidableEq, Repr

/-- A node of the result. -/
structure TopologyNode where
  name : String
  type : TopologyNodeType
  tier : Int
  deviceType : DeviceType
  members : List String
  deriving DecidableEq, Repr

/-- What an edge of the result stands for. -/
inductive EdgeKind where
  | physical
  | groupMember
  deriving DecidableEq, Repr

/-- An edge of the result. -/
structure TopologyEdge where
  source : String
  target : String
  kind : EdgeKind
  deriving DecidableEq, Repr

/-- A discovered topology. -/
structure Topology where
  nodes : GoMap String TopologyNode
  edges : List TopologyEdge
  nodesByTier : GoMap Int (List String)
  groupsByTier : GoMap Int (List TopologyGroup)
  parentIndex : GoMap String (List String)

/-! ## Devices and physical edges -/

variable (runtime : Runtime)

/-- Sort the names of every tier. -/
def sortNodesByTier (site : List String)
    (nodesByTier : GoMap Int (List String)) : GoMap Int (List String) :=
  (runtime.range site nodesByTier.keys).foldl (fun table tier =>
      table.insert tier (dedupeSortedStrings (sortValues (table.getD tier []))))
    nodesByTier

/-- Sort the groups of every tier by name. -/
def sortGroupsByTier (groupsByTier : GoMap Int (List TopologyGroup)) :
    GoMap Int (List TopologyGroup) :=
  (runtime.range ["sortGroupsByTier"] groupsByTier.keys).foldl (fun table tier =>
      table.insert tier (runtime.sortSlice (fun left right => decide (left.name < right.name))
          (table.getD tier [])))
    groupsByTier

/-- Add one device with a tier to the result. -/
def addDeviceNode (devices : GoMap String Device)
    (topology : Topology) (name : String) : Topology :=
  let device := devices.getD name .zero
  if device.tier < 0 then topology
  else
    { topology with
      nodes := topology.nodes.insert name
        { name := name, type := .device, tier := device.tier
          deviceType := device.type, members := [] }
      nodesByTier := topology.nodesByTier.insert device.tier
        (topology.nodesByTier.getD device.tier [] ++ [name]) }

section

variable (adj : Adjacency)

/-- The physical edges, each listed from its smaller end. -/
def physicalEdges : List TopologyEdge :=
  (runtime.range ["BuildTopology", "adj"] adj.keys).flatMap fun a =>
    (runtime.range ["BuildTopology", "adj", a] (adj.getD a ∅).keys).filterMap fun b =>
      if b < a then none
      else some { source := a, target := b, kind := .physical }

/-- The result before the zones are processed. -/
def deviceTopology (graph : TopologyGraph) :
    Topology :=
  let registered :=
    (runtime.range ["BuildTopology", "devices"] graph.devices.keys).foldl
      (addDeviceNode graph.devices)
      { nodes := ∅, edges := [], nodesByTier := ∅, groupsByTier := ∅, parentIndex := ∅ }
  { registered with
    nodesByTier := sortNodesByTier runtime ["sortNodesByTier", "devices"] registered.nodesByTier
    edges := physicalEdges runtime graph.adj }

/-! ## Groups -/

/-- The result with the group assignment of the current zone. -/
structure ZoneState where
  topology : Topology
  deviceToGroup : GoMap String String

/-- Add one group to the result. -/
def addGroup (tier : Int) (state : ZoneState) (group : TopologyGroup) :
    ZoneState :=
  let listed :=
    { state.topology with
      groupsByTier := state.topology.groupsByTier.insert tier
        (state.topology.groupsByTier.getD tier [] ++ [group]) }
  let deviceToGroup :=
    group.members.foldl (fun table member => table.insert member group.name) state.deviceToGroup
  if group.members = [group.name] then
    { topology := listed, deviceToGroup := deviceToGroup }
  else
    { topology :=
        { listed with
          nodes := listed.nodes.insert group.name
            { name := group.name, type := .group, tier := tier
              deviceType := .unset, members := group.members }
          nodesByTier := listed.nodesByTier.insert tier
            (listed.nodesByTier.getD tier [] ++ [group.name])
          edges := listed.edges ++ group.members.map fun member =>
              { source := group.name, target := member, kind := .groupMember } }
      deviceToGroup := deviceToGroup }

variable (zone : ZoneDeviceView)

/-- Group one tier of a zone. -/
def addTier (options : DiscoverOptions) (state : ZoneState) (tier : Int) : ZoneState :=
  if tier = 0 then state
  else
    (buildTierGroups runtime adj zone tier options state.deviceToGroup).foldl (addGroup tier) state

/-- The hosts of a zone are their own groups. -/
def hostGroups : GoMap String String :=
  (runtime.range ["BuildTopology", "zone"] zone.devices.keys).foldl (fun table name =>
      if (zone.devices.getD name .zero).tier = 0 then
        table.insert name name
      else table)
    ∅

/-! ## Parents -/

/-- The group of every device of a zone. -/
def buildDeviceToGroupIndex (topology : Topology) : GoMap String String :=
  (sortedTierKeys runtime ["buildDeviceToGroupIndex"] topology.groupsByTier).foldl
    (fun table tier =>
      if tier = 0 then table
      else
        (topology.groupsByTier.getD tier []).foldl (fun table group =>
            group.members.foldl (fun table member =>
                if zone.devices.contains member then
                  table.insert member group.name
                else table)
              table)
          table)
    ∅

/-- Collect the groups of the next-tier neighbours of one device. -/
def addParents (deviceToGroup : GoMap String String) (skip : String → Bool) (childName : String)
    (parentSet : GoMap String Bool) : GoMap String Bool :=
  let child := zone.devices.getD childName .zero
  (sortedBoolKeys runtime ["parentIndex", childName] (adj.getD childName ∅)).foldl
    (fun parentSet neighbor =>
      match zone.devices[neighbor]? with
      | none => parentSet
      | some parent =>
        if parent.tier ≠ child.tier + 1 then parentSet
        else
          let parentName := deviceToGroup.getD parent.name parent.name
          if skip parentName then parentSet
          else parentSet.insert parentName true)
    parentSet

/-- Store a nonempty parent set. -/
def setParents (index : GoMap String (List String))
    (name : String) (parentSet : GoMap String Bool) : GoMap String (List String) :=
  if parentSet.isEmpty then index
  else
    index.insert name (sortedBoolKeys runtime ["parentIndex", name, "set"] parentSet)

/-- The parents of the devices of a zone. -/
def buildDeviceParentIndex (deviceToGroup : GoMap String String)
    (index : GoMap String (List String)) : GoMap String (List String) :=
  (sortedDeviceNames runtime ["buildDeviceParentIndex"] zone.devices).foldl (fun index childName =>
      setParents runtime index childName (addParents runtime adj zone deviceToGroup
          (fun _ => false) childName ∅))
    index

/-- The parents of the groups, as far as their members are in the zone. -/
def buildGroupParentIndex (groupsByTier : GoMap Int (List TopologyGroup))
    (deviceToGroup : GoMap String String)
    (index : GoMap String (List String)) : GoMap String (List String) :=
  (sortedTierKeys runtime ["buildGroupParentIndex"] groupsByTier).foldl (fun index tier =>
      if tier = 0 then index
      else
        (groupsByTier.getD tier []).foldl (fun index group =>
            setParents runtime index group.name (group.members.foldl (fun parentSet member =>
                  if zone.devices.contains member then
                    addParents runtime adj zone deviceToGroup
                      (fun parentName => parentName == group.name)
                      member parentSet
                  else parentSet)
                ∅))
          index)
    index

def buildParentIndexForZone (topology : Topology) : Topology :=
  let deviceToGroup := buildDeviceToGroupIndex runtime zone topology
  { topology with
    parentIndex :=
      buildGroupParentIndex runtime adj zone topology.groupsByTier deviceToGroup
        (buildDeviceParentIndex runtime adj zone deviceToGroup topology.parentIndex) }

end

/-! ## Discovery -/

/-- Process one zone. -/
def addZone (graph : TopologyGraph) (options : DiscoverOptions) (topology : Topology)
    (zoneDeviceNames : List String) : Topology :=
  let zone := buildZoneDeviceView graph zoneDeviceNames
  let grouped :=
    (sortedTierKeys runtime ["BuildTopology", "tiers"] zone.devicesByTier).foldl
      (addTier runtime graph.adj zone options)
      { topology := topology, deviceToGroup := hostGroups runtime zone }
  buildParentIndexForZone runtime graph.adj zone grouped.topology

def buildTopology (graph : TopologyGraph)
    (options : DiscoverOptions) : Topology :=
  let processed :=
    (collectConnectedZones runtime graph).foldl
      (addZone runtime graph options) (deviceTopology runtime graph)
  { processed with
    nodesByTier := sortNodesByTier runtime ["sortNodesByTier", "groups"] processed.nodesByTier
    groupsByTier := sortGroupsByTier runtime processed.groupsByTier }

/-- The graph on which the groups are built. -/
def tieredGraph (hosts : List Host) (switches : List Switch) : TopologyGraph :=
  normalizeTierEdges runtime (inferTiers runtime (buildTopologyGraph runtime hosts switches))

def discoverTopology (hosts : List Host) (switches : List Switch)
    (options : List DiscoverOption) : Topology :=
  buildTopology runtime (tieredGraph runtime hosts switches)
    (options.foldl (fun current option => option current) defaultDiscoverOptions)

end Unifabric.Discovery
