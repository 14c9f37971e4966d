import Unifabric.Discovery.Topology

/-!
# Normalization of discovered groups

`normalizeDiscoveredGroups` of the label controller: every host walks up the
parent index, which collects the Nodes below each group, and the groups of the
discovery become records with sorted members, Nodes and lower groups.
-/

namespace Unifabric.SwitchTopology

open Lib Discovery

/-! ## Groups and errors -/

/-- A group of the discovery with the Nodes below it. -/
structure DiscoveredGroup where
  internalName : String
  tier : Int
  members : List String
  nodes : List String
  lower : List String
  deriving DecidableEq, Repr

/-- Why a discovered topology is rejected. -/
inductive NormalizeError where
  | multipleParents (resource : String) (parents : List String)
  | cycle (parent : String)
  | notAGroup (parent current : String)
  | discontinuous (node : String) (expected found : Int)
  deriving DecidableEq, Repr

/-- The text of the error. -/
def NormalizeError.message : NormalizeError → String
  | .multipleParents resource parents =>
    "resource " ++ resource.quote ++
      " has multiple discovered parents: " ++ ", ".intercalate parents
  | .cycle parent => "discovered topology contains a cycle through " ++ parent.quote
  | .notAGroup parent current =>
    "parent " ++ parent.quote ++ " of " ++ current.quote ++ " is not a topology group"
  | .discontinuous node expected found =>
    "Node " ++ node.quote ++ " path is discontinuous: expected tier " ++
      toString expected ++ ", found tier " ++ toString found

/-- A Go set of strings. -/
abbrev StringSet := GoMap String Unit

def sortedStringSet (runtime : Runtime) (site : List String) (set : StringSet) : List String :=
  sortValues (runtime.range site set.keys)

/-! ## The walk from a host -/

/-- The state of one walk up the parent index. -/
structure Walk where
  current : String
  expectedTier : Int
  seen : StringSet
  nodesByGroup : GoMap String StringSet

section

variable (parentIndex : GoMap String (List String))

variable (groupsByName : GoMap String TopologyGroup)

/-- The walk of a host at the next group. -/
def Walk.advance (walk : Walk) (hostName parent : String) : Walk where
  current := parent
  expectedTier := walk.expectedTier + 1
  seen := walk.seen.insert parent ()
  nodesByGroup := walk.nodesByGroup.insert parent
    ((walk.nodesByGroup.getD parent ∅).insert hostName ())

/-- One iteration of the walk; it stops at a resource without parents. -/
def walkStep (hostName : String) (walk : Walk) : Option (Except NormalizeError Walk) :=
  match parentIndex.getD walk.current [] with
  | [] => none
  | [parent] =>
    if walk.seen.contains parent then some (.error (.cycle parent))
    else
      match groupsByName[parent]? with
      | none => some (.error (.notAGroup parent walk.current))
      | some group =>
        if group.tier ≠ walk.expectedTier then
          some (.error (.discontinuous hostName walk.expectedTier group.tier))
        else
          some (.ok (walk.advance hostName parent))
  | parents => some (.error (.multipleParents walk.current parents))

/-- Where the walk of a host starts. -/
def Walk.start (hostName : String) (nodesByGroup : GoMap String StringSet) : Walk :=
  { current := hostName, expectedTier := 1, seen := ∅, nodesByGroup := nodesByGroup }

/--
The walk up the parent index.  Every step but the last reaches a new group, so
the loop is bounded by the number of group names.
-/
def walkUp (hostName : String) (walk : Walk) : Except NormalizeError Walk :=
  runLoopM (walkStep parentIndex groupsByName hostName) (groupsByName.size + 1) walk

/-- Add the groups above one host. -/
def walkHost (nodesByGroup : GoMap String StringSet) (host : Host) :
    Except NormalizeError (GoMap String StringSet) :=
  match walkUp parentIndex groupsByName host.name (Walk.start host.name nodesByGroup) with
  | .error failure => .error failure
  | .ok walk => .ok walk.nodesByGroup

end

/-! ## Normalization -/

/-- The groups by name and the group of every device. -/
structure GroupNameIndex where
  groupsByName : GoMap String TopologyGroup
  deviceToGroup : GoMap String String

/-- Register one group under its name and for its members. -/
def indexGroup (index : GroupNameIndex) (group : TopologyGroup) :
    GroupNameIndex :=
  { groupsByName := index.groupsByName.insert group.name group
    deviceToGroup := group.members.foldl (fun table member => table.insert member group.name)
      index.deviceToGroup }

/-- The index of all groups of tier 1 and above. -/
def indexGroups (runtime : Runtime) (discovered : Topology) :
    GroupNameIndex :=
  (runtime.range ["normalizeDiscoveredGroups", "index"] discovered.groupsByTier.keys).foldl
    (fun index tier =>
      if tier < 1 then index
      else
        (discovered.groupsByTier.getD tier []).foldl indexGroup index)
    { groupsByName := ∅, deviceToGroup := ∅ }

/-- The names of the groups below a group; on tier 1 its hosts. -/
def lowerNames (runtime : Runtime) (deviceToGroup : GoMap String String)
    (tier : Int) (group : TopologyGroup) : List String :=
  if tier = 1 then sortValues group.lowerTierNodes
  else
    sortValues (sortedStringSet runtime ["normalizeDiscoveredGroups", group.name, "lower"]
        (group.lowerTierNodes.foldl (fun lowerSet device =>
            if deviceToGroup.getD device "" ≠ "" then
              lowerSet.insert (deviceToGroup.getD device "") ()
            else lowerSet)
          ∅))

/-- The record of one group. -/
def normalizeGroup (runtime : Runtime) (deviceToGroup : GoMap String String)
    (nodesByGroup : GoMap String StringSet) (tier : Int)
    (group : TopologyGroup) : DiscoveredGroup :=
  { internalName := group.name
    tier := tier
    members := sortValues group.members
    nodes := sortedStringSet runtime ["normalizeDiscoveredGroups", group.name, "nodes"]
      (nodesByGroup.getD group.name ∅)
    lower := lowerNames runtime deviceToGroup tier group }

def normalizeDiscoveredGroups (runtime : Runtime) (discovered : Topology) (hosts : List Host) :
    Except NormalizeError (List DiscoveredGroup) :=
  let index := indexGroups runtime discovered
  match hosts.foldlM (walkHost discovered.parentIndex index.groupsByName) ∅ with
  | .error failure => .error failure
  | .ok nodesByGroup =>
    .ok ((runtime.range ["normalizeDiscoveredGroups", "result"]
        discovered.groupsByTier.keys).flatMap fun tier =>
      if tier < 1 then []
      else
        (discovered.groupsByTier.getD tier []).map
          (normalizeGroup runtime index.deviceToGroup nodesByGroup tier))

end Unifabric.SwitchTopology
