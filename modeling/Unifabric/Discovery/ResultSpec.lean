import Unifabric.Discovery.GroupSpec
import Unifabric.Discovery.Determinism

/-!
# The groups of a discovery run

Processing a zone visits its tiers from below, groups each tier and remembers
the group of every device.  Since a device is grouped once, the groups of all
tiers can be described with one assignment of group names.  This module
extracts the list of groups and that assignment from the loops of
`BuildTopology` and states what is in the result.
-/

namespace Unifabric.Discovery

open Lib Relation GoMap
open List hiding after below cons

variable {tier : Int} {groups : List TopologyGroup} {group : TopologyGroup}
  {name a : String} {names : List String}

/-! ## Groups of one zone -/

section

variable (runtime : Runtime) (adj : Adjacency) (zone : ZoneDeviceView) (options : DiscoverOptions)

/-- Give the members of groups the names of their groups. -/
def assignGroups (deviceToGroup : GoMap String String)
    (groups : List TopologyGroup) : GoMap String String :=
  groups.foldl (fun table group =>
      group.members.foldl (fun table member => table.insert member group.name) table)
    deviceToGroup

/-- Group one tier, next to the groups found so far. -/
def groupTier (state : List TopologyGroup × GoMap String String)
    (tier : Int) : List TopologyGroup × GoMap String String :=
  if tier = 0 then state
  else
    (state.1 ++ buildTierGroups runtime adj zone tier options state.2, assignGroups state.2
        (buildTierGroups runtime adj zone tier options state.2))

/-- The groups of a zone from the lowest tier up, and their assignment. -/
def zoneGroups : List TopologyGroup × GoMap String String :=
  zone.devicesByTier.keys.foldl (groupTier runtime adj zone options) ([], hostGroups runtime zone)

lemma getElem?_assignGroups (deviceToGroup : GoMap String String) (groups : List TopologyGroup)
    (disjoint : groups.Pairwise fun left right =>
      ∀ name, name ∈ left.members → name ∉ right.members) (name : String) :
    (∀ group ∈ groups, name ∈ group.members →
        (assignGroups deviceToGroup groups)[name]? = some group.name) ∧
      ((∀ group ∈ groups, name ∉ group.members) → (assignGroups deviceToGroup groups)[name]? =
          deviceToGroup[name]?) := by
  induction groups generalizing deviceToGroup with
  | nil => simp [assignGroups]
  | cons first rest ih =>
    rw [pairwise_cons] at disjoint
    have assigned := getElem?_foldl_insert first.members id
      (fun _ => first.name) deviceToGroup name
    simp only [id_eq, map_id] at assigned
    obtain ⟨later, untouched⟩ := ih (first.members.foldl
        (fun table member => table.insert member first.name)
        deviceToGroup) disjoint.2
    constructor
    · intro group listed member
      rcases mem_cons.1 listed with rfl | inRest
      · have notLater : ∀ other ∈ rest, name ∉ other.members :=
          fun other otherListed => disjoint.1 other otherListed name member
        refine (untouched notLater).trans ?_
        rw [assigned, if_pos member]
      · exact later group inRest member
    · intro absent
      refine (untouched fun other listed =>
        absent other (.tail _ listed)).trans ?_
      rw [assigned, if_neg (absent first (.head _))]

/-- Two assignments which agree on the tier below group a tier alike. -/
lemma touchesGroup_congr (agree : ∀ name, InTier zone (tier - 1) name → groupNameOfDevice name left
      = groupNameOfDevice name right) (lowerGroupName name : String) :
    TouchesGroup adj zone tier left lowerGroupName name ↔
      TouchesGroup adj zone tier right lowerGroupName name := by
  refine exists_congr fun lower => and_congr_right fun _ => and_congr_right fun isLower => ?_
  rw [agree lower isLower]

lemma shareLower_congr (agree : ∀ name, InTier zone (tier - 1) name → groupNameOfDevice name left
      = groupNameOfDevice name right) :
    ShareLower adj zone tier left = ShareLower adj zone tier right := by
  funext a b
  unfold ShareLower
  simp only [touchesGroup_congr adj zone agree]

/-- What the groups of the given tiers and their assignment satisfy. -/
structure ZoneGrouping (tiers : List Int) (groups : List TopologyGroup)
    (assigned : GoMap String String) : Prop where
  tier_mem : ∀ group ∈ groups, group.tier ∈ tiers ∧ group.tier ≠ 0
  assembled : ∀ group ∈ groups, Assembled adj zone group.tier options group
  isClass : ∀ group ∈ groups, ∃ start, InTier zone group.tier start ∧ ∀ a, a ∈ group.members ↔
      ReflTransGen (ShareLower adj zone group.tier assigned) start a
  cover : ∀ tier ∈ tiers, tier ≠ 0 → ∀ name, InTier zone tier name →
    ∃ group ∈ groups, group.tier = tier ∧ name ∈ group.members
  disjoint : groups.Pairwise fun left right => ∀ name, name ∈ left.members → name ∉ right.members
  member : ∀ group ∈ groups, ∀ name ∈ group.members, assigned[name]? = some group.name
  host : ∀ name, InTier zone 0 name → assigned[name]? = some name

variable {adj zone options}

section

variable (byTier : ∀ tier name, name ∈ zone.devicesByTier.getD tier ∅ ↔ InTier zone tier name)

include byTier

lemma ZoneGrouping.inTier
    (grouping : ZoneGrouping adj zone options tiers groups assigned) (listed : group ∈ groups)
    (member : name ∈ group.members) : InTier zone group.tier name := by
  obtain ⟨start, isStart, isClass⟩ := grouping.isClass group listed
  rcases ((isClass name).1 member).cases_tail with same | ⟨_, _, step⟩
  · rwa [same]
  · exact (byTier _ _).1 step.2.1

lemma ZoneGrouping.groupTier
    (rows : ∀ tier name, InTier zone tier name → name ∈ adj) (above : ∀ other ∈ tiers, other < tier)
    (grouping : ZoneGrouping adj zone options tiers groups assigned) :
    ZoneGrouping adj zone options (tiers ++ [tier]) (Discovery.groupTier runtime adj zone options
        (groups, assigned) tier).1
      (Discovery.groupTier runtime adj zone options (groups, assigned) tier).2 := by
  by_cases isHost : tier = 0
  · have unchanged : Discovery.groupTier runtime adj zone options
        (groups, assigned) tier = (groups, assigned) := if_pos isHost
    rw [unchanged]
    refine
      { tier_mem := ?_
        assembled := grouping.assembled
        isClass := grouping.isClass
        cover := ?_
        disjoint := grouping.disjoint
        member := grouping.member
        host := grouping.host }
    · intro group listed
      obtain ⟨member, nonzero⟩ := grouping.tier_mem group listed
      exact ⟨mem_append_left _ member, nonzero⟩
    · intro other member nonzero
      rcases mem_append.1 member with old | new
      · exact grouping.cover other old nonzero
      · exact absurd ((mem_singleton.1 new).trans isHost) nonzero
  · have grouped : Discovery.groupTier runtime adj zone options (groups, assigned) tier =
          (groups ++ buildTierGroups runtime adj zone tier options assigned,
            assignGroups assigned (buildTierGroups runtime adj zone tier
              options assigned)) := if_neg isHost
    rw [grouped]
    obtain ⟨classes, covered, newDisjoint⟩ := buildTierGroups_spec runtime
      adj zone tier options assigned
      (fun name member => rows tier name ((byTier tier name).1 member))
    have newInTier : ∀ group ∈ buildTierGroups runtime adj zone tier
        options assigned, ∀ name ∈ group.members, InTier zone tier name := by
      intro group listed name member
      obtain ⟨_, start, isStart, isClass⟩ := classes group listed
      rcases ((isClass name).1 member).cases_tail with same | ⟨_, _, step⟩
      · rw [same]
        exact (byTier tier start).1 isStart
      · exact (byTier _ _).1 step.2.1
    have kept : ∀ name, ¬ InTier zone tier name →
        (assignGroups assigned (buildTierGroups runtime adj zone tier
          options assigned))[name]? = assigned[name]? := by
      intro name otherTier
      refine (getElem?_assignGroups assigned _ newDisjoint name).2 ?_
      intro group listed member
      exact otherTier (newInTier group listed name member)
    have sameBelow : ∀ other, other ≤ tier → ShareLower adj zone other assigned =
          ShareLower adj zone other (assignGroups assigned
            (buildTierGroups runtime adj zone tier options assigned)) := by
      intro other below
      refine shareLower_congr adj zone fun name isLower => ?_
      have otherTier : ¬ InTier zone tier name := by
        intro inTier
        have equal := isLower.unique inTier
        omega
      unfold groupNameOfDevice
      rw [getD_eq, getD_eq, kept name otherTier]
    refine
      { tier_mem := ?_
        assembled := ?_
        isClass := ?_
        cover := ?_
        disjoint := ?_
        member := ?_
        host := ?_ }
    · intro group listed
      rcases mem_append.1 listed with old | new
      · obtain ⟨member, nonzero⟩ := grouping.tier_mem group old
        exact ⟨mem_append_left _ member, nonzero⟩
      · rw [(classes group new).1.tier_eq]
        exact ⟨mem_append_right _ (mem_singleton.2 rfl), isHost⟩
    · intro group listed
      rcases mem_append.1 listed with old | new
      · exact grouping.assembled group old
      · rw [(classes group new).1.tier_eq]
        exact (classes group new).1
    · intro group listed
      rcases mem_append.1 listed with old | new
      · rw [← sameBelow group.tier (le_of_lt (above _ (grouping.tier_mem group old).1))]
        exact grouping.isClass group old
      · obtain ⟨assembled, start, isStart, isClass⟩ := classes group new
        rw [assembled.tier_eq, ← sameBelow tier le_rfl]
        exact ⟨start, (byTier tier start).1 isStart, isClass⟩
    · intro other member nonzero name inTier
      rcases mem_append.1 member with old | new
      · obtain ⟨group, listed, rest⟩ := grouping.cover other old nonzero name inTier
        exact ⟨group, mem_append_left _ listed, rest⟩
      · rw [mem_singleton.1 new] at inTier ⊢
        obtain ⟨group, listed, isMember⟩ := covered name ((byTier tier name).2 inTier)
        exact ⟨group, mem_append_right _ listed, (classes group listed).1.tier_eq, isMember⟩
    · rw [pairwise_append]
      refine ⟨grouping.disjoint, newDisjoint, ?_⟩
      intro left leftListed right rightListed name inLeft inRight
      have lower := above _ (grouping.tier_mem left leftListed).1
      have equal := (grouping.inTier byTier leftListed inLeft).unique
        (newInTier right rightListed name inRight)
      omega
    · intro group listed name member
      rcases mem_append.1 listed with old | new
      · rw [kept name]
        · exact grouping.member group old name member
        · intro inTier
          have lower := above _ (grouping.tier_mem group old).1
          have equal := (grouping.inTier byTier old member).unique inTier
          omega
      · exact (getElem?_assignGroups assigned _ newDisjoint name).1 group new member
    · intro name inTier
      rw [kept name]
      · exact grouping.host name inTier
      · intro atTier
        exact isHost (atTier.unique inTier)

end

variable (adj zone options)

lemma zoneGroups_grouping
    (byTier : ∀ tier name, name ∈ zone.devicesByTier.getD tier ∅ ↔ InTier zone tier name)
    (rows : ∀ tier name, InTier zone tier name → name ∈ adj) :
    ZoneGrouping adj zone options zone.devicesByTier.keys (zoneGroups runtime adj zone options).1
      (zoneGroups runtime adj zone options).2 := by
  refine foldl_prefix_induction (Discovery.groupTier runtime adj zone options)
    zone.devicesByTier.keys ([], hostGroups runtime zone)
    (fun tiers state =>
      ZoneGrouping adj zone options tiers state.1 state.2) ?_ ?_
  · refine
      { tier_mem := by simp
        assembled := by simp
        isClass := by simp
        cover := by simp
        disjoint := List.Pairwise.nil
        member := by simp
        host := ?_ }
    rintro name ⟨device, found, tier⟩
    rw [getElem?_hostGroups, if_pos]
    refine ⟨(mem_iff _ _).2 ⟨device, found⟩, ?_⟩
    rw [getD_eq, found, Option.getD_some, tier]
  · rintro done tier rest ⟨groups, assigned⟩ split grouping
    refine grouping.groupTier runtime byTier rows ?_
    intro other member
    have increasing := keys_pairwise zone.devicesByTier
    rw [split, pairwise_append] at increasing
    exact increasing.2.2 other member tier (.head _)

end

/-! ## Groups of all zones -/

section

variable {graph : TopologyGraph} {layers : LayeredGraph String}

lemma inTier_view_iff (names : List String) (tier : Int) (name : String) :
    InTier (buildZoneDeviceView graph names) tier name ↔
      name ∈ names ∧ tierOf graph.devices name = tier := by
  unfold InTier
  rw [(buildZoneDeviceView_spec graph names).1 name]
  split_ifs with member
  · simp [member, tierOf]
  · simp [member]

lemma mem_devicesByTier_view_iff (names : List String) (tier : Int) (name : String) :
    name ∈ (buildZoneDeviceView graph names).devicesByTier.getD tier ∅ ↔
      InTier (buildZoneDeviceView graph names) tier name := by
  rw [(buildZoneDeviceView_spec graph names).2.2, inTier_view_iff]

lemma Tiered.tierOf_eq_iff (tiered : Tiered graph layers) (known : name ∈ graph.devices)
    (level : Nat) : tierOf graph.devices name = level ↔ layers.Level level name := by
  obtain ⟨device, found⟩ := (mem_iff _ _).1 known
  rw [← tiered.tier found]
  unfold tierOf
  rw [getD_eq, found, Option.getD_some]

lemma Zone.leveled (zone : Zone layers names) (member : name ∈ names) :
    ∃ level, layers.Level level name := by
  obtain ⟨host, isBase, part⟩ := zone.part
  exact ((part name).1 member).leveled ⟨0, (LayeredGraph.level_zero_iff host).2 isBase⟩

lemma Zone.connected (zone : Zone layers names) (member : a ∈ names) :
    b ∈ names ↔ layers.Connected a b := by
  obtain ⟨host, _, part⟩ := zone.part
  rw [part b]
  have reached := (part a).1 member
  constructor
  · intro other
    exact reached.symm.trans other
  · intro joined
    exact reached.trans joined

lemma inTier_view_level (tiered : Tiered graph layers)
    (zone : Zone layers names) (level : Nat) (name : String) :
    InTier (buildZoneDeviceView graph names) level name ↔
      name ∈ names ∧ layers.Level level name := by
  rw [inTier_view_iff]
  refine and_congr_right fun member => ?_
  obtain ⟨other, reached⟩ := zone.leveled member
  exact tiered.tierOf_eq_iff (tiered.mem_of_level reached) level

lemma exists_level_of_inTier (tiered : Tiered graph layers) (zone : Zone layers names)
    (inTier : InTier (buildZoneDeviceView graph names) tier name) :
    ∃ level : Nat, tier = level ∧ layers.Level level name := by
  rw [inTier_view_iff] at inTier
  obtain ⟨level, reached⟩ := zone.leveled inTier.1
  have known := tiered.mem_of_level reached
  refine ⟨level, ?_, reached⟩
  rw [← inTier.2, (tiered.tierOf_eq_iff known level).2 reached]

lemma zoneGroups_spec (runtime : Runtime) (tiered : Tiered graph layers)
    (zone : Zone layers names) (options : DiscoverOptions) :
    ZoneGrouping graph.adj (buildZoneDeviceView graph names) options
      (buildZoneDeviceView graph names).devicesByTier.keys
      (zoneGroups runtime graph.adj (buildZoneDeviceView graph names) options).1
      (zoneGroups runtime graph.adj (buildZoneDeviceView graph names) options).2 := by
  refine zoneGroups_grouping runtime graph.adj _ options (mem_devicesByTier_view_iff names) ?_
  intro tier name inTier
  obtain ⟨level, _, reached⟩ := exists_level_of_inTier tiered zone inTier
  rw [tiered.row]
  exact tiered.mem_of_level reached

lemma zoneGroups_cover (runtime : Runtime) (tiered : Tiered graph layers)
    (zone : Zone layers names) (options : DiscoverOptions) (member : a ∈ names)
    (reached : layers.Level (level + 1) a) :
    ∃ group ∈ (zoneGroups runtime graph.adj (buildZoneDeviceView graph names) options).1,
      group.tier = (level + 1 : Nat) ∧ a ∈ group.members := by
  have inTier := (inTier_view_level tiered zone (level + 1) a).2 ⟨member, reached⟩
  refine (zoneGroups_spec runtime tiered zone options).cover _ ?_ (by omega) a inTier
  rw [Std.ExtTreeMap.mem_keys, (buildZoneDeviceView_spec graph names).2.1]
  exact ⟨a, (inTier_view_iff names _ a).1 inTier⟩

/-- The groups of all zones, zone by zone. -/
def discoveredGroups (runtime : Runtime) (graph : TopologyGraph)
    (options : DiscoverOptions) : List TopologyGroup :=
  (collectConnectedZones runtime graph).flatMap fun names =>
    (zoneGroups runtime graph.adj (buildZoneDeviceView graph names) options).1

/-- Connected vertices with the same group name. -/
def SameName (layers : LayeredGraph String) (nameOf : String → String) (x y : String) : Prop :=
  layers.Connected x y ∧ nameOf x = nameOf y

/--
A grouping of the inner vertices of a layered graph: the groups of one level
are the classes of vertices linked to equally named vertices of the level
below, as far as these are connected.
-/
structure Grouping (layers : LayeredGraph String)
    (options : DiscoverOptions) (groups : List TopologyGroup)
    (nameOf : String → String) : Prop where
  level : ∀ group ∈ groups, ∃ level : Nat, group.tier = (level + 1 : Nat)
  name : ∀ group ∈ groups, group.name = generateGroupName group.members options
  sorted : ∀ group ∈ groups, group.members.Pairwise (· < ·)
  lowerSorted : ∀ group ∈ groups, group.lowerTierNodes.Pairwise (· < ·)
  upperSorted : ∀ group ∈ groups, group.upperTierNodes.Pairwise (· < ·)
  isClass : ∀ group ∈ groups, ∀ level : Nat, group.tier = (level + 1 : Nat) →
      ∃ start, layers.Level (level + 1) start ∧ ∀ a, a ∈ group.members ↔
          ReflTransGen (layers.ChainLink level (SameName layers nameOf)) start a
  cover : ∀ (level : Nat) (a : String), layers.Level (level + 1) a →
    ∃ group ∈ groups, group.tier = (level + 1 : Nat) ∧ a ∈ group.members
  disjoint : groups.Pairwise fun left right => ∀ name, name ∈ left.members → name ∉ right.members
  member : ∀ group ∈ groups, ∀ a ∈ group.members, nameOf a = group.name
  base : ∀ a, layers.base a → nameOf a = a
  lower : ∀ group ∈ groups, ∀ level : Nat, group.tier = (level + 1 : Nat) → ∀ a,
      a ∈ group.lowerTierNodes ↔ ∃ member ∈ group.members,
        layers.link member a ∧ layers.Level level a
  upper : ∀ group ∈ groups, ∀ level : Nat, group.tier = (level + 1 : Nat) → ∀ a,
      a ∈ group.upperTierNodes ↔ ∃ member ∈ group.members,
        layers.link member a ∧ layers.Level (level + 2) a

/-- The name of the group a device is in; other devices are their own. -/
def groupNameOf (groups : List TopologyGroup) (a : String) : String :=
  ((groups.find? fun group => decide (a ∈ group.members)).map TopologyGroup.name).getD a

lemma groupNameOf_of_mem (disjoint : groups.Pairwise fun left right => ∀ name, name ∈ left.members
      → name ∉ right.members) (listed : group ∈ groups) (member : a ∈ group.members) :
    groupNameOf groups a = group.name := by
  unfold groupNameOf
  induction groups with
  | nil => simp at listed
  | cons first rest ih =>
    rw [pairwise_cons] at disjoint
    rcases mem_cons.1 listed with rfl | inRest
    · simp [member]
    · have absent : a ∉ first.members := fun inFirst => disjoint.1 group inRest a inFirst member
      rw [find?_cons_of_neg (by simpa using absent)]
      exact ih disjoint.2 inRest

lemma groupNameOf_of_not_mem (absent : ∀ group ∈ groups, a ∉ group.members) :
    groupNameOf groups a = a := by
  unfold groupNameOf
  rw [find?_eq_none.2 (by simpa using absent)]
  rfl

section

variable (runtime : Runtime)

include runtime

/-- The members of a group of a zone are in the zone and on one level. -/
lemma zoneGroups_level (tiered : Tiered graph layers)
    (zone : Zone layers names) (options : DiscoverOptions)
    (listed : group ∈ (zoneGroups runtime graph.adj (buildZoneDeviceView graph names) options).1) :
    ∃ level : Nat, group.tier = (level + 1 : Nat) ∧
      ∀ a ∈ group.members, a ∈ names ∧ layers.Level (level + 1) a := by
  have grouping := zoneGroups_spec runtime tiered zone options
  obtain ⟨start, isStart, _⟩ := grouping.isClass group listed
  obtain ⟨height, tier, _⟩ := exists_level_of_inTier tiered zone isStart
  have nonzero := (grouping.tier_mem group listed).2
  cases height with
  | zero => exact absurd tier nonzero
  | succ level =>
    refine ⟨level, tier, ?_⟩
    intro a member
    have inTier := grouping.inTier (mem_devicesByTier_view_iff names) listed member
    rw [tier] at inTier
    exact (inTier_view_level tiered zone (level + 1) a).1 inTier

lemma mem_discoveredGroups_iff (graph : TopologyGraph)
    (options : DiscoverOptions) (group : TopologyGroup) :
    group ∈ discoveredGroups runtime graph options ↔ ∃ names ∈ collectConnectedZones runtime graph,
        group ∈ (zoneGroups runtime graph.adj (buildZoneDeviceView graph names) options).1 := by
  unfold discoveredGroups
  rw [mem_flatMap]

section

variable (tiered : Tiered graph layers)
variable (options : DiscoverOptions)

include tiered options

lemma discoveredGroups_disjoint :
    (discoveredGroups runtime graph options).Pairwise fun left right =>
      ∀ name, name ∈ left.members → name ∉ right.members := by
  obtain ⟨zones, _, apart⟩ := collectConnectedZones_spec runtime tiered
  unfold discoveredGroups
  rw [pairwise_flatMap]
  refine ⟨?_, ?_⟩
  · intro names listed
    exact (zoneGroups_spec runtime tiered (zones names listed) options).disjoint
  · refine apart.imp_of_mem ?_
    intro first second firstListed secondListed disjoint
      left leftListed right rightListed a inLeft inRight
    obtain ⟨_, _, leftMembers⟩ := zoneGroups_level runtime tiered
      (zones first firstListed) options leftListed
    obtain ⟨_, _, rightMembers⟩ := zoneGroups_level runtime tiered
      (zones second secondListed) options rightListed
    exact disjoint a (leftMembers a inLeft).1 (rightMembers a inRight).1

lemma not_mem_group_of_base (isBase : layers.base a) :
    ∀ group ∈ discoveredGroups runtime graph options, a ∉ group.members := by
  obtain ⟨zones, _, _⟩ := collectConnectedZones_spec runtime tiered
  intro group listed member
  obtain ⟨names, isZone, inZone⟩ := (mem_discoveredGroups_iff runtime graph options group).1 listed
  obtain ⟨level, _, members⟩ := zoneGroups_level runtime tiered (zones names isZone) options inZone
  exact layers.disjoint isBase (members a member).2.inner

section

variable (isZone : names ∈ collectConnectedZones runtime graph)

include isZone

/-- Inside a zone the assignment gives the group names of the whole run. -/
lemma groupNameOfDevice_zone (member : a ∈ names) :
    groupNameOfDevice a (zoneGroups runtime graph.adj (buildZoneDeviceView graph names) options).2 =
      groupNameOf (discoveredGroups runtime graph options) a := by
  obtain ⟨zones, _, _⟩ := collectConnectedZones_spec runtime tiered
  have zone := zones names isZone
  have grouping := zoneGroups_spec runtime tiered zone options
  obtain ⟨height, reached⟩ := zone.leveled member
  unfold groupNameOfDevice
  rw [getD_eq]
  cases height with
  | zero =>
    have isBase := (LayeredGraph.level_zero_iff a).1 reached
    have inTier := (inTier_view_level tiered zone 0 a).2 ⟨member, reached⟩
    rw [grouping.host a inTier, groupNameOf_of_not_mem
      (not_mem_group_of_base runtime tiered options isBase)]
    rfl
  | succ level =>
    obtain ⟨group, listed, _, isMember⟩ := zoneGroups_cover runtime tiered
      zone options member reached
    rw [grouping.member group listed a isMember, groupNameOf_of_mem
        (discoveredGroups_disjoint runtime tiered options)
        ((mem_discoveredGroups_iff runtime graph options group).2
          ⟨names, isZone, listed⟩) isMember]
    rfl

/-- Sharing a lower group is a chain link between equally named devices. -/
lemma shareLower_iff_chainLink (level : Nat) (member : a ∈ names) (b : String) :
    ShareLower graph.adj (buildZoneDeviceView graph names) ((level + 1 : Nat) : Int)
        (zoneGroups runtime graph.adj (buildZoneDeviceView graph names) options).2 a b ↔
      layers.ChainLink level (SameName layers
        (groupNameOf (discoveredGroups runtime graph options))) a b := by
  obtain ⟨zones, _, _⟩ := collectConnectedZones_spec runtime tiered
  have zone := zones names isZone
  have below : (((level + 1 : Nat) : Int) - 1) = (level : Nat) := by
    push_cast
    omega
  have nameEq := fun {x : String} (inZone : x ∈ names) =>
    groupNameOfDevice_zone runtime tiered options isZone inZone
  unfold ShareLower TouchesGroup LayeredGraph.ChainLink
  simp only [mem_devicesByTier_view_iff, below, inTier_view_level tiered zone, tiered.edge]
  constructor
  · rintro ⟨⟨_, aLevel⟩, ⟨_, bLevel⟩, _,
      ⟨x, ax, ⟨xZone, xLevel⟩, rfl⟩, y, bY, ⟨yZone, yLevel⟩, sameName⟩
    refine ⟨aLevel, bLevel, x, y, ax.1, bY.1, xLevel, yLevel, (zone.connected xZone).1 yZone, ?_⟩
    rw [← nameEq xZone, ← nameEq yZone, sameName]
  · rintro ⟨aLevel, bLevel, x, y, ax, bY, xLevel, yLevel, connected, sameName⟩
    have adjacentAX := (LayeredGraph.Adjacent.up (layers.link_symm ax) xLevel aLevel).symm
    have adjacentBY := (LayeredGraph.Adjacent.up (layers.link_symm bY) yLevel bLevel).symm
    have xZone := (zone.connected member).2 (ReflTransGen.single adjacentAX)
    have yZone := (zone.connected xZone).2 connected
    have bZone := (zone.connected yZone).2 (ReflTransGen.single adjacentBY.symm)
    refine ⟨⟨member, aLevel⟩, ⟨bZone, bLevel⟩, _, ⟨x, adjacentAX, ⟨xZone, xLevel⟩, rfl⟩,
      y, adjacentBY, ⟨yZone, yLevel⟩, ?_⟩
    rw [nameEq xZone, nameEq yZone, sameName]

lemma reflTransGen_shareLower_iff (level : Nat) (member : a ∈ names) (b : String) :
    ReflTransGen (ShareLower graph.adj (buildZoneDeviceView graph names) ((level + 1 : Nat) : Int)
        (zoneGroups runtime graph.adj (buildZoneDeviceView graph names) options).2) a b ↔
      ReflTransGen (layers.ChainLink level (SameName layers
        (groupNameOf (discoveredGroups runtime graph options)))) a b := by
  refine reflTransGen_congr_inside (· ∈ names) (fun x inZone y =>
    shareLower_iff_chainLink runtime tiered options isZone level inZone y)
    (fun x y shared => ?_) member
  have inTier := (mem_devicesByTier_view_iff names _ y).1 shared.2.1
  exact ((inTier_view_iff names _ y).1 inTier).1

end

/-- The groups of a discovery run group the levels of the fabric. -/
lemma discoveredGroups_grouping : Grouping layers options (discoveredGroups runtime graph options)
      (groupNameOf (discoveredGroups runtime graph options)) := by
  obtain ⟨zones, hosted, _⟩ := collectConnectedZones_spec runtime tiered
  have disjoint := discoveredGroups_disjoint runtime tiered options
  have zoneOf : ∀ group ∈ discoveredGroups runtime graph options,
      ∃ names ∈ collectConnectedZones runtime graph, group ∈ (zoneGroups runtime graph.adj
          (buildZoneDeviceView graph names) options).1 :=
    fun group listed => (mem_discoveredGroups_iff runtime graph options group).1 listed
  have assembledOf : ∀ group ∈ discoveredGroups runtime graph options, ∃ names, Zone layers names ∧
        Assembled graph.adj (buildZoneDeviceView graph names) group.tier options group ∧
        (∃ level : Nat, group.tier = (level + 1 : Nat)) ∧
        ∀ level : Nat, group.tier = (level + 1 : Nat) → ∀ a ∈ group.members, a ∈ names ∧
            layers.Level (level + 1) a := by
    intro group listed
    obtain ⟨names, isZone, inZone⟩ := zoneOf group listed
    obtain ⟨level, tier, members⟩ := zoneGroups_level runtime tiered
      (zones names isZone) options inZone
    refine ⟨names, zones names isZone, (zoneGroups_spec runtime tiered (zones names isZone)
        options).assembled group inZone, ⟨level, tier⟩, ?_⟩
    intro other isOther
    obtain rfl : level = other := by omega
    exact members
  have neighbor {names : List String} (zone : Zone layers names)
      {level other : Nat} (next : other = level ∨ other = level + 2)
      {member a : String}
      (inZone : member ∈ names ∧ layers.Level (level + 1) member) :
      HasEdge graph.adj member a ∧ InTier (buildZoneDeviceView graph names) other a ↔
        layers.link member a ∧ layers.Level other a := by
    rw [inTier_view_level tiered zone, tiered.edge]
    constructor
    · rintro ⟨adjacent, _, reached⟩
      exact ⟨adjacent.1, reached⟩
    · rintro ⟨linked, reached⟩
      have adjacent : layers.Adjacent member a := by
        rcases next with rfl | rfl
        · exact (LayeredGraph.Adjacent.up (layers.link_symm linked) reached inZone.2).symm
        · exact LayeredGraph.Adjacent.up linked inZone.2 reached
      exact ⟨adjacent, (zone.connected inZone.1).2 (ReflTransGen.single adjacent), reached⟩
  refine
    { level := fun group listed =>
        let ⟨_, _, _, level, _⟩ := assembledOf group listed
        level
      name := fun group listed =>
        let ⟨_, _, assembled, _⟩ := assembledOf group listed
        assembled.name_eq
      sorted := fun group listed =>
        let ⟨_, _, assembled, _⟩ := assembledOf group listed
        assembled.sorted
      lowerSorted := fun group listed =>
        let ⟨_, _, assembled, _⟩ := assembledOf group listed
        assembled.lower_sorted
      upperSorted := fun group listed =>
        let ⟨_, _, assembled, _⟩ := assembledOf group listed
        assembled.upper_sorted
      isClass := ?_
      cover := ?_
      disjoint := disjoint
      member := fun group listed a member => groupNameOf_of_mem disjoint listed member
      base := fun a isBase => groupNameOf_of_not_mem
        (not_mem_group_of_base runtime tiered options isBase)
      lower := ?_
      upper := ?_ }
  · intro group listed level tier
    obtain ⟨names, isZone, inZone⟩ := zoneOf group listed
    obtain ⟨start, isStart, isClass⟩ :=
      (zoneGroups_spec runtime tiered (zones names isZone) options).isClass group inZone
    rw [tier] at isStart isClass
    have inNames := (inTier_view_level tiered (zones names isZone) (level + 1) start).1 isStart
    refine ⟨start, inNames.2, fun a => ?_⟩
    rw [isClass, reflTransGen_shareLower_iff runtime tiered options isZone level inNames.1]
  · intro level a reached
    obtain ⟨host, isBase, connected⟩ := reached.connected_base
    obtain ⟨names, isZone, hostMember⟩ := hosted host isBase
    have member := ((zones names isZone).connected hostMember).2 connected
    obtain ⟨group, inZone, tier, isMember⟩ := zoneGroups_cover runtime
      tiered (zones names isZone) options member reached
    exact ⟨group, (mem_discoveredGroups_iff runtime graph options
      group).2 ⟨names, isZone, inZone⟩, tier, isMember⟩
  · intro group listed level tier a
    obtain ⟨names, zone, assembled, _, members⟩ := assembledOf group listed
    have below : group.tier - 1 = (level : Nat) := by omega
    rw [assembled.lower, below]
    exact exists_congr fun member => and_congr_right fun isMember =>
      neighbor zone (.inl rfl) (members level tier member isMember)
  · intro group listed level tier a
    obtain ⟨names, zone, assembled, _, members⟩ := assembledOf group listed
    have above : group.tier + 1 = (level + 2 : Nat) := by omega
    rw [assembled.upper, above]
    exact exists_congr fun member => and_congr_right fun isMember =>
      neighbor zone (.inr rfl) (members level tier member isMember)

end

end

end

/-! ## The result lists the groups by tier -/

/--
What the result lists by tier after groups are added, each under its tier.
-/
structure GroupsAdded (before after : GoMap Int (List TopologyGroup))
    (added : List TopologyGroup) : Prop where
  lists : ∀ tier : Int, after.getD tier [] = before.getD tier [] ++
    added.filter fun group => group.tier = tier
  keys : ∀ tier, tier ∈ after ↔ tier ∈ before ∨ ∃ group ∈ added, group.tier = tier

lemma GroupsAdded.refl (groupsByTier : GoMap Int (List TopologyGroup)) :
    GroupsAdded groupsByTier groupsByTier [] :=
  ⟨by simp, by simp⟩

lemma GroupsAdded.trans (first : GroupsAdded before middle added)
    (second : GroupsAdded middle after more) : GroupsAdded before after (added ++ more) where
  lists tier := by rw [second.lists, first.lists, filter_append, append_assoc]
  keys tier := by
    rw [second.keys, first.keys, or_assoc]
    simp only [mem_append, or_and_right, exists_or]

lemma groupsAdded_insert (groupsByTier : GoMap Int (List TopologyGroup)) (group : TopologyGroup) :
    GroupsAdded groupsByTier (groupsByTier.insert group.tier
      (groupsByTier.getD group.tier [] ++ [group])) [group] where
  lists tier := by
    rw [getD_insert]
    split_ifs with same
    · simp [same]
    · simp [same]
  keys tier := by
    rw [mem_insert, or_comm, eq_comm]
    simp

lemma foldl_addGroup_spec (tier : Int) (groups : List TopologyGroup)
    (sameTier : ∀ group ∈ groups, group.tier = tier) (state : ZoneState) :
    let final := groups.foldl (addGroup tier) state
    final.deviceToGroup = assignGroups state.deviceToGroup groups ∧
      final.topology.parentIndex = state.topology.parentIndex ∧
      GroupsAdded state.topology.groupsByTier final.topology.groupsByTier
        groups := by
  induction groups using reverseRecOn with
  | nil => exact ⟨rfl, rfl, .refl _⟩
  | append_singleton before last ih =>
    obtain ⟨assigned, parents, added⟩ := ih fun group listed =>
      sameTier group (mem_append_left _ listed)
    have lastTier := sameTier last (by simp)
    subst lastTier
    simp only [assignGroups, foldl_append, foldl_cons, foldl_nil] at assigned ⊢
    rw [← assigned, addGroup]
    split_ifs
    · exact ⟨rfl, parents, added.trans (groupsAdded_insert _ _)⟩
    · exact ⟨rfl, parents, added.trans (groupsAdded_insert _ _)⟩

lemma foldl_addTier_spec (runtime : Runtime)
    (rows : ∀ tier name, name ∈ zone.devicesByTier.getD tier ∅ → name ∈ adj)
    (options : DiscoverOptions) (tiers : List Int) (state : ZoneState) :
    let final := tiers.foldl (addTier runtime adj zone options) state
    let grouped := tiers.foldl (groupTier runtime adj zone options) ([], state.deviceToGroup)
    final.deviceToGroup = grouped.2 ∧ final.topology.parentIndex = state.topology.parentIndex ∧
      GroupsAdded state.topology.groupsByTier final.topology.groupsByTier
        grouped.1 := by
  induction tiers using reverseRecOn with
  | nil => exact ⟨rfl, rfl, .refl _⟩
  | append_singleton done tier ih =>
    obtain ⟨assigned, parents, added⟩ := ih
    simp only [foldl_append, foldl_cons, foldl_nil]
    rw [addTier, groupTier]
    split_ifs with isHost
    · exact ⟨assigned, parents, added⟩
    · rw [← assigned]
      obtain ⟨assigned', parents', added'⟩ := foldl_addGroup_spec tier
        (buildTierGroups runtime adj zone tier options _)
        (fun group listed => ((buildTierGroups_spec runtime adj zone tier
          options _ (rows tier)).1 group listed).1.tier_eq)
        (done.foldl (addTier runtime adj zone options) state)
      exact ⟨assigned', parents'.trans parents, added.trans added'⟩

section

variable {graph : TopologyGraph} {layers : LayeredGraph String}

lemma zone_rows (tiered : Tiered graph layers) (zone : Zone layers names) (tier : Int)
    (name : String) (member : name ∈ (buildZoneDeviceView graph names).devicesByTier.getD tier ∅) :
    name ∈ graph.adj := by
  have inTier := (mem_devicesByTier_view_iff names tier name).1 member
  obtain ⟨level, _, reached⟩ := exists_level_of_inTier tiered zone inTier
  rw [tiered.row]
  exact tiered.mem_of_level reached

section

variable (runtime : Runtime)

include runtime

lemma zoneState_spec (tiered : Tiered graph layers) (zone : Zone layers names)
    (options : DiscoverOptions) (topology : Topology) :
    let view := buildZoneDeviceView graph names
    let final := (sortedTierKeys runtime ["BuildTopology", "tiers"] view.devicesByTier).foldl
      (addTier runtime graph.adj view options)
      { topology := topology, deviceToGroup := hostGroups runtime view }
    final.deviceToGroup = (zoneGroups runtime graph.adj view options).2 ∧
      final.topology.parentIndex = topology.parentIndex ∧
      GroupsAdded topology.groupsByTier final.topology.groupsByTier
        (zoneGroups runtime graph.adj view options).1 := by
  intro view final
  have spec := foldl_addTier_spec runtime (zone_rows tiered zone) options
    (sortedTierKeys runtime ["BuildTopology", "tiers"] view.devicesByTier)
    { topology := topology, deviceToGroup := hostGroups runtime view }
  simp only [sortedTierKeys_eq] at spec
  simp only [final, sortedTierKeys_eq]
  exact spec

lemma foldl_addZone_groups (tiered : Tiered graph layers)
    (options : DiscoverOptions) (zones : List (List String))
    (areZones : ∀ names ∈ zones, Zone layers names) (topology : Topology) :
    GroupsAdded topology.groupsByTier
      (zones.foldl (addZone runtime graph options) topology).groupsByTier
      (zones.flatMap fun names => (zoneGroups runtime graph.adj
        (buildZoneDeviceView graph names) options).1) := by
  induction zones using reverseRecOn with
  | nil => exact .refl _
  | append_singleton before last ih =>
    rw [foldl_append, flatMap_append, flatMap_singleton]
    exact (ih fun names listed => areZones names
      (mem_append_left _ listed)).trans (zoneState_spec runtime tiered
        (areZones last (by simp)) options _).2.2

lemma deviceTopology_empty (graph : TopologyGraph) :
    (deviceTopology runtime graph).groupsByTier = ∅ ∧
      (deviceTopology runtime graph).parentIndex = ∅ := by
  obtain ⟨_, _, _, groups, parents⟩ := foldl_addDeviceNode_spec graph.devices
    (runtime.range ["BuildTopology", "devices"] graph.devices.keys)
    { nodes := ∅, edges := [], nodesByTier := ∅, groupsByTier := ∅, parentIndex := ∅ }
  exact ⟨groups, parents⟩

/-- A tier of the result lists the discovered groups of that tier. -/
lemma buildTopology_groups (tiered : Tiered graph layers) (options : DiscoverOptions) (tier : Int) :
    ((buildTopology runtime graph options).groupsByTier.getD tier []).Perm
        ((discoveredGroups runtime graph options).filter fun group => group.tier = tier) ∧
      (tier ∈ (buildTopology runtime graph options).groupsByTier ↔
        ∃ group ∈ discoveredGroups runtime graph options, group.tier = tier) := by
  obtain ⟨zones, _, _⟩ := collectConnectedZones_spec runtime tiered
  have added := foldl_addZone_groups runtime tiered options
    (collectConnectedZones runtime graph) zones
    (deviceTopology runtime graph)
  have list := added.lists tier
  have key := added.keys tier
  rw [(deviceTopology_empty runtime graph).1] at list key
  simp only [getD_eq, Std.ExtTreeMap.getElem?_empty,
    Option.getD_none, nil_append, Std.ExtTreeMap.not_mem_empty,
    false_or] at list key
  have sorted := getElem?_sortGroupsByTier runtime ((collectConnectedZones runtime graph).foldl
      (addZone runtime graph options)
      (deviceTopology runtime graph)).groupsByTier tier
  have result : (buildTopology runtime graph options).groupsByTier = sortGroupsByTier runtime
        ((collectConnectedZones runtime graph).foldl (addZone runtime graph options)
          (deviceTopology runtime graph)).groupsByTier := rfl
  constructor
  · rw [getD_eq, result, sorted]
    unfold discoveredGroups
    rw [← list]
    cases ((collectConnectedZones runtime graph).foldl (addZone runtime graph options)
        (deviceTopology runtime graph)).groupsByTier[tier]? with
    | none => exact List.Perm.refl _
    | some groups => exact runtime.sortSlice_perm _ groups
  · unfold discoveredGroups
    rw [← key, mem_iff, mem_iff, result, sorted]
    simp

lemma mem_groupsByTier_iff (tiered : Tiered graph layers)
    (options : DiscoverOptions) (tier : Int) (group : TopologyGroup) :
    group ∈ (buildTopology runtime graph options).groupsByTier.getD tier [] ↔
      group ∈ discoveredGroups runtime graph options ∧ group.tier = tier := by
  rw [(buildTopology_groups runtime tiered options tier).1.mem_iff, mem_filter, decide_eq_true_eq]

end

end

end Unifabric.Discovery
