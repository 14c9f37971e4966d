import Unifabric.Discovery.GroupNames

/-!
# Parents of devices and groups

The parent index is written zone by zone, first for the devices and then for
the groups.  All neighbours of a device or of a group in the tier above belong
to one group, so every entry names one parent.  An entry is overwritten only
by a device or a group of the same name.
-/

namespace Unifabric.Discovery

open Lib Relation GoMap List

variable {group : TopologyGroup} {a b parent parent' name : String}
  {level : Nat} {table : GoMap String Bool} {names : List String}

/-! ## Parents in a grouping -/

section

variable {layers : LayeredGraph String} {options : DiscoverOptions}
  {groups : List TopologyGroup} {nameOf : String → String}

/-- A neighbour of the device one level above is in the group. -/
def ParentOf (layers : LayeredGraph String) (nameOf : String → String) (a parent : String) : Prop :=
  ∃ level neighbor, layers.Level level a ∧ layers.link a neighbor ∧
    layers.Level (level + 1) neighbor ∧ nameOf neighbor = parent

/-- A neighbour of the group one level above is in the group `parent`. -/
def GroupParent (layers : LayeredGraph String) (nameOf : String → String) (group : TopologyGroup)
    (parent : String) : Prop :=
  ∃ member ∈ group.members, ParentOf layers nameOf member parent ∧ parent ≠ group.name

/-- The device or group of the name has the parent. -/
def HasParent (layers : LayeredGraph String)
    (groups : List TopologyGroup) (nameOf : String → String) (name parent : String) : Prop :=
  ParentOf layers nameOf name parent ∨ ∃ group ∈ groups, group.name = name ∧
      GroupParent layers nameOf group parent

section

variable (grouping : Grouping layers options groups nameOf)

include grouping

lemma Grouping.connected (listed : group ∈ groups) (aMember : a ∈ group.members)
    (bMember : b ∈ group.members) : layers.Connected a b := by
  obtain ⟨level, tier⟩ := grouping.level group listed
  obtain ⟨start, _, isClass⟩ := grouping.isClass group listed level tier
  have reach : ∀ {x}, ReflTransGen (layers.ChainLink level
      (SameName layers nameOf)) start x → layers.Connected start x := by
    intro x path
    induction path with
    | refl => exact ReflTransGen.refl
    | tail _ link connected =>
      obtain ⟨xLevel, yLevel, u, v, xu, yv, uLevel, vLevel, same, _⟩ := link
      have down := (LayeredGraph.Adjacent.up (layers.link_symm xu) uLevel xLevel).symm
      have up := LayeredGraph.Adjacent.up (layers.link_symm yv) vLevel yLevel
      exact ((connected.tail down).trans same).tail up
  exact (reach ((isClass a).1 aMember)).symm.trans (reach ((isClass b).1 bMember))

lemma Grouping.level_of_mem (listed : group ∈ groups)
    (tier : group.tier = (level + 1 : Nat)) (member : a ∈ group.members) :
    layers.Level (level + 1) a := by
  obtain ⟨start, isStart, isClass⟩ := grouping.isClass group listed level tier
  rcases ((isClass a).1 member).cases_tail with same | ⟨_, _, link⟩
  · rwa [same]
  · exact link.2.1

lemma Grouping.eq_of_common_member (leftListed : left ∈ groups) (rightListed : right ∈ groups)
    (inLeft : a ∈ left.members) (inRight : a ∈ right.members) : left = right := by
  by_contra differ
  have : Std.Symm fun left right : TopologyGroup =>
      ∀ name, name ∈ left.members → name ∉ right.members :=
    ⟨fun _ _ disjoint name inSecond inFirst =>
      disjoint name inFirst inSecond⟩
  exact grouping.disjoint.forall leftListed rightListed differ a inLeft inRight

/-- The neighbours above equally named devices are in one group. -/
lemma Grouping.upper_group_unique (same : SameName layers nameOf a b)
    (aLevel : layers.Level level a) (bLevel : layers.Level level b) (ap : layers.link a p)
    (bq : layers.link b q) (pLevel : layers.Level (level + 1) p)
    (qLevel : layers.Level (level + 1) q) :
    ∃ group ∈ groups, group.tier = (level + 1 : Nat) ∧ p ∈ group.members ∧ q ∈ group.members := by
  obtain ⟨group, listed, tier, member⟩ := grouping.cover level p pLevel
  obtain ⟨start, _, isClass⟩ := grouping.isClass group listed level tier
  refine ⟨group, listed, tier, member, (isClass q).2 ?_⟩
  exact ((isClass p).1 member).tail
    ⟨pLevel, qLevel, a, b, layers.link_symm ap, layers.link_symm bq, aLevel, bLevel, same⟩

lemma ParentOf.unique (same : SameName layers nameOf a b)
    (sameLevel : ∀ level, layers.Level level a ↔ layers.Level level b)
    (first : ParentOf layers nameOf a parent)
    (second : ParentOf layers nameOf b parent') : parent = parent' := by
  obtain ⟨level, p, aLevel, ap, pLevel, rfl⟩ := first
  obtain ⟨level', q, bLevel, bq, qLevel, rfl⟩ := second
  have equal := bLevel.unique ((sameLevel level).1 aLevel)
  subst equal
  rcases grouping.upper_group_unique same aLevel bLevel ap bq pLevel
    qLevel with ⟨group, listed, _, pMember, qMember⟩
  rw [grouping.member group listed p pMember, grouping.member group listed q qMember]

lemma ParentOf.self_unique (first : ParentOf layers nameOf a parent)
    (second : ParentOf layers nameOf a parent') : parent = parent' :=
  ParentOf.unique grouping ⟨ReflTransGen.refl, rfl⟩ (fun _ => Iff.rfl) first second

lemma GroupParent.unique (listed : group ∈ groups) (first : GroupParent layers nameOf group parent)
    (second : GroupParent layers nameOf group parent') : parent = parent' := by
  obtain ⟨a, aMember, aParent, _⟩ := first
  obtain ⟨b, bMember, bParent, _⟩ := second
  obtain ⟨level, tier⟩ := grouping.level group listed
  have aLevel := grouping.level_of_mem listed tier aMember
  have bLevel := grouping.level_of_mem listed tier bMember
  refine ParentOf.unique grouping ⟨grouping.connected listed aMember bMember, ?_⟩ ?_ aParent bParent
  · rw [grouping.member group listed a aMember, grouping.member group listed b bMember]
  · intro other
    constructor
    · intro reached
      rwa [reached.unique aLevel]
    · intro reached
      rwa [reached.unique bLevel]

end

end

/-! ## The group index of a zone -/

section

variable (zone : ZoneDeviceView)

/-- Assign a group to its members inside the zone. -/
def assignInZone (table : GoMap String String) (group : TopologyGroup) : GoMap String String :=
  group.members.foldl (fun table member =>
      if zone.devices.contains member then table.insert member group.name
      else table)
    table

lemma getElem?_assignInZone (table : GoMap String String)
    (group : TopologyGroup) (known : name ∈ zone.devices) :
    (assignInZone zone table group)[name]? =
      if name ∈ group.members then some group.name else table[name]? := by
  have filtered := getElem?_foldl_insert
    (group.members.filter fun member => zone.devices.contains member)
    id (fun _ => group.name) table name
  rw [foldl_filter] at filtered
  simp only [id_eq, map_id, mem_filter,
    ← Std.ExtTreeMap.mem_iff_contains, known, and_true] at filtered
  exact filtered

/-- A device in some group is assigned the name all its groups have. -/
lemma getElem?_foldl_assignInZone (nameOf : String → String) (groups : List TopologyGroup)
    (consistent : ∀ group ∈ groups, ∀ a ∈ group.members, nameOf a = group.name)
    (known : name ∈ zone.devices) (table : GoMap String String)
    (reached : table[name]? = some (nameOf name) ∨ ∃ group ∈ groups, name ∈ group.members) :
    (groups.foldl (assignInZone zone) table)[name]? = some (nameOf name) := by
  induction groups generalizing table with
  | nil =>
    rcases reached with assigned | ⟨_, listed, _⟩
    · exact assigned
    · simp at listed
  | cons first rest ih =>
    refine ih (fun group listed => consistent group (mem_cons_of_mem _ listed)) _ ?_
    rw [getElem?_assignInZone zone table first known]
    by_cases member : name ∈ first.members
    · rw [if_pos member, consistent first mem_cons_self name member]
      exact .inl rfl
    · rw [if_neg member]
      rcases reached with assigned | ⟨group, listed, inGroup⟩
      · exact .inl assigned
      · rcases mem_cons.1 listed with rfl | later
        · exact absurd inGroup member
        · exact .inr ⟨group, later, inGroup⟩

/-- The groups of a result in the order of the index loops. -/
def listedGroups (groupsByTier : GoMap Int (List TopologyGroup)) : List TopologyGroup :=
  groupsByTier.keys.flatMap fun tier => if tier = 0 then [] else groupsByTier.getD tier []

lemma mem_listedGroups_iff (groupsByTier : GoMap Int (List TopologyGroup)) (group : TopologyGroup) :
    group ∈ listedGroups groupsByTier ↔ ∃ tier, tier ≠ 0 ∧ group ∈ groupsByTier.getD tier [] := by
  unfold listedGroups
  rw [mem_flatMap]
  constructor
  · rintro ⟨tier, _, member⟩
    split_ifs at member with isHost
    · simp at member
    · exact ⟨tier, isHost, member⟩
  · rintro ⟨tier, nonzero, member⟩
    refine ⟨tier, mem_keys_of_mem_getD member, ?_⟩
    rwa [if_neg nonzero]

/-- A loop over the tiers of a result is a loop over its groups. -/
lemma foldl_tiers_eq {σ : Type} (step : σ → TopologyGroup → σ)
    (groupsByTier : GoMap Int (List TopologyGroup)) (start : σ) :
    groupsByTier.keys.foldl (fun state tier =>
          if tier = 0 then state
          else (groupsByTier.getD tier []).foldl step state) start =
      (listedGroups groupsByTier).foldl step start := by
  unfold listedGroups
  rw [foldl_flatMap]
  congr 1
  funext state tier
  split_ifs
  · rfl
  · rfl

lemma buildDeviceToGroupIndex_eq (runtime : Runtime) (topology : Topology) :
    buildDeviceToGroupIndex runtime zone topology =
      (listedGroups topology.groupsByTier).foldl (assignInZone zone) ∅ := by
  unfold buildDeviceToGroupIndex
  rw [sortedTierKeys_eq]
  exact foldl_tiers_eq (assignInZone zone) topology.groupsByTier ∅

end

/-! ## Parent sets -/

section

/-- The names which a set maps to `true` are its keys. -/
def OnlyTrue (table : GoMap String Bool) : Prop :=
  ∀ (name : String) (value : Bool), table[name]? = some value → value = true

lemma onlyTrue_empty : OnlyTrue (∅ : GoMap String Bool) := by
  intro name value found
  simp at found

lemma OnlyTrue.insert (onlyTrue : OnlyTrue table) (added : String) :
    OnlyTrue (table.insert added true) := by
  intro name value found
  rw [GoMap.getElem?_insert] at found
  split_ifs at found with same
  · exact (Option.some.inj found).symm
  · exact onlyTrue name value found

lemma OnlyTrue.getD_iff (onlyTrue : OnlyTrue table) (name : String) :
    table.getD name false = true ↔ name ∈ table := by
  rw [getD_eq, mem_iff]
  cases found : table[name]? with
  | none => simp
  | some value => simp [onlyTrue name value found]

/-- A nonempty set with one possible element lists just that element. -/
lemma OnlyTrue.sortedBoolKeys_eq_singleton (onlyTrue : OnlyTrue table) (runtime : Runtime)
    (site : List String) (present : name ∈ table) (only : ∀ other, other ∈ table → other = name) :
    sortedBoolKeys runtime site table = [name] := by
  have distinct := sortedBoolKeys_nodup runtime site table
  have member : ∀ other, other ∈ sortedBoolKeys runtime site table ↔ other ∈ [name] := by
    intro other
    rw [mem_sortedBoolKeys, onlyTrue.getD_iff, mem_singleton]
    constructor
    · exact only other
    · rintro rfl
      exact present
  have same := (perm_ext_iff_of_nodup distinct (nodup_singleton name)).2 member
  exact perm_singleton.1 same

variable (runtime : Runtime) (adj : Adjacency) (zone : ZoneDeviceView)
  (deviceToGroup : GoMap String String) (skip : String → Bool)
  (childName : String)

/-- The group of a neighbour of the device in the tier above. -/
def NextTierGroup (parent : String) : Prop :=
  ∃ neighbor device, HasEdge adj childName neighbor ∧ zone.devices[neighbor]? = some device ∧
    device.tier = (zone.devices.getD childName .zero).tier + 1 ∧
    deviceToGroup.getD device.name device.name = parent ∧
    skip parent = false

lemma addParents_spec (parentSet : GoMap String Bool) (onlyTrue : OnlyTrue parentSet) :
    let final := addParents runtime adj zone deviceToGroup skip childName parentSet
    OnlyTrue final ∧ ∀ parent, parent ∈ final ↔ parent ∈ parentSet ∨
      NextTierGroup adj zone deviceToGroup skip childName parent := by
  refine And.imp_right ?_ (foldl_collect OnlyTrue (fun table parent => parent ∈ table)
    (fun neighbor parent => ∃ device, zone.devices[neighbor]? = some device ∧
      device.tier = (zone.devices.getD childName .zero).tier + 1 ∧
      deviceToGroup.getD device.name device.name = parent ∧
      skip parent = false) ?_ onlyTrue
    (sortedBoolKeys runtime ["parentIndex", childName] (adj.getD childName ∅)))
  · intro collected parent
    refine (collected parent).trans (or_congr_right ?_)
    simp only [mem_sortedBoolKeys]
    constructor
    · rintro ⟨neighbor, edge, device, rest⟩
      exact ⟨neighbor, device, edge, rest⟩
    · rintro ⟨neighbor, device, edge, rest⟩
      exact ⟨neighbor, edge, device, rest⟩
  intro table neighbor allTrue
  cases found : zone.devices[neighbor]? with
  | none => exact ⟨allTrue, fun parent => by simp⟩
  | some device =>
    simp only [Option.some.injEq, exists_eq_left']
    split_ifs with otherTier skipped
    · exact ⟨allTrue, fun parent => by simp [otherTier]⟩
    · refine ⟨allTrue, fun parent => (or_iff_left ?_).symm⟩
      rintro ⟨_, rfl, kept⟩
      rw [skipped] at kept
      cases kept
    · refine ⟨allTrue.insert _, fun parent => ?_⟩
      rw [mem_insert, or_comm]
      refine or_congr_right ⟨?_, fun next => next.2.1.symm⟩
      rintro rfl
      exact ⟨not_not.1 otherTier, rfl, Bool.eq_false_of_not_eq_true skipped⟩

/-- The parent set of a group gathers those of its members in the zone. -/
lemma foldl_addParents_spec (members : List String)
    (parentSet : GoMap String Bool) (onlyTrue : OnlyTrue parentSet) :
    let final := members.foldl (fun parentSet member =>
        if zone.devices.contains member then
          addParents runtime adj zone deviceToGroup skip member parentSet
        else parentSet) parentSet
    OnlyTrue final ∧ ∀ parent, parent ∈ final ↔ parent ∈ parentSet ∨
      ∃ member ∈ members, member ∈ zone.devices ∧
        NextTierGroup adj zone deviceToGroup skip member parent := by
  refine foldl_collect OnlyTrue (fun table parent => parent ∈ table)
    (fun member parent => member ∈ zone.devices ∧
      NextTierGroup adj zone deviceToGroup skip member parent) ?_ onlyTrue
    members
  intro table member allTrue
  rw [Std.ExtTreeMap.mem_iff_contains]
  split_ifs with known
  · simp only [known, true_and]
    exact addParents_spec runtime adj zone deviceToGroup skip member table allTrue
  · exact ⟨allTrue, fun parent => by simp [known]⟩

end

/-! ## The parent index -/

lemma foldl_setParents_spec {α : Type} (runtime : Runtime) (entries : List α)
    (nameOf : α → String) (setOf : α → GoMap String Bool) (index : GoMap String (List String)) :
    let final := entries.foldl (fun index entry =>
        setParents runtime index (nameOf entry) (setOf entry)) index
    (∀ (name : String) (parents : List String), final[name]? = some parents →
        index[name]? = some parents ∨ ∃ entry ∈ entries,
          nameOf entry = name ∧ (∃ parent, parent ∈ setOf entry) ∧ parents = sortedBoolKeys runtime
              ["parentIndex", name, "set"] (setOf entry)) ∧
      (∀ name, name ∈ index → name ∈ final) ∧
      ∀ entry ∈ entries, (∃ parent, parent ∈ setOf entry) → nameOf entry ∈ final := by
  intro final
  have filtered : final = (entries.filter fun entry => !(setOf entry).isEmpty).foldl
        (fun index entry => index.insert (nameOf entry) (sortedBoolKeys
          runtime ["parentIndex", nameOf entry, "set"] (setOf entry)))
        index := by
    rw [List.foldl_filter]
    refine congrArg (fun step => entries.foldl step index) ?_
    funext index entry
    unfold setParents
    cases (setOf entry).isEmpty
    · rfl
    · rfl
  have listed (entry : α) : entry ∈ entries.filter (fun entry => !(setOf entry).isEmpty) ↔
        entry ∈ entries ∧ ∃ parent, parent ∈ setOf entry := by
    rw [List.mem_filter, ← GoMap.isEmpty_eq_false_iff, Bool.not_eq_true']
  rw [filtered]
  refine ⟨?_, ?_, ?_⟩
  · intro name parents found
    refine ((GoMap.foldl_insert_spec _ _ _ _ name).1 parents found).imp_right ?_
    rintro ⟨entry, isListed, rfl, rfl⟩
    obtain ⟨isEntry, nonempty⟩ := (listed entry).1 isListed
    exact ⟨entry, isEntry, rfl, nonempty, rfl⟩
  · intro name present
    exact (GoMap.foldl_insert_spec _ _ _ _ name).2 (.inl present)
  · intro entry isEntry nonempty
    exact (GoMap.foldl_insert_spec _ _ _ _ _).2
      (.inr ⟨entry, (listed entry).2 ⟨isEntry, nonempty⟩, rfl⟩)

section

variable {graph : TopologyGraph} {layers : LayeredGraph String}
  {options : DiscoverOptions} {groups : List TopologyGroup}
  {nameOf : String → String}

/-- Every entry names one parent of a device or group of that name. -/
def ParentsSound (layers : LayeredGraph String)
    (groups : List TopologyGroup) (nameOf : String → String)
    (index : GoMap String (List String)) : Prop :=
  ∀ (name : String) (parents : List String), index[name]? = some parents →
      ∃ parent, parents = [parent] ∧ HasParent layers groups nameOf name parent

lemma nextTierGroup_iff (tiered : Tiered graph layers) (zone : Zone layers names)
    (assigned : ∀ name ∈ names, ∀ level, layers.Level (level + 1) name →
      deviceToGroup[name]? = some (nameOf name))
    (skip : String → Bool) (member : a ∈ names) (parent : String) :
    NextTierGroup graph.adj (buildZoneDeviceView graph names) deviceToGroup skip a parent ↔
      ParentOf layers nameOf a parent ∧ skip parent = false := by
  have lookup := (buildZoneDeviceView_spec graph names).1
  obtain ⟨level, reached⟩ := zone.leveled member
  have known := tiered.mem_of_level reached
  have tierEq := (tiered.tierOf_eq_iff known level).2 reached
  have childTier : ((buildZoneDeviceView graph names).devices.getD a .zero).tier = level := by
    rw [getD_eq, lookup, if_pos member]
    exact tierEq
  constructor
  · rintro ⟨neighbor, device, edge, found, tier, named, kept⟩
    rw [childTier] at tier
    rw [lookup] at found
    split_ifs at found with inZone
    have adjacent := (tiered.edge a neighbor).1 edge
    obtain ⟨other, otherReached⟩ := adjacent.symm.leveled
    have neighborKnown := tiered.mem_of_level otherReached
    have neighborLevel : layers.Level (level + 1) neighbor := by
      rw [← tiered.tierOf_eq_iff neighborKnown, tierOf, Option.some.inj found, tier]
      norm_cast
    have deviceName : device.name = neighbor := by
      obtain ⟨stored, isStored⟩ := (mem_iff _ _).1 neighborKnown
      rw [← Option.some.inj found, getD_eq, isStored]
      exact tiered.named isStored
    rw [deviceName, getD_eq, assigned neighbor inZone level neighborLevel] at named
    exact ⟨⟨level, neighbor, reached, adjacent.1, neighborLevel, named⟩, kept⟩
  · rintro ⟨⟨other, neighbor, aLevel, link, neighborLevel, named⟩, kept⟩
    have equal := aLevel.unique reached
    subst equal
    have adjacent : layers.Adjacent a neighbor := LayeredGraph.Adjacent.up link aLevel neighborLevel
    have inZone : neighbor ∈ names :=
      (zone.connected member).2 (Relation.ReflTransGen.single adjacent)
    have neighborKnown := tiered.mem_of_level neighborLevel
    obtain ⟨device, isStored⟩ := (mem_iff _ _).1 neighborKnown
    refine ⟨neighbor, device, (tiered.edge a neighbor).2 adjacent, ?_, ?_, ?_, kept⟩
    · rw [lookup, if_pos inZone, getD_eq, isStored]
      rfl
    · rw [childTier]
      exact_mod_cast (tiered.tier isStored (other + 1)).2 neighborLevel
    · rw [tiered.named isStored, getD_eq, assigned neighbor inZone other neighborLevel]
      exact named

lemma buildParentIndexForZone_spec (runtime : Runtime) (tiered : Tiered graph layers)
    (zone : Zone layers names) (grouping : Grouping layers options groups nameOf)
    (topology : Topology) (listed : ∀ group ∈ listedGroups topology.groupsByTier, group ∈ groups)
    (covered : ∀ a ∈ names, ∀ level, layers.Level (level + 1) a → ∃ group ∈
      listedGroups topology.groupsByTier, a ∈ group.members)
    (sound : ParentsSound layers groups nameOf topology.parentIndex) :
    let final := (buildParentIndexForZone runtime graph.adj
      (buildZoneDeviceView graph names) topology).parentIndex
    ParentsSound layers groups nameOf final ∧ (∀ name, name ∈ topology.parentIndex → name ∈ final) ∧
      (∀ a ∈ names, ∀ parent, ParentOf layers nameOf a parent → a ∈ final) ∧
      ∀ group ∈ listedGroups topology.groupsByTier,
        ∀ member ∈ group.members, member ∈ names → ∀ parent, ParentOf layers nameOf member parent →
            parent ≠ group.name → group.name ∈ final := by
  have lookup := (buildZoneDeviceView_spec graph names).1
  have inView : ∀ name, name ∈ (buildZoneDeviceView graph names).devices ↔ name ∈ names := by
    intro name
    rw [mem_iff, lookup]
    split_ifs with member
    · simp [member]
    · simp [member]
  let deviceToGroup := buildDeviceToGroupIndex runtime (buildZoneDeviceView graph names) topology
  have assigned : ∀ name ∈ names, ∀ level, layers.Level (level + 1) name →
        deviceToGroup[name]? = some (nameOf name) := by
    intro name member level reached
    simp only [deviceToGroup]
    rw [buildDeviceToGroupIndex_eq]
    exact getElem?_foldl_assignInZone _ nameOf _ (fun group inList a inGroup =>
        grouping.member group (listed group inList) a inGroup)
      ((inView name).2 member) ∅
      (.inr (covered name member level reached))
  let devices := (buildZoneDeviceView graph names).devices
  let deviceSet := fun a => addParents runtime graph.adj
    (buildZoneDeviceView graph names) deviceToGroup (fun _ => false) a ∅
  let groupSet := fun group : TopologyGroup => group.members.foldl (fun parentSet member =>
      if (buildZoneDeviceView graph names).devices.contains member then
        addParents runtime graph.adj (buildZoneDeviceView graph names)
          deviceToGroup (fun parentName => parentName == group.name)
          member parentSet
      else parentSet) ∅
  have deviceSpec : ∀ a ∈ names, OnlyTrue (deviceSet a) ∧ ∀ parent, parent ∈ deviceSet a ↔
        ParentOf layers nameOf a parent := by
    intro a member
    rcases addParents_spec runtime graph.adj
      (buildZoneDeviceView graph names) deviceToGroup (fun _ => false) a
      ∅ onlyTrue_empty with ⟨onlyTrue, iff⟩
    refine ⟨onlyTrue, fun parent => (iff parent).trans ?_⟩
    rw [nextTierGroup_iff tiered zone assigned _ member]
    simp
  have groupSpec : ∀ group, OnlyTrue (groupSet group) ∧ ∀ parent, parent ∈ groupSet group ↔
        ∃ member ∈ group.members, member ∈ names ∧ ParentOf layers nameOf member parent ∧
            parent ≠ group.name := by
    intro group
    rcases foldl_addParents_spec runtime graph.adj (buildZoneDeviceView graph names) deviceToGroup
      (fun parentName => parentName == group.name) group.members
      ∅ onlyTrue_empty with ⟨onlyTrue, iff⟩
    refine ⟨onlyTrue, fun parent => (iff parent).trans ?_⟩
    simp only [Std.ExtTreeMap.not_mem_empty, false_or, inView]
    refine exists_congr fun member => and_congr_right fun _ => and_congr_right fun inZone => ?_
    rw [nextTierGroup_iff tiered zone assigned _ inZone]
    simp
  rcases foldl_setParents_spec runtime devices.keys id deviceSet
    topology.parentIndex with ⟨deviceSound, deviceKeeps, deviceStores⟩
  rcases foldl_setParents_spec runtime
    (listedGroups topology.groupsByTier) TopologyGroup.name groupSet
    (devices.keys.foldl (fun index a => setParents runtime index (id a) (deviceSet a))
      topology.parentIndex) with ⟨groupSound, groupKeeps, groupStores⟩
  have final_eq : (buildParentIndexForZone runtime graph.adj
      (buildZoneDeviceView graph names) topology).parentIndex =
        (listedGroups topology.groupsByTier).foldl
          (fun index group => setParents runtime index group.name (groupSet group))
          (devices.keys.foldl (fun index a => setParents runtime index (id a)
              (deviceSet a)) topology.parentIndex) := by
    rw [← foldl_tiers_eq]
    unfold buildParentIndexForZone buildGroupParentIndex buildDeviceParentIndex
    rw [sortedTierKeys_eq, sortedDeviceNames_eq]
    rfl
  rw [final_eq]
  refine ⟨?_, ?_, ?_, ?_⟩
  · intro name parents found
    rcases groupSound name parents found with old | ⟨group, inList, rfl, ⟨parent, present⟩, rfl⟩
    · rcases deviceSound name parents old with before | ⟨a, inKeys, rfl, ⟨parent, present⟩, rfl⟩
      · exact sound name parents before
      · have member : a ∈ names := (inView a).1 (Std.ExtTreeMap.mem_keys.1 inKeys)
        obtain ⟨onlyTrue, iff⟩ := deviceSpec a member
        have isParent := (iff parent).1 present
        refine ⟨parent, ?_, .inl isParent⟩
        refine onlyTrue.sortedBoolKeys_eq_singleton runtime _ present ?_
        intro other inSet
        exact ParentOf.self_unique grouping ((iff other).1 inSet) isParent
    · obtain ⟨onlyTrue, iff⟩ := groupSpec group
      have isParent : ∀ {other}, other ∈ groupSet group →
          GroupParent layers nameOf group other := by
        intro other inSet
        obtain ⟨member, inGroup, _, rest⟩ := (iff other).1 inSet
        exact ⟨member, inGroup, rest⟩
      refine ⟨parent, ?_, .inr ⟨group, listed group inList, rfl, isParent present⟩⟩
      refine onlyTrue.sortedBoolKeys_eq_singleton runtime _ present ?_
      intro other inSet
      exact GroupParent.unique grouping (listed group inList) (isParent inSet) (isParent present)
  · intro name present
    exact groupKeeps name (deviceKeeps name present)
  · intro a member parent isParent
    refine groupKeeps a (deviceStores a ?_ ⟨parent, ?_⟩)
    · exact Std.ExtTreeMap.mem_keys.2 ((inView a).2 member)
    · exact ((deviceSpec a member).2 parent).2 isParent
  · intro group inList member inGroup inZone parent isParent differs
    refine groupStores group inList ⟨parent, ?_⟩
    exact ((groupSpec group).2 parent).2 ⟨member, inGroup, inZone, isParent, differs⟩

end

/-! ## All zones -/

section

variable {graph : TopologyGraph} {layers : LayeredGraph String}

/-- What the result holds once the listed zones are processed. -/
structure ZonesDone (runtime : Runtime) (graph : TopologyGraph)
    (layers : LayeredGraph String) (options : DiscoverOptions)
    (done : List (List String)) (topology : Topology) : Prop where
  lists : ∀ group, group ∈ listedGroups topology.groupsByTier ↔
    ∃ names ∈ done, group ∈ (zoneGroups runtime graph.adj
      (buildZoneDeviceView graph names) options).1
  sound : ParentsSound layers (discoveredGroups runtime graph options)
    (groupNameOf (discoveredGroups runtime graph options))
    topology.parentIndex
  device : ∀ names ∈ done, ∀ a ∈ names, ∀ parent, ParentOf layers
      (groupNameOf (discoveredGroups runtime graph options)) a parent → a ∈ topology.parentIndex
  group : ∀ names ∈ done, ∀ group ∈ (zoneGroups runtime graph.adj
      (buildZoneDeviceView graph names) options).1, ∀ parent,
    GroupParent layers (groupNameOf (discoveredGroups runtime graph options)) group
      parent → group.name ∈ topology.parentIndex

lemma mem_listedGroups_zoneState (runtime : Runtime)
    (tiered : Tiered graph layers) (zone : Zone layers names)
    (options : DiscoverOptions) (topology : Topology) (group : TopologyGroup) :
    group ∈ listedGroups ((sortedTierKeys runtime ["BuildTopology", "tiers"]
          (buildZoneDeviceView graph names).devicesByTier).foldl
        (addTier runtime graph.adj (buildZoneDeviceView graph names) options)
        { topology := topology
          deviceToGroup := hostGroups runtime
            (buildZoneDeviceView graph names) }).topology.groupsByTier ↔
      group ∈ listedGroups topology.groupsByTier ∨ group ∈ (zoneGroups runtime graph.adj
          (buildZoneDeviceView graph names) options).1 := by
  have lists := (zoneState_spec runtime tiered zone options topology).2.2.lists
  rw [mem_listedGroups_iff, mem_listedGroups_iff]
  constructor
  · rintro ⟨tier, nonzero, member⟩
    rw [lists tier, mem_append] at member
    rcases member with old | new
    · exact .inl ⟨tier, nonzero, old⟩
    · exact .inr (mem_filter.1 new).1
  · rintro (⟨tier, nonzero, old⟩ | new)
    · refine ⟨tier, nonzero, ?_⟩
      rw [lists tier]
      exact mem_append_left _ old
    · obtain ⟨level, tier, _⟩ := zoneGroups_level runtime tiered zone options new
      refine ⟨group.tier, by omega, ?_⟩
      rw [lists group.tier]
      exact mem_append_right _ (mem_filter.2 ⟨new, by simp⟩)

lemma ZonesDone.addZone (runtime : Runtime) (tiered : Tiered graph layers)
    (before : ZonesDone runtime graph layers options done topology)
    (known : ∀ other ∈ done, other ∈ collectConnectedZones runtime graph)
    (isZone : names ∈ collectConnectedZones runtime graph) :
    ZonesDone runtime graph layers options (done ++ [names])
      (addZone runtime graph options topology names) := by
  have zone := (collectConnectedZones_spec runtime tiered).1 names isZone
  have grouping := discoveredGroups_grouping runtime tiered options
  have parents := (zoneState_spec runtime tiered zone options topology).2.1
  have listedIff := mem_listedGroups_zoneState runtime tiered zone options topology
  let grouped := ((sortedTierKeys runtime ["BuildTopology", "tiers"]
      (buildZoneDeviceView graph names).devicesByTier).foldl
    (addTier runtime graph.adj (buildZoneDeviceView graph names) options)
    { topology := topology
      deviceToGroup := hostGroups runtime (buildZoneDeviceView graph names) }).topology
  have lists : ∀ group, group ∈ listedGroups grouped.groupsByTier ↔
      ∃ other ∈ done ++ [names], group ∈ (zoneGroups runtime graph.adj
        (buildZoneDeviceView graph other) options).1 := by
    intro group
    refine (listedIff group).trans ?_
    rw [before.lists group]
    simp only [mem_append, mem_singleton, or_and_right, exists_or, exists_eq_left]
  have discovered : ∀ group ∈ listedGroups grouped.groupsByTier,
      group ∈ discoveredGroups runtime graph options := by
    intro group listed
    rw [mem_discoveredGroups_iff]
    obtain ⟨other, isDone, member⟩ := (lists group).1 listed
    rcases mem_append.1 isDone with earlier | last
    · exact ⟨other, known other earlier, member⟩
    · rw [mem_singleton] at last
      subst last
      exact ⟨other, isZone, member⟩
  have covered : ∀ a ∈ names, ∀ level, layers.Level (level + 1) a →
      ∃ group ∈ listedGroups grouped.groupsByTier, a ∈ group.members := by
    intro a member level reached
    rcases zoneGroups_cover runtime tiered zone options member reached with
      ⟨group, inZone, _, inGroup⟩
    exact ⟨group, (listedIff group).2 (.inr inZone), inGroup⟩
  have sound : ParentsSound layers (discoveredGroups runtime graph options)
      (groupNameOf (discoveredGroups runtime graph options))
      grouped.parentIndex := by
    simp only [grouped, parents]
    exact before.sound
  rcases buildParentIndexForZone_spec runtime tiered zone grouping grouped
    discovered covered sound with ⟨finalSound, keeps, devices, groups⟩
  simp only [grouped, parents] at keeps
  refine ⟨lists, finalSound, ?_, ?_⟩
  · intro other isDone a member parent isParent
    rcases mem_append.1 isDone with earlier | last
    · exact keeps a (before.device other earlier a member parent isParent)
    · rw [mem_singleton] at last
      subst last
      exact devices a member parent isParent
  · intro other isDone group inZone parent isParent
    rcases mem_append.1 isDone with earlier | last
    · exact keeps group.name (before.group other earlier group inZone parent isParent)
    · rw [mem_singleton] at last
      subst last
      obtain ⟨member, inGroup, parentOf, differs⟩ := isParent
      obtain ⟨_, _, members⟩ := zoneGroups_level runtime tiered zone options inZone
      exact groups group ((listedIff group).2 (.inr inZone)) member
        inGroup (members member inGroup).1 parent parentOf differs

lemma buildTopology_parents (runtime : Runtime)
    (tiered : Tiered graph layers) (options : DiscoverOptions) :
    ZonesDone runtime graph layers options (collectConnectedZones runtime graph)
      ((collectConnectedZones runtime graph).foldl (addZone runtime graph options)
        (deviceTopology runtime graph)) := by
  refine foldl_prefix_induction _ _ _ (fun done topology =>
      ZonesDone runtime graph layers options done topology) ?_ ?_
  · obtain ⟨groups, parents⟩ := deviceTopology_empty runtime graph
    refine ⟨?_, ?_, by simp, by simp⟩
    · intro group
      rw [groups]
      simp [listedGroups]
    · intro name list found
      rw [parents] at found
      simp at found
  · intro done names rest topology split reached
    refine ZonesDone.addZone runtime tiered reached ?_ ?_
    · intro other earlier
      rw [split]
      exact mem_append_left _ earlier
    · rw [split]
      simp

end

/-! ## Parents under the naming law -/

section

variable {layers : LayeredGraph String} {options : DiscoverOptions}
  {groups : List TopologyGroup} {nameOf : String → String}

/--
The names tell the groups apart, and only a device which is a group of its own
shares its name with a group.
-/
structure NamesApart (layers : LayeredGraph String)
    (groups : List TopologyGroup) : Prop where
  distinct : ∀ left ∈ groups, ∀ right ∈ groups, left.name = right.name →
    left.tier = right.tier ∧ SameMembers left right
  fresh : ∀ group ∈ groups, ∀ level, layers.Level level group.name →
    ∀ member ∈ group.members, member = group.name

lemma ParentOf.exists_group (grouping : Grouping layers options groups nameOf)
    (reached : layers.Level level a) (isParent : ParentOf layers nameOf a parent) :
    ∃ group ∈ groups, group.tier = (level + 1 : Nat) ∧
      group.name = parent ∧ ∀ neighbor, layers.link a neighbor →
        layers.Level (level + 1) neighbor → neighbor ∈ group.members := by
  obtain ⟨other, p, aLevel, ap, pLevel, named⟩ := isParent
  have equal := aLevel.unique reached
  subst equal
  obtain ⟨group, listed, tier, member⟩ := grouping.cover other p pLevel
  refine ⟨group, listed, tier, ?_, ?_⟩
  · rw [← grouping.member group listed p member, named]
  · intro neighbor linked neighborLevel
    rcases grouping.upper_group_unique ⟨ReflTransGen.refl, rfl⟩ aLevel
      aLevel ap linked pLevel neighborLevel with
      ⟨other', listed', _, pMember, neighborMember⟩
    rwa [grouping.eq_of_common_member listed listed' member pMember]

/-- The parent of a group is a group of the next tier, so not itself. -/
lemma NamesApart.groupParent_iff (apart : NamesApart layers groups)
    (grouping : Grouping layers options groups nameOf) (listed : group ∈ groups) (parent : String) :
    GroupParent layers nameOf group parent ↔
      ∃ member ∈ group.members, ParentOf layers nameOf member parent := by
  constructor
  · rintro ⟨member, inGroup, isParent, _⟩
    exact ⟨member, inGroup, isParent⟩
  · rintro ⟨member, inGroup, isParent⟩
    refine ⟨member, inGroup, isParent, ?_⟩
    rintro rfl
    obtain ⟨level, tier⟩ := grouping.level group listed
    rcases isParent.exists_group grouping (grouping.level_of_mem listed tier inGroup) with
      ⟨upper, upperListed, upperTier, named, _⟩
    have equal := (apart.distinct upper upperListed group listed named).1
    omega

lemma NamesApart.hasParent_unique (apart : NamesApart layers groups)
    (grouping : Grouping layers options groups nameOf)
    (first : HasParent layers groups nameOf name parent)
    (second : HasParent layers groups nameOf name parent') : parent = parent' := by
  have mixed : ∀ {p p' : String}, ParentOf layers nameOf name p →
      ∀ group ∈ groups, group.name = name → GroupParent layers nameOf group p' → p = p' := by
    intro p p' isParent group listed named groupParent
    obtain ⟨level, q, reached, rest⟩ := isParent
    obtain ⟨member, inGroup, memberParent, _⟩ := groupParent
    have same := apart.fresh group listed level (by rwa [named]) member inGroup
    rw [same, named] at memberParent
    exact ParentOf.self_unique grouping ⟨level, q, reached, rest⟩ memberParent
  rcases first with device | ⟨group, listed, named, groupParent⟩
  · rcases second with device' | ⟨group', listed', named', groupParent'⟩
    · exact ParentOf.self_unique grouping device device'
    · exact mixed device group' listed' named' groupParent'
  · rcases second with device' | ⟨group', listed', named', groupParent'⟩
    · exact (mixed device' group listed named groupParent).symm
    · have equal : group.name = group'.name := named.trans named'.symm
      obtain ⟨member, inGroup, memberParent, differs⟩ := groupParent'
      have transported : GroupParent layers nameOf group parent' :=
        ⟨member, (apart.distinct group listed group' listed' equal).2.2
          member inGroup, memberParent, by rwa [equal]⟩
      exact GroupParent.unique grouping listed groupParent transported

end

section

variable {graph : TopologyGraph} {layers : LayeredGraph String}

lemma parentIndex_sound (runtime : Runtime)
    (tiered : Tiered graph layers) (options : DiscoverOptions) :
    ParentsSound layers (discoveredGroups runtime graph options)
      (groupNameOf (discoveredGroups runtime graph options))
      (buildTopology runtime graph options).parentIndex :=
  (buildTopology_parents runtime tiered options).sound

lemma mem_parentIndex_of_hasParent (runtime : Runtime)
    (tiered : Tiered graph layers) (options : DiscoverOptions)
    (hasParent : HasParent layers (discoveredGroups runtime graph options)
      (groupNameOf (discoveredGroups runtime graph options)) name parent) :
    name ∈ (buildTopology runtime graph options).parentIndex := by
  have done := buildTopology_parents runtime tiered options
  rcases hasParent with isParent | ⟨group, listed, rfl, groupParent⟩
  · obtain ⟨level, neighbor, reached, rest⟩ := isParent
    obtain ⟨host, isBase, connected⟩ := LayeredGraph.Level.connected_base reached
    obtain ⟨names, isZone, member⟩ := (collectConnectedZones_spec runtime tiered).2.1 host isBase
    have zone := (collectConnectedZones_spec runtime tiered).1 names isZone
    exact done.device names isZone name ((zone.connected member).2 connected) parent
      ⟨level, neighbor, reached, rest⟩
  · rcases (mem_discoveredGroups_iff runtime graph options group).1
      listed with ⟨names, isZone, inZone⟩
    exact done.group names isZone group inZone parent groupParent

lemma parentIndex_eq_some_iff (runtime : Runtime) (tiered : Tiered graph layers)
    (options : DiscoverOptions) (apart : NamesApart layers (discoveredGroups runtime graph options))
    (name parent : String) :
    (buildTopology runtime graph options).parentIndex[name]? = some [parent] ↔
      HasParent layers (discoveredGroups runtime graph options)
        (groupNameOf (discoveredGroups runtime graph options)) name parent := by
  have sound := parentIndex_sound runtime tiered options
  constructor
  · intro found
    obtain ⟨other, same, hasParent⟩ := sound name [parent] found
    rwa [singleton_inj.1 same]
  · intro hasParent
    rcases (mem_iff _ _).1 (mem_parentIndex_of_hasParent runtime
      tiered options hasParent) with ⟨parents, found⟩
    obtain ⟨other, rfl, hasOther⟩ := sound name parents found
    rw [found, apart.hasParent_unique (discoveredGroups_grouping runtime tiered options) hasOther
      hasParent]

end

lemma Grouping.eq_name_of_single (grouping : Grouping layers options groups nameOf)
    (listed : group ∈ groups) (single : ¬ 2 ≤ group.members.length) {member : String}
    (inGroup : member ∈ group.members) : member = group.name := by
  have named := grouping.name group listed
  cases shape : group.members with
  | nil => simp [shape] at inGroup
  | cons first rest =>
    cases rest with
    | nil =>
      rw [shape, mem_singleton] at inGroup
      rw [named, shape, generateGroupName_single]
      exact inGroup
    | cons second rest => simp [shape] at single

/-- The naming law of a result keeps the names of its groups apart. -/
lemma namesApart_of_namesLaw
    (law : NamesLaw hosts switches (buildTopology runtime (tieredGraph runtime hosts switches)
        options)) : NamesApart (fabric hosts switches)
      (discoveredGroups runtime (tieredGraph runtime hosts switches) options) := by
  have tiered := tieredGraph_tiered runtime hosts switches
  have inResult : ∀ group ∈ discoveredGroups runtime (tieredGraph runtime hosts switches) options,
      group ∈ (buildTopology runtime (tieredGraph runtime hosts switches)
        options).groupsByTier.getD group.tier [] := by
    intro group listed
    exact (mem_groupsByTier_iff runtime tiered options group.tier group).2 ⟨listed, rfl⟩
  constructor
  · intro left leftListed right rightListed equal
    exact law.1 left.tier (mem_keys_of_mem_getD (inResult left leftListed))
      right.tier (mem_keys_of_mem_getD (inResult right rightListed))
      left (inResult left leftListed) right (inResult right rightListed)
      equal
  · intro group listed level reached member inGroup
    refine (discoveredGroups_grouping runtime tiered options).eq_name_of_single listed ?_ inGroup
    intro several
    rcases law.2 group.tier (mem_keys_of_mem_getD (inResult group listed))
      group (inResult group listed) several with ⟨notHost, notSwitch⟩
    cases level with
    | zero => exact notHost ((LayeredGraph.level_zero_iff group.name).1 reached).1
    | succ level => exact notSwitch reached.inner

end Unifabric.Discovery
