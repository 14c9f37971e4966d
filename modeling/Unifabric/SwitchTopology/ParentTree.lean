import Unifabric.SwitchTopology.NormalizeSpec

/-!
# The parent relation is a tree

When the names of groups and devices are told apart, the one parent of a
device or group is the group of the next tier which holds all its neighbours
there.  Every host then starts a chain of groups through the tiers, every
group is on such a chain, and the normalization succeeds.
-/

namespace Unifabric.SwitchTopology

open Lib Discovery Relation List GoMap

variable {options : DiscoverOptions}

variable {group : TopologyGroup} {parent name : String}

/-! ## Chains in a discovered topology -/

section

variable {runtime : Runtime} {graph : TopologyGraph} {layers : LayeredGraph String}

/-- The parents of a group name are the parents of the members. -/
lemma exists_parentOf_member (apart : NamesApart layers groups)
    (grouping : Grouping layers options groups nameOf) (listed : group ∈ groups)
    (hasParent : HasParent layers groups nameOf group.name parent) :
    ∃ member ∈ group.members, ParentOf layers nameOf member parent := by
  rcases hasParent with device | ⟨other, otherListed, named, isParent⟩
  · obtain ⟨level, neighbor, reached, rest⟩ := device
    obtain ⟨height, tier⟩ := grouping.level group listed
    obtain ⟨start, _, isClass⟩ := grouping.isClass group listed height tier
    have inGroup := (isClass start).2 ReflTransGen.refl
    have same := apart.fresh group listed level reached start inGroup
    rw [same] at inGroup
    exact ⟨group.name, inGroup, level, neighbor, reached, rest⟩
  · obtain ⟨member, inOther, memberParent, _⟩ := isParent
    exact ⟨member, (apart.distinct group listed other otherListed
      named.symm).2.2 member inOther, memberParent⟩

lemma parentOf_of_base (apart : NamesApart layers groups)
    (grouping : Grouping layers options groups nameOf) (isBase : layers.base host)
    (hasParent : HasParent layers groups nameOf host parent) :
    ParentOf layers nameOf host parent := by
  have atBase := (LayeredGraph.level_zero_iff host).2 isBase
  rcases hasParent with device | ⟨group, listed, rfl, isParent⟩
  · exact device
  · obtain ⟨member, inGroup, _, _⟩ := isParent
    have same := apart.fresh group listed 0 atBase member inGroup
    obtain ⟨level, tier⟩ := grouping.level group listed
    have reached := grouping.level_of_mem listed tier inGroup
    rw [same] at reached
    exact absurd (reached.unique atBase) (by omega)

section

variable (tiered : Tiered graph layers)
  (apart : NamesApart layers (discoveredGroups runtime graph options))

include tiered apart

/-- A name starts a chain if all its parents do. -/
lemma exists_chain_of_parents (above : ∀ parent, HasParent layers
        (discoveredGroups runtime graph options)
        (groupNameOf (discoveredGroups runtime graph options)) name parent →
      ∃ upper ∈ discoveredGroups runtime graph options, upper.tier = tier ∧ upper.name = parent ∧
        ∃ chain, Chain (buildTopology runtime graph options) upper.name (tier + 1) chain) :
    ∃ chain, Chain (buildTopology runtime graph options) name tier chain := by
  cases stored : (buildTopology runtime graph options).parentIndex[name]? with
  | none => exact ⟨[], .stop stored⟩
  | some parents =>
    obtain ⟨parent, _, hasParent⟩ := parentIndex_sound runtime tiered options name parents stored
    obtain ⟨upper, listed, isTier, rfl, chain, isChain⟩ := above parent hasParent
    refine ⟨upper :: chain, .step ?_ ?_ isChain⟩
    · exact (parentIndex_eq_some_iff runtime tiered options apart name _).2 hasParent
    · exact (mem_groupsByTier_iff runtime tiered options _ upper).2 ⟨listed, isTier⟩

/-- Every group starts a chain, which ends at the bound of the tiers. -/
lemma exists_chain_of_group (bound : Nat)
    (bounded : ∀ group ∈ discoveredGroups runtime graph options, group.tier ≤ bound)
    (remaining level : Nat) (enough : bound ≤ level + 1 + remaining) {group : TopologyGroup}
    (listed : group ∈ discoveredGroups runtime graph options)
    (tier : group.tier = (level + 1 : Nat)) :
    ∃ chain, Chain (buildTopology runtime graph options) group.name (level + 2 : Nat) chain := by
  have grouping := discoveredGroups_grouping runtime tiered options
  refine exists_chain_of_parents tiered apart fun parent hasParent => ?_
  obtain ⟨member, inGroup, isParent⟩ := exists_parentOf_member apart grouping listed hasParent
  rcases isParent.exists_group grouping (grouping.level_of_mem listed tier inGroup) with
    ⟨upper, upperListed, upperTier, named, _⟩
  have upperBound := bounded upper upperListed
  cases remaining with
  | zero => omega
  | succ remaining =>
    exact ⟨upper, upperListed, upperTier, named, exists_chain_of_group bound bounded remaining
      (level + 1) (by omega) upperListed upperTier⟩

/-- Every host starts a chain. -/
lemma exists_chain_of_base (isBase : layers.base host) :
    ∃ chain, Chain (buildTopology runtime graph options) host 1 chain := by
  have grouping := discoveredGroups_grouping runtime tiered options
  refine exists_chain_of_parents tiered apart fun parent hasParent => ?_
  rcases (parentOf_of_base apart grouping isBase hasParent).exists_group
    grouping ((LayeredGraph.level_zero_iff host).2 isBase) with
    ⟨upper, upperListed, upperTier, named, _⟩
  have isBound : ∀ group ∈ discoveredGroups runtime graph options, group.tier ≤
      ((discoveredGroups runtime graph options).map fun group => group.tier.toNat).sum := by
    intro group listed
    have single := single_le_sum (fun _ _ => Nat.zero_le _) group.tier.toNat
      (mem_map_of_mem (f := fun group => group.tier.toNat) listed)
    omega
  exact ⟨upper, upperListed, upperTier, named,
    exists_chain_of_group tiered apart _ isBound _ 0 (Nat.le_add_left _ _) upperListed upperTier⟩

/-- Some host leads to the group of every device above the hosts. -/
lemma exists_base_leadsTo (reached : layers.Level (level + 1) a) :
    ∃ host, layers.base host ∧ LeadsTo (buildTopology runtime graph options).parentIndex host
        (groupNameOf (discoveredGroups runtime graph options) a) := by
  have grouping := discoveredGroups_grouping runtime tiered options
  have step : ∀ {name parent : String}, HasParent layers (discoveredGroups runtime graph options)
      (groupNameOf (discoveredGroups runtime graph options)) name
      parent → ParentStep (buildTopology runtime graph options).parentIndex name parent := by
    intro name parent hasParent
    unfold ParentStep
    rw [getD_eq, (parentIndex_eq_some_iff runtime tiered options
      apart name parent).2 hasParent, Option.getD_some]
  induction level generalizing a with
  | zero =>
    obtain ⟨host, linked, atBase⟩ := reached.lower
    refine ⟨host, (LayeredGraph.level_zero_iff host).1 atBase, TransGen.single (step (Or.inl ?_))⟩
    exact ⟨0, a, atBase, layers.link_symm linked, reached, rfl⟩
  | succ level induction =>
    obtain ⟨b, linked, bLevel⟩ := reached.lower
    obtain ⟨host, isBase, leads⟩ := induction bLevel
    obtain ⟨group, listed, tier, inGroup⟩ := grouping.cover level b bLevel
    refine ⟨host, isBase, leads.tail (step (Or.inr ?_))⟩
    have named := grouping.member group listed b inGroup
    refine ⟨group, listed, named.symm, ?_⟩
    exact (apart.groupParent_iff grouping listed _).2
      ⟨b, inGroup, level + 1, a, bLevel, layers.link_symm linked, reached, rfl⟩

end

end

/-! ## The parent of a resource -/

section

variable (runtime : Runtime) (hosts : List Host) (switches : List Switch)

/--
The devices a name of the parent index stands for, and their tier: a device
itself, or the members of a group.
-/
def StandsFor (topology : Topology) (name : String) (tier : Int) (devices : List String) : Prop :=
  (Known hosts switches name ∧ inferredTier runtime hosts switches name = tier ∧ devices = [name]) ∨
    ∃ group ∈ topology.groupsByTier.getD tier [], group.name = name ∧ devices = group.members

/-- A neighbour of one of the devices, one tier above them. -/
def NextTierNeighbor (tier : Int) (devices : List String) (neighbor : String) : Prop :=
  ∃ a ∈ devices, Linked hosts switches a neighbor ∧
    inferredTier runtime hosts switches neighbor = tier + 1

/--
The parent is the one group of the next tier which holds all neighbours of the
devices there.
-/
def IsParentGroup (topology : Topology) (tier : Int)
    (devices : List String) (parent : String) : Prop :=
  (∃ b, NextTierNeighbor runtime hosts switches tier devices b) ∧
    ∃ group ∈ topology.groupsByTier.getD (tier + 1) [], group.name = parent ∧
      (∀ b, NextTierNeighbor runtime hosts switches tier devices b → b ∈ group.members) ∧
      ∀ other ∈ topology.groupsByTier.getD (tier + 1) [],
        (other.name = parent ∨ ∃ b ∈ other.members,
          NextTierNeighbor runtime hosts switches tier devices b) → other = group

variable {runtime hosts switches}

section

variable {topology : Topology}
  (found : topology = buildTopology runtime (tieredGraph runtime hosts switches) options)
  (law : NamesLaw hosts switches topology)

include found law

section

variable (isGroups : groups = discoveredGroups runtime (tieredGraph runtime hosts switches) options)

include isGroups

lemma level_of_hasParent (known : Known hosts switches name)
    (hasParent : HasParent (fabric hosts switches) groups (groupNameOf groups) name parent) :
    ∃ level, (fabric hosts switches).Level level name ∧
      ∃ neighbor, (fabric hosts switches).link name neighbor ∧
        (fabric hosts switches).Level (level + 1) neighbor := by
  subst found isGroups
  have tiered := tieredGraph_tiered runtime hosts switches
  have grouping := discoveredGroups_grouping runtime tiered options
  rcases hasParent with device | ⟨group, listed, rfl, isParent⟩
  · obtain ⟨level, neighbor, reached, linked, above, _⟩ := device
    exact ⟨level, reached, neighbor, linked, above⟩
  · obtain ⟨member, inGroup, ⟨level, neighbor, reached, linked, above, _⟩, _⟩ := isParent
    have inTier := (mem_groupsByTier_iff runtime tiered options group.tier group).2 ⟨listed, rfl⟩
    have single : ¬ 2 ≤ group.members.length := by
      intro several
      rcases law.2 group.tier (mem_keys_of_mem_getD inTier) group inTier
        several with ⟨notHost, notSwitch⟩
      exact known.elim notHost notSwitch
    rw [grouping.eq_name_of_single listed single inGroup] at reached linked
    exact ⟨level, reached, neighbor, linked, above⟩

lemma StandsFor.neighbors (stands : StandsFor runtime hosts switches topology name tier devices)
    (hasParent : HasParent (fabric hosts switches) groups (groupNameOf groups)
      name parent) :
    ∃ level : Nat, tier = level ∧ (∃ b, NextTierNeighbor runtime hosts switches tier devices b) ∧
      ∀ b, NextTierNeighbor runtime hosts switches tier devices b →
        (fabric hosts switches).Level (level + 1) b ∧ HasParent (fabric hosts switches)
            groups
            (groupNameOf groups) name (groupNameOf groups b) := by
  subst found isGroups
  have tiered := tieredGraph_tiered runtime hosts switches
  have grouping := discoveredGroups_grouping runtime tiered options
  have apart := namesApart_of_namesLaw law
  have above : ∀ (level : Nat) {a b : String}, Linked hosts switches a b →
      (inferredTier runtime hosts switches b = (level : Int) + 1 ↔
        (fabric hosts switches).Level (level + 1) b) := by
    intro level a b linked
    rw [← inferredTier_eq_iff runtime hosts switches (Linked.known linked.symm)]
    exact Iff.rfl
  rcases stands with ⟨known, isTier, rfl⟩ | ⟨group, inTier, rfl, rfl⟩
  · rcases level_of_hasParent rfl law rfl known hasParent with
      ⟨level, reached, neighbor, linked, neighborLevel⟩
    have levelTier := (inferredTier_eq_iff runtime hosts switches known level).2 reached
    have tierEq : tier = level := isTier.symm.trans levelTier
    subst tierEq
    refine ⟨level, rfl, ⟨neighbor, name, mem_singleton_self name,
      linked, (above level linked).2 neighborLevel⟩, ?_⟩
    rintro b ⟨a, inDevices, linkedB, bTier⟩
    rw [mem_singleton] at inDevices
    subst inDevices
    have bLevel := (above level linkedB).1 bTier
    exact ⟨bLevel, .inl ⟨level, b, reached, linkedB, bLevel, rfl⟩⟩
  · rcases (mem_groupsByTier_iff runtime tiered options tier group).1
      inTier with ⟨listed, groupTier⟩
    obtain ⟨level, isLevel⟩ := grouping.level group listed
    have tierEq : tier = (level + 1 : Nat) := groupTier.symm.trans isLevel
    subst tierEq
    rcases exists_parentOf_member apart grouping listed hasParent with
      ⟨member, inGroup, height, neighbor, reached, linked, upper, _⟩
    have same := reached.unique (grouping.level_of_mem listed isLevel inGroup)
    subst same
    refine ⟨level + 1, rfl, ⟨neighbor, member, inGroup, linked,
      (above (level + 1) linked).2 upper⟩, ?_⟩
    rintro b ⟨a, aMember, linkedB, bTier⟩
    have bLevel := (above (level + 1) linkedB).1 bTier
    refine ⟨bLevel, .inr ⟨group, listed, rfl, ?_⟩⟩
    exact (apart.groupParent_iff grouping listed _).2 ⟨a, aMember, level + 1, b,
        grouping.level_of_mem listed isLevel aMember, linkedB, bLevel,
        rfl⟩

end

lemma isParentGroup_of_parentIndex (entry : topology.parentIndex[name]? = some [parent])
    (stands : StandsFor runtime hosts switches topology name tier devices) :
    IsParentGroup runtime hosts switches topology tier devices parent := by
  subst found
  have tiered := tieredGraph_tiered runtime hosts switches
  have grouping := discoveredGroups_grouping runtime tiered options
  have apart := namesApart_of_namesLaw law
  have hasParent := (parentIndex_eq_some_iff runtime tiered options apart name parent).1 entry
  obtain ⟨level, rfl, ⟨first, isFirst⟩, neighbors⟩ := stands.neighbors rfl law rfl hasParent
  rcases grouping.cover level first (neighbors first isFirst).1 with
    ⟨group, listed, groupTier, firstMember⟩
  have inTier := mem_groupsByTier_iff runtime tiered options ((level : Int) + 1)
  have named : ∀ b, NextTierNeighbor runtime hosts switches level
      devices b → groupNameOf (discoveredGroups runtime
        (tieredGraph runtime hosts switches) options) b = parent := by
    intro b isNeighbor
    exact apart.hasParent_unique grouping (neighbors b isNeighbor).2 hasParent
  have groupName : group.name = parent := by
    rw [← named first isFirst]
    exact (grouping.member group listed first firstMember).symm
  have byName : ∀ other ∈ discoveredGroups runtime (tieredGraph runtime hosts switches) options,
      other.name = parent → other = group := by
    intro other otherListed otherName
    have same := (apart.distinct other otherListed group listed (otherName.trans groupName.symm)).2
    exact grouping.eq_of_common_member otherListed listed (same.2 first firstMember) firstMember
  refine ⟨⟨first, isFirst⟩, group, (inTier group).2
    ⟨listed, by rw [groupTier]; push_cast; rfl⟩, groupName, ?_, ?_⟩
  · intro b isNeighbor
    obtain ⟨other, otherListed, _, bMember⟩ := grouping.cover level b (neighbors b isNeighbor).1
    have otherName : other.name = parent := by
      rw [← named b isNeighbor]
      exact (grouping.member other otherListed b bMember).symm
    rwa [← byName other otherListed otherName]
  · rintro other isOther (otherName | ⟨b, bMember, isNeighbor⟩)
    · exact byName other ((inTier other).1 isOther).1 otherName
    · refine byName other ((inTier other).1 isOther).1 ?_
      rw [← named b isNeighbor]
      exact (grouping.member other ((inTier other).1 isOther).1 b bMember).symm

end

end

/-! ## The normalization cannot fail -/

section

variable {runtime : Runtime} {hosts : List Host} {switches : List Switch}

lemma tiersListed_buildTopology :
    TiersListed (buildTopology runtime (tieredGraph runtime hosts switches) options) := by
  intro tier group listed
  exact ((mem_groupsByTier_iff runtime
    (tieredGraph_tiered runtime hosts switches) options tier group).1 listed).2

section

variable {topology : Topology}
  (found : topology = buildTopology runtime (tieredGraph runtime hosts switches) options)
  (law : NamesLaw hosts switches topology)

include found law

lemma walkUp_succeeds (disjoint : ∀ name ∈ hostNames hosts, name ∉ switchNames switches)
    (isHost : host ∈ hosts) (nodesByGroup : GoMap String StringSet) :
    ∃ chain walk, Chain topology host.name 1 chain ∧
      walkUp topology.parentIndex (indexGroups runtime topology).groupsByName host.name
        (Walk.start host.name nodesByGroup) = .ok walk ∧ walk.expectedTier = chain.length + 1 ∧
      ∀ name, name ∈ walk.seen ↔ name ∈ chain.map TopologyGroup.name := by
  have tiered := tieredGraph_tiered runtime hosts switches
  have named : host.name ∈ hostNames hosts := mem_map_of_mem isHost
  have isBase : (fabric hosts switches).base host.name := ⟨named, disjoint host.name named⟩
  obtain ⟨chain, isChain⟩ :=
    exists_chain_of_base tiered (namesApart_of_namesLaw (found ▸ law)) isBase
  rw [← found] at isChain
  have unseen : ∀ name, ¬ name ∈ (Walk.start host.name nodesByGroup).seen := by
    intro name seen
    simp [Walk.start] at seen
  have ready : (Walk.start host.name nodesByGroup).Ready topology :=
    ⟨le_refl 1, ⟨chain, isChain⟩, fun name seen => absurd seen (unseen name)⟩
  have succeeds : ∃ walk, walkUp topology.parentIndex (indexGroups runtime topology).groupsByName
        host.name (Walk.start host.name nodesByGroup) = .ok walk :=
    runLoopM_succeeds _ (fun walk result kept stepped =>
        kept.step law.1 (found ▸ tiersListed_buildTopology) stepped) _ _ ready
  obtain ⟨walk, finished⟩ := succeeds
  rcases walkUp_of_chain (fun name seen => absurd seen (unseen name))
    isChain finished with ⟨tier, seen⟩
  refine ⟨chain, walk, isChain, finished, ?_, ?_⟩
  · rw [tier]
    exact add_comm 1 _
  · intro name
    rw [seen name]
    simp [unseen name]

lemma Normalizes.exists_node
    (normalizes : Normalizes topology hosts group record) : ∃ node, node ∈ record.nodes := by
  subst found
  have tiered := tieredGraph_tiered runtime hosts switches
  have grouping := discoveredGroups_grouping runtime tiered options
  rcases (mem_groupsByTier_iff runtime tiered options record.tier
    group).1 normalizes.listed with ⟨isGroup, _⟩
  obtain ⟨level, tier⟩ := grouping.level group isGroup
  obtain ⟨start, reached, isClass⟩ := grouping.isClass group isGroup level tier
  have inGroup := (isClass start).2 ReflTransGen.refl
  obtain ⟨host, isBase, leads⟩ := exists_base_leadsTo tiered (namesApart_of_namesLaw law) reached
  refine ⟨host, (normalizes.nodes host).2 ⟨isBase.1, ?_⟩⟩
  rw [normalizes.name]
  rwa [grouping.member group isGroup start inGroup] at leads

lemma normalizeDiscoveredGroups_succeeds
    (disjoint : ∀ name ∈ hostNames hosts, name ∉ switchNames switches) :
    ∃ records, normalizeDiscoveredGroups runtime topology hosts = .ok records ∧
      ∀ record ∈ records, ∃ node, node ∈ record.nodes := by
  have walks : ∃ nodesByGroup, hosts.foldlM (walkHost topology.parentIndex
        (indexGroups runtime topology).groupsByName)
      ∅ = .ok nodesByGroup ∧ True := by
    refine foldlM_succeeds (fun _ _ => True) trivial ?_
    intro done host rest nodesByGroup split _
    have isHost : host ∈ hosts := by simp [split]
    obtain ⟨_, walk, _, finished, _⟩ := walkUp_succeeds found law disjoint isHost nodesByGroup
    refine ⟨walk.nodesByGroup, ?_, trivial⟩
    simp only [walkHost, finished]
  obtain ⟨nodesByGroup, walked, _⟩ := walks
  have succeeded : ∃ records, normalizeDiscoveredGroups runtime topology hosts = .ok records := by
    unfold normalizeDiscoveredGroups
    simp only [walked]
    exact ⟨_, rfl⟩
  obtain ⟨records, isOk⟩ := succeeded
  refine ⟨records, isOk, ?_⟩
  intro record listed
  obtain ⟨group, normalizes⟩ := (normalizeDiscoveredGroups_spec isOk).1 record listed
  exact normalizes.exists_node found law

end

end

/-! ## The tree -/

/--
Every entry of the parent index has one element.  Under the naming law it is
the group of the next tier which holds all neighbours there, the
normalization succeeds, every host walks through the tiers `1, 2, …` of a
chain of groups and stops, and every group has a Node.
-/
theorem parentIndex_is_tree (runtime : Runtime) (hosts : List Host)
    (switches : List Switch) (options : List DiscoverOption)
    (disjoint : ∀ name ∈ hostNames hosts, name ∉ switchNames switches) :
    let topology := discoverTopology runtime hosts switches options
    (∀ (name : String) (parents : List String), topology.parentIndex[name]? = some parents →
        parents.length = 1) ∧
    (NamesLaw hosts switches topology → (∀ name parent : String,
        topology.parentIndex[name]? = some [parent] →
          (∃ tier devices, StandsFor runtime hosts switches topology name tier devices) ∧
          ∀ tier devices, StandsFor runtime hosts switches topology name tier devices →
              IsParentGroup runtime hosts switches topology tier devices parent) ∧
      (∀ host ∈ hosts, ∀ nodesByGroup, ∃ chain walk, Chain topology host.name 1 chain ∧
        walkUp topology.parentIndex (indexGroups runtime topology).groupsByName host.name
          (Walk.start host.name nodesByGroup) = .ok walk ∧
        walk.expectedTier = chain.length + 1 ∧
        ∀ name, name ∈ walk.seen ↔ name ∈ chain.map TopologyGroup.name) ∧
      ∃ records, normalizeDiscoveredGroups runtime topology hosts = .ok records ∧
        ∀ record ∈ records, ∃ node, node ∈ record.nodes) := by
  intro topology
  have tiered := tieredGraph_tiered runtime hosts switches
  have sound := parentIndex_sound runtime tiered
    (options.foldl (fun current option => option current) defaultDiscoverOptions)
  constructor
  · intro name parents found
    rcases sound name parents found with ⟨parent, rfl, _⟩
    rfl
  · intro law
    refine ⟨?_, ?_, normalizeDiscoveredGroups_succeeds rfl law disjoint⟩
    · intro name parent found
      refine ⟨?_, fun tier devices stands =>
        isParentGroup_of_parentIndex rfl law found stands⟩
      rcases sound name [parent] found with ⟨_, _, device | ⟨group, listed, named, _⟩⟩
      · rcases device with ⟨level, neighbor, reached, linked, _⟩
        exact ⟨_, [name], Or.inl ⟨Linked.known linked, rfl, rfl⟩⟩
      · exact ⟨group.tier, group.members, Or.inr ⟨group,
          (mem_groupsByTier_iff runtime tiered _ group.tier group).mpr ⟨listed, rfl⟩, named, rfl⟩⟩
    · intro host isHost nodesByGroup
      exact walkUp_succeeds rfl law disjoint isHost nodesByGroup

/-- Two leaves above one host and a spine above both. -/
theorem parentIndex_is_tree_two_leaves :
    let switches : List Switch := [⟨"a", [⟨"", "h1"⟩, ⟨"", "s"⟩]⟩, ⟨"b", [⟨"", "h1"⟩]⟩, ⟨"s", []⟩]
    let topology := discoverTopology .canonical [⟨"h1"⟩] switches []
    NamesLaw [⟨"h1"⟩] switches topology ∧
      ∃ records, normalizeDiscoveredGroups .canonical topology [⟨"h1"⟩] = .ok records := by
  intro switches topology
  have law : NamesLaw [⟨"h1"⟩] switches topology := by decide +kernel
  have tree := (parentIndex_is_tree .canonical [⟨"h1"⟩] switches [] (by decide)).2 law
  obtain ⟨records, succeeded, _⟩ := tree.2.2
  exact ⟨law, records, succeeded⟩

/--
A host named like the group of two leaves: the entry of the host is replaced
by that of the group, so the host walks from tier 0 to tier 2.
-/
theorem host_named_like_group_breaks_walk :
    let hosts : List Host := [⟨"a-b-group"⟩, ⟨"h1"⟩]
    let switches : List Switch := [⟨"a", [⟨"", "h1"⟩, ⟨"", "s"⟩]⟩, ⟨"b", [⟨"", "h1"⟩]⟩,
      ⟨"c", [⟨"", "a-b-group"⟩]⟩, ⟨"s", []⟩]
    let topology := discoverTopology .canonical hosts switches [withConcatGroupName]
    (∀ name ∈ hostNames hosts, name ∉ switchNames switches) ∧ DistinctGroupNames topology ∧
      normalizeDiscoveredGroups .canonical topology hosts =
        .error (.discontinuous "a-b-group" 1 2) := by
  refine ⟨?_, ?_, ?_⟩
  · decide +kernel
  · decide +kernel
  · decide +kernel

end Unifabric.SwitchTopology
