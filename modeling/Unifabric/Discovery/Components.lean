import Unifabric.Discovery.ResultSpec

/-!
# Groups are domains of the fabric

When equally named groups of a tier are equal, grouping by name is grouping by
group, and the groups of the result are the domains of the layered graph: the
classes of switches joined through domains of the tier below.
-/

namespace Unifabric.Discovery

open Lib Relation

variable {a : String} {group : TopologyGroup}

/-! ## Equal names at the level below -/

section

variable {layers : LayeredGraph String} {options : DiscoverOptions}
  {groups : List TopologyGroup} {nameOf : String → String}

/-- Groups of the tier with one name have the same members. -/
def NamesSeparateTier (groups : List TopologyGroup) (tier : Int) : Prop :=
  ∀ left ∈ groups, ∀ right ∈ groups, left.tier = tier → right.tier = tier → left.name = right.name →
      ∀ a, a ∈ left.members ↔ a ∈ right.members

/-- The members of a group are one domain. -/
def IsDomain (layers : LayeredGraph String) (level : Nat) (members : List String) : Prop :=
  ∃ start, layers.Level (level + 1) start ∧ ∀ a, a ∈ members ↔ layers.Joined (level + 1) start a

lemma IsDomain.joined_iff {level : Nat} (domain : IsDomain layers level members)
    (member : a ∈ members) (b : String) : b ∈ members ↔ layers.Joined (level + 1) a b := by
  obtain ⟨start, _, isClass⟩ := domain
  have reached := (isClass a).1 member
  rw [isClass b]
  constructor
  · intro joined
    exact reached.symm.trans joined
  · intro joined
    exact reached.trans joined

lemma IsDomain.level {level : Nat} (domain : IsDomain layers level members) (member : a ∈ members) :
    layers.Level (level + 1) a := by
  obtain ⟨start, isStart, isClass⟩ := domain
  exact ((isClass a).1 member).level isStart

variable (grouping : Grouping layers options groups nameOf)

include grouping

/-- Chains through equal names are chains through equal domains. -/
lemma Grouping.isDomain_of_sameName {level : Nat}
    (same : ∀ x y, layers.Level level x → layers.Level level y → (SameName
      layers nameOf x y ↔ layers.Joined level x y)) (listed : group ∈ groups)
    (tier : group.tier = (level + 1 : Nat)) :
    IsDomain layers level group.members := by
  obtain ⟨start, isStart, isClass⟩ := grouping.isClass group listed level tier
  have sameLink : layers.ChainLink level (SameName layers nameOf) =
      layers.ChainLink level (layers.Joined level) := by
    funext a b
    refine propext (and_congr_right fun _ => and_congr_right fun _ =>
      exists_congr fun x => exists_congr fun y => ?_)
    refine and_congr_right fun _ => and_congr_right fun _ =>
      and_congr_right fun xLevel => and_congr_right fun yLevel => ?_
    exact same x y xLevel yLevel
  refine ⟨start, isStart, fun a => ?_⟩
  rw [isClass a, sameLink]
  rfl

/-- Equal names mean equal domains, as far as names separate the tiers. -/
lemma Grouping.sameName_iff_joined (level : Nat)
    (separate : ∀ below : Nat, below < level → NamesSeparateTier groups (below + 1 : Nat))
    (x y : String) (xLevel : layers.Level level x) (yLevel : layers.Level level y) :
    SameName layers nameOf x y ↔ layers.Joined level x y := by
  induction level generalizing x y with
  | zero =>
    have xBase := (LayeredGraph.level_zero_iff x).1 xLevel
    have yBase := (LayeredGraph.level_zero_iff y).1 yLevel
    unfold SameName LayeredGraph.Joined
    rw [grouping.base x xBase, grouping.base y yBase]
    constructor
    · exact fun both => both.2
    · rintro rfl
      exact ⟨ReflTransGen.refl, rfl⟩
  | succ level ih =>
    have domain := fun {group : TopologyGroup} (listed : group ∈ groups)
        (tier : group.tier = (level + 1 : Nat)) =>
      grouping.isDomain_of_sameName (ih fun below less => separate below (by omega))
        listed tier
    obtain ⟨left, leftListed, leftTier, xMember⟩ := grouping.cover level x xLevel
    obtain ⟨right, rightListed, rightTier, yMember⟩ := grouping.cover level y yLevel
    constructor
    · rintro ⟨_, equal⟩
      rw [grouping.member left leftListed x xMember,
        grouping.member right rightListed y yMember] at equal
      have sameMembers := separate level (by omega) left leftListed
        right rightListed leftTier rightTier equal
      exact ((domain leftListed leftTier).joined_iff xMember y).1 ((sameMembers y).2 yMember)
    · intro joined
      have inLeft := ((domain leftListed leftTier).joined_iff xMember y).2 joined
      exact ⟨joined.connected, (grouping.member left leftListed x xMember).trans
          (grouping.member left leftListed y inLeft).symm⟩

/-- The groups of a tier are domains when names separate the tiers below. -/
lemma Grouping.isDomain {level : Nat}
    (separate : ∀ below : Nat, below < level → NamesSeparateTier groups (below + 1 : Nat))
    (listed : group ∈ groups) (tier : group.tier = (level + 1 : Nat)) :
    IsDomain layers level group.members :=
  grouping.isDomain_of_sameName (grouping.sameName_iff_joined level separate) listed tier

end

/-! ## The groups of a result -/

/-- Two groups have the same members. -/
def SameMembers (left right : TopologyGroup) : Prop :=
  (∀ a ∈ left.members, a ∈ right.members) ∧ ∀ a ∈ right.members, a ∈ left.members

instance (left right : TopologyGroup) : Decidable (SameMembers left right) :=
  inferInstanceAs (Decidable (_ ∧ _))

/-- Groups of different tiers or members have different names. -/
def DistinctGroupNames (topology : Topology) : Prop :=
  ∀ tier ∈ topology.groupsByTier.keys, ∀ tier' ∈ topology.groupsByTier.keys,
      ∀ left ∈ topology.groupsByTier.getD tier [], ∀ right ∈ topology.groupsByTier.getD tier' [],
          left.name = right.name → tier = tier' ∧ SameMembers left right

instance (topology : Topology) : Decidable (DistinctGroupNames topology) :=
  inferInstanceAs (Decidable (∀ tier ∈ _, _))

lemma mem_keys_of_mem_getD {V : Type} {table : GoMap Int (List V)} {value : V}
    (member : value ∈ table.getD key []) : key ∈ table.keys := by
  rw [GoMap.getD_eq] at member
  rw [GoMap.mem_keys_iff]
  cases found : table[key]? with
  | none => simp [found] at member
  | some values => exact ⟨values, rfl⟩

/-- Distinct names of the result separate the discovered groups. -/
lemma namesSeparateTier_of_distinct {layers : LayeredGraph String} (tiered : Tiered graph layers)
    {options : DiscoverOptions}
    (distinct : DistinctGroupNames (buildTopology runtime graph options)) (tier : Int) :
    NamesSeparateTier (discoveredGroups runtime graph options) tier := by
  intro left leftListed right rightListed leftTier rightTier equal a
  have inLeft := (mem_groupsByTier_iff runtime tiered options tier left).2 ⟨leftListed, leftTier⟩
  have inRight := (mem_groupsByTier_iff runtime tiered options tier
    right).2 ⟨rightListed, rightTier⟩
  obtain ⟨_, forward, backward⟩ := distinct tier
    (mem_keys_of_mem_getD inLeft) tier (mem_keys_of_mem_getD inRight)
    left inLeft right inRight equal
  exact ⟨forward a, backward a⟩

/-! ## Connected components -/

section

variable (runtime : Runtime) (hosts : List Host) (switches : List Switch)

/-- The tier `InferTiers` gives a device. -/
def inferredTier (a : String) : Int :=
  tierOf (inferTiers runtime (buildTopologyGraph runtime hosts switches)).devices a

/-- A switch of the given inferred tier. -/
def SwitchAtTier (tier : Int) (a : String) : Prop :=
  a ∈ switchNames switches ∧ inferredTier runtime hosts switches a = tier

/--
Two switches of a tier are linked to devices of one group of the tier below,
on the lowest tier to one host.
-/
def TierLink (topology : Topology) (tier : Int) (a b : String) : Prop :=
  SwitchAtTier runtime hosts switches tier a ∧ SwitchAtTier runtime hosts switches tier b ∧
    ∃ x y, Linked hosts switches a x ∧ Linked hosts switches b y ∧
      inferredTier runtime hosts switches x = tier - 1 ∧
      inferredTier runtime hosts switches y = tier - 1 ∧
      if tier = 1 then x = y
      else ∃ group ∈ topology.groupsByTier.getD (tier - 1) [], x ∈ group.members ∧ y ∈ group.members

lemma inferredTier_eq_iff (known : Known hosts switches a) (level : Nat) :
    inferredTier runtime hosts switches a = level ↔ (fabric hosts switches).Level level a :=
  tierOf_inferTiers_iff runtime hosts switches known level

lemma switchAtTier_iff (level : Nat) (a : String) :
    SwitchAtTier runtime hosts switches (level + 1 : Nat) a ↔
      (fabric hosts switches).Level (level + 1) a := by
  constructor
  · rintro ⟨isSwitch, tier⟩
    exact (inferredTier_eq_iff runtime hosts switches (.inr isSwitch) (level + 1)).1 tier
  · intro reached
    have isSwitch : a ∈ switchNames switches := reached.inner
    exact ⟨isSwitch, (inferredTier_eq_iff runtime hosts switches
      (.inr isSwitch) (level + 1)).2 reached⟩

variable {runtime hosts switches}

lemma isDomain_of_mem_groupsByTier
    (distinct : DistinctGroupNames (discoverTopology runtime hosts switches options)) {level : Nat}
    (listed : group ∈ (discoverTopology runtime hosts switches
      options).groupsByTier.getD (level + 1 : Nat) []) :
    IsDomain (fabric hosts switches) level group.members := by
  have tiered := tieredGraph_tiered runtime hosts switches
  obtain ⟨isGroup, tier⟩ := (mem_groupsByTier_iff runtime tiered _ _ group).1 listed
  exact (discoveredGroups_grouping runtime tiered _).isDomain
    (fun below _ => namesSeparateTier_of_distinct tiered distinct _)
    isGroup tier

lemma exists_group_of_level (options : List DiscoverOption) {level : Nat}
    (reached : (fabric hosts switches).Level (level + 1) a) :
    ∃ group ∈ (discoverTopology runtime hosts switches
        options).groupsByTier.getD (level + 1 : Nat) [], a ∈ group.members := by
  have tiered := tieredGraph_tiered runtime hosts switches
  obtain ⟨group, isGroup, tier, member⟩ :=
    (discoveredGroups_grouping runtime tiered _).cover level a reached
  exact ⟨group, (mem_groupsByTier_iff runtime tiered _ _ group).2 ⟨isGroup, tier⟩, member⟩

section

variable (distinct : DistinctGroupNames (discoverTopology runtime hosts switches options))

include distinct

lemma exists_group_iff_joined {level : Nat}
    (reached : (fabric hosts switches).Level (level + 1) a) (b : String) :
    (∃ group ∈ (discoverTopology runtime hosts switches
        options).groupsByTier.getD (level + 1 : Nat) [],
      a ∈ group.members ∧ b ∈ group.members) ↔
      (fabric hosts switches).Joined (level + 1) a b := by
  constructor
  · rintro ⟨group, listed, aMember, bMember⟩
    exact ((isDomain_of_mem_groupsByTier distinct listed).joined_iff aMember b).1 bMember
  · intro joined
    obtain ⟨group, listed, member⟩ := exists_group_of_level options reached
    exact ⟨group, listed, member, ((isDomain_of_mem_groupsByTier distinct listed).joined_iff
        member b).2 joined⟩

lemma tierLink_iff_chainLink (level : Nat) (a b : String) :
    TierLink runtime hosts switches (discoverTopology runtime hosts switches options)
        (level + 1 : Nat) a b ↔
      (fabric hosts switches).ChainLink level ((fabric hosts switches).Joined level) a b := by
  have below : (((level + 1 : Nat) : Int) - 1) = (level : Nat) := by
    omega
  unfold TierLink LayeredGraph.ChainLink
  rw [switchAtTier_iff, switchAtTier_iff, below]
  refine and_congr_right fun _ => and_congr_right fun _ =>
    exists_congr fun x => exists_congr fun y => ?_
  refine and_congr_right fun ax => and_congr_right fun bY => ?_
  rw [inferredTier_eq_iff runtime hosts switches ax.symm.known,
    inferredTier_eq_iff runtime hosts switches bY.symm.known]
  refine and_congr_right fun xLevel => and_congr_right fun _ => ?_
  cases level with
  | zero => simp [LayeredGraph.Joined]
  | succ level =>
    exact exists_group_iff_joined distinct xLevel y

end

/--
The groups of a tier are exactly its connected components: they partition the
switches of the tier, two switches are in one group exactly when a chain
through groups of the tier below joins them, and each group records the
neighbours of its members in the tiers below and above.
-/
theorem groupsByTier_are_components (options : List DiscoverOption) (distinct : DistinctGroupNames
      (discoverTopology runtime hosts switches options)) (tier : Int) (positive : 1 ≤ tier) :
    ((discoverTopology runtime hosts switches options).groupsByTier.getD tier []).Pairwise
        (fun left right => ∀ a, a ∈ left.members → a ∉ right.members) ∧
      (∀ a, (∃ group ∈ (discoverTopology runtime hosts switches
            options).groupsByTier.getD tier [], a ∈ group.members) ↔
          SwitchAtTier runtime hosts switches tier a) ∧
      (∀ a b, SwitchAtTier runtime hosts switches tier a →
        SwitchAtTier runtime hosts switches tier b →
          ((∃ group ∈ (discoverTopology runtime hosts switches options).groupsByTier.getD tier [],
            a ∈ group.members ∧ b ∈ group.members) ↔ ReflTransGen (TierLink runtime hosts switches
              (discoverTopology runtime hosts switches options) tier) a b)) ∧
      ∀ group ∈ (discoverTopology runtime hosts switches options).groupsByTier.getD tier [],
        (∀ x, x ∈ group.lowerTierNodes ↔ ∃ member ∈ group.members, Linked hosts switches member x ∧
            inferredTier runtime hosts switches x = tier - 1) ∧
        ∀ x, x ∈ group.upperTierNodes ↔ ∃ member ∈ group.members, Linked hosts switches member x ∧
            inferredTier runtime hosts switches x = tier + 1 := by
  obtain ⟨level, rfl⟩ : ∃ level : Nat, tier = (level + 1 : Nat) :=
    ⟨(tier - 1).toNat, by push_cast; omega⟩
  have tiered := tieredGraph_tiered runtime hosts switches
  have grouping := discoveredGroups_grouping runtime tiered
    (options.foldl (fun current option => option current) defaultDiscoverOptions)
  refine ⟨?_, ?_, ?_, ?_⟩
  · have listed := (buildTopology_groups runtime tiered
      (options.foldl (fun current option => option current)
        defaultDiscoverOptions) (level + 1 : Nat)).1
    refine (List.Perm.pairwise_iff ?_ listed).mpr (grouping.disjoint.filter _)
    intro left right apart a inRight inLeft
    exact apart a inLeft inRight
  · intro a
    rw [switchAtTier_iff]
    constructor
    · rintro ⟨group, listed, member⟩
      exact (isDomain_of_mem_groupsByTier distinct listed).level member
    · exact exists_group_of_level options
  · intro a b aTier _
    have sameLink : TierLink runtime hosts switches
        (discoverTopology runtime hosts switches options)
        (level + 1 : Nat) =
        (fabric hosts switches).ChainLink level ((fabric hosts switches).Joined level) := by
      funext x y
      exact propext (tierLink_iff_chainLink distinct level x y)
    rw [switchAtTier_iff] at aTier
    rw [sameLink, exists_group_iff_joined distinct aTier]
    rfl
  · intro group listed
    obtain ⟨isGroup, groupTier⟩ := (mem_groupsByTier_iff runtime tiered _ _ group).mp listed
    have below : (((level + 1 : Nat) : Int) - 1) = (level : Nat) := by
      push_cast
      omega
    have above : (((level + 1 : Nat) : Int) + 1) = (level + 2 : Nat) := by
      push_cast
      omega
    constructor
    · intro x
      rw [grouping.lower group isGroup level groupTier, below]
      refine exists_congr fun member => and_congr_right fun _ => and_congr_right fun linked => ?_
      rw [inferredTier_eq_iff runtime hosts switches (Linked.known linked.symm)]
    · intro x
      rw [grouping.upper group isGroup level groupTier, above]
      refine exists_congr fun member => and_congr_right fun _ => and_congr_right fun linked => ?_
      rw [inferredTier_eq_iff runtime hosts switches (Linked.known linked.symm)]

/-- Three leaves under one spine, with a group of two leaves. -/
theorem groupsByTier_are_components_three_leaves :
    let switches : List Switch := [⟨"a", [⟨"", "h1"⟩, ⟨"", "s"⟩]⟩, ⟨"b", [⟨"b", "h1"⟩]⟩,
      ⟨"c", [⟨"", "h2"⟩, ⟨"", "s"⟩]⟩, ⟨"s", []⟩]
    let topology := discoverTopology .canonical [⟨"h1"⟩, ⟨"h2"⟩] switches []
    DistinctGroupNames topology ∧
      ∀ x, (∃ group ∈ topology.groupsByTier.getD 1 [], x ∈ group.members) ↔
        SwitchAtTier .canonical [⟨"h1"⟩, ⟨"h2"⟩] switches 1 x := by
  intro switches topology
  have distinct : DistinctGroupNames topology := by decide +kernel
  exact ⟨distinct, (groupsByTier_are_components [] distinct 1 (by decide)).2.1⟩

end

end Unifabric.Discovery
