import Unifabric.Discovery.Components

/-!
# When distinct groups get distinct names

A group is named after its only member, or after its members joined with `-`.
The joined text does not determine the members, and it may be the name of a
device.  Distinct groups have distinct names exactly when neither happens
among the domains of the fabric.
-/

namespace Unifabric.Discovery

open Lib Relation List

/-! ## Generated names -/

lemma generateGroupName_single (member : String) (options : DiscoverOptions) :
    generateGroupName [member] options = member := by
  rfl

/-- The joined members of a group, before they are hashed or completed. -/
def joinedName (members : List String) : String := "-".intercalate members

lemma generateGroupName_several (sorted : members.Pairwise (· < ·)) (several : 2 ≤ members.length)
    (options : DiscoverOptions) :
    generateGroupName members options =
      match options.groupNameMode with
      | .hash => shortSHA (joinedName members) options.hashLength
      | .concat => joinedName members ++ "-group" := by
  have unchanged : sortValues members = members :=
    sortValues_eq_self (sorted.imp fun less => le_of_lt less)
  unfold generateGroupName
  rw [unchanged]
  match members, several with
  | first :: second :: rest, _ => rfl

/-- The digest tells the strings hashed for a result apart. -/
def NoCollision (topology : Topology) : Prop :=
  ∀ tier ∈ topology.groupsByTier.keys, ∀ tier' ∈ topology.groupsByTier.keys,
      ∀ left ∈ topology.groupsByTier.getD tier [], ∀ right ∈ topology.groupsByTier.getD tier' [],
          2 ≤ left.members.length → 2 ≤ right.members.length →
            Sha1.hexSum (joinedName left.members) = Sha1.hexSum (joinedName right.members) →
              joinedName left.members = joinedName right.members

/-- Names are joined members, or their full digests without collision. -/
def FaithfulNaming (options : DiscoverOptions) (topology : Topology) : Prop :=
  options.groupNameMode = .concat ∨ (options.groupNameMode = .hash ∧ options.hashLength = 40 ∧
      NoCollision topology)

lemma generateGroupName_congr {left right : List String} (leftSorted : left.Pairwise (· < ·))
    (rightSorted : right.Pairwise (· < ·)) (leftSeveral : 2 ≤ left.length)
    (rightSeveral : 2 ≤ right.length) (same : joinedName left = joinedName right)
    (options : DiscoverOptions) :
    generateGroupName left options = generateGroupName right options := by
  rw [generateGroupName_several leftSorted leftSeveral,
    generateGroupName_several rightSorted rightSeveral, same]

/-! ## The law and its condition -/

/-- Groups have their own names, and those of several members new ones. -/
def NamesLaw (hosts : List Host) (switches : List Switch) (topology : Topology) : Prop :=
  DistinctGroupNames topology ∧ ∀ tier ∈ topology.groupsByTier.keys,
      ∀ group ∈ topology.groupsByTier.getD tier [], 2 ≤ group.members.length →
          group.name ∉ hostNames hosts ∧ group.name ∉ switchNames switches

instance (hosts : List Host) (switches : List Switch)
    (topology : Topology) :
    Decidable (NamesLaw hosts switches topology) :=
  inferInstanceAs (Decidable (_ ∧ ∀ tier ∈ _, _))

/-- A domain with several members, listed in order. -/
structure SeveralDomain (layers : LayeredGraph String) (level : Nat)
    (members : List String) : Prop where
  sorted : members.Pairwise (· < ·)
  several : 2 ≤ members.length
  domain : IsDomain layers level members

/--
No two domains of several members have the same joined names, and no domain of
several members is given the name of a device.
-/
structure UnambiguousNames (hosts : List Host) (switches : List Switch)
    (options : DiscoverOptions) : Prop where
  joined : ∀ level level' members members', SeveralDomain (fabric hosts switches) level members →
      SeveralDomain (fabric hosts switches) level' members' →
        joinedName members = joinedName members' → level = level' ∧ members = members'
  fresh : ∀ level members, SeveralDomain (fabric hosts switches) level members →
      generateGroupName members options ∉ hostNames hosts ∧
        generateGroupName members options ∉ switchNames switches

/-! ## The condition is exact -/

section

variable {runtime : Runtime} {hosts : List Host} {switches : List Switch}
  {options : DiscoverOptions}

lemma eq_of_sorted_of_mem_iff {left right : List String} (leftSorted : left.Pairwise (· < ·))
    (rightSorted : right.Pairwise (· < ·)) (same : ∀ a, a ∈ left ↔ a ∈ right) : left = right := by
  have permuted : left.Perm right :=
    (perm_ext_iff_of_nodup (leftSorted.imp fun less => ne_of_lt less)
      (rightSorted.imp fun less => ne_of_lt less)).2 same
  exact List.Perm.eq_of_pairwise' (leftSorted.imp fun less => le_of_lt less)
    (rightSorted.imp fun less => le_of_lt less) permuted

lemma IsDomain.length_pos {level : Nat} (domain : IsDomain layers level members) :
    0 < members.length := by
  obtain ⟨start, _, isClass⟩ := domain
  exact length_pos_of_mem ((isClass start).2 (LayeredGraph.Joined.refl (level + 1) start))

lemma joinedName_eq_of_name_eq (faithful : FaithfulNaming options (buildTopology runtime
      (tieredGraph runtime hosts switches) options))
    (leftListed : left ∈ discoveredGroups runtime (tieredGraph runtime hosts switches) options)
    (rightListed : right ∈ discoveredGroups runtime (tieredGraph runtime hosts switches) options)
    (leftSeveral : 2 ≤ left.members.length) (rightSeveral : 2 ≤ right.members.length)
    (same : left.name = right.name) : joinedName left.members = joinedName right.members := by
  have tiered := tieredGraph_tiered runtime hosts switches
  have grouping := discoveredGroups_grouping runtime tiered options
  rw [grouping.name left leftListed, grouping.name right rightListed,
    generateGroupName_several (grouping.sorted left leftListed) leftSeveral,
    generateGroupName_several (grouping.sorted right rightListed) rightSeveral] at same
  rcases faithful with concat | ⟨hash, length, noCollision⟩
  · rw [concat] at same
    exact (String.append_left_inj _).1 same
  · rw [hash, length] at same
    have sameDigest := String.ofList_inj.1 same
    have inLeft := (mem_groupsByTier_iff runtime tiered options left.tier
      left).2 ⟨leftListed, rfl⟩
    have inRight := (mem_groupsByTier_iff runtime tiered options
      right.tier right).2 ⟨rightListed, rfl⟩
    exact noCollision left.tier (mem_keys_of_mem_getD inLeft) right.tier
      (mem_keys_of_mem_getD inRight) left inLeft right inRight leftSeveral
      rightSeveral sameDigest

lemma UnambiguousNames.separate (names : UnambiguousNames hosts switches options)
    (faithful : FaithfulNaming options (buildTopology runtime
      (tieredGraph runtime hosts switches) options)) {left right : TopologyGroup}
    (leftListed : left ∈ discoveredGroups runtime (tieredGraph runtime hosts switches) options)
    (rightListed : right ∈ discoveredGroups runtime (tieredGraph runtime hosts switches) options)
    (leftDomain : IsDomain (fabric hosts switches) level left.members)
    (rightDomain : IsDomain (fabric hosts switches) level' right.members)
    (same : left.name = right.name) : level = level' ∧ left.members = right.members := by
  have tiered := tieredGraph_tiered runtime hosts switches
  have grouping := discoveredGroups_grouping runtime tiered options
  have single : ∀ {group : TopologyGroup} {height : Nat}, group ∈ discoveredGroups runtime
          (tieredGraph runtime hosts switches) options →
        IsDomain (fabric hosts switches) height group.members → ¬ 2 ≤ group.members.length →
            group.members = [group.name] ∧
              (fabric hosts switches).Level (height + 1) group.name := by
    intro group height listed domain notSeveral
    have positive := domain.length_pos
    obtain ⟨member, only⟩ := length_eq_one_iff.1 (by omega : group.members.length = 1)
    have isName : group.name = member := by
      rw [grouping.name group listed, only]
      exact generateGroupName_single member options
    rw [isName]
    refine ⟨only, domain.level ?_⟩
    rw [only]
    exact mem_singleton.2 rfl
  have clash : ∀ {one several : TopologyGroup} {height height' : Nat},
      one ∈ discoveredGroups runtime (tieredGraph runtime hosts switches) options →
        several ∈ discoveredGroups runtime (tieredGraph runtime hosts switches) options →
          IsDomain (fabric hosts switches) height one.members →
            IsDomain (fabric hosts switches) height' several.members →
              ¬ 2 ≤ one.members.length → 2 ≤ several.members.length → one.name ≠ several.name := by
    intro one several height height' oneListed severalListed oneDomain
      severalDomain notSeveral isSeveral equal
    have isSwitch : one.name ∈ switchNames switches :=
      (single oneListed oneDomain notSeveral).2.inner
    rw [equal, grouping.name several severalListed] at isSwitch
    exact (names.fresh height' several.members ⟨grouping.sorted several severalListed, isSeveral,
        severalDomain⟩).2 isSwitch
  by_cases leftSeveral : 2 ≤ left.members.length
  · by_cases rightSeveral : 2 ≤ right.members.length
    · exact names.joined level level' left.members right.members
        ⟨grouping.sorted left leftListed, leftSeveral, leftDomain⟩
        ⟨grouping.sorted right rightListed, rightSeveral, rightDomain⟩
        (joinedName_eq_of_name_eq faithful leftListed rightListed leftSeveral rightSeveral same)
    · exact absurd same.symm (clash rightListed leftListed rightDomain
        leftDomain rightSeveral leftSeveral)
  · by_cases rightSeveral : 2 ≤ right.members.length
    · exact absurd same (clash leftListed rightListed leftDomain
        rightDomain leftSeveral rightSeveral)
    · obtain ⟨leftOnly, leftLevel⟩ := single leftListed leftDomain leftSeveral
      obtain ⟨rightOnly, rightLevel⟩ := single rightListed rightDomain rightSeveral
      rw [same] at leftLevel
      have sameLevel := leftLevel.unique rightLevel
      exact ⟨by omega, by rw [leftOnly, rightOnly, same]⟩

lemma UnambiguousNames.isDomain (names : UnambiguousNames hosts switches options)
    (faithful : FaithfulNaming options (buildTopology runtime
      (tieredGraph runtime hosts switches) options)) (level : Nat) {group : TopologyGroup}
    (listed : group ∈ discoveredGroups runtime (tieredGraph runtime hosts switches) options)
    (tier : group.tier = (level + 1 : Nat)) :
    IsDomain (fabric hosts switches) level group.members := by
  have grouping := discoveredGroups_grouping runtime
    (tieredGraph_tiered runtime hosts switches) options
  induction level using Nat.strong_induction_on generalizing group with
  | _ level ih =>
    refine grouping.isDomain ?_ listed tier
    intro below less left leftListed right rightListed leftTier rightTier same a
    have equal := (names.separate faithful leftListed rightListed
      (ih below less leftListed leftTier)
      (ih below less rightListed rightTier) same).2
    rw [equal]

/-- A domain of the fabric is a group of a result with distinct names. -/
lemma exists_group_of_domain (distinct : DistinctGroupNames (buildTopology runtime
      (tieredGraph runtime hosts switches) options))
    {members : List String} (domain : SeveralDomain (fabric hosts switches) level members) :
    ∃ group ∈ (buildTopology runtime (tieredGraph runtime hosts switches)
        options).groupsByTier.getD (level + 1 : Nat) [],
      group.members = members ∧ group.name = generateGroupName members options := by
  have tiered := tieredGraph_tiered runtime hosts switches
  have grouping := discoveredGroups_grouping runtime tiered options
  obtain ⟨start, isStart, isClass⟩ := domain.domain
  obtain ⟨group, listed, tier, member⟩ := grouping.cover level start isStart
  have groupDomain := grouping.isDomain
    (fun below _ => namesSeparateTier_of_distinct tiered distinct _)
    listed tier
  have equal : group.members = members := by
    refine eq_of_sorted_of_mem_iff (grouping.sorted group listed) domain.sorted fun a => ?_
    rw [groupDomain.joined_iff member, isClass]
  refine ⟨group, (mem_groupsByTier_iff runtime tiered options _
    group).2 ⟨listed, tier⟩, equal, ?_⟩
  rw [grouping.name group listed, equal]

end

/--
Distinct groups get distinct names, which are not names of devices for groups
of several members, exactly when the domains of the fabric have unambiguous
names.
-/
theorem namesLaw_iff_unambiguousNames (runtime : Runtime)
    (hosts : List Host) (switches : List Switch) (options : List DiscoverOption)
    (faithful : FaithfulNaming (options.foldl (fun current option => option current)
        defaultDiscoverOptions) (discoverTopology runtime hosts switches options)) :
    NamesLaw hosts switches (discoverTopology runtime hosts switches options) ↔
      UnambiguousNames hosts switches (options.foldl (fun current option => option current)
          defaultDiscoverOptions) := by
  have tiered := tieredGraph_tiered runtime hosts switches
  have grouping := discoveredGroups_grouping runtime tiered
    (options.foldl (fun current option => option current) defaultDiscoverOptions)
  constructor
  · rintro ⟨distinct, fresh⟩
    constructor
    · intro level level' members members' domain domain' same
      rcases exists_group_of_domain distinct domain with ⟨left, inLeft, leftMembers, leftName⟩
      rcases exists_group_of_domain distinct domain' with ⟨right, inRight, rightMembers, rightName⟩
      have sameName : left.name = right.name := by
        rw [leftName, rightName]
        exact generateGroupName_congr domain.sorted domain'.sorted
          domain.several domain'.several same _
      rcases distinct _ (mem_keys_of_mem_getD inLeft) _
          (mem_keys_of_mem_getD inRight) left inLeft right inRight
          sameName with ⟨sameTier, forward, backward⟩
      rw [leftMembers, rightMembers] at forward backward
      exact ⟨by omega, eq_of_sorted_of_mem_iff domain.sorted
        domain'.sorted fun a => ⟨forward a, backward a⟩⟩
    · intro level members domain
      rcases exists_group_of_domain distinct domain with ⟨group, listed, sameMembers, name⟩
      rw [← name]
      exact fresh _ (mem_keys_of_mem_getD listed) group listed
        (by rw [sameMembers]; exact domain.several)
  · intro names
    constructor
    · intro tier _ tier' _ left inLeft right inRight same
      rcases (mem_groupsByTier_iff runtime tiered _ tier left).mp inLeft with ⟨leftListed, rfl⟩
      rcases (mem_groupsByTier_iff runtime tiered _ tier' right).mp inRight with ⟨rightListed, rfl⟩
      rcases grouping.level left leftListed with ⟨level, leftTier⟩
      rcases grouping.level right rightListed with ⟨level', rightTier⟩
      rcases names.separate faithful leftListed rightListed
        (names.isDomain faithful level leftListed leftTier)
        (names.isDomain faithful level' rightListed rightTier) same with
        ⟨rfl, sameMembers⟩
      refine ⟨leftTier.trans rightTier.symm, ?_⟩
      unfold SameMembers
      rw [sameMembers]
      exact ⟨fun _ member => member, fun _ member => member⟩
    · intro tier _ group inTier several
      rcases (mem_groupsByTier_iff runtime tiered _ tier group).mp inTier with ⟨listed, _⟩
      rcases grouping.level group listed with ⟨level, groupTier⟩
      rw [grouping.name group listed]
      exact names.fresh level group.members ⟨grouping.sorted group listed, several,
          names.isDomain faithful level listed groupTier⟩

/-- Two leaves above one host, and one above another. -/
theorem namesLaw_iff_unambiguousNames_three_leaves :
    let hosts : List Host := [⟨"h1"⟩, ⟨"h2"⟩]
    let switches : List Switch := [⟨"a", [⟨"", "h1"⟩]⟩, ⟨"b", [⟨"", "h1"⟩]⟩, ⟨"c", [⟨"", "h2"⟩]⟩]
    FaithfulNaming defaultDiscoverOptions (discoverTopology .canonical hosts switches []) ∧
      UnambiguousNames hosts switches defaultDiscoverOptions :=
  ⟨Or.inl rfl, (namesLaw_iff_unambiguousNames .canonical _ _ [] (Or.inl rfl)).mp
    (by decide +kernel)⟩

/-- The groups `{a-b, c}` and `{a, b-c}` are both named `a-b-c-group`. -/
theorem joined_members_share_a_name :
    let switches : List Switch :=
      [⟨"a-b", [⟨"", "h1"⟩]⟩, ⟨"c", [⟨"", "h1"⟩]⟩, ⟨"a", [⟨"", "h2"⟩]⟩, ⟨"b-c", [⟨"", "h2"⟩]⟩]
    let topology :=
      discoverTopology Runtime.canonical [⟨"h1"⟩, ⟨"h2"⟩] switches [withConcatGroupName]
    (topology.groupsByTier.getD 1 []).map (fun group => (group.name, group.members)) =
        [("a-b-c-group", ["a-b", "c"]), ("a-b-c-group", ["a", "b-c"])] ∧
      ¬ NamesLaw [⟨"h1"⟩, ⟨"h2"⟩] switches topology := by
  constructor
  · decide +kernel
  · decide +kernel

end Unifabric.Discovery
