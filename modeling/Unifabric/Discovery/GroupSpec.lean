import Unifabric.Discovery.ZoneSpec

/-!
# Groups are classes of switches

Inside a zone, two switches of one tier share a lower group when they are
linked to devices of the tier below which carry the same group name.  The
group search collects the classes of this relation, each with its neighbours
in the tiers below and above.
-/

namespace Unifabric.Discovery

open Lib Relation GoMap
open Std.ExtTreeMap (mem_keys)

/-! ## Sorted lists without duplicates -/

lemma dedupeSortedStrings_cons_cons (first second : String) (rest : List String) :
    dedupeSortedStrings (first :: second :: rest) =
      if second ≠ first then
        first :: dedupeSortedStrings (second :: rest)
      else dedupeSortedStrings (second :: rest) := by
  unfold dedupeSortedStrings
  split_ifs with different
  · simp [different]
  · rw [not_not] at different
    simp [different]

lemma dedupeSortedStrings_spec (sorted : values.Pairwise (· ≤ ·)) :
    (∀ value, value ∈ dedupeSortedStrings values ↔ value ∈ values) ∧
      (dedupeSortedStrings values).Pairwise (· < ·) := by
  induction values with
  | nil => simp [dedupeSortedStrings]
  | cons first rest ih =>
    rw [List.pairwise_cons] at sorted
    obtain ⟨members, increasing⟩ := ih sorted.2
    cases rest with
    | nil => simp [dedupeSortedStrings]
    | cons second rest =>
      rw [dedupeSortedStrings_cons_cons]
      split_ifs with different
      · refine ⟨?_, ?_⟩
        · intro value
          simp only [List.mem_cons, members]
        · rw [List.pairwise_cons]
          refine ⟨?_, increasing⟩
          intro value member
          rw [members] at member
          have least := sorted.1 second List.mem_cons_self
          rcases List.mem_cons.1 member with rfl | later
          · exact lt_of_le_of_ne least different.symm
          · have above := (List.pairwise_cons.1 sorted.2).1 value later
            exact lt_of_lt_of_le (lt_of_le_of_ne least different.symm) above
      · rw [not_not] at different
        subst different
        refine ⟨?_, increasing⟩
        intro value
        rw [members]
        simp

/-! ## The view of a zone -/

lemma buildZoneDeviceView_spec (graph : TopologyGraph) (names : List String) :
    (∀ name : String, (buildZoneDeviceView graph names).devices[name]? =
        if name ∈ names then some (graph.devices.getD name .zero)
        else none) ∧
      (∀ tier, tier ∈ (buildZoneDeviceView graph names).devicesByTier ↔
        ∃ name ∈ names, tierOf graph.devices name = tier) ∧
      ∀ (tier : Int) (name : String), name ∈ (buildZoneDeviceView graph names).devicesByTier.getD
            tier ∅ ↔
          name ∈ names ∧ tierOf graph.devices name = tier := by
  induction names using List.reverseRecOn with
  | nil => simp [buildZoneDeviceView]
  | append_singleton before last ih =>
    obtain ⟨devices, tiers, byTier⟩ := ih
    rw [buildZoneDeviceView, List.foldl_append, List.foldl_cons,
      List.foldl_nil, ← buildZoneDeviceView]
    refine ⟨?_, ?_, ?_⟩
    · intro name
      rw [getElem?_insert, devices]
      by_cases same : last = name
      · subst same
        simp
      · simp [same, Ne.symm same]
    · intro tier
      rw [mem_insert, tiers]
      simp only [List.mem_append, List.mem_singleton, or_and_right,
        exists_or, exists_eq_left, tierOf]
      rw [or_comm, eq_comm]
    · intro tier name
      rw [getD_insert, List.mem_append, List.mem_singleton]
      split_ifs with same
      · subst same
        rw [mem_insert, byTier]
        constructor
        · rintro (rfl | ⟨member, atTier⟩)
          · exact ⟨.inr rfl, rfl⟩
          · exact ⟨.inl member, atTier⟩
        · rintro ⟨member | rfl, atTier⟩
          · exact .inr ⟨member, atTier⟩
          · exact .inl rfl
      · rw [byTier]
        refine and_congr_left fun atTier => ?_
        rw [or_iff_left]
        rintro rfl
        exact same atTier

/-! ## The index of lower groups -/

section

variable (runtime : Runtime) (adj : Adjacency) (zone : ZoneDeviceView)
  (tier : Int) (lowerDeviceToGroup : GoMap String String)

/-- A device of the zone has the tier. -/
def InTier (tier : Int) (name : String) : Prop :=
  ∃ device, zone.devices[name]? = some device ∧ device.tier = tier

/-- A device is linked to a lower device of the given group. -/
def TouchesGroup (lowerGroupName name : String) : Prop :=
  ∃ lower, HasEdge adj name lower ∧ InTier zone (tier - 1) lower ∧
    groupNameOfDevice lower lowerDeviceToGroup = lowerGroupName

lemma mem_indexLowerNeighbor (index : GoMap String (List String))
    (deviceName neighbor lowerGroupName name : String) :
    name ∈ (indexLowerNeighbor zone tier lowerDeviceToGroup deviceName
        index neighbor).getD lowerGroupName [] ↔
      name ∈ index.getD lowerGroupName [] ∨ (name = deviceName ∧ InTier zone (tier - 1) neighbor ∧
          groupNameOfDevice neighbor lowerDeviceToGroup = lowerGroupName) := by
  unfold indexLowerNeighbor
  cases found : zone.devices[neighbor]? with
  | none => simp [InTier, found]
  | some device =>
    have lowerIff : InTier zone (tier - 1) neighbor ↔ device.tier = tier - 1 := by
      simp [InTier, found]
    by_cases lower : device.tier = tier - 1
    · simp only [lowerIff, lower, ne_eq, not_true_eq_false, if_false, true_and]
      rw [getD_eq, getElem?_insert]
      by_cases same : groupNameOfDevice neighbor lowerDeviceToGroup = lowerGroupName
      · simp [same]
      · simp [same, getD_eq]
    · simp [lowerIff, lower]

lemma mem_indexLowerGroups (index : GoMap String (List String))
    (deviceName lowerGroupName name : String) :
    name ∈ (indexLowerGroups runtime adj zone tier lowerDeviceToGroup
        index deviceName).getD lowerGroupName [] ↔
      name ∈ index.getD lowerGroupName [] ∨ (name = deviceName ∧
          TouchesGroup adj zone tier lowerDeviceToGroup lowerGroupName name) := by
  unfold indexLowerGroups
  rw [foldl_holds_iff (fun index name => name ∈ index.getD lowerGroupName [])
    _ (fun index neighbor name => mem_indexLowerNeighbor zone tier
      lowerDeviceToGroup index deviceName neighbor lowerGroupName name)]
  simp only [mem_sortedBoolKeys]
  refine or_congr_right ?_
  constructor
  · rintro ⟨lower, edge, rfl, isLower⟩
    exact ⟨rfl, lower, edge, isLower⟩
  · rintro ⟨rfl, lower, edge, isLower⟩
    exact ⟨lower, edge, rfl, isLower⟩

/-- The index lists the devices of the tier which touch a lower group. -/
lemma buildLowerGroupToTierDevices_spec (lowerGroupName : String) :
    (∀ name, name ∈ (buildLowerGroupToTierDevices runtime adj zone tier
          lowerDeviceToGroup).getD lowerGroupName [] ↔
        name ∈ zone.devicesByTier.getD tier ∅ ∧ TouchesGroup adj zone tier lowerDeviceToGroup
            lowerGroupName name) ∧ ((buildLowerGroupToTierDevices runtime adj zone tier
        lowerDeviceToGroup).getD lowerGroupName []).Pairwise (· < ·) := by
  unfold buildLowerGroupToTierDevices
  cases found : zone.devicesByTier[tier]? with
  | none => simp [getD_eq, found]
  | some devicesInTier =>
    have listed := foldl_holds_iff (fun index name => name ∈ index.getD lowerGroupName []) _
      (fun index deviceName name => mem_indexLowerGroups runtime adj zone
        tier lowerDeviceToGroup index deviceName lowerGroupName name)
      devicesInTier.keys ∅
    simp only [existsAndEq, true_and] at listed
    simp only [sortedDeviceNames_eq]
    rw [getD_eq, runtime.getElem?_range_update _
      (fun values => dedupeSortedStrings (sortValues values)) []]
    simp only [getD_eq, found, Option.getD_some] at listed ⊢
    cases entry : (devicesInTier.keys.foldl
        (indexLowerGroups runtime adj zone tier lowerDeviceToGroup)
        ∅)[lowerGroupName]? with
    | none =>
      rw [entry] at listed
      refine ⟨?_, List.Pairwise.nil⟩
      intro name
      have missing := listed name
      simp only [Option.getD_none, List.not_mem_nil,
        Std.ExtTreeMap.getElem?_empty, false_or, false_iff,
        mem_keys] at missing
      simp only [Option.map_none, Option.getD_none, List.not_mem_nil, false_iff]
      exact missing
    | some values =>
      rw [entry] at listed
      obtain ⟨members, increasing⟩ := dedupeSortedStrings_spec (sortValues_pairwise values)
      refine ⟨?_, increasing⟩
      intro name
      rw [Option.map_some, Option.getD_some, members, mem_sortValues]
      have present := listed name
      simp only [Option.getD_some, List.not_mem_nil,
        Std.ExtTreeMap.getElem?_empty, Option.getD_none, false_or,
        mem_keys] at present
      exact present

/-! ## The group search -/

variable (index : GoMap String (List String))

/-- The devices a group search has marked. -/
abbrev GroupSearch.Seen (search : GroupSearch) (name : String) : Prop :=
  search.processed.getD name false = true

lemma visitGroupNeighbor_of_lower {search : GroupSearch}
    (found : zone.devices[neighbor]? = some device) (lower : device.tier = tier - 1) :
    visitGroupNeighbor zone tier lowerDeviceToGroup index search neighbor =
      { search with
        lower := search.lower.insert neighbor device
        queue := search.queue ++ (index.getD (groupNameOfDevice neighbor lowerDeviceToGroup)
            []).filter fun related => !(search.processed.getD related false) } := by
  have notUpper : ¬ tier - 1 = tier + 1 := by omega
  simp [visitGroupNeighbor, found, lower, notUpper]

lemma visitGroupNeighbor_of_upper {search : GroupSearch}
    (found : zone.devices[neighbor]? = some device) (upper : device.tier = tier + 1) :
    visitGroupNeighbor zone tier lowerDeviceToGroup index search neighbor =
      { search with upper := search.upper.insert neighbor device } := by
  have notLower : ¬ tier + 1 = tier - 1 := by omega
  simp [visitGroupNeighbor, found, upper, notLower]

lemma visitGroupNeighbor_of_other {search : GroupSearch}
    (notLower : ¬ InTier zone (tier - 1) neighbor) (notUpper : ¬ InTier zone (tier + 1) neighbor) :
    visitGroupNeighbor zone tier lowerDeviceToGroup index search neighbor = search := by
  unfold visitGroupNeighbor
  cases found : zone.devices[neighbor]? with
  | none => rfl
  | some device =>
    have apart : device.tier ≠ tier - 1 ∧ device.tier ≠ tier + 1 :=
      ⟨fun lower => notLower ⟨device, found, lower⟩, fun upper => notUpper ⟨device, found, upper⟩⟩
    simp [apart.1, apart.2]

lemma InTier.unique {zone : ZoneDeviceView} (first : InTier zone left name)
    (second : InTier zone right name) : left = right := by
  obtain ⟨device, found, rfl⟩ := first
  obtain ⟨other, foundOther, rfl⟩ := second
  rw [found, Option.some.injEq] at foundOther
  rw [foundOther]

lemma visitGroupNeighbor_spec (search : GroupSearch) (neighbor : String) :
    let final := visitGroupNeighbor zone tier lowerDeviceToGroup index search neighbor
    final.processed = search.processed ∧ final.members = search.members ∧
      (∃ pushed, final.queue = search.queue ++ pushed ∧
        (∀ a, a ∈ pushed ↔ InTier zone (tier - 1) neighbor ∧ a ∈ index.getD
            (groupNameOfDevice neighbor lowerDeviceToGroup) [] ∧
          ¬ search.Seen a) ∧
        pushed.length ≤ (index.getD (groupNameOfDevice neighbor lowerDeviceToGroup) []).length) ∧
      (∀ name, name ∈ final.lower ↔ name ∈ search.lower ∨
        (name = neighbor ∧ InTier zone (tier - 1) name)) ∧
      ∀ name, name ∈ final.upper ↔ name ∈ search.upper ∨
        (name = neighbor ∧ InTier zone (tier + 1) name) := by
  have added {level : Int} (inTier : InTier zone level neighbor)
      (device : Device) (devices : GoMap String Device) (name : String) :
      name ∈ devices.insert neighbor device ↔
        name ∈ devices ∨ (name = neighbor ∧ InTier zone level name) := by
    rw [mem_insert, or_comm]
    refine or_congr_right (and_iff_left_of_imp ?_).symm
    rintro rfl
    exact inTier
  have kept {level : Int} (notInTier : ¬ InTier zone level neighbor)
      (devices : GoMap String Device) (name : String) :
      name ∈ devices ↔ name ∈ devices ∨ (name = neighbor ∧ InTier zone level name) := by
    rw [or_iff_left]
    rintro ⟨rfl, inTier⟩
    exact notInTier inTier
  by_cases lower : InTier zone (tier - 1) neighbor
  · have notUpper : ¬ InTier zone (tier + 1) neighbor := by
      intro upper
      have equal := lower.unique upper
      omega
    obtain ⟨device, found, atTier⟩ := id lower
    rw [visitGroupNeighbor_of_lower zone tier lowerDeviceToGroup index found atTier]
    refine ⟨rfl, rfl, ⟨_, rfl, ?_, List.length_filter_le _ _⟩,
      added lower device _, kept notUpper _⟩
    intro a
    simp [List.mem_filter, GroupSearch.Seen, lower]
  · have none : ∃ pushed, search.queue = search.queue ++ pushed ∧
        (∀ a, a ∈ pushed ↔ InTier zone (tier - 1) neighbor ∧ a ∈ index.getD
            (groupNameOfDevice neighbor lowerDeviceToGroup) [] ∧
          ¬ search.Seen a) ∧
        pushed.length ≤ (index.getD (groupNameOfDevice neighbor lowerDeviceToGroup) []).length :=
      ⟨[], by simp, by simp [lower], by simp⟩
    by_cases upper : InTier zone (tier + 1) neighbor
    · obtain ⟨device, found, atTier⟩ := id upper
      rw [visitGroupNeighbor_of_upper zone tier lowerDeviceToGroup index found atTier]
      exact ⟨rfl, rfl, none, kept lower _, added upper device _⟩
    · rw [visitGroupNeighbor_of_other zone tier lowerDeviceToGroup index lower upper]
      exact ⟨rfl, rfl, none, kept lower _, kept upper _⟩

lemma foldl_visitGroupNeighbor_spec (bound : Nat)
    (short : ∀ name, (index.getD name []).length ≤ bound)
    (neighbors : List String) (search : GroupSearch) :
    let final := neighbors.foldl (visitGroupNeighbor zone tier lowerDeviceToGroup index) search
    final.processed = search.processed ∧ final.members = search.members ∧
      (∃ pushed, final.queue = search.queue ++ pushed ∧ (∀ a, a ∈ pushed ↔
          (∃ neighbor ∈ neighbors, InTier zone (tier - 1) neighbor ∧ a ∈ index.getD
              (groupNameOfDevice neighbor lowerDeviceToGroup) []) ∧
          ¬ search.Seen a) ∧
        pushed.length ≤ neighbors.length * bound) ∧
      (∀ name, name ∈ final.lower ↔ name ∈ search.lower ∨
        (name ∈ neighbors ∧ InTier zone (tier - 1) name)) ∧
      ∀ name, name ∈ final.upper ↔ name ∈ search.upper ∨
        (name ∈ neighbors ∧ InTier zone (tier + 1) name) := by
  induction neighbors generalizing search with
  | nil => simp
  | cons neighbor rest ih =>
    obtain ⟨processed, members, ⟨pushed, queue, pushedIff, few⟩, lower,
      upper⟩ := visitGroupNeighbor_spec zone tier lowerDeviceToGroup index search neighbor
    obtain ⟨processed', members', ⟨pushed', queue', pushedIff', few'⟩, lower', upper'⟩ := ih
        (visitGroupNeighbor zone tier lowerDeviceToGroup index search neighbor)
    simp only [List.foldl_cons]
    refine ⟨processed'.trans processed, members'.trans members,
      ⟨pushed ++ pushed', ?_, ?_, ?_⟩, ?_, ?_⟩
    · rw [queue', queue, List.append_assoc]
    · intro a
      rw [List.mem_append, pushedIff, pushedIff']
      unfold GroupSearch.Seen
      rw [processed]
      simp only [List.mem_cons, exists_eq_or_imp]
      tauto
    · have one := few.trans (short _)
      rw [List.length_append, List.length_cons, Nat.succ_mul]
      omega
    · intro name
      rw [lower', lower, List.mem_cons, or_and_right, or_assoc]
    · intro name
      rw [upper', upper, List.mem_cons, or_and_right, or_assoc]

/-- The group search goes from a device to those its lower groups touch. -/
def NextInGroup (a b : String) : Prop :=
  ∃ lower, HasEdge adj a lower ∧ InTier zone (tier - 1) lower ∧
    b ∈ index.getD (groupNameOfDevice lower lowerDeviceToGroup) []

lemma groupStep_spec (bound : Nat) (short : ∀ name, (index.getD name []).length ≤ bound)
    (stepped : groupStep runtime adj zone tier lowerDeviceToGroup index search = some next) :
    ∃ current rest, search.queue = current :: rest ∧
      ((search.Seen current ∧ next = { search with queue := rest }) ∨ (¬ search.Seen current ∧
          (∀ a, next.Seen a ↔ search.Seen a ∨ a = current) ∧
          (∀ a, a ∈ next.members ↔ a ∈ search.members ∨ a = current) ∧
          (∃ pushed, next.queue = rest ++ pushed ∧ (∀ a, a ∈ pushed ↔
              NextInGroup adj zone tier lowerDeviceToGroup index current a ∧ ¬ next.Seen a) ∧
            pushed.length ≤ (adj.getD current ∅).size * bound) ∧
          (∀ name, name ∈ next.lower ↔ name ∈ search.lower ∨
            (HasEdge adj current name ∧ InTier zone (tier - 1) name)) ∧
          ∀ name, name ∈ next.upper ↔ name ∈ search.upper ∨ (HasEdge adj current name ∧
              InTier zone (tier + 1) name))) := by
  unfold groupStep at stepped
  cases split : search.queue with
  | nil => simp [split] at stepped
  | cons current rest =>
    simp only [split] at stepped
    refine ⟨current, rest, rfl, ?_⟩
    split_ifs at stepped with known
    · exact .inl ⟨known, (Option.some.inj stepped).symm⟩
    · obtain ⟨processed, members, ⟨pushed, queue, pushedIff, few⟩,
        lower, upper⟩ := foldl_visitGroupNeighbor_spec zone tier
          lowerDeviceToGroup index bound short
          (sortedBoolKeys runtime ["BuildTierGroups", current] (adj.getD current ∅))
          { search with
            queue := rest
            processed := search.processed.insert current true
            members := search.members.insert current (zone.devices.getD current .zero) }
      have final := Option.some.inj stepped
      rw [final] at processed members queue
      simp only [final] at lower upper
      have marks : ∀ a, next.Seen a ↔ search.Seen a ∨ a = current := by
        intro a
        unfold GroupSearch.Seen
        rw [processed]
        exact getD_insert_true _ _ _
      refine .inr ⟨known, marks, ?_, ⟨pushed, queue, ?_, ?_⟩, ?_, ?_⟩
      · intro a
        rw [members, mem_insert, or_comm]
      · intro a
        rw [pushedIff]
        unfold NextInGroup GroupSearch.Seen
        rw [processed]
        simp only [mem_sortedBoolKeys, HasEdge]
      · exact few.trans (Nat.mul_le_mul_right bound (length_sortedBoolKeys_le runtime _ _))
      · intro name
        rw [lower, mem_sortedBoolKeys]
        rfl
      · intro name
        rw [upper, mem_sortedBoolKeys]
        rfl

lemma groupStep_worklist (bound : Nat) (short : ∀ name, (index.getD name []).length ≤ bound) :
    Worklist (groupStep runtime adj zone tier lowerDeviceToGroup index)
      GroupSearch.queue GroupSearch.Seen (NextInGroup adj zone tier lowerDeviceToGroup index) where
  stop := by
    intro search stopped
    unfold groupStep at stopped
    split at stopped
    · assumption
    · split_ifs at stopped
  popped := by
    intro search next stepped
    obtain ⟨current, rest, split, ⟨known, rfl⟩ | expanded⟩ :=
      groupStep_spec runtime adj zone tier lowerDeviceToGroup index bound short stepped
    · exact ⟨current, rest, split, .inl ⟨known, rfl, fun _ => Iff.rfl⟩⟩
    · obtain ⟨fresh, marks, _, ⟨pushed, queue, pushedIff, _⟩, _⟩ := expanded
      exact ⟨current, rest, split, .inr ⟨fresh, marks, pushed, queue, pushedIff⟩⟩

/-- The members are the new marks, with their neighbours around the tier. -/
lemma groupSearch_result (bound : Nat) (short : ∀ name, (index.getD name []).length ≤ bound)
    (name : String) (processed : GoMap String Bool) (fuel : Nat) :
    let final := runLoop (groupStep runtime adj zone tier lowerDeviceToGroup index) fuel
      { queue := [name], processed := processed, members := ∅, lower := ∅, upper := ∅ }
    (∀ a, a ∈ final.members ↔ final.Seen a ∧ ¬ processed.getD a false = true) ∧
      (∀ x, x ∈ final.lower ↔ ∃ a ∈ final.members, HasEdge adj a x ∧ InTier zone (tier - 1) x) ∧
      ∀ x, x ∈ final.upper ↔ ∃ a ∈ final.members, HasEdge adj a x ∧ InTier zone (tier + 1) x := by
  refine And.right (runLoop_invariant (fun state : GroupSearch =>
      (∀ a, processed.getD a false = true → state.Seen a) ∧
      (∀ a, a ∈ state.members ↔ state.Seen a ∧ ¬ processed.getD a false = true) ∧
      (∀ x, x ∈ state.lower ↔ ∃ a ∈ state.members, HasEdge adj a x ∧ InTier zone (tier - 1) x) ∧
      ∀ x, x ∈ state.upper ↔ ∃ a ∈ state.members, HasEdge adj a x ∧ InTier zone (tier + 1) x)
    ?_ fuel _ ⟨fun _ seen => seen, by simp, by simp, by simp⟩)
  rintro state next ⟨kept, members, lower, upper⟩ stepped
  obtain ⟨current, rest, split, ⟨known, rfl⟩ | expanded⟩ :=
    groupStep_spec runtime adj zone tier lowerDeviceToGroup index bound short stepped
  · exact ⟨kept, members, lower, upper⟩
  · obtain ⟨fresh, marks, newMembers, _, newLower, newUpper⟩ := expanded
    refine ⟨?_, ?_, ?_, ?_⟩
    · intro a seen
      exact (marks a).2 (.inl (kept a seen))
    · intro a
      rw [newMembers, marks, members]
      constructor
      · rintro (⟨seen, isNew⟩ | rfl)
        · exact ⟨.inl seen, isNew⟩
        · exact ⟨.inr rfl, fun seen => fresh (kept a seen)⟩
      · rintro ⟨seen | rfl, isNew⟩
        · exact .inl ⟨seen, isNew⟩
        · exact .inr rfl
    · intro x
      simp only [newLower, lower, newMembers, or_and_right, exists_or, exists_eq_left]
    · intro x
      simp only [newUpper, upper, newMembers, or_and_right, exists_or, exists_eq_left]

lemma groupSearch_stops (devicesInTier : GoMap String Device)
    (short : ∀ name, (index.getD name []).length ≤ devicesInTier.size)
    (inside : ∀ a b, NextInGroup adj zone tier lowerDeviceToGroup index a b → b ∈ adj)
    (name : String) (known : name ∈ adj) (processed : GoMap String Bool) :
    groupStep runtime adj zone tier lowerDeviceToGroup index
      (collectGroup runtime adj zone tier lowerDeviceToGroup index
        devicesInTier name processed) = none := by
  refine (groupStep_worklist runtime adj zone tier lowerDeviceToGroup
    index devicesInTier.size short).stops adj.keys
    (fun name => (adj.getD name ∅).size * devicesInTier.size)
    ?_ ?_ _ ?_ _ ?_
  · intro a b _ next
    rw [mem_keys]
    exact inside a b next
  · intro state after stepped current rest pushed split newQueue fresh _
    obtain ⟨other, otherRest, otherSplit, ⟨seen, _⟩ | expanded⟩ :=
      groupStep_spec runtime adj zone tier lowerDeviceToGroup index devicesInTier.size short stepped
    · rw [split, List.cons.injEq] at otherSplit
      rw [← otherSplit.1] at seen
      exact absurd seen fresh
    · rw [split, List.cons.injEq] at otherSplit
      obtain ⟨_, _, _, ⟨added, queue, _, few⟩, _⟩ := expanded
      rw [← otherSplit.2, newQueue, List.append_cancel_left_eq] at queue
      rw [← otherSplit.1] at few
      rw [queue]
      exact few
  · intro a member
    rw [List.mem_singleton.1 member, mem_keys]
    exact known
  · rw [List.sum_map_mul_right]
    simp only [List.length_singleton, entryCount]
    omega

end

/-! ## The groups of a tier -/

section

variable (runtime : Runtime) (adj : Adjacency) (zone : ZoneDeviceView)
  (tier : Int) (options : DiscoverOptions)
  (lowerDeviceToGroup : GoMap String String)

/-- Two devices of the tier touch one lower group. -/
def ShareLower (a b : String) : Prop :=
  a ∈ zone.devicesByTier.getD tier ∅ ∧ b ∈ zone.devicesByTier.getD tier ∅ ∧ ∃ lowerGroupName,
      TouchesGroup adj zone tier lowerDeviceToGroup lowerGroupName a ∧
        TouchesGroup adj zone tier lowerDeviceToGroup lowerGroupName b

lemma ShareLower.symm {a b : String} (shared : ShareLower adj zone tier lowerDeviceToGroup a b) :
    ShareLower adj zone tier lowerDeviceToGroup b a := by
  obtain ⟨left, right, lowerGroupName, touchesA, touchesB⟩ := shared
  exact ⟨right, left, lowerGroupName, touchesB, touchesA⟩

/-- A group as the search assembles it. -/
structure Assembled (group : TopologyGroup) : Prop where
  tier_eq : group.tier = tier
  name_eq : group.name = generateGroupName group.members options
  sorted : group.members.Pairwise (· < ·)
  lower_sorted : group.lowerTierNodes.Pairwise (· < ·)
  upper_sorted : group.upperTierNodes.Pairwise (· < ·)
  lower : ∀ name, name ∈ group.lowerTierNodes ↔ ∃ member ∈ group.members,
      HasEdge adj member name ∧ InTier zone (tier - 1) name
  upper : ∀ name, name ∈ group.upperTierNodes ↔ ∃ member ∈ group.members,
      HasEdge adj member name ∧ InTier zone (tier + 1) name

lemma nextInGroup_iff (a b : String) : NextInGroup adj zone tier lowerDeviceToGroup
        (buildLowerGroupToTierDevices runtime adj zone tier lowerDeviceToGroup) a b ↔
      b ∈ zone.devicesByTier.getD tier ∅ ∧ ∃ lowerGroupName,
          TouchesGroup adj zone tier lowerDeviceToGroup lowerGroupName a ∧
            TouchesGroup adj zone tier lowerDeviceToGroup lowerGroupName b := by
  unfold NextInGroup
  simp only [(buildLowerGroupToTierDevices_spec runtime adj zone tier lowerDeviceToGroup _).1]
  constructor
  · rintro ⟨lower, edge, isLower, member, touches⟩
    exact ⟨member, _, ⟨lower, edge, isLower, rfl⟩, touches⟩
  · rintro ⟨member, _, ⟨lower, edge, isLower, rfl⟩, touches⟩
    exact ⟨lower, edge, isLower, member, touches⟩

/-- From a device of the tier, the search walks through the tier. -/
lemma reflTransGen_nextInGroup_iff (member : a ∈ zone.devicesByTier.getD tier ∅) :
    ReflTransGen (NextInGroup adj zone tier lowerDeviceToGroup
        (buildLowerGroupToTierDevices runtime adj zone tier lowerDeviceToGroup)) a b ↔
      ReflTransGen (ShareLower adj zone tier lowerDeviceToGroup) a b := by
  refine reflTransGen_congr_inside (· ∈ zone.devicesByTier.getD tier ∅)
    (fun x inTier y => (nextInGroup_iff runtime adj zone tier
      lowerDeviceToGroup x y).trans (and_iff_right inTier).symm)
    (fun x y next => ?_) member
  exact ((nextInGroup_iff runtime adj zone tier lowerDeviceToGroup x y).1 next).1

/-- The group collected from one start, with the marks it leaves. -/
def collectOutput (devicesInTier : GoMap String Device) (name : String)
    (processed : GoMap String Bool) : TopologyGroup × GoMap String Bool :=
  let final :=
    collectGroup runtime adj zone tier lowerDeviceToGroup
      (buildLowerGroupToTierDevices runtime adj zone tier
        lowerDeviceToGroup) devicesInTier name processed
  ({ name := generateGroupName final.members.keys options
     tier := tier
     members := final.members.keys
     lowerTierNodes := final.lower.keys
     upperTierNodes := final.upper.keys },
    final.processed)

lemma buildTierGroups_eq (found : zone.devicesByTier[tier]? = some devicesInTier) :
    buildTierGroups runtime adj zone tier options lowerDeviceToGroup =
      (collectAll (fun (processed : GoMap String Bool) name => processed.getD name false)
        (collectOutput runtime adj zone tier options lowerDeviceToGroup
          devicesInTier) devicesInTier.keys ∅).1 := by
  unfold buildTierGroups collectAll collectOutput
  simp only [found, sortedDeviceNames_eq, sortedNamesFromMap_eq]

variable (rows : ∀ name, name ∈ zone.devicesByTier.getD tier ∅ → name ∈ adj)

include rows

/-- What one group search returns, for marks closed under sharing. -/
lemma collectOutput_spec
    (found : zone.devicesByTier[tier]? = some devicesInTier) (member : start ∈ devicesInTier)
    (processed : GoMap String Bool)
    (closed : ∀ a b, processed.getD a false = true →
      ReflTransGen (ShareLower adj zone tier lowerDeviceToGroup) a b →
        processed.getD b false = true)
    (inTier : ∀ a, processed.getD a false = true → a ∈ zone.devicesByTier.getD tier ∅)
    (fresh : processed.getD start false = false) :
    let output := collectOutput runtime adj zone tier options
      lowerDeviceToGroup devicesInTier start processed
    Assembled adj zone tier options output.1 ∧ (∀ a, output.2.getD a false = true ↔
        processed.getD a false = true ∨ ReflTransGen (ShareLower adj zone tier lowerDeviceToGroup)
            start a) ∧
      ∀ a, a ∈ output.1.members ↔ ReflTransGen (ShareLower adj zone tier lowerDeviceToGroup)
          start a := by
  have devices : zone.devicesByTier.getD tier ∅ = devicesInTier := by
    rw [getD_eq, found, Option.getD_some]
  have short : ∀ name, ((buildLowerGroupToTierDevices runtime adj zone
      tier lowerDeviceToGroup).getD name []).length ≤
        devicesInTier.size := by
    intro name
    obtain ⟨listed, increasing⟩ := buildLowerGroupToTierDevices_spec
      runtime adj zone tier lowerDeviceToGroup name
    rw [← Std.ExtTreeMap.length_keys]
    refine List.Subperm.length_le (List.subperm_of_subset
      (increasing.imp fun less => ne_of_lt less) ?_)
    intro other present
    rw [mem_keys, ← devices]
    exact ((listed other).1 present).1
  have startMember : start ∈ zone.devicesByTier.getD tier ∅ := by
    rw [devices]
    exact member
  have marks := (groupStep_worklist runtime adj zone tier
    lowerDeviceToGroup (buildLowerGroupToTierDevices runtime adj zone tier
      lowerDeviceToGroup) devicesInTier.size short).seen_iff
    { queue := [start], processed := processed, members := ∅, lower := ∅, upper := ∅ }
    (entryCount adj * devicesInTier.size + 2)
    (fun a b seen next => closed a b seen (ReflTransGen.single
      ⟨inTier a seen, (nextInGroup_iff runtime adj zone tier lowerDeviceToGroup a b).1 next⟩))
    (groupSearch_stops runtime adj zone tier lowerDeviceToGroup _ devicesInTier short
      (fun a b next => rows b ((nextInGroup_iff runtime adj zone tier
        lowerDeviceToGroup a b).1 next).1)
      start (rows start startMember) processed)
  simp only [List.mem_singleton, exists_eq_left,
    reflTransGen_nextInGroup_iff runtime adj zone tier lowerDeviceToGroup startMember] at marks
  obtain ⟨members, lower, upper⟩ := groupSearch_result runtime adj zone
    tier lowerDeviceToGroup (buildLowerGroupToTierDevices runtime adj zone
      tier lowerDeviceToGroup) devicesInTier.size short start processed
    (entryCount adj * devicesInTier.size + 2)
  refine ⟨?_, marks, ?_⟩
  · refine
      { tier_eq := rfl
        name_eq := rfl
        sorted := keys_pairwise _
        lower_sorted := keys_pairwise _
        upper_sorted := keys_pairwise _
        lower := ?_
        upper := ?_ }
    · intro name
      simp only [collectOutput, mem_keys]
      exact lower name
    · intro name
      simp only [collectOutput, mem_keys]
      exact upper name
  · intro a
    simp only [collectOutput, mem_keys]
    refine (members a).trans ?_
    rw [marks]
    constructor
    · rintro ⟨seen | path, isNew⟩
      · exact absurd seen isNew
      · exact path
    · intro path
      refine ⟨.inr path, fun seen => ?_⟩
      have startSeen := closed a start seen ((equivalence_reflTransGen fun shared =>
          shared.symm adj zone tier lowerDeviceToGroup).symm path)
      rw [fresh] at startSeen
      exact Bool.false_ne_true startSeen

/-- The groups of a tier are the classes of switches which share groups. -/
lemma buildTierGroups_spec :
    (∀ group ∈ buildTierGroups runtime adj zone tier options lowerDeviceToGroup,
      Assembled adj zone tier options group ∧ ∃ start ∈ zone.devicesByTier.getD tier ∅,
          ∀ a, a ∈ group.members ↔ ReflTransGen (ShareLower adj zone tier lowerDeviceToGroup)
              start a) ∧ (∀ name ∈ zone.devicesByTier.getD tier ∅,
        ∃ group ∈ buildTierGroups runtime adj zone tier options
          lowerDeviceToGroup, name ∈ group.members) ∧
      (buildTierGroups runtime adj zone tier options lowerDeviceToGroup).Pairwise fun left right =>
          ∀ name, name ∈ left.members → name ∉ right.members := by
  cases found : zone.devicesByTier[tier]? with
  | none => simp [buildTierGroups, found, getD_eq]
  | some devicesInTier =>
    have devices : zone.devicesByTier.getD tier ∅ = devicesInTier := by
      rw [getD_eq, found, Option.getD_some]
    rw [buildTierGroups_eq runtime adj zone tier options lowerDeviceToGroup found]
    obtain ⟨classes, covered, disjoint⟩ := collectAll_classes
      (fun (processed : GoMap String Bool) name =>
        processed.getD name false)
      (collectOutput runtime adj zone tier options lowerDeviceToGroup devicesInTier)
      (equivalence_reflTransGen fun shared =>
        shared.symm adj zone tier lowerDeviceToGroup)
      (fun (group : TopologyGroup) name => name ∈ group.members)
      (Assembled adj zone tier options) devicesInTier.keys ∅ (by simp)
      (fun start isStart processed closed reached fresh =>
        collectOutput_spec runtime adj zone tier options lowerDeviceToGroup rows found
          (mem_keys.1 isStart) processed closed
          (fun a seen => by
            obtain ⟨origin, isOrigin, path⟩ := reached a seen
            rw [mem_keys, ← devices] at isOrigin
            rcases path.cases_tail with same | ⟨_, _, step⟩
            · rwa [same]
            · exact step.2.1)
          fresh)
    rw [devices]
    refine ⟨?_, ?_, disjoint⟩
    · intro group listed
      obtain ⟨assembled, start, isStart, isClass⟩ := classes group listed
      exact ⟨assembled, start, mem_keys.1 isStart, isClass⟩
    · intro name member
      exact covered name (mem_keys.2 member)

end

end Unifabric.Discovery
