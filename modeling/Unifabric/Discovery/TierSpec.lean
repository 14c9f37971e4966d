import Unifabric.Discovery.GraphSpec

/-!
# Tiers are levels of the fabric

The tier search gives a switch the level it has in the layered graph of the
fabric and leaves the other switches without a tier.  The search invariant
says that the tiers assigned so far are locally a distance as far as the
devices which have left the queue are concerned, and that the queue is ordered
by tier and spans at most two consecutive tiers.
-/

namespace Unifabric.Discovery

open Lib GoMap

variable {devices : GoMap String Device} {name : String} {search : TierSearch}

/-! ## Raising tiers -/

/-- The tier a device map gives a name. -/
def tierOf (devices : GoMap String Device) (name : String) : Int := (devices.getD name .zero).tier

/-- The type a device map gives a name. -/
def typeOf (devices : GoMap String Device) (name : String) : DeviceType :=
  (devices.getD name .zero).type

lemma mem_of_typeOf_ne (typed : typeOf devices name ≠ .unset) : name ∈ devices := by
  rw [mem_iff]
  unfold typeOf at typed
  rw [getD_eq] at typed
  cases found : devices[name]? with
  | none => simp [found, Device.zero] at typed
  | some device => exact ⟨device, rfl⟩

/-- Both loops of the search raise the picked names to one tier. -/
def raiseTier (pick : GoMap String Device → String → Bool) (tier : Int)
    (search : TierSearch) (name : String) : TierSearch :=
  if pick search.devices name then
    { devices := search.devices.insert name
        { search.devices.getD name .zero with tier := tier }
      queue := search.queue ++ [name] }
  else search

/-- A switch without a tier. -/
def untiered (devices : GoMap String Device) (name : String) : Bool :=
  typeOf devices name = .switch ∧ tierOf devices name = -1

/-- A switch next to a host. -/
def nextToHost (runtime : Runtime) (adj : Adjacency)
    (devices : GoMap String Device) (name : String) : Bool :=
  typeOf devices name = .switch ∧ hasHostNeighbor runtime devices adj name = true

lemma visitTierNeighbor_eq (tier : Int) :
    visitTierNeighbor tier = raiseTier untiered (tier + 1) := by
  funext search name
  unfold visitTierNeighbor raiseTier untiered typeOf tierOf
  by_cases isSwitch : (search.devices.getD name .zero).type = .switch
  · by_cases isUntiered :
        (search.devices.getD name .zero).tier = -1
    · simp [isSwitch, isUntiered]
    · simp [isSwitch, isUntiered]
  · simp [isSwitch]

lemma seedTier_eq (runtime : Runtime) (adj : Adjacency) :
    seedTier runtime adj = raiseTier (nextToHost runtime adj) 1 := by
  funext search name
  unfold seedTier raiseTier nextToHost typeOf
  by_cases isSwitch : (search.devices.getD name .zero).type = .switch
  · simp [isSwitch]
  · simp [isSwitch]

/-- What raising distinct names does, for a choice raising does not change. -/
lemma foldl_raiseTier (picksDevice : ∀ devices name, pick devices name = true → name ∈ devices)
    (stable : ∀ devices name other, other ≠ name → pick devices name = true → pick
          (devices.insert name { devices.getD name .zero with tier := tier })
          other =
        pick devices other)
    (names : List String) (distinct : names.Nodup) (search : TierSearch) :
    (names.foldl (raiseTier pick tier) search).queue =
        search.queue ++ names.filter (pick search.devices) ∧
      (∀ name, (names.foldl (raiseTier pick tier) search).devices.getD name .zero =
        if name ∈ names ∧ pick search.devices name = true then
          { search.devices.getD name .zero with tier := tier }
        else search.devices.getD name .zero) ∧
      ∀ name, name ∈ (names.foldl (raiseTier pick tier) search).devices ↔
        name ∈ search.devices := by
  induction names generalizing search with
  | nil => simp
  | cons first rest ih =>
    rw [List.nodup_cons] at distinct
    rw [List.foldl_cons]
    obtain ⟨queue, devices, vertices⟩ := ih distinct.2 (raiseTier pick tier search first)
    cases picked : pick search.devices first with
    | false =>
      have unchanged : raiseTier pick tier search first = search := by simp [raiseTier, picked]
      rw [unchanged] at queue devices vertices ⊢
      refine ⟨?_, ?_, vertices⟩
      · rw [queue, List.filter_cons_of_neg (by simp [picked])]
      · intro name
        rw [devices]
        by_cases same : name = first
        · subst same
          simp [picked]
        · simp [same]
    | true =>
      have raised : raiseTier pick tier search first =
            { devices := search.devices.insert first
                { search.devices.getD first .zero with tier := tier }
              queue := search.queue ++ [first] } := by
        simp [raiseTier, picked]
      rw [raised] at queue devices vertices ⊢
      have samePick : ∀ name ∈ rest, pick (search.devices.insert first
                { search.devices.getD first .zero with tier := tier })
              name =
            pick search.devices name := by
        intro name member
        refine stable search.devices first name ?_ picked
        rintro rfl
        exact distinct.1 member
      refine ⟨?_, ?_, ?_⟩
      · rw [queue, List.filter_cons_of_pos picked,
          List.filter_congr samePick]
        simp
      · intro name
        rw [devices]
        by_cases same : name = first
        · subst same
          rw [if_neg (fun later => distinct.1 later.1),
            if_pos ⟨.head _, picked⟩, getD_insert,
            if_pos rfl]
        · rw [getD_insert, if_neg (Ne.symm same)]
          by_cases later : name ∈ rest
          · rw [samePick name later]
            simp [later]
          · simp [later, same]
      · intro name
        rw [vertices]
        simp only [mem_insert]
        constructor
        · rintro (rfl | old)
          · exact picksDevice _ _ picked
          · exact old
        · exact .inr

lemma untiered_picks (devices : GoMap String Device) (name : String)
    (picked : untiered devices name = true) : name ∈ devices := by
  refine mem_of_typeOf_ne ?_
  simp only [untiered, decide_eq_true_eq] at picked
  simp [picked.1]

lemma untiered_stable (tier : Int) (devices : GoMap String Device)
    (name other : String) (different : other ≠ name) :
    untiered (devices.insert name { devices.getD name .zero with tier := tier }) other =
      untiered devices other := by
  unfold untiered typeOf tierOf
  rw [getD_insert, if_neg different.symm]

lemma typeOf_raise (tier : Int) (devices : GoMap String Device) (name other : String) : typeOf
        (devices.insert name { devices.getD name .zero with tier := tier }) other =
      typeOf devices other := by
  unfold typeOf
  rw [getD_insert]
  split_ifs with same
  · rw [same]
  · rfl

lemma nextToHost_picks (runtime : Runtime) (adj : Adjacency) (devices : GoMap String Device)
    (name : String) (picked : nextToHost runtime adj devices name = true) : name ∈ devices := by
  refine mem_of_typeOf_ne ?_
  simp only [nextToHost, decide_eq_true_eq] at picked
  simp [picked.1]

lemma nextToHost_stable (runtime : Runtime) (adj : Adjacency)
    (tier : Int) (devices : GoMap String Device) (name other : String) :
    nextToHost runtime adj (devices.insert name { devices.getD name .zero with tier := tier })
        other = nextToHost runtime adj devices other := by
  have types := typeOf_raise tier devices name
  unfold nextToHost hasHostNeighbor
  rw [types other]
  have sameAny : ∀ neighbor, ((devices.insert name
          { devices.getD name .zero with tier := tier }).getD
            neighbor .zero).type =
        (devices.getD neighbor .zero).type := types
  simp only [sameAny]

/-! ## The search invariant -/

section

variable (runtime : Runtime) (hosts : List Host) (switches : List Switch)

/-- The devices before the search. -/
abbrev inputDevices : GoMap String Device := (buildTopologyGraph runtime hosts switches).devices

lemma typeOf_input_switch (name : String) :
    typeOf (inputDevices runtime hosts switches) name = .switch ↔
      (fabric hosts switches).inner name := by
  have found := (buildTopologyGraph_spec runtime hosts switches).1 name
  unfold typeOf
  rw [getD_eq, found]
  unfold inputDevice fabric
  split_ifs with isSwitch isHost
  · simp [isSwitch]
  · simp [isSwitch]
  · simp [isSwitch, Device.zero]

lemma typeOf_input_host (name : String) :
    typeOf (inputDevices runtime hosts switches) name = .host ↔
      (fabric hosts switches).base name := by
  have found := (buildTopologyGraph_spec runtime hosts switches).1 name
  unfold typeOf
  rw [getD_eq, found]
  unfold inputDevice fabric
  split_ifs with isSwitch isHost
  · simp [isSwitch]
  · simp [isSwitch, isHost]
  · simp [isHost, Device.zero]

lemma tierOf_input_switch (isSwitch : (fabric hosts switches).inner name) :
    tierOf (inputDevices runtime hosts switches) name = -1 := by
  have found := (buildTopologyGraph_spec runtime hosts switches).1 name
  have listed : name ∈ switchNames switches := isSwitch
  unfold tierOf
  rw [getD_eq, found]
  simp [inputDevice, listed]

lemma tierOf_input_host (isHost : (fabric hosts switches).base name) :
    tierOf (inputDevices runtime hosts switches) name = 0 := by
  have found := (buildTopologyGraph_spec runtime hosts switches).1 name
  unfold tierOf
  rw [getD_eq, found]
  simp [inputDevice, isHost.1, isHost.2]

/-- The state invariant of the tier search. -/
structure TierInvariant (search : TierSearch) : Prop where
  vertices : ∀ name, name ∈ search.devices ↔ name ∈ inputDevices runtime hosts switches
  entry : ∀ name, search.devices.getD name .zero =
    { (inputDevices runtime hosts switches).getD name .zero with
      tier := tierOf search.devices name }
  host : ∀ {name}, (fabric hosts switches).base name → tierOf search.devices name = 0
  switch : ∀ {name}, (fabric hosts switches).inner name →
    tierOf search.devices name = -1 ∨ 1 ≤ tierOf search.devices name
  one : ∀ {name}, (fabric hosts switches).inner name → (tierOf search.devices name = 1 ↔
      ∃ other, Linked hosts switches name other ∧ (fabric hosts switches).base other)
  descend : ∀ {name}, (fabric hosts switches).inner name → 2 ≤ tierOf search.devices name →
      ∃ other, Linked hosts switches name other ∧ (fabric hosts switches).inner other ∧
        tierOf search.devices other = tierOf search.devices name - 1
  queued : ∀ name ∈ search.queue, (fabric hosts switches).inner name ∧
    1 ≤ tierOf search.devices name
  sorted : search.queue.Pairwise fun left right =>
    tierOf search.devices left ≤ tierOf search.devices right
  near : ∀ name ∈ search.queue, ∀ other, (fabric hosts switches).inner other →
      tierOf search.devices other ≤ tierOf search.devices name + 1
  done : ∀ {name other}, (fabric hosts switches).inner name →
    1 ≤ tierOf search.devices name → name ∉ search.queue → (fabric hosts switches).inner other →
        Linked hosts switches name other → 1 ≤ tierOf search.devices other ∧
            tierOf search.devices other ≤ tierOf search.devices name + 1

variable {runtime hosts switches}

lemma TierInvariant.typeOf_eq
    (invariant : TierInvariant runtime hosts switches search) (name : String) :
    typeOf search.devices name = typeOf (inputDevices runtime hosts switches) name := by
  unfold typeOf
  rw [invariant.entry name]

lemma TierInvariant.untiered_iff
    (invariant : TierInvariant runtime hosts switches search) (name : String) :
    untiered search.devices name = true ↔ (fabric hosts switches).inner name ∧
        tierOf search.devices name = -1 := by
  simp only [untiered, decide_eq_true_eq, invariant.typeOf_eq, typeOf_input_switch]

/-- A switch which is linked to a host. -/
def HostLinked (hosts : List Host) (switches : List Switch) (name : String) : Prop :=
  (fabric hosts switches).inner name ∧ ∃ other, Linked hosts switches name other ∧
      (fabric hosts switches).base other

lemma nextToHost_iff (name : String) :
    nextToHost runtime (buildTopologyGraph runtime hosts switches).adj
        (inputDevices runtime hosts switches) name = true ↔ HostLinked hosts switches name := by
  obtain ⟨_, allTrue, edges, _⟩ := buildTopologyGraph_spec runtime hosts switches
  simp only [nextToHost, decide_eq_true_eq, typeOf_input_switch]
  refine and_congr_right fun _ => ?_
  unfold hasHostNeighbor
  simp only [List.any_eq_true, MapOrder.mem_range, beq_iff_eq, mem_row_keys_iff allTrue, edges]
  exact exists_congr fun other =>
    and_congr_right fun _ => typeOf_input_host runtime hosts switches other

open Classical in
lemma seedTiers_spec :
    let search := seedTiers runtime (buildTopologyGraph runtime hosts switches)
    (∀ name, name ∈ search.devices ↔ name ∈ inputDevices runtime hosts switches) ∧
      (∀ name, search.devices.getD name .zero =
        if HostLinked hosts switches name then
          { (inputDevices runtime hosts switches).getD name .zero with tier := 1 }
        else (inputDevices runtime hosts switches).getD name .zero) ∧
      ∀ name, name ∈ search.queue ↔ HostLinked hosts switches name := by
  obtain ⟨queue, devices, vertices⟩ := foldl_raiseTier (nextToHost_picks runtime
      (buildTopologyGraph runtime hosts switches).adj)
    (fun devices name other _ _ => nextToHost_stable runtime
      (buildTopologyGraph runtime hosts switches).adj 1 devices name other)
    (runtime.range ["InferTiers"] (inputDevices runtime hosts switches).keys)
    ((runtime.range_perm _ _).nodup_iff.2 (GoMap.keys_nodup _))
    { devices := inputDevices runtime hosts switches, queue := [] }
  rw [← seedTier_eq] at queue devices vertices
  have picked : ∀ name, (name ∈ runtime.range ["InferTiers"]
            (inputDevices runtime hosts switches).keys ∧
          nextToHost runtime (buildTopologyGraph runtime hosts switches).adj
            (inputDevices runtime hosts switches) name = true) ↔
        HostLinked hosts switches name := by
    intro name
    rw [MapOrder.mem_range, Std.ExtTreeMap.mem_keys, ← nextToHost_iff]
    exact and_iff_right_of_imp fun picked => nextToHost_picks _ _ _ _ picked
  refine ⟨vertices, fun name => ?_, fun name => ?_⟩
  · have entry := devices name
    simp only [picked] at entry
    exact entry
  · unfold seedTiers
    rw [mem_sortValues, queue, List.nil_append, List.mem_filter]
    exact picked name

lemma tierInvariant_seedTiers : TierInvariant runtime hosts switches
      (seedTiers runtime (buildTopologyGraph runtime hosts switches)) := by
  classical
  obtain ⟨vertices, devices, members⟩ := @seedTiers_spec runtime hosts switches
  generalize seedTiers runtime (buildTopologyGraph runtime hosts switches) =
    search at vertices devices members ⊢
  have tiers : ∀ name, tierOf search.devices name =
      if HostLinked hosts switches name then 1
      else tierOf (inputDevices runtime hosts switches) name := by
    intro name
    unfold tierOf
    rw [devices]
    split_ifs
    · rfl
    · rfl
  have switchTier : ∀ {name}, (fabric hosts switches).inner name →
      (tierOf search.devices name = 1 ∧ HostLinked hosts switches name) ∨
        (tierOf search.devices name = -1 ∧ ¬ HostLinked hosts switches name) := by
    intro name isSwitch
    rw [tiers]
    by_cases seeded : HostLinked hosts switches name
    · exact .inl ⟨if_pos seeded, seeded⟩
    · refine .inr ⟨?_, seeded⟩
      rw [if_neg seeded]
      exact tierOf_input_switch runtime hosts switches isSwitch
  have queuedTier : ∀ name ∈ search.queue, tierOf search.devices name = 1 := by
    intro name member
    rw [tiers, if_pos ((members name).1 member)]
  refine
    { vertices := vertices
      entry := ?_
      host := ?_
      switch := ?_
      one := ?_
      descend := ?_
      queued := ?_
      sorted := ?_
      near := ?_
      done := ?_ }
  · intro name
    unfold tierOf
    rw [devices]
    split_ifs
    · rfl
    · rfl
  · intro name isHost
    rw [tiers, if_neg fun both =>
      (fabric hosts switches).disjoint isHost both.1]
    exact tierOf_input_host runtime hosts switches isHost
  · intro name isSwitch
    rcases switchTier isSwitch with ⟨tier, _⟩ | ⟨tier, _⟩
    · exact .inr (by omega)
    · exact .inl tier
  · intro name isSwitch
    rcases switchTier isSwitch with ⟨tier, seeded⟩ | ⟨tier, notSeeded⟩
    · exact iff_of_true tier seeded.2
    · rw [tier]
      exact iff_of_false (by decide) fun linked => notSeeded ⟨isSwitch, linked⟩
  · intro name isSwitch high
    rcases switchTier isSwitch with ⟨tier, _⟩ | ⟨tier, _⟩
    · omega
    · omega
  · intro name member
    have tier := queuedTier name member
    exact ⟨((members name).1 member).1, by omega⟩
  · refine List.Pairwise.imp_of_mem ?_ (List.pairwise_of_forall
      (fun (_ _ : String) => True.intro))
    intro left right leftMember rightMember _
    rw [queuedTier left leftMember, queuedTier right rightMember]
  · intro name member other isSwitch
    have tier := queuedTier name member
    rcases switchTier isSwitch with ⟨otherTier, _⟩ | ⟨otherTier, _⟩
    · omega
    · omega
  · intro name other isSwitch tiered notQueued
    refine absurd ?_ notQueued
    rw [members]
    rcases switchTier isSwitch with ⟨_, seeded⟩ | ⟨tier, _⟩
    · exact seeded
    · omega

lemma tierStep_spec (invariant : TierInvariant runtime hosts switches search)
    (stepped : tierStep runtime (buildTopologyGraph runtime hosts switches).adj search =
      some next) :
    ∃ current rest found, search.queue = current :: rest ∧ next.queue = rest ++ found ∧
        found.Nodup ∧
        (∀ name, name ∈ found ↔ Linked hosts switches current name ∧
          (fabric hosts switches).inner name ∧
          tierOf search.devices name = -1) ∧
        (∀ name, name ∈ next.devices ↔ name ∈ search.devices) ∧
        (∀ name ∈ found, next.devices.getD name .zero =
          { search.devices.getD name .zero with tier := tierOf search.devices current + 1 }) ∧
        ∀ name, name ∉ found → next.devices.getD name .zero = search.devices.getD name .zero := by
  obtain ⟨_, _, edges, _⟩ := buildTopologyGraph_spec runtime hosts switches
  unfold tierStep at stepped
  cases split : search.queue with
  | nil => simp [split] at stepped
  | cons current rest =>
    rw [split, Option.some.injEq] at stepped
    rw [visitTierNeighbor_eq] at stepped
    obtain ⟨queue, devices, vertices⟩ := foldl_raiseTier untiered_picks
      (fun devices name other different _ =>
        untiered_stable _ devices name other different)
      (sortedBoolKeys runtime ["InferTiers", current]
        ((buildTopologyGraph runtime hosts switches).adj.getD current ∅))
      (sortedBoolKeys_nodup runtime _ _)
      { search with queue := rest }
    rw [stepped] at queue devices vertices
    have linked : ∀ name, name ∈ sortedBoolKeys runtime ["InferTiers", current]
          ((buildTopologyGraph runtime hosts switches).adj.getD current ∅) ↔
          Linked hosts switches current name := by
      intro name
      rw [mem_sortedBoolKeys]
      exact edges current name
    have members : ∀ name, name ∈ (sortedBoolKeys runtime ["InferTiers", current]
          ((buildTopologyGraph runtime hosts switches).adj.getD
            current ∅)).filter (untiered search.devices) ↔
          Linked hosts switches current name ∧ (fabric hosts switches).inner name ∧
            tierOf search.devices name = -1 := by
      intro name
      rw [List.mem_filter, linked, invariant.untiered_iff]
    refine ⟨current, rest, _, rfl, queue,
      (sortedBoolKeys_nodup runtime _ _).filter _, members, vertices,
      ?_, ?_⟩
    · intro name member
      rw [devices, if_pos (List.mem_filter.1 member)]
      rfl
    · intro name absent
      rw [devices, if_neg fun both => absent (List.mem_filter.2 both)]

lemma TierInvariant.step (invariant : TierInvariant runtime hosts switches search)
    (stepped : tierStep runtime (buildTopologyGraph runtime hosts switches).adj search =
      some next) :
    TierInvariant runtime hosts switches next := by
  obtain ⟨current, rest, found, split, queue, _, members, vertices,
    raised, kept⟩ := tierStep_spec invariant stepped
  have currentQueued := invariant.queued current (by simp [split])
  have currentNear := invariant.near current (by simp [split])
  have restQueued : ∀ name ∈ rest, name ∈ search.queue := by
    intro name member
    rw [split]
    exact .tail _ member
  have order : (∀ name ∈ rest, tierOf search.devices current ≤ tierOf search.devices name) ∧
      rest.Pairwise fun left right =>
        tierOf search.devices left ≤ tierOf search.devices right := by
    have sorted := invariant.sorted
    rw [split, List.pairwise_cons] at sorted
    exact sorted
  have raisedTier : ∀ name ∈ found, tierOf next.devices name =
      tierOf search.devices current + 1 := by
    intro name member
    unfold tierOf
    rw [raised name member]
    rfl
  have keptTier : ∀ name, name ∉ found → tierOf next.devices name = tierOf search.devices name := by
    intro name absent
    unfold tierOf
    rw [kept name absent]
  have assignedTier : ∀ name, 1 ≤ tierOf search.devices name →
      tierOf next.devices name = tierOf search.devices name := by
    intro name assigned
    refine keptTier name fun member => ?_
    have unassigned := ((members name).1 member).2.2
    omega
  refine
    { vertices := fun name => (vertices name).trans (invariant.vertices name)
      entry := ?_
      host := ?_
      switch := ?_
      one := ?_
      descend := ?_
      queued := ?_
      sorted := ?_
      near := ?_
      done := ?_ }
  · intro name
    have entry := invariant.entry name
    by_cases member : name ∈ found
    · rw [raisedTier name member, raised name member, entry]
    · rw [keptTier name member, kept name member]
      exact entry
  · intro name isHost
    rw [keptTier name fun member => (fabric hosts switches).disjoint isHost
      ((members name).1 member).2.1]
    exact invariant.host isHost
  · intro name isSwitch
    by_cases member : name ∈ found
    · exact .inr (by rw [raisedTier name member]; omega)
    · rw [keptTier name member]
      exact invariant.switch isSwitch
  · intro name isSwitch
    rw [← invariant.one isSwitch]
    by_cases member : name ∈ found
    · have unassigned := ((members name).1 member).2.2
      rw [raisedTier name member]
      omega
    · rw [keptTier name member]
  · intro name isSwitch high
    by_cases member : name ∈ found
    · refine ⟨current, ((members name).1 member).1.symm,
        currentQueued.1, ?_⟩
      rw [raisedTier name member, assignedTier current currentQueued.2]
      omega
    · rw [keptTier name member] at high ⊢
      obtain ⟨other, linked, otherSwitch, below⟩ := invariant.descend isSwitch high
      refine ⟨other, linked, otherSwitch, ?_⟩
      rw [assignedTier other (by omega), below]
  · intro name member
    rw [queue, List.mem_append] at member
    rcases member with old | new
    · obtain ⟨isSwitch, assigned⟩ := invariant.queued name (restQueued name old)
      exact ⟨isSwitch, by rw [assignedTier name assigned]; exact assigned⟩
    · exact ⟨((members name).1 new).2.1,
        by rw [raisedTier name new]; omega⟩
  · rw [queue, List.pairwise_append]
    refine ⟨order.2.imp_of_mem ?_, List.pairwise_of_forall_mem_list ?_, ?_⟩
    · intro left right leftMember rightMember le
      rwa [assignedTier left (invariant.queued left (restQueued left leftMember)).2,
        assignedTier right
          (invariant.queued right (restQueued right rightMember)).2]
    · intro left leftMember right rightMember
      rw [raisedTier left leftMember, raisedTier right rightMember]
    · intro left leftMember right rightMember
      have leftQueued := invariant.queued left (restQueued left leftMember)
      rw [assignedTier left leftQueued.2, raisedTier right rightMember]
      exact currentNear left leftQueued.1
  · intro name member other otherSwitch
    have bound : tierOf next.devices other ≤ tierOf search.devices current + 1 := by
      by_cases otherFound : other ∈ found
      · rw [raisedTier other otherFound]
      · rw [keptTier other otherFound]
        exact currentNear other otherSwitch
    rw [queue, List.mem_append] at member
    rcases member with old | new
    · rw [assignedTier name
        (invariant.queued name (restQueued name old)).2]
      have above := order.1 name old
      omega
    · rw [raisedTier name new]
      omega
  · intro name other isSwitch assigned notQueued otherSwitch linked
    rw [queue, List.mem_append, not_or] at notQueued
    rw [keptTier name notQueued.2] at assigned ⊢
    by_cases isCurrent : name = current
    · subst isCurrent
      by_cases otherFound : other ∈ found
      · rw [raisedTier other otherFound]
        omega
      · rw [keptTier other otherFound]
        refine ⟨?_, currentNear other otherSwitch⟩
        rcases invariant.switch otherSwitch with unassigned | positive
        · exact absurd
            ((members other).2 ⟨linked, otherSwitch, unassigned⟩)
            otherFound
        · exact positive
    · have settled := invariant.done isSwitch assigned
        (by rw [split, List.mem_cons, not_or]
            exact ⟨isCurrent, notQueued.1⟩)
        otherSwitch linked
      rw [assignedTier other settled.1]
      exact settled

variable (runtime hosts switches)

lemma tierSearch_stops :
    let graph := buildTopologyGraph runtime hosts switches
    let seeded := seedTiers runtime graph
    tierStep runtime graph.adj (runLoop (tierStep runtime graph.adj)
      (seeded.queue.length + graph.devices.size + 1) seeded) = none := by
  intro graph seeded
  refine runLoop_stops (TierInvariant runtime hosts switches) (fun search => search.queue.length +
      (graph.devices.keys.filter (untiered search.devices)).length)
    (fun search next invariant stepped => invariant.step stepped)
    ?_ _ _ tierInvariant_seedTiers ?_
  · intro search next invariant stepped
    obtain ⟨current, rest, found, split, queue, distinct, members, _,
      _, kept⟩ := tierStep_spec invariant stepped
    have after := invariant.step stepped
    have fewer : found.length + (graph.devices.keys.filter (untiered next.devices)).length ≤
        (graph.devices.keys.filter (untiered search.devices)).length := by
      rw [← List.length_append]
      refine List.Subperm.length_le (List.subperm_of_subset ?_ ?_)
      · refine List.Nodup.append distinct
          ((keys_nodup _).filter _) ?_
        intro name foundName stillUntiered
        have assigned := (after.queued name
          (by rw [queue]; exact List.mem_append_right _ foundName)).2
        have untieredName := (after.untiered_iff name).1 (List.mem_filter.1 stillUntiered).2
        omega
      · intro name member
        rw [List.mem_append] at member
        rw [List.mem_filter]
        rcases member with foundName | stillUntiered
        · have picked := (invariant.untiered_iff name).2
            ((members name).1 foundName).2
          refine ⟨?_, picked⟩
          rw [Std.ExtTreeMap.mem_keys, ← invariant.vertices]
          exact untiered_picks _ _ picked
        · have listed := List.mem_filter.1 stillUntiered
          have untieredName := (after.untiered_iff name).1 listed.2
          refine ⟨listed.1, (invariant.untiered_iff name).2 ⟨untieredName.1, ?_⟩⟩
          rcases invariant.switch untieredName.1 with same | positive
          · exact same
          · refine absurd untieredName.2 ?_
            unfold tierOf at positive ⊢
            rw [kept name fun foundName => by
              have unassigned := ((members name).1 foundName).2.2
              unfold tierOf at unassigned
              omega]
            omega
    rw [queue, split, List.length_append, List.length_cons]
    omega
  · have bound := List.length_filter_le (untiered seeded.devices) graph.devices.keys
    rw [Std.ExtTreeMap.length_keys] at bound
    omega

/-- After the search the invariant holds and nothing is queued. -/
lemma inferTiers_invariant : TierInvariant runtime hosts switches
      { devices := (inferTiers runtime
          (buildTopologyGraph runtime hosts switches)).devices
        queue := [] } := by
  let graph := buildTopologyGraph runtime hosts switches
  let seeded := seedTiers runtime graph
  have invariant := runLoop_invariant (TierInvariant runtime hosts switches)
    (fun search next invariant stepped => invariant.step stepped)
    (seeded.queue.length + graph.devices.size + 1) seeded tierInvariant_seedTiers
  have empty : (runLoop (tierStep runtime graph.adj)
      (seeded.queue.length + graph.devices.size + 1) seeded).queue = [] := by
    have stopped : tierStep runtime graph.adj _ = none := tierSearch_stops runtime hosts switches
    unfold tierStep at stopped
    split at stopped
    · assumption
    · simp at stopped
  rw [← empty]
  exact invariant

variable {runtime hosts switches}

/-- A tier read as a level; a negative tier is none. -/
def levelOfTier (tier : Int) : Option Nat := if tier < 0 then none else some tier.toNat

lemma levelOfTier_eq_some_iff (tier : Int) (level : Nat) :
    levelOfTier tier = some level ↔ tier = level := by
  unfold levelOfTier
  split_ifs with negative
  · simp only [false_iff]
    omega
  · rw [Option.some.injEq]
    omega

lemma TierInvariant.localDistance
    (invariant : TierInvariant runtime hosts switches { devices := devices, queue := [] }) :
    (fabric hosts switches).LocalDistance
      fun name => levelOfTier (tierOf devices name) where
  base isHost := by
    rw [levelOfTier_eq_some_iff]
    exact invariant.host isHost
  inner_ne_zero isSwitch := by
    rw [Ne, levelOfTier_eq_some_iff]
    have tier := invariant.switch isSwitch
    simp only at tier
    omega
  one isSwitch := by
    rw [levelOfTier_eq_some_iff]
    exact invariant.one isSwitch
  descend isSwitch labelled := by
    rw [levelOfTier_eq_some_iff] at labelled
    obtain ⟨other, linked, otherSwitch, below⟩ := invariant.descend isSwitch (by simp only; omega)
    refine ⟨other, linked, otherSwitch, ?_⟩
    simp only at below
    rw [levelOfTier_eq_some_iff]
    omega
  spread isSwitch labelled otherSwitch linked := by
    rw [levelOfTier_eq_some_iff] at labelled
    have tier := invariant.switch isSwitch
    simp only at tier
    have settled := invariant.done isSwitch (by simp only; omega) (by simp) otherSwitch linked
    simp only at settled
    refine ⟨_, if_neg (by omega), ?_⟩
    omega

end

/-! ## The inferred tiers -/

section

variable (runtime : Runtime) (hosts : List Host) (switches : List Switch)

lemma known_iff_base_or_inner (name : String) : Known hosts switches name ↔
      (fabric hosts switches).base name ∨ (fabric hosts switches).inner name := by
  unfold Known fabric
  by_cases isSwitch : name ∈ switchNames switches
  · simp [isSwitch]
  · simp [isSwitch]

lemma inferTiers_getElem? (name : String) : (inferTiers runtime
        (buildTopologyGraph runtime hosts switches)).devices[name]? =
      (inputDevice hosts switches name).map fun device =>
        { device with
          tier := tierOf (inferTiers runtime
            (buildTopologyGraph runtime hosts switches)).devices name } := by
  have invariant := inferTiers_invariant runtime hosts switches
  have found := (buildTopologyGraph_spec runtime hosts switches).1 name
  have entry := invariant.entry name
  have present := invariant.vertices name
  simp only [GoMap.mem_iff, GoMap.getD_eq, found] at entry present
  cases input : inputDevice hosts switches name with
  | none =>
    rw [input] at present
    simp only [reduceCtorEq, exists_false, iff_false] at present
    rw [Option.map_none, GoMap.getElem?_eq_none_iff, GoMap.mem_iff]
    exact present
  | some device =>
    rw [input] at present entry
    obtain ⟨tiered, lookup⟩ := present.2 ⟨device, rfl⟩
    rw [lookup, Option.getD_some, Option.getD_some] at entry
    rw [lookup, entry, Option.map_some]

lemma tierOf_inferTiers_iff (known : Known hosts switches name) (level : Nat) :
    tierOf (inferTiers runtime (buildTopologyGraph runtime hosts switches)).devices name = level ↔
      (fabric hosts switches).Level level name := by
  have distance := (inferTiers_invariant runtime hosts switches).localDistance
  rw [← distance.label_eq_iff ((known_iff_base_or_inner hosts switches name).1 known),
    levelOfTier_eq_some_iff]

lemma tierOf_inferTiers_eq_neg_one_iff (known : Known hosts switches name) :
    tierOf (inferTiers runtime (buildTopologyGraph runtime hosts switches)).devices name = -1 ↔
      ¬ ∃ level, (fabric hosts switches).Level level name := by
  have invariant := inferTiers_invariant runtime hosts switches
  simp only [← tierOf_inferTiers_iff runtime hosts switches known, not_exists]
  rcases (known_iff_base_or_inner hosts switches name).1 known with isHost | isSwitch
  · have tier := invariant.host isHost
    simp only at tier
    rw [tier]
    simp only [Int.reduceNeg, reduceCtorEq, false_iff, not_forall, not_not]
    exact ⟨0, rfl⟩
  · have tier := invariant.switch isSwitch
    simp only at tier
    constructor
    · intro negative level
      omega
    · intro noLevel
      have missing := noLevel (tierOf (inferTiers runtime
        (buildTopologyGraph runtime hosts switches)).devices name).toNat
      omega

end

end Unifabric.Discovery
