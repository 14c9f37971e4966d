import Unifabric.TopologyStatus.StatusLoops

/-!
# Labels which describe a forest

The conditions on the labels of a snapshot under which a status exists, without
any order of the objects: the tiers of every Node are complete, every value
stands at one tier and below one value, and all values are valid.  They hold
exactly when the views of the objects pass the loops of the status.
-/

namespace Unifabric.TopologyStatus

open Lib TopologyLabel V1beta1 GoMap List Option

variable {check : String → List String}

variable {level : Nat} {tier : Int} {value : String} {labels : Labels}

/-! ## Conditions on labels -/

section

variable (template : Template) (snapshot : LabelSnapshot)

/-- A Node has the value at the tier. -/
def OnTier (tier : Int) (value : String) : Prop :=
  ∃ node ∈ snapshot.nodes, TierLabel template node.labels tier value

/-- A Node has the value at a tier and another one at the next tier. -/
def NextTier (value next : String) : Prop :=
  ∃ node ∈ snapshot.nodes, ∃ tier, TierLabel template node.labels tier value ∧
      TierLabel template node.labels (tier + 1) next

/-- The Switch of the name is labelled with the domain. -/
def InDomain (switchName value : String) : Prop :=
  ∃ switch ∈ snapshot.switches, switch.name = switchName ∧
    switch.labels[topologyDomainLabel]? = some value ∧ value ≠ ""

/-- The labels have values at the tiers from one to a number, and no other. -/
def CoversTiers (labels : Labels) (count : Nat) : Prop :=
  ∀ tier : Int, (∃ value, TierLabel template labels tier value) ↔ 1 ≤ tier ∧ tier ≤ count

/-- The labels of the Nodes do not conflict. -/
structure ConsistentNodes (isValidLabelValue : String → List String) : Prop where
  tiers : ∀ node ∈ snapshot.nodes, ∃ count, CoversTiers template node.labels count
  valid : ∀ tier value, OnTier template snapshot tier value → isValidLabelValue value = []
  oneTier : ∀ value tier tier', OnTier template snapshot tier value →
    OnTier template snapshot tier' value → tier = tier'
  oneNext : ∀ value next next', NextTier template snapshot value next →
    NextTier template snapshot value next' → next = next'

/-- The labels of the snapshot do not conflict. -/
structure ConsistentLabels (isValidLabelValue : String → List String) : Prop
    extends ConsistentNodes template snapshot isValidLabelValue where
  domains : ∀ switchName value, InDomain snapshot switchName value → isValidLabelValue value = []

/-- No Node has a tier which the API cannot express. -/
def TiersInRange : Prop := ∀ tier value, OnTier template snapshot tier value → tier ≤ maxTier

end

/-! ## The tiers of one Node -/

/-- The keys count from one. -/
def Numbered (values : GoMap Int String) : Prop :=
  ∀ entry ∈ values.keys.zipIdx, entry.1 = (entry.2 : Int) + 1

section

variable {values : GoMap Int String}

lemma Numbered.tier_eq (numbered : Numbered values) (found : values.keys[level]? = some tier) :
    tier = (level : Int) + 1 :=
  numbered (tier, level) (mem_zipIdx_iff_getElem?.2 found)

lemma Numbered.getElem?_keys (numbered : Numbered values) : values.keys[level]? = some tier ↔
      tier = (level : Int) + 1 ∧ tier ∈ values := by
  constructor
  · intro found
    exact ⟨numbered.tier_eq found, Std.ExtTreeMap.mem_keys.1 (mem_of_getElem? found)⟩
  · rintro ⟨isTier, listed⟩
    obtain ⟨other, found⟩ := getElem?_of_mem (Std.ExtTreeMap.mem_keys.2 listed)
    have isOther := numbered.tier_eq found
    have same : other = level := by omega
    rwa [← same]

lemma Numbered.getElem?_tierPath (numbered : Numbered values) :
    (tierPath values)[level]? = some value ↔ values[(level : Int) + 1]? = some value := by
  rw [tierPath, getElem?_map, map_eq_some_iff]
  constructor
  · rintro ⟨tier, found, rfl⟩
    obtain ⟨rfl, listed⟩ := numbered.getElem?_keys.1 found
    obtain ⟨value, lookup⟩ := (mem_iff _ _).1 listed
    rw [getD_eq, lookup, getD_some]
  · intro lookup
    refine ⟨(level : Int) + 1, numbered.getElem?_keys.2 ⟨rfl, ?_⟩, ?_⟩
    · exact (mem_iff _ _).2 ⟨value, lookup⟩
    · rw [getD_eq, lookup, getD_some]

/-- Keys count from one when they are the numbers up to some number. -/
lemma numbered_iff : Numbered values ↔
    ∃ count : Nat, ∀ tier, tier ∈ values ↔ 1 ≤ tier ∧ tier ≤ count := by
  constructor
  · intro numbered
    refine ⟨values.keys.length, fun tier => ⟨fun listed => ?_, ?_⟩⟩
    · obtain ⟨level, found⟩ := List.getElem?_of_mem (Std.ExtTreeMap.mem_keys.2 listed)
      have isTier := (numbered.getElem?_keys.1 found).1
      have inside := (List.getElem?_eq_some_iff.1 found).1
      omega
    · rintro ⟨positive, bounded⟩
      obtain ⟨level, isLevel⟩ := Int.eq_ofNat_of_zero_le (by omega : 0 ≤ tier - 1)
      have found := List.getElem?_eq_getElem (by omega : level < values.keys.length)
      have isTier := numbered.getElem?_keys.1 found
      rw [show tier = (level : Int) + 1 by omega, ← isTier.1]
      exact isTier.2
  · rintro ⟨count, covers⟩
    have keys : values.keys = (List.range count).map fun level : Nat => (level : Int) + 1 := by
      refine List.Perm.eq_of_pairwise (fun _ _ _ _ less more => absurd less (not_lt_of_gt more))
        (GoMap.keys_pairwise values) ?_ ?_
      · rw [List.pairwise_map]
        refine List.pairwise_lt_range.imp fun less => ?_
        omega
      · refine (List.perm_ext_iff_of_nodup (GoMap.keys_nodup values) ?_).2 fun tier => ?_
        · refine List.nodup_range.map fun level level' same => ?_
          omega
        · rw [Std.ExtTreeMap.mem_keys, covers]
          simp only [List.mem_map, List.mem_range]
          constructor
          · rintro ⟨positive, bounded⟩
            exact ⟨(tier - 1).toNat, by omega, by omega⟩
          · rintro ⟨level, inside, rfl⟩
            omega
    rintro ⟨tier, level⟩ listed
    have found := List.mem_zipIdx_iff_getElem?.1 listed
    rw [keys, List.getElem?_map, Option.map_eq_some_iff] at found
    obtain ⟨other, isOther, rfl⟩ := found
    have inside := (List.getElem?_eq_some_iff.1 isOther).2
    rw [List.getElem_range] at inside
    rw [inside]

end

section

variable {template : Template}

lemma validateDomainName_eq_ok : validateDomainName check name = .ok () ↔
      name ≠ "" ∧ check name = [] := by
  unfold validateDomainName
  by_cases empty : name = ""
  · rw [if_pos empty]
    exact ⟨fun failed => (by cases failed), fun both => absurd empty both.1⟩
  · rw [if_neg empty]
    cases check name with
    | nil => exact ⟨fun _ => ⟨empty, rfl⟩, fun _ => rfl⟩
    | cons problem problems =>
      exact ⟨fun failed => (by cases failed), fun both => (by cases both.2)⟩

lemma mem_tierValues : tier ∈ tierValues template labels ↔
      ∃ value, TierLabel template labels tier value := by
  rw [mem_iff]
  exact exists_congr fun value => getElem?_tierValues

lemma numbered_tierValues_iff : Numbered (tierValues template labels) ↔
      ∃ count, CoversTiers template labels count := by
  rw [numbered_iff]
  exact exists_congr fun count => forall_congr' fun tier => by rw [mem_tierValues]

lemma goodTiers_iff : GoodTiers check values values.keys.zipIdx ↔
      Numbered values ∧ ∀ tier value, values[tier]? = some value →
        validateDomainName check value = .ok () ∧ tier ≤ maxTier := by
  constructor
  · intro good
    refine ⟨fun entry listed => (good entry listed).1, ?_⟩
    intro tier value lookup
    have listed := (mem_keys_iff values tier).2 ⟨value, lookup⟩
    obtain ⟨level, found⟩ := getElem?_of_mem listed
    have isGood := good (tier, level) (mem_zipIdx_iff_getElem?.2 found)
    rw [getD_eq, lookup] at isGood
    exact isGood.2
  · rintro ⟨numbered, valid⟩ ⟨tier, level⟩ listed
    have found := mem_zipIdx_iff_getElem?.1 listed
    obtain ⟨value, lookup⟩ := (mem_keys_iff values tier).1 (mem_of_getElem? found)
    refine ⟨numbered _ listed, ?_⟩
    rw [getD_eq, lookup]
    exact valid tier value lookup

lemma TierLabel.one_le (labelled : TierLabel template labels tier value) : 1 ≤ tier :=
  let ⟨_, matched, _⟩ := labelled
  (key_of_matchTier matched).1

end

/-! ## The views of a snapshot -/

/-- The list holds the views of the Nodes. -/
def NodeViews (template : Template) (snapshot : LabelSnapshot)
    (views : List (String × GoMap Int String)) : Prop :=
  ∀ view, view ∈ views ↔ ∃ node ∈ snapshot.nodes, nodeView template node = some view

/-- The list holds the views of the Switches. -/
def SwitchViews (snapshot : LabelSnapshot) (views : List (String × String)) : Prop :=
  ∀ view, view ∈ views ↔ ∃ switch ∈ snapshot.switches, switchView switch = some view

section

variable {template : Template} {snapshot : LabelSnapshot} {views : List (String × GoMap Int String)}
  {switchViews : List (String × String)}

lemma nodeView_eq_some_iff :
    nodeView template node = some view ↔ (∃ tier value, TierLabel template node.labels tier value) ∧
        view = (node.name, tierValues template node.labels) := by
  have empty : (tierValues template node.labels).isEmpty = true ↔
      ¬ ∃ tier value, TierLabel template node.labels tier value := by
    rw [Std.ExtTreeMap.isEmpty_iff, Std.ExtTreeMap.eq_empty_iff_forall_not_mem]
    simp only [mem_tierValues, not_exists]
  unfold nodeView
  split_ifs with isEmpty
  · exact ⟨fun none => (by cases none), fun both => absurd both.1 (empty.1 isEmpty)⟩
  · rw [some_inj, eq_comm, and_iff_right]
    exact not_not.1 (fun none => isEmpty (empty.2 none))

lemma switchView_eq_some_iff : switchView switch = some view ↔ view.1 = switch.name ∧
        switch.labels[topologyDomainLabel]? = some view.2 ∧ view.2 ≠ "" := by
  unfold switchView
  rw [getD_eq]
  cases switch.labels[topologyDomainLabel]? with
  | none => simp
  | some domain =>
    rw [getD_some, some_inj]
    split_ifs with empty
    · refine ⟨fun none => (by cases none), ?_⟩
      rintro ⟨_, same, nonempty⟩
      exact absurd (same.symm.trans empty) nonempty
    · rw [some_inj, Prod.ext_iff]
      constructor
      · rintro ⟨sameName, same⟩
        exact ⟨sameName.symm, same, same ▸ empty⟩
      · rintro ⟨sameName, same, _⟩
        exact ⟨sameName.symm, same⟩

lemma SwitchViews.mem_iff (isViews : SwitchViews snapshot switchViews) :
    (switchName, value) ∈ switchViews ↔ InDomain snapshot switchName value := by
  rw [isViews]
  simp only [switchView_eq_some_iff, InDomain]
  exact exists_congr fun switch => and_congr_right fun _ => and_congr_left fun _ => eq_comm

lemma NodeViews.forall_iff (isViews : NodeViews template snapshot views)
    (good : GoMap Int String → Prop) : (∀ view ∈ views, good view.2) ↔ ∀ node ∈ snapshot.nodes,
      (∃ tier value, TierLabel template node.labels tier value) →
        good (tierValues template node.labels) := by
  constructor
  · intro all node listed labelled
    exact all (node.name, tierValues template node.labels) ((isViews _).2 ⟨node, listed,
      nodeView_eq_some_iff.2 ⟨labelled, rfl⟩⟩)
  · intro all view isView
    obtain ⟨node, listed, seen⟩ := (isViews view).1 isView
    obtain ⟨labelled, rfl⟩ := nodeView_eq_some_iff.1 seen
    exact all node listed labelled

lemma NodeViews.exists_path_iff (isViews : NodeViews template snapshot views)
    {holds : List String → Prop} :
    (∃ path ∈ views.map viewPath, holds path) ↔ ∃ node ∈ snapshot.nodes,
        (∃ tier value, TierLabel template node.labels tier value) ∧
          holds (tierPath (tierValues template node.labels)) := by
  constructor
  · rintro ⟨path, listed, held⟩
    obtain ⟨view, isView, rfl⟩ := mem_map.1 listed
    obtain ⟨node, isNode, seen⟩ := (isViews view).1 isView
    obtain ⟨labelled, rfl⟩ := nodeView_eq_some_iff.1 seen
    exact ⟨node, isNode, labelled, held⟩
  · rintro ⟨node, isNode, labelled, held⟩
    refine ⟨_, mem_map_of_mem ((isViews _).2 ⟨node, isNode,
      nodeView_eq_some_iff.2 ⟨labelled, rfl⟩⟩), held⟩

/-- The tiers of every Node are complete. -/
def CompleteTiers (template : Template) (snapshot : LabelSnapshot) : Prop :=
  ∀ node ∈ snapshot.nodes, ∃ count, CoversTiers template node.labels count

section

variable (complete : CompleteTiers template snapshot)

include complete

lemma CompleteTiers.getElem?_tierPath {node : LabeledResource} (listed : node ∈ snapshot.nodes) :
    (tierPath (tierValues template node.labels))[level]? = some value ↔
      TierLabel template node.labels ((level : Int) + 1) value := by
  have numbered := numbered_tierValues_iff.2 (complete node listed)
  rw [numbered.getElem?_tierPath, getElem?_tierValues]

lemma CompleteTiers.occursAt_iff (isViews : NodeViews template snapshot views) :
    OccursAt (views.map viewPath) value level ↔
      OnTier template snapshot ((level : Int) + 1) value := by
  unfold OccursAt
  rw [isViews.exists_path_iff]
  refine exists_congr fun node => and_congr_right fun listed => ?_
  rw [complete.getElem?_tierPath listed]
  exact and_iff_right_of_imp fun labelled => ⟨_, _, labelled⟩

lemma CompleteTiers.below_iff (isViews : NodeViews template snapshot views) {next : String} :
    Below (views.map viewPath) value next ↔ NextTier template snapshot value next := by
  unfold Below
  rw [isViews.exists_path_iff]
  refine exists_congr fun node => and_congr_right fun listed => ?_
  simp only [complete.getElem?_tierPath listed]
  constructor
  · rintro ⟨_, level, isValue, isNext⟩
    exact ⟨(level : Int) + 1, isValue, by exact_mod_cast isNext⟩
  · rintro ⟨tier, isValue, isNext⟩
    rcases Int.eq_ofNat_of_zero_le (by have := isValue.one_le; omega : 0 ≤ tier - 1) with
      ⟨level, isLevel⟩
    have isTier : tier = (level : Int) + 1 := by omega
    subst isTier
    exact ⟨⟨_, _, isValue⟩, level, isValue, by exact_mod_cast isNext⟩

end

lemma OnTier.exists_level (occurs : OnTier template snapshot tier value) :
    ∃ level : Nat, tier = (level : Int) + 1 := by
  obtain ⟨node, _, labelled⟩ := occurs
  exact ⟨(tier - 1).toNat, by have := labelled.one_le; omega⟩

lemma CompleteTiers.pathForest_iff (complete : CompleteTiers template snapshot)
    (isViews : NodeViews template snapshot views) :
    PathForest (views.map viewPath) ↔ (∀ value tier tier', OnTier template snapshot tier value →
        OnTier template snapshot tier' value → tier = tier') ∧
      ∀ value next next', NextTier template snapshot value next →
        NextTier template snapshot value next' → next = next' := by
  constructor
  · rintro ⟨levels, parents⟩
    refine ⟨fun value tier tier' here there => ?_, fun value next next' here there =>
        parents value next next' ((complete.below_iff isViews).2 here)
          ((complete.below_iff isViews).2 there)⟩
    obtain ⟨level, rfl⟩ := here.exists_level
    obtain ⟨level', rfl⟩ := there.exists_level
    rw [levels value level level' ((complete.occursAt_iff isViews).2 here)
      ((complete.occursAt_iff isViews).2 there)]
  · rintro ⟨oneTier, oneNext⟩
    refine ⟨fun value level level' here there => ?_, fun value next next' here there =>
        oneNext value next next' ((complete.below_iff isViews).1 here)
          ((complete.below_iff isViews).1 there)⟩
    have same := oneTier value _ _ ((complete.occursAt_iff isViews).1 here)
      ((complete.occursAt_iff isViews).1 there)
    omega

/-- The views are good when the Nodes are consistent and in range. -/
lemma goodViews_iff (isViews : NodeViews template snapshot views) :
    GoodViews check views ↔ ConsistentNodes template snapshot check ∧
        TiersInRange template snapshot := by
  have tiers : (∀ view ∈ views, GoodTiers check view.2
      view.2.keys.zipIdx) ↔ CompleteTiers template snapshot ∧
        (∀ tier value, OnTier template snapshot tier value → check value = []) ∧
        TiersInRange template snapshot := by
    rw [isViews.forall_iff fun values =>
      GoodTiers check values values.keys.zipIdx]
    simp only [goodTiers_iff, getElem?_tierValues, validateDomainName_eq_ok,
      numbered_tierValues_iff]
    constructor
    · intro all
      refine ⟨fun node listed => ?_, ?_, ?_⟩
      · by_cases labelled : ∃ tier value, TierLabel template node.labels tier value
        · exact (all node listed labelled).1
        · refine ⟨0, fun tier => ⟨fun some => absurd ⟨tier, some⟩ labelled, fun none => ?_⟩⟩
          omega
      · rintro tier value ⟨node, listed, labelled⟩
        exact ((all node listed ⟨tier, value, labelled⟩).2 tier value labelled).1.2
      · rintro tier value ⟨node, listed, labelled⟩
        exact ((all node listed ⟨tier, value, labelled⟩).2 tier value labelled).2
    · rintro ⟨complete, valid, range⟩ node listed _
      refine ⟨complete node listed, fun tier value labelled => ?_⟩
      have occurs : OnTier template snapshot tier value := ⟨node, listed, labelled⟩
      obtain ⟨_, _, _, nonempty⟩ := labelled
      exact ⟨⟨nonempty, valid tier value occurs⟩, range tier value occurs⟩
  constructor
  · rintro ⟨good, forest⟩
    obtain ⟨complete, valid, range⟩ := tiers.1 good
    obtain ⟨oneTier, oneNext⟩ := (complete.pathForest_iff isViews).1 forest
    exact ⟨⟨complete, valid, oneTier, oneNext⟩, range⟩
  · rintro ⟨⟨complete, valid, oneTier, oneNext⟩, range⟩
    exact ⟨tiers.2 ⟨complete, valid, range⟩, (CompleteTiers.pathForest_iff complete isViews).2
      ⟨oneTier, oneNext⟩⟩

lemma goodMembers_iff (isViews : SwitchViews snapshot switchViews) : GoodMembers check switchViews ↔
      ∀ switchName value, InDomain snapshot switchName value → check value = [] := by
  constructor
  · intro all switchName value isDomain
    exact (validateDomainName_eq_ok.1 (all _ (isViews.mem_iff.2 isDomain))).2
  · rintro all ⟨switchName, value⟩ listed
    have isDomain := isViews.mem_iff.1 listed
    refine validateDomainName_eq_ok.2 ⟨?_, all _ _ isDomain⟩
    obtain ⟨switch, _, _, _, nonempty⟩ := isDomain
    exact nonempty

end

end Unifabric.TopologyStatus
