import Unifabric.Lib.PathForest
import Unifabric.TopologyStatus.Build

/-!
# Labels and domains

Which tiers `labelsByTier` finds, and what the operations on the table of
domains do to the relations the table stands for: the levels of the values,
the values above them, and the members.
-/

namespace Unifabric.TopologyStatus

open Lib TopologyLabel V1beta1 GoMap List

variable {key value : String} {level : Nat}

/-! ## Labels of a tier -/

/-- A label which matches a tier has a value. -/
def TierLabel (template : Template) (labels : Labels) (tier : Int) (value : String) : Prop :=
  ∃ key, template.matchTier key = some tier ∧ labels[key]? = some value ∧ value ≠ ""

section

variable {runtime : Runtime} {site : List String} {template : Template} {labels : Labels}

lemma eq_of_matchTier (here : template.matchTier key = some tier)
    (there : template.matchTier key' = some tier) : key = key' := by
  rw [← (key_of_matchTier here).2.2, (key_of_matchTier there).2.2]

/-- What a key contributes to the tiers. -/
def KeyValue (template : Template) (labels : Labels) (key : String)
    (tier : Int) (value : String) : Prop :=
  template.matchTier key = some tier ∧ labels.getD key "" = value ∧ value ≠ ""

lemma keyValue_iff : KeyValue template labels key tier value ↔
      template.matchTier key = some tier ∧ labels[key]? = some value ∧ value ≠ "" := by
  unfold KeyValue
  rw [getD_eq]
  cases labels[key]? with
  | none =>
    constructor
    · rintro ⟨_, rfl, nonempty⟩
      exact absurd rfl nonempty
    · rintro ⟨_, none, _⟩
      cases none
  | some text => simp

lemma addTierLabel_spec (fresh : key ∉ done)
    (reached : ∀ tier value, result[tier]? = some value ↔ ∃ other ∈ done,
      KeyValue template labels other tier value) :
    ∃ next, addTierLabel template labels result key = .ok next ∧
      ∀ tier value, next[tier]? = some value ↔ ∃ other ∈ done ++ [key],
          KeyValue template labels other tier value := by
  have split : ∀ tier value, (∃ other ∈ done ++ [key], KeyValue template labels other tier value) ↔
        result[tier]? = some value ∨ KeyValue template labels key tier value := by
    intro tier value
    rw [reached]
    simp only [List.mem_append, List.mem_singleton, or_and_right, exists_or, exists_eq_left]
  unfold addTierLabel
  cases matched : template.matchTier key with
  | none =>
    refine ⟨result, rfl, fun tier value => ?_⟩
    rw [split, or_iff_left]
    rintro ⟨isTier, _⟩
    rw [matched] at isTier
    cases isTier
  | some tier =>
    dsimp only
    by_cases empty : labels.getD key "" = ""
    · rw [if_pos empty]
      refine ⟨result, rfl, fun other value => ?_⟩
      rw [split, or_iff_left]
      rintro ⟨_, same, nonempty⟩
      exact nonempty (same.symm.trans empty)
    · rw [if_neg empty]
      have unset : result[tier]? = none := by
        cases lookup : result[tier]? with
        | none => rfl
        | some value =>
          obtain ⟨other, listed, isTier, _⟩ := (reached tier value).1 lookup
          rw [eq_of_matchTier isTier matched] at listed
          exact absurd listed fresh
      rw [unset]
      refine ⟨_, rfl, fun other value => ?_⟩
      rw [split, GoMap.getElem?_insert]
      by_cases same : tier = other
      · subst same
        rw [if_pos rfl, unset]
        constructor
        · intro equal
          exact .inr ⟨matched, Option.some_inj.1 equal, Option.some_inj.1 equal ▸ empty⟩
        · rintro (none | ⟨_, equal, _⟩)
          · cases none
          · rw [equal]
      · rw [if_neg same, or_iff_left]
        rintro ⟨isTier, _⟩
        rw [matched] at isTier
        exact same (Option.some_inj.1 isTier)

/-- `labelsByTier` never fails and finds the labels of every tier. -/
lemma labelsByTier_spec (runtime : Runtime) (site : List String)
    (template : Template) (labels : Labels) :
    ∃ values, labelsByTier runtime site template labels = .ok values ∧
      ∀ tier value, values[tier]? = some value ↔ TierLabel template labels tier value := by
  have folded : ∃ values, labels.keys.foldlM (addTierLabel template labels) ∅ = .ok values ∧
        ∀ tier value, values[tier]? = some value ↔ ∃ key ∈ labels.keys,
            KeyValue template labels key tier value := by
    refine foldlM_succeeds (fun done (result : GoMap Int String) => ∀ tier value,
        result[tier]? = some value ↔ ∃ key ∈ done,
          KeyValue template labels key tier value) (by simp) ?_
    intro done key rest result split reached
    refine addTierLabel_spec (fun listed => ?_) reached
    have distinct := keys_nodup labels
    rw [split, nodup_append] at distinct
    exact distinct.2.2 key listed key mem_cons_self rfl
  obtain ⟨values, succeeded, spec⟩ := folded
  refine ⟨values, ?_, fun tier value => ?_⟩
  · unfold labelsByTier
    rw [runtime.sort_range_keys]
    exact succeeded
  · rw [spec]
    simp only [keyValue_iff]
    constructor
    · rintro ⟨key, _, found⟩
      exact ⟨key, found⟩
    · rintro ⟨key, found⟩
      exact ⟨key, (mem_keys_iff _ _).2 ⟨value, found.2.1⟩, found⟩

end

/-! ## What a table of domains stands for -/

/-- The relations which a table of domains represents. -/
structure DomainRelations where
  occurs : String → Nat → Prop
  below : String → String → Prop
  member : String → String → Prop

/-- The table represents the relations. -/
structure DomainsMatch (relations : DomainRelations) (domains : Domains) :
    Prop where
  listed : ∀ value, value ∈ domains ↔ ∃ level, relations.occurs value level
  domain : ∀ value state, domains[value]? = some state → ∃ level, relations.occurs value level ∧
      state.domain = ⟨value, (level : Int) + 1, "", []⟩
  parent : ∀ value state, domains[value]? = some state →
    ∀ name, name ∈ state.parents ↔ relations.below value name
  member : ∀ value state, domains[value]? = some state →
    ∀ name, name ∈ state.members ↔ relations.member value name

/-- Values without a level are related to nothing. -/
structure DomainRelations.Grounded (relations : DomainRelations) : Prop where
  below : ∀ value name, relations.below value name → ∃ level, relations.occurs value level
  member : ∀ value name, relations.member value name → ∃ level, relations.occurs value level
  unique : ∀ value level level', relations.occurs value level →
    relations.occurs value level' → level = level'

section

variable {relations : DomainRelations} {domains : Domains}

/-- The relations with one more level of a value. -/
def DomainRelations.addLevel (relations : DomainRelations) (value : String)
    (level : Nat) : DomainRelations :=
  { relations with
    occurs := fun other otherLevel =>
      relations.occurs other otherLevel ∨ (other = value ∧ otherLevel = level) }

/-- The relations with one more value above another. -/
def DomainRelations.addBelow (relations : DomainRelations)
    (child parent : String) : DomainRelations :=
  { relations with
    below := fun other name =>
      relations.below other name ∨ (other = child ∧ name = parent) }

lemma ensureDomain_ok (matched : DomainsMatch relations domains)
    (grounded : relations.Grounded) (range : (level : Int) + 1 ≤ maxTier)
    (same : ∀ other, relations.occurs value other → other = level) :
    ∃ ensured, ensureDomain domains value ((level : Int) + 1) = .ok ensured ∧
        DomainsMatch (relations.addLevel value level) ensured := by
  unfold ensureDomain
  rw [if_neg (by omega)]
  cases found : domains[value]? with
  | some existing =>
    obtain ⟨other, occurs, domain⟩ := matched.domain value existing found
    have tier : existing.domain.tier = (level : Int) + 1 := by rw [domain, same other occurs]
    have occursHere : relations.occurs value level := same other occurs ▸ occurs
    dsimp only
    rw [if_neg (not_not.2 tier)]
    have unchanged : relations.addLevel value level = relations := by
      unfold DomainRelations.addLevel
      have equal : (fun other otherLevel =>
          relations.occurs other otherLevel ∨ (other = value ∧ otherLevel = level)) =
          relations.occurs := by
        funext other otherLevel
        refine propext (or_iff_left_of_imp ?_)
        rintro ⟨rfl, rfl⟩
        exact occursHere
      rw [equal]
    exact ⟨domains, rfl, by rw [unchanged]; exact matched⟩
  | none =>
    have missing : ∀ other, ¬ relations.occurs value other := by
      intro other occurs
      exact (GoMap.getElem?_eq_none_iff _ _).1 found ((matched.listed value).2 ⟨other, occurs⟩)
    refine ⟨_, rfl, ?_, ?_, ?_, ?_⟩
    · intro other
      rw [GoMap.mem_insert, matched.listed]
      simp only [DomainRelations.addLevel, exists_or, exists_and_left, exists_eq, and_true]
      rw [or_comm]
    · intro other state lookup
      rw [GoMap.getElem?_insert] at lookup
      split_ifs at lookup with equal
      · cases lookup
        exact ⟨level, .inr ⟨equal.symm, rfl⟩, by rw [equal]⟩
      · obtain ⟨otherLevel, occurs, domain⟩ := matched.domain other state lookup
        exact ⟨otherLevel, .inl occurs, domain⟩
    · intro other state lookup name
      rw [GoMap.getElem?_insert] at lookup
      split_ifs at lookup with equal
      · cases lookup
        subst equal
        constructor
        · intro listed
          simp at listed
        · intro below
          obtain ⟨there, occurs⟩ := grounded.below value name below
          exact absurd occurs (missing there)
      · exact matched.parent other state lookup name
    · intro other state lookup name
      rw [GoMap.getElem?_insert] at lookup
      split_ifs at lookup with equal
      · cases lookup
        subst equal
        constructor
        · intro listed
          simp at listed
        · intro member
          obtain ⟨there, occurs⟩ := grounded.member value name member
          exact absurd occurs (missing there)
      · exact matched.member other state lookup name

/-- `ensureDomain` fails for a tier out of range or a second tier. -/
lemma ensureDomain_error (matched : DomainsMatch relations domains) (grounded : relations.Grounded)
    (bad : ¬ ((level : Int) + 1 ≤ maxTier ∧
      ∀ other, relations.occurs value other → other = level)) :
    ∃ failure, ensureDomain domains value ((level : Int) + 1) = .error failure := by
  unfold ensureDomain
  split_ifs with range
  · exact ⟨_, rfl⟩
  · have second : ∃ other, relations.occurs value other ∧ other ≠ level := by
      by_contra none
      refine bad ⟨by omega, fun other occurs => ?_⟩
      by_contra differs
      exact none ⟨other, occurs, differs⟩
    obtain ⟨other, occurs, differs⟩ := second
    rcases (mem_iff _ _).1 ((matched.listed value).2 ⟨other, occurs⟩) with ⟨existing, found⟩
    obtain ⟨there, occursThere, domain⟩ := matched.domain value existing found
    have sameLevel := grounded.unique value other there occurs occursThere
    have tier : existing.domain.tier ≠ (level : Int) + 1 := by
      rw [domain]
      show (there : Int) + 1 ≠ (level : Int) + 1
      omega
    rw [found]
    dsimp only
    rw [if_pos tier]
    exact ⟨_, rfl⟩

/-- A set with a member is larger than one when it has another member. -/
lemma size_gt_one_iff {set : NameSet} (listed : name ∈ set) :
    set.size > 1 ↔ ∃ other ∈ set, other ≠ name := by
  have distinct := keys_nodup set
  have member : ∀ other, other ∈ set ↔ other ∈ set.keys := fun other => Std.ExtTreeMap.mem_keys.symm
  rw [member] at listed
  simp only [member]
  rw [← Std.ExtTreeMap.length_keys]
  constructor
  · intro longer
    by_contra none
    have all : ∀ other ∈ set.keys, other = name := by
      intro other inside
      by_contra differs
      exact none ⟨other, inside, differs⟩
    have short := eq_replicate_iff.2 ⟨rfl, all⟩
    rw [short] at distinct
    have := nodup_replicate.1 distinct
    omega
  · rintro ⟨other, inside, differs⟩
    by_contra short
    have one : set.keys.length = 1 := by
      have positive := length_pos_of_mem listed
      omega
    obtain ⟨only, keys⟩ := length_eq_one_iff.1 one
    rw [keys, mem_singleton] at inside listed
    exact differs (inside.trans listed.symm)

lemma DomainsMatch.update (matched : DomainsMatch relations domains)
    (found : domains[value]? = some state) (sameDomain : state'.domain = state.domain)
    (sameLevels : relations'.occurs = relations.occurs)
    (parents : ∀ name, name ∈ state'.parents ↔ relations'.below value name)
    (members : ∀ name, name ∈ state'.members ↔ relations'.member value name)
    (otherParents : ∀ other, other ≠ value → ∀ name, relations'.below other
      name ↔ relations.below other name)
    (otherMembers : ∀ other, other ≠ value → ∀ name, relations'.member other
      name ↔ relations.member other name) :
    DomainsMatch relations' (domains.insert value state') := by
  have isListed := (GoMap.mem_iff _ _).2 ⟨state, found⟩
  refine ⟨?_, ?_, ?_, ?_⟩
  · intro other
    rw [GoMap.mem_insert, sameLevels, ← matched.listed]
    exact or_iff_right_of_imp fun same => same ▸ isListed
  · intro other entry lookup
    rw [GoMap.getElem?_insert] at lookup
    split_ifs at lookup with same
    · cases lookup
      rw [sameDomain, sameLevels]
      exact matched.domain other state (same ▸ found)
    · rw [sameLevels]
      exact matched.domain other entry lookup
  · intro other entry lookup name
    rw [GoMap.getElem?_insert] at lookup
    split_ifs at lookup with same
    · cases lookup
      rw [← same]
      exact parents name
    · rw [otherParents other (Ne.symm same)]
      exact matched.parent other entry lookup name
  · intro other entry lookup name
    rw [GoMap.getElem?_insert] at lookup
    split_ifs at lookup with same
    · cases lookup
      rw [← same]
      exact members name
    · rw [otherMembers other (Ne.symm same)]
      exact matched.member other entry lookup name

lemma addParent_spec {tier : Nat} (matched : DomainsMatch relations domains)
    (isChild : valuesByTier[(tier : Int)]? = some child)
    (isParent : valuesByTier[(tier : Int) + 1]? = some parent)
    (occurs : relations.occurs child level) :
    ((∀ name, relations.below child name → name = parent) → ∃ linked,
          addParent runtime nodeName valuesByTier domains tier = .ok linked ∧
            DomainsMatch (relations.addBelow child parent) linked) ∧
      ((¬ ∀ name, relations.below child name → name = parent) →
        ∃ failure, addParent runtime nodeName valuesByTier domains tier = .error failure) := by
  obtain ⟨state, found⟩ := (mem_iff _ _).1 ((matched.listed child).2 ⟨level, occurs⟩)
  have larger : (state.parents.insert parent ()).size > 1 ↔
      ¬ ∀ name, relations.below child name → name = parent := by
    rw [size_gt_one_iff ((mem_insert _ _ _ _).2 (.inl rfl))]
    constructor
    · rintro ⟨other, listed, differs⟩ only
      rcases (mem_insert _ _ _ _).1 listed with same | old
      · exact differs same
      · exact differs (only other ((matched.parent child state found other).1 old))
    · intro notOnly
      by_contra none
      refine notOnly fun name below => ?_
      by_contra differs
      refine none ⟨name, (mem_insert _ _ _ _).2 (.inr ?_), differs⟩
      exact (matched.parent child state found name).2 below
  unfold addParent
  rw [getD_eq, getD_eq, isChild, isParent]
  simp only [Option.getD_some, found]
  constructor
  · intro only
    rw [if_neg (fun more => larger.1 more only)]
    refine ⟨_, rfl, matched.update found rfl rfl ?_ ?_ ?_ ?_⟩
    · intro name
      rw [mem_insert, matched.parent child state found]
      simp only [DomainRelations.addBelow, true_and]
      rw [or_comm]
    · exact matched.member child state found
    · intro other differs name
      simp [DomainRelations.addBelow, differs]
    · exact fun other _ name => Iff.rfl
  · intro notOnly
    rw [if_pos (larger.2 notOnly)]
    exact ⟨_, rfl⟩

end

end Unifabric.TopologyStatus
