import Unifabric.SwitchTopology.PlanSpec

/-!
# The existing numbers

Before the groups are named, the plan scans the labels of all Nodes and the
domains of the Switches of the role.  The scan succeeds if it can read all of
them, and its result is the largest number in use on each tier.
-/

namespace Unifabric.SwitchTopology

open Lib V1beta1 TopologyLabel GoMap

variable {role : SwitchRole} {template : Template} {switches : List Switch} {nodes : List Node}

variable {maxByTier next : GoMap Int Int}

/-! ## Numbers in use -/

/-- A label of the Node has the number on the tier. -/
def LabelNumber (template : Template) (node : Node) (tier number : Int) : Prop :=
  ∃ key value, template.matchTier key = some tier ∧ node.labels[key]? = some value ∧
    parseAutoDomainName value tier = .ok number

/-- The domain of the Switch has the number on the tier. -/
def DomainNumber (switch : Switch) (tier number : Int) : Prop :=
  parseAutoDomainNameParts (switch.labels.getD topologyDomainLabel "") = .ok (tier, number)

/-- A Node or a Switch of the role has the number on the tier. -/
def ExistingNumber (role : SwitchRole) (template : Template)
    (switches : List Switch) (nodes : List Node) (tier number : Int) : Prop :=
  (∃ node ∈ nodes, LabelNumber template node tier number) ∨
    ∃ switch ∈ switches, effectiveSwitchRole switch = role ∧ DomainNumber switch tier number

/-- The labels the scan reads are automatic names. -/
structure ReadableLabels (role : SwitchRole) (template : Template)
    (switches : List Switch) (nodes : List Node) : Prop where
  node : ∀ node ∈ nodes, ∀ key tier value, template.matchTier key = some tier →
      node.labels[key]? = some value → Parses tier value
  switch : ∀ switch ∈ switches, effectiveSwitchRole switch = role →
    switch.labels.getD topologyDomainLabel "" ≠ "" → ∃ tier number, DomainNumber switch tier number

section

variable {tier number : Int}

lemma ExistingNumber.range (existing : ExistingNumber role template switches nodes tier number) :
    1 ≤ number ∧ number ≤ maxInt := by
  rcases existing with ⟨_, _, _, _, _, _, parsed⟩ | ⟨_, _, _, parsed⟩
  · exact (autoDomainName_of_parse (parseAutoDomainName_eq_ok_iff.1 parsed)).2.1
  · exact (autoDomainName_of_parse parsed).2.1

end

/-! ## Raised numbers -/

/-- The table is raised to the largest of the numbers. -/
structure Raised (numbers : Int → Int → Prop)
    (before after : GoMap Int Int) : Prop where
  le : ∀ tier, before.getD tier 0 ≤ after.getD tier 0
  covers : ∀ tier number, numbers tier number → number ≤ after.getD tier 0
  attained : ∀ tier, after.getD tier 0 = before.getD tier 0 ∨ numbers tier (after.getD tier 0)

lemma raised_raiseMax (maxByTier : GoMap Int Int) (tier number : Int) :
    Raised (fun other found => other = tier ∧ found = number) maxByTier
      (raiseMax maxByTier tier number) := by
  unfold raiseMax
  split_ifs with less
  · constructor
    · intro other
      rw [getD_insert]
      split_ifs with same
      · subst same
        omega
      · exact le_refl _
    · rintro other found ⟨rfl, rfl⟩
      rw [getD_insert, if_pos rfl]
    · intro other
      rw [getD_insert]
      split_ifs with same
      · exact .inr ⟨same.symm, rfl⟩
      · exact .inl rfl
  · refine ⟨fun _ => le_refl _, ?_, fun _ => .inl rfl⟩
    rintro other found ⟨rfl, rfl⟩
    exact not_lt.1 less

lemma Raised.refl {numbers : Int → Int → Prop} (maxByTier : GoMap Int Int)
    (none : ∀ tier number, ¬ numbers tier number) :
    Raised numbers maxByTier maxByTier where
  le := fun _ => le_refl _
  covers := fun tier number found => absurd found (none tier number)
  attained := fun _ => .inl rfl

lemma Raised.trans {left right : Int → Int → Prop} {first second third : GoMap Int Int}
    (before : Raised left first second) (after : Raised right second third) :
    Raised (fun tier number => left tier number ∨ right tier number) first third where
  le := fun tier => le_trans (before.le tier) (after.le tier)
  covers := by
    rintro tier number (found | found)
    · exact le_trans (before.covers tier number found) (after.le tier)
    · exact after.covers tier number found
  attained := by
    intro tier
    rcases after.attained tier with same | found
    · rw [same]
      exact (before.attained tier).imp_right .inl
    · exact .inr (.inr found)

lemma Raised.congr {left right : Int → Int → Prop} {before after : GoMap Int Int}
    (raised : Raised left before after)
    (same : ∀ tier number, left tier number ↔ right tier number) :
    Raised right before after where
  le := raised.le
  covers := fun tier number found => raised.covers tier number ((same tier number).2 found)
  attained := fun tier => (raised.attained tier).imp_right (same tier _).1

/-- A scan whose steps raise the table by the numbers of their element. -/
lemma foldlM_raised {α : Type} {step : GoMap Int Int → α → Except PlanError (GoMap Int Int)}
    {values : List α} (succeeded : values.foldlM step start = .ok final) (good : α → Prop)
    (numbers : α → Int → Int → Prop)
    (advance : ∀ state value next, step state value = .ok next →
      good value ∧ Raised (numbers value) state next) :
    (∀ value ∈ values, good value) ∧ Raised (fun tier number => ∃ value ∈ values,
        numbers value tier number) start final := by
  refine foldlM_prefix_induction succeeded (fun done state => (∀ value ∈ done, good value) ∧
      Raised (fun tier number => ∃ value ∈ done, numbers value tier number) start state)
    ⟨by simp, Raised.refl start (by simp)⟩ ?_
  intro done value rest state next _ reached stepped
  obtain ⟨isGood, raised⟩ := advance state value next stepped
  constructor
  · exact forall_mem_concat reached.1 isGood
  · refine (reached.2.trans raised).congr fun tier number => ?_
    simp only [List.mem_append, List.mem_singleton, or_and_right, exists_or, exists_eq_left]

/-! ## The scan -/

section

variable {runtime : Runtime}

lemma scanNodeLabel_eq_ok (scanned : scanNodeLabel template node maxByTier key = .ok next) :
    (∀ tier, template.matchTier key = some tier → Parses tier (node.labels.getD key "")) ∧
      Raised (fun tier number => template.matchTier key = some tier ∧
        parseAutoDomainName (node.labels.getD key "") tier = .ok number) maxByTier next := by
  unfold scanNodeLabel at scanned
  split at scanned
  · next unmatched =>
    cases scanned
    rw [unmatched]
    exact ⟨by simp, Raised.refl _ (by simp)⟩
  · next tier matched =>
    split at scanned
    · cases scanned
    · next number parsed =>
      cases scanned
      rw [matched]
      refine ⟨?_, (raised_raiseMax maxByTier tier number).congr ?_⟩
      · rintro other ⟨⟩
        exact ⟨number, parsed⟩
      · intro other found
        constructor
        · rintro ⟨rfl, rfl⟩
          exact ⟨rfl, parsed⟩
        · rintro ⟨same, found⟩
          cases same
          rw [parsed] at found
          exact ⟨rfl, (Except.ok.inj found).symm⟩

lemma scanExistingAutoNames_eq_ok {node : Node}
    (scanned : scanExistingAutoNames runtime template maxByTier node = .ok next) :
    (∀ key tier value, template.matchTier key = some tier →
        node.labels[key]? = some value → Parses tier value) ∧
      Raised (LabelNumber template node) maxByTier next := by
  obtain ⟨readable, raised⟩ := foldlM_raised scanned _ _ (fun _ _ _ => scanNodeLabel_eq_ok)
  have listed : ∀ {key value : String}, node.labels[key]? = some value →
      key ∈ runtime.range ["scanExistingAutoNames", node.name]
        node.labels.keys ∧ node.labels.getD key "" = value := by
    intro key value found
    rw [MapOrder.mem_range, mem_keys_iff, getD_eq, found]
    exact ⟨⟨value, rfl⟩, rfl⟩
  constructor
  · intro key tier value matched found
    have parses := readable key (listed found).1 tier matched
    rwa [(listed found).2] at parses
  · refine raised.congr fun tier number => ?_
    constructor
    · rintro ⟨key, isKey, matched, parsed⟩
      rw [MapOrder.mem_range, mem_keys_iff] at isKey
      obtain ⟨value, found⟩ := isKey
      rw [(listed found).2] at parsed
      exact ⟨key, value, matched, found, parsed⟩
    · rintro ⟨key, value, matched, found, parsed⟩
      refine ⟨key, (listed found).1, matched, ?_⟩
      rwa [(listed found).2]

lemma not_domainNumber_empty (tier number : Int) :
    parseAutoDomainNameParts "" ≠ .ok (tier, number) := by
  intro parsed
  cases parsed

lemma scanExistingAutoMemberName_eq_ok {switch : Switch}
    (scanned : scanExistingAutoMemberName maxByTier switch = .ok next) :
    (switch.labels.getD topologyDomainLabel "" ≠ "" →
        ∃ tier number, DomainNumber switch tier number) ∧
      Raised (DomainNumber switch) maxByTier next := by
  simp only [scanExistingAutoMemberName] at scanned
  split_ifs at scanned with unlabelled
  · cases scanned
    refine ⟨fun labelled => absurd unlabelled labelled, Raised.refl _ fun tier number found => ?_⟩
    rw [DomainNumber, unlabelled] at found
    exact not_domainNumber_empty tier number found
  · split at scanned
    · cases scanned
    · next tier number parsed =>
      cases scanned
      refine ⟨fun _ => ⟨tier, number, parsed⟩, (raised_raiseMax maxByTier tier number).congr ?_⟩
      intro other found
      rw [DomainNumber, parsed, Except.ok.injEq, Prod.mk.injEq, eq_comm, eq_comm (b := found)]

lemma scanExisting_eq_ok
    (scanned : scanExisting runtime role template switches nodes = .ok maxByTier) :
    ReadableLabels role template switches nodes ∧
      Raised (ExistingNumber role template switches nodes) ∅ maxByTier := by
  obtain ⟨byNodes, nodesScanned, rest⟩ := bind_eq_ok.1 scanned
  rcases foldlM_raised nodesScanned _ _ (fun _ _ _ => scanExistingAutoNames_eq_ok) with
    ⟨nodesReadable, fromNodes⟩
  rcases foldlM_raised rest _ _ (fun _ _ _ => scanExistingAutoMemberName_eq_ok) with
    ⟨switchesReadable, fromSwitches⟩
  refine ⟨⟨nodesReadable, ?_⟩, (fromNodes.trans fromSwitches).congr ?_⟩
  · intro switch listed isRole
    exact switchesReadable switch ((mem_switchesOfRole_iff switch).2 ⟨listed, isRole⟩)
  · intro tier number
    simp only [mem_switchesOfRole_iff, ExistingNumber, and_assoc]

lemma scanExisting_succeeds (readable : ReadableLabels role template switches nodes) :
    ∃ maxByTier, scanExisting runtime role template switches nodes = .ok maxByTier := by
  have nodesScanned : ∃ byNodes, nodes.foldlM
      (scanExistingAutoNames runtime template) ∅ = .ok byNodes := by
    refine foldlM_succeeds_of_forall ∅ fun node isNode state => ?_
    refine foldlM_succeeds_of_forall state fun key isKey current => ?_
    rw [MapOrder.mem_range, mem_keys_iff] at isKey
    obtain ⟨value, found⟩ := isKey
    cases matched : template.matchTier key with
    | none => exact ⟨current, by rw [scanNodeLabel, matched]⟩
    | some tier =>
      obtain ⟨number, parsed⟩ := readable.node node isNode key tier value matched found
      refine ⟨raiseMax current tier number, ?_⟩
      rw [scanNodeLabel, matched]
      simp only [getD_eq, found, Option.getD_some, parsed]
  obtain ⟨byNodes, nodesScanned⟩ := nodesScanned
  have switchesScanned : ∃ maxByTier,
      (switchesOfRole role switches).foldlM scanExistingAutoMemberName byNodes = .ok maxByTier := by
    refine foldlM_succeeds_of_forall byNodes fun switch isSwitch state => ?_
    obtain ⟨listed, isRole⟩ := (mem_switchesOfRole_iff switch).1 isSwitch
    unfold scanExistingAutoMemberName
    dsimp only
    split_ifs with unlabelled
    · exact ⟨state, rfl⟩
    · obtain ⟨tier, number, parsed⟩ := readable.switch switch listed isRole unlabelled
      rw [parsed]
      exact ⟨_, rfl⟩
  obtain ⟨maxByTier, switchesScanned⟩ := switchesScanned
  exact ⟨maxByTier, bind_eq_ok.2 ⟨byNodes, nodesScanned, switchesScanned⟩⟩

lemma range_scanExisting
    (scanned : scanExisting runtime role template switches nodes = .ok maxByTier) (tier : Int) :
    0 ≤ maxByTier.getD tier 0 ∧ maxByTier.getD tier 0 ≤ maxInt := by
  rcases (scanExisting_eq_ok scanned).2.attained tier with zero | existing
  · rw [zero, getD_eq, Std.ExtTreeMap.getElem?_empty, Option.getD_none]
    omega
  · have range := existing.range
    omega

lemma wrapInt_scanExisting
    (scanned : scanExisting runtime role template switches nodes = .ok maxByTier) (tier : Int) :
    wrapInt (maxByTier.getD tier 0) = maxByTier.getD tier 0 := by
  have range := range_scanExisting scanned tier
  have bound : (maxInt : Int) = 2 ^ 63 - 1 := by decide
  exact wrapInt_eq_self (by omega) (by omega)

end

end Unifabric.SwitchTopology
