import Unifabric.EbpfFlow.FlowMetrics

/-!
# The index of the queue pair infos

`qpInfoIndex`: a stat whose process has no info of its own takes the info of
the only process with the queue pair number.  The infos are only moved.  A key
which the iterator of the map returns again counts as one more process.
-/

namespace Unifabric.EbpfFlow

open Lib List

/-- `qpInfoIndex`; queue pair numbers are keys of their values. -/
structure QpInfoIndex (Info : Type) where
  exact : GoMap QpKey Info
  byQPN : GoMap Nat Info
  ambiguous : GoMap Nat Bool

variable {Info : Type}

def newQPInfoIndex : QpInfoIndex Info :=
  { exact := ∅, byQPN := ∅, ambiguous := ∅ }

def QpInfoIndex.add (index : QpInfoIndex Info) (added : QpKey × Info) : QpInfoIndex Info :=
  let exact := index.exact.insert added.1 added.2
  match index.byQPN[added.1.qpn.toNat]? with
  | some _ =>
    { index with exact := exact, ambiguous := index.ambiguous.insert added.1.qpn.toNat true }
  | none =>
    { index with exact := exact, byQPN := index.byQPN.insert added.1.qpn.toNat added.2 }

def QpInfoIndex.lookup (index : QpInfoIndex Info) (key : QpKey) : Option Info :=
  match index.exact[key]? with
  | some info => some info
  | none => if index.ambiguous.getD key.qpn.toNat false then none else index.byQPN[key.qpn.toNat]?

/-- The index of what the iterator returned, in its order. -/
def indexInfos (added : List (QpKey × Info)) : QpInfoIndex Info :=
  added.foldl QpInfoIndex.add newQPInfoIndex

/-! ## What a lookup should find -/

/-- The only key with the number of another key. -/
structure OnlyKey (added : List (QpKey × Info)) (key only : QpKey) : Prop where
  among : only ∈ added.map Prod.fst
  sameQPN : only.qpn = key.qpn
  unique : ∀ other ∈ added, other.1.qpn = key.qpn → other.1 = only

/-- The answer for a key, which depends on what was added and not on its order. -/
def LookupsAnswer (added : List (QpKey × Info)) (key : QpKey) : Option Info → Prop
  | some info => (key, info) ∈ added ∨
      key ∉ added.map Prod.fst ∧ ∃ only, OnlyKey added key only ∧ (only, info) ∈ added
  | none => key ∉ added.map Prod.fst ∧ ∀ only, ¬ OnlyKey added key only

/-- A key which is added twice shares its number with another key. -/
def RepeatsShared (added : List (QpKey × Info)) : Prop :=
  ∀ key, 2 ≤ added.countP (·.1 = key) → ∃ other ∈ added, other.1.qpn = key.qpn ∧ other.1 ≠ key

/-! ## What the index holds -/

/-- The tables in terms of what was added. -/
structure Indexes (added : List (QpKey × Info)) (index : QpInfoIndex Info) : Prop where
  exact : ∀ key, match index.exact[key]? with
    | some info => (key, info) ∈ added
    | none => key ∉ added.map Prod.fst
  byQPN : ∀ qpn : UInt32, index.byQPN[qpn.toNat]? =
    (added.find? fun other => other.1.qpn = qpn).map Prod.snd
  ambiguous : ∀ qpn : UInt32, index.ambiguous.getD qpn.toNat false = true ↔
    2 ≤ added.countP fun other => other.1.qpn = qpn

lemma Indexes.add (indexes : Indexes added index) (last : QpKey × Info) :
    Indexes (added ++ [last]) (index.add last) := by
  have exact : ∀ key, match (index.exact.insert last.1 last.2)[key]? with
      | some info => (key, info) ∈ added ++ [last]
      | none => key ∉ (added ++ [last]).map Prod.fst := by
    intro key
    have before := indexes.exact key
    rw [GoMap.getElem?_insert]
    by_cases same : last.1 = key
    · subst same
      simp
    · rw [if_neg same]
      cases found : index.exact[key]? with
      | some info =>
        rw [found] at before
        exact mem_append_left _ before
      | none =>
        rw [found] at before
        simp only [map_append, mem_append, not_or]
        exact ⟨before, by simpa using Ne.symm same⟩
  have known := indexes.byQPN last.1.qpn
  rw [QpInfoIndex.add]
  cases first : index.byQPN[last.1.qpn.toNat]? with
  | some info =>
    rw [first] at known
    obtain ⟨earlier, found, _⟩ := Option.map_eq_some_iff.1 known.symm
    refine ⟨exact, fun qpn => ?_, fun qpn => ?_⟩
    · rw [find?_append, indexes.byQPN qpn]
      by_cases same : last.1.qpn = qpn
      · subst same
        rw [found]
        rfl
      · simp [find?_cons_of_neg, same]
    · rw [GoMap.getD_insert, countP_append]
      by_cases same : last.1.qpn = qpn
      · subst same
        have counted : 0 < added.countP fun other => other.1.qpn = last.1.qpn :=
          countP_pos_iff.2 ⟨earlier, mem_of_find?_eq_some found, by simpa using find?_some found⟩
        simpa using counted
      · rw [if_neg (mt UInt32.toNat_inj.1 same), indexes.ambiguous qpn]
        simp [same]
  | none =>
    rw [first] at known
    have absent := find?_eq_none.1 (Option.map_eq_none_iff.1 known.symm)
    refine ⟨exact, fun qpn => ?_, fun qpn => ?_⟩
    · rw [GoMap.getElem?_insert, find?_append]
      by_cases same : last.1.qpn = qpn
      · subst same
        rw [if_pos rfl, find?_eq_none.2 absent]
        simp
      · rw [if_neg (mt UInt32.toNat_inj.1 same), indexes.byQPN qpn]
        simp [same]
    · rw [indexes.ambiguous qpn, countP_append]
      by_cases same : last.1.qpn = qpn
      · subst same
        rw [countP_eq_zero.2 absent]
        simp
      · simp [same]

lemma indexes_indexInfos (added : List (QpKey × Info)) : Indexes added (indexInfos added) := by
  induction added using reverseRecOn with
  | nil => exact ⟨by simp [indexInfos, newQPInfoIndex], by simp [indexInfos, newQPInfoIndex],
      by simp [indexInfos, newQPInfoIndex]⟩
  | append_singleton before last ih =>
    rw [indexInfos, foldl_append]
    exact ih.add last

/-! ## Lookups -/

lemma OnlyKey.countP_eq {added : List (QpKey × Info)} {key only : QpKey}
    (isOnly : OnlyKey added key only) :
    added.countP (·.1 = only) = added.countP fun other => other.1.qpn = key.qpn := by
  refine countP_congr fun other among => ?_
  simp only [decide_eq_true_eq]
  exact ⟨fun same => same ▸ isOnly.sameQPN, isOnly.unique other among⟩

lemma eq_of_countP_le_one {α : Type} {holds : α → Bool} {values : List α} {left right : α}
    (once : values.countP holds ≤ 1) (isLeft : left ∈ values) (isRight : right ∈ values)
    (leftHolds : holds left) (rightHolds : holds right) : left = right := by
  rw [countP_eq_length_filter] at once
  have leftAmong := mem_filter.2 ⟨isLeft, leftHolds⟩
  have rightAmong := mem_filter.2 ⟨isRight, rightHolds⟩
  match values.filter holds, once, leftAmong, rightAmong with
  | [only], _, leftAmong, rightAmong =>
    rw [mem_singleton.1 leftAmong, mem_singleton.1 rightAmong]

/-- A lookup answers wrongly only for a number whose one key was added twice. -/
lemma answers_lookup {added : List (QpKey × Info)} (key : QpKey)
    (shared : ∀ only, OnlyKey added key only → added.countP (·.1 = only) < 2) :
    LookupsAnswer added key ((indexInfos added).lookup key) := by
  have indexes := indexes_indexInfos added
  have exact := indexes.exact key
  rw [QpInfoIndex.lookup]
  cases found : (indexInfos added).exact[key]? with
  | some info =>
    rw [found] at exact
    exact .inl exact
  | none =>
    rw [found] at exact
    have count := indexes.ambiguous key.qpn
    split_ifs with isAmbiguous
    · refine ⟨exact, fun only isOnly => ?_⟩
      have twice := count.1 isAmbiguous
      have once := shared only isOnly
      rw [isOnly.countP_eq] at once
      omega
    · have once : added.countP (fun other => other.1.qpn = key.qpn) ≤ 1 := by
        have few := mt count.2 isAmbiguous
        omega
      rw [indexes.byQPN]
      cases first : added.find? fun other => other.1.qpn = key.qpn with
      | none =>
        refine ⟨exact, fun only isOnly => ?_⟩
        obtain ⟨other, among, rfl⟩ := mem_map.1 isOnly.among
        exact find?_eq_none.1 first other among (by simpa using isOnly.sameQPN)
      | some other =>
        have among := mem_of_find?_eq_some first
        have sameQPN := find?_some first
        refine .inr ⟨exact, other.1, ⟨mem_map_of_mem among, by simpa using sameQPN, ?_⟩, among⟩
        intro second isSecond secondQPN
        exact congrArg Prod.fst (eq_of_countP_le_one once isSecond among
          (by simpa using secondQPN) sameQPN)

/-- Another process with the number of a key. -/
def otherTgid (key : QpKey) : QpKey :=
  { key with tgid := key.tgid + 1 }

lemma otherTgid_ne (key : QpKey) : otherTgid key ≠ key := by
  intro same
  have next : (key.tgid + 1).toNat = key.tgid.toNat := congrArg (fun key => key.tgid.toNat) same
  rw [UInt32.toNat_add] at next
  simp only [UInt32.reduceToNat] at next
  omega

/--
Every lookup answers with the info of the key, or of the only key with its
number, exactly if no key which is alone with its number is added twice.
-/
theorem lookups_answer_iff_repeats_shared (added : List (QpKey × Info)) :
    (∀ key, LookupsAnswer added key ((indexInfos added).lookup key)) ↔ RepeatsShared added := by
  constructor
  · intro answers key twice
    by_contra alone
    simp only [not_exists, not_and, not_not] at alone
    have among : key ∈ added.map Prod.fst := by
      rcases countP_pos_iff.mp (by omega : 0 < added.countP (·.1 = key)) with
        ⟨other, isOther, isKey⟩
      exact mem_map.mpr ⟨other, isOther, by simpa using isKey⟩
    have isOnly : OnlyKey added (otherTgid key) key := ⟨among, rfl, alone⟩
    have absent : otherTgid key ∉ added.map Prod.fst := by
      intro isAdded
      rcases mem_map.mp isAdded with ⟨other, isOther, isKey⟩
      exact otherTgid_ne key (isKey.symm.trans (alone other isOther (by rw [isKey]; rfl)))
    have indexes := indexes_indexInfos added
    have exact := indexes.exact (otherTgid key)
    have answer := answers (otherTgid key)
    rw [QpInfoIndex.lookup] at answer
    cases found : (indexInfos added).exact[otherTgid key]? with
    | some info =>
      rw [found] at exact
      exact absent (mem_map_of_mem exact)
    | none =>
      rw [isOnly.countP_eq] at twice
      rw [found] at answer
      simp only [(indexes.ambiguous (otherTgid key).qpn).mpr twice, if_true] at answer
      exact answer.2 key isOnly
  · intro shared key
    refine answers_lookup key fun only isOnly => ?_
    by_contra twice
    rcases shared only (by omega) with ⟨other, among, sameQPN, different⟩
    exact different (isOnly.unique other among (sameQPN.trans isOnly.sameQPN))

/-- The iterator returns the only key twice, and its number counts as ambiguous. -/
theorem repeated_key_hides_info : (indexInfos [(⟨1, 7⟩, "mlx5_0")]).lookup ⟨2, 7⟩ = some "mlx5_0" ∧
      (indexInfos [(⟨1, 7⟩, "mlx5_0"), (⟨1, 7⟩, "mlx5_0")]).lookup ⟨2, 7⟩ = none ∧
      ¬ LookupsAnswer [(⟨1, 7⟩, "mlx5_0"), (⟨1, 7⟩, "mlx5_0")] ⟨2, 7⟩ none := by
  refine ⟨by decide +kernel, by decide +kernel, fun answer => answer.2 ⟨1, 7⟩ ⟨?_, rfl, ?_⟩⟩
  · simp
  · simp

end Unifabric.EbpfFlow
