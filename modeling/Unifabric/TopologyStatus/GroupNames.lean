import Unifabric.Lib.Separated
import Unifabric.TopologyStatus.Build

/-!
# Names of node groups

`assignNodeGroupNames` keeps the names of paths which stay and gives the other
groups the smallest numbers which no previous name encodes.  The cursor only
moves forward: all numbers below it are used.  The number parser also reads
names such as `node-group01`, so more numbers than names may be reserved, but
never fewer: a new name is not the name of a previous group.
-/

namespace Unifabric.TopologyStatus

open Lib TopologyLabel V1beta1 GoMap List

/-! ## Keys of paths -/

/--
A path of label values: it is not empty, and its values hold no NUL character.
-/
structure ValidPath (path : List String) : Prop where
  nonempty : path ≠ []
  plain : ∀ value ∈ path, '\x00' ∉ value.toList

lemma nodeGroupKey_inj (isLeft : ValidPath left) (isRight : ValidPath right)
    (same : nodeGroupKey left = nodeGroupKey right) : left = right := by
  have texts : left.map String.toList = right.map String.toList := by
    have joined : ['\x00'].intercalate (left.map String.toList) =
        ['\x00'].intercalate (right.map String.toList) := by
      have equal := congrArg String.toList same
      rwa [nodeGroupKey, nodeGroupKey, String.toList_intercalate,
        String.toList_intercalate] at equal
    refine intercalate_inj ?_ ?_ ?_ ?_ joined
    · simpa using isLeft.nonempty
    · simpa using isRight.nonempty
    · simpa using isLeft.plain
    · simpa using isRight.plain
  exact map_injective_iff.2 (fun _ _ => String.toList_injective) texts

/-! ## Numbers of names -/

/-- The name of a number. -/
def numberedName (number : Nat) : String :=
  nodeGroupNamePrefix ++ String.ofList (digits (number : Int))

lemma positiveAtoi_toDigits {number : Nat} (positive : 0 < number) (bounded : number ≤ maxInt) :
    positiveAtoi (Nat.toDigits 10 number) = some number := by
  have decimal := isPositiveDecimal_toDigits positive
  have value := atoi_toDigits bounded
  have isNumber (c : Char) (listed : c ∈ Nat.toDigits 10 number) : c.isDigit = true :=
    isDigit_of_isPositiveDecimal decimal listed
  have digits : Nat.toDigits 10 number ≠ [] ∧ (Nat.toDigits 10 number).all Char.isDigit = true := by
    refine ⟨fun empty => ?_, all_eq_true.2 isNumber⟩
    rw [empty] at decimal
    cases decimal
  rw [positiveAtoi, if_pos digits, value]
  · simp [positive]
  · intro rest shape
    have digit := isNumber '+' (shape ▸ mem_cons_self)
    cases digit

lemma parseNodeGroupNumber_numberedName {number : Nat} (positive : 0 < number)
    (bounded : number ≤ maxInt) : parseNodeGroupNumber (numberedName number) = some number := by
  have suffix : nodeGroupNamePrefix.toList.isPrefixOf?
      (numberedName number).toList = some (digits (number : Int)) := by
    rw [isPrefixOf?_eq_some_iff_append_eq, numberedName, String.toList_append, String.toList_ofList]
  rw [parseNodeGroupNumber, suffix, Option.bind_some, digits_natCast]
  exact positiveAtoi_toDigits positive bounded

lemma numberedName_injective (same : numberedName left = numberedName right) : left = right := by
  have texts := congrArg String.toList same
  simp only [numberedName, String.toList_append, String.toList_ofList,
    append_cancel_left_eq] at texts
  exact toDigits_injective texts

/-! ## The next free number -/

section

variable (used : GoMap Nat Unit) (number : Nat)

/-- The number found is the least free one from the start on. -/
lemma nextFree_isLeast : IsLeast {free | number ≤ free ∧ free ∉ used} (nextFree used number) := by
  let step : Nat → Option Nat := fun candidate =>
    if used.contains candidate then some (candidate + 1) else none
  have stepped {candidate next : Nat} (taken : step candidate = some next) :
      candidate ∈ used ∧ next = candidate + 1 := by
    simp only [step] at taken
    split_ifs at taken with listed
    exact ⟨Std.ExtTreeMap.mem_iff_contains.2 listed, (Option.some.inj taken).symm⟩
  have swept : number ≤ nextFree used number ∧ ∀ earlier,
      number ≤ earlier → earlier < nextFree used number → earlier ∈ used := by
    refine runLoop_invariant (fun candidate => number ≤ candidate ∧ ∀ earlier,
        number ≤ earlier → earlier < candidate → earlier ∈ used)
      (fun candidate next invariant taken => ?_) _ _
      ⟨le_rfl, fun earlier above below => by omega⟩
    obtain ⟨listed, rfl⟩ := stepped taken
    refine ⟨by omega, fun earlier above below => ?_⟩
    rcases Nat.lt_succ_iff_lt_or_eq.1 below with before | rfl
    · exact invariant.2 earlier above before
    · exact listed
  have stopped : step (nextFree used number) = none := by
    refine runLoop_stops (fun _ => True)
      (fun candidate => (used.keys.toFinset.filter (candidate ≤ ·)).card)
      (fun _ _ _ _ => trivial) (fun candidate next _ taken => ?_) _ _
      trivial ?_
    · obtain ⟨listed, rfl⟩ := stepped taken
      refine Finset.card_lt_card ((Finset.ssubset_iff_of_subset ?_).2 ⟨candidate, ?_, ?_⟩)
      · exact Finset.monotone_filter_right _ fun other _ above => by omega
      · simpa using listed
      · simp
    · have filtered := Finset.card_filter_le used.keys.toFinset (number ≤ ·)
      have distinct := toFinset_card_le used.keys
      rw [Std.ExtTreeMap.length_keys] at distinct
      omega
  have free : nextFree used number ∉ used := by
    intro listed
    simp only [step] at stopped
    rw [if_pos (Std.ExtTreeMap.mem_iff_contains.1 listed)] at stopped
    cases stopped
  refine ⟨⟨swept.1, free⟩, fun other isFree => ?_⟩
  by_contra below
  exact isFree.2 (swept.2 other isFree.1 (by omega))

end

/-! ## What the names should be -/

/-- A previous name encodes the number. -/
def Encoded (previous : List TopologyNodeGroup) (number : Nat) : Prop :=
  ∃ old ∈ previous, parseNodeGroupNumber old.name = some number

/-- A previous name encodes the number, or an earlier group received it. -/
def Taken (previous earlier : List TopologyNodeGroup) (number : Nat) : Prop :=
  Encoded previous number ∨ ∃ group ∈ earlier, group.name = numberedName number

/-- The name of a group after earlier ones. -/
structure GroupNamed (previous earlier : List TopologyNodeGroup)
    (group : TopologyNodeGroup) : Prop where
  kept : ∀ old ∈ previous, old.switchDomainPath = group.switchDomainPath → group.name = old.name
  numbered : (∀ old ∈ previous, old.switchDomainPath ≠ group.switchDomainPath) → ∃ number,
      IsLeast {free | 0 < free ∧ ¬ Taken previous earlier free} number ∧
        group.name = numberedName number

/-- The group without its name. -/
def unnamed (group : TopologyNodeGroup) : TopologyNodeGroup := { group with name := "" }

/-- The groups have distinct paths of label values. -/
structure DistinctPaths (groups : List TopologyNodeGroup) : Prop where
  valid : ∀ group ∈ groups, ValidPath group.switchDomainPath
  distinct : (groups.map (·.switchDomainPath)).Nodup

/-- The groups also have distinct names, and none is empty. -/
structure DistinctNames (groups : List TopologyNodeGroup) : Prop extends
    DistinctPaths groups where
  names : (groups.map (·.name)).Nodup
  named : ∀ group ∈ groups, group.name ≠ ""

/-- The names are assigned as they should be. -/
structure NamesAssigned (groups previous named : List TopologyNodeGroup) :
    Prop where
  same : named.map unnamed = groups.map unnamed
  law : ∀ earlier group, earlier ++ [group] <+: named → GroupNamed previous earlier group
  distinct : (named.map (·.name)).Nodup

/-! ## The loop -/

/-- Where a name comes from. -/
def NameOrigin (previous : List TopologyNodeGroup) (group : TopologyNodeGroup) : Prop :=
  (∃ old ∈ previous, old.switchDomainPath = group.switchDomainPath ∧ group.name = old.name) ∨
    ∃ number, 0 < number ∧ number ≤ maxInt ∧ ¬ Encoded previous number ∧
      group.name = numberedName number

/-- What holds after some groups are named. -/
structure NamingOk (previous done : List TopologyNodeGroup)
    (naming : Naming) : Prop where
  assigned : NamesAssigned done previous naming.named
  origin : ∀ group ∈ naming.named, NameOrigin previous group
  used : ∀ number, 0 < number → number ≤ maxInt →
    (number ∈ naming.usedNumbers ↔ Taken previous naming.named number)
  cursor : ∀ number, 0 < number → number < naming.nextNumber → number ∈ naming.usedNumbers
  positive : 0 < naming.nextNumber
  size : naming.usedNumbers.size ≤ previous.length + done.length

section

variable {previous done : List TopologyNodeGroup} {group : TopologyNodeGroup} {naming : Naming}

lemma previousName_eq_some_iff (old : DistinctPaths previous)
    (valid : ValidPath group.switchDomainPath) (name : String) :
    (previous.foldl (fun table group =>
          table.insert (nodeGroupKey group.switchDomainPath) group.name)
        (∅ : GoMap String String))[nodeGroupKey group.switchDomainPath]? = some name ↔
      ∃ old ∈ previous, old.switchDomainPath = group.switchDomainPath ∧ old.name = name := by
  rw [getElem?_foldl_insert_eq_some_iff]
  · constructor
    · rintro ⟨entry, listed, keyed, isName⟩
      exact ⟨entry, listed, nodeGroupKey_inj (old.valid entry listed) valid keyed, isName⟩
    · rintro ⟨entry, listed, same, isName⟩
      exact ⟨entry, listed, congrArg nodeGroupKey same, isName⟩
  · intro left isLeft right isRight same
    have paths := nodeGroupKey_inj (old.valid left isLeft) (old.valid right isRight) same
    rw [inj_on_of_nodup_map old.distinct isLeft isRight paths]

lemma mem_usedNumbers_iff (previous : List TopologyNodeGroup) (number : Nat) :
    number ∈ previous.foldl (fun used group =>
          match parseNodeGroupNumber group.name with
          | some number => used.insert number ()
          | none => used)
        (∅ : GoMap Nat Unit) ↔ Encoded previous number := by
  induction previous using reverseRecOn with
  | nil => simp [Encoded]
  | append_singleton previous last ih =>
    rw [foldl_append, foldl_cons, foldl_nil]
    have split : Encoded (previous ++ [last]) number ↔ Encoded previous number ∨
          parseNodeGroupNumber last.name = some number := by
      simp [Encoded, or_and_right, exists_or]
    rw [split]
    cases parsed : parseNodeGroupNumber last.name with
    | none => simpa using ih
    | some other => rw [mem_insert, ih, Option.some.injEq, or_comm, eq_comm]

lemma size_usedNumbers_le (previous : List TopologyNodeGroup) : (previous.foldl (fun used group =>
          match parseNodeGroupNumber group.name with
          | some number => used.insert number ()
          | none => used)
        (∅ : GoMap Nat Unit)).size ≤ previous.length := by
  induction previous using reverseRecOn with
  | nil => simp
  | append_singleton previous last ih =>
    rw [foldl_append, foldl_cons, foldl_nil, length_append, length_singleton]
    cases parseNodeGroupNumber last.name with
    | none => exact le_trans ih (Nat.le_succ _)
    | some number => exact le_trans Std.ExtTreeMap.size_insert_le (Nat.succ_le_succ ih)

lemma NamesAssigned.append (assigned : NamesAssigned done previous naming.named)
    (law : GroupNamed previous naming.named { group with name })
    (fresh : ∀ earlier ∈ naming.named, earlier.name ≠ name) :
    NamesAssigned (done ++ [group]) previous (naming.named ++ [{ group with name }]) where
  same := by
    rw [map_append, map_append, assigned.same]
    rfl
  law earlier next isPrefix := by
    rcases prefix_concat_iff.1 isPrefix with whole | before
    · obtain ⟨rfl, last⟩ := append_inj' whole rfl
      cases singleton_inj.1 last
      exact law
    · exact assigned.law earlier next before
  distinct := by
    rw [map_append, map_singleton, nodup_append']
    refine ⟨assigned.distinct, nodup_singleton _, ?_⟩
    rw [disjoint_singleton]
    intro listed
    obtain ⟨earlier, isEarlier, same⟩ := mem_map.1 listed
    exact fresh earlier isEarlier same

lemma NamesAssigned.path_mem (assigned : NamesAssigned done previous naming.named)
    (listed : group ∈ naming.named) : group.switchDomainPath ∈ done.map (·.switchDomainPath) := by
  have isUnnamed : unnamed group ∈ done.map unnamed := assigned.same ▸ mem_map_of_mem listed
  obtain ⟨source, isSource, same⟩ := mem_map.1 isUnnamed
  exact mem_map.2 ⟨source, isSource, (TopologyNodeGroup.mk.inj same).2.2⟩

section

variable (ok : NamingOk previous done naming)

include ok

lemma NamingOk.keep (distinct : DistinctNames previous)
    (listed : old ∈ previous) (same : old.switchDomainPath = group.switchDomainPath)
    (fresh : group.switchDomainPath ∉ done.map (·.switchDomainPath)) :
    NamingOk previous (done ++ [group])
      { naming with
        named := naming.named ++ [{ group with name := old.name }] } where
  assigned := by
    refine ok.assigned.append ⟨fun other isOther samePath => ?_,
      fun absent => absurd same (absent old listed)⟩
      fun earlier isEarlier sameName => ?_
    · rw [inj_on_of_nodup_map distinct.distinct listed isOther (same.trans samePath.symm)]
    · rcases ok.origin earlier isEarlier with ⟨other, isOther, samePath, named⟩ |
        ⟨number, positive, bounded, free, named⟩
      · have isOld : other = old :=
          inj_on_of_nodup_map distinct.names isOther listed (named.symm.trans sameName)
        rw [isOld, same] at samePath
        exact fresh (samePath ▸ ok.assigned.path_mem isEarlier)
      · refine free ⟨old, listed, ?_⟩
        rw [← sameName, named]
        exact parseNodeGroupNumber_numberedName positive bounded
  origin := forall_mem_concat ok.origin (.inl ⟨old, listed, same, rfl⟩)
  used number positive bounded := by
    rw [ok.used number positive bounded]
    constructor
    · rintro (encoded | ⟨earlier, isEarlier, named⟩)
      · exact .inl encoded
      · exact .inr ⟨earlier, mem_append_left _ isEarlier, named⟩
    · rintro (encoded | ⟨earlier, isEarlier, named⟩)
      · exact .inl encoded
      · rcases mem_append.1 isEarlier with before | isLast
        · exact .inr ⟨earlier, before, named⟩
        · rw [mem_singleton.1 isLast] at named
          have isName : old.name = numberedName number := named
          refine .inl ⟨old, listed, ?_⟩
          rw [isName]
          exact parseNodeGroupNumber_numberedName positive bounded
  cursor := ok.cursor
  positive := ok.positive
  size := by
    have before := ok.size
    simp only [length_append, length_singleton]
    omega

lemma NamingOk.number_le :
    nextFree naming.usedNumbers naming.nextNumber ≤ previous.length + done.length + 1 := by
  have least := nextFree_isLeast naming.usedNumbers naming.nextNumber
  generalize nextFree naming.usedNumbers naming.nextNumber = number at least
  have below : Finset.Ico 1 number ⊆ naming.usedNumbers.keys.toFinset := by
    intro smaller listed
    rw [Finset.mem_Ico] at listed
    rw [mem_toFinset, Std.ExtTreeMap.mem_keys]
    by_cases before : smaller < naming.nextNumber
    · exact ok.cursor smaller (by omega) before
    · by_contra free
      have minimal := least.2 ⟨(by omega : naming.nextNumber ≤ smaller), free⟩
      omega
  have counted := Finset.card_le_card below
  have distinct := toFinset_card_le naming.usedNumbers.keys
  rw [Std.ExtTreeMap.length_keys] at distinct
  rw [Nat.card_Ico] at counted
  have bounded := ok.size
  omega

lemma NamingOk.number (room : previous.length + done.length + 1 ≤ maxInt)
    (absent : ∀ old ∈ previous, old.switchDomainPath ≠ group.switchDomainPath) :
    NamingOk previous (done ++ [group])
      { usedNumbers := naming.usedNumbers.insert
          (nextFree naming.usedNumbers naming.nextNumber) ()
        nextNumber := nextFree naming.usedNumbers naming.nextNumber + 1
        named := naming.named ++
          [{ group with
              name := numberedName (nextFree naming.usedNumbers naming.nextNumber) }] } := by
  have bounded := le_trans ok.number_le room
  have least := nextFree_isLeast naming.usedNumbers naming.nextNumber
  generalize nextFree naming.usedNumbers naming.nextNumber = number at *
  have positive : 0 < number := lt_of_lt_of_le ok.positive least.1.1
  have free : ¬ Taken previous naming.named number :=
    fun taken => least.1.2 ((ok.used number positive bounded).2 taken)
  refine ⟨?_, ?_, ?_, ?_, Nat.succ_pos _, ?_⟩
  · refine ok.assigned.append ⟨fun old listed same =>
      absurd same (absent old listed), fun _ => ⟨number, ?_, rfl⟩⟩
      fun earlier isEarlier named => free (.inr ⟨earlier, isEarlier, named⟩)
    refine ⟨⟨positive, free⟩, fun other isFree => ?_⟩
    by_contra smaller
    have below : other ≤ maxInt := by omega
    have unused : other ∉ naming.usedNumbers := fun used =>
      isFree.2 ((ok.used other isFree.1 below).1 used)
    by_cases before : other < naming.nextNumber
    · exact unused (ok.cursor other isFree.1 before)
    · have minimal := least.2 ⟨(by omega : naming.nextNumber ≤ other), unused⟩
      omega
  · exact forall_mem_concat ok.origin (.inr ⟨number, positive, bounded,
      fun encoded => free (.inl encoded), rfl⟩)
  · intro other isPositive isBounded
    rw [mem_insert, ok.used other isPositive isBounded]
    constructor
    · rintro (rfl | encoded | ⟨earlier, isEarlier, named⟩)
      · exact .inr ⟨_, mem_append_right _ mem_cons_self, rfl⟩
      · exact .inl encoded
      · exact .inr ⟨earlier, mem_append_left _ isEarlier, named⟩
    · rintro (encoded | ⟨earlier, isEarlier, named⟩)
      · exact .inr (.inl encoded)
      · rcases mem_append.1 isEarlier with before | isLast
        · exact .inr (.inr ⟨earlier, before, named⟩)
        · rw [mem_singleton.1 isLast] at named
          exact .inl (numberedName_injective named).symm
  · intro other isPositive isBelow
    rw [mem_insert]
    by_cases same : other = number
    · exact .inl same
    · refine .inr ?_
      by_cases before : other < naming.nextNumber
      · exact ok.cursor other isPositive before
      · by_contra unused
        have minimal := least.2 ⟨(by omega : naming.nextNumber ≤ other), unused⟩
        dsimp only at isBelow
        omega
  · have before := ok.size
    have inserted := Std.ExtTreeMap.size_insert_le (t := naming.usedNumbers) (k := number) (v := ())
    simp only [length_append, length_singleton]
    omega

end

lemma namesAssigned_assignNodeGroupNames (paths : DistinctPaths groups)
    (distinct : DistinctNames previous) (room : previous.length + groups.length ≤ maxInt) :
    NamesAssigned groups previous (assignNodeGroupNames groups previous) := by
  have initial : NamingOk previous [] ⟨previous.foldl (fun used group =>
          match parseNodeGroupNumber group.name with
          | some number => used.insert number ()
          | none => used)
        (∅ : GoMap Nat Unit), 1, []⟩ := by
    refine ⟨⟨rfl, ?_, nodup_nil⟩, by simp, ?_, ?_, Nat.one_pos, size_usedNumbers_le previous⟩
    · intro earlier group isPrefix
      have isNil := prefix_nil.1 isPrefix
      simp at isNil
    · intro number _ _
      simp [Taken, mem_usedNumbers_iff]
    · intro number positive below
      dsimp only at below
      omega
  refine (foldl_prefix_induction _ groups _
    (fun done naming => NamingOk previous done naming) initial ?_).assigned
  intro done group rest naming split ok
  have listed : group ∈ groups := split ▸ mem_append_right done mem_cons_self
  have fresh : group.switchDomainPath ∉ done.map (·.switchDomainPath) := by
    have once := paths.distinct
    rw [split, map_append, map_cons] at once
    exact fun visited => disjoint_of_nodup_append once visited mem_cons_self
  have lookup := previousName_eq_some_iff distinct.toDistinctPaths (paths.valid group listed)
  unfold nameGroup
  rw [getD_eq]
  by_cases stays : ∃ old ∈ previous, old.switchDomainPath = group.switchDomainPath
  · obtain ⟨old, isOld, same⟩ := stays
    rw [(lookup old.name).2 ⟨old, isOld, same, rfl⟩, Option.getD_some,
      if_pos (distinct.named old isOld)]
    exact ok.keep distinct isOld same fresh
  · have absent : (previous.foldl (fun table group =>
          table.insert (nodeGroupKey group.switchDomainPath) group.name)
        (∅ : GoMap String String))[nodeGroupKey group.switchDomainPath]? =
        none := by
      refine Option.eq_none_iff_forall_ne_some.2 fun name found => ?_
      obtain ⟨old, isOld, same, _⟩ := (lookup name).1 found
      exact stays ⟨old, isOld, same⟩
    rw [absent, Option.getD_none, if_neg (not_not.2 rfl)]
    refine ok.number ?_ fun old isOld same => stays ⟨old, isOld, same⟩
    rw [split, length_append, length_cons] at room
    omega

end

end Unifabric.TopologyStatus
