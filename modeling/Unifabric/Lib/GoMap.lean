import Mathlib

/-!
# Go maps, map iteration and sorting

A Go map is an extensional finite map: two maps are equal exactly when every
lookup agrees.  Ranging over a map visits its keys in an order the language
leaves open, and `sort.Slice` leaves the order of ties open.  Both choices are
fields of `Runtime`, so a function which ranges over a map or sorts with ties
takes the runtime as an argument and its theorems quantify over it.
-/

namespace Unifabric.Lib

open List

/-! ## Maps -/

/-- A Go map with keys `κ` and values `V`. -/
abbrev GoMap (κ V : Type) [LinearOrder κ] := Std.ExtTreeMap κ V compare

namespace GoMap

variable {κ V : Type} [LinearOrder κ]

/-- The one proof of transitivity which maps of every key type refer to. -/
instance (priority := 2000) transCmp : Std.TransCmp (compare : κ → κ → Ordering) :=
  inferInstance

section

variable (table : GoMap κ V)

lemma getElem?_insert (key other : κ) (value : V) :
    (table.insert key value)[other]? = if key = other then some value else table[other]? := by
  simp [Std.ExtTreeMap.getElem?_insert]

lemma getElem?_insert_eq_some {table : GoMap κ V} {key other : κ} {value found : V} :
    (table.insert key value)[other]? = some found ↔
      other = key ∧ found = value ∨ other ≠ key ∧ table[other]? = some found := by
  rw [getElem?_insert]
  split_ifs with same <;> simp [same, Ne.symm, eq_comm]

/-- The second of two inserts of one key decides. -/
lemma insert_insert (key : κ) (first second : V) :
    (table.insert key first).insert key second = table.insert key second := by
  refine Std.ExtTreeMap.ext_getElem? fun other => ?_
  simp only [getElem?_insert]
  split_ifs <;> rfl

lemma getElem?_erase (key other : κ) : (table.erase key)[other]? =
      if key = other then none else table[other]? := by
  simp [Std.ExtTreeMap.getElem?_erase]

lemma mem_iff (key : κ) : key ∈ table ↔ ∃ value, table[key]? = some value := by
  rw [Std.ExtTreeMap.mem_iff_isSome_getElem?, Option.isSome_iff_exists]

lemma getElem?_eq_none_iff (key : κ) : table[key]? = none ↔ key ∉ table := by
  rw [Std.ExtTreeMap.mem_iff_isSome_getElem?, Option.not_isSome_iff_eq_none]

lemma mem_insert (key other : κ) (value : V) :
    other ∈ table.insert key value ↔ other = key ∨ other ∈ table := by
  rw [Std.ExtTreeMap.mem_insert, Std.LawfulEqCmp.compare_eq_iff_eq, eq_comm]

lemma isEmpty_eq_false_iff {table : GoMap κ V} : table.isEmpty = false ↔ ∃ key, key ∈ table := by
  rw [← Bool.not_eq_true, Std.ExtTreeMap.isEmpty_iff,
    Std.ExtTreeMap.eq_empty_iff_forall_not_mem, not_forall_not]

lemma set_ext {left right : GoMap κ Unit}
    (same : ∀ key, key ∈ left ↔ key ∈ right) : left = right := by
  refine Std.ExtTreeMap.ext_getElem? fun key => ?_
  cases found : left[key]? with
  | none =>
    rw [getElem?_eq_none_iff, same, ← getElem?_eq_none_iff] at found
    exact found.symm
  | some value =>
    rcases (mem_iff right key).1 ((same key).1 ((mem_iff left key).2 ⟨value, found⟩)) with
      ⟨other, lookup⟩
    exact lookup.symm

/-- The keys of a map, in the canonical order, strictly increase. -/
lemma keys_pairwise : table.keys.Pairwise (· < ·) := by
  have ordered := Std.ExtTreeMap.ordered_keys (t := table)
  exact ordered.imp fun less => compare_lt_iff_lt.1 less

lemma keys_nodup : table.keys.Nodup :=
  (keys_pairwise table).imp fun less => ne_of_lt less

lemma mem_keys_iff (key : κ) : key ∈ table.keys ↔ ∃ value, table[key]? = some value := by
  rw [Std.ExtTreeMap.mem_keys, mem_iff]

/-- The entries of a table in the order of their keys. -/
def entries : List V := table.toList.map Prod.snd

lemma mem_entries_iff (value : V) :
    value ∈ entries table ↔ ∃ key : κ, table[key]? = some value := by
  simp only [entries, mem_map, Prod.exists, exists_eq_right,
    Std.ExtTreeMap.mem_toList_iff_getElem?_eq_some]

lemma map_entries_eq_keys {table : GoMap κ V} {keyOf : V → κ}
    (keyed : ∀ key value, table[key]? = some value → keyOf value = key) :
    (entries table).map keyOf = table.keys := by
  rw [entries, map_map, ← Std.ExtTreeMap.map_fst_toList_eq_keys]
  refine map_congr_left fun entry listed => ?_
  exact keyed entry.1 entry.2 (Std.ExtTreeMap.mem_toList_iff_getElem?_eq_some.1 listed)

lemma entries_eq_keys {table : GoMap κ κ}
    (same : ∀ key value : κ, table[key]? = some value → key = value) :
    entries table = table.keys := by
  rw [← map_id (entries table)]
  exact map_entries_eq_keys fun key value found => (same key value found).symm

/-- Reading with a default is the lookup followed by the default. -/
lemma getD_eq (key : κ) (fallback : V) : table.getD key fallback = table[key]?.getD fallback :=
  Std.ExtTreeMap.getD_eq_getD_getElem?

lemma getD_insert (key other : κ) (value fallback : V) :
    (table.insert key value).getD other fallback =
      if key = other then value else table.getD other fallback := by
  rw [getD_eq, getElem?_insert, getD_eq]
  split_ifs
  · rfl
  · rfl

end

/-- Assigning one value per list entry stores the value of the last entry. -/
lemma getElem?_foldl_insert {α : Type} (entries : List α) (keyOf : α → κ) (valueOf : κ → V)
    (table : GoMap κ V) (key : κ) :
    (entries.foldl (fun current entry =>
          current.insert (keyOf entry) (valueOf (keyOf entry)))
        table)[key]? =
      if key ∈ entries.map keyOf then some (valueOf key)
      else table[key]? := by
  induction entries generalizing table with
  | nil => simp
  | cons entry rest ih =>
    rw [foldl_cons, ih, getElem?_insert]
    by_cases later : key ∈ rest.map keyOf
    · simp only [map_cons, mem_cons, later, or_true, if_true]
    · by_cases same : keyOf entry = key
      · subst same
        simp [later]
      · simp only [map_cons, mem_cons, later, or_false, if_false, same]
        rw [if_neg (fun equal => same equal.symm)]

/-- What is registered under a key was there or is of a listed entry. -/
lemma foldl_insert_spec {α : Type} (entries : List α) (keyOf : α → κ) (valueOf : α → V)
    (table : GoMap κ V) (key : κ) :
    (∀ value, (entries.foldl (fun table entry => table.insert (keyOf entry) (valueOf entry))
          table)[key]? = some value →
        table[key]? = some value ∨ ∃ entry ∈ entries, keyOf entry = key ∧ valueOf entry = value) ∧
      ((key ∈ table ∨ ∃ entry ∈ entries, keyOf entry = key) → key ∈ entries.foldl
          (fun table entry => table.insert (keyOf entry) (valueOf entry))
          table) := by
  induction entries generalizing table with
  | nil => simp
  | cons first rest ih =>
    obtain ⟨sound, complete⟩ := ih (table.insert (keyOf first) (valueOf first))
    constructor
    · intro value found
      rcases sound value found with inserted | ⟨entry, listed, keyed⟩
      · rw [getElem?_insert] at inserted
        split_ifs at inserted with same
        · cases inserted
          exact .inr ⟨first, .head _, same, rfl⟩
        · exact .inl inserted
      · exact .inr ⟨entry, .tail _ listed, keyed⟩
    · intro known
      apply complete
      rcases known with old | ⟨entry, listed, keyed⟩
      · exact .inl ((mem_insert _ _ _ _).2 (.inr old))
      · rcases mem_cons.1 listed with rfl | later
        · exact .inl ((mem_insert _ _ _ _).2 (.inl keyed.symm))
        · exact .inr ⟨entry, later, keyed⟩

lemma mem_of_foldl_insert {entries : List V} {keyOf : V → κ} {key : κ} {entry : V}
    (found : (entries.foldl (fun table entry => table.insert (keyOf entry) entry)
      (∅ : GoMap κ V))[key]? = some entry) : entry ∈ entries ∧ keyOf entry = key := by
  rcases (foldl_insert_spec entries keyOf id ∅ key).1 entry found with
    inEmpty | ⟨_, listed, keyed, rfl⟩
  · simp at inEmpty
  · exact ⟨listed, keyed⟩

lemma exists_of_foldl_insert {entries : List V} (keyOf : V → κ)
    {entry : V} (listed : entry ∈ entries) :
    ∃ found ∈ entries, keyOf found = keyOf entry ∧ (entries.foldl
      (fun table entry => table.insert (keyOf entry) entry)
      (∅ : GoMap κ V))[keyOf entry]? = some found := by
  rcases (mem_iff _ _).1 ((foldl_insert_spec entries keyOf id ∅ _).2
    (.inr ⟨entry, listed, rfl⟩)) with ⟨found, isFound⟩
  obtain ⟨isListed, keyed⟩ := mem_of_foldl_insert isFound
  exact ⟨found, isListed, keyed, isFound⟩

/-- If entries of one key have one value, each is found under its key. -/
lemma getElem?_foldl_insert_eq_some_iff {α : Type} {entries : List α}
    {keyOf : α → κ} {valueOf : α → V}
    (unique : ∀ left ∈ entries, ∀ right ∈ entries,
      keyOf left = keyOf right → valueOf left = valueOf right)
    (key : κ) (value : V) :
    (entries.foldl (fun table entry => table.insert (keyOf entry) (valueOf entry))
        (∅ : GoMap κ V))[key]? = some value ↔
      ∃ entry ∈ entries, keyOf entry = key ∧ valueOf entry = value := by
  induction entries using reverseRecOn with
  | nil => simp
  | append_singleton entries last ih =>
    have earlier := ih fun left isLeft right isRight =>
      unique left (mem_append_left _ isLeft) right (mem_append_left _ isRight)
    rw [foldl_append, foldl_cons, foldl_nil, getElem?_insert]
    simp only [mem_append, mem_singleton, or_and_right, exists_or, exists_eq_left]
    by_cases same : keyOf last = key
    · rw [if_pos same, Option.some.injEq]
      constructor
      · exact fun equal => .inr ⟨same, equal⟩
      · rintro (⟨entry, listed, keyed, equal⟩ | ⟨_, equal⟩)
        · rw [← equal]
          exact unique last (by simp) entry (mem_append_left _ listed) (same.trans keyed.symm)
        · exact equal
    · rw [if_neg same, earlier]
      simp [same]

/-- The order of entries does not matter if one key has one value. -/
lemma foldl_insert_congr {α : Type} {left right : List α} {keyOf : α → κ} {valueOf : α → V}
    (same : ∀ entry, entry ∈ left ↔ entry ∈ right) (unique : ∀ first ∈ left, ∀ second ∈ left,
      keyOf first = keyOf second → valueOf first = valueOf second) : left.foldl (fun table entry =>
        table.insert (keyOf entry) (valueOf entry)) (∅ : GoMap κ V) =
      right.foldl (fun table entry => table.insert (keyOf entry) (valueOf entry)) ∅ := by
  refine Std.ExtTreeMap.ext_getElem? fun key => Option.ext fun value => ?_
  rw [getElem?_foldl_insert_eq_some_iff unique,
    getElem?_foldl_insert_eq_some_iff fun first isFirst second isSecond =>
      unique first ((same first).2 isFirst) second ((same second).2 isSecond)]
  simp only [same]

/-- With distinct keys every listed entry is found under its key. -/
lemma getElem?_foldl_insert_of_mem {entries : List V} (distinct : (entries.map keyOf).Nodup)
    (listed : entry ∈ entries) :
    (entries.foldl (fun table entry => table.insert (keyOf entry) entry)
        (∅ : GoMap κ V))[keyOf entry]? = some entry := by
  obtain ⟨found, isListed, sameKey, isFound⟩ := exists_of_foldl_insert keyOf listed
  rw [isFound, inj_on_of_nodup_map distinct isListed listed sameKey]

/-- Two lookups fail alike or find related values. -/
def FoundAlike (related : V → V → Prop) (left right : Option V) : Prop :=
  (left = none ∧ right = none) ∨ ∃ first second, related first second ∧
    left = some first ∧ right = some second

lemma foldl_insert_forall₂ {keyOf : V → κ} {related : V → V → Prop}
    (keys : ∀ left right, related left right → keyOf right = keyOf left) {lefts rights : List V}
    (pairs : lefts.Forall₂ related rights) {leftTable rightTable : GoMap κ V} {key : κ}
    (start : FoundAlike (fun left right => related left right ∧
      keyOf left = key) leftTable[key]? rightTable[key]?) :
    FoundAlike (fun left right => related left right ∧ keyOf left = key)
      (lefts.foldl (fun table entry => table.insert (keyOf entry) entry) leftTable)[key]?
      (rights.foldl (fun table entry => table.insert (keyOf entry) entry) rightTable)[key]? := by
  induction pairs generalizing leftTable rightTable with
  | nil => exact start
  | cons pair _ ih =>
    refine ih ?_
    rw [getElem?_insert, getElem?_insert, keys _ _ pair]
    split_ifs with same
    · exact .inr ⟨_, _, ⟨pair, same⟩, rfl, rfl⟩
    · exact start

lemma foundAlike_empty (related : V → V → Prop) (key : κ) :
    FoundAlike related (∅ : GoMap κ V)[key]? (∅ : GoMap κ V)[key]? :=
  .inl ⟨Std.ExtTreeMap.getElem?_empty, Std.ExtTreeMap.getElem?_empty⟩

lemma getElem?_foldl_insert_map {keyOf : V → κ} {change : V → V}
    (keys : ∀ entry, keyOf (change entry) = keyOf entry) (entries : List V) (key : κ) :
    ((entries.map change).foldl (fun table entry => table.insert (keyOf entry) entry)
        (∅ : GoMap κ V))[key]? =
      ((entries.foldl (fun table entry => table.insert (keyOf entry) entry)
        (∅ : GoMap κ V))[key]?).map change := by
  have pairs : entries.Forall₂ (fun before after => after = change before)
      (entries.map change) := by
    rw [forall₂_map_right_iff, forall₂_same]
    exact fun _ _ => rfl
  have sameKeys : ∀ before after, after = change before → keyOf after = keyOf before := by
    rintro before _ rfl
    exact keys before
  rcases foldl_insert_forall₂ sameKeys pairs (foundAlike_empty _ key) with
    ⟨before, after⟩ | ⟨left, right, ⟨isRight, _⟩, before, after⟩
  · rw [before, after]
    rfl
  · rw [before, after, isRight]
    rfl

lemma getElem?_foldl_insert_filter (entries : List V) (keyOf : V → κ) (keep : V → Bool) {key : κ}
    (kept : ∀ entry ∈ entries, keyOf entry = key → keep entry = true)
    {left right : GoMap κ V} (agree : left[key]? = right[key]?) :
    ((entries.filter keep).foldl (fun table entry => table.insert (keyOf entry) entry) left)[key]? =
      (entries.foldl (fun table entry => table.insert (keyOf entry) entry) right)[key]? := by
  induction entries generalizing left right with
  | nil => exact agree
  | cons first rest ih =>
    have later := fun entry listed => kept entry (.tail _ listed)
    cases isKept : keep first with
    | true =>
      rw [filter_cons_of_pos isKept, foldl_cons]
      refine ih later ?_
      rw [getElem?_insert, getElem?_insert, agree]
    | false =>
      have other : keyOf first ≠ key := by
        intro same
        rw [kept first (.head _) same] at isKept
        cases isKept
      rw [filter_cons_of_neg (by simp [isKept])]
      refine ih later ?_
      rw [getElem?_insert, if_neg other, agree]

/-- A fold which visits each key once and changes only the entry of the key. -/
lemma getElem?_foldl_keys (step : GoMap κ V → κ → GoMap κ V) (entry : κ → Option V → Option V)
    (changes : ∀ table visited key, (step table visited)[key]? =
      if visited = key then entry key table[key]? else table[key]?)
    (keys : List κ) (distinct : keys.Nodup) (table : GoMap κ V) (key : κ) :
    (keys.foldl step table)[key]? = if key ∈ keys then entry key table[key]? else table[key]? := by
  induction keys generalizing table with
  | nil => simp
  | cons first rest ih =>
    rw [nodup_cons] at distinct
    rw [foldl_cons, ih distinct.2, changes]
    by_cases same : first = key
    · subst same
      rw [if_neg distinct.1, if_pos rfl, if_pos mem_cons_self]
    · simp only [same, if_false, mem_cons, Ne.symm same, false_or]

lemma getElem?_foldl_update (keys : List κ) (distinct : keys.Nodup)
    (update : V → V) (fallback : V) (table : GoMap κ V) (key : κ) :
    (keys.foldl (fun current entry =>
          current.insert entry (update (current.getD entry fallback)))
        table)[key]? =
      if key ∈ keys then some (update (table.getD key fallback))
      else table[key]? := by
  rw [getD_eq]
  refine getElem?_foldl_keys _ (fun _ old => some (update (old.getD fallback)))
    (fun table visited key => ?_) keys distinct table key
  rw [getElem?_insert, getD_eq]
  split_ifs with same
  · rw [same]
  · rfl

end GoMap

/-! ## Sorting totally ordered values -/

section

variable {κ : Type} [LinearOrder κ]

/-- `sort.Strings` and `sort.Ints`: ties are equal, so the order is unique. -/
def sortValues (values : List κ) : List κ := values.insertionSort (· ≤ ·)

lemma sortValues_perm (values : List κ) : (sortValues values).Perm values :=
  perm_insertionSort (· ≤ ·) values

@[simp]
lemma mem_sortValues (values : List κ) (value : κ) : value ∈ sortValues values ↔ value ∈ values :=
  (sortValues_perm values).mem_iff

lemma sortValues_pairwise (values : List κ) : (sortValues values).Pairwise (· ≤ ·) :=
  pairwise_insertionSort (· ≤ ·) values

lemma sortValues_pairwise_lt {values : List κ} (distinct : values.Nodup) :
    (sortValues values).Pairwise (· < ·) := by
  have sortedDistinct := (sortValues_perm values).nodup_iff.2 distinct
  exact ((sortValues_pairwise values).and sortedDistinct).imp
    fun both => lt_of_le_of_ne both.1 both.2

lemma sortValues_eq_of_perm {left right : List κ} (same : left.Perm right) :
    sortValues left = sortValues right :=
  List.Perm.eq_of_pairwise' (sortValues_pairwise left) (sortValues_pairwise right)
    ((sortValues_perm left).trans (same.trans (sortValues_perm right).symm))

lemma sortValues_eq_self {values : List κ} (sorted : values.Pairwise (· ≤ ·)) :
    sortValues values = values :=
  List.Perm.eq_of_pairwise' (sortValues_pairwise values) sorted (sortValues_perm values)

/-- Any permutation of the keys of a map sorts to the canonical order. -/
lemma sortValues_keys {V : Type} (table : GoMap κ V) {listed : List κ}
    (same : listed.Perm table.keys) : sortValues listed = table.keys := by
  rw [sortValues_eq_of_perm same]
  exact sortValues_eq_self ((GoMap.keys_pairwise table).imp fun less => le_of_lt less)

end

/-! ## The open choices of the language -/

/-- `less` orders values up to ties, as `sort.Slice` requires. -/
structure StrictWeakOrder {α : Type} (less : α → α → Bool) : Prop where
  asymm : ∀ left right, less left right = true → less right left = false
  negTrans : ∀ left middle right, less left middle = false → less middle right = false →
      less left right = false

/--
The visiting order of every executed range statement over a map.  The site
names the statement and the loop variables which identify one execution.
-/
structure MapOrder : Type 1 where
  range : List String → {α : Type} → List α → List α
  range_perm : ∀ (site : List String) {α : Type} (entries : List α),
    (range site entries).Perm entries

/-- One implementation of `sort.Slice`, which may break ties in any way. -/
structure Sorter : Type 1 where
  sortSlice : {α : Type} → (α → α → Bool) → List α → List α
  sortSlice_perm : ∀ {α : Type} (less : α → α → Bool) (values : List α),
    (sortSlice less values).Perm values
  sortSlice_sorted : ∀ {α : Type} (less : α → α → Bool) (values : List α), StrictWeakOrder less →
      (sortSlice less values).Pairwise fun left right => less right left = false

/-- One resolution of the choices the language leaves open. -/
structure Runtime : Type 1 extends MapOrder, Sorter

/-- The choices of a function which is called at a site. -/
def Runtime.within (runtime : Runtime) (site : List String) : Runtime where
  range := fun inner => runtime.range (site ++ inner)
  range_perm := fun inner => runtime.range_perm (site ++ inner)
  toSorter := runtime.toSorter

namespace MapOrder

variable (order : MapOrder)

@[simp]
lemma mem_range {α : Type} (site : List String) (entries : List α) (entry : α) :
    entry ∈ order.range site entries ↔ entry ∈ entries :=
  (order.range_perm site entries).mem_iff

/-- Ranging over the keys of a map and sorting them is order independent. -/
lemma sort_range_keys {κ V : Type} [LinearOrder κ] (site : List String) (table : GoMap κ V) :
    sortValues (order.range site table.keys) = table.keys :=
  sortValues_keys table (order.range_perm site table.keys)

/-- Updating every entry of a map while ranging over it maps its values. -/
lemma getElem?_range_update {κ V : Type} [LinearOrder κ] (site : List String) (update : V → V)
    (fallback : V) (table : GoMap κ V) (key : κ) :
    ((order.range site table.keys).foldl (fun current entry =>
          current.insert entry (update (current.getD entry fallback)))
        table)[key]? =
      table[key]?.map update := by
  rw [GoMap.getElem?_foldl_update _ ((order.range_perm site table.keys).nodup_iff.2
    (GoMap.keys_nodup table))]
  rw [GoMap.getD_eq]
  cases found : table[key]? with
  | none =>
    rw [if_neg]
    · rfl
    · rw [mem_range, GoMap.mem_keys_iff, found]
      simp
  | some value =>
    rw [if_pos]
    · rfl
    · rw [mem_range, GoMap.mem_keys_iff]
      exact ⟨value, found⟩

/-- Maps are visited in key order. -/
def canonical : MapOrder where
  range _ _ entries := entries
  range_perm _ _ _ := List.Perm.refl _

end MapOrder

namespace Sorter

variable (sorter : Sorter)

@[simp]
lemma mem_sortSlice {α : Type} (less : α → α → Bool) (values : List α) (value : α) :
    value ∈ sorter.sortSlice less values ↔ value ∈ values :=
  (sorter.sortSlice_perm less values).mem_iff

/-- Stable insertion sort. -/
def canonical : Sorter where
  sortSlice less values := values.insertionSort fun left right => less right left = false
  sortSlice_perm _ values := perm_insertionSort _ values
  sortSlice_sorted less values order := by
    have : Std.Total fun left right => less right left = false :=
      ⟨fun left right => by
        cases forward : less right left with
        | false => exact Or.inl rfl
        | true => exact Or.inr (order.asymm right left forward)⟩
    have : IsTrans _ fun left right => less right left = false :=
      ⟨fun left middle right first second =>
        order.negTrans right middle left second first⟩
    exact pairwise_insertionSort _ values

end Sorter

/-- The runtime on which the model is evaluated. -/
def Runtime.canonical : Runtime where
  toMapOrder := MapOrder.canonical
  toSorter := Sorter.canonical

/-- Comparing through a key of a total order is a strict weak order. -/
lemma strictWeakOrder_of_key {α κ : Type} [LinearOrder κ] (key : α → κ) :
    StrictWeakOrder fun left right => decide (key left < key right) where
  asymm left right less := by
    simp only [decide_eq_true_eq, decide_eq_false_iff_not, not_lt] at *
    exact le_of_lt less
  negTrans left middle right first second := by
    simp only [decide_eq_false_iff_not, not_lt] at *
    exact le_trans second first

lemma sortSlice_eq_of_key {α κ : Type} [LinearOrder κ] (sorter sorter' : Sorter) {key : α → κ}
    {left right : List α} (same : left.Perm right) (distinct : (left.map key).Nodup) :
    sorter.sortSlice (fun a b => decide (key a < key b)) left =
      sorter'.sortSlice (fun a b => decide (key a < key b)) right := by
  have order := strictWeakOrder_of_key key
  refine List.Perm.eq_of_pairwise ?_ (sorter.sortSlice_sorted _ left order)
    (sorter'.sortSlice_sorted _ right order)
    ((sorter.sortSlice_perm _ left).trans (same.trans (sorter'.sortSlice_perm _ right).symm))
  intro a b inLeft inRight below above
  simp only [decide_eq_false_iff_not, not_lt] at below above
  have memberA := (sorter.mem_sortSlice _ left a).1 inLeft
  have memberB := same.mem_iff.2 ((sorter'.mem_sortSlice _ right b).1 inRight)
  exact inj_on_of_nodup_map distinct memberA memberB (le_antisymm below above)

end Unifabric.Lib
