import Unifabric.Lib.GoMap

/-!
# The offset cache

`offsetCache`: the file offsets of the provider callbacks, in memory and in a
file which a restarted agent loads.  The JSON text is represented by the value
it encodes.  The temporary file is written as a whole before it is renamed and
is never read, so only the file at the path of the cache is kept.
-/

namespace Unifabric.EbpfFlow

open Lib GoMap List Option

/-! ## The cache and its file -/

def callbackKindKeys : List (Nat × String) :=
  [(1, "post_send"), (2, "wr_set_sge"), (3, "wr_set_sge_list"),
    (4, "wr_set_inline_data"), (5, "wr_set_inline_data_list")]

/-- The stable name of a callback kind. -/
def callbackKindKey (kind : Nat) : Option String :=
  (callbackKindKeys.find? fun entry => entry.1 == kind).map Prod.snd

def callbackKindByName (name : String) : Option Nat :=
  (callbackKindKeys.find? fun entry => entry.2 == name).map Prod.fst

/-- The offsets by library and by the name of the callback. -/
abbrev Libraries := GoMap String (GoMap String UInt64)

/-- `entries[library][name]`. -/
def Libraries.cell (entries : Libraries) (library name : String) : Option UInt64 :=
  entries[library]?.bind fun offsets => offsets[name]?

/-- `entries[library][name] = offset`, with the inner map made on demand. -/
def Libraries.put (entries : Libraries) (library name : String) (offset : UInt64) : Libraries :=
  entries.insert library ((entries.getD library ∅).insert name offset)

/-- What stands at the path of the cache. -/
inductive CacheFile where
  | missing
  | unreadable
  | malformed
  | decodes (libraries : Libraries)

def lookup (order : MapOrder) (entries : Libraries) (library : String) : GoMap Nat UInt64 :=
  (order.range ["lookup"] (entries.getD library ∅).toList).foldl (fun result offset =>
      match callbackKindByName offset.1 with
      | none => result
      | some kind => result.insert kind offset.2) ∅

/-! ## Storing offsets -/

/-- Which steps of `persistLocked` succeed. -/
structure PersistSteps where
  marshal : Bool
  mkdir : Bool
  write : Bool
  rename : Bool

/-- The step of `persistLocked` which failed. -/
inductive PersistError where
  | marshal
  | mkdir
  | write
  | rename
  deriving DecidableEq, Repr

/-- `persistLocked`; only the rename touches the file. -/
def persistLocked (entries : Libraries) (file : CacheFile)
    (steps : PersistSteps) : Option PersistError × CacheFile :=
  if !steps.marshal then (some .marshal, file)
  else if !steps.mkdir then (some .mkdir, file)
  else if !steps.write then (some .write, file)
  else if !steps.rename then (some .rename, file)
  else (none, .decodes entries)

/-- A call of `store`, with what becomes of its steps. -/
structure StoreCall where
  library : String
  kind : Nat
  offset : UInt64
  steps : PersistSteps

/-- Why `store` fails. -/
inductive StoreError where
  | unknownCallback (kind : Nat)
  | persist (error : PersistError)
  deriving DecidableEq, Repr

/-- What `store` returns. -/
structure StoreResult where
  changed : Bool
  error : Option StoreError
  deriving DecidableEq, Repr

/-- The map in memory and the file. -/
structure OffsetCache where
  entries : Libraries
  file : CacheFile

def OffsetCache.store (cache : OffsetCache) (call : StoreCall) : StoreResult × OffsetCache :=
  match callbackKindKey call.kind with
  | none => (⟨false, some (.unknownCallback call.kind)⟩, cache)
  | some name =>
    if cache.entries.cell call.library name = some call.offset then
      (⟨false, none⟩, cache)
    else
      let entries := cache.entries.put call.library name call.offset
      let persisted := persistLocked entries cache.file call.steps
      (⟨true, persisted.1.map .persist⟩, ⟨entries, persisted.2⟩)

lemma cell_put (entries : Libraries) (library name library' name' : String) (offset : UInt64) :
    (entries.put library name offset).cell library' name' =
      if library = library' ∧ name = name' then some offset
      else entries.cell library' name' := by
  rw [Libraries.cell, Libraries.put, GoMap.getElem?_insert]
  by_cases same : library = library'
  · subst same
    rw [if_pos rfl, bind_some, GoMap.getElem?_insert]
    by_cases named : name = name'
    · rw [if_pos named, if_pos ⟨rfl, named⟩]
    · rw [if_neg named, if_neg fun both => named both.2, Libraries.cell, GoMap.getD_eq]
      cases entries[library]? with
      | none => rfl
      | some offsets => rfl
  · rw [if_neg same, if_neg fun both => same both.1, Libraries.cell]

/-- The kinds and their names determine each other. -/
lemma callbackKindKeys_injective : ∀ entry ∈ callbackKindKeys, ∀ other ∈ callbackKindKeys,
      entry.1 = other.1 ∨ entry.2 = other.2 → entry = other := by
  decide

lemma callbackKindByName_eq_some :
    callbackKindByName name = some kind ↔ (kind, name) ∈ callbackKindKeys := by
  rw [callbackKindByName, map_eq_some_iff]
  constructor
  · rintro ⟨entry, found, rfl⟩
    have named := find?_some found
    rw [← beq_iff_eq.1 named]
    exact mem_of_find?_eq_some found
  · intro listed
    cases found : callbackKindKeys.find? fun entry => entry.2 == name with
    | none => exact absurd (find?_eq_none.1 found _ listed) (by simp)
    | some entry =>
      have named := find?_some found
      refine ⟨entry, rfl, congrArg Prod.fst (callbackKindKeys_injective
        entry (mem_of_find?_eq_some found) _ listed (.inr ?_))⟩
      exact beq_iff_eq.1 named

lemma callbackKindByName_of_key (named : callbackKindKey kind = some name) :
    callbackKindByName name = some kind := by
  obtain ⟨entry, found, rfl⟩ := map_eq_some_iff.1 named
  have same := find?_some found
  rw [callbackKindByName_eq_some, ← beq_iff_eq.1 same]
  exact mem_of_find?_eq_some found

variable {order : MapOrder} {library name : String} {kind : Nat} {offset : UInt64}

/-- The offsets which a file holds. -/
def CacheFile.libraries : CacheFile → Libraries
  | .decodes libraries => libraries
  | _ => ∅

/-- Every step of `persistLocked` succeeds. -/
def PersistSteps.succeed (steps : PersistSteps) : Bool :=
  steps.marshal && steps.mkdir && steps.write && steps.rename

/--
The offset which the calls, the last one first, have last asked for, or else
the one which the file held before them.
-/
def lastAsked (file : CacheFile) (library : String) (kind : Nat) : List StoreCall → Option UInt64
  | [] => (callbackKindKey kind).bind (file.libraries.cell library)
  | call :: earlier =>
    if call.library = library ∧ call.kind = kind then some call.offset
    else lastAsked file library kind earlier

/--
The calls, the last one first, up to the last one which asks for a new offset
of a known kind and whose persist succeeds.
-/
def writtenCalls (file : CacheFile) : List StoreCall → List StoreCall
  | [] => []
  | call :: earlier =>
    if (callbackKindKey call.kind).isSome ∧ call.steps.succeed ∧
        lastAsked file call.library call.kind earlier ≠ some call.offset then
      call :: earlier
    else writtenCalls file earlier

/-- Memory holds what was last asked for, the file what was when it was written. -/
structure Follows (file : CacheFile) (calls : List StoreCall) (cache : OffsetCache) : Prop where
  memory : ∀ library kind name, callbackKindKey kind = some name →
    cache.entries.cell library name = lastAsked file library kind calls
  disk : ∀ library kind name, callbackKindKey kind = some name →
    cache.file.libraries.cell library name = lastAsked file library kind (writtenCalls file calls)

section

variable {file : CacheFile} {calls : List StoreCall} {cache : OffsetCache} {call : StoreCall}

lemma persistLocked_eq (entries : Libraries) (file : CacheFile) (steps : PersistSteps) :
    ((persistLocked entries file steps).1 = none ↔ steps.succeed) ∧
      (persistLocked entries file steps).2 = if steps.succeed then .decodes entries else file := by
  unfold persistLocked PersistSteps.succeed
  split_ifs <;> simp_all

lemma Follows.store (follows : Follows file calls cache) (call : StoreCall) :
    Follows file (call :: calls) (cache.store call).2 := by
  unfold OffsetCache.store
  cases isNamed : callbackKindKey call.kind with
  | none =>
    refine ⟨fun library kind name named => ?_, fun library kind name named => ?_⟩
    · rw [lastAsked, if_neg]
      · exact follows.memory library kind name named
      · rintro ⟨_, rfl⟩
        cases isNamed.symm.trans named
    · rw [writtenCalls, if_neg (by simp [isNamed])]
      exact follows.disk library kind name named
  | some known =>
    have memory : ∀ library kind name, callbackKindKey kind = some name →
        (cache.entries.put call.library known call.offset).cell library name =
          lastAsked file library kind (call :: calls) := by
      intro library kind name named
      rw [cell_put, lastAsked, follows.memory library kind name named]
      refine if_congr (and_congr_right fun _ => ⟨?_, ?_⟩) rfl rfl
      · rintro rfl
        exact some_injective _ ((callbackKindByName_of_key isNamed).symm.trans
          (callbackKindByName_of_key named))
      · rintro rfl
        exact some_injective _ (isNamed.symm.trans named)
    simp only [follows.memory call.library call.kind known isNamed]
    split_ifs with held
    · refine ⟨fun library kind name named => ?_, fun library kind name named => ?_⟩
      · rw [lastAsked, follows.memory library kind name named]
        split_ifs with same
        · rw [← held, same.1, same.2]
        · rfl
      · rw [writtenCalls, if_neg fun written => written.2.2 held]
        exact follows.disk library kind name named
    · refine ⟨memory, fun library kind name named => ?_⟩
      rw [(persistLocked_eq _ _ _).2, writtenCalls]
      by_cases succeeds : call.steps.succeed = true
      · rw [if_pos succeeds, if_pos ⟨by rw [isNamed]; rfl, succeeds, held⟩]
        exact memory library kind name named
      · rw [if_neg succeeds, if_neg fun written => succeeds written.2.1]
        exact follows.disk library kind name named

/-- A call succeeds if it repeats an offset or its persist succeeds; otherwise the file stays. -/
lemma Follows.error (follows : Follows file calls cache) (call : StoreCall) :
    ((cache.store call).1.error = none ↔ (callbackKindKey call.kind).isSome ∧
      (lastAsked file call.library call.kind calls = some call.offset ∨ call.steps.succeed)) ∧
    ((cache.store call).1.error ≠ none → (cache.store call).2.file = cache.file) := by
  unfold OffsetCache.store
  cases isNamed : callbackKindKey call.kind with
  | none => simp
  | some known =>
    simp only [follows.memory call.library call.kind known isNamed]
    split_ifs with held
    · simp [held]
    · have persists := persistLocked_eq (cache.entries.put call.library known call.offset)
        cache.file call.steps
      by_cases succeeds : call.steps.succeed = true
      · simp [persists.1.2 succeeds, succeeds]
      · simp [persists, held, succeeds]

end

end Unifabric.EbpfFlow
