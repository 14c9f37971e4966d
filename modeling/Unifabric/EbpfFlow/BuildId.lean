import Unifabric.Lib.Bytes
import Unifabric.Lib.Sha1

/-!
# Build identifiers of libraries

`parseGNUBuildID` walks over the notes of a section.  The sizes come from the
data, so each slice is taken with a check, and a slice behind the end is a
panic of the source.
-/

namespace Unifabric.EbpfFlow

open Lib List Option

/-! ## The parser -/

/-- `binary.LittleEndian.Uint32` of four bytes which have to be there. -/
def readUint32 (bytes : List UInt8) (position : Nat) : Option Nat := do
  return (← readByte bytes position).toNat + (← readByte bytes (position + 1)).toNat * 2 ^ 8 +
    (← readByte bytes (position + 2)).toNat * 2 ^ 16 +
    (← readByte bytes (position + 3)).toNat * 2 ^ 24

/-- `alignUp4`, in 64 bits. -/
def alignUp4 (value : Nat) : Nat :=
  (value + 3) % 2 ^ 64 / 4 * 4

def noteTypeGNUBuildID : Nat := 3

/-- The bytes of the name with the zero which ends it. -/
def gnuName : List UInt8 := [0x47, 0x4E, 0x55, 0]

/-- One turn of the loop: the result, or the data which is left. -/
def noteTurn (data : List UInt8) : Option (String ⊕ List UInt8) :=
  if data.length < 12 then some (.inl "")
  else do
    let nameSize ← readUint32 data 0
    let descSize ← readUint32 data 4
    let noteType ← readUint32 data 8
    let nameEnd := (12 + alignUp4 nameSize) % 2 ^ 64
    let descEnd := (nameEnd + alignUp4 descSize) % 2 ^ 64
    if data.length < descEnd ∨ data.length < nameEnd then return .inl ""
    if noteType = noteTypeGNUBuildID ∧ 0 < descSize ∧ nameSize = 4 then
      if (← readSlice data 12 16) = gnuName then
        return .inl (String.ofList
          (Sha1.hexEncode (← readSlice data nameEnd ((nameEnd + descSize) % 2 ^ 64))))
    return .inr (← readSlice data descEnd data.length)

/-- `parseGNUBuildID` in so many turns; `none` after a panic or too few turns. -/
def parseGNUBuildID : Nat → List UInt8 → Option String
  | 0, _ => none
  | turns + 1, data =>
    match noteTurn data with
    | none => none
    | some (.inl buildID) => some buildID
    | some (.inr rest) => parseGNUBuildID turns rest

/-! ## Bounds and progress -/

lemma readUint32_eq {bytes : List UInt8} (inside : position + 4 ≤ bytes.length) :
    ∃ value < 2 ^ 32, readUint32 bytes position = some value := by
  have first := (byteAt bytes position).toNat_lt
  have second := (byteAt bytes (position + 1)).toNat_lt
  have third := (byteAt bytes (position + 2)).toNat_lt
  have fourth := (byteAt bytes (position + 3)).toNat_lt
  rw [readUint32, readByte_eq (by omega), readByte_eq (by omega), readByte_eq (by omega),
    readByte_eq (by omega)]
  exact ⟨_, by omega, rfl⟩

lemma alignUp4_spec (small : value < 2 ^ 32) :
    value ≤ alignUp4 value ∧ alignUp4 value < value + 4 ∧ alignUp4 value % 4 = 0 := by
  rw [alignUp4]
  omega

/-- A turn slices within bounds, and what it leaves is shorter. -/
lemma noteTurn_returns (data : List UInt8) : (∃ buildID, noteTurn data = some (.inl buildID)) ∨
      ∃ rest, noteTurn data = some (.inr rest) ∧ rest.length < data.length := by
  rw [noteTurn]
  split_ifs with short
  · exact .inl ⟨_, rfl⟩
  · obtain ⟨nameSize, nameSmall, nameRead⟩ := readUint32_eq (by omega : 0 + 4 ≤ data.length)
    obtain ⟨descSize, descSmall, descRead⟩ := readUint32_eq (by omega : 4 + 4 ≤ data.length)
    obtain ⟨noteType, _, typeRead⟩ := readUint32_eq (by omega : 8 + 4 ≤ data.length)
    have nameAligned := alignUp4_spec nameSmall
    have descAligned := alignUp4_spec descSmall
    simp only [nameRead, descRead, typeRead, bind_eq_bind, bind_some]
    split_ifs with outside isBuildID
    · exact .inl ⟨_, rfl⟩
    · rw [readSlice_eq (by omega) (by omega), bind_some]
      split_ifs
      · rw [readSlice_eq (by omega) (by omega)]
        exact .inl ⟨_, rfl⟩
      · rw [readSlice_eq (by omega) (by omega)]
        refine .inr ⟨_, rfl, ?_⟩
        rw [slice, length_take, length_drop]
        omega
    · rw [readSlice_eq (by omega) (by omega)]
      refine .inr ⟨_, rfl, ?_⟩
      rw [slice, length_take, length_drop]
      omega

lemma parseGNUBuildID_returns (data : List UInt8) :
    ∃ buildID, ∀ turns, data.length < turns → parseGNUBuildID turns data = some buildID := by
  induction size : data.length using Nat.strongRecOn generalizing data with
  | ind length ih =>
    rcases noteTurn_returns data with ⟨buildID, turned⟩ | ⟨rest, turned, shorter⟩
    · refine ⟨buildID, fun turns enough => ?_⟩
      obtain ⟨turns, rfl⟩ := Nat.exists_eq_add_of_lt enough
      rw [parseGNUBuildID, turned]
    · obtain ⟨buildID, returned⟩ := ih rest.length (size ▸ shorter) rest rfl
      refine ⟨buildID, fun turns enough => ?_⟩
      obtain ⟨more, rfl⟩ := Nat.exists_eq_add_of_lt enough
      rw [parseGNUBuildID, turned]
      exact returned _ (by omega)

/-! ## Notes -/

/-- The four bytes of a little-endian number. -/
def uint32Bytes (value : Nat) : List UInt8 :=
  [UInt8.ofNat value, UInt8.ofNat (value / 2 ^ 8), UInt8.ofNat (value / 2 ^ 16),
    UInt8.ofNat (value / 2 ^ 24)]

/-- An ELF note; its name and description are padded to a multiple of four. -/
structure Note where
  noteType : UInt32
  name : List UInt8
  namePadding : List UInt8
  desc : List UInt8
  descPadding : List UInt8
  nameSize : name.length < 2 ^ 32
  descSize : desc.length < 2 ^ 32
  namePadded : namePadding.length = (4 - name.length % 4) % 4
  descPadded : descPadding.length = (4 - desc.length % 4) % 4

/-- The bytes of a note. -/
def Note.bytes (note : Note) : List UInt8 :=
  uint32Bytes note.name.length ++ (uint32Bytes note.desc.length ++
    (uint32Bytes note.noteType.toNat ++
      (note.name ++ (note.namePadding ++ (note.desc ++ note.descPadding)))))

/-- A note with a build identifier. -/
def Note.isBuildID (note : Note) : Bool :=
  note.noteType = 3 ∧ note.name = gnuName ∧ note.desc ≠ []

lemma readUint32_uint32Bytes {before after : List UInt8} {position value : Nat}
    (known : before.length = position) (small : value < 2 ^ 32) :
    readUint32 (before ++ (uint32Bytes value ++ after)) position = some value := by
  have inside : position + 4 ≤ (before ++ (uint32Bytes value ++ after)).length := by
    simp [uint32Bytes, known]
  have at_ : ∀ offset, byteAt (before ++ (uint32Bytes value ++ after)) (position + offset) =
    byteAt (uint32Bytes value ++ after) offset := byteAt_append known
  rw [readUint32, readByte_eq (by omega), readByte_eq (by omega), readByte_eq (by omega),
    readByte_eq (by omega), at_, at_, at_, ← Nat.add_zero position, at_]
  have sum : (UInt8.ofNat value).toNat + (UInt8.ofNat (value / 2 ^ 8)).toNat * 2 ^ 8 +
      (UInt8.ofNat (value / 2 ^ 16)).toNat * 2 ^ 16 +
      (UInt8.ofNat (value / 2 ^ 24)).toNat * 2 ^ 24 = value := by
    simp only [UInt8.toNat_ofNat']
    omega
  exact congrArg some sum

lemma noteTurn_bytes (note : Note) (rest : List UInt8) :
    noteTurn (note.bytes ++ rest) = some (if note.isBuildID
      then .inl (String.ofList (Sha1.hexEncode note.desc)) else .inr rest) := by
  have nameSize := note.nameSize
  have descSize := note.descSize
  have namePadded := note.namePadded
  have descPadded := note.descPadded
  have nameAligned := alignUp4_spec nameSize
  have descAligned := alignUp4_spec descSize
  have length : (note.bytes ++ rest).length = 12 + note.name.length + note.namePadding.length +
      note.desc.length + note.descPadding.length + rest.length := by
    simp [Note.bytes, uint32Bytes]
    omega
  have nameRead : readUint32 (note.bytes ++ rest) 0 = some note.name.length := by
    exact @readUint32_uint32Bytes [] _ 0 _ rfl nameSize
  have descRead : readUint32 (note.bytes ++ rest) 4 = some note.desc.length := by
    rw [Note.bytes, append_assoc, append_assoc]
    exact readUint32_uint32Bytes rfl descSize
  have typeRead : readUint32 (note.bytes ++ rest) 8 = some note.noteType.toNat := by
    rw [Note.bytes, ← append_assoc, append_assoc, append_assoc]
    exact readUint32_uint32Bytes rfl note.noteType.toNat_lt
  have nameEnd : (12 + alignUp4 note.name.length) % 2 ^ 64 =
      12 + note.name.length + note.namePadding.length := by
    omega
  have descEnd : (12 + note.name.length + note.namePadding.length +
      alignUp4 note.desc.length) % 2 ^ 64 = 12 + note.name.length + note.namePadding.length +
        note.desc.length + note.descPadding.length := by
    omega
  have header : (uint32Bytes note.name.length ++ (uint32Bytes note.desc.length ++
    uint32Bytes note.noteType.toNat)).length = 12 := rfl
  have nameRange : readSlice (note.bytes ++ rest) 12 (12 + note.name.length) = some note.name := by
    have parts := readSlice_append header note.name
      (note.namePadding ++ (note.desc ++ (note.descPadding ++ rest)))
    simpa only [Note.bytes, append_assoc] using parts
  have descRange : readSlice (note.bytes ++ rest) (12 + note.name.length + note.namePadding.length)
      (12 + note.name.length + note.namePadding.length + note.desc.length) = some note.desc := by
    have known : (uint32Bytes note.name.length ++ (uint32Bytes note.desc.length ++
        (uint32Bytes note.noteType.toNat ++ (note.name ++ note.namePadding)))).length =
        12 + note.name.length + note.namePadding.length := by
      simp [uint32Bytes]
      omega
    have parts := readSlice_append known note.desc (note.descPadding ++ rest)
    simpa only [Note.bytes, append_assoc] using parts
  have restRange : readSlice (note.bytes ++ rest) (12 + note.name.length +
      note.namePadding.length + note.desc.length + note.descPadding.length)
      (note.bytes ++ rest).length = some rest := by
    have known : note.bytes.length = 12 + note.name.length + note.namePadding.length +
        note.desc.length + note.descPadding.length := by
      rw [length_append] at length
      omega
    have parts := readSlice_append known rest []
    rwa [append_nil, ← known, ← length_append, known] at parts
  rw [noteTurn, if_neg (by omega)]
  simp only [nameRead, descRead, typeRead, bind_eq_bind, bind_some, nameEnd, descEnd]
  rw [if_neg (by omega)]
  by_cases candidate : note.noteType.toNat = noteTypeGNUBuildID ∧ 0 < note.desc.length ∧
    note.name.length = 4
  · rw [candidate.2.2] at nameRange descRange restRange ⊢
    rw [if_pos ⟨candidate.1, candidate.2.1, rfl⟩, nameRange, bind_some]
    by_cases isGnu : note.name = gnuName
    · have isBuildID : note.isBuildID = true := by
        refine decide_eq_true ⟨UInt32.toNat_inj.1 candidate.1, isGnu, ?_⟩
        exact ne_nil_of_length_pos candidate.2.1
      rw [if_pos isGnu, Nat.mod_eq_of_lt (by omega), descRange, if_pos isBuildID]
      rfl
    · have other : note.isBuildID = false := decide_eq_false fun both => isGnu both.2.1
      rw [if_neg isGnu, restRange, other]
      rfl
  · have other : note.isBuildID = false := by
      refine decide_eq_false fun both => candidate ⟨by rw [both.1]; rfl, ?_, by rw [both.2.1]; rfl⟩
      exact length_pos_iff.2 both.2.2
    rw [if_neg candidate, restRange, other]
    rfl

/-- The build identifier of the first note which has one. -/
def firstBuildID (notes : List Note) : String :=
  match notes.find? Note.isBuildID with
  | some note => String.ofList (Sha1.hexEncode note.desc)
  | none => ""

/--
The parser returns for all data, without a slice behind the end, and for the
bytes of notes it returns the build identifier of the first note with one.
-/
theorem parseGNUBuildID_correct : (∀ data, ∃ buildID, ∀ turns, data.length < turns →
      parseGNUBuildID turns data = some buildID) ∧
    ∀ (notes : List Note) (turns : Nat), (notes.flatMap Note.bytes).length < turns →
      parseGNUBuildID turns (notes.flatMap Note.bytes) = some (firstBuildID notes) := by
  refine ⟨parseGNUBuildID_returns, fun notes => ?_⟩
  induction notes with
  | nil =>
    intro turns enough
    obtain ⟨turns, rfl⟩ := Nat.exists_eq_add_of_lt enough
    rfl
  | cons first rest induction =>
    intro turns enough
    obtain ⟨more, rfl⟩ := Nat.exists_eq_add_of_lt enough
    have size : 12 ≤ first.bytes.length := by
      simp [Note.bytes, uint32Bytes]
    rw [flatMap_cons, length_append] at enough ⊢
    rw [parseGNUBuildID, noteTurn_bytes, firstBuildID]
    cases isBuildID : first.isBuildID with
    | true => simp [isBuildID]
    | false =>
      rw [find?_cons_of_neg (by simp [isBuildID])]
      exact induction _ (by omega)

end Unifabric.EbpfFlow
