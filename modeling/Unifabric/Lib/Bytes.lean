import Mathlib

/-!
# Reading bytes

Bytes and big-endian numbers at a position of a list.  A position behind a
known part of the list is a position of what follows it.
-/

namespace Unifabric.Lib

open List

/-- The byte at a position; zero behind the end. -/
def byteAt (bytes : List UInt8) (position : Nat) : UInt8 := bytes.getD position 0

/-- `binary.BigEndian.Uint16` of the two bytes at a position. -/
def uint16At (bytes : List UInt8) (position : Nat) : Nat :=
  (byteAt bytes position).toNat * 256 + (byteAt bytes (position + 1)).toNat

/-- `bytes[start:stop]`. -/
def slice (bytes : List UInt8) (start stop : Nat) : List UInt8 :=
  (bytes.drop start).take (stop - start)

/-- The two bytes of a big-endian number. -/
def uint16Bytes (value : UInt16) : List UInt8 :=
  [UInt8.ofNat (value.toNat / 256), UInt8.ofNat (value.toNat % 256)]

section

variable {before after : List UInt8} {position : Nat}

lemma byteAt_append (known : before.length = position) (offset : Nat) :
    byteAt (before ++ after) (position + offset) = byteAt after offset := by
  subst known
  rw [byteAt, byteAt, getD_eq_getElem?_getD, getD_eq_getElem?_getD,
    getElem?_append_right (Nat.le_add_right _ _),
    Nat.add_sub_cancel_left]

lemma uint16At_append (known : before.length = position) (offset : Nat) :
    uint16At (before ++ after) (position + offset) = uint16At after offset := by
  unfold uint16At
  rw [byteAt_append known, Nat.add_assoc, byteAt_append known]

lemma slice_append {middle : List UInt8} {stop : Nat} (known : before.length = position)
    (size : position + middle.length = stop) :
    slice (before ++ (middle ++ after)) position stop = middle := by
  subst known size
  simp [slice]

lemma drop_append_known (known : before.length = position) :
    (before ++ after).drop position = after := by
  subst known
  simp

@[simp]
lemma length_uint16Bytes (value : UInt16) : (uint16Bytes value).length = 2 := rfl

lemma uint16At_uint16Bytes (value : UInt16) (rest : List UInt8) :
    uint16At (uint16Bytes value ++ rest) 0 = value.toNat := by
  have bound : value.toNat < 65536 := value.toNat_lt
  change (UInt8.ofNat (value.toNat / 256)).toNat * 256 +
    (UInt8.ofNat (value.toNat % 256)).toNat = value.toNat
  rw [UInt8.toNat_ofNat', UInt8.toNat_ofNat']
  omega

end

/-! ## Reads which are checked -/

/-- The byte at a position; there is none behind the end. -/
def readByte (bytes : List UInt8) (position : Nat) : Option UInt8 := bytes[position]?

/-- `binary.BigEndian.Uint16` of two bytes which have to be there. -/
def readUint16 (bytes : List UInt8) (position : Nat) : Option Nat := do
  return (← readByte bytes position).toNat * 256 + (← readByte bytes (position + 1)).toNat

/-- `bytes[start:stop]`, which has to be within the bytes. -/
def readSlice (bytes : List UInt8) (start stop : Nat) : Option (List UInt8) :=
  if start ≤ stop ∧ stop ≤ bytes.length then some (slice bytes start stop)
  else none

section

variable {bytes : List UInt8} {position start stop : Nat}

lemma readByte_eq (inside : position < bytes.length) :
    readByte bytes position = some (byteAt bytes position) := by
  simp [readByte, byteAt, inside]

lemma readUint16_eq (inside : position + 2 ≤ bytes.length) :
    readUint16 bytes position = some (uint16At bytes position) := by
  rw [readUint16, readByte_eq (by omega), readByte_eq (by omega)]
  rfl

lemma readSlice_eq (ordered : start ≤ stop) (inside : stop ≤ bytes.length) :
    readSlice bytes start stop = some (slice bytes start stop) :=
  if_pos ⟨ordered, inside⟩

lemma readSlice_append {before : List UInt8} (known : before.length = start)
    (middle after : List UInt8) :
    readSlice (before ++ (middle ++ after)) start (start + middle.length) = some middle := by
  rw [readSlice_eq (by omega) (by simp only [length_append]; omega), slice_append known rfl]

lemma byteAt_append_left (rest : List UInt8) (inside : position < bytes.length) :
    byteAt (bytes ++ rest) position = byteAt bytes position := by
  rw [byteAt, byteAt, getD_eq_getElem?_getD, getD_eq_getElem?_getD, getElem?_append_left inside]

lemma uint16At_append_left (rest : List UInt8) (inside : position + 2 ≤ bytes.length) :
    uint16At (bytes ++ rest) position = uint16At bytes position := by
  unfold uint16At
  rw [byteAt_append_left rest (by omega), byteAt_append_left rest (by omega)]

lemma slice_append_left (rest : List UInt8) (ordered : start ≤ stop)
    (inside : stop ≤ bytes.length) : slice (bytes ++ rest) start stop = slice bytes start stop := by
  rw [slice, slice, drop_append_of_le_length (by omega),
    take_append_of_le_length (by rw [length_drop]; omega)]

end

end Unifabric.Lib
