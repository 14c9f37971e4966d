import Unifabric.Lib.Decimal

/-!
# Topology label templates

A compiled template is the text around its one `.Tier` action.  Rendering puts
the tier between the two texts, and matching recovers it, so a label key
belongs to at most one tier.
-/

namespace Unifabric.TopologyLabel

open Lib List Option

/-! ## Templates -/

/-- A compiled template: the text before and after the tier. -/
structure Template where
  textPrefix : String
  textSuffix : String
  deriving DecidableEq, Repr

/-- Why a template does not render. -/
inductive RenderError where
  | tierBelowOne
  deriving DecidableEq, Repr

/-- The text of the error. -/
def RenderError.message : RenderError → String
  | .tierBelowOne => "tier must be greater than or equal to 1"

section

variable (template : Template)

/-- The key of a tier. -/
def Template.key (tier : Int) : String :=
  String.ofList (template.textPrefix.toList ++ digits tier ++ template.textSuffix.toList)

def Template.render (tier : Int) : Except RenderError String :=
  if tier < 1 then .error .tierBelowOne else .ok (template.key tier)

/-- The text between the two texts of the template. -/
def Template.middle (key : String) : Option (List Char) :=
  (template.textPrefix.toList.isPrefixOf? key.toList).bind fun rest =>
    template.textSuffix.toList.isSuffixOf? rest

def Template.matchTier (key : String) : Option Int :=
  match template.middle key with
  | none => none
  | some text => if isPositiveDecimal text then (atoi text).map Int.ofNat else none

end

/-! ## Matching inverts rendering -/

section

variable {template : Template}

lemma middle_eq_some_iff (key : String) (text : List Char) : template.middle key = some text ↔
      template.textPrefix.toList ++ text ++ template.textSuffix.toList = key.toList := by
  simp only [Template.middle, bind_eq_some_iff, isPrefixOf?_eq_some_iff_append_eq,
    isSuffixOf?_eq_some_iff_append_eq]
  constructor
  · rintro ⟨rest, whole, split⟩
    rw [← whole, ← split, append_assoc]
  · intro whole
    exact ⟨text ++ template.textSuffix.toList, by rw [← append_assoc, whole], rfl⟩

lemma key_of_matchTier {key : String} {tier : Int} (matched : template.matchTier key = some tier) :
    1 ≤ tier ∧ tier ≤ maxInt ∧ template.key tier = key := by
  unfold Template.matchTier at matched
  cases middle : template.middle key with
  | none => simp [middle] at matched
  | some text =>
    simp only [middle] at matched
    split_ifs at matched with positive
    obtain ⟨number, read, rfl⟩ := map_eq_some_iff.1 matched
    obtain ⟨above, bounded, same⟩ := digits_of_atoi positive read
    rw [Int.ofNat_eq_natCast]
    refine ⟨by omega, by omega, ?_⟩
    have whole := (middle_eq_some_iff key text).1 middle
    show String.ofList (template.textPrefix.toList ++
      digits (number : Int) ++ template.textSuffix.toList) = key
    rw [same, whole, String.ofList_toList]

lemma matchTier_key {tier : Int} (positive : 1 ≤ tier) (bounded : tier ≤ maxInt) :
    template.matchTier (template.key tier) = some tier := by
  obtain ⟨number, rfl⟩ := Int.eq_ofNat_of_zero_le (by omega : 0 ≤ tier)
  have middle : template.middle (template.key (number : Int)) = some (Nat.toDigits 10 number) := by
    rw [middle_eq_some_iff]
    simp [Template.key, digits_natCast]
  have isDecimal := isPositiveDecimal_toDigits (by omega : 0 < number)
  simp only [Template.matchTier, middle, isDecimal, if_true,
    atoi_toDigits (by omega : number ≤ maxInt), map_some]
  rfl

lemma key_injective {tier tier' : Int} (positive : 1 ≤ tier) (positive' : 1 ≤ tier')
    (equal : template.key tier = template.key tier') : tier = tier' := by
  obtain ⟨number, rfl⟩ := Int.eq_ofNat_of_zero_le (by omega : 0 ≤ tier)
  obtain ⟨number', rfl⟩ := Int.eq_ofNat_of_zero_le (by omega : 0 ≤ tier')
  have texts := String.ofList_inj.1 equal
  rw [append_left_inj, append_right_inj] at texts
  exact_mod_cast toDigits_injective texts

lemma render_eq_ok_iff {tier : Int} {key : String} : template.render tier = .ok key ↔
      1 ≤ tier ∧ template.key tier = key := by
  unfold Template.render
  split_ifs with low
  · simp
    omega
  · simp
    omega

end

end Unifabric.TopologyLabel
