import Unifabric.Lib.Decimal

/-!
# Automatic domain names

Discovered groups are named `tierN-groupM`.  The name is read back with its
tier and its number, and two names are equal only if both agree.
-/

namespace Unifabric.SwitchTopology

open Lib List

variable {value : String} {tier group : Int}

/-! ## Names -/

/-- The name `tierN-groupM`. -/
def autoDomainName (tier group : Int) : String :=
  String.ofList ("tier".toList ++ (digits tier ++ ("-group".toList ++ digits group)))

/-- Why a value is not an automatic domain name. -/
inductive AutoNameError where
  | format (value : String)
  | invalidTier (value : String)
  | invalidGroup (value : String)
  | tierMismatch (value : String) (tier expected : Int)
  deriving DecidableEq, Repr

/-- The text of the error. -/
def AutoNameError.message : AutoNameError → String
  | .format value => "value " ++ value.quote ++ " is not in tierN-groupM format"
  | .invalidTier value => "value " ++ value.quote ++ " has an invalid tier"
  | .invalidGroup value => "value " ++ value.quote ++ " has an invalid group number"
  | .tierMismatch value tier expected =>
    "value " ++ value.quote ++ " encodes tier " ++ toString tier ++
      ", expected tier " ++ toString expected

/-- The two numbers in the text `tierN-groupM`. -/
def autoDomainParts (value : String) : Option (List Char × List Char) :=
  match "tier".toList.isPrefixOf? value.toList with
  | none => none
  | some rest =>
    match "-group".toList.isPrefixOf?
        (rest.dropWhile Char.isDigit) with
    | none => none
    | some groupText =>
      if isPositiveDecimal (rest.takeWhile Char.isDigit) && isPositiveDecimal groupText then
        some (rest.takeWhile Char.isDigit, groupText)
      else none

def parseAutoDomainNameParts (value : String) : Except AutoNameError (Int × Int) :=
  match autoDomainParts value with
  | none => .error (.format value)
  | some (tierText, groupText) =>
    match atoi tierText with
    | none => .error (.invalidTier value)
    | some tier =>
      match atoi groupText with
      | none => .error (.invalidGroup value)
      | some group => .ok (tier, group)

def parseAutoDomainName (value : String) (expectedTier : Int) : Except AutoNameError Int :=
  match parseAutoDomainNameParts value with
  | .error failure => .error failure
  | .ok (tier, group) =>
    if tier ≠ expectedTier then
      .error (.tierMismatch value tier expectedTier)
    else .ok group

/-! ## Reading names -/

lemma autoDomainParts_eq_some {tierText groupText : List Char}
    (parts : autoDomainParts value = some (tierText, groupText)) :
    isPositiveDecimal tierText = true ∧ isPositiveDecimal groupText = true ∧
      value.toList = "tier".toList ++ (tierText ++ ("-group".toList ++ groupText)) := by
  unfold autoDomainParts at parts
  split at parts
  · simp at parts
  · next rest hasTier =>
    split at parts
    · simp at parts
    · next groupRest hasGroup =>
      split_ifs at parts with decimals
      cases parts
      rw [Bool.and_eq_true] at decimals
      refine ⟨decimals.1, decimals.2, ?_⟩
      have tierSplit := isPrefixOf?_eq_some_iff_append_eq.1 hasTier
      have groupSplit := isPrefixOf?_eq_some_iff_append_eq.1 hasGroup
      calc value.toList
          _ = "tier".toList ++ rest := tierSplit.symm
          _ = "tier".toList ++ (rest.takeWhile Char.isDigit ++ rest.dropWhile Char.isDigit) := by
              rw [takeWhile_append_dropWhile]
          _ = _ := congrArg (fun text => "tier".toList ++ (rest.takeWhile Char.isDigit ++ text))
                groupSplit.symm

/-- What is read as an automatic name is the name of these numbers. -/
lemma autoDomainName_of_parse (parsed : parseAutoDomainNameParts value = .ok (tier, group)) :
    (1 ≤ tier ∧ tier ≤ maxInt) ∧ (1 ≤ group ∧ group ≤ maxInt) ∧
      value = autoDomainName tier group := by
  unfold parseAutoDomainNameParts at parsed
  split at parsed
  · simp at parsed
  · next tierText groupText parts =>
    rcases autoDomainParts_eq_some parts with ⟨tierDecimal, groupDecimal, whole⟩
    split at parsed
    · simp at parsed
    · next tierNumber readTier =>
      split at parsed
      · simp at parsed
      · next groupNumber readGroup =>
        cases parsed
        rcases digits_of_atoi tierDecimal readTier with ⟨tierPositive, tierBounded, tierDigits⟩
        rcases digits_of_atoi groupDecimal readGroup with
          ⟨groupPositive, groupBounded, groupDigits⟩
        refine ⟨⟨by exact_mod_cast tierPositive, by exact_mod_cast tierBounded⟩,
          ⟨by exact_mod_cast groupPositive, by exact_mod_cast groupBounded⟩, ?_⟩
        have same : value.toList = (autoDomainName tierNumber groupNumber).toList := by
          refine whole.trans (Eq.trans ?_ String.toList_ofList.symm)
          exact congrArg₂ (fun tierText groupText =>
            "tier".toList ++ (tierText ++ ("-group".toList ++ groupText)))
            tierDigits.symm groupDigits.symm
        exact String.toList_inj.1 same

lemma parse_autoDomainName (tierPositive : 1 ≤ tier) (tierBounded : tier ≤ maxInt)
    (groupPositive : 1 ≤ group) (groupBounded : group ≤ maxInt) :
    parseAutoDomainNameParts (autoDomainName tier group) = .ok (tier, group) := by
  obtain ⟨n, rfl⟩ := Int.eq_ofNat_of_zero_le (by omega : 0 ≤ tier)
  obtain ⟨m, rfl⟩ := Int.eq_ofNat_of_zero_le (by omega : 0 ≤ group)
  have number := takeWhile_isDigit_append ("group".toList ++ digits (m : Int))
    (fun _ member => isDigit_of_mem_digits n member)
    (by decide : ('-').isDigit = false)
  have dash : "-group".toList = '-' :: "group".toList := rfl
  have whole : "tier".toList ++ (digits (n : Int) ++ '-' :: ("group".toList ++ digits (m : Int))) =
        (autoDomainName (n : Int) (m : Int)).toList := by
    refine Eq.trans ?_ String.toList_ofList.symm
    exact congrArg (fun text => "tier".toList ++ (digits (n : Int) ++
      (text ++ digits (m : Int)))) dash.symm
  have hasTier : "tier".toList.isPrefixOf? (autoDomainName (n : Int) (m : Int)).toList = some
        (digits (n : Int) ++ '-' :: ("group".toList ++ digits (m : Int))) :=
    isPrefixOf?_eq_some_iff_append_eq.2 whole
  have hasGroup : "-group".toList.isPrefixOf? ('-' :: ("group".toList ++ digits (m : Int))) =
        some (digits (m : Int)) :=
    isPrefixOf?_eq_some_iff_append_eq.2 (congrArg (fun text => text ++ digits (m : Int)) dash)
  have parts : autoDomainParts (autoDomainName (n : Int) (m : Int)) =
      some (digits (n : Int), digits (m : Int)) := by
    have tierDecimal : isPositiveDecimal (digits (n : Int)) = true :=
      isPositiveDecimal_toDigits (by omega)
    have groupDecimal : isPositiveDecimal (digits (m : Int)) = true :=
      isPositiveDecimal_toDigits (by omega)
    unfold autoDomainParts
    simp only [hasTier, number.1, number.2, hasGroup, tierDecimal,
      groupDecimal, Bool.and_self, if_true]
  simp only [parseAutoDomainNameParts, parts, digits_natCast, atoi_toDigits (by omega : n ≤ maxInt),
    atoi_toDigits (by omega : m ≤ maxInt)]

lemma parseAutoDomainNameParts_eq_ok_iff : parseAutoDomainNameParts value = .ok (tier, group) ↔
      (1 ≤ tier ∧ tier ≤ maxInt) ∧ (1 ≤ group ∧ group ≤ maxInt) ∧
        value = autoDomainName tier group := by
  constructor
  · exact autoDomainName_of_parse
  · rintro ⟨isTier, isGroup, rfl⟩
    exact parse_autoDomainName isTier.1 isTier.2 isGroup.1 isGroup.2

lemma parseAutoDomainName_eq_ok_iff : parseAutoDomainName value tier = .ok group ↔
      parseAutoDomainNameParts value = .ok (tier, group) := by
  unfold parseAutoDomainName
  cases parsed : parseAutoDomainNameParts value with
  | error failure => simp
  | ok parts =>
    obtain ⟨found, number⟩ := parts
    by_cases same : found = tier
    · simp [same]
    · simp [same]

/-! ## Equal names -/

lemma digits_injective {left right : Int} (equal : digits left = digits right) : left = right := by
  have noMinus : ∀ number : Nat, '-' ∉ Nat.toDigits 10 number := by
    intro number member
    have isDigit := isDigit_of_mem_digits number member
    revert isDigit
    decide
  cases left with
  | ofNat n =>
    cases right with
    | ofNat m => exact congrArg Int.ofNat (toDigits_injective equal)
    | negSucc m =>
      have shape : Nat.toDigits 10 n = '-' :: Nat.toDigits 10 (m + 1) := equal
      exact absurd (shape ▸ mem_cons_self) (noMinus n)
  | negSucc n =>
    cases right with
    | ofNat m =>
      have shape : '-' :: Nat.toDigits 10 (n + 1) = Nat.toDigits 10 m := equal
      exact absurd (shape ▸ mem_cons_self) (noMinus m)
    | negSucc m =>
      have same := toDigits_injective (cons.inj equal).2
      exact congrArg Int.negSucc (by omega)

/-- Automatic names are equal only for the same tier and number. -/
lemma autoDomainName_injective {tier' group' : Int} (positive : 0 ≤ tier) (positive' : 0 ≤ tier')
    (equal : autoDomainName tier group = autoDomainName tier' group') :
    tier = tier' ∧ group = group' := by
  obtain ⟨n, rfl⟩ := Int.eq_ofNat_of_zero_le positive
  obtain ⟨m, rfl⟩ := Int.eq_ofNat_of_zero_le positive'
  have texts := append_cancel_left (String.ofList_inj.1 equal)
  obtain ⟨same, rest⟩ := digits_append_injective (by decide : ('-').isDigit = false) texts
  have numbers : digits group = digits group' := append_cancel_left rest
  exact ⟨congrArg Int.ofNat same, digits_injective numbers⟩

end Unifabric.SwitchTopology
