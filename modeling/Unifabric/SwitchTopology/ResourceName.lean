import Unifabric.SwitchAgent.Lldp
import Unifabric.SwitchTopology.Inputs

/-!
# Normalized names

`normalizeResourceName` yields words of lower-case letters and digits with
single dashes between them, and leaves such names as they are.
-/

namespace Unifabric.SwitchTopology

open Lib List

/-- The characters of a normalized name. -/
def IsResourceChar (c : Char) : Prop :=
  isNameChar c = true ∨ c = '-'

/-- No two dashes stand next to each other. -/
def SingleDashes (text : List Char) : Prop :=
  text.IsChain fun left right => ¬ (left = '-' ∧ right = '-')

lemma isNameChar_dash : isNameChar '-' = false := by decide

/-- Every character which `dashRuns` writes is one of a normalized name. -/
lemma isResourceChar_of_mem_dashRuns (member : c ∈ dashRuns previousDash text) :
    IsResourceChar c := by
  induction text generalizing previousDash with
  | nil => simp [dashRuns] at member
  | cons first rest ih =>
    unfold dashRuns at member
    split_ifs at member with name previous
    · rcases mem_cons.1 member with rfl | later
      · exact .inl name
      · exact ih later
    · exact ih member
    · rcases mem_cons.1 member with rfl | later
      · exact .inr rfl
      · exact ih later

lemma singleDashes_dashRuns (previousDash : Bool) (text : List Char) :
    SingleDashes (dashRuns previousDash text) ∧ (previousDash = true →
        (dashRuns previousDash text).head? ≠ some '-') := by
  induction text generalizing previousDash with
  | nil => exact ⟨List.IsChain.nil, by simp [dashRuns]⟩
  | cons first rest ih =>
    unfold dashRuns
    split_ifs with name previous
    · have notDash : first ≠ '-' := by
        rintro rfl
        exact Bool.noConfusion name
      refine ⟨?_, fun _ => by simpa using notDash⟩
      exact isChain_cons.2 ⟨fun _ _ both => notDash both.1, (ih false).1⟩
    · exact ⟨(ih true).1, fun _ => (ih true).2 rfl⟩
    · refine ⟨isChain_cons.2 ⟨?_, (ih true).1⟩, fun dashed => absurd dashed previous⟩
      rintro second isHead ⟨_, rfl⟩
      exact (ih true).2 rfl isHead

lemma dashRuns_eq_self {previousDash : Bool} (chars : ∀ c ∈ text, IsResourceChar c)
    (single : SingleDashes text) (start : previousDash = true → text.head? ≠ some '-') :
    dashRuns previousDash text = text := by
  induction text generalizing previousDash with
  | nil => rfl
  | cons first rest ih =>
    have restChars : ∀ c ∈ rest, IsResourceChar c := fun c member => chars c (.tail _ member)
    have chain := isChain_cons.1 single
    unfold dashRuns
    split_ifs with name previous
    · rw [ih restChars chain.2 (fun dashed => by simp at dashed)]
    · rcases chars first (.head _) with isName | rfl
      · exact absurd isName name
      · exact absurd rfl (start previous)
    · rcases chars first (.head _) with isName | rfl
      · exact absurd isName name
      · rw [ih restChars chain.2]
        intro _ isHead
        exact chain.1 '-' isHead ⟨rfl, rfl⟩

/-! ## Trimming -/

section

variable (drop : Char → Bool)

lemma trimBy_isPrefix (text : List Char) : trimBy drop text <+: text.dropWhile drop := by
  have suffix : (text.dropWhile drop).reverse.dropWhile drop <:+
    (text.dropWhile drop).reverse := dropWhile_suffix drop
  simpa [trimBy] using reverse_prefix.2 suffix

lemma trimBy_isInfix (text : List Char) : trimBy drop text <:+: text :=
  (trimBy_isPrefix drop text).isInfix.trans (dropWhile_suffix drop).isInfix

lemma trimBy_eq_self {drop : Char → Bool} (first : ∀ c ∈ text.head?, drop c = false)
    (last : ∀ c ∈ text.getLast?, drop c = false) : trimBy drop text = text := by
  have unchanged : ∀ list : List Char,
      (∀ c ∈ list.head?, drop c = false) → list.dropWhile drop = list := by
    intro list head
    cases list with
    | nil => rfl
    | cons c rest => rw [dropWhile_cons_of_neg]; simp [head c rfl]
  rw [trimBy, unchanged text first, unchanged, reverse_reverse]
  rwa [head?_reverse]

lemma head?_dropWhile {drop : Char → Bool} {text : List Char}
    (isHead : (text.dropWhile drop).head? = some c) : drop c = false := by
  have stopped := head?_dropWhile_not drop text
  rw [isHead] at stopped
  simpa using stopped

lemma trimBy_ends (text : List Char) : (∀ c ∈ (trimBy drop text).head?, drop c = false) ∧
      ∀ c ∈ (trimBy drop text).getLast?, drop c = false := by
  constructor
  · intro c isHead
    obtain ⟨rest, whole⟩ := trimBy_isPrefix drop text
    have head : (text.dropWhile drop).head? = some c := by
      rw [← whole, head?_append, Option.mem_def.1 isHead]
      rfl
    exact head?_dropWhile head
  · intro c isLast
    rw [trimBy, getLast?_reverse] at isLast
    exact head?_dropWhile isLast

/-! ## Normalizing twice -/

lemma isResourceChar_normalized {name : String} (member : c ∈ (normalizeResourceName name).toList) :
    IsResourceChar c := by
  rw [normalizeResourceName, String.toList_ofList] at member
  exact isResourceChar_of_mem_dashRuns ((trimBy_isInfix _ _).subset member)

/-- A character of a normalized name is neither a space nor a capital. -/
lemma IsResourceChar.plain {c : Char} (resource : IsResourceChar c) :
    isSpace c = false ∧ toLowerAscii c = c := by
  rcases resource with name | rfl
  · have bounds : (97 ≤ c.toNat ∧ c.toNat ≤ 122) ∨ (48 ≤ c.toNat ∧ c.toNat ≤ 57) := by
      simp only [isNameChar, Bool.or_eq_true, Bool.and_eq_true, decide_eq_true_eq] at name
      exact name
    constructor
    · simp only [isSpace, Bool.or_eq_false_iff, Bool.and_eq_false_iff,
        decide_eq_false_iff_not, beq_eq_false_iff_ne]
      omega
    · have capital : ¬ ('A' ≤ c ∧ c ≤ 'Z') := by
        rintro ⟨low, high⟩
        have lower : 65 ≤ c.toNat := low
        have upper : c.toNat ≤ 90 := high
        omega
      rw [toLowerAscii, if_neg capital, if_neg (by omega), if_neg (by omega)]
  · decide

lemma normalizeResourceName_idem (name : String) :
    normalizeResourceName (normalizeResourceName name) = normalizeResourceName name := by
  have chars : ∀ c ∈ (normalizeResourceName name).toList,
    IsResourceChar c := fun c => isResourceChar_normalized
  have spaces : trimSpace (normalizeResourceName name) = normalizeResourceName name := by
    rw [trimSpace, trimBy_eq_self, String.ofList_toList]
    · exact fun c isHead => (chars c (mem_of_mem_head? isHead)).plain.1
    · exact fun c isLast =>
        (chars c (mem_of_mem_getLast? isLast)).plain.1
  have lower : (normalizeResourceName name).toList.map toLowerAscii =
      (normalizeResourceName name).toList :=
    (map_congr_left fun c member => (chars c member).plain.2).trans (map_id _)
  have single : SingleDashes (normalizeResourceName name).toList := by
    rw [normalizeResourceName, String.toList_ofList]
    have chain := (singleDashes_dashRuns false ((trimSpace name).toList.map toLowerAscii)).1
    rcases trimBy_isInfix (· == '-') (dashRuns false
      ((trimSpace name).toList.map toLowerAscii)) with ⟨before, after, split⟩
    rw [← split] at chain
    exact chain.left_of_append.right_of_append
  have ends := trimBy_ends (· == '-') (dashRuns false ((trimSpace name).toList.map toLowerAscii))
  conv_lhs =>
    rw [normalizeResourceName, spaces, lower, dashRuns_eq_self chars single (by simp)]
  rw [trimBy_eq_self, String.ofList_toList]
  · rw [normalizeResourceName, String.toList_ofList]
    exact ends.1
  · rw [normalizeResourceName, String.toList_ofList]
    exact ends.2

/-! ## The words of a name -/

/-- The maximal runs of lower-case letters and digits. -/
def nameRuns (text : List Char) : List (List Char) :=
  (text.splitOnP fun c => !isNameChar c).filter (· ≠ [])

/-- The runs of the trimmed lower-cased name, with single dashes between them. -/
def joinedRuns (name : String) : String :=
  String.ofList (['-'].intercalate (nameRuns ((trimSpace name).toList.map toLowerAscii)))

lemma dropWhile_dashRuns (previousDash : Bool) (text : List Char) :
    (dashRuns previousDash text).dropWhile (· == '-') = dashRuns true text := by
  induction text generalizing previousDash with
  | nil => rfl
  | cons first rest ih =>
    rw [dashRuns, dashRuns, if_pos rfl]
    split_ifs with name previous
    · have notDash : first ≠ '-' := by
        rintro rfl
        simp [isNameChar_dash] at name
      exact dropWhile_cons_of_neg (by simpa using notDash)
    · exact ih true
    · rw [dropWhile_cons_of_pos (by simp)]
      exact ih true

lemma rdropWhile_cons (first : Char) (rest : List Char) :
    (first :: rest).rdropWhile drop =
      if rest.rdropWhile drop = [] then if drop first then [] else [first]
      else first :: rest.rdropWhile drop := by
  simp only [List.rdropWhile, List.reverse_cons, List.dropWhile_append, List.reverse_eq_nil_iff,
    List.isEmpty_iff]
  split_ifs with empty dropped
  · simp [dropped]
  · simp [dropped]
  · simp

end

lemma intercalate_cons_of_ne_nil (first : List Char) (more : rest ≠ []) :
    ['-'].intercalate (first :: rest) = first ++ '-' :: ['-'].intercalate rest := by
  cases rest with
  | nil => exact absurd rfl more
  | cons second rest => simp [intercalate]

lemma intercalate_eq_nil_iff (nonempty : ∀ run ∈ runs, run ≠ []) :
    ['-'].intercalate runs = [] ↔ runs = [] := by
  cases runs with
  | nil => simp [intercalate]
  | cons first rest =>
    have run := nonempty first (.head _)
    cases rest with
    | nil => simpa [intercalate] using run
    | cons second rest => simp [intercalate]

/-- What is written after a dash has no empty word, what continues a word may. -/
lemma rdropWhile_dashRuns (text : List Char) :
    ∃ word words, text.splitOnP (fun c => !isNameChar c) = word :: words ∧
      (dashRuns false text).rdropWhile (· == '-') =
        ['-'].intercalate (word :: words.filter (· ≠ [])) ∧
      (dashRuns true text).rdropWhile (· == '-') =
        ['-'].intercalate ((word :: words).filter (· ≠ [])) := by
  induction text with
  | nil => exact ⟨[], [], by simp, by simp [dashRuns, intercalate], by simp [dashRuns]⟩
  | cons first rest induction =>
    rcases induction with ⟨word, words, split, inWord, afterDash⟩
    rw [splitOnP_cons_eq_if_modifyHead, split]
    cases isName : isNameChar first with
    | true =>
      have notDash : first ≠ '-' := by
        rintro rfl
        simp [isNameChar_dash] at isName
      have written : ∀ previousDash, (dashRuns previousDash (first :: rest)).rdropWhile (· == '-') =
          first :: ['-'].intercalate (word :: words.filter (· ≠ [])) := by
        intro previousDash
        rw [dashRuns, if_pos isName, rdropWhile_cons, ← inWord]
        split_ifs with empty dashed
        · exact absurd (by simpa using dashed) notDash
        · rw [empty]
        · rfl
      have longer : ['-'].intercalate ((first :: word) :: words.filter (· ≠ [])) =
          first :: ['-'].intercalate (word :: words.filter (· ≠ [])) := by
        cases words.filter (· ≠ []) with
        | nil => simp [intercalate]
        | cons second more => simp [intercalate]
      refine ⟨first :: word, words, by simp, ?_, ?_⟩
      · rw [written, longer]
      · rw [written, filter_cons_of_pos (by simp), longer]
    | false =>
      have dropped : (word :: words).filter (· ≠ []) = ([] :: word :: words).filter (· ≠ []) :=
        (filter_cons_of_neg (by simp)).symm
      refine ⟨[], word :: words, by simp, ?_, ?_⟩
      · rw [dashRuns, if_neg (by simp [isName]), if_neg (by simp), rdropWhile_cons, afterDash]
        have nonempty : ∀ run ∈ (word :: words).filter (· ≠ []), run ≠ [] :=
          fun run listed => by simpa using (mem_filter.mp listed).2
        by_cases none : (word :: words).filter (· ≠ []) = []
        · rw [if_pos ((intercalate_eq_nil_iff nonempty).mpr none), none]
          rfl
        · rw [if_neg (mt (intercalate_eq_nil_iff nonempty).mp none),
            intercalate_cons_of_ne_nil [] none]
          rfl
      · rw [dashRuns, if_neg (by simp [isName]), if_pos rfl, afterDash, dropped]

lemma normalizeResourceName_eq_joinedRuns (name : String) :
    normalizeResourceName name = joinedRuns name := by
  rcases rdropWhile_dashRuns ((trimSpace name).toList.map toLowerAscii) with
    ⟨word, words, split, _, afterDash⟩
  rw [normalizeResourceName, trimBy, dropWhile_dashRuns, joinedRuns, nameRuns, split, ← afterDash]
  rfl

lemma foldl_addNameChar (text written : List Char) (previousDash : Bool) :
    (text.foldl SwitchAgent.addNameChar (written, previousDash)).1 =
      written ++ dashRuns previousDash text := by
  induction text generalizing written previousDash with
  | nil => simp [dashRuns]
  | cons first rest ih =>
    have sameClass : isNameChar first = true ↔
        ('a' ≤ first ∧ first ≤ 'z') ∨ ('0' ≤ first ∧ first ≤ '9') := by
      simp [isNameChar]
    rw [foldl_cons, SwitchAgent.addNameChar, dashRuns]
    simp only [sameClass]
    split_ifs with name previous
    · rw [ih, append_assoc, singleton_append]
    · rw [previous, ih]
    · rw [ih, append_assoc, singleton_append]

/--
A normalized name consists of the words of the name, normalizing twice changes
nothing, the switch agent normalizes alike, and a switch which is invented for
a normalized hostname gets the hostname as its name.
-/
theorem normalizeResourceName_canonical (name : String) :
    normalizeResourceName name = joinedRuns name ∧
      normalizeResourceName (normalizeResourceName name) = normalizeResourceName name ∧
      SwitchAgent.normalizeSwitchName name = normalizeResourceName name ∧
      ∀ (normalizedSwitchNames : GoMap String String) (nodeName port : String) (links : HostLinks),
        port ≠ "" → normalizeResourceName name ≠ "" →
        resolveSwitchName (normalizeResourceName name) normalizedSwitchNames links.builders =
          none → (addNic normalizedSwitchNames true nodeName links
            ⟨"up", ⟨normalizeResourceName name, port⟩⟩).syntheticSwitches =
          links.syntheticSwitches.insert (normalizeResourceName name) true := by
  refine ⟨normalizeResourceName_eq_joinedRuns name, normalizeResourceName_idem name, ?_, ?_⟩
  · rw [SwitchAgent.normalizeSwitchName, foldl_addNameChar, nil_append, normalizeResourceName]
  · intro normalizedSwitchNames nodeName port links isPort nonempty unknown
    have idem := normalizeResourceName_idem name
    rw [addNic, if_neg (by simp [nonempty, isPort]), unknown]
    simp [idem, nonempty]

/-- A NIC with a normalized hostname: the invented switch is named like it. -/
theorem normalizeResourceName_canonical_leaf :
    let name := normalizeResourceName " Leaf_01 "
    name = "leaf-01" ∧ (addNic ∅ true "n1" ⟨∅, ∅, ∅⟩ ⟨"up", ⟨name, "p1"⟩⟩).syntheticSwitches =
      (∅ : GoMap String Bool).insert name true := by
  intro name
  have named : name = "leaf-01" := by decide +kernel
  refine ⟨named, (normalizeResourceName_canonical " Leaf_01 ").2.2.2 ∅ "n1" "p1" ⟨∅, ∅, ∅⟩
    (by decide) ?_ ?_⟩
  · exact named.trans_ne (by decide)
  · decide +kernel

end Unifabric.SwitchTopology
