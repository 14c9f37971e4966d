import Unifabric.Lib.GlobMatch
import Unifabric.Lib.GoMap
import Unifabric.TopologyLabel.Template

/-!
# The automaton of a template

The keys of a template are its prefix, a positive decimal and its suffix.  An
automaton with one empty move, from the digits to the suffix, reads this
language byte by byte; the code runs it on sets of states.  This module says
which states a word reaches, and that the accepting state is reached exactly
by the words of the language.
-/

namespace Unifabric.TopologyLabel

open Lib
open List hiding cons le_refl next nil

variable {character state : Nat} {word : List Nat}

/-! ## The language -/

/-- The bytes match `[1-9][0-9]*`. -/
def isTierBytes : List Nat → Bool
  | [] => false
  | first :: rest => byteIn 0x31 0x39 first && rest.all (byteIn 0x30 0x39)

/-- The byte string is in the language `prefix [1-9][0-9]* suffix`. -/
def Template.Generates (template : Template) (word : List Nat) : Prop :=
  ∃ tier, isTierBytes tier = true ∧ word = utf8Bytes template.textPrefix ++ tier ++
      utf8Bytes template.textSuffix

lemma isTierBytes_concat (tier : List Nat) (byte : Nat) : isTierBytes (tier ++ [byte]) = true ↔
      (tier = [] ∧ byteIn 0x31 0x39 byte = true) ∨
        (isTierBytes tier = true ∧ byteIn 0x30 0x39 byte = true) := by
  cases tier with
  | nil => simp [isTierBytes]
  | cons first rest =>
    simp only [isTierBytes, cons_append, all_append,
      all_cons, all_nil, Bool.and_true, Bool.and_eq_true]
    simp [and_assoc]

/-- The characters of a positive decimal are the bytes of a tier. -/
lemma isTierBytes_map_toNat (positive : isPositiveDecimal text = true) :
    isTierBytes (text.map Char.toNat) = true := by
  have digit : ∀ c : Char, c.isDigit = true → 0x30 ≤ c.toNat ∧ c.toNat ≤ 0x39 := by
    intro c isDigit
    simp only [Char.isDigit, Bool.and_eq_true, decide_eq_true_eq] at isDigit
    exact ⟨isDigit.1, isDigit.2⟩
  cases text with
  | nil => simp [isPositiveDecimal] at positive
  | cons first rest =>
    simp only [isPositiveDecimal, Bool.and_eq_true, bne_iff_ne, all_eq_true] at positive
    obtain ⟨⟨isDigit, nonzero⟩, digits⟩ := positive
    have notZero : first.toNat ≠ 0x30 := by
      intro same
      exact nonzero (Char.toNat_inj.1 same)
    have bounds := digit first isDigit
    simp only [map_cons, isTierBytes, byteIn, Bool.and_eq_true,
      decide_eq_true_eq, all_map, all_eq_true,
      Function.comp_apply]
    exact ⟨⟨by omega, bounds.2⟩, fun c member => digit c (digits c member)⟩

/-! ## The automaton -/

/-- A set of states. -/
abbrev StateSet := GoMap Nat Unit

/--
The automaton of a template: the states of the prefix, the state behind the
first digit, and the states of the suffix.
-/
structure TierLanguage where
  textPrefix : List Nat
  textSuffix : List Nat
  digitState : Nat
  suffixStart : Nat
  acceptState : Nat
  digitState_eq : digitState = textPrefix.length + 1
  suffixStart_eq : suffixStart = digitState + 1
  acceptState_eq : acceptState = suffixStart + textSuffix.length

def newTierLanguage (value : Template) : TierLanguage where
  textPrefix := utf8Bytes value.textPrefix
  textSuffix := utf8Bytes value.textSuffix
  digitState := (utf8Bytes value.textPrefix).length + 1
  suffixStart := (utf8Bytes value.textPrefix).length + 1 + 1
  acceptState := (utf8Bytes value.textPrefix).length + 1 + 1 + (utf8Bytes value.textSuffix).length
  digitState_eq := rfl
  suffixStart_eq := rfl
  acceptState_eq := rfl

section

variable (runtime : Runtime) (site : List String) (nfa : TierLanguage)

def cloneStateSet (states : StateSet) : StateSet :=
  (runtime.range (site ++ ["clone"]) states.keys).foldl
    (fun result state => result.insert state ()) ∅

/-- `closure`: the digits may end before every byte. -/
def TierLanguage.closure (states : StateSet) : StateSet :=
  let result := cloneStateSet runtime site states
  if result.contains nfa.digitState then
    result.insert nfa.suffixStart ()
  else result

/-- The state which the switch in `transition` adds for a state. -/
def TierLanguage.target (character state : Nat) : Option Nat :=
  if state < nfa.textPrefix.length then
    if nfa.textPrefix[state]? = some character then some (state + 1)
    else none
  else if state = nfa.textPrefix.length then
    if byteIn 0x31 0x39 character then some nfa.digitState else none
  else if state = nfa.digitState then
    if byteIn 0x30 0x39 character then some nfa.digitState else none
  else if nfa.suffixStart ≤ state ∧ state < nfa.acceptState then
    if nfa.textSuffix[state - nfa.suffixStart]? = some character then
      some (state + 1)
    else none
  else none

/-- The body of the loop of `transition`. -/
def TierLanguage.transitionState (character : Nat) (next : StateSet) (state : Nat) : StateSet :=
  match nfa.target character state with
  | some target => next.insert target ()
  | none => next

def TierLanguage.transition (states : StateSet) (character : Nat) : StateSet :=
  nfa.closure runtime site ((runtime.range (site ++ ["transition"]) states.keys).foldl
      (nfa.transitionState character) ∅)

def TierLanguage.accepts (states : StateSet) : Bool := states.contains nfa.acceptState

end

/-! ## What one byte does -/

/-- The moves of the automaton on one byte. -/
inductive TierLanguage.Moves (nfa : TierLanguage) (character : Nat) :
    Nat → Nat → Prop where
  | inPrefix (state : Nat) : nfa.textPrefix[state]? = some character →
        nfa.Moves character state (state + 1)
  | firstDigit : byteIn 0x31 0x39 character = true →
      nfa.Moves character nfa.textPrefix.length nfa.digitState
  | digit : byteIn 0x30 0x39 character = true → nfa.Moves character nfa.digitState nfa.digitState
  | inSuffix (index : Nat) : nfa.textSuffix[index]? = some character →
        nfa.Moves character (nfa.suffixStart + index) (nfa.suffixStart + index + 1)

/-- The states which the automaton may be in after a word. -/
inductive TierLanguage.Reads (nfa : TierLanguage) :
    List Nat → Nat → Prop where
  | start : nfa.Reads [] 0
  | move {word : List Nat} {state target character : Nat} :
      nfa.Reads word state → nfa.Moves character state target →
        nfa.Reads (word ++ [character]) target
  | skip {word : List Nat} : nfa.Reads word nfa.digitState → nfa.Reads word nfa.suffixStart

section

variable {runtime : Runtime} {site : List String} {nfa : TierLanguage}

lemma target_eq_some_iff {target : Nat} : nfa.target character state = some target ↔
      nfa.Moves character state target := by
  have digitState := nfa.digitState_eq
  have suffixStart := nfa.suffixStart_eq
  have acceptState := nfa.acceptState_eq
  constructor
  · intro found
    unfold TierLanguage.target at found
    split_ifs at found with inPrefix byte first isFirst digit isDigit inSuffix byte'
    · cases found
      exact .inPrefix state byte
    · cases found
      rw [first]
      exact .firstDigit isFirst
    · cases found
      rw [digit]
      exact .digit isDigit
    · cases found
      have moved := TierLanguage.Moves.inSuffix _ byte'
      rwa [Nat.add_sub_cancel' inSuffix.1] at moved
  · intro moves
    cases moves with
    | inPrefix state byte =>
      have inside := (List.getElem?_eq_some_iff.1 byte).1
      rw [TierLanguage.target, if_pos inside, if_pos byte]
    | firstDigit isFirst => rw [TierLanguage.target, if_neg (by omega), if_pos rfl, if_pos isFirst]
    | digit isDigit =>
      rw [TierLanguage.target, if_neg (by omega), if_neg (by omega), if_pos rfl, if_pos isDigit]
    | inSuffix index byte =>
      have inside := (List.getElem?_eq_some_iff.1 byte).1
      rw [TierLanguage.target, if_neg (by omega), if_neg (by omega),
        if_neg (by omega), if_pos (by omega), Nat.add_sub_cancel_left,
        if_pos byte]

lemma mem_transitionState {target : Nat} : target ∈ nfa.transitionState character next state ↔
      nfa.Moves character state target ∨ target ∈ next := by
  rw [← target_eq_some_iff, TierLanguage.transitionState]
  cases nfa.target character state with
  | none => simp
  | some found =>
    simp only [GoMap.mem_insert, Option.some_inj]
    rw [eq_comm]

/-- Ranging over the states collects what each of them moves to. -/
lemma mem_foldl_transitionState {target : Nat} (states : List Nat) (next : StateSet) :
    target ∈ states.foldl (nfa.transitionState character) next ↔
      (∃ state ∈ states, nfa.Moves character state target) ∨ target ∈ next := by
  induction states generalizing next with
  | nil => simp
  | cons state rest ih =>
    rw [foldl_cons, ih, mem_transitionState]
    simp only [mem_cons, exists_eq_or_imp]
    rw [← or_assoc, or_comm (a := ∃ _, _)]

lemma mem_foldl_insert (listed : List Nat) (result : StateSet) :
    value ∈ listed.foldl (fun result state => result.insert state ())
        result ↔ value ∈ listed ∨ value ∈ result := by
  induction listed generalizing result with
  | nil => simp
  | cons first rest ih =>
    rw [foldl_cons, ih, GoMap.mem_insert, mem_cons]
    tauto

lemma cloneStateSet_eq (states : StateSet) : cloneStateSet runtime site states = states := by
  refine GoMap.set_ext fun state => ?_
  rw [cloneStateSet, mem_foldl_insert, MapOrder.mem_range, Std.ExtTreeMap.mem_keys]
  simp

lemma mem_closure : state ∈ nfa.closure runtime site states ↔ state ∈ states ∨
        (state = nfa.suffixStart ∧ nfa.digitState ∈ states) := by
  unfold TierLanguage.closure
  simp only [cloneStateSet_eq, Std.ExtTreeMap.contains_iff_mem]
  split_ifs with digits
  · rw [GoMap.mem_insert]
    tauto
  · tauto

lemma mem_transition {target : Nat} : target ∈ nfa.transition runtime site states character ↔
      (∃ state ∈ states, nfa.Moves character state target) ∨ (target = nfa.suffixStart ∧
          ∃ state ∈ states, nfa.Moves character state nfa.digitState) := by
  have none : ∀ state, ¬ state ∈ (∅ : StateSet) := by simp
  simp only [TierLanguage.transition, mem_closure, mem_foldl_transitionState, MapOrder.mem_range,
    Std.ExtTreeMap.mem_keys, none, or_false]

end

/-! ## The words which reach a state -/

section

variable {nfa : TierLanguage}

/-- Where in the language a word which reaches a state has got to. -/
def TierLanguage.Position (nfa : TierLanguage) (word : List Nat) (state : Nat) : Prop :=
  (state ≤ nfa.textPrefix.length ∧ word = nfa.textPrefix.take state) ∨
    (state = nfa.digitState ∧ ∃ tier, isTierBytes tier = true ∧ word = nfa.textPrefix ++ tier) ∨
    ∃ index ≤ nfa.textSuffix.length, state = nfa.suffixStart + index ∧
      ∃ tier, isTierBytes tier = true ∧ word = nfa.textPrefix ++ tier ++ nfa.textSuffix.take index

lemma TierLanguage.Position.moves {target : Nat} (position : nfa.Position word state)
    (moves : nfa.Moves character state target) : nfa.Position (word ++ [character]) target := by
  have digitState := nfa.digitState_eq
  have suffixStart := nfa.suffixStart_eq
  cases moves with
  | inPrefix state byte =>
    have inside := (List.getElem?_eq_some_iff.1 byte).1
    rcases position with ⟨_, rfl⟩ | ⟨same, _⟩ | ⟨index, _, same, _⟩
    · exact .inl ⟨inside, by rw [List.take_add_one, byte]; rfl⟩
    · omega
    · omega
  | firstDigit isFirst =>
    rcases position with ⟨_, rfl⟩ | ⟨same, _⟩ | ⟨index, _, same, _⟩
    · refine .inr (.inl ⟨rfl, [character], ?_, ?_⟩)
      · simpa [isTierBytes] using isFirst
      · rw [List.take_length]
    · omega
    · omega
  | digit isDigit =>
    rcases position with ⟨low, _⟩ | ⟨_, tier, isTier, rfl⟩ | ⟨index, _, same, _⟩
    · omega
    · exact .inr (.inl ⟨rfl, tier ++ [character], (isTierBytes_concat tier character).2
          (.inr ⟨isTier, isDigit⟩),
        List.append_assoc _ _ _⟩)
    · omega
  | inSuffix index byte =>
    have inside := (List.getElem?_eq_some_iff.1 byte).1
    rcases position with ⟨low, _⟩ | ⟨same, _⟩ | ⟨other, _, same, tier, isTier, rfl⟩
    · omega
    · omega
    · have equal : other = index := by omega
      subst equal
      refine .inr (.inr ⟨other + 1, inside, rfl, tier, isTier, ?_⟩)
      rw [List.take_add_one, byte, List.append_assoc]
      rfl

/-- A word reaches a state only at its position in the language. -/
lemma TierLanguage.Reads.position (reads : nfa.Reads word state) : nfa.Position word state := by
  have digitState := nfa.digitState_eq
  have suffixStart := nfa.suffixStart_eq
  induction reads with
  | start => exact .inl ⟨Nat.zero_le _, rfl⟩
  | move _ moves position => exact position.moves moves
  | skip _ position =>
    rcases position with ⟨low, _⟩ | ⟨_, tier, isTier, rfl⟩ | ⟨index, _, same, _⟩
    · omega
    · exact .inr (.inr ⟨0, Nat.zero_le _, rfl, tier, isTier, (append_nil _).symm⟩)
    · omega

lemma reads_prefix (inside : index ≤ nfa.textPrefix.length) :
    nfa.Reads (nfa.textPrefix.take index) index := by
  induction index with
  | zero => exact .start
  | succ index ih =>
    have byte := getElem?_eq_getElem inside
    rw [take_add_one, byte]
    exact .move (ih (by omega)) (.inPrefix index byte)

lemma reads_tier (isTier : isTierBytes tier = true) :
    nfa.Reads (nfa.textPrefix ++ tier) nfa.digitState := by
  induction tier using reverseRecOn with
  | nil => simp [isTierBytes] at isTier
  | append_singleton init last ih =>
    rw [← append_assoc]
    rcases (isTierBytes_concat init last).1 isTier with ⟨rfl, isFirst⟩ | ⟨isInit, isDigit⟩
    · have whole := reads_prefix (le_refl nfa.textPrefix.length)
      rw [take_length] at whole
      rw [append_nil]
      exact .move whole (.firstDigit isFirst)
    · exact .move (ih isInit) (.digit isDigit)

lemma reads_suffix (isTier : isTierBytes tier = true) (inside : index ≤ nfa.textSuffix.length) :
    nfa.Reads (nfa.textPrefix ++ tier ++ nfa.textSuffix.take index) (nfa.suffixStart + index) := by
  induction index with
  | zero =>
    rw [take_zero, append_nil]
    exact .skip (reads_tier isTier)
  | succ index ih =>
    have byte := getElem?_eq_getElem inside
    rw [take_add_one, byte, ← append_assoc]
    exact .move (ih (by omega)) (.inSuffix index byte)

/-- The accepting state is reached exactly by the words of the language. -/
lemma reads_acceptState_iff : nfa.Reads word nfa.acceptState ↔ ∃ tier, isTierBytes tier = true ∧
        word = nfa.textPrefix ++ tier ++ nfa.textSuffix := by
  have digitState := nfa.digitState_eq
  have suffixStart := nfa.suffixStart_eq
  have acceptState := nfa.acceptState_eq
  constructor
  · intro reads
    rcases reads.position with ⟨low, _⟩ | ⟨same, _⟩ | ⟨index, _, same, tier, isTier, rfl⟩
    · omega
    · omega
    · have whole : index = nfa.textSuffix.length := by omega
      exact ⟨tier, isTier, by rw [whole, take_length]⟩
  · rintro ⟨tier, isTier, rfl⟩
    have reads := reads_suffix isTier (le_refl nfa.textSuffix.length)
    rwa [take_length, ← acceptState] at reads

lemma eq_zero_of_reads_nil (reads : nfa.Reads word state) (empty : word = []) : state = 0 := by
  have digitState := nfa.digitState_eq
  induction reads with
  | start => rfl
  | move => simp at empty
  | skip _ ih =>
    have zero := ih empty
    omega

lemma reads_concat_iff {target : Nat} : nfa.Reads (word ++ [character]) target ↔
      (∃ state, nfa.Reads word state ∧ nfa.Moves character state target) ∨
        (target = nfa.suffixStart ∧ ∃ state, nfa.Reads word state ∧
          nfa.Moves character state nfa.digitState) := by
  have suffixStart := nfa.suffixStart_eq
  have moved : ∀ {whole : List Nat} {target : Nat},
      nfa.Reads whole target → whole = word ++ [character] → (∃ state, nfa.Reads word state ∧
            nfa.Moves character state target) ∨
          (target = nfa.suffixStart ∧ nfa.Reads (word ++ [character]) nfa.digitState) := by
    intro whole target reads split
    cases reads with
    | start => simp at split
    | move before moves =>
      obtain ⟨rfl, last⟩ := append_inj' split rfl
      cases last
      exact .inl ⟨_, before, moves⟩
    | skip digits => exact .inr ⟨rfl, split ▸ digits⟩
  constructor
  · intro reads
    rcases moved reads rfl with direct | ⟨same, digits⟩
    · exact .inl direct
    · rcases moved digits rfl with direct | ⟨contra, _⟩
      · exact .inr ⟨same, direct⟩
      · omega
  · rintro (⟨state, before, moves⟩ | ⟨rfl, state, before, moves⟩)
    · exact .move before moves
    · exact .skip (.move before moves)

lemma exists_moves_of_reads_concat (reads : nfa.Reads (word ++ [character]) state) :
    ∃ earlier target, nfa.Reads word earlier ∧ nfa.Moves character earlier target := by
  rcases reads_concat_iff.1 reads with ⟨earlier, reached, moves⟩ | ⟨_, earlier, reached, moves⟩
  · exact ⟨earlier, state, reached, moves⟩
  · exact ⟨earlier, nfa.digitState, reached, moves⟩

/-- Every byte which is read occurs in the texts or is a digit. -/
lemma mem_of_moves {target : Nat} (moves : nfa.Moves character state target) :
    character ∈ nfa.textPrefix ∨ character ∈ nfa.textSuffix ∨
      byteIn 0x30 0x39 character = true := by
  cases moves with
  | inPrefix _ byte => exact .inl (mem_of_getElem? byte)
  | firstDigit isFirst =>
    refine .inr (.inr ?_)
    simp only [byteIn, Bool.and_eq_true, decide_eq_true_eq] at isFirst ⊢
    omega
  | digit isDigit => exact .inr (.inr isDigit)
  | inSuffix _ byte => exact .inr (.inl (mem_of_getElem? byte))

lemma target_le_acceptState {target : Nat} (moves : nfa.Moves character state target) :
    target ≤ nfa.acceptState := by
  have digitState := nfa.digitState_eq
  have suffixStart := nfa.suffixStart_eq
  have acceptState := nfa.acceptState_eq
  cases moves with
  | inPrefix _ byte =>
    have inside := (List.getElem?_eq_some_iff.1 byte).1
    omega
  | firstDigit _ => omega
  | digit _ => omega
  | inSuffix _ byte =>
    have inside := (List.getElem?_eq_some_iff.1 byte).1
    omega

end

/-! ## Sets of states -/

section

variable {runtime : Runtime} {site : List String} {nfa : TierLanguage}

/-- The set holds the states which the word reaches. -/
def TierLanguage.Agrees (nfa : TierLanguage) (states : StateSet) (word : List Nat) : Prop :=
  ∀ state, state ∈ states ↔ nfa.Reads word state

lemma agrees_start : nfa.Agrees (nfa.closure runtime site ((∅ : StateSet).insert 0 ())) [] := by
  have digitState := nfa.digitState_eq
  intro state
  have none : ∀ other, ¬ other ∈ (∅ : StateSet) := by simp
  simp only [mem_closure, GoMap.mem_insert, none, or_false]
  constructor
  · rintro (rfl | ⟨_, digits⟩)
    · exact .start
    · omega
  · intro reads
    exact .inl (eq_zero_of_reads_nil reads rfl)

lemma TierLanguage.Agrees.transition (agrees : nfa.Agrees states word) (character : Nat) :
    nfa.Agrees (nfa.transition runtime site states character) (word ++ [character]) := by
  intro target
  rw [mem_transition, reads_concat_iff]
  simp only [agrees _]

lemma reads_of_generates (generates : template.Generates word) :
    (newTierLanguage template).Reads word (newTierLanguage template).acceptState :=
  reads_acceptState_iff.2 generates

lemma isEmpty_transition (agrees : nfa.Agrees states word)
    (reads : nfa.Reads (word ++ [character]) state) :
    (nfa.transition runtime site states character).isEmpty = false :=
  GoMap.isEmpty_eq_false_iff.2 ⟨state, (agrees.transition character state).2 reads⟩

lemma accepts_iff (agrees : (newTierLanguage template).Agrees states word) :
    (newTierLanguage template).accepts states = true ↔ template.Generates word := by
  rw [TierLanguage.accepts, Std.ExtTreeMap.contains_iff_mem, agrees, reads_acceptState_iff]
  rfl

end

end Unifabric.TopologyLabel
