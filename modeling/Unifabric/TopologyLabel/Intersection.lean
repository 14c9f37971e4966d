import Unifabric.Lib.GoalSearch
import Unifabric.Lib.Separated
import Unifabric.TopologyLabel.TierLanguage

/-!
# A common key of two templates

`intersectionExample` runs the automata of two templates side by side on every
byte which occurs in one of them, breadth first, and returns the first word
which both accept.  The search stops, it finds a word exactly when the
languages meet, and for texts of one-byte characters the word is in both.
-/

namespace Unifabric.TopologyLabel

open Lib Relation GoMap
open List hiding after all below cons head keys next

/-! ## The search -/

/-- A pair of sets of states with a word which leads to it. -/
structure LanguagePairState where
  left : StateSet
  right : StateSet
  exampleKey : List Nat

/-- The variables of the loop. -/
structure IntersectionSearch where
  queue : List LanguagePairState
  visited : GoMap String Unit

/-- The conversion of a byte to a string, which encodes it as a rune. -/
def stringOfByte (character : Nat) : List Nat :=
  if character < 0x80 then [character]
  else [0xC0 + character / 0x40, 0x80 + character % 0x40]

section

variable (runtime : Runtime) (site : List String)

def stateSetKey (states : StateSet) : String :=
  String.ofList ((sortValues (runtime.range (site ++ ["key"]) states.keys)).flatMap
      fun state : Nat => digits (state : Int) ++ [','])

def pairStateKey (left right : StateSet) : String :=
  stateSetKey runtime (site ++ ["left"]) left ++ "|" ++
    stateSetKey runtime (site ++ ["right"]) right

/-- `languageAlphabet`: the digits and the bytes of the texts. -/
def languageAlphabet (values : List TierLanguage) : List Nat :=
  let digitSet : StateSet :=
    ((range 10).map (0x30 + ·)).foldl (fun set character => set.insert character ()) ∅
  let set : StateSet := values.foldl (fun set value => (value.textPrefix ++ value.textSuffix).foldl
      (fun set character => set.insert character ()) set) digitSet
  sortValues (runtime.range (site ++ ["alphabet"]) set.keys)

variable (leftNFA rightNFA : TierLanguage)

/-- The body of the loop over the alphabet. -/
def visitCharacter (current : LanguagePairState)
    (search : IntersectionSearch) (character : Nat) : IntersectionSearch :=
  let inner := (current.exampleKey ++ [character]).map toString
  let nextLeft := leftNFA.transition runtime ("left" :: inner) current.left character
  let nextRight := rightNFA.transition runtime ("right" :: inner) current.right character
  if nextLeft.isEmpty || nextRight.isEmpty then search
  else
    let key := pairStateKey runtime inner nextLeft nextRight
    if search.visited.contains key then search
    else
      { queue := search.queue ++
          [{ left := nextLeft
             right := nextRight
             exampleKey :=
               current.exampleKey ++ stringOfByte character }]
        visited := search.visited.insert key () }

/-- One iteration; the loop ends with the queue or at an accepting pair. -/
def intersectionStep (search : IntersectionSearch) : Option IntersectionSearch :=
  match search.queue with
  | [] => none
  | current :: rest =>
    if leftNFA.accepts current.left && rightNFA.accepts current.right then
      none
    else
      some ((languageAlphabet runtime [] [leftNFA, rightNFA]).foldl
        (visitCharacter runtime leftNFA rightNFA current)
        { search with queue := rest })

/-- The variables before the loop. -/
def intersectionStart : IntersectionSearch :=
  let left := leftNFA.closure runtime ["left"] ((∅ : StateSet).insert 0 ())
  let right := rightNFA.closure runtime ["right"] ((∅ : StateSet).insert 0 ())
  { queue := [{ left := left, right := right, exampleKey := [] }]
    visited := (∅ : GoMap String Unit).insert (pairStateKey runtime [] left right) () }

/-- More iterations than there are pairs of sets of states. -/
def intersectionBound : Nat := 2 ^ (leftNFA.acceptState + 1) * 2 ^ (rightNFA.acceptState + 1) + 2

/-- The variables behind the loop. -/
def intersectionEnd : IntersectionSearch :=
  runLoop (intersectionStep runtime leftNFA rightNFA) (intersectionBound leftNFA rightNFA)
    (intersectionStart runtime leftNFA rightNFA)

end

def intersectionExample (runtime : Runtime) (left right : Template) : List Nat × Bool :=
  match (intersectionEnd runtime (newTierLanguage left) (newTierLanguage right)).queue with
  | [] => ([], false)
  | current :: _ => (current.exampleKey, true)

/-! ## The open choices of the language do not matter -/

section

variable (runtime : Runtime) (site : List String)

lemma transition_runtime (nfa : TierLanguage) (states : StateSet) (character : Nat) :
    nfa.transition runtime site states character = nfa.transition .canonical [] states character :=
  set_ext fun state => by rw [mem_transition, mem_transition]

lemma stateSetKey_eq (states : StateSet) : stateSetKey runtime site states =
      String.ofList ((states.keys.map fun state : Nat =>
        digits (state : Int)).flatMap fun text => text ++ [',']) := by
  rw [stateSetKey, MapOrder.sort_range_keys, flatMap_map]

lemma pairStateKey_runtime (left right : StateSet) : pairStateKey runtime site left right =
      pairStateKey .canonical [] left right := by
  simp only [pairStateKey, stateSetKey_eq]

lemma separator_not_mem_digits (number : Nat) (other : separator.isDigit = false) :
    separator ∉ digits (number : Int) := by
  intro member
  rw [isDigit_of_mem_digits number member] at other
  exact Bool.noConfusion other

lemma stateSetKey_injective
    (same : stateSetKey runtime site left = stateSetKey runtime site' right) : left = right := by
  rw [stateSetKey_eq, stateSetKey_eq] at same
  have free : ∀ (states : StateSet),
      ∀ text ∈ states.keys.map fun state : Nat => digits (state : Int), ',' ∉ text := by
    intro states text member
    obtain ⟨state, _, rfl⟩ := mem_map.1 member
    exact separator_not_mem_digits state rfl
  have texts := separated_inj (free left) (free right) (String.ofList_inj.1 same)
  have keys : left.keys = right.keys :=
    map_injective_iff.2 (fun _ _ equal => toDigits_injective equal) texts
  refine set_ext fun state => ?_
  rw [← Std.ExtTreeMap.mem_keys, keys, Std.ExtTreeMap.mem_keys]

lemma pairStateKey_injective
    (same : pairStateKey runtime site left right = pairStateKey runtime site left' right') :
    left = left' ∧ right = right' := by
  have free : ∀ (states : StateSet) (inner : List String),
      '|' ∉ (stateSetKey runtime inner states).toList := by
    intro states inner member
    rw [stateSetKey_eq, String.toList_ofList] at member
    obtain ⟨text, listed, inText⟩ := mem_flatMap.1 member
    obtain ⟨state, _, rfl⟩ := mem_map.1 listed
    rcases mem_append.1 inText with digit | comma
    · exact separator_not_mem_digits state rfl digit
    · simp at comma
  have texts := congrArg String.toList same
  simp only [pairStateKey, String.toList_append, append_assoc] at texts
  obtain ⟨leftTexts, rightTexts⟩ := append_separator_inj (free left _) (free left' _) texts
  exact ⟨stateSetKey_injective runtime _ (String.toList_inj.1 leftTexts),
    stateSetKey_injective runtime _ (String.toList_inj.1 rightTexts)⟩

lemma mem_languageAlphabet {left right : TierLanguage} :
    character ∈ languageAlphabet runtime site [left, right] ↔ byteIn 0x30 0x39 character = true ∨
        character ∈ left.textPrefix ++ left.textSuffix ∨
        character ∈ right.textPrefix ++ right.textSuffix := by
  have digit : character ∈ (range 10).map (0x30 + ·) ↔ byteIn 0x30 0x39 character = true := by
    simp only [mem_map, mem_range, byteIn, Bool.and_eq_true, decide_eq_true_eq]
    constructor
    · rintro ⟨digit, small, rfl⟩
      omega
    · rintro ⟨low, high⟩
      exact ⟨character - 0x30, by omega, by omega⟩
  have none : ¬ character ∈ (∅ : StateSet) := by simp
  rw [languageAlphabet, mem_sortValues, MapOrder.mem_range, Std.ExtTreeMap.mem_keys]
  simp only [foldl_cons, foldl_nil, mem_foldl_insert, digit, none, or_false]
  tauto

lemma languageAlphabet_runtime (values : List TierLanguage) :
    languageAlphabet runtime site values = languageAlphabet .canonical [] values := by
  simp only [languageAlphabet, MapOrder.sort_range_keys]

end

/-! ## The loop is a search -/

section

variable (runtime : Runtime) (leftNFA rightNFA : TierLanguage)

/-- The pair of a queued state. -/
def LanguagePairState.pair (state : LanguagePairState) : StateSet × StateSet :=
  (state.left, state.right)

/-- The pair behind one more byte, if both automata can read it. -/
def pairSuccessor (pair : StateSet × StateSet) (character : Nat) : Option (StateSet × StateSet) :=
  let nextLeft := leftNFA.transition .canonical [] pair.1 character
  let nextRight := rightNFA.transition .canonical [] pair.2 character
  if nextLeft.isEmpty || nextRight.isEmpty then none
  else some (nextLeft, nextRight)

/-- One pair follows another on a byte of the alphabet. -/
def PairFollows (pair next : StateSet × StateSet) : Prop :=
  ∃ character ∈ languageAlphabet .canonical [] [leftNFA, rightNFA],
    pairSuccessor leftNFA rightNFA pair character = some next

/-- Both automata accept. -/
def PairAccepts (pair : StateSet × StateSet) : Prop :=
  leftNFA.accepts pair.1 = true ∧ rightNFA.accepts pair.2 = true

/-- The pair was queued. -/
def IntersectionSearch.Marked (search : IntersectionSearch) (pair : StateSet × StateSet) : Prop :=
  pairStateKey .canonical [] pair.1 pair.2 ∈ search.visited

lemma visitCharacter_visitsOne (current : LanguagePairState) :
    VisitsOne IntersectionSearch.queue LanguagePairState.pair IntersectionSearch.Marked
      (pairSuccessor leftNFA rightNFA current.pair)
      (visitCharacter runtime leftNFA rightNFA current) := by
  intro search character
  have successor : pairSuccessor leftNFA rightNFA current.pair character =
    if (leftNFA.transition .canonical [] current.left character).isEmpty ||
      (rightNFA.transition .canonical [] current.right character).isEmpty then none
    else some (leftNFA.transition .canonical [] current.left character,
      rightNFA.transition .canonical [] current.right character) := rfl
  rw [successor]
  unfold visitCharacter
  simp only [transition_runtime runtime, pairStateKey_runtime runtime]
  split_ifs with empty known
  · exact .inl ⟨rfl, by simp⟩
  · refine .inl ⟨rfl, fun found same => ?_⟩
    cases same
    exact Std.ExtTreeMap.contains_iff_mem.1 known
  · refine .inr ⟨_, rfl, fun mark => known ?_, rfl, ?_⟩
    · exact Std.ExtTreeMap.contains_iff_mem.2 mark
    · intro pair
      unfold IntersectionSearch.Marked
      rw [mem_insert, or_comm]
      refine or_congr_right ⟨fun same => ?_, fun same => ?_⟩
      · exact Prod.ext_iff.2 (pairStateKey_injective _ _ same)
      · rw [same]
        rfl

/-- The loop of `intersectionExample` is a search for an accepting pair. -/
lemma intersectionStep_search : GoalSearch (intersectionStep runtime leftNFA rightNFA)
      IntersectionSearch.queue LanguagePairState.pair
      IntersectionSearch.Marked (PairFollows leftNFA rightNFA)
      (PairAccepts leftNFA rightNFA) where
  stop := by
    intro search stopped head rest split
    simp only [intersectionStep, split] at stopped
    split_ifs at stopped with accepted
    exact (Bool.and_eq_true_iff.1 accepted)
  popped := by
    intro search after stepped
    unfold intersectionStep at stepped
    cases split : search.queue with
    | nil => simp [split] at stepped
    | cons head rest =>
      simp only [split] at stepped
      split_ifs at stepped with accepted
      cases stepped
      rw [languageAlphabet_runtime]
      rcases foldl_visitsOne (visitCharacter_visitsOne runtime leftNFA rightNFA head)
        (languageAlphabet .canonical [] [leftNFA, rightNFA])
        { search with queue := rest } with
        ⟨pushed, queued, distinct, new, marks, all⟩
      refine ⟨head, rest, pushed, rfl, fun both => accepted (Bool.and_eq_true_iff.2 both),
        queued, distinct, new, marks, ?_⟩
      rintro pair ⟨character, member, follows⟩
      exact all character member pair follows

/-- The pair the loop starts from. -/
def startPair : StateSet × StateSet :=
  (leftNFA.closure runtime ["left"] ((∅ : StateSet).insert 0 ()),
    rightNFA.closure runtime ["right"] ((∅ : StateSet).insert 0 ()))

lemma marked_intersectionStart_iff (pair : StateSet × StateSet) :
    (intersectionStart runtime leftNFA rightNFA).Marked pair ↔
      pair = startPair runtime leftNFA rightNFA := by
  have none : ∀ key, ¬ key ∈ (∅ : GoMap String Unit) := by simp
  simp only [IntersectionSearch.Marked, intersectionStart, mem_insert,
    none, or_false, pairStateKey_runtime runtime]
  constructor
  · intro same
    exact Prod.ext_iff.2 (pairStateKey_injective _ _ same)
  · intro same
    rw [same]
    rfl

end

/-! ## The loop stops -/

section

variable (runtime : Runtime) (leftNFA rightNFA : TierLanguage)

open Classical in
/-- The sets of numbers below a bound. -/
noncomputable def setsBelow (bound : Nat) : Finset StateSet :=
  (Finset.range bound).powerset.image fun members =>
    members.toList.foldl (fun set state => set.insert state ()) ∅

lemma mem_setsBelow (below : ∀ state ∈ states, state < bound) : states ∈ setsBelow bound := by
  classical
  refine Finset.mem_image.2 ⟨states.keys.toFinset, ?_, ?_⟩
  · refine Finset.mem_powerset.2 fun state member => ?_
    rw [mem_toFinset, Std.ExtTreeMap.mem_keys] at member
    exact Finset.mem_range.2 (below state member)
  · refine set_ext fun state => ?_
    rw [mem_foldl_insert, Finset.mem_toList, mem_toFinset, Std.ExtTreeMap.mem_keys]
    simp

lemma card_setsBelow_le (bound : Nat) : (setsBelow bound).card ≤ 2 ^ bound := by
  classical
  calc (setsBelow bound).card ≤ (Finset.range bound).powerset.card := Finset.card_image_le
    _ = 2 ^ bound := by rw [Finset.card_powerset, Finset.card_range]

lemma transition_mem_setsBelow (nfa : TierLanguage) (states : StateSet) (character : Nat) :
    nfa.transition runtime [] states character ∈ setsBelow (nfa.acceptState + 1) := by
  have acceptState := nfa.acceptState_eq
  refine mem_setsBelow fun state member => ?_
  rcases mem_transition.1 member with ⟨_, _, moves⟩ | ⟨rfl, _⟩
  · exact Nat.lt_succ_of_le (target_le_acceptState moves)
  · omega

lemma closure_start_mem_setsBelow (nfa : TierLanguage) (site : List String) :
    nfa.closure runtime site ((∅ : StateSet).insert 0 ()) ∈ setsBelow (nfa.acceptState + 1) := by
  refine mem_setsBelow fun state member => ?_
  rw [eq_zero_of_reads_nil ((agrees_start state).1 member) rfl]
  exact Nat.succ_pos _

lemma intersectionEnd_stopped : intersectionStep runtime leftNFA rightNFA
      (intersectionEnd runtime leftNFA rightNFA) = none := by
  classical
  refine (intersectionStep_search runtime leftNFA rightNFA).stops
    (setsBelow (leftNFA.acceptState + 1) ×ˢ setsBelow (rightNFA.acceptState + 1)) ?_ _ ?_ _ ?_
  · rintro pair next _ ⟨character, _, follows⟩
    unfold pairSuccessor at follows
    simp only at follows
    split_ifs at follows
    cases follows
    exact Finset.mem_product.2 ⟨transition_mem_setsBelow _ _ _ _, transition_mem_setsBelow _ _ _ _⟩
  · intro entry member
    rw [mem_singleton.1 member]
    exact Finset.mem_product.2 ⟨closure_start_mem_setsBelow _ _ _,
      closure_start_mem_setsBelow _ _ _⟩
  · have pairs := Nat.mul_le_mul (card_setsBelow_le (leftNFA.acceptState + 1))
      (card_setsBelow_le (rightNFA.acceptState + 1))
    rw [Finset.card_product]
    unfold intersectionBound
    change 1 + _ < _
    omega

end

/-! ## Pairs and words -/

section

variable {runtime : Runtime} {leftNFA rightNFA : TierLanguage}

/-- The sets of the pair hold the states which the word reaches. -/
def PairAgrees (leftNFA rightNFA : TierLanguage)
    (pair : StateSet × StateSet) (word : List Nat) : Prop :=
  leftNFA.Agrees pair.1 word ∧ rightNFA.Agrees pair.2 word

lemma PairAgrees.successor {pair : StateSet × StateSet}
    (agrees : PairAgrees leftNFA rightNFA pair word)
    (follows : pairSuccessor leftNFA rightNFA pair character = some next) :
    PairAgrees leftNFA rightNFA next (word ++ [character]) := by
  unfold pairSuccessor at follows
  simp only at follows
  split_ifs at follows
  cases follows
  exact ⟨agrees.1.transition character, agrees.2.transition character⟩

lemma startPair_agrees : PairAgrees leftNFA rightNFA (startPair runtime leftNFA rightNFA) [] :=
  ⟨agrees_start, agrees_start⟩

lemma agrees_of_reachable {pair : StateSet × StateSet}
    (reachable : ReflTransGen (PairFollows leftNFA rightNFA)
      (startPair runtime leftNFA rightNFA) pair) :
    ∃ word, PairAgrees leftNFA rightNFA pair word := by
  induction reachable with
  | refl => exact ⟨[], startPair_agrees⟩
  | tail _ follows ih =>
    obtain ⟨word, agrees⟩ := ih
    obtain ⟨character, _, successor⟩ := follows
    exact ⟨word ++ [character], agrees.successor successor⟩

lemma reachable_of_reads (leftReads : leftNFA.Reads word left)
    (rightReads : rightNFA.Reads word right) :
    ∃ pair, ReflTransGen (PairFollows leftNFA rightNFA) (startPair runtime leftNFA rightNFA) pair ∧
      PairAgrees leftNFA rightNFA pair word := by
  induction word using reverseRecOn generalizing left right with
  | nil => exact ⟨_, .refl, startPair_agrees⟩
  | append_singleton word character ih =>
    obtain ⟨_, _, leftBefore, leftMoves⟩ := exists_moves_of_reads_concat leftReads
    obtain ⟨_, _, rightBefore, _⟩ := exists_moves_of_reads_concat rightReads
    obtain ⟨pair, reachable, agrees⟩ := ih leftBefore rightBefore
    have listed : character ∈ languageAlphabet .canonical [] [leftNFA, rightNFA] := by
      rw [mem_languageAlphabet, mem_append]
      have occurs := mem_of_moves leftMoves
      tauto
    have successor : pairSuccessor leftNFA rightNFA pair character =
        some (leftNFA.transition .canonical [] pair.1 character,
          rightNFA.transition .canonical [] pair.2 character) := by
      simp [pairSuccessor, isEmpty_transition agrees.1 leftReads,
        isEmpty_transition agrees.2 rightReads]
    exact ⟨_, reachable.tail ⟨character, listed, successor⟩, agrees.successor successor⟩

lemma exists_reachable_accepting_iff : (∃ pair, ReflTransGen
        (PairFollows (newTierLanguage left) (newTierLanguage right))
        (startPair runtime (newTierLanguage left) (newTierLanguage right)) pair ∧
      PairAccepts (newTierLanguage left) (newTierLanguage right) pair) ↔
      ∃ word, left.Generates word ∧ right.Generates word := by
  constructor
  · rintro ⟨pair, reachable, accepts⟩
    obtain ⟨word, agrees⟩ := agrees_of_reachable reachable
    exact ⟨word, (accepts_iff agrees.1).1 accepts.1, (accepts_iff agrees.2).1 accepts.2⟩
  · rintro ⟨word, inLeft, inRight⟩
    rcases reachable_of_reads (reads_of_generates inLeft)
      (reads_of_generates inRight) with ⟨pair, reachable, agrees⟩
    exact ⟨pair, reachable, (accepts_iff agrees.1).2 inLeft, (accepts_iff agrees.2).2 inRight⟩

end

/-! ## The result -/

section

variable (runtime : Runtime) {left right : Template}

lemma intersectionExample_overlaps_iff : (intersectionExample runtime left right).2 = true ↔
      ∃ word, left.Generates word ∧ right.Generates word := by
  have found := (intersectionStep_search runtime (newTierLanguage left)
    (newTierLanguage right)).found_iff rfl
    (marked_intersectionStart_iff runtime _ _) _
    (intersectionEnd_stopped runtime _ _)
  rw [exists_reachable_accepting_iff] at found
  rw [← found]
  unfold intersectionExample
  change _ ↔ (intersectionEnd runtime _ _).queue ≠ []
  cases (intersectionEnd runtime (newTierLanguage left) (newTierLanguage right)).queue with
  | nil => simp
  | cons head rest => simp

/-- The example of every queued state spells a word which leads to it. -/
def Spelled (leftNFA rightNFA : TierLanguage) (entry : LanguagePairState) : Prop :=
  ∃ word, (∀ character ∈ word, character ∈
      languageAlphabet .canonical [] [leftNFA, rightNFA]) ∧
    entry.exampleKey = word.flatMap stringOfByte ∧
    PairAgrees leftNFA rightNFA entry.pair word

lemma visitCharacter_spelled (spelled : Spelled leftNFA rightNFA current)
    (listed : character ∈ languageAlphabet .canonical [] [leftNFA, rightNFA])
    (queued : ∀ entry ∈ search.queue, Spelled leftNFA rightNFA entry) :
    ∀ entry ∈ (visitCharacter runtime leftNFA rightNFA current search
      character).queue, Spelled leftNFA rightNFA entry := by
  unfold visitCharacter
  simp only
  split_ifs
  · exact queued
  · exact queued
  · intro entry member
    rcases mem_append.1 member with old | new
    · exact queued entry old
    · rw [mem_singleton.1 new]
      obtain ⟨word, bytes, example', agrees⟩ := spelled
      refine ⟨word ++ [character], ?_, ?_, ?_⟩
      · intro byte member
        rcases mem_append.1 member with early | last
        · exact bytes byte early
        · rwa [mem_singleton.1 last]
      · rw [flatMap_append, flatMap_singleton, example']
      · exact ⟨agrees.1.transition character, agrees.2.transition character⟩

lemma intersectionEnd_spelled (leftNFA rightNFA : TierLanguage) :
    ∀ entry ∈ (intersectionEnd runtime leftNFA rightNFA).queue, Spelled leftNFA rightNFA entry := by
  refine runLoop_invariant (fun search : IntersectionSearch =>
      ∀ entry ∈ search.queue, Spelled leftNFA rightNFA entry)
    ?_ _ _ ?_
  · intro search after queued stepped
    unfold intersectionStep at stepped
    cases split : search.queue with
    | nil => simp [split] at stepped
    | cons head rest =>
      simp only [split] at stepped
      split_ifs at stepped
      cases stepped
      rw [split] at queued
      rw [languageAlphabet_runtime]
      refine foldlRecOn (motive := fun inner : IntersectionSearch =>
          ∀ entry ∈ inner.queue, Spelled leftNFA rightNFA entry)
        _ _ ?_ ?_
      · exact fun entry member => queued entry (.tail _ member)
      · exact fun inner holds character listed =>
          visitCharacter_spelled runtime (queued head (.head _)) listed holds
  · intro entry member
    rw [mem_singleton.1 member]
    exact ⟨[], by simp, rfl, startPair_agrees⟩

lemma flatMap_stringOfByte {word : List Nat} (ascii : ∀ character ∈ word, character < 0x80) :
    word.flatMap stringOfByte = word := by
  induction word with
  | nil => rfl
  | cons first rest ih =>
    rw [flatMap_cons, ih fun character member => ascii character (.tail _ member),
      stringOfByte, if_pos (ascii first (.head _))]
    rfl

/-- The texts of the template consist of one-byte characters. -/
def Template.Ascii (template : Template) : Prop :=
  (∀ byte ∈ utf8Bytes template.textPrefix, byte < 0x80) ∧
    ∀ byte ∈ utf8Bytes template.textSuffix, byte < 0x80

lemma intersectionExample_generates (leftAscii : left.Ascii) (rightAscii : right.Ascii)
    (overlaps : (intersectionExample runtime left right).2 = true) :
    left.Generates (intersectionExample runtime left right).1 ∧
      right.Generates (intersectionExample runtime left right).1 := by
  have stopped := intersectionEnd_stopped runtime (newTierLanguage left) (newTierLanguage right)
  have spelled := intersectionEnd_spelled runtime (newTierLanguage left) (newTierLanguage right)
  unfold intersectionExample at overlaps ⊢
  cases split : (intersectionEnd runtime (newTierLanguage left) (newTierLanguage right)).queue with
  | nil => simp [split] at overlaps
  | cons head rest =>
    have accepts := (intersectionStep_search runtime _ _).stop stopped head rest split
    rcases spelled head (by rw [split]; exact .head _) with
      ⟨word, bytes, example', agrees⟩
    have ascii : ∀ character ∈ word, character < 0x80 := by
      intro character member
      rcases mem_languageAlphabet _ _ |>.1 (bytes character member) with digit | inLeft | inRight
      · simp only [byteIn, Bool.and_eq_true, decide_eq_true_eq] at digit
        omega
      · exact (mem_append.1 inLeft).elim (leftAscii.1 character) (leftAscii.2 character)
      · exact (mem_append.1 inRight).elim (rightAscii.1 character) (rightAscii.2 character)
    rw [flatMap_stringOfByte ascii] at example'
    simp only [example']
    exact ⟨(accepts_iff agrees.1).1 accepts.1, (accepts_iff agrees.2).1 accepts.2⟩

end

end Unifabric.TopologyLabel
