import Unifabric.TopologyLabel.Intersection

/-!
# Compiling templates

`Compile` accepts fixed text around one `.Tier` action whose keys are
qualified names, and `CompileSet` accepts three templates when no two of them
have a common key.  The parser of `text/template` and the check of qualified
names are parameters; what is needed of them is that qualified names consist
of one-byte characters.
-/

namespace Unifabric.TopologyLabel

open Lib List

/-! ## Syntax trees -/

/-- An argument of a command: a chain of fields, or anything else. -/
inductive Argument where
  | field (ident : List String)
  | other
  deriving DecidableEq, Repr

/-- A command of a pipeline. -/
structure Command where
  args : List Argument
  deriving DecidableEq, Repr

/-- The pipeline of an action. -/
structure Pipeline where
  decl : List String
  isAssign : Bool
  cmds : List (Option Command)
  deriving DecidableEq, Repr

/-- A node of a syntax tree. -/
inductive TemplateNode where
  | text (text : String)
  | action (pipe : Option Pipeline)
  | other
  deriving DecidableEq, Repr

/-- The library functions which compiling calls. -/
structure TemplateLibrary where
  /-- `Parse` of a new template with a name; `none` is a missing tree. -/
  parse : String → String → Except String (Option (List TemplateNode))
  /-- `validation.IsQualifiedName`, which lists the problems of a key. -/
  isQualifiedName : String → List String

/-- Qualified names consist of one-byte characters. -/
def TemplateLibrary.QualifiedNamesAscii (library : TemplateLibrary) : Prop :=
  ∀ key, library.isQualifiedName key = [] → ∀ byte ∈ utf8Bytes key, byte < 0x80

/-! ## Errors -/

/-- Why an action is not the tier. -/
inductive ActionError where
  | notOneCommand
  | additionalArguments
  | otherField
  deriving DecidableEq, Repr

/-- The text of the error. -/
def ActionError.message : ActionError → String
  | .notOneCommand => "the only allowed action is \x7b\x7b .Tier \x7d\x7d"
  | .additionalArguments =>
      "the .Tier pipeline cannot contain functions or additional arguments"
  | .otherField => "the only allowed field is .Tier"

/-- Why templates do not compile. -/
inductive CompileError where
  | empty (name : String)
  | parse (name reason : String)
  | noTree (name : String)
  | action (name : String) (reason : ActionError)
  | otherNode (name : String)
  | actionCount (name : String)
  | render (name : String) (tier : Int) (reason : RenderError)
  | invalidKey (name : String) (tier : Int) (key : String) (problems : List String)
  | overlapping (left right : String) (exampleKey : List Nat)
  deriving DecidableEq, Repr

/-- The text of the error. -/
def CompileError.message : CompileError → String
  | .empty name => name ++ ": topology label template must not be empty"
  | .parse name reason => name ++ ": parse topology label template: " ++ reason
  | .noTree name => name ++ ": topology label template has no syntax tree"
  | .action name reason => name ++ ": " ++ reason.message
  | .otherNode name =>
    name ++ ": only fixed text and one \x7b\x7b .Tier \x7d\x7d action " ++
      "are allowed"
  | .actionCount name =>
    name ++ ": template must contain exactly one " ++
      "\x7b\x7b .Tier \x7d\x7d action"
  | .render name tier reason =>
      name ++ ": render tier " ++ toString tier ++ ": " ++ reason.message
  | .invalidKey name tier key problems =>
    name ++ ": rendered tier " ++ toString tier ++ " label key " ++
      key.quote ++ " is invalid: " ++ String.intercalate ", " problems
  | .overlapping left right exampleKey =>
    left ++ " and " ++ right ++ " generate overlapping label keys (for example " ++
      (String.ofList (exampleKey.map Char.ofNat)).quote ++ ")"

/-! ## Compiling -/

def validateTierAction (pipe : Option Pipeline) : Except ActionError Unit :=
  match pipe with
  | some ⟨[], false, [command]⟩ =>
    match command with
    | some ⟨[argument]⟩ =>
      if argument = .field ["Tier"] then .ok ()
      else .error .otherField
    | _ => .error .additionalArguments
  | _ => .error .notOneCommand

/-- What the loop over the nodes has collected. -/
structure NodeScan where
  textPrefix : String
  textSuffix : String
  actions : Nat
  actionSeen : Bool

/-- The body of the loop over the nodes. -/
def scanNode (name : String) (scan : NodeScan) : TemplateNode →
    Except CompileError NodeScan
  | .text text =>
    if scan.actionSeen then
      .ok { scan with textSuffix := scan.textSuffix ++ text }
    else .ok { scan with textPrefix := scan.textPrefix ++ text }
  | .action pipe =>
    match validateTierAction pipe with
    | .error reason => .error (.action name reason)
    | .ok () => .ok { scan with actions := scan.actions + 1, actionSeen := true }
  | .other => .error (.otherNode name)

section

variable (library : TemplateLibrary)

/-- The check of the key of one tier. -/
def checkKey (name : String) (compiled : Template)
    (tier : Int) : Except CompileError Unit :=
  match compiled.render tier with
  | .error reason => .error (.render name tier reason)
  | .ok key =>
    match library.isQualifiedName key with
    | [] => .ok ()
    | problems => .error (.invalidKey name tier key problems)

def compile (name raw : String) : Except CompileError Template :=
  if raw = "" then .error (.empty name)
  else
    match library.parse name raw with
    | .error reason => .error (.parse name reason)
    | .ok none => .error (.noTree name)
    | .ok (some nodes) => do
        let scan ← nodes.foldlM (scanNode name) ⟨"", "", 0, false⟩
        if scan.actions ≠ 1 then .error (.actionCount name)
        else
          let compiled : Template := ⟨scan.textPrefix, scan.textSuffix⟩
          checkKey library name compiled 1
          checkKey library name compiled 12
          .ok compiled

/-- `Set`. -/
structure TemplateSet where
  scaleUp : Template
  scaleOut : Template
  storage : Template
  deriving DecidableEq, Repr

def TemplateSet.forTopology (set : TemplateSet) (name : String) : Option Template :=
  match name with
  | "scaleup" => some set.scaleUp
  | "scaleout" => some set.scaleOut
  | "storage" => some set.storage
  | _ => none

def TemplateSet.all (set : TemplateSet) : List Template :=
  [set.scaleUp, set.scaleOut, set.storage]

lemma TemplateSet.mem_all_of_forTopology {set : TemplateSet}
    (found : set.forTopology name = some template) : template ∈ set.all := by
  unfold TemplateSet.forTopology at found
  unfold TemplateSet.all
  split at found
  · cases found
    simp
  · cases found
    simp
  · cases found
    simp
  · cases found

variable (runtime : Runtime)

/-- The loops over the pairs of compiled templates. -/
def rejectOverlaps : List (String × Template) → Except CompileError Unit
  | [] => .ok ()
  | (leftName, left) :: rest => do
      rest.forM fun (rightName, right) =>
        match intersectionExample runtime left right with
        | (exampleKey, true) => .error (.overlapping leftName rightName exampleKey)
        | (_, false) => .ok ()
      rejectOverlaps rest

def compileSet
    (scaleUp scaleOut storage : String) : Except CompileError TemplateSet := do
  let scaleUp ← compile library "topologyLabels.scaleUp" scaleUp
  let scaleOut ← compile library "topologyLabels.scaleOut" scaleOut
  let storage ← compile library "topologyLabels.storage" storage
  rejectOverlaps runtime [("topologyLabels.scaleUp", scaleUp),
      ("topologyLabels.scaleOut", scaleOut),
      ("topologyLabels.storage", storage)]
  .ok ⟨scaleUp, scaleOut, storage⟩

end

/-! ## Compiled templates have one-byte texts -/

section

variable {library : TemplateLibrary} {template : Template}

lemma compile_checked (compiled : compile library name raw = .ok template) :
    checkKey library name template 1 = .ok () := by
  unfold compile at compiled
  split_ifs at compiled with empty
  cases parsed : library.parse name raw with
  | error reason => simp [parsed] at compiled
  | ok tree =>
    cases tree with
    | none => simp [parsed] at compiled
    | some nodes =>
      simp only [parsed] at compiled
      obtain ⟨scan, _, checked⟩ := bind_eq_ok.1 compiled
      split_ifs at checked
      obtain ⟨⟨⟩, first, later⟩ := bind_eq_ok.1 checked
      obtain ⟨⟨⟩, _, same⟩ := bind_eq_ok.1 later
      cases same
      exact first

lemma utf8Bytes_key (number : Nat) : utf8Bytes (template.key number) =
      utf8Bytes template.textPrefix ++ (Nat.toDigits 10 number).map Char.toNat ++
        utf8Bytes template.textSuffix := by
  have ascii : ∀ c ∈ Nat.toDigits 10 number, c.toNat < 0x80 := by
    intro c member
    have isDigit := isDigit_of_mem_digits number member
    simp only [Char.isDigit, Bool.and_eq_true, decide_eq_true_eq] at isDigit
    have high : c.toNat ≤ 57 := isDigit.2
    omega
  rw [Template.key, String.ofList_append, String.ofList_append,
    String.ofList_toList, String.ofList_toList, utf8Bytes_append,
    utf8Bytes_append, digits_natCast, utf8Bytes_ofList ascii]

/-- The texts of a compiled template consist of one-byte characters. -/
lemma ascii_of_compile (qualifiedAscii : library.QualifiedNamesAscii)
    (compiled : compile library name raw = .ok template) : template.Ascii := by
  have checked := compile_checked compiled
  have qualified : library.isQualifiedName (template.key 1) = [] := by
    unfold checkKey at checked
    cases problems : library.isQualifiedName (template.key 1) with
    | nil => rfl
    | cons first rest => simp [Template.render, problems] at checked
  have bytes := qualifiedAscii _ qualified
  have key : utf8Bytes (template.key 1) = utf8Bytes template.textPrefix ++
    (Nat.toDigits 10 1).map Char.toNat ++
    utf8Bytes template.textSuffix := utf8Bytes_key 1
  rw [key] at bytes
  constructor
  · exact fun byte member => bytes byte
      (mem_append_left _ (mem_append_left _ member))
  · exact fun byte member => bytes byte (mem_append_right _ member)

lemma generates_of_matchTier (matched : template.matchTier key = some tier) :
    template.Generates (utf8Bytes key) := by
  obtain ⟨positive, _, rfl⟩ := key_of_matchTier matched
  obtain ⟨number, rfl⟩ := Int.eq_ofNat_of_zero_le (by omega : 0 ≤ tier)
  exact ⟨_, isTierBytes_map_toNat (isPositiveDecimal_toDigits (by omega)),
    utf8Bytes_key number⟩

end

/-! ## Accepted sets -/

section

variable {runtime : Runtime}

lemma rejectOverlaps_eq_ok (accepted : rejectOverlaps runtime values = .ok ()) :
    (values.map Prod.snd).Pairwise fun left right =>
      (intersectionExample runtime left right).2 = false := by
  induction values with
  | nil => exact List.Pairwise.nil
  | cons value rest ih =>
    obtain ⟨⟨⟩, first, later⟩ := bind_eq_ok.1 accepted
    refine List.Pairwise.cons ?_ (ih later)
    intro right member
    obtain ⟨named, listed, rfl⟩ := mem_map.1 member
    have passed := forM_eq_ok.1 first named listed
    cases result : intersectionExample runtime value.2 named.2 with
    | mk exampleKey overlaps =>
      cases overlaps with
      | false => rfl
      | true => simp [result] at passed

lemma matchTier_disjoint
    (disjoint : (intersectionExample runtime left right).2 = false)
    (key : String) : left.matchTier key = none ∨ right.matchTier key = none := by
  cases leftMatch : left.matchTier key with
  | none => exact .inl rfl
  | some leftTier =>
    cases rightMatch : right.matchTier key with
    | none => exact .inr rfl
    | some rightTier =>
      have overlaps := (intersectionExample_overlaps_iff runtime).2
        ⟨utf8Bytes key, generates_of_matchTier leftMatch,
          generates_of_matchTier rightMatch⟩
      rw [disjoint] at overlaps
      exact Bool.noConfusion overlaps

lemma compileSet_disjoint {set : TemplateSet}
    (accepted : compileSet library runtime scaleUp scaleOut storage = .ok set) :
    set.all.Pairwise fun left right =>
      ∀ key, left.matchTier key = none ∨ right.matchTier key = none := by
  obtain ⟨up, _, afterUp⟩ := bind_eq_ok.1 accepted
  obtain ⟨out, _, afterOut⟩ := bind_eq_ok.1 afterUp
  obtain ⟨store, _, afterStorage⟩ := bind_eq_ok.1 afterOut
  obtain ⟨⟨⟩, disjoint, same⟩ := bind_eq_ok.1 afterStorage
  cases same
  exact (rejectOverlaps_eq_ok disjoint).imp fun none key => matchTier_disjoint none
    key

/--
The search for a common key of two compiled templates ends, finds one exactly
when there is one, and returns a key of both; so no key whatsoever is matched
by two templates of an accepted set.
-/
theorem template_disjointness_decided (library : TemplateLibrary)
    (qualifiedAscii : library.QualifiedNamesAscii) (runtime : Runtime) :
    (∀ (leftName leftRaw rightName rightRaw : String) (left right : Template),
      compile library leftName leftRaw = .ok left →
      compile library rightName rightRaw = .ok right →
        intersectionStep runtime (newTierLanguage left) (newTierLanguage right)
            (intersectionEnd runtime (newTierLanguage left)
              (newTierLanguage right)) = none ∧
          ((intersectionExample runtime left right).2 = true ↔
            ∃ word, left.Generates word ∧ right.Generates word) ∧
          ((intersectionExample runtime left right).2 = true →
            left.Generates (intersectionExample runtime left right).1 ∧
              right.Generates (intersectionExample runtime left right).1)) ∧
      ∀ (scaleUp scaleOut storage : String) (set : TemplateSet),
        compileSet library runtime scaleUp scaleOut storage = .ok set →
          set.all.Pairwise fun left right =>
            ∀ key, left.matchTier key = none ∨ right.matchTier key = none := by
  refine ⟨?_, fun _ _ _ _ accepted => compileSet_disjoint accepted⟩
  intro leftName leftRaw rightName rightRaw left right leftCompiled rightCompiled
  exact ⟨intersectionEnd_stopped runtime _ _,
    intersectionExample_overlaps_iff runtime,
    intersectionExample_generates runtime
      (ascii_of_compile qualifiedAscii leftCompiled)
      (ascii_of_compile qualifiedAscii rightCompiled)⟩

/-- A template of a text and the tier. -/
def withTier (text : String) : String := text ++ "\x7b\x7b .Tier \x7d\x7d"

/-- A library which finds the action at the end of a template. -/
def plainLibrary : TemplateLibrary where
  parse _ raw :=
    let text :=
      String.ofList (raw.toList.take (raw.toList.length - (withTier "").length))
    .ok (some (if raw = withTier text then
        [.text text, .action (some ⟨[], false, [some ⟨[.field ["Tier"]]⟩]⟩)]
      else [.text raw]))
  isQualifiedName key := if (utf8Bytes key).all (· < 0x80) then [] else
    ["not ASCII"]

/-- Two templates which overlap, and three which do not. -/
theorem template_disjointness_plain : plainLibrary.QualifiedNamesAscii ∧
      compile plainLibrary "left" (withTier "tier-") = .ok ⟨"tier-", ""⟩ ∧
      compile plainLibrary "right" (withTier "tier-1") = .ok ⟨"tier-1", ""⟩ ∧
      (intersectionExample .canonical ⟨"tier-", ""⟩ ⟨"tier-1", ""⟩).2 = true ∧
      (Template.mk "tier-" "").Generates
        (intersectionExample .canonical ⟨"tier-", ""⟩ ⟨"tier-1", ""⟩).1 ∧
      compileSet plainLibrary .canonical (withTier "up-") (withTier "out-")
        (withTier "storage-") = .ok ⟨⟨"up-", ""⟩, ⟨"out-", ""⟩, ⟨"storage-", ""⟩⟩ ∧
      ∀ key, (Template.mk "up-" "").matchTier key = none ∨
        (Template.mk "out-" "").matchTier key = none := by
  have qualifiedAscii : plainLibrary.QualifiedNamesAscii := by
    intro key qualified byte member
    simp only [plainLibrary] at qualified
    split_ifs at qualified with ascii
    simpa using List.all_eq_true.mp ascii byte member
  have left : compile plainLibrary "left" (withTier "tier-") = .ok ⟨"tier-", ""⟩ := by
    decide +kernel
  have right : compile plainLibrary "right" (withTier "tier-1") =
      .ok ⟨"tier-1", ""⟩ := by
    decide +kernel
  have overlaps : (intersectionExample .canonical ⟨"tier-", ""⟩ ⟨"tier-1", ""⟩).2 =
      true := by
    decide +kernel
  have accepted : compileSet plainLibrary .canonical (withTier "up-")
    (withTier "out-")
      (withTier "storage-") = .ok ⟨⟨"up-", ""⟩, ⟨"out-", ""⟩, ⟨"storage-", ""⟩⟩ := by
    decide +kernel
  have decided :=
    template_disjointness_decided plainLibrary qualifiedAscii .canonical
  have pairs := decided.2 _ _ _ _ accepted
  exact ⟨qualifiedAscii, left, right, overlaps,
    ((decided.1 _ _ _ _ _ _ left right).2.2 overlaps).1, accepted,
    (List.pairwise_cons.mp pairs).1 _ List.mem_cons_self⟩

end

/-! ## Rendering and matching -/

/--
A key of a compiled template matches a tier exactly if it is what the tier
renders to; so tiers have different keys, and the keys of one object belong to
different tiers.
-/
theorem matchTier_iff_render (library : TemplateLibrary) (name raw : String)
    (template : Template) :
    compile library name raw = .ok template →
      (∀ (tier : Int) (key : String), 1 ≤ tier → tier ≤ maxInt →
        (template.matchTier key = some tier ↔ template.render tier = .ok key)) ∧
      (∀ (tier tier' : Int) (key key' : String),
        template.render tier = .ok key → template.render tier' = .ok key' →
          tier ≠ tier' → key ≠ key') ∧
      ∀ (labels : GoMap String String) (key key' : String) (tier : Int),
        key ∈ labels → key' ∈ labels → key ≠ key' → template.matchTier key =
          some tier →
            template.matchTier key' ≠ some tier := by
  intro _
  refine ⟨?_, ?_, ?_⟩
  · intro tier key positive bounded
    rw [render_eq_ok_iff]
    constructor
    · intro matched
      exact ⟨positive, (key_of_matchTier matched).2.2⟩
    · rintro ⟨_, rfl⟩
      exact matchTier_key positive bounded
  · intro tier tier' key key' rendered rendered' different same
    rw [render_eq_ok_iff] at rendered rendered'
    exact different (key_injective rendered.1 rendered'.1
      (rendered.2.trans (same.trans rendered'.2.symm)))
  · intro _ key key' tier _ _ different matched matched'
    exact different
      ((key_of_matchTier matched).2.2.symm.trans (key_of_matchTier matched').2.2)

theorem matchTier_iff_render_plain :
    compile plainLibrary "scaleOut" (withTier "tier-1") = .ok ⟨"tier-1", ""⟩ ∧
      (Template.mk "tier-1" "").matchTier "tier-12" = some 2 := by
  have compiled : compile plainLibrary "scaleOut" (withTier "tier-1") =
      .ok ⟨"tier-1", ""⟩ := by
    decide +kernel
  exact ⟨compiled, ((matchTier_iff_render _ _ _ _ compiled).1 2 "tier-12"
    (by decide) (by decide)).mpr rfl⟩

end Unifabric.TopologyLabel
