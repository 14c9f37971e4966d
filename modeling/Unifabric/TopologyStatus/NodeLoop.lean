import Unifabric.TopologyStatus.Views

/-!
# The loop over the Nodes

Every Node adds its path to the forest.  The loop checks the path value by
value against the table it has built so far; it fails exactly when the paths
of all Nodes together do not describe a forest of valid names.
-/

namespace Unifabric.TopologyStatus

open Lib TopologyLabel V1beta1 List GoMap Option

variable {check : String → List String} {nodeName : String} {values : GoMap Int String}

variable {path : List String} {count : Nat}

/-! ## The tiers of one Node -/

/-- The values of the tiers, in increasing order. -/
def tierPath (values : GoMap Int String) : List String :=
  values.keys.map fun tier => values.getD tier ""

/-- The tiers count from one within the range, and their values are valid. -/
def GoodTiers (isValidLabelValue : String → List String)
    (values : GoMap Int String) (entries : List (Int × Nat)) : Prop :=
  ∀ entry ∈ entries, entry.1 = (entry.2 : Int) + 1 ∧
    validateDomainName isValidLabelValue (values.getD entry.1 "") = .ok () ∧
    entry.1 ≤ maxTier

/-- The relations of some paths and the levels of a further one. -/
def levelsOf (paths : List (List String)) (path : List String) : DomainRelations where
  occurs := OccursAt (paths ++ [path])
  below := Below paths
  member := fun _ _ => False

/-- The relations of some paths. -/
def relationsOf (paths : List (List String)) : DomainRelations where
  occurs := OccursAt paths
  below := Below paths
  member := fun _ _ => False

lemma levelsOf_grounded (unique : LevelsUnique (paths ++ [path])) :
    (levelsOf paths path).Grounded where
  below value name below := by
    obtain ⟨level, occurs⟩ := below.occursAt
    exact ⟨level, occursAt_append_singleton.2 (.inl occurs)⟩
  member _ _ member := member.elim
  unique := unique

lemma zipIdx_split (split : values.keys.zipIdx = done ++ entry :: rest) :
    entry.2 = done.length ∧ (tierPath values)[done.length]? = some (values.getD entry.1 "") := by
  have found : values.keys.zipIdx[done.length]? = some entry := by
    rw [split, getElem?_append_right le_rfl, Nat.sub_self]
    rfl
  rw [getElem?_zipIdx] at found
  obtain ⟨tier, lookup, rfl⟩ := map_eq_some_iff.1 found
  refine ⟨by simp, ?_⟩
  rw [tierPath, getElem?_map, lookup]
  rfl

lemma checkTier_spec (matched : DomainsMatch relations domains) (grounded : relations.Grounded) :
    (GoodTiers check values [entry] ∧
        (∀ other, relations.occurs (values.getD entry.1 "") other → other = entry.2) →
      ∃ next, checkTier check nodeName values domains entry = .ok next ∧ DomainsMatch
          (relations.addLevel (values.getD entry.1 "") entry.2) next) ∧
      (¬ (GoodTiers check values [entry] ∧
          ∀ other, relations.occurs (values.getD entry.1 "") other → other = entry.2) →
        ∃ failure, checkTier check nodeName values domains entry = .error failure) := by
  simp only [GoodTiers, mem_singleton, forall_eq]
  unfold checkTier
  by_cases numbered : entry.1 = (entry.2 : Int) + 1
  · rw [if_neg (not_not.2 numbered)]
    dsimp only
    cases valid : validateDomainName check (values.getD entry.1 "") with
    | error reason =>
      constructor
      · rintro ⟨⟨_, isValid, _⟩, _⟩
        cases isValid
      · exact fun _ => ⟨_, rfl⟩
    | ok done =>
      constructor
      · rintro ⟨⟨_, _, range⟩, same⟩
        rcases ensureDomain_ok matched grounded (by omega : (entry.2 : Int) + 1 ≤ maxTier) same with
          ⟨ensured, succeeded, kept⟩
        rw [← numbered] at succeeded
        rw [succeeded]
        exact ⟨ensured, rfl, kept⟩
      · intro bad
        have failed : ¬ ((entry.2 : Int) + 1 ≤ maxTier ∧
            ∀ other, relations.occurs (values.getD entry.1 "") other → other = entry.2) := by
          rintro ⟨range, same⟩
          exact bad ⟨⟨numbered, rfl, by omega⟩, same⟩
        obtain ⟨failure, raised⟩ := ensureDomain_error matched grounded failed
        rw [← numbered] at raised
        rw [raised]
        exact ⟨_, rfl⟩
  · rw [if_pos numbered]
    constructor
    · rintro ⟨⟨isNumbered, _⟩, _⟩
      exact absurd isNumbered numbered
    · exact fun _ => ⟨_, rfl⟩

lemma GoodTiers.getElem?_values (good : GoodTiers check values values.keys.zipIdx)
    {level : Nat} (found : (tierPath values)[level]? = some value) :
    values[(level : Int) + 1]? = some value := by
  rw [tierPath, getElem?_map, map_eq_some_iff] at found
  obtain ⟨tier, isTier, rfl⟩ := found
  have listed : (tier, level) ∈ values.keys.zipIdx := mem_zipIdx_iff_getElem?.2 isTier
  have numbered : tier = (level : Int) + 1 := (good _ listed).1
  obtain ⟨text, lookup⟩ := (mem_keys_iff values tier).1 (mem_of_getElem? isTier)
  rw [← numbered, getD_eq, lookup, getD_some]

/-! ## The path of one Node -/

/-- The relations while a path is linked. -/
def linksOf (paths : List (List String)) (path : List String) (count : Nat) : DomainRelations where
  occurs := OccursAt (paths ++ [path])
  below := Below (paths ++ [path.take (count + 1)])
  member := fun _ _ => False

section

variable {paths : List (List String)} {domains : Domains}

lemma occursAt_append_nil : OccursAt (paths ++ [[]]) = OccursAt paths := by
  funext value level
  simp [occursAt_append_singleton]

lemma levelsOf_nil (paths : List (List String)) : levelsOf paths [] = relationsOf paths := by
  rw [levelsOf, occursAt_append_nil]
  rfl

lemma levelsOf_addLevel (inside : path[count]? = some value) :
    (levelsOf paths (path.take count)).addLevel value count =
      levelsOf paths (path.take (count + 1)) := by
  have occurs : (fun other level =>
      OccursAt (paths ++ [path.take count]) other level ∨ (other = value ∧ level = count)) =
      OccursAt (paths ++ [path.take (count + 1)]) := by
    funext other level
    exact propext (occursAt_take_succ inside).symm
  rw [levelsOf, levelsOf, DomainRelations.addLevel]
  rw [occurs]

lemma linksOf_zero (paths : List (List String)) (path : List String) :
    linksOf paths path 0 = levelsOf paths path := by
  have below : Below (paths ++ [path.take 1]) = Below paths := by
    funext child parent
    exact propext below_take_one
  rw [linksOf, levelsOf, below]

lemma linksOf_addBelow (inside : path[count]? = some child)
    (above : path[count + 1]? = some parent) :
    (linksOf paths path count).addBelow child parent = linksOf paths path (count + 1) := by
  have below : (fun other name =>
      Below (paths ++ [path.take (count + 1)]) other name ∨ (other = child ∧ name = parent)) =
      Below (paths ++ [path.take (count + 1 + 1)]) := by
    funext other name
    exact propext (below_take_succ inside above).symm
  rw [linksOf, linksOf, DomainRelations.addBelow]
  rw [below]

lemma linksOf_length (all : path.length ≤ count + 1) :
    linksOf paths path count = relationsOf (paths ++ [path]) := by
  rw [linksOf, take_of_length_le all]
  rfl

lemma append_take_parts (paths : List (List String)) (path : List String) (le : few ≤ many) :
    ∀ part ∈ paths ++ [path.take few], ∃ whole ∈ paths ++ [path.take many], part <+: whole := by
  refine forall_mem_concat (fun part earlier => ?_) ?_
  · exact ⟨part, mem_append_left _ earlier, prefix_rfl⟩
  · exact ⟨path.take many, mem_append_right _ mem_cons_self, take_isPrefix_take.2 (.inl le)⟩

lemma checkTiers_decides (check : String → List String) (nodeName : String)
    (values : GoMap Int String) (matched : DomainsMatch (relationsOf paths) domains)
    (levels : LevelsUnique paths) :
    (GoodTiers check values values.keys.zipIdx ∧ LevelsUnique (paths ++ [tierPath values]) →
      ∃ ensured, values.keys.zipIdx.foldlM (checkTier check nodeName values) domains = .ok ensured ∧
        DomainsMatch (levelsOf paths (tierPath values)) ensured) ∧
    (¬ (GoodTiers check values values.keys.zipIdx ∧ LevelsUnique (paths ++ [tierPath values])) →
      ∃ failure, values.keys.zipIdx.foldlM (checkTier check nodeName values) domains =
            .error failure) := by
  have whole : (tierPath values).take values.keys.zipIdx.length = tierPath values := by
    rw [length_zipIdx]
    exact take_of_length_le (by rw [tierPath, length_map])
  rw [← whole]
  refine foldlM_decides (fun done domains => DomainsMatch
      (levelsOf paths ((tierPath values).take done.length)) domains)
    (fun done => GoodTiers check values done ∧
      LevelsUnique (paths ++ [(tierPath values).take done.length]))
    ?_ ?_ ?_ ?_
  · rw [length_nil, take_zero, levelsOf_nil]
    exact matched
  · intro done entry rest current split good reached
    obtain ⟨position, inside⟩ := zipIdx_split split
    have same : (GoodTiers check values (done ++ [entry]) ∧ LevelsUnique (paths ++
          [(tierPath values).take (done ++ [entry]).length])) ↔
        (GoodTiers check values [entry] ∧ ∀ other, (levelsOf paths ((tierPath values).take
            done.length)).occurs (values.getD entry.1 "") other → other = entry.2) := by
      rw [length_append, length_singleton, levelsUnique_take_succ inside, position]
      constructor
      · rintro ⟨all, _, only⟩
        exact ⟨fun other listed => all other (mem_append_right _ listed), only⟩
      · rintro ⟨last, only⟩
        refine ⟨fun other listed => ?_, good.2, only⟩
        rcases mem_append.1 listed with earlier | isLast
        · exact good.1 other earlier
        · exact last other isLast
    rw [same, length_append, length_singleton, ← levelsOf_addLevel inside, ← position]
    rw [← position] at reached good
    exact checkTier_spec reached (levelsOf_grounded good.2)
  · intro done rest split good
    refine ⟨fun entry listed => good.1 entry (split ▸ mem_append_left _ listed),
      good.2.mono (append_take_parts paths _ ?_)⟩
    rw [split, length_append]
    omega
  · refine ⟨fun entry listed => absurd listed not_mem_nil, ?_⟩
    rw [length_nil, take_zero, LevelsUnique, occursAt_append_nil]
    exact levels

lemma range'_split {tier : Nat} (split : range' 1 count = done ++ tier :: rest) :
    tier = done.length + 1 ∧ done.length < count := by
  have found : (range' 1 count)[done.length]? = some tier := by
    rw [split, getElem?_append_right le_rfl, Nat.sub_self]
    rfl
  have inside : done.length < count := by
    have counted := congrArg length split
    rw [length_range', length_append, length_cons] at counted
    omega
  rw [getElem?_range' inside, some.injEq] at found
  exact ⟨by omega, inside⟩

lemma linkTiers_decides (nodeName : String) (good : GoodTiers check values values.keys.zipIdx)
    (matched : DomainsMatch (levelsOf paths (tierPath values)) domains)
    (parents : ParentsUnique paths) : (ParentsUnique (paths ++ [tierPath values]) →
      ∃ linked, (range' 1 (values.keys.length - 1)).foldlM
          (addParent Runtime.canonical nodeName values) domains = .ok linked ∧
        DomainsMatch (relationsOf (paths ++ [tierPath values])) linked) ∧
    (¬ ParentsUnique (paths ++ [tierPath values]) →
      ∃ failure, (range' 1 (values.keys.length - 1)).foldlM
          (addParent Runtime.canonical nodeName values) domains = .error failure) := by
  have counted : (tierPath values).length = values.keys.length := by rw [tierPath, length_map]
  have all : (tierPath values).length ≤ (range' 1 (values.keys.length - 1)).length + 1 := by
    rw [length_range']
    omega
  have whole : ParentsUnique (paths ++ [tierPath values]) ↔
      ParentsUnique (paths ++ [(tierPath values).take
        ((range' 1 (values.keys.length - 1)).length + 1)]) := by
    rw [take_of_length_le all]
  rw [whole, ← linksOf_length all]
  refine foldlM_decides (fun done domains => DomainsMatch
      (linksOf paths (tierPath values) done.length) domains)
    (fun done => ParentsUnique (paths ++ [(tierPath values).take (done.length + 1)])) ?_ ?_ ?_ ?_
  · rw [length_nil, linksOf_zero]
    exact matched
  · intro done tier rest current split before reached
    obtain ⟨rfl, inside⟩ := range'_split split
    have isChild := getElem?_eq_getElem (by omega : done.length < (tierPath values).length)
    have isParent := getElem?_eq_getElem (by omega : done.length + 1 < (tierPath values).length)
    have occurs : (linksOf paths (tierPath values) done.length).occurs
        (tierPath values)[done.length] done.length :=
      occursAt_append_singleton.2 (.inr isChild)
    have child := good.getElem?_values isChild
    have parent := good.getElem?_values isParent
    rw [length_append, length_singleton,
      parentsUnique_take_succ isChild isParent, and_iff_right before,
      ← linksOf_addBelow isChild isParent]
    exact addParent_spec reached child parent occurs
  · intro done rest split unique
    refine unique.mono (append_take_parts paths _ ?_)
    rw [split, length_append]
    omega
  · rw [length_nil]
    intro child parent parent' here there
    rw [below_take_one] at here there
    exact parents child parent parent' here there

lemma GoodTiers.topDown (good : GoodTiers check values values.keys.zipIdx) :
    (range' 1 values.keys.length).reverse.map (fun tier : Nat => values.getD (tier : Int) "") =
      (tierPath values).reverse := by
  rw [map_reverse]
  refine congrArg reverse (ext_getElem? fun level => ?_)
  by_cases inside : level < values.keys.length
  · have found := getElem?_eq_getElem (by rw [tierPath, length_map]; exact inside :
      level < (tierPath values).length)
    have value := good.getElem?_values found
    rw [found, getElem?_map, getElem?_range' inside, map_some, getD_eq]
    have number : ((1 + 1 * level : Nat) : Int) = (level : Int) + 1 := by omega
    rw [number, value, getD_some]
  · rw [getElem?_eq_none (by simpa using inside),
      getElem?_eq_none (by rw [tierPath, length_map]; omega)]

lemma addTiers_decides (check : String → List String) (nodeName : String)
    (values : GoMap Int String) (matched : DomainsMatch (relationsOf paths) state.domains)
    (forest : PathForest paths) :
    (GoodTiers check values values.keys.zipIdx ∧ PathForest (paths ++ [tierPath values]) →
      ∃ next, addTiers check state (nodeName, values) = .ok next ∧
        DomainsMatch (relationsOf (paths ++ [tierPath values])) next.domains ∧
        next.nodeGroups = addToGroup state.nodeGroups (tierPath values).reverse nodeName) ∧
    (¬ (GoodTiers check values values.keys.zipIdx ∧ PathForest (paths ++ [tierPath values])) →
      ∃ failure, addTiers check state (nodeName, values) = .error failure) := by
  have checks := checkTiers_decides check nodeName values matched forest.levels
  constructor
  · rintro ⟨good, whole⟩
    obtain ⟨ensured, checked, levels⟩ := checks.1 ⟨good, whole.levels⟩
    rcases (linkTiers_decides nodeName good levels
      forest.parents).1 whole.parents with ⟨linked, isLinked, relations⟩
    refine ⟨⟨linked, addToGroup state.nodeGroups (tierPath values).reverse
      nodeName⟩, ?_, relations, rfl⟩
    unfold addTiers
    rw [checked, good.topDown]
    dsimp only [bind, Except.bind]
    rw [isLinked]
  · intro bad
    unfold addTiers
    by_cases good : GoodTiers check values values.keys.zipIdx ∧
      LevelsUnique (paths ++ [tierPath values])
    · obtain ⟨ensured, checked, levels⟩ := checks.1 good
      rcases (linkTiers_decides nodeName good.1 levels
        forest.parents).2 (fun parents => bad ⟨good.1, good.2, parents⟩) with
        ⟨failure, failed⟩
      refine ⟨failure, ?_⟩
      rw [checked]
      dsimp only [bind, Except.bind]
      rw [failed]
    · obtain ⟨failure, failed⟩ := checks.2 good
      refine ⟨failure, ?_⟩
      rw [failed]
      rfl

end

end Unifabric.TopologyStatus
