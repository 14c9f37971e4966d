import Unifabric.TopologyStatus.NodeLoop

/-!
# The loops of the status

The loop over the Nodes fails exactly when their paths do not describe a forest
of valid names.  The loop over the Switches fails exactly when a domain is no
valid name; it adds members to the domains which are on a Node.
-/

namespace Unifabric.TopologyStatus

open Lib TopologyLabel V1beta1 List

variable {check : String → List String}

/-! ## Nodes -/

/-- The values of a view from tier one upwards. -/
def viewPath (view : String × GoMap Int String) : List String := tierPath view.2

/-- The paths describe a forest of valid names. -/
structure GoodViews (isValidLabelValue : String → List String)
    (views : List (String × GoMap Int String)) : Prop where
  tiers : ∀ view ∈ views, GoodTiers isValidLabelValue view.2 view.2.keys.zipIdx
  forest : PathForest (views.map viewPath)

/-- The groups of the Nodes. -/
def groupsOf (views : List (String × GoMap Int String)) : NodeGroups :=
  views.foldl (fun nodeGroups view =>
      addToGroup nodeGroups (viewPath view).reverse view.1) ∅

section

variable {views : List (String × GoMap Int String)}

lemma pathForest_nil : PathForest ([] : List (List String)) := by
  constructor
  · rintro value level level' ⟨path, listed, _⟩
    exact absurd listed not_mem_nil
  · rintro child parent parent' ⟨path, listed, _⟩
    exact absurd listed not_mem_nil

lemma goodViews_append : GoodViews check (views ++ [view]) ↔ (∀ earlier ∈ views,
          GoodTiers check earlier.2 earlier.2.keys.zipIdx) ∧
        GoodTiers check view.2 view.2.keys.zipIdx ∧
        PathForest (views.map viewPath ++ [tierPath view.2]) := by
  constructor
  · rintro ⟨tiers, forest⟩
    refine ⟨fun earlier listed =>
      tiers earlier (mem_append_left _ listed),
      tiers view (mem_append_right _ mem_cons_self), ?_⟩
    rwa [map_append] at forest
  · rintro ⟨earlier, last, forest⟩
    refine ⟨forall_mem_concat earlier last, ?_⟩
    rwa [map_append]

lemma nodesLoop_decides (check : String → List String) (views : List (String × GoMap Int String)) :
    (GoodViews check views → ∃ built, views.foldlM (addTiers check) ⟨∅, ∅⟩ = .ok built ∧
        DomainsMatch (relationsOf (views.map viewPath)) built.domains ∧
        built.nodeGroups = groupsOf views) ∧ (¬ GoodViews check views →
      ∃ failure, views.foldlM (addTiers check) ⟨∅, ∅⟩ = .error failure) := by
  refine foldlM_decides (fun done (state : BuildState) =>
      DomainsMatch (relationsOf (done.map viewPath)) state.domains ∧
        state.nodeGroups = groupsOf done)
    (GoodViews check) ?_ ?_ ?_ ?_
  · refine ⟨⟨?_, by simp, by simp, by simp⟩, rfl⟩
    intro value
    simp [relationsOf, OccursAt]
  · rintro done ⟨nodeName, values⟩ rest state _ good ⟨matched, groups⟩
    have decides := addTiers_decides check nodeName values matched good.forest
    rw [goodViews_append, and_iff_right good.tiers]
    refine ⟨fun now => ?_, decides.2⟩
    obtain ⟨next, added, relations, joined⟩ := decides.1 now
    refine ⟨next, added, ?_, ?_⟩
    · rw [map_append]
      exact relations
    · rw [joined, groups, groupsOf, groupsOf, foldl_append]
      rfl
  · intro done rest split good
    refine ⟨fun view listed =>
      good.tiers view (split ▸ mem_append_left _ listed),
      good.forest.mono fun path listed => ⟨path, ?_, prefix_rfl⟩⟩
    rw [split, map_append]
    exact mem_append_left _ listed
  · exact ⟨fun view listed => absurd listed not_mem_nil, pathForest_nil⟩

end

/-! ## Switches -/

/-- The relations of paths and Switches. -/
def statusRelations (paths : List (List String))
    (switches : List (String × String)) : DomainRelations where
  occurs := OccursAt paths
  below := Below paths
  member := fun value name => (name, value) ∈ switches ∧ ∃ level, OccursAt paths value level

/-- The value is on a Node. -/
def onNode (paths : List (List String)) (value : String) : Bool :=
  paths.any fun path => path.contains value

/-- The domains are valid names. -/
def GoodMembers (isValidLabelValue : String → List String)
    (switches : List (String × String)) : Prop :=
  ∀ view ∈ switches, validateDomainName isValidLabelValue view.2 = .ok ()

/-- The texts about Switches whose domain is on no Node. -/
def pendingTexts (paths : List (List String)) (switches : List (String × String)) : List String :=
  (switches.filter fun view => !onNode paths view.2).map fun view => pendingText view.1 view.2

section

variable {paths : List (List String)} {switches : List (String × String)}

lemma onNode_iff : onNode paths value = true ↔ ∃ level, OccursAt paths value level := by
  simp only [onNode, any_eq_true, contains_iff_mem, OccursAt]
  constructor
  · rintro ⟨path, listed, inside⟩
    obtain ⟨level, found⟩ := getElem?_of_mem inside
    exact ⟨level, path, listed, found⟩
  · rintro ⟨level, path, listed, found⟩
    exact ⟨path, listed, mem_of_getElem? found⟩

lemma addMember_spec (matched : DomainsMatch (statusRelations paths switches) state.domains)
    (pending : state.pending = pendingTexts paths switches)
    (valid : validateDomainName check view.2 = .ok ()) :
    ∃ next, addMember check state view = .ok next ∧
      DomainsMatch (statusRelations paths (switches ++ [view])) next.domains ∧
      next.pending = pendingTexts paths (switches ++ [view]) := by
  unfold addMember
  rw [valid]
  cases found : state.domains[view.2]? with
  | none =>
    have absent : ¬ ∃ level, OccursAt paths view.2 level := by
      rintro listed
      exact (GoMap.getElem?_eq_none_iff _ _).1 found ((matched.listed view.2).2 listed)
    have same : statusRelations paths (switches ++ [view]) = statusRelations paths switches := by
      have members : (fun value name => (name, value) ∈ switches ++ [view] ∧
          ∃ level, OccursAt paths value level) =
          fun value name => (name, value) ∈ switches ∧ ∃ level, OccursAt paths value level := by
        funext value name
        refine propext (and_congr_left fun listed => ?_)
        rw [mem_append, mem_singleton]
        refine or_iff_left fun isLast => ?_
        rw [← isLast] at absent
        exact absent listed
      rw [statusRelations, members]
      rfl
    refine ⟨_, rfl, same ▸ matched, ?_⟩
    rw [pending, pendingTexts, pendingTexts, filter_append, map_append]
    have isPending : onNode paths view.2 = false := by
      rw [← Bool.not_eq_true, onNode_iff]
      exact absent
    simp [isPending]
  | some domain =>
    have isListed : ∃ level, OccursAt paths view.2 level :=
      (matched.listed view.2).1 ((GoMap.mem_iff _ _).2 ⟨domain, found⟩)
    refine ⟨_, rfl, matched.update found rfl rfl ?_ ?_ ?_ ?_, ?_⟩
    · exact matched.parent view.2 domain found
    · intro name
      rw [GoMap.mem_insert, matched.member view.2 domain found]
      simp only [statusRelations, and_iff_left isListed, mem_append, mem_singleton]
      rw [or_comm]
      refine or_congr_right ⟨?_, ?_⟩
      · rintro rfl
        rfl
      · intro same
        exact congrArg Prod.fst same
    · exact fun other _ name => Iff.rfl
    · intro other differs name
      simp only [statusRelations, mem_append, mem_singleton]
      refine and_congr_left fun _ => or_iff_left fun same => ?_
      exact differs (congrArg Prod.snd same)
    · dsimp only
      rw [pending, pendingTexts, pendingTexts, filter_append, map_append]
      simp [onNode_iff.2 isListed]

lemma switchesLoop_decides (check : String → List String) (paths : List (List String))
    (switches : List (String × String)) (matched : DomainsMatch (relationsOf paths) domains) :
    (GoodMembers check switches →
      ∃ joined, switches.foldlM (addMember check) ⟨domains, []⟩ = .ok joined ∧
        DomainsMatch (statusRelations paths switches) joined.domains ∧
        joined.pending = pendingTexts paths switches) ∧ (¬ GoodMembers check switches →
      ∃ failure, switches.foldlM (addMember check) ⟨domains, []⟩ = .error failure) := by
  refine foldlM_decides_forall (fun done (state : SwitchState) =>
      DomainsMatch (statusRelations paths done) state.domains ∧
        state.pending = pendingTexts paths done)
    (fun view => validateDomainName check view.2 = .ok ()) ?_ ?_
  · refine ⟨?_, rfl⟩
    have same : statusRelations paths [] = relationsOf paths := by
      have members : (fun value name =>
          ((name, value) : String × String) ∈ ([] : List (String × String)) ∧
            ∃ level, OccursAt paths value level) = fun _ _ => False := by
        funext value name
        simp
      rw [statusRelations, members]
      rfl
    rw [same]
    exact matched
  · rintro done view rest state _ ⟨reached, pending⟩
    refine ⟨addMember_spec reached pending, fun bad => ?_⟩
    unfold addMember
    cases valid : validateDomainName check view.2 with
    | error reason => exact ⟨_, rfl⟩
    | ok _ => exact absurd valid bad

end

end Unifabric.TopologyStatus
