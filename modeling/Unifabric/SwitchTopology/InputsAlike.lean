import Unifabric.SwitchTopology.InputsView

/-!
# Objects which give the same inputs

Two versions of a node with the same interfaces, or of a switch with the same
neighbours, are processed alike: the runs of `buildTopologyInputsForRole` fail
with the same error or end with the same inputs.
-/

namespace Unifabric.SwitchTopology

open Lib V1beta1 List Std.ExtTreeMap

variable {left right : Switch} {builders : Builders} {role : SwitchRole}
  {switches switches' : List Switch}

/-! ## The switch loop -/

section

/-- Two versions of a Switch which the loops cannot tell apart. -/
structure SwitchAlike (left right : Switch) : Prop where
  name : left.name = right.name
  role : effectiveSwitchRole left = effectiveSwitchRole right
  hostname : left.hostname = right.hostname
  manual : left.annotations[ switchNeighborsAnnotation]? =
    right.annotations[ switchNeighborsAnnotation]?
  neighbor : ∀ remoteSystemType remoteSystemName, (∃ neighbor ∈ left.lldpNeighbors,
        neighbor.remoteSystemType = remoteSystemType ∧
          neighbor.remoteSystemName = remoteSystemName) ↔
      ∃ neighbor ∈ right.lldpNeighbors, neighbor.remoteSystemType = remoteSystemType ∧
          neighbor.remoteSystemName = remoteSystemName

lemma SwitchAlike.symm (alike : SwitchAlike left right) : SwitchAlike right left :=
  ⟨alike.name.symm, alike.role.symm, alike.hostname.symm,
    alike.manual.symm, fun kind name => (alike.neighbor kind name).symm⟩

lemma SwitchAlike.refl (switch : Switch) : SwitchAlike switch switch :=
  ⟨rfl, rfl, rfl, rfl, fun _ _ => Iff.rfl⟩

variable (managedHosts : GoMap String Bool) (normalizedSwitchNames : GoMap String String)

/-- A reported neighbour which is not a host adds a link. -/
def Reported (neighbor : SwitchNeighbor) (remote : String) : Prop :=
  canonicalRemoteSystemName neighbor.remoteSystemName managedHosts normalizedSwitchNames = remote ∧
    ¬ (neighbor.remoteSystemType = some .kubernetesNode ∨ managedHosts.getD remote false = true)

lemma reportedNeighbors_spec (ok : BuildersOk builders) (listed : switchName ∈ builders)
    (neighbors : List SwitchNeighbor) :
    BuildersOk (neighbors.foldl (addReportedNeighbor switchName managedHosts normalizedSwitchNames)
        builders) ∧ (∀ name, name ∈ neighbors.foldl (addReportedNeighbor switchName managedHosts
            normalizedSwitchNames) builders ↔ name ∈ builders) ∧
      ∀ name remote, HasNeighbor (neighbors.foldl (addReportedNeighbor switchName managedHosts
            normalizedSwitchNames) builders) name remote ↔ HasNeighbor builders name remote ∨
          (remote ≠ "" ∧ name = switchName ∧ ∃ neighbor ∈ neighbors,
            Reported managedHosts normalizedSwitchNames neighbor remote) := by
  refine foldl_prefix_induction _ neighbors builders
    (fun done (after : Builders) => BuildersOk after ∧ (∀ name, name ∈ after ↔ name ∈ builders) ∧
      ∀ name remote, HasNeighbor after name remote ↔ HasNeighbor builders name remote ∨
          (remote ≠ "" ∧ name = switchName ∧ ∃ neighbor ∈ done,
            Reported managedHosts normalizedSwitchNames neighbor remote))
    ⟨ok, fun _ => Iff.rfl, by simp⟩ ?_
  rintro done neighbor rest after _ ⟨afterOk, names, links⟩
  unfold addReportedNeighbor
  dsimp only
  split_ifs with isHost
  · refine ⟨afterOk, names, fun name remote => ?_⟩
    have skipped : ¬ Reported managedHosts normalizedSwitchNames neighbor
        remote := by
      rintro ⟨rfl, notHost⟩
      exact notHost isHost
    rw [links, exists_mem_concat, or_iff_left skipped]
  · refine ⟨afterOk.addBuilderNeighbor _ _, fun name => ?_, fun name remote => ?_⟩
    · rw [mem_addBuilderNeighbor, names]
      exact ⟨fun member => member.elim (fun same => same ▸ listed) id, .inr⟩
    · have reported : Reported managedHosts normalizedSwitchNames neighbor
          remote ↔ remote = canonicalRemoteSystemName neighbor.remoteSystemName managedHosts
            normalizedSwitchNames := by
        constructor
        · exact fun both => both.1.symm
        · rintro rfl
          exact ⟨rfl, isHost⟩
      rw [hasNeighbor_addBuilderNeighbor afterOk, links, exists_mem_concat, reported, or_assoc]
      refine or_congr_right ?_
      constructor
      · rintro (⟨nonempty, same, old⟩ | ⟨nonempty, same, rfl⟩)
        · exact ⟨nonempty, same, .inl old⟩
        · exact ⟨nonempty, same, .inr rfl⟩
      · rintro ⟨nonempty, same, old | rfl⟩
        · exact .inl ⟨nonempty, same, old⟩
        · exact .inr ⟨nonempty, same, rfl⟩

variable {managedHosts normalizedSwitchNames}

lemma SwitchAlike.reported (alike : SwitchAlike left right)
    (some : ∃ neighbor ∈ left.lldpNeighbors, Reported managedHosts
      normalizedSwitchNames neighbor remote) : ∃ neighbor ∈ right.lldpNeighbors,
      Reported managedHosts normalizedSwitchNames neighbor remote := by
  obtain ⟨neighbor, listed, reported⟩ := some
  rcases (alike.neighbor _ _).1 ⟨neighbor, listed, rfl, rfl⟩ with
    ⟨other, otherListed, sameType, sameName⟩
  refine ⟨other, otherListed, ?_⟩
  unfold Reported at reported ⊢
  rwa [sameType, sameName]

lemma addManualNeighbor_alike {left right : Builders} (same : SameLinks left right)
    (neighborName : String) :
    Alike SameLinks (addManualNeighbor role switchName normalizedSwitchNames
        syntheticSwitches left neighborName)
      (addManualNeighbor role switchName normalizedSwitchNames
        syntheticSwitches right neighborName) := by
  have resolved : resolveSwitchName neighborName normalizedSwitchNames
      left = resolveSwitchName neighborName normalizedSwitchNames
        right := by
    unfold resolveSwitchName
    simp only [same.contains_eq]
  unfold addManualNeighbor
  rw [resolved]
  dsimp only
  split
  · rfl
  · split_ifs
    · rfl
    · exact same.addBuilderNeighbor _ _

lemma addSwitchLinks_alike (alike : SwitchAlike left right) (same : SameLinks builders builders') :
    Alike SameLinks (addSwitchLinks role semiAutomatic managedHosts normalizedSwitchNames
        syntheticSwitches builders left)
      (addSwitchLinks role semiAutomatic managedHosts normalizedSwitchNames
        syntheticSwitches builders' right) := by
  have ensured := same.ensureSwitchBuilder left.name
  have parsed : parseManualSwitchNeighbors left = parseManualSwitchNeighbors right := by
    unfold parseManualSwitchNeighbors
    rw [GoMap.getD_eq, GoMap.getD_eq, alike.manual, alike.name]
  unfold addSwitchLinks
  rw [← parsed, ← alike.name]
  split_ifs with semi
  · split
    · rfl
    · next neighbors _ =>
      have aligned : List.Forall₂ (fun left right : String => left = right)
        neighbors neighbors := forall₂_same.2 fun _ _ => rfl
      refine foldlM_alike ?_ aligned ensured
      rintro neighborName _ state state' rfl related
      exact addManualNeighbor_alike related neighborName
  · have listed : left.name ∈ ensureSwitchBuilder builders left.name :=
      mem_ensureSwitchBuilder.2 (.inl rfl)
    rcases reportedNeighbors_spec managedHosts normalizedSwitchNames
      ensured.leftOk listed left.lldpNeighbors with
      ⟨leftOk, leftNames, leftLinks⟩
    rcases reportedNeighbors_spec managedHosts normalizedSwitchNames
      ensured.rightOk ((ensured.switch _).1 listed)
      right.lldpNeighbors with ⟨rightOk, rightNames, rightLinks⟩
    refine ⟨leftOk, rightOk, fun name => ?_, fun name remote => ?_⟩
    · rw [leftNames, rightNames, ensured.switch]
    · rw [leftLinks, rightLinks, ensured.neighbor]
      exact or_congr_right (and_congr_right fun _ => and_congr_right
        fun _ => ⟨alike.reported, alike.symm.reported⟩)

lemma switchLoop_alike (role : SwitchRole) (semiAutomatic : Bool)
    (managedHosts : GoMap String Bool) (normalizedSwitchNames : GoMap String String)
    (syntheticSwitches : GoMap String Bool) (alike : List.Forall₂ SwitchAlike switches switches')
    {builders' : Builders} (same : SameLinks builders builders') :
    Alike SameLinks (switches.foldlM (addSwitchLinks role semiAutomatic managedHosts
        normalizedSwitchNames syntheticSwitches) builders)
      (switches'.foldlM (addSwitchLinks role semiAutomatic managedHosts
        normalizedSwitchNames syntheticSwitches) builders') := by
  refine foldlM_alike ?_ alike same
  intro left right state state' head related
  exact addSwitchLinks_alike head related

end

/-! ## The inputs -/

/-- Two versions of a node which the loops cannot tell apart. -/
structure NodeAlike (role : SwitchRole) (left right : FabricNode) : Prop where
  name : left.name = right.name
  nic : ∀ nic, nic ∈ nodeNicsForRole left role ↔ nic ∈ nodeNicsForRole right role

lemma NodeAlike.refl (role : SwitchRole) (node : FabricNode) : NodeAlike role node node :=
  ⟨rfl, fun _ => Iff.rfl⟩

lemma foldl_aligned {σ α : Type} {step : σ → α → σ}
    {aligned : α → α → Prop} {values values' : List α}
    (agree : ∀ state value value', aligned value value' → step state value = step state value')
    (lists : List.Forall₂ aligned values values') (start : σ) :
    values.foldl step start = values'.foldl step start := by
  induction lists generalizing start with
  | nil => rfl
  | cons head _ ih => rw [foldl_cons, foldl_cons, agree start _ _ head, ih]

lemma switchesOfRole_alike (alike : List.Forall₂ SwitchAlike switches switches') :
    List.Forall₂ SwitchAlike (switchesOfRole role switches) (switchesOfRole role switches') := by
  induction alike with
  | nil => exact List.Forall₂.nil
  | @cons left right _ _ head _ ih =>
    unfold switchesOfRole at ih ⊢
    rw [filter_cons, filter_cons, head.role]
    split_ifs
    · exact List.Forall₂.cons head ih
    · exact ih

lemma all_hasManual_alike (alike : List.Forall₂ SwitchAlike switches switches') :
    switches.all hasManualSwitchNeighbors = switches'.all hasManualSwitchNeighbors := by
  induction alike with
  | nil => rfl
  | @cons left right _ _ head _ ih =>
    have manual : hasManualSwitchNeighbors left = hasManualSwitchNeighbors right := by
      unfold hasManualSwitchNeighbors
      rw [contains_eq_isSome_getElem?, contains_eq_isSome_getElem?, head.manual]
    rw [all_cons, all_cons, manual, ih]

/-- Nodes which look alike have the same interfaces of the role. -/
lemma mem_namedNics_alike {nodes nodes' : List FabricNode}
    (alike : List.Forall₂ (NodeAlike role) nodes nodes') (pair : String × NicInfo) :
    pair ∈ namedNics role nodes ↔ pair ∈ namedNics role nodes' := by
  induction alike with
  | nil => rfl
  | @cons left right _ _ head _ ih =>
    unfold namedNics at ih ⊢
    rw [flatMap_cons, flatMap_cons, mem_append, mem_append, ih]
    simp only [mem_map, head.nic, head.name]

/-- Objects which look alike give the same inputs or the same error. -/
lemma buildTopologyInputsForRole_alike (runtime runtime' : Runtime)
    {nodes nodes' : List FabricNode} (nodesAlike : List.Forall₂ (NodeAlike role) nodes nodes')
    (switchesAlike : List.Forall₂ SwitchAlike switches switches') :
    buildTopologyInputsForRole runtime role nodes switches =
      buildTopologyInputsForRole runtime' role nodes' switches' := by
  have roleAlike : List.Forall₂ SwitchAlike (switchesOfRole role switches)
    (switchesOfRole role switches') := switchesOfRole_alike switchesAlike
  have managed : nodes.foldl (fun table node => table.insert node.name true)
      (∅ : GoMap String Bool) = nodes'.foldl (fun table node => table.insert node.name true) ∅ := by
    refine foldl_aligned (fun table left right alike => ?_) nodesAlike ∅
    rw [alike.name]
  unfold buildTopologyInputsForRole
  dsimp only
  rw [managed]
  generalize nodes'.foldl (fun (table : GoMap String Bool) node =>
    table.insert node.name true) ∅ = managedHosts
  generalize switchesOfRole role switches = roleSwitches at roleAlike ⊢
  generalize switchesOfRole role switches' = roleSwitches' at roleAlike ⊢
  have names : normalizedNames roleSwitches = normalizedNames roleSwitches' := by
    refine foldl_aligned (fun table left right alike => ?_) roleAlike ∅
    rw [alike.name, alike.hostname]
  have ensured : roleSwitches.foldl
      (fun builders switch => ensureSwitchBuilder builders switch.name)
      (∅ : Builders) = roleSwitches'.foldl (fun builders switch =>
          ensureSwitchBuilder builders switch.name) ∅ := by
    refine foldl_aligned (fun table left right alike => ?_) roleAlike ∅
    rw [alike.name]
  have nodeOnly : roleSwitches.isEmpty = roleSwitches'.isEmpty := by
    cases roleAlike with
    | nil => rfl
    | cons => rfl
  have manual := all_hasManual_alike roleAlike
  rw [names, ensured, nodeOnly, manual]
  generalize (!roleSwitches'.isEmpty && roleSwitches'.all hasManualSwitchNeighbors) = semiAutomatic
  generalize (roleSwitches'.isEmpty || semiAutomatic) = synthetic
  have view : LinksView roleSwitches' synthetic _ _ := linksView_nodeLoop role nodes linksView_start
  have view' : LinksView roleSwitches' synthetic _ _ :=
    linksView_nodeLoop role nodes' linksView_start
  have same := view.same view' (mem_namedNics_alike nodesAlike)
  generalize nodes.foldl (addFabricNode _ _ _) _ = links at same ⊢
  generalize nodes'.foldl (addFabricNode _ _ _) _ = links' at same ⊢
  obtain ⟨sameLinks, sameSynthetic, sameHosts⟩ := same
  rw [sameSynthetic, sameHosts]
  have finished := switchLoop_alike role semiAutomatic managedHosts
    (normalizedNames roleSwitches') links'.syntheticSwitches roleAlike
    sameLinks
  revert finished
  generalize (roleSwitches.foldlM _ _ : Except InputsError Builders) = left
  generalize (roleSwitches'.foldlM _ _ : Except InputsError Builders) = right
  intro finished
  cases left with
  | error failure =>
    cases right with
    | error other => exact congrArg Except.error finished
    | ok builders => exact finished.elim
  | ok builders =>
    cases right with
    | error other => exact finished.elim
    | ok builders' =>
      have finish : finishBuilder runtime builders = finishBuilder runtime' builders' :=
        funext (finished.finishBuilder_eq runtime runtime')
      simp only [Discovery.sortedNamesFromMap_eq, finished.keys_eq, finish]

end Unifabric.SwitchTopology
