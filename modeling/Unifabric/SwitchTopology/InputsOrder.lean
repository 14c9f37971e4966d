import Unifabric.SwitchTopology.InputsAlike
import Unifabric.SwitchTopology.NameAliases

/-!
# The order of the lists

The inputs are sets of links, so the order of the FabricNodes and Switches can
only show through the table of normalized names, where the last Switch wins.
The inputs are independent of the order exactly if no two Switches of the role
enter the same normal form.
-/

namespace Unifabric.SwitchTopology

open Lib V1beta1 List

/-! ## What one Switch contributes -/

section

variable (role : SwitchRole) (semiAutomatic : Bool)
  (managedHosts : GoMap String Bool) (names : GoMap String String)
  (synthetic : GoMap String Bool) (existing : Builders)

/-- The switch which a manual neighbour stands for. -/
def manualTarget (neighborName : String) : Option String :=
  match resolveSwitchName neighborName names existing with
  | some found => some found
  | none =>
    if synthetic.getD (normalizeResourceName neighborName) false then
      some (normalizeResourceName neighborName)
    else none

/-- The manual neighbours of a switch can be read and resolved. -/
def ManualFine (switchName : String) (neighbors : List String) : Prop :=
  ∀ neighborName ∈ neighbors, ∃ target,
    manualTarget names synthetic existing neighborName = some target ∧ target ≠ switchName

/-- The loop accepts a switch. -/
def SwitchFine (switch : Switch) : Prop :=
  semiAutomatic = true → ∃ neighbors, parseManualSwitchNeighbors switch = .ok neighbors ∧
      ManualFine names synthetic existing switch.name neighbors

/-- The loop adds a link of a switch. -/
def SwitchAdds (switch : Switch) (remote : String) : Prop :=
  if semiAutomatic then
    ∃ neighbors, parseManualSwitchNeighbors switch = .ok neighbors ∧ ∃ neighborName ∈ neighbors,
        manualTarget names synthetic existing neighborName = some remote
  else
    ∃ neighbor ∈ switch.lldpNeighbors, Reported managedHosts names neighbor remote

/-- Builders of some switches with some links. -/
structure LinksAre (known : String → Prop) (link : String → String → Prop)
    (builders : Builders) : Prop where
  ok : BuildersOk builders
  switch : ∀ name, name ∈ builders ↔ known name
  neighbor : ∀ name remote, HasNeighbor builders name remote ↔ link name remote

lemma LinksAre.same {known : String → Prop} {link : String → String → Prop}
    (leftLinks : LinksAre known link left) (rightLinks : LinksAre known link right) :
    SameLinks left right where
  leftOk := leftLinks.ok
  rightOk := rightLinks.ok
  switch name := by rw [leftLinks.switch, rightLinks.switch]
  neighbor name remote := by rw [leftLinks.neighbor, rightLinks.neighbor]

variable {role semiAutomatic managedHosts names synthetic existing}
  {link : String → String → Prop} {builders : Builders}

lemma LinksAre.manualTarget_eq (links : LinksAre (· ∈ existing) link builders)
    (neighborName : String) : manualTarget names synthetic builders neighborName =
      manualTarget names synthetic existing neighborName := by
  have same : ∀ name, builders.contains name = existing.contains name := by
    intro name
    rw [Bool.eq_iff_iff, Std.ExtTreeMap.contains_iff_mem,
      Std.ExtTreeMap.contains_iff_mem, links.switch]
  unfold manualTarget resolveSwitchName
  simp only [same]

lemma LinksAre.addBuilderNeighbor (links : LinksAre (· ∈ existing) link builders)
    (listed : switchName ∈ existing) (remote : String) :
    LinksAre (· ∈ existing) (fun name other => link name other ∨
        (other ≠ "" ∧ name = switchName ∧ remote = other))
      (addBuilderNeighbor builders switchName remote) where
  ok := links.ok.addBuilderNeighbor switchName remote
  switch name := by
    rw [mem_addBuilderNeighbor, links.switch]
    exact ⟨fun member => member.elim (fun same => same ▸ listed) id, .inr⟩
  neighbor name other := by
    rw [hasNeighbor_addBuilderNeighbor links.ok, links.neighbor]
    refine or_congr_right ⟨?_, ?_⟩
    · rintro ⟨nonempty, same, rfl⟩
      exact ⟨nonempty, same, rfl⟩
    · rintro ⟨nonempty, same, rfl⟩
      exact ⟨nonempty, same, rfl⟩

lemma LinksAre.congr {known : String → Prop} {link' : String → String → Prop}
    (links : LinksAre known link builders)
    (same : ∀ name remote, link name remote ↔ link' name remote) : LinksAre known link' builders :=
  ⟨links.ok, links.switch, fun name remote => (links.neighbor name remote).trans (same name remote)⟩

variable (role semiAutomatic managedHosts names synthetic)

variable (links : LinksAre (· ∈ existing) link builders)

include links

lemma manualNeighbors_decides (listed : switchName ∈ existing) (neighbors : List String) :
    (ManualFine names synthetic existing switchName neighbors → ∃ next, neighbors.foldlM
          (addManualNeighbor role switchName names synthetic) builders = .ok next ∧
        LinksAre (· ∈ existing) (fun name remote => link name remote ∨
            (remote ≠ "" ∧ name = switchName ∧ ∃ neighborName ∈ neighbors,
                manualTarget names synthetic existing neighborName = some remote)) next) ∧
      (¬ ManualFine names synthetic existing switchName neighbors → ∃ failure, neighbors.foldlM
          (addManualNeighbor role switchName names synthetic) builders = .error failure) := by
  refine foldlM_decides_forall (fun done (state : Builders) => LinksAre (· ∈ existing)
      (fun name remote => link name remote ∨
        (remote ≠ "" ∧ name = switchName ∧ ∃ neighborName ∈ done,
          manualTarget names synthetic existing neighborName = some remote)) state)
    (fun neighborName => ∃ target,
      manualTarget names synthetic existing neighborName = some target ∧ target ≠ switchName) ?_ ?_
  · exact links.congr fun name remote => by simp
  · intro done neighborName rest state split reached
    have step : addManualNeighbor role switchName names synthetic state neighborName =
        (manualTarget names synthetic existing neighborName).elim
          (.error (.unknownNeighbor switchName role neighborName)) fun target =>
            if target = switchName then .error (.selfReference switchName)
            else .ok (addBuilderNeighbor state switchName target) := by
      rw [← reached.manualTarget_eq]
      unfold addManualNeighbor manualTarget
      cases resolveSwitchName neighborName names state with
      | some found => rfl
      | none =>
        by_cases isSynthetic : synthetic.getD (normalizeResourceName neighborName) false = true
        · rw [if_pos isSynthetic]
          dsimp only [Option.elim_some]
        · rw [if_neg isSynthetic]
          dsimp only [Option.elim_none]
    rw [step]
    cases resolved : manualTarget names synthetic existing neighborName with
    | none =>
      refine ⟨?_, fun _ => ⟨_, rfl⟩⟩
      rintro ⟨target, found, _⟩
      cases found
    | some target =>
      rw [Option.elim_some]
      by_cases itself : target = switchName
      · rw [if_pos itself]
        refine ⟨?_, fun _ => ⟨_, rfl⟩⟩
        rintro ⟨other, found, foreign⟩
        cases found
        exact absurd itself foreign
      · rw [if_neg itself]
        refine ⟨fun _ => ⟨_, rfl, ?_⟩, fun broken => absurd ⟨target, rfl, itself⟩ broken⟩
        refine (reached.addBuilderNeighbor listed target).congr ?_
        intro name remote
        rw [exists_mem_concat, resolved, Option.some_inj, or_assoc, ← and_or_left, ← and_or_left]

lemma addSwitchLinks_decides (listed : switch.name ∈ existing) :
    (SwitchFine semiAutomatic names synthetic existing switch →
      ∃ next, addSwitchLinks role semiAutomatic managedHosts names synthetic
          builders switch = .ok next ∧
        LinksAre (· ∈ existing) (fun name remote => link name remote ∨
            (remote ≠ "" ∧ name = switch.name ∧
              SwitchAdds semiAutomatic managedHosts names synthetic existing switch remote)) next) ∧
      (¬ SwitchFine semiAutomatic names synthetic existing switch →
        ∃ failure, addSwitchLinks role semiAutomatic managedHosts names
          synthetic builders switch = .error failure) := by
  have ensured : LinksAre (· ∈ existing) link (ensureSwitchBuilder builders switch.name) := by
    refine ⟨links.ok.ensureSwitchBuilder switch.name, fun name => ?_, fun name remote => ?_⟩
    · rw [mem_ensureSwitchBuilder, links.switch]
      exact ⟨fun member => member.elim (fun same => same ▸ listed) id, .inr⟩
    · unfold HasNeighbor
      rw [getD_ensureSwitchBuilder]
      exact links.neighbor name remote
  unfold SwitchFine SwitchAdds addSwitchLinks
  cases semiAutomatic with
  | true =>
    simp only [if_true, forall_const]
    cases parseManualSwitchNeighbors switch with
    | error failure =>
      constructor
      · rintro ⟨neighbors, parsed, _⟩
        cases parsed
      · exact fun _ => ⟨failure, rfl⟩
    | ok neighbors =>
      simpa using manualNeighbors_decides role names synthetic ensured listed neighbors
  | false =>
    simp only [Bool.false_eq_true, false_implies, not_true, if_false, forall_const, and_true]
    rcases reportedNeighbors_spec managedHosts names ensured.ok
      ((ensured.switch _).2 listed) switch.lldpNeighbors with
      ⟨ok, switches, neighbors⟩
    refine ⟨_, rfl, ok, fun name => ?_, fun name remote => ?_⟩
    · rw [switches, ensured.switch]
    · rw [neighbors, ensured.neighbor]

lemma switchLoop_decides {switches : List Switch}
    (listed : ∀ switch ∈ switches, switch.name ∈ existing) :
    ((∀ switch ∈ switches, SwitchFine semiAutomatic names synthetic existing switch) →
      ∃ next, switches.foldlM (addSwitchLinks role semiAutomatic managedHosts names synthetic)
          builders = .ok next ∧ LinksAre (· ∈ existing) (fun name remote => link name remote ∨
            ∃ switch ∈ switches, remote ≠ "" ∧ name = switch.name ∧
              SwitchAdds semiAutomatic managedHosts names synthetic existing switch remote) next) ∧
      (¬ (∀ switch ∈ switches, SwitchFine semiAutomatic names synthetic existing switch) →
        ∃ failure, switches.foldlM (addSwitchLinks role semiAutomatic managedHosts names synthetic)
          builders = .error failure) := by
  refine foldlM_decides_forall (fun done (state : Builders) => LinksAre (· ∈ existing)
      (fun name remote => link name remote ∨ ∃ switch ∈ done, remote ≠ "" ∧ name = switch.name ∧
          SwitchAdds semiAutomatic managedHosts names synthetic existing switch remote) state)
    (SwitchFine semiAutomatic names synthetic existing) ?_ ?_
  · exact links.congr fun name remote => by simp
  · intro done switch rest state split reached
    have known : switch.name ∈ existing := listed switch (by simp [split])
    rcases addSwitchLinks_decides role semiAutomatic managedHosts names
      synthetic reached known with ⟨succeeds, fails⟩
    refine ⟨fun fine => ?_, fails⟩
    obtain ⟨next, stepped, after⟩ := succeeds fine
    refine ⟨next, stepped, after.congr fun name remote => ?_⟩
    rw [exists_mem_concat, or_assoc]

end

/-! ## Lists in another order -/

section

variable {roleSwitches roleSwitches' : List Switch} {synthetic : Bool}

/-- No two Switches of different names enter the same normal form. -/
def UnambiguousNames (roleSwitches : List Switch) : Prop :=
  ∀ first ∈ roleSwitches, ∀ second ∈ roleSwitches, ∀ key,
    key ∈ aliasKeys first → key ∈ aliasKeys second → first.name = second.name

lemma UnambiguousNames.normalizedNames_eq (unambiguous : UnambiguousNames roleSwitches)
    (permuted : roleSwitches.Perm roleSwitches') :
    normalizedNames roleSwitches = normalizedNames roleSwitches' := by
  refine Std.ExtTreeMap.ext_getElem? fun key => ?_
  rw [getElem?_normalizedNames, getElem?_normalizedNames]
  refine map_lastWith_eq permuted ?_
  intro first isFirst second isSecond
  exact unambiguous first isFirst second isSecond key

lemma isRoleSwitch_perm (permuted : roleSwitches.Perm roleSwitches') (name : String) :
    IsRoleSwitch roleSwitches name ↔ IsRoleSwitch roleSwitches' name := by
  unfold IsRoleSwitch
  simp only [permuted.mem_iff]

/-- The view depends on the names of the Switches and on their table. -/
lemma LinksView.congr
    (names : ∀ name, IsRoleSwitch roleSwitches name ↔ IsRoleSwitch roleSwitches' name)
    (table : normalizedNames roleSwitches = normalizedNames roleSwitches')
    (view : LinksView roleSwitches synthetic pairs links) :
    LinksView roleSwitches' synthetic pairs links := by
  have invented : ∀ hostname name, Invented roleSwitches synthetic hostname name ↔
        Invented roleSwitches' synthetic hostname name := by
    intro hostname name
    constructor
    · rintro ⟨allowed, noSwitch, noName, named, nonempty⟩
      exact ⟨allowed, mt (names hostname).2 noSwitch, table ▸ noName, named, nonempty⟩
    · rintro ⟨allowed, noSwitch, noName, named, nonempty⟩
      exact ⟨allowed, mt (names hostname).1 noSwitch, table ▸ noName, named, nonempty⟩
  have leads : ∀ pair name, Leads roleSwitches synthetic pair name ↔
      Leads roleSwitches' synthetic pair name := by
    intro pair name
    unfold Leads Resolves
    rw [names, table, invented]
  obtain ⟨ok, switch, neighbor, inventedMarks, host⟩ := view
  simp only [names, leads, invented] at switch neighbor inventedMarks host
  exact ⟨ok, switch, neighbor, inventedMarks, host⟩

lemma managedHostSet_perm (permuted : fabricNodes.Perm fabricNodes') :
    managedHostSet fabricNodes = managedHostSet fabricNodes' :=
  GoMap.foldl_insert_congr (fun _ => permuted.mem_iff) fun _ _ _ _ _ => rfl

lemma mem_namedNics_perm (permuted : fabricNodes.Perm fabricNodes') (pair : String × NicInfo) :
    pair ∈ namedNics role fabricNodes ↔ pair ∈ namedNics role fabricNodes' := by
  unfold namedNics
  simp only [mem_flatMap, permuted.mem_iff]

/-- Unambiguous names give the same inputs, or failures, in every order. -/
lemma UnambiguousNames.inputs_eq {fabricNodes fabricNodes' : List FabricNode}
    (unambiguous : UnambiguousNames (switchesOfRole role switches))
    (nodesPermuted : fabricNodes.Perm fabricNodes') (switchesPermuted : switches.Perm switches')
    (runtime runtime' : Runtime) :
    (buildTopologyInputsForRole runtime role fabricNodes switches).toOption =
      (buildTopologyInputsForRole runtime' role fabricNodes' switches').toOption := by
  have permuted : (switchesOfRole role switches).Perm
    (switchesOfRole role switches') := switchesPermuted.filter _
  have managed := managedHostSet_perm nodesPermuted
  unfold managedHostSet at managed
  unfold buildTopologyInputsForRole
  dsimp only
  rw [managed]
  generalize fabricNodes'.foldl (fun (table : GoMap String Bool) node =>
    table.insert node.name true) ∅ = managedHosts
  generalize switchesOfRole role switches = roleSwitches at *
  generalize switchesOfRole role switches' = roleSwitches' at *
  have table := unambiguous.normalizedNames_eq permuted
  have empty : roleSwitches.isEmpty = roleSwitches'.isEmpty := by
    rw [Bool.eq_iff_iff, isEmpty_iff_length_eq_zero, isEmpty_iff_length_eq_zero, permuted.length_eq]
  have manual : roleSwitches.all hasManualSwitchNeighbors =
    roleSwitches'.all hasManualSwitchNeighbors := permuted.all_eq
  rw [empty, manual]
  generalize (!roleSwitches'.isEmpty && roleSwitches'.all hasManualSwitchNeighbors) = semiAutomatic
  generalize (roleSwitches'.isEmpty || semiAutomatic) = synthetic
  have view : LinksView roleSwitches' synthetic _ _ :=
    (linksView_nodeLoop role fabricNodes linksView_start).congr (isRoleSwitch_perm permuted) table
  have view' : LinksView roleSwitches' synthetic _ _ :=
    linksView_nodeLoop role fabricNodes' linksView_start
  rcases view.same view' (mem_namedNics_perm nodesPermuted) with
    ⟨sameLinks, sameSynthetic, sameHosts⟩
  have switchListed := view'.switch
  rw [table] at sameLinks sameSynthetic sameHosts ⊢
  generalize fabricNodes.foldl (addFabricNode _ _ _) _ = links
    at sameLinks sameSynthetic sameHosts ⊢
  generalize fabricNodes'.foldl (addFabricNode _ _ _) _ = links'
    at switchListed sameLinks sameSynthetic sameHosts ⊢
  rw [sameSynthetic, sameHosts]
  have before : LinksAre (· ∈ links'.builders) (HasNeighbor links'.builders) links.builders :=
    ⟨sameLinks.leftOk, sameLinks.switch, sameLinks.neighbor⟩
  have before' : LinksAre (· ∈ links'.builders) (HasNeighbor links'.builders) links'.builders :=
    ⟨sameLinks.rightOk, fun _ => Iff.rfl, fun _ _ => Iff.rfl⟩
  have listed' : ∀ switch ∈ roleSwitches', switch.name ∈ links'.builders :=
    fun switch member => (switchListed switch.name).2 (.inl ⟨switch, member, rfl⟩)
  have listed : ∀ switch ∈ roleSwitches, switch.name ∈ links'.builders :=
    fun switch member => listed' switch (permuted.mem_iff.1 member)
  rcases switchLoop_decides role semiAutomatic managedHosts
    (normalizedNames roleSwitches') links'.syntheticSwitches before listed
    with ⟨succeeds, fails⟩
  rcases switchLoop_decides role semiAutomatic managedHosts
    (normalizedNames roleSwitches') links'.syntheticSwitches before' listed'
    with ⟨succeeds', fails'⟩
  simp only [permuted.mem_iff] at succeeds fails
  by_cases fine : ∀ switch ∈ roleSwitches', SwitchFine semiAutomatic
    (normalizedNames roleSwitches') links'.syntheticSwitches
    links'.builders switch
  · obtain ⟨finished, folded, after⟩ := succeeds fine
    obtain ⟨finished', folded', after'⟩ := succeeds' fine
    have same := after.same after'
    have finish : finishBuilder runtime finished = finishBuilder runtime' finished' :=
      funext (same.finishBuilder_eq runtime runtime')
    rw [folded, folded']
    simp only [Discovery.sortedNamesFromMap_eq, same.keys_eq, finish]
  · obtain ⟨failure, folded⟩ := fails fine
    obtain ⟨failure', folded'⟩ := fails' fine
    rw [folded, folded']
    rfl

end

/-! ## Independence of the order -/

section

/-- Two versions of a Switch with the same name, role and hostname. -/
structure SameIdentity (left right : Switch) : Prop where
  name : left.name = right.name
  role : effectiveSwitchRole left = effectiveSwitchRole right
  hostname : left.hostname = right.hostname

lemma SameIdentity.aliasKeys_eq (same : SameIdentity left right) :
    aliasKeys left = aliasKeys right := by
  unfold aliasKeys
  rw [same.name, same.hostname]

/--
Whatever the FabricNodes report and whatever neighbours the Switches report or
are annotated with, the inputs are the same for every order of both lists, or
both orders fail.
-/
def OrderFree (role : SwitchRole) (switches : List Switch) : Prop :=
  ∀ (runtime runtime' : Runtime) (versions versions' : List Switch)
    (fabricNodes fabricNodes' : List FabricNode),
    List.Forall₂ SameIdentity switches versions →
    (fabricNodes.map (·.name)).Nodup →
    versions.Perm versions' → fabricNodes.Perm fabricNodes' →
    (buildTopologyInputsForRole runtime role fabricNodes versions).toOption =
      (buildTopologyInputsForRole runtime' role fabricNodes' versions').toOption

variable {role : SwitchRole} {switches versions : List Switch}

lemma UnambiguousNames.sameIdentity (same : List.Forall₂ SameIdentity switches versions)
    (unambiguous : UnambiguousNames (switchesOfRole role switches)) :
    UnambiguousNames (switchesOfRole role versions) := by
  have original : ∀ version ∈ switchesOfRole role versions, ∃ switch ∈ switchesOfRole role switches,
        SameIdentity switch version := by
    intro version member
    obtain ⟨listed, isRole⟩ := (mem_switchesOfRole_iff version).1 member
    obtain ⟨switch, switchListed, identical⟩ := exists_left_of_forall₂ same listed
    exact ⟨switch, (mem_switchesOfRole_iff switch).2
      ⟨switchListed, identical.role.trans isRole⟩, identical⟩
  intro first isFirst second isSecond key firstKey secondKey
  obtain ⟨left, leftListed, leftSame⟩ := original first isFirst
  obtain ⟨right, rightListed, rightSame⟩ := original second isSecond
  rw [← leftSame.aliasKeys_eq] at firstKey
  rw [← rightSame.aliasKeys_eq] at secondKey
  rw [← leftSame.name, ← rightSame.name]
  exact unambiguous left leftListed right rightListed key firstKey secondKey

/-- The version of a Switch which reports one neighbour and nothing else. -/
def reporting (remote : String) (switch : Switch) : Switch :=
  { switch with annotations := ∅, lldpNeighbors := [⟨none, remote, 0⟩] }

lemma sameIdentity_reporting (remote : String) (switch : Switch) :
    SameIdentity switch (reporting remote switch) :=
  ⟨rfl, rfl, rfl⟩

lemma normalizeResourceName_of_mem_aliasKeys (listed : key ∈ aliasKeys switch) :
    normalizeResourceName key = key := by
  rcases mem_cons.1 listed with rfl | hostname
  · exact normalizeResourceName_idem switch.name
  · split_ifs at hostname with silent
    · cases hostname
    · rw [mem_singleton.1 hostname, normalizeResourceName_idem]

/--
If every Switch reports the same neighbour then all of them are linked to the
owner of its normal form.
-/
lemma exists_reportingInputs (runtime : Runtime) {remote owner : String}
    (plain : ∀ version ∈ versions, version.annotations = ∅ ∧
      version.lldpNeighbors = [⟨none, remote, 0⟩])
    (owned : (normalizedNames (switchesOfRole role versions))[
      normalizeResourceName remote]? = some owner) :
    ∃ inputs, buildTopologyInputsForRole runtime role [] versions = .ok inputs ∧ ∀ name other,
        (∃ switch ∈ inputs.switches, switch.name = name ∧ ∃ neighbor ∈ switch.neighbors,
            neighbor.remoteSystemName = other) ↔
          IsRoleSwitch (switchesOfRole role versions) name ∧ other ≠ "" ∧ other = owner := by
  have plainRole : ∀ version ∈ switchesOfRole role versions, version.annotations = ∅ ∧
        version.lldpNeighbors = [⟨none, remote, 0⟩] := fun version member =>
    plain version ((mem_switchesOfRole_iff version).1 member).1
  unfold buildTopologyInputsForRole
  dsimp only [foldl_nil]
  generalize switchesOfRole role versions = roleSwitches at *
  have automatic : (!roleSwitches.isEmpty &&
      roleSwitches.all hasManualSwitchNeighbors) = false := by
    cases roleSwitches with
    | nil => rfl
    | cons first rest =>
      have bare : hasManualSwitchNeighbors first = false := by
        unfold hasManualSwitchNeighbors
        rw [(plainRole first mem_cons_self).1]
        rfl
      simp [bare]
  have start : LinksView roleSwitches (roleSwitches.isEmpty || false) [] _ := linksView_start
  rw [automatic]
  generalize roleSwitches.foldl (fun (builders : Builders) (switch : Switch) =>
      ensureSwitchBuilder builders switch.name) ∅ = builders at start ⊢
  have before : LinksAre (· ∈ builders) (fun _ _ => False) builders :=
    ⟨start.ok, fun _ => Iff.rfl, fun name other => by
      rw [start.neighbor]
      simp⟩
  have known : ∀ name, name ∈ builders ↔ IsRoleSwitch roleSwitches name := by
    intro name
    rw [start.switch]
    simp
  have fine : ∀ switch ∈ roleSwitches, SwitchFine false
      (normalizedNames roleSwitches) ∅ builders switch :=
    fun _ _ manual => by cases manual
  rcases (switchLoop_decides role false ∅ (normalizedNames roleSwitches) ∅
    before fun switch member =>
      (known switch.name).2 ⟨switch, member, rfl⟩).1 fine with
    ⟨finished, folded, after⟩
  rw [folded]
  refine ⟨_, rfl, fun name other => ?_⟩
  have linked : HasNeighbor finished name other ↔
      IsRoleSwitch roleSwitches name ∧ other ≠ "" ∧ other = owner := by
    have canonical : canonicalRemoteSystemName remote ∅ (normalizedNames roleSwitches) = owner := by
      rw [canonicalRemoteSystemName_unmanaged (by rfl), owned]
      rfl
    have reported : ∀ switch ∈ roleSwitches,
        (SwitchAdds false ∅ (normalizedNames roleSwitches) ∅ builders switch
          other ↔ owner = other) := by
      intro switch member
      unfold SwitchAdds
      simp [(plainRole switch member).2, Reported, canonical]
    rw [after.neighbor]
    constructor
    · rintro (none | ⟨switch, member, nonempty, rfl, adds⟩)
      · exact none.elim
      · exact ⟨⟨switch, member, rfl⟩, nonempty, ((reported switch member).1 adds).symm⟩
    · rintro ⟨⟨switch, member, rfl⟩, nonempty, rfl⟩
      exact .inr ⟨switch, member, nonempty, rfl, (reported switch member).2 rfl⟩
  rw [← linked]
  simp only [Discovery.sortedNamesFromMap_eq, mem_map, Std.ExtTreeMap.mem_keys]
  constructor
  · rintro ⟨_, ⟨switchName, _, rfl⟩, rfl, neighbor, member, rfl⟩
    exact (after.ok.mem_neighbors_iff.1 ((Sorter.mem_sortSlice _ _ _ _).1 member)).2
  · intro found
    refine ⟨_, ⟨name, ?_, rfl⟩, rfl, ⟨name, other⟩, ?_, rfl⟩
    · exact (after.switch name).2 ((known name).2 (linked.1 found).1)
    · exact (Sorter.mem_sortSlice _ _ _ _).2 found

end

/--
The inputs of a role do not depend on the order of the FabricNodes and
Switches, whatever they report, exactly if no two Switches of the role enter
the same normal form.
-/
theorem orderFree_iff_unambiguousNames (role : SwitchRole) (switches : List Switch) :
    OrderFree role switches ↔ UnambiguousNames (switchesOfRole role switches) := by
  constructor
  · intro free first isFirst second isSecond key firstKey secondKey
    by_contra different
    let versions := switches.map (reporting key)
    have identical : List.Forall₂ SameIdentity switches versions := by
      rw [forall₂_map_right_iff]
      exact forall₂_same.mpr fun switch _ => sameIdentity_reporting key switch
    have ending : ∀ switch ∈ switchesOfRole role switches,
        key ∈ aliasKeys switch → ∃ order, versions.Perm order ∧
          (normalizedNames (switchesOfRole role order))[
            normalizeResourceName key]? = some switch.name := by
      intro switch member enters
      rcases (mem_switchesOfRole_iff switch).mp member with ⟨listed, isRole⟩
      rcases exists_order_ending (mem_map_of_mem listed : reporting key switch ∈ versions) with
        ⟨order, permuted, last⟩
      refine ⟨order, permuted.symm, ?_⟩
      rcases getLast?_eq_some_iff.mp last with ⟨before, rfl⟩
      have kept : effectiveSwitchRole (reporting key switch) = role := isRole
      have enters' : normalizeResourceName key ∈ aliasKeys (reporting key switch) := by
        rw [normalizeResourceName_of_mem_aliasKeys enters]
        exact enters
      rw [getElem?_normalizedNames, switchesOfRole, filter_append,
        filter_cons_of_pos (by simp [kept]), lastWith,
        filter_append, filter_cons_of_pos (by simpa using enters')]
      simp [reporting]
    have plain : ∀ order : List Switch, versions.Perm order →
        ∀ version ∈ order, version.annotations = ∅ ∧ version.lldpNeighbors = [⟨none, key, 0⟩] := by
      intro order permuted version member
      rcases mem_map.mp (permuted.mem_iff.mpr member) with ⟨switch, _, rfl⟩
      exact ⟨rfl, rfl⟩
    rcases ending first isFirst firstKey with ⟨order, permuted, owned⟩
    rcases ending second isSecond secondKey with ⟨order', permuted', owned'⟩
    rcases exists_reportingInputs .canonical (plain order permuted)
      owned with ⟨inputs, built, links⟩
    rcases exists_reportingInputs .canonical (plain order' permuted')
      owned' with ⟨inputs', built', links'⟩
    have same := (free .canonical .canonical versions order []
      [] identical nodup_nil permuted (List.Perm.refl _)).symm.trans
      (free .canonical .canonical versions order' [] []
        identical nodup_nil permuted' (List.Perm.refl _))
    rw [built, built'] at same
    cases Option.some_inj.mp same
    have listed : ∀ order : List Switch, versions.Perm order →
        IsRoleSwitch (switchesOfRole role order) first.name := by
      intro order permuted
      rcases (mem_switchesOfRole_iff first).mp isFirst with ⟨member, isRole⟩
      exact ⟨reporting key first, (mem_switchesOfRole_iff _).mpr
        ⟨permuted.mem_iff.mp (mem_map_of_mem member), isRole⟩, rfl⟩
    have agree : ∀ other, other ≠ "" → (other = first.name ↔ other = second.name) := by
      intro other nonempty
      have both := (links first.name other).symm.trans (links' first.name other)
      simpa [listed order permuted, listed order' permuted', nonempty] using both
    by_cases empty : first.name = ""
    · have named : second.name ≠ "" := fun other => different (empty.trans other.symm)
      exact different ((agree second.name named).mpr rfl).symm
    · exact different ((agree first.name empty).mp rfl)
  · intro unambiguous runtime runtime' versions versions' fabricNodes
      fabricNodes' identical _ permuted nodesPermuted
    exact (unambiguous.sameIdentity identical).inputs_eq nodesPermuted permuted runtime runtime'

/--
Two Switches which report the same hostname: the node is linked to whichever
of them is listed last.
-/
theorem shared_hostname_follows_order :
    let node : FabricNode :=
      { name := "node-1", nodeRole := none
        scaleOutNics := [⟨"up", ⟨"leaf", "swp1"⟩⟩], storageNics := [] }
    let first := reportingSwitch "leaf-1" "leaf"
    let second := reportingSwitch "leaf-2" "leaf"
    ((buildTopologyInputsForRole .canonical .scaleOut [node]
        [first, second]).toOption.map (·.switches) =
      some [⟨"leaf-1", []⟩, ⟨"leaf-2", [⟨"leaf-2", "node-1"⟩]⟩]) ∧
    ((buildTopologyInputsForRole .canonical .scaleOut [node]
        [second, first]).toOption.map (·.switches) =
      some [⟨"leaf-1", [⟨"leaf-1", "node-1"⟩]⟩, ⟨"leaf-2", []⟩]) := by
  constructor
  · decide +kernel
  · decide +kernel

end Unifabric.SwitchTopology
