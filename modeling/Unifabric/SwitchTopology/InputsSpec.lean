import Unifabric.Discovery.GraphSpec
import Unifabric.SwitchTopology.Inputs

/-!
# What the inputs of the discovery contain

Every host of the inputs is a neighbour of one of their switches, and without
Switches of the role the neighbours of all switches are hosts.
-/

namespace Unifabric.SwitchTopology

open Lib V1beta1 GoMap
open Unifabric.Discovery (hostNames switchNames Reports)

/-! ## Builders -/

/-- A neighbour of a switch under construction. -/
def HasNeighbor (builders : Builders) (switchName remote : String) : Prop :=
  { localDeviceName := switchName, remoteSystemName := remote } ∈
    (builders.getD switchName .empty).neighbors

/-- Every neighbour a builder has seen is one of its neighbours. -/
def SeenListed (builders : Builders) : Prop :=
  ∀ switchName remote, (builders.getD switchName .empty).seen.getD remote false = true →
      HasNeighbor builders switchName remote

/-- Switches and neighbours which are kept. -/
structure Extends (before after : Builders) : Prop where
  switch : ∀ switchName ∈ before, switchName ∈ after
  neighbor : ∀ switchName remote, HasNeighbor before switchName remote →
      HasNeighbor after switchName remote

lemma Extends.refl (builders : Builders) : Extends builders builders :=
  ⟨fun _ listed => listed, fun _ _ found => found⟩

lemma Extends.trans (left : Extends first second) (right : Extends second third) :
    Extends first third :=
  ⟨fun name listed => right.switch name (left.switch name listed), fun name remote found =>
      right.neighbor name remote (left.neighbor name remote found)⟩

section

variable {builders : Builders} {switchName remote : String}

/-- The neighbours of a switch after one was added to some switch. -/
lemma hasNeighbor_addBuilderNeighbor_iff (seen : SeenListed builders)
    (nonempty : remote ≠ "") (other otherRemote : String) :
    HasNeighbor (addBuilderNeighbor builders switchName remote) other otherRemote ↔
      HasNeighbor builders other otherRemote ∨ (other = switchName ∧ otherRemote = remote) := by
  unfold HasNeighbor addBuilderNeighbor
  rw [getD_insert]
  by_cases same : switchName = other
  · subst same
    rw [if_pos rfl, TopologySwitchBuilder.addNeighbor, if_neg nonempty]
    split_ifs with known
    · have listed := seen switchName remote known
      constructor
      · exact .inl
      · rintro (old | ⟨_, rfl⟩)
        · exact old
        · exact listed
    · rw [List.mem_append, List.mem_singleton]
      simp
  · rw [if_neg same]
    simp [Ne.symm same]

lemma SeenListed.addBuilderNeighbor (seen : SeenListed builders) (switchName remote : String) :
    SeenListed (addBuilderNeighbor builders switchName remote) := by
  intro other otherRemote known
  unfold HasNeighbor
  unfold SwitchTopology.addBuilderNeighbor at known ⊢
  rw [getD_insert] at known ⊢
  split_ifs at known ⊢ with same
  · subst same
    rw [TopologySwitchBuilder.addNeighbor] at known ⊢
    split_ifs at known ⊢ with empty isKnown
    · exact seen switchName otherRemote known
    · exact seen switchName otherRemote known
    · rw [getD_insert] at known
      rw [List.mem_append]
      split_ifs at known with sameRemote
      · right
        rw [← sameRemote]
        exact List.mem_singleton_self _
      · exact .inl (seen switchName otherRemote known)
  · exact seen other otherRemote known

lemma extends_addBuilderNeighbor (builders : Builders) (switchName remote : String) :
    Extends builders (addBuilderNeighbor builders switchName remote) := by
  constructor
  · intro other listed
    exact (mem_insert _ _ _ _).2 (.inr listed)
  · intro other otherRemote found
    unfold HasNeighbor addBuilderNeighbor
    rw [getD_insert]
    split_ifs with same
    · subst same
      rw [TopologySwitchBuilder.addNeighbor]
      split_ifs
      · exact found
      · exact found
      · exact List.mem_append_left _ found
    · exact found

lemma extends_ensureSwitchBuilder (builders : Builders) (switchName : String) :
    Extends builders (ensureSwitchBuilder builders switchName) := by
  unfold ensureSwitchBuilder
  split_ifs with known
  · exact Extends.refl _
  · constructor
    · intro other listed
      exact (GoMap.mem_insert _ _ _ _).2 (.inr listed)
    · intro other remote found
      unfold HasNeighbor at found ⊢
      rw [GoMap.getD_insert]
      split_ifs with same
      · subst same
        rw [GoMap.getD_eq, (GoMap.getElem?_eq_none_iff _ _).2 (by simpa using known)] at found
        exact found
      · exact found

end

/-! ## Host links -/

/-- What the node loop knows of the participating hosts. -/
structure HostsLinked (links : HostLinks) : Prop where
  seen : SeenListed links.builders
  host : ∀ name ∈ links.participatingHosts, name ≠ "" →
    ∃ switchName ∈ links.builders, HasNeighbor links.builders switchName name
  neighbor : ∀ switchName, ∀ neighbor ∈ (links.builders.getD switchName .empty).neighbors,
      neighbor.remoteSystemName ∈ links.participatingHosts

lemma HostsLinked.participate (linked : HostsLinked links) (switchName nodeName : String)
    (syntheticSwitches : GoMap String Bool) :
    HostsLinked
      { builders := addBuilderNeighbor links.builders switchName nodeName
        syntheticSwitches
        participatingHosts :=
          links.participatingHosts.insert nodeName true } := by
  have grown := extends_addBuilderNeighbor links.builders switchName nodeName
  constructor
  case seen => exact linked.seen.addBuilderNeighbor switchName nodeName
  case host =>
    intro name listed nonempty
    rcases (mem_insert _ _ _ _).1 listed with rfl | old
    · refine ⟨switchName, (mem_insert _ _ _ _).2 (.inl rfl), ?_⟩
      exact (hasNeighbor_addBuilderNeighbor_iff linked.seen nonempty _ _).2 (.inr ⟨rfl, rfl⟩)
    · obtain ⟨other, isSwitch, found⟩ := linked.host name old nonempty
      exact ⟨other, grown.switch other isSwitch, grown.neighbor other name found⟩
  case neighbor =>
    intro other neighbor listed
    refine (mem_insert _ _ _ _).2 ?_
    have fromOld : neighbor ∈ (links.builders.getD other .empty).neighbors ∨
        neighbor.remoteSystemName = nodeName := by
      unfold addBuilderNeighbor at listed
      rw [getD_insert] at listed
      split_ifs at listed with same
      · subst same
        rw [TopologySwitchBuilder.addNeighbor] at listed
        split_ifs at listed
        · exact .inl listed
        · exact .inl listed
        · rcases List.mem_append.1 listed with old | new
          · exact .inl old
          · exact .inr (by rw [List.mem_singleton.1 new])
      · exact .inl listed
    rcases fromOld with old | same
    · exact .inr (linked.neighbor other neighbor old)
    · exact .inl same

lemma HostsLinked.addNic (linked : HostsLinked links)
    (normalizedSwitchNames : GoMap String String) (synthetic : Bool) (nodeName : String)
    (nic : NicInfo) : HostsLinked (addNic normalizedSwitchNames synthetic nodeName links nic) := by
  unfold SwitchTopology.addNic
  split_ifs with unusable isSynthetic
  · exact linked
  · split
    · exact linked.participate _ _ _
    · dsimp only
      split_ifs
      · exact linked
      · exact linked.participate _ _ _
  · split
    · exact linked.participate _ _ _
    · exact linked

lemma HostsLinked.addFabricNodes (linked : HostsLinked links) (role : SwitchRole)
    (normalizedSwitchNames : GoMap String String) (synthetic : Bool) (nodes : List FabricNode) :
    HostsLinked (nodes.foldl (addFabricNode role normalizedSwitchNames synthetic) links) := by
  refine foldl_prefix_induction _ nodes links (fun _ => HostsLinked) linked
    fun _ node _ state _ reached => ?_
  exact foldl_prefix_induction _ (nodeNicsForRole node role) state (fun _ => HostsLinked) reached
    fun _ nic _ state _ reached => reached.addNic _ _ _ nic

/-- The builders of the Switches of the role start without neighbours. -/
lemma getD_ensured (switches : List Switch) (name : String) : (switches.foldl
        (fun builders switch => ensureSwitchBuilder builders switch.name)
        (∅ : Builders)).getD name .empty = .empty := by
  refine foldl_prefix_induction _ switches ∅ (fun _ (builders : Builders) =>
      builders.getD name .empty = TopologySwitchBuilder.empty) ?_ ?_
  · simp [getD_eq]
  · intro _ switch _ builders _ bare
    unfold ensureSwitchBuilder
    split_ifs
    · exact bare
    · rw [getD_insert]
      split_ifs
      · rfl
      · exact bare

lemma hostsLinked_start (bare : ∀ name, builders.getD name .empty = .empty) :
    HostsLinked { builders, syntheticSwitches := ∅, participatingHosts := ∅ } := by
  constructor
  case seen =>
    intro switchName remote known
    rw [bare] at known
    simp [TopologySwitchBuilder.empty, getD_eq] at known
  case host =>
    intro name listed
    simp at listed
  case neighbor =>
    intro switchName neighbor listed
    rw [bare] at listed
    cases listed

/-! ## Switch links -/

lemma extends_addSwitchLinks (added : addSwitchLinks role semiAutomatic managedHosts
      normalizedSwitchNames syntheticSwitches builders switch = .ok after) :
    Extends builders after := by
  have ensured := extends_ensureSwitchBuilder builders switch.name
  simp only [addSwitchLinks] at added
  split_ifs at added with isManual
  · split at added
    · cases added
    · next neighbors parsed =>
      refine ensured.trans (foldlM_prefix_induction added
        (fun _ state => Extends _ state) (Extends.refl _) ?_)
      intro _ neighbor _ state next _ reached stepped
      unfold addManualNeighbor at stepped
      dsimp only at stepped
      split at stepped
      · cases stepped
      · split_ifs at stepped
        cases stepped
        exact reached.trans (extends_addBuilderNeighbor _ _ _)
  · cases added
    refine ensured.trans (foldl_prefix_induction _ _ _
      (fun _ state => Extends _ state) (Extends.refl _) ?_)
    intro _ neighbor _ state _ reached
    unfold addReportedNeighbor
    dsimp only
    split_ifs
    · exact reached
    · exact reached.trans (extends_addBuilderNeighbor _ _ _)

/-! ## The inputs -/

section

variable {runtime : Runtime} {role : SwitchRole}
  {fabricNodes : List FabricNode} {switches : List Switch}
  {inputs : TopologyInputs}

variable (built : buildTopologyInputsForRole runtime role fabricNodes switches = .ok inputs)

include built

lemma exists_builders : ∃ (links : HostLinks) (finished : Builders),
      HostsLinked links ∧ Extends links.builders finished ∧
      (switchesOfRole role switches = [] → finished = links.builders) ∧
      (∀ name, name ∈ hostNames inputs.hosts ↔ name ∈ links.participatingHosts) ∧
      inputs.nodeOnly = (switchesOfRole role switches).isEmpty ∧
      inputs.switches = (Discovery.sortedNamesFromMap runtime
          ["sortedMapKeys", "switches"] finished).map (finishBuilder runtime finished) := by
  unfold buildTopologyInputsForRole at built
  dsimp only at built
  generalize walked : fabricNodes.foldl (addFabricNode role _ _) _ = links at built
  have hostsLinked : HostsLinked links := by
    rw [← walked]
    exact (hostsLinked_start (getD_ensured _)).addFabricNodes _ _ _ _
  split at built
  · cases built
  · next finished linked =>
    cases built
    refine ⟨links, finished, hostsLinked, ?_, ?_, ?_, rfl, rfl⟩
    · exact foldlM_prefix_induction linked (fun _ state => Extends _ state) (Extends.refl _)
        fun _ _ _ _ _ _ reached stepped => reached.trans (extends_addSwitchLinks stepped)
    · intro none
      rw [none] at linked
      exact (Except.ok.inj linked).symm
    · intro name
      rw [hostNames, List.map_map, Discovery.sortedNamesFromMap_eq, ← Std.ExtTreeMap.mem_keys]
      simp

/-- Every named host of the inputs is reported by one of their switches. -/
lemma exists_reports (isHost : name ∈ hostNames inputs.hosts) (nonempty : name ≠ "") :
    ∃ switchName, Reports inputs.hosts inputs.switches switchName name := by
  obtain ⟨links, finished, linked, grown, _, hosts, _, isInput⟩ := exists_builders built
  obtain ⟨switchName, isSwitch, found⟩ := linked.host name ((hosts name).1 isHost) nonempty
  refine ⟨switchName, finishBuilder runtime finished switchName, ?_,
    { localDeviceName := switchName, remoteSystemName := name }, ?_, rfl,
    rfl, .inr rfl, nonempty, .inl isHost⟩
  · rw [isInput, Discovery.sortedNamesFromMap_eq]
    exact List.mem_map_of_mem (Std.ExtTreeMap.mem_keys.2 (grown.switch switchName isSwitch))
  · exact (Sorter.mem_sortSlice _ _ _ _).2 (grown.neighbor switchName name found)

/-- Without Switches of the role all reported neighbours are hosts. -/
lemma isHost_of_reports (nodeOnly : inputs.nodeOnly = true)
    (reports : Reports inputs.hosts inputs.switches switchName name) :
    name ∈ hostNames inputs.hosts := by
  obtain ⟨links, finished, linked, _, same, hosts, isNodeOnly, isInput⟩ := exists_builders built
  have none : switchesOfRole role switches = [] := by
    rw [nodeOnly] at isNodeOnly
    exact List.isEmpty_iff.1 isNodeOnly.symm
  obtain ⟨switch, listed, neighbor, reported, rfl, rfl, _, _⟩ := reports
  rw [isInput] at listed
  obtain ⟨builderName, _, rfl⟩ := List.mem_map.1 listed
  rw [same none] at reported
  rw [hosts]
  exact linked.neighbor builderName neighbor ((Sorter.mem_sortSlice _ _ _ _).1 reported)

end

end Unifabric.SwitchTopology
