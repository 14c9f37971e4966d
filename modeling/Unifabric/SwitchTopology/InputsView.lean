import Unifabric.SwitchTopology.InputsSpec
import Unifabric.SwitchTopology.ResourceName

/-!
# The inputs of the discovery as sets of links

The loops of `buildTopologyInputsForRole` resolve names against a table which
grows while they run.  The table only gains names which resolve to themselves,
so the name a hostname resolves to does not depend on the moment, and what the
loops have built is a set of links: it depends neither on the order nor on the
repetition of the interfaces of a node or of the neighbours of a switch.
-/

namespace Unifabric.SwitchTopology

open Lib V1beta1 GoMap List

variable {roleSwitches : List Switch}

variable {builders left right : Builders} {switchName key name hostname : String}

/-! ## Builders -/

/-- What the operations keep of every builder. -/
structure BuildersOk (builders : Builders) : Prop where
  seen : SeenListed builders
  known : ∀ switchName, ∀ neighbor ∈ (builders.getD switchName .empty).neighbors,
      neighbor.localDeviceName = switchName ∧ (builders.getD switchName .empty).seen.getD
          neighbor.remoteSystemName false = true
  distinct : ∀ switchName, ((builders.getD switchName .empty).neighbors.map
      (·.remoteSystemName)).Nodup

lemma BuildersOk.mem_neighbors_iff (ok : BuildersOk builders) :
    neighbor ∈ (builders.getD switchName .empty).neighbors ↔ neighbor.localDeviceName = switchName ∧
        HasNeighbor builders switchName neighbor.remoteSystemName := by
  constructor
  · intro listed
    have isLocal := (ok.known switchName neighbor listed).1
    refine ⟨isLocal, ?_⟩
    rwa [← isLocal] at listed ⊢
  · rintro ⟨rfl, listed⟩
    exact listed

lemma BuildersOk.addBuilderNeighbor (ok : BuildersOk builders) (switchName remote : String) :
    BuildersOk (addBuilderNeighbor builders switchName remote) := by
  refine ⟨ok.seen.addBuilderNeighbor switchName remote, ?_, ?_⟩
  · intro other neighbor listed
    unfold SwitchTopology.addBuilderNeighbor at listed ⊢
    rw [getD_insert] at listed ⊢
    split_ifs at listed ⊢ with same
    · subst same
      rw [TopologySwitchBuilder.addNeighbor] at listed ⊢
      split_ifs at listed ⊢ with empty seen
      · exact ok.known _ neighbor listed
      · exact ok.known _ neighbor listed
      · rw [getD_insert]
        rcases mem_append.1 listed with old | new
        · refine ⟨(ok.known _ neighbor old).1, ?_⟩
          split_ifs
          · rfl
          · exact (ok.known _ neighbor old).2
        · rw [mem_singleton.1 new]
          exact ⟨rfl, if_pos rfl⟩
    · exact ok.known other neighbor listed
  · intro other
    unfold SwitchTopology.addBuilderNeighbor
    rw [getD_insert]
    split_ifs with same
    · subst same
      rw [TopologySwitchBuilder.addNeighbor]
      split_ifs with empty seen
      · exact ok.distinct _
      · exact ok.distinct _
      · rw [map_append, map_singleton]
        refine (nodup_append_comm.1 ?_)
        rw [singleton_append, nodup_cons]
        refine ⟨fun member => seen ?_, ok.distinct _⟩
        obtain ⟨neighbor, listed, same⟩ := mem_map.1 member
        rw [← show neighbor.remoteSystemName = remote from same]
        exact (ok.known _ neighbor listed).2
    · exact ok.distinct other

lemma getD_ensureSwitchBuilder (builders : Builders) (switchName other : String) :
    (ensureSwitchBuilder builders switchName).getD other .empty = builders.getD other .empty := by
  unfold ensureSwitchBuilder
  split_ifs with known
  · rfl
  · rw [GoMap.getD_insert]
    split_ifs with same
    · subst same
      rw [GoMap.getD_eq, (GoMap.getElem?_eq_none_iff _ _).2 (by simpa using known)]
      rfl
    · rfl

lemma mem_ensureSwitchBuilder {other : String} : other ∈ ensureSwitchBuilder builders switchName ↔
      other = switchName ∨ other ∈ builders := by
  unfold ensureSwitchBuilder
  split_ifs with known
  · rw [Std.ExtTreeMap.contains_iff_mem] at known
    exact ⟨.inr, fun member => member.elim (fun same => same ▸ known) id⟩
  · exact mem_insert _ _ _ _

lemma BuildersOk.ensureSwitchBuilder (ok : BuildersOk builders) (switchName : String) :
    BuildersOk (ensureSwitchBuilder builders switchName) := by
  constructor
  · intro other remote known
    unfold HasNeighbor
    rw [getD_ensureSwitchBuilder] at known ⊢
    exact ok.seen other remote known
  · intro other
    rw [getD_ensureSwitchBuilder]
    exact ok.known other
  · intro other
    rw [getD_ensureSwitchBuilder]
    exact ok.distinct other

lemma mem_addBuilderNeighbor :
    other ∈ addBuilderNeighbor builders switchName remote ↔ other = switchName ∨ other ∈ builders :=
  mem_insert _ _ _ _

/-- The neighbours after one was added, which is dropped without a name. -/
lemma hasNeighbor_addBuilderNeighbor (ok : BuildersOk builders) :
    HasNeighbor (addBuilderNeighbor builders switchName remote) other otherRemote ↔
      HasNeighbor builders other otherRemote ∨
        (remote ≠ "" ∧ other = switchName ∧ otherRemote = remote) := by
  by_cases nonempty : remote = ""
  · have same : HasNeighbor (addBuilderNeighbor builders switchName remote)
        other otherRemote ↔ HasNeighbor builders other otherRemote := by
      unfold HasNeighbor addBuilderNeighbor
      rw [getD_insert, TopologySwitchBuilder.addNeighbor, if_pos nonempty]
      split_ifs with equal
      · rw [equal]
      · rfl
    rw [same]
    simp [nonempty]
  · rw [hasNeighbor_addBuilderNeighbor_iff ok.seen nonempty]
    simp [nonempty]

/-! ## Equal sets of links -/

/-- Builders of the same switches with the same neighbours. -/
structure SameLinks (left right : Builders) : Prop where
  leftOk : BuildersOk left
  rightOk : BuildersOk right
  switch : ∀ name, name ∈ left ↔ name ∈ right
  neighbor : ∀ name remote, HasNeighbor left name remote ↔ HasNeighbor right name remote

section

variable (same : SameLinks left right)

include same

lemma SameLinks.addBuilderNeighbor (switchName remote : String) :
    SameLinks (addBuilderNeighbor left switchName remote)
      (addBuilderNeighbor right switchName remote) where
  leftOk := same.leftOk.addBuilderNeighbor switchName remote
  rightOk := same.rightOk.addBuilderNeighbor switchName remote
  switch name := by rw [mem_addBuilderNeighbor, mem_addBuilderNeighbor, same.switch]
  neighbor name other := by
    rw [hasNeighbor_addBuilderNeighbor same.leftOk,
      hasNeighbor_addBuilderNeighbor same.rightOk, same.neighbor]

lemma SameLinks.ensureSwitchBuilder (switchName : String) :
    SameLinks (ensureSwitchBuilder left switchName) (ensureSwitchBuilder right switchName) where
  leftOk := same.leftOk.ensureSwitchBuilder switchName
  rightOk := same.rightOk.ensureSwitchBuilder switchName
  switch name := by rw [mem_ensureSwitchBuilder, mem_ensureSwitchBuilder, same.switch]
  neighbor name remote := by
    unfold HasNeighbor
    rw [getD_ensureSwitchBuilder, getD_ensureSwitchBuilder]
    exact same.neighbor name remote

lemma SameLinks.contains_eq (name : String) : left.contains name = right.contains name := by
  rw [Bool.eq_iff_iff, Std.ExtTreeMap.contains_iff_mem,
    Std.ExtTreeMap.contains_iff_mem, same.switch]

lemma SameLinks.keys_eq : left.keys = right.keys := by
  refine List.Perm.eq_of_pairwise' (keys_pairwise left) (keys_pairwise right) ?_
  refine (perm_ext_iff_of_nodup (keys_nodup left) (keys_nodup right)).2 fun name => ?_
  rw [Std.ExtTreeMap.mem_keys, Std.ExtTreeMap.mem_keys, same.switch]

/-- Equal sets of links give the same neighbours in the same order. -/
lemma SameLinks.finishBuilder_eq (runtime runtime' : Runtime) (switchName : String) :
    finishBuilder runtime left switchName = finishBuilder runtime' right switchName := by
  have members : ∀ neighbor, neighbor ∈ (left.getD switchName .empty).neighbors ↔
        neighbor ∈ (right.getD switchName .empty).neighbors := by
    intro neighbor
    rw [same.leftOk.mem_neighbors_iff, same.rightOk.mem_neighbors_iff, same.neighbor]
  have permuted : ((left.getD switchName .empty).neighbors).Perm
      (right.getD switchName .empty).neighbors :=
    (perm_ext_iff_of_nodup (List.Nodup.of_map _ (same.leftOk.distinct switchName))
      (List.Nodup.of_map _ (same.rightOk.distinct switchName))).2 members
  unfold finishBuilder
  rw [sortSlice_eq_of_key runtime.toSorter runtime'.toSorter permuted
    (same.leftOk.distinct switchName)]

end

/-! ## Tables of marks -/

/-- The table maps exactly the names with a property to `true`. -/
def Marks (table : GoMap String Bool) (property : String → Prop) : Prop :=
  ∀ name, (property name → table[name]? = some true) ∧ (¬ property name → table[name]? = none)

lemma marks_empty : Marks ∅ fun _ => False := by
  intro name
  exact ⟨False.elim, fun _ => by simp⟩

section

variable {table other : GoMap String Bool} {property : String → Prop}

lemma Marks.insert (marks : Marks table property) (name : String) : Marks (table.insert name true)
      fun listed => property listed ∨ listed = name := by
  intro listed
  rw [GoMap.getElem?_insert]
  by_cases same : name = listed
  · rw [if_pos same]
    exact ⟨fun _ => rfl, fun neither => absurd (.inr same.symm) neither⟩
  · rw [if_neg same]
    constructor
    · rintro (holds | equal)
      · exact (marks listed).1 holds
      · exact absurd equal.symm same
    · exact fun neither => (marks listed).2 fun holds => neither (.inl holds)

lemma Marks.congr {property' : String → Prop} (marks : Marks table property)
    (same : ∀ name, property name ↔ property' name) : Marks table property' := by
  intro name
  rw [← same]
  exact marks name

lemma Marks.eq (marks : Marks table property) (marks' : Marks other property) : table = other := by
  refine Std.ExtTreeMap.ext_getElem? fun name => ?_
  by_cases holds : property name
  · rw [(marks name).1 holds, (marks' name).1 holds]
  · rw [(marks name).2 holds, (marks' name).2 holds]

end

/-! ## The names of switches -/

section

/-- The name of a Switch of the role. -/
def IsRoleSwitch (roleSwitches : List Switch) (name : String) : Prop :=
  ∃ switch ∈ roleSwitches, switch.name = name

/-- What one Switch adds to the table of normalized names. -/
def addNormalizedName (table : GoMap String String) (switch : Switch) : GoMap String String :=
  let named := table.insert (normalizeResourceName switch.name) switch.name
  if switch.hostname = "" then named
  else named.insert (normalizeResourceName switch.hostname) switch.name

lemma normalizedNames_eq : normalizedNames roleSwitches = roleSwitches.foldl addNormalizedName ∅ :=
  rfl

lemma addNormalizedName_lookup (found : (addNormalizedName table switch)[key]? = some name) :
    name = switch.name ∨ table[key]? = some name := by
  have named : ∀ {inner : GoMap String String} {at' : String},
      (inner.insert at' switch.name)[key]? = some name →
        name = switch.name ∨ inner[key]? = some name := by
    intro inner at' lookup
    rw [GoMap.getElem?_insert] at lookup
    split_ifs at lookup with same
    · exact .inl (Option.some_inj.1 lookup).symm
    · exact .inr lookup
  unfold addNormalizedName at found
  split_ifs at found
  · exact named found
  · exact (named found).elim .inl named

lemma mem_addNormalizedName (listed : key = normalizeResourceName switch.name ∨ key ∈ table) :
    key ∈ addNormalizedName table switch := by
  have named := (mem_insert table (normalizeResourceName switch.name) key switch.name).2 listed
  unfold addNormalizedName
  split_ifs
  · exact named
  · exact (mem_insert _ _ _ _).2 (.inr named)

/-- The table of normalized names leads to Switches of the role. -/
lemma isRoleSwitch_of_normalizedNames (found : (normalizedNames roleSwitches)[key]? = some name) :
    IsRoleSwitch roleSwitches name := by
  refine foldl_prefix_induction addNormalizedName roleSwitches ∅
    (fun done (table : GoMap String String) =>
      ∀ name, table[key]? = some name → IsRoleSwitch done name)
    ?_ ?_ name found
  · intro name lookup
    simp at lookup
  · intro done switch rest table _ reached name lookup
    rcases addNormalizedName_lookup lookup with rfl | old
    · exact ⟨switch, by simp, rfl⟩
    · obtain ⟨earlier, listed, same⟩ := reached name old
      exact ⟨earlier, mem_append_left _ listed, same⟩

lemma normalizedNames_of_isRoleSwitch (isSwitch : IsRoleSwitch roleSwitches name) :
    normalizeResourceName name ∈ normalizedNames roleSwitches := by
  refine foldl_prefix_induction addNormalizedName roleSwitches ∅
    (fun done (table : GoMap String String) =>
      IsRoleSwitch done name → normalizeResourceName name ∈ table)
    ?_ ?_ isSwitch
  · rintro ⟨switch, listed, _⟩
    simp at listed
  · rintro done switch rest table _ reached ⟨found, listed, rfl⟩
    refine mem_addNormalizedName ?_
    rcases mem_append.1 listed with earlier | new
    · exact .inr (reached ⟨found, earlier, rfl⟩)
    · rw [mem_singleton.1 new]
      exact .inl rfl

variable (roleSwitches) (synthetic : Bool)

/-- A switch which is named after a hostname no Switch answers to. -/
structure Invented (hostname name : String) : Prop where
  allowed : synthetic = true
  noSwitch : ¬ IsRoleSwitch roleSwitches hostname
  noName : (normalizedNames roleSwitches)[normalizeResourceName hostname]? = none
  named : name = normalizeResourceName hostname
  nonempty : name ≠ ""

/-- The switch which a hostname stands for. -/
def Resolves (hostname name : String) : Prop :=
  (IsRoleSwitch roleSwitches hostname ∧ name = hostname) ∨ (¬ IsRoleSwitch roleSwitches hostname ∧
      (normalizedNames roleSwitches)[normalizeResourceName hostname]? = some name) ∨
    Invented roleSwitches synthetic hostname name

variable {roleSwitches} {synthetic}

lemma Resolves.unique {name' : String} (resolves : Resolves roleSwitches synthetic hostname name)
    (resolves' : Resolves roleSwitches synthetic hostname name') : name = name' := by
  rcases resolves with ⟨isSwitch, rfl⟩ | ⟨noSwitch, found⟩ | invented
  · rcases resolves' with ⟨_, rfl⟩ | ⟨noSwitch, _⟩ | invented'
    · rfl
    · exact absurd isSwitch noSwitch
    · exact absurd isSwitch invented'.noSwitch
  · rcases resolves' with ⟨isSwitch, _⟩ | ⟨_, found'⟩ | invented'
    · exact absurd isSwitch noSwitch
    · exact Option.some_inj.1 (found.symm.trans found')
    · rw [invented'.noName] at found
      cases found
  · rcases resolves' with ⟨isSwitch, _⟩ | ⟨_, found'⟩ | invented'
    · exact absurd isSwitch invented.noSwitch
    · rw [invented.noName] at found'
      cases found'
    · rw [invented.named, invented'.named]

/-- A resolved name is a Switch of the role or an invented switch. -/
lemma Resolves.cases_name (resolves : Resolves roleSwitches synthetic hostname name) :
    IsRoleSwitch roleSwitches name ∨ Invented roleSwitches synthetic hostname name := by
  rcases resolves with ⟨isSwitch, rfl⟩ | ⟨_, found⟩ | invented
  · exact .inl isSwitch
  · exact .inl (isRoleSwitch_of_normalizedNames found)
  · exact .inr invented

lemma Invented.not_isRoleSwitch (invented : Invented roleSwitches synthetic hostname name) :
    ¬ IsRoleSwitch roleSwitches name := by
  intro isSwitch
  have listed := normalizedNames_of_isRoleSwitch isSwitch
  rw [invented.named, normalizeResourceName_idem] at listed
  exact (GoMap.getElem?_eq_none_iff _ _).1 invented.noName listed

lemma Invented.self (invented : Invented roleSwitches synthetic hostname name) :
    Invented roleSwitches synthetic name name where
  allowed := invented.allowed
  noSwitch := invented.not_isRoleSwitch
  noName := by
    rw [invented.named, normalizeResourceName_idem]
    exact invented.noName
  named := by rw [invented.named, normalizeResourceName_idem]
  nonempty := invented.nonempty

end

/-! ## The node loop -/

section

variable {synthetic : Bool}

/-- An interface which the loop looks at. -/
def NicInfo.Usable (nic : NicInfo) : Prop :=
  nic.state = "up" ∧ nic.lldpNeighbor.hostname ≠ "" ∧ nic.lldpNeighbor.port ≠ ""

/-- An interface of a list of named ones leads to a switch. -/
def Leads (roleSwitches : List Switch) (synthetic : Bool)
    (pair : String × NicInfo) (name : String) : Prop :=
  NicInfo.Usable pair.2 ∧ Resolves roleSwitches synthetic pair.2.lldpNeighbor.hostname name

/-- What the loop has built from a list of named interfaces. -/
structure LinksView (roleSwitches : List Switch) (synthetic : Bool)
    (pairs : List (String × NicInfo)) (links : HostLinks) : Prop where
  ok : BuildersOk links.builders
  switch : ∀ name, name ∈ links.builders ↔ IsRoleSwitch roleSwitches name ∨
      ∃ pair ∈ pairs, Leads roleSwitches synthetic pair name
  neighbor : ∀ name remote, HasNeighbor links.builders name remote ↔
    remote ≠ "" ∧ ∃ pair ∈ pairs, pair.1 = remote ∧ Leads roleSwitches synthetic pair name
  invented : Marks links.syntheticSwitches fun name =>
    ∃ pair ∈ pairs, NicInfo.Usable pair.2 ∧
      Invented roleSwitches synthetic pair.2.lldpNeighbor.hostname name
  host : Marks links.participatingHosts fun name =>
    ∃ pair ∈ pairs, pair.1 = name ∧ ∃ switchName, Leads roleSwitches synthetic pair switchName

lemma exists_mem_concat {α : Type} {property : α → Prop} {last : α} {values : List α} :
    (∃ value ∈ values ++ [last], property value) ↔
      (∃ value ∈ values, property value) ∨ property last := by
  simp only [mem_append, mem_singleton, or_and_right, exists_or, exists_eq_left]

variable {pairs : List (String × NicInfo)} {links : HostLinks}

section

variable (view : LinksView roleSwitches synthetic pairs links)

include view

lemma LinksView.resolve_some
    (found : resolveSwitchName hostname (normalizedNames roleSwitches) links.builders = some name) :
    Resolves roleSwitches synthetic hostname name ∧ (Invented roleSwitches synthetic hostname name →
        ∃ pair ∈ pairs, NicInfo.Usable pair.2 ∧
          Invented roleSwitches synthetic pair.2.lldpNeighbor.hostname name) := by
  unfold resolveSwitchName at found
  split_ifs at found with existing
  · cases found
    rw [Std.ExtTreeMap.contains_iff_mem, view.switch] at existing
    rcases existing with isSwitch | ⟨pair, listed, usable, resolves⟩
    · exact ⟨.inl ⟨isSwitch, rfl⟩, fun invented => absurd isSwitch invented.noSwitch⟩
    · rcases resolves.cases_name with isSwitch | invented
      · exact ⟨.inl ⟨isSwitch, rfl⟩, fun invented => absurd isSwitch invented.noSwitch⟩
      · exact ⟨.inr (.inr invented.self), fun _ => ⟨pair, listed, usable, invented⟩⟩
  · have noSwitch : ¬ IsRoleSwitch roleSwitches hostname := by
      intro isSwitch
      rw [Std.ExtTreeMap.contains_iff_mem, view.switch] at existing
      exact existing (.inl isSwitch)
    split at found
    · cases found
    · next switchName lookup =>
      split_ifs at found
      cases found
      refine ⟨.inr (.inl ⟨noSwitch, lookup⟩), fun invented => ?_⟩
      rw [invented.noName] at lookup
      cases lookup

/-- A name which is not found belongs to no Switch of the role. -/
lemma LinksView.resolve_none
    (missing : resolveSwitchName hostname (normalizedNames roleSwitches) links.builders = none) :
    ¬ IsRoleSwitch roleSwitches hostname ∧
      (normalizedNames roleSwitches)[normalizeResourceName hostname]? = none := by
  unfold resolveSwitchName at missing
  split_ifs at missing with existing
  rw [Std.ExtTreeMap.contains_iff_mem, view.switch] at existing
  refine ⟨fun isSwitch => existing (.inl isSwitch), ?_⟩
  split at missing
  · next lookup => exact lookup
  · next switchName lookup =>
    have listed : switchName ∈ links.builders :=
      (view.switch switchName).2 (.inl (isRoleSwitch_of_normalizedNames lookup))
    rw [if_pos (Std.ExtTreeMap.contains_iff_mem.2 listed)] at missing
    cases missing

lemma LinksView.idle {pair : String × NicInfo}
    (nowhere : ∀ name, ¬ Leads roleSwitches synthetic pair name) :
    LinksView roleSwitches synthetic (pairs ++ [pair]) links := by
  have drop : ∀ {property : String × NicInfo → Prop}, ¬ property pair →
      ((∃ other ∈ pairs ++ [pair], property other) ↔ ∃ other ∈ pairs, property other) := by
    intro property fails
    rw [exists_mem_concat, or_iff_left fails]
  have noInvented : ∀ name, ¬ (NicInfo.Usable pair.2 ∧ Invented roleSwitches
      synthetic pair.2.lldpNeighbor.hostname name) :=
    fun name both => nowhere name ⟨both.1, .inr (.inr both.2)⟩
  refine ⟨view.ok, ?_, ?_, ?_, ?_⟩
  · intro name
    rw [view.switch, drop (nowhere name)]
  · intro name remote
    rw [view.neighbor, drop fun both => nowhere name both.2]
  · exact view.invented.congr fun name => (drop (noInvented name)).symm
  · refine view.host.congr fun name => (drop ?_).symm
    rintro ⟨_, switchName, leads⟩
    exact nowhere switchName leads

lemma LinksView.participate {pair : String × NicInfo}
    (leads : Leads roleSwitches synthetic pair switchName) {syntheticSwitches : GoMap String Bool}
    (marks : Marks syntheticSwitches fun name => ∃ other ∈ pairs ++ [pair],
      NicInfo.Usable other.2 ∧ Invented roleSwitches synthetic
      other.2.lldpNeighbor.hostname name) :
    LinksView roleSwitches synthetic (pairs ++ [pair])
      { builders := addBuilderNeighbor links.builders switchName pair.1
        syntheticSwitches
        participatingHosts :=
          links.participatingHosts.insert pair.1 true } := by
  have only : ∀ name, Leads roleSwitches synthetic pair name ↔ name = switchName := by
    intro name
    constructor
    · exact fun other => other.2.unique leads.2
    · rintro rfl
      exact leads
  refine ⟨view.ok.addBuilderNeighbor switchName pair.1, ?_, ?_, marks, ?_⟩
  · intro name
    rw [mem_addBuilderNeighbor, view.switch, exists_mem_concat, only, or_comm, or_assoc]
  · intro name remote
    rw [hasNeighbor_addBuilderNeighbor view.ok, view.neighbor, exists_mem_concat, only]
    constructor
    · rintro (⟨nonempty, old⟩ | ⟨nonempty, rfl, rfl⟩)
      · exact ⟨nonempty, .inl old⟩
      · exact ⟨nonempty, .inr ⟨rfl, rfl⟩⟩
    · rintro ⟨nonempty, old | ⟨rfl, rfl⟩⟩
      · exact .inl ⟨nonempty, old⟩
      · exact .inr ⟨nonempty, rfl, rfl⟩
  · refine (view.host.insert pair.1).congr fun name => ?_
    rw [exists_mem_concat]
    exact or_congr_right ⟨fun same => ⟨same.symm, switchName, leads⟩, fun both => both.1.symm⟩

lemma LinksView.addNic (nodeName : String) (nic : NicInfo) :
    LinksView roleSwitches synthetic (pairs ++ [(nodeName, nic)])
      (addNic (normalizedNames roleSwitches) synthetic nodeName links nic) := by
  unfold SwitchTopology.addNic
  by_cases skipped : nic.state ≠ "up" ∨ nic.lldpNeighbor.hostname = "" ∨ nic.lldpNeighbor.port = ""
  · rw [if_pos skipped]
    refine view.idle fun name leads => ?_
    rcases skipped with state | hostname | port
    · exact state leads.1.1
    · exact leads.1.2.1 hostname
    · exact leads.1.2.2 port
  · rw [if_neg skipped]
    have usable : NicInfo.Usable nic := by simpa [NicInfo.Usable, not_or] using skipped
    split
    · next switchName found =>
      obtain ⟨resolves, already⟩ := view.resolve_some found
      have leads : Leads roleSwitches synthetic (nodeName, nic)
        switchName := ⟨usable, resolves⟩
      refine view.participate leads (view.invented.congr fun name => ?_)
      rw [exists_mem_concat, iff_self_or]
      rintro ⟨_, invented⟩
      have same := resolves.unique (.inr (.inr invented))
      subst same
      exact already invented
    · next missing =>
      obtain ⟨noSwitch, noName⟩ := view.resolve_none missing
      have onlyInvented : ∀ name, Leads roleSwitches synthetic (nodeName, nic) name →
            Invented roleSwitches synthetic nic.lldpNeighbor.hostname
              name := by
        rintro name ⟨_, ⟨isSwitch, _⟩ | ⟨_, found⟩ | invented⟩
        · exact absurd isSwitch noSwitch
        · rw [noName] at found
          cases found
        · exact invented
      split_ifs with allowed
      · dsimp only
        split_ifs with empty
        · refine view.idle fun name leads => ?_
          have invented := onlyInvented name leads
          exact invented.nonempty (invented.named.trans empty)
        · have invented : Invented roleSwitches synthetic nic.lldpNeighbor.hostname
              (normalizeResourceName nic.lldpNeighbor.hostname) :=
            ⟨allowed, noSwitch, noName, rfl, empty⟩
          have leads : Leads roleSwitches synthetic (nodeName, nic)
              (normalizeResourceName nic.lldpNeighbor.hostname) :=
            ⟨usable, .inr (.inr invented)⟩
          refine view.participate leads ((view.invented.insert _).congr fun name => ?_)
          rw [exists_mem_concat]
          refine or_congr_right ⟨?_, fun both => both.2.named⟩
          rintro rfl
          exact ⟨usable, invented⟩
      · refine view.idle fun name leads => ?_
        exact allowed (onlyInvented name leads).allowed

end

/-- The interfaces of the role with the names of their nodes. -/
def namedNics (role : SwitchRole) (fabricNodes : List FabricNode) : List (String × NicInfo) :=
  fabricNodes.flatMap fun node => (nodeNicsForRole node role).map fun nic => (node.name, nic)

/-- The node loop builds the view of all interfaces of the role. -/
lemma linksView_nodeLoop (role : SwitchRole) (fabricNodes : List FabricNode)
    (view : LinksView roleSwitches synthetic [] start) :
    LinksView roleSwitches synthetic (namedNics role fabricNodes) (fabricNodes.foldl
        (addFabricNode role (normalizedNames roleSwitches) synthetic) start) := by
  have flat : fabricNodes.foldl
      (addFabricNode role (normalizedNames roleSwitches) synthetic) start =
        (namedNics role fabricNodes).foldl
          (fun links pair => addNic (normalizedNames roleSwitches) synthetic
            pair.1 links pair.2) start := by
    rw [namedNics, foldl_flatMap]
    simp only [foldl_map]
    rfl
  rw [flat]
  exact foldl_prefix_induction _ (namedNics role fabricNodes) start
    (fun done links => LinksView roleSwitches synthetic done links) view
    fun done pair rest links _ reached => reached.addNic pair.1 pair.2

lemma mem_ensured : name ∈ roleSwitches.foldl
        (fun builders switch => ensureSwitchBuilder builders switch.name)
        (∅ : Builders) ↔ IsRoleSwitch roleSwitches name := by
  refine foldl_prefix_induction _ roleSwitches (∅ : Builders) (fun done (builders : Builders) =>
      name ∈ builders ↔ IsRoleSwitch done name) ?_ ?_
  · simp [IsRoleSwitch]
  · intro done switch rest builders _ reached
    rw [mem_ensureSwitchBuilder, reached, IsRoleSwitch, IsRoleSwitch,
      exists_mem_concat, or_comm, eq_comm]

/-- The builders of the Switches of the role are the view of nothing. -/
lemma linksView_start : LinksView roleSwitches synthetic []
      { builders := roleSwitches.foldl
          (fun builders switch => ensureSwitchBuilder builders switch.name)
          (∅ : Builders)
        syntheticSwitches := ∅
        participatingHosts := ∅ } := by
  have bare := getD_ensured roleSwitches
  refine ⟨⟨?_, ?_, ?_⟩, ?_, ?_, ?_, ?_⟩
  · exact (hostsLinked_start bare).seen
  · intro switchName neighbor listed
    rw [bare] at listed
    cases listed
  · intro switchName
    rw [bare]
    exact nodup_nil
  · intro name
    rw [mem_ensured]
    simp
  · intro name remote
    unfold HasNeighbor
    rw [bare]
    simp [TopologySwitchBuilder.empty]
  · exact marks_empty.congr fun name => by simp
  · exact marks_empty.congr fun name => by simp

lemma LinksView.same {pairs' : List (String × NicInfo)} {links' : HostLinks}
    (view : LinksView roleSwitches synthetic pairs links)
    (view' : LinksView roleSwitches synthetic pairs' links')
    (members : ∀ pair, pair ∈ pairs ↔ pair ∈ pairs') :
    SameLinks links.builders links'.builders ∧ links.syntheticSwitches = links'.syntheticSwitches ∧
      links.participatingHosts = links'.participatingHosts := by
  refine ⟨⟨view.ok, view'.ok, ?_, ?_⟩, ?_, ?_⟩
  · intro name
    simp only [view.switch, view'.switch, members]
  · intro name remote
    simp only [view.neighbor, view'.neighbor, members]
  · refine view.invented.eq (view'.invented.congr fun name => ?_)
    simp only [members]
  · refine view.host.eq (view'.host.congr fun name => ?_)
    simp only [members]

end

end Unifabric.SwitchTopology
