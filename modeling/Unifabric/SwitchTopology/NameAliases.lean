import Unifabric.Lib.LastWriter
import Unifabric.SwitchTopology.InputsView

/-!
# Names which Switches answer to

Every Switch of the role enters its normalized name, and its normalized
hostname if it reports one, into one table.  The last Switch which enters a
normal form owns it, also if the form is the name of another Switch: the two
resolvers differ on exactly these names, since only one of them tries the exact
name first.
-/

namespace Unifabric.SwitchTopology

open Lib V1beta1 List Option GoMap

/-! ## The owner of a normal form -/

/-- The normal forms which a Switch enters into the table. -/
def aliasKeys (switch : Switch) : List String :=
  normalizeResourceName switch.name ::
    if switch.hostname = "" then []
    else [normalizeResourceName switch.hostname]

lemma normalizeResourceName_mem_aliasKeys (switch : Switch) :
    normalizeResourceName switch.name ∈ aliasKeys switch :=
  mem_cons_self

lemma addNormalizedName_eq (table : GoMap String String) (switch : Switch) :
    addNormalizedName table switch = (aliasKeys switch).foldl
        (fun table key => table.insert key switch.name) table := by
  unfold addNormalizedName aliasKeys
  split_ifs with silent
  · rfl
  · rfl

/-- The table holds the name of the last Switch which enters a form. -/
lemma getElem?_normalizedNames (roleSwitches : List Switch) (key : String) :
    (normalizedNames roleSwitches)[key]? =
      (lastWith aliasKeys key roleSwitches).map Switch.name := by
  have table : normalizedNames roleSwitches = lastWriter aliasKeys Switch.name roleSwitches := by
    rw [normalizedNames_eq]
    congr 1
    funext table switch
    exact addNormalizedName_eq table switch
  rw [table, getElem?_lastWriter]

/-! ## The resolvers -/

section

variable {roleSwitches : List Switch} {raw : String}

/-- The builders before the node loop: one for every Switch of the role. -/
def switchBuilders (roleSwitches : List Switch) : Builders :=
  roleSwitches.foldl (fun builders switch => ensureSwitchBuilder builders switch.name)
    (∅ : Builders)

/-- The set of the names of the FabricNodes. -/
def managedHostSet (fabricNodes : List FabricNode) : GoMap String Bool :=
  fabricNodes.foldl (fun table node => table.insert node.name true) ∅

lemma getD_managedHostSet (unmanaged : ∀ node ∈ fabricNodes, node.name ≠ raw) :
    (managedHostSet fabricNodes).getD raw false = false := by
  have missing : (managedHostSet fabricNodes)[raw]? = none := by
    refine foldl_prefix_induction _ fabricNodes ∅
      (fun _ (table : GoMap String Bool) => table[raw]? = none) (by simp) ?_
    intro done node rest table split reached
    have other : node.name ≠ raw := unmanaged node (by simp [split])
    rw [GoMap.getElem?_insert, if_neg other, reached]
  rw [GoMap.getD_eq, missing]
  rfl

/--
A Switch of the name comes after every other one which enters the normal form
of the name.
-/
def OwnsNormalForm (roleSwitches : List Switch) (name : String) : Prop :=
  ∃ before switch after, roleSwitches = before ++ switch :: after ∧ switch.name = name ∧
    ∀ later ∈ after, normalizeResourceName name ∉ aliasKeys later

lemma ownsNormalForm_iff : OwnsNormalForm roleSwitches raw ↔
      (normalizedNames roleSwitches)[normalizeResourceName raw]? =
          some raw ∧ IsRoleSwitch roleSwitches raw := by
  rw [getElem?_normalizedNames]
  constructor
  · rintro ⟨before, switch, after, rfl, rfl, silent⟩
    have none : after.filter (fun later =>
        normalizeResourceName switch.name ∈ aliasKeys later) = [] := by
      rw [filter_eq_nil_iff]
      intro later listed
      simpa using silent later listed
    refine ⟨?_, switch, by simp, rfl⟩
    rw [lastWith, filter_append, filter_cons_of_pos
      (by simpa using normalizeResourceName_mem_aliasKeys switch), none]
    simp
  · rintro ⟨last, _⟩
    obtain ⟨switch, found, rfl⟩ := map_eq_some_iff.1 last
    obtain ⟨earlier, filtered⟩ := getLast?_eq_some_iff.1 found
    obtain ⟨before, ending, rfl, _, tail⟩ := filter_eq_append_iff.1 filtered
    obtain ⟨skipped, after, rfl, _, _, silent⟩ := filter_eq_cons_iff.1 tail
    refine ⟨before ++ skipped, switch, after, by simp, rfl, ?_⟩
    intro later listed
    simpa using filter_eq_nil_iff.1 silent later listed

lemma contains_switchBuilders : (switchBuilders roleSwitches).contains raw = true ↔
      IsRoleSwitch roleSwitches raw :=
  Std.ExtTreeMap.contains_iff_mem.trans mem_ensured

lemma resolveSwitchName_exact (isSwitch : IsRoleSwitch roleSwitches raw) :
    resolveSwitchName raw (normalizedNames roleSwitches)
      (switchBuilders roleSwitches) = some raw := by
  unfold resolveSwitchName
  rw [if_pos (contains_switchBuilders.2 isSwitch)]

lemma resolveSwitchName_alias (other : ¬ IsRoleSwitch roleSwitches raw) :
    resolveSwitchName raw (normalizedNames roleSwitches) (switchBuilders roleSwitches) =
      (normalizedNames roleSwitches)[normalizeResourceName raw]? := by
  unfold resolveSwitchName
  rw [if_neg (mt contains_switchBuilders.1 other)]
  cases found : (normalizedNames roleSwitches)[normalizeResourceName raw]? with
  | none => rfl
  | some name => exact if_pos (contains_switchBuilders.2 (isRoleSwitch_of_normalizedNames found))

lemma canonicalRemoteSystemName_unmanaged (unmanaged : hosts.getD raw false = false)
    (table : GoMap String String) :
    canonicalRemoteSystemName raw hosts table = (table[normalizeResourceName raw]?).getD raw := by
  unfold canonicalRemoteSystemName
  rw [unmanaged, if_neg (by decide)]
  cases table[normalizeResourceName raw]? with
  | none => rfl
  | some name => rfl

end

/--
For a raw name which is not a managed host, whatever `resolveSwitchName`
resolves it to is also what `canonicalRemoteSystemName` gives, exactly if the
name is not the name of a Switch of the role or that Switch owns its own normal
form.
-/
theorem resolvers_agree_iff (role : SwitchRole)
    (fabricNodes : List FabricNode) (switches : List Switch) (raw : String)
    (unmanaged : ∀ node ∈ fabricNodes, node.name ≠ raw) :
    (∀ name, resolveSwitchName raw (normalizedNames (switchesOfRole role switches))
            (switchBuilders (switchesOfRole role switches)) = some name →
          canonicalRemoteSystemName raw (managedHostSet fabricNodes)
            (normalizedNames (switchesOfRole role switches)) = name) ↔
      (IsRoleSwitch (switchesOfRole role switches) raw →
        OwnsNormalForm (switchesOfRole role switches) raw) := by
  generalize switchesOfRole role switches = roleSwitches
  rw [canonicalRemoteSystemName_unmanaged (getD_managedHostSet unmanaged)]
  by_cases isSwitch : IsRoleSwitch roleSwitches raw
  · rw [resolveSwitchName_exact isSwitch, ownsNormalForm_iff]
    simp only [some_inj, forall_eq', isSwitch, forall_const, and_true]
    rcases (mem_iff _ _).mp (normalizedNames_of_isRoleSwitch isSwitch) with ⟨owner, found⟩
    rw [found, getD_some, some_inj]
  · rw [resolveSwitchName_alias isSwitch]
    refine ⟨fun _ listed => absurd listed isSwitch, fun _ name found => ?_⟩
    rw [found, getD_some]

/-- A Switch of a name, with the hostname it reports. -/
def reportingSwitch (name hostname : String) : Switch :=
  { name := name, role := some .scaleOut, hostname := hostname
    lldpNeighbors := [], labels := ∅, annotations := ∅ }

theorem resolvers_agree_two_leaves :
    let leaves := [reportingSwitch "leaf-1" "", reportingSwitch "leaf-2" ""]
    let known := switchesOfRole .scaleOut leaves
    resolveSwitchName "Leaf_2" (normalizedNames known) (switchBuilders known) = some "leaf-2" ∧
      canonicalRemoteSystemName "Leaf_2" (managedHostSet [⟨"node-1", none, [], []⟩])
        (normalizedNames known) = "leaf-2" := by
  intro leaves known
  have resolved : resolveSwitchName "Leaf_2" (normalizedNames known) (switchBuilders known) =
      some "leaf-2" := by decide +kernel
  refine ⟨resolved, (resolvers_agree_iff .scaleOut [⟨"node-1", none, [], []⟩] leaves "Leaf_2"
    (by simp)).mpr ?_ "leaf-2" resolved⟩
  rintro ⟨switch, listed, named⟩
  rcases mem_pair.mp listed with rfl | rfl
  · exact absurd named (by decide)
  · exact absurd named (by decide)

/--
A Switch which reports the name of another one as its hostname takes the name
away from Switch LLDP, while Node LLDP still resolves it to the other one.
-/
theorem resolvers_differ_on_reported_name :
    let known := switchesOfRole .scaleOut
      [reportingSwitch "leaf-1" "", reportingSwitch "leaf-2" "leaf-1"]
    resolveSwitchName "leaf-1" (normalizedNames known) (switchBuilders known) = some "leaf-1" ∧
      canonicalRemoteSystemName "leaf-1" (managedHostSet []) (normalizedNames known) =
        "leaf-2" := by
  constructor
  · decide +kernel
  · decide +kernel

end Unifabric.SwitchTopology
