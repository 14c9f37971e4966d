import Unifabric.Lib.Compact
import Unifabric.SwitchTopology.InputsAlike

/-!
# Which updates reach the discovery

The controller ignores the update of a FabricNode or Switch whose fingerprint
stays the same.  A fingerprint lists what the inputs of the discovery read of
the object, sorted and without repetitions, so an ignored update leaves the
inputs of every role as they are.
-/

namespace Unifabric.SwitchTopology

open Lib V1beta1 List Std.ExtTreeMap

/-! ## Fingerprints -/

structure NicInputFingerprint where
  state : String
  hostname : String
  port : String
  deriving DecidableEq, Repr

structure FabricNodeInputFingerprint where
  role : Option NodeRole
  scaleOut : List NicInputFingerprint
  storage : List NicInputFingerprint
  deriving DecidableEq, Repr

structure SwitchNeighborFingerprint where
  remoteSystemType : Option RemoteSystemType
  name : String
  deriving DecidableEq, Repr

structure SwitchInputFingerprint where
  role : Option SwitchRole
  hostname : String
  hasManualNeighbors : Bool
  manualNeighbors : String
  neighbors : List SwitchNeighborFingerprint
  deriving DecidableEq, Repr

/-- The fingerprint of one NIC. -/
def nicFingerprint (nic : NicInfo) : NicInputFingerprint :=
  { state := nic.state, hostname := nic.lldpNeighbor.hostname, port := nic.lldpNeighbor.port }

/-- The order of the fingerprints of NICs. -/
def nicFingerprintLess (left right : NicInputFingerprint) : Bool :=
  if left.hostname ≠ right.hostname then
    decide (left.hostname < right.hostname)
  else if left.port ≠ right.port then decide (left.port < right.port)
  else decide (left.state < right.state)

/-- The text of an optional remote system type. -/
def remoteSystemTypeText (kind : Option RemoteSystemType) : String :=
  (kind.map RemoteSystemType.text).getD ""

/-- The order of the fingerprints of neighbours. -/
def neighborFingerprintLess (left right : SwitchNeighborFingerprint) : Bool :=
  if left.name ≠ right.name then decide (left.name < right.name)
  else
    decide (remoteSystemTypeText left.remoteSystemType <
      remoteSystemTypeText right.remoteSystemType)

section

variable (runtime : Runtime)

def nicFingerprints (nics : List NicInfo) : List NicInputFingerprint :=
  compactSorted (runtime.sortSlice nicFingerprintLess (nics.map nicFingerprint))

def fabricNodeFingerprint (node : FabricNode) :
    FabricNodeInputFingerprint :=
  { role := node.nodeRole
    scaleOut := nicFingerprints runtime node.scaleOutNics
    storage := nicFingerprints runtime node.storageNics }

def switchFingerprint (switch : Switch) : SwitchInputFingerprint :=
  { role := switch.role
    hostname := switch.hostname
    hasManualNeighbors := switch.annotations.contains switchNeighborsAnnotation
    manualNeighbors := switch.annotations.getD switchNeighborsAnnotation ""
    neighbors :=
      compactSorted (runtime.sortSlice neighborFingerprintLess
          (switch.lldpNeighbors.map fun neighbor =>
            { remoteSystemType := neighbor.remoteSystemType
              name := neighbor.remoteSystemName })) }

end

/-! ## Predicates -/

/-- An event about an object; `none` is an object of another type. -/
inductive ObjectEvent (α : Type) where
  | create
  | delete
  | generic
  | update (objectOld objectNew : Option α)

/-- Updates count when the fingerprint changes, other events always. -/
def fingerprintPredicate {α φ : Type} [DecidableEq φ] (fingerprint : α → φ) : ObjectEvent α → Bool
  | .create => true
  | .delete => true
  | .generic => true
  | .update (some old) (some new) => decide (fingerprint old ≠ fingerprint new)
  | .update _ _ => true

def fabricNodeTopologyInputPredicate (runtime : Runtime) : ObjectEvent FabricNode → Bool :=
  fingerprintPredicate (fabricNodeFingerprint runtime)

def switchTopologyInputPredicate (runtime : Runtime) : ObjectEvent Switch → Bool :=
  fingerprintPredicate (switchFingerprint runtime)

lemma fingerprint_eq_of_rejected {α φ : Type} [DecidableEq φ] {fingerprint : α → φ} {old new : α}
    (rejected : fingerprintPredicate fingerprint (.update (some old) (some new)) = false) :
    fingerprint old = fingerprint new := by
  simpa [fingerprintPredicate] using rejected

/-! ## Equal fingerprints -/

section

variable {runtime : Runtime}

lemma mem_nics_of_fingerprints
    (same : nicFingerprints runtime nics = nicFingerprints runtime nics') (nic : NicInfo) :
    nic ∈ nics ↔ nic ∈ nics' := by
  have listed : ∀ list : List NicInfo,
      nicFingerprint nic ∈ nicFingerprints runtime list ↔ nic ∈ list := by
    intro list
    have injective : Function.Injective nicFingerprint := by
      rintro ⟨state, hostname, port⟩ ⟨state', hostname', port'⟩ equal
      simpa [nicFingerprint] using equal
    rw [nicFingerprints, mem_compactSorted, Sorter.mem_sortSlice, mem_map_of_injective injective]
  rw [← listed nics, same, listed]

lemma nodeAlike_of_fingerprint {old new : FabricNode} (name : old.name = new.name)
    (same : fabricNodeFingerprint runtime old = fabricNodeFingerprint runtime new)
    (role : SwitchRole) : NodeAlike role old new := by
  obtain ⟨nodeRole, scaleOut, storage⟩ := FabricNodeInputFingerprint.mk.inj same
  refine ⟨name, fun nic => ?_⟩
  cases role with
  | scaleOut =>
    unfold nodeNicsForRole
    rw [nodeRole]
    split_ifs
    · rfl
    · exact mem_nics_of_fingerprints scaleOut nic
  | scaleUp => rfl
  | storage => exact mem_nics_of_fingerprints storage nic

lemma switchAlike_of_fingerprint {old new : Switch} (name : old.name = new.name)
    (same : switchFingerprint runtime old = switchFingerprint runtime new) :
    SwitchAlike old new := by
  obtain ⟨role, hostname, hasManual, manual, neighbors⟩ := SwitchInputFingerprint.mk.inj same
  refine ⟨name, ?_, hostname, ?_, ?_⟩
  · unfold effectiveSwitchRole
    rw [role]
  · rw [GoMap.getD_eq, GoMap.getD_eq] at manual
    rw [contains_eq_isSome_getElem?, contains_eq_isSome_getElem?] at hasManual
    generalize old.annotations[ switchNeighborsAnnotation]? = oldText at hasManual manual ⊢
    generalize new.annotations[ switchNeighborsAnnotation]? = newText at hasManual manual ⊢
    cases oldText with
    | none =>
      cases newText with
      | none => rfl
      | some text => cases hasManual
    | some text =>
      cases newText with
      | none => cases hasManual
      | some text' => exact congrArg some manual
  · intro kind remote
    have listed : ∀ switch : Switch, ({ remoteSystemType := kind, name := remote } :
            SwitchNeighborFingerprint) ∈
          (switchFingerprint runtime switch).neighbors ↔
        ∃ neighbor ∈ switch.lldpNeighbors, neighbor.remoteSystemType = kind ∧
            neighbor.remoteSystemName = remote := by
      intro switch
      rw [switchFingerprint, mem_compactSorted, Sorter.mem_sortSlice, mem_map]
      simp
    rw [← listed old, same, listed]

end

/-! ## Rejected updates -/

lemma forall₂_replaced {α : Type} {aligned : α → α → Prop} (refl : ∀ value, aligned value value)
    {old new : α} (replaced : aligned old new) (before after : List α) :
    List.Forall₂ aligned (before ++ old :: after) (before ++ new :: after) :=
  rel_append (forall₂_same.2 fun value _ => refl value) (List.Forall₂.cons replaced
      (forall₂_same.2 fun value _ => refl value))

/--
An update of a FabricNode or Switch which the predicates reject leaves the
inputs of every role as they are, or fails before and after with one error.
-/
theorem rejected_updates_keep_inputs (filter runtime runtime' : Runtime) (role : SwitchRole) :
    (∀ (before after : List FabricNode) (old new : FabricNode)
        (switches : List Switch), old.name = new.name →
      fabricNodeTopologyInputPredicate filter (.update (some old) (some new)) = false →
        buildTopologyInputsForRole runtime role (before ++ old :: after) switches =
          buildTopologyInputsForRole runtime' role (before ++ new :: after) switches) ∧
      ∀ (fabricNodes : List FabricNode) (before after : List Switch)
          (old new : Switch), old.name = new.name →
        switchTopologyInputPredicate filter (.update (some old) (some new)) = false →
          buildTopologyInputsForRole runtime role fabricNodes (before ++ old :: after) =
            buildTopologyInputsForRole runtime' role fabricNodes (before ++ new :: after) := by
  constructor
  · intro before after old new switches name rejected
    have alike := nodeAlike_of_fingerprint name (fingerprint_eq_of_rejected rejected) role
    exact buildTopologyInputsForRole_alike runtime runtime'
      (forall₂_replaced (NodeAlike.refl role) alike before after)
      (List.forall₂_same.mpr fun switch _ => SwitchAlike.refl switch)
  · intro fabricNodes before after old new name rejected
    have alike := switchAlike_of_fingerprint name (fingerprint_eq_of_rejected rejected)
    exact buildTopologyInputsForRole_alike runtime runtime'
      (List.forall₂_same.mpr fun node _ => NodeAlike.refl role node)
      (forall₂_replaced SwitchAlike.refl alike before after)

theorem rejected_updates_reordered_nics :
    ∃ old new : FabricNode, old.scaleOutNics ≠ new.scaleOutNics ∧ old.name = new.name ∧
      fabricNodeTopologyInputPredicate .canonical (.update (some old) (some new)) = false ∧
      buildTopologyInputsForRole .canonical .scaleOut [old] [] =
        buildTopologyInputsForRole .canonical .scaleOut [new] [] := by
  let first : NicInfo := ⟨"up", "leaf-1", "Ethernet1"⟩
  let second : NicInfo := ⟨"up", "Leaf.1", "Ethernet2"⟩
  let old : FabricNode := ⟨"node-1", none, [first, second], []⟩
  let new : FabricNode := ⟨"node-1", none, [second, first, second], []⟩
  have rejected : fabricNodeTopologyInputPredicate .canonical
      (.update (some old) (some new)) = false := by decide +kernel
  exact ⟨old, new, by decide, rfl, rejected,
    (rejected_updates_keep_inputs .canonical .canonical
      .canonical .scaleOut).1 [] [] old new [] rfl rejected⟩

end Unifabric.SwitchTopology
