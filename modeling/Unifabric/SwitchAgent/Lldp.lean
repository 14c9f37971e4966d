import Unifabric.Lib.GoText
import Unifabric.SwitchAgent.Agent

/-!
# The snapshot of a switch

`parseSnapshot`: the neighbours of an `lldpcli` document.  What `json.Unmarshal`
makes of the output is an argument of the model, of which nothing is assumed.
-/

namespace Unifabric.SwitchAgent

open Lib List

/-! ## Documents -/

/-- `LLDPJSON0Chassis`, of which the names are read. -/
structure LldpJson0Chassis where
  name : List String
  deriving DecidableEq, Repr

/-- `LLDPJSON0Port`, of which the values of the identifiers are read. -/
structure LldpJson0Port where
  id : List String
  deriving DecidableEq, Repr

structure LldpJson0Interface where
  name : String
  chassis : List LldpJson0Chassis
  port : List LldpJson0Port
  deriving DecidableEq, Repr

structure LldpJson0Data where
  interface : List LldpJson0Interface
  deriving DecidableEq, Repr

structure LldpJson0Response where
  lldp : List LldpJson0Data
  deriving DecidableEq, Repr

/-! ## Snapshots -/

/-- The loop of `normalizeSwitchName`: the text so far and `previousDash`. -/
def addNameChar (state : List Char × Bool) (c : Char) : List Char × Bool :=
  if ('a' ≤ c ∧ c ≤ 'z') ∨ ('0' ≤ c ∧ c ≤ '9') then (state.1 ++ [c], false)
  else if state.2 then state
  else (state.1 ++ ['-'], true)

def normalizeSwitchName (name : String) : String :=
  String.ofList (trimBy (· == '-') (((trimSpace name).toList.map toLowerAscii).foldl addNameChar
        ([], false)).1)

/-- The neighbour of an interface; one without a name or a port is skipped. -/
def interfaceNeighbor (switchName : String) (iface : LldpJson0Interface) : Option LldpNeighbor :=
  match iface.chassis, iface.port with
  | chassis :: _, port :: _ =>
    match chassis.name, port.id with
    | name :: _, id :: _ =>
      some
        { localDeviceName := switchName
          localPort := iface.name
          remoteSystemName := name
          remotePortId := id }
    | _, _ => none
  | _, _ => none

/-- The order of the neighbours of a snapshot. -/
def snapshotLess (left right : LldpNeighbor) : Bool :=
  if left.localPort ≠ right.localPort then left.localPort < right.localPort
  else if left.remoteSystemName ≠ right.remoteSystemName then
    left.remoteSystemName < right.remoteSystemName
  else left.remotePortId < right.remotePortId

/-- What `parseSnapshot` collects from a document. -/
def collectNeighbors (runtime : Runtime) (switchName : String)
    (response : LldpJson0Response) : Collected :=
  let normalizedSwitchName := normalizeSwitchName switchName
  { switchName := normalizedSwitchName
    lldpNeighbors :=
      runtime.sortSlice snapshotLess (response.lldp.flatMap fun lldpData =>
          lldpData.interface.filterMap (interfaceNeighbor normalizedSwitchName)) }

/-- `parseSnapshot`, with the error text of the decoder. -/
def parseSnapshot (runtime : Runtime) (unmarshal : List UInt8 → Except String LldpJson0Response)
    (switchName : String) (generation : UInt64) (output : List UInt8) :
    Except String LldpNeighborSnapshot :=
  match unmarshal output with
  | .error message => .error ("unmarshal lldp json0 output: " ++ message)
  | .ok response => .ok (collectSnapshot (collectNeighbors runtime switchName response) generation)

/-- The neighbours of a snapshot are those of the interfaces, in some order. -/
lemma mem_collectNeighbors :
    neighbor ∈ (collectNeighbors runtime switchName response).lldpNeighbors ↔
      ∃ lldpData ∈ response.lldp, ∃ iface ∈ lldpData.interface,
        interfaceNeighbor (normalizeSwitchName switchName) iface = some neighbor := by
  simp [collectNeighbors, Sorter.mem_sortSlice]

lemma interfaceNeighbor_eq_some : interfaceNeighbor switchName iface = some neighbor ↔
      ∃ chassis port name id, iface.chassis.head? = some chassis ∧
        iface.port.head? = some port ∧ chassis.name.head? = some name ∧
        port.id.head? = some id ∧
        neighbor =
          { localDeviceName := switchName
            localPort := iface.name
            remoteSystemName := name
            remotePortId := id } := by
  unfold interfaceNeighbor
  constructor
  · intro found
    split at found
    · next chassis _ port _ hasChassis hasPort =>
      split at found
      · next name _ id _ hasName hasId =>
        exact ⟨chassis, port, name, id, by simp [hasChassis],
          by simp [hasPort], by simp [hasName], by simp [hasId],
          (Option.some.inj found).symm⟩
      · cases found
    · cases found
  · rintro ⟨chassis, port, name, id, hasChassis, hasPort, hasName, hasId, rfl⟩
    obtain ⟨_, isChassis⟩ := head?_eq_some_iff.1 hasChassis
    obtain ⟨_, isPort⟩ := head?_eq_some_iff.1 hasPort
    obtain ⟨_, isName⟩ := head?_eq_some_iff.1 hasName
    obtain ⟨_, isId⟩ := head?_eq_some_iff.1 hasId
    simp [isChassis, isPort, isName, isId]

end Unifabric.SwitchAgent
