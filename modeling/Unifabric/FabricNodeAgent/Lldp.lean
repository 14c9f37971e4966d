import Unifabric.Lib.LastWriter
import Unifabric.Lib.Loop
import Unifabric.Lib.NetIP
import Unifabric.V1beta1.Types

/-!
# The neighbours of a node

`parseJSON0Format`: the LLDP neighbours of the interfaces of a decoded
`lldpcli` document.  Every field of the document is a list which may be empty
or absent, and the parser reads the first elements.  Reading the first element
of an empty list is a panic.
-/

namespace Unifabric.FabricNodeAgent

open Lib V1beta1

/-! ## Documents -/

/-- `LLDPJSON0Chassis`, the values of its fields. -/
structure LldpJson0Chassis where
  id : List String
  name : List String
  descr : List String
  mgmtIP : List String
  deriving DecidableEq, Repr, Inhabited

/-- `LLDPJSON0Port`, the values of its identifiers. -/
structure LldpJson0Port where
  id : List String
  deriving DecidableEq, Repr, Inhabited

structure LldpJson0Interface where
  name : String
  chassis : List LldpJson0Chassis
  port : List LldpJson0Port
  deriving DecidableEq, Repr

structure LldpJson0Data where
  interface : List LldpJson0Interface
  deriving DecidableEq, Repr

structure LldpJson0Response where
  lldp : List LldpJson0Data
  deriving DecidableEq, Repr

/-- `LLDPNeighbor` with all its fields. -/
structure LldpNeighborInfo extends LldpNeighbor where
  mgmtIP : String
  mac : String
  description : String
  deriving DecidableEq, Repr

/-! ## The parser -/

/-- A run-time panic of the source. -/
inductive Panic where
  | indexOutOfRange
  deriving DecidableEq, Repr

/-- The element at position zero of a slice. -/
def first {α : Type} : List α → Except Panic α
  | [] => .error .indexOutOfRange
  | value :: _ => .ok value

/-- The management address: the first IPv4 address, or else the first one. -/
def mgmtAddress (mgmtIPs : List String) : String :=
  let ipv4 := mgmtIPs.find? fun ip => ((parseIP ip).bind to4).isSome
  if ipv4.getD "" = "" then mgmtIPs.headD "" else ipv4.getD ""

section

variable (iface : LldpJson0Interface)

/-- The neighbour of one interface; `none` where the loop continues. -/
def parseInterface : Except Panic (Option LldpNeighborInfo) := do
  if iface.chassis.length = 0 ∨ iface.port.length = 0 then return none
  let chassis ← first iface.chassis
  let port ← first iface.port
  if chassis.id.length = 0 ∨ port.id.length = 0 ∨ chassis.name.length = 0 then return none
  let hostname ← first chassis.name
  let mac ← first chassis.id
  let portID ← first port.id
  let description ← first chassis.descr
  return some
    { hostname := hostname
      mac := mac
      port := portID
      description := description
      mgmtIP := mgmtAddress chassis.mgmtIP }

/-- Enter the neighbour of one interface. -/
def addInterface (neighbors : GoMap String LldpNeighborInfo) (iface : LldpJson0Interface) :
    Except Panic (GoMap String LldpNeighborInfo) := do
  match ← parseInterface iface with
  | none => return neighbors
  | some neighbor => return neighbors.insert iface.name neighbor

def parseJSON0Format (resp : LldpJson0Response) : Except Panic (GoMap String LldpNeighborInfo) :=
  resp.lldp.foldlM (fun neighbors lldpData =>
      lldpData.interface.foldlM addInterface neighbors)
    ∅

/-! ## What it returns -/

/-- The interface has a chassis and a port with the required identifiers. -/
def Usable : Prop :=
  iface.chassis ≠ [] ∧ iface.port ≠ [] ∧ (iface.chassis.headD default).id ≠ [] ∧
    (iface.port.headD default).id ≠ [] ∧
    (iface.chassis.headD default).name ≠ []

instance (iface : LldpJson0Interface) : Decidable (Usable iface) :=
  inferInstanceAs (Decidable (_ ∧ _))

/-- The chassis of the interface carries a description. -/
def Described : Prop := (iface.chassis.headD default).descr ≠ []

/-- The data of a usable interface. -/
def neighborData : LldpNeighborInfo :=
  { hostname := (iface.chassis.headD default).name.headD ""
    mac := (iface.chassis.headD default).id.headD ""
    port := (iface.port.headD default).id.headD ""
    description := (iface.chassis.headD default).descr.headD ""
    mgmtIP := mgmtAddress (iface.chassis.headD default).mgmtIP }

/-- All interface elements of a document, in order. -/
def interfaces (resp : LldpJson0Response) : List LldpJson0Interface :=
  resp.lldp.flatMap LldpJson0Data.interface

/-- The name under which an interface is entered, if it is. -/
def enteredNames : List String :=
  if Usable iface then [iface.name] else []

/-- Either the interface is skipped or the fields it needs are present. -/
lemma usable_or_skipped : (¬ Usable iface ∧ parseInterface iface = .ok none) ∨
      ∃ name chassisRest portRest hostname names mac ids portID portIDs descr mgmtIP, iface =
          ⟨name, ⟨mac :: ids, hostname :: names, descr, mgmtIP⟩ ::
            chassisRest, ⟨portID :: portIDs⟩ :: portRest⟩ := by
  obtain ⟨name, chassis, port⟩ := iface
  rcases chassis with _ | ⟨⟨id, hostnames, descr, mgmtIP⟩, chassisRest⟩
  · exact .inl ⟨fun usable => usable.1 rfl, rfl⟩
  rcases port with _ | ⟨⟨portID⟩, portRest⟩
  · exact .inl ⟨fun usable => usable.2.1 rfl, rfl⟩
  rcases id with _ | ⟨mac, ids⟩
  · exact .inl ⟨fun usable => usable.2.2.1 rfl, rfl⟩
  rcases portID with _ | ⟨portID, portIDs⟩
  · exact .inl ⟨fun usable => usable.2.2.2.1 rfl, rfl⟩
  rcases hostnames with _ | ⟨hostname, names⟩
  · exact .inl ⟨fun usable => usable.2.2.2.2 rfl, rfl⟩
  exact .inr ⟨name, chassisRest, portRest, hostname, names, mac, ids,
    portID, portIDs, descr, mgmtIP, rfl⟩

end

lemma addInterface_eq (neighbors : GoMap String LldpNeighborInfo) (iface : LldpJson0Interface) :
    ((Usable iface → Described iface) → addInterface neighbors iface =
        .ok ((enteredNames iface).foldl (fun table name => table.insert name (neighborData iface))
          neighbors)) ∧ (¬ (Usable iface → Described iface) →
        addInterface neighbors iface = .error .indexOutOfRange) := by
  rcases usable_or_skipped iface with ⟨unusable, skipped⟩ |
    ⟨name, chassisRest, portRest, hostname, names, mac, ids, portID, portIDs, descr, mgmtIP, rfl⟩
  · unfold addInterface enteredNames
    rw [skipped, if_neg unusable]
    exact ⟨fun _ => rfl, fun bare => absurd unusable.elim bare⟩
  · cases descr with
    | nil =>
      refine ⟨fun described => absurd rfl (described ?_), fun _ => rfl⟩
      simp [Usable]
    | cons description rest =>
      exact ⟨fun _ => rfl, fun bare => absurd (fun _ => List.cons_ne_nil description rest) bare⟩

lemma parseJSON0Format_eq (resp : LldpJson0Response) :
    parseJSON0Format resp = (interfaces resp).foldlM addInterface ∅ :=
  (foldlM_flatMap LldpJson0Data.interface resp.lldp ∅).symm

/-- The loop builds the table in which the last usable element wins. -/
lemma parseJSON0Format_decides (resp : LldpJson0Response) :
    ((∀ iface ∈ interfaces resp, Usable iface → Described iface) →
      ∃ neighbors, parseJSON0Format resp = .ok neighbors ∧
        neighbors = lastWriter enteredNames neighborData (interfaces resp)) ∧
      (¬ (∀ iface ∈ interfaces resp, Usable iface → Described iface) →
        ∃ panic, parseJSON0Format resp = .error panic) := by
  rw [parseJSON0Format_eq]
  refine foldlM_decides_forall (fun done table => table = lastWriter enteredNames neighborData done)
    (fun iface => Usable iface → Described iface) rfl ?_
  rintro done iface rest _ _ rfl
  obtain ⟨enters, panics⟩ := addInterface_eq (lastWriter enteredNames neighborData done) iface
  refine ⟨fun described => ⟨_, enters described, ?_⟩, fun bare => ⟨_, panics bare⟩⟩
  rw [lastWriter, lastWriter, List.foldl_concat]

/--
The parser returns, with an entry for exactly the names of usable interface
elements which holds the data of the last such element, exactly if the chassis
of every usable element carries a description.
-/
theorem parseJSON0Format_returns_iff (resp : LldpJson0Response) :
    (∃ neighbors, parseJSON0Format resp = .ok neighbors ∧ ∀ name, neighbors[name]? =
          (((interfaces resp).filter fun iface =>
            Usable iface ∧ iface.name = name).getLast?).map neighborData) ↔
      ∀ iface ∈ interfaces resp, Usable iface → Described iface := by
  rcases parseJSON0Format_decides resp with ⟨returns, panics⟩
  constructor
  · rintro ⟨neighbors, parsed, _⟩
    by_contra bare
    rcases panics bare with ⟨panic, failed⟩
    rw [parsed] at failed
    cases failed
  · intro described
    rcases returns described with ⟨neighbors, parsed, rfl⟩
    refine ⟨_, parsed, fun name => ?_⟩
    rw [getElem?_lastWriter, lastWith]
    congr 2
    refine List.filter_congr fun iface _ => ?_
    unfold enteredNames
    by_cases usable : Usable iface
    · simp [usable, eq_comm]
    · simp [usable]

/-- A neighbour which sends no system description stops the agent. -/
theorem parseJSON0Format_panics_without_description : parseJSON0Format
        ⟨[⟨[⟨"eth0", [⟨["aa:bb:cc:dd:ee:ff"], ["leaf-1"], [], []⟩], [⟨["swp1"]⟩]⟩]⟩]⟩ =
      .error .indexOutOfRange := by
  rfl

end Unifabric.FabricNodeAgent
