import Unifabric.EbpfFlow.Attribution
import Unifabric.EbpfFlow.Endpoint
import Unifabric.Lib.Loop
import Unifabric.Lib.NetIP

/-!
# Reported addresses

The readers of the RDMAEndpoints index the ports of all objects by the
addresses they answer to, and resolve a destination to the Pod which has the
queue pair on such a port, or to the only Pod with the address.
-/

namespace Unifabric.EbpfFlow

open Lib List GoMap

/-! ## Addresses -/

def gidToIP (gid : List Nat) : String :=
  if gid = List.replicate 16 0 then ""
  else if gid.take 12 = mapped4 [] then ipv4String (gid.drop 12)
  else ipv6String gid

/-- `parseSysfsGID`: a GID without an interface part is no address. -/
def parseSysfsGID (value : String) : String :=
  match parseIP value with
  | none => ""
  | some ip => if ip.drop 8 = List.replicate 8 0 then "" else gidToIP ip

def lidKey (subnetPrefix : String) (lid : UInt16) : String :=
  if lid = 0 ∨ subnetPrefix = "" then ""
  else subnetPrefix ++ "/" ++ toString lid

/-- `portAddresses`: the addresses one port answers to. -/
def portAddresses (port : RdmaPort) : List String :=
  let gids := port.gids.foldl (fun addresses gid =>
      let ip := parseSysfsGID gid.gid
      if ip ≠ "" ∧ ip ∉ addresses then addresses ++ [ip] else addresses)
    []
  let key := lidKey port.subnetPrefix port.lid
  if key ≠ "" then gids ++ [key] else gids

/-! ## The index -/

/-- A Pod as seen by an address lookup. -/
structure ReportedPod where
  uid : String
  node : String
  devices : List String
  qpns : GoMap Nat String
  deriving DecidableEq

def ReportedPod.hasQPN (pod : ReportedPod) (destQPN : UInt32) : Bool :=
  destQPN ≠ 0 ∧ pod.qpns[destQPN.toNat]?.isSome

def ReportedPod.deviceFor (pod : ReportedPod) (destQPN : UInt32) : String :=
  if pod.hasQPN destQPN then pod.qpns.getD destQPN.toNat ""
  else
    match pod.devices with
    | [device] => device
    | _ => ""

/-- The Pods and the nodes by address, and the number of stale objects. -/
structure EndpointIndex where
  pods : GoMap String (List ReportedPod)
  nodes : GoMap String (List String)
  stale : Nat

/-- The age in nanoseconds after which readers ignore an object. -/
def endpointStale : Int := 15 * 60 * 1000000000

/-- Whether readers ignore an object. -/
def RdmaEndpoint.isStale (object : RdmaEndpoint) (now : Int) : Bool :=
  endpointStale < now - object.status.lastUpdateTime

/-- One address of one port of an object, with the device of the port. -/
structure PortVisit where
  device : String
  port : RdmaPort
  address : String

/-- What the three loops over an object visit, in order. -/
def portVisits (object : RdmaEndpoint) : List PortVisit :=
  object.status.interfaces.flatMap fun iface =>
    iface.ports.flatMap fun port =>
      (portAddresses port).map fun address => { device := iface.rdmaDevice, port, address }

/-- The Pod of an address with one more port. -/
def ReportedPod.addPort (pod : ReportedPod) (visit : PortVisit) :
    ReportedPod :=
  { pod with
    devices := pod.devices ++ [visit.device]
    qpns := visit.port.queuePairs.foldl
      (fun qpns qp => qpns.insert qp.qpn.toNat visit.device) pod.qpns }

/-- The body of the three loops. -/
def visitPort (uid node : String) (state : GoMap String ReportedPod × GoMap String (List String))
    (visit : PortVisit) : GoMap String ReportedPod × GoMap String (List String) :=
  let (byAddress, nodes) := state
  let entry := byAddress.getD visit.address { uid, node, devices := [], qpns := ∅ }
  let known := nodes.getD visit.address []
  (byAddress.insert visit.address (entry.addPort visit),
    if node ∈ known then nodes
    else nodes.insert visit.address (known ++ [node]))

/-- The body of the loop over the objects. -/
def addObject (runtime : Runtime) (now : Int) (index : EndpointIndex)
    (object : RdmaEndpoint) : EndpointIndex :=
  if object.isStale now then { index with stale := index.stale + 1 }
  else if podUIDOf object = "" then index
  else
    let (byAddress, nodes) :=
      (portVisits object).foldl (visitPort (podUIDOf object) object.status.nodeName)
        (∅, index.nodes)
    let pods :=
      (runtime.range ["buildEndpointIndex", object.namespaceName, object.name] byAddress.keys).foldl
        (fun pods address =>
          match byAddress[address]? with
          | none => pods
          | some entry =>
            pods.insert address (pods.getD address [] ++ [entry]))
        index.pods
    { index with pods, nodes }

def buildEndpointIndex (runtime : Runtime) (objects : List RdmaEndpoint)
    (now : Int) : EndpointIndex :=
  objects.foldl (addObject runtime now) { pods := ∅, nodes := ∅, stale := 0 }

/-! ## Resolution -/

/-- The Pod `podForReportedAddress` picks, if it picks one. -/
def chosenPod (index : EndpointIndex) (address : String) (destQPN : UInt32) : Option ReportedPod :=
  let pods := index.pods.getD address []
  let matched := pods.filter fun pod => pod.hasQPN destQPN
  (soleElement matched).or (soleElement pods)

def podForReportedAddress (index : EndpointIndex)
    (byUID : GoMap String Peer) (address : String) (destQPN : UInt32) : Peer × String × Bool :=
  match chosenPod index address destQPN with
  | some pod => (byUID.getD pod.uid (.ofLabel ("pod-uid:" ++ pod.uid)), pod.deviceFor destQPN, true)
  | none =>
    let nodes := index.nodes.getD address []
    if index.pods.getD address [] = [] ∧ nodes = [] then
      (.ofLabel "", "", false)
    else (.ofLabel ("node:" ++ ",".intercalate nodes), "", true)

/-! ## One object -/

/-- The Pods by address of one object. -/
def podsByAddress (object : RdmaEndpoint) : GoMap String ReportedPod :=
  (portVisits object).foldl (fun byAddress visit =>
      byAddress.insert visit.address ((byAddress.getD visit.address
          { uid := podUIDOf object
            node := object.status.nodeName
            devices := []
            qpns := ∅ }).addPort visit))
    ∅

/-- The Pod an object contributes to an address. -/
def entryOf (now : Int) (address : String) (object : RdmaEndpoint) : Option ReportedPod :=
  if object.isStale now ∨ podUIDOf object = "" then none
  else (podsByAddress object)[address]?

lemma foldl_visitPort_fst (uid node : String) (visits : List PortVisit)
    (byAddress : GoMap String ReportedPod) (nodes : GoMap String (List String)) :
    (visits.foldl (visitPort uid node) (byAddress, nodes)).1 = visits.foldl (fun byAddress visit =>
          byAddress.insert visit.address ((byAddress.getD visit.address
              { uid, node, devices := [], qpns := ∅ }).addPort visit))
        byAddress := by
  induction visits generalizing byAddress nodes with
  | nil => rfl
  | cons first rest ih =>
    exact ih _ _

lemma getD_foldl_append {entries : GoMap String ReportedPod} {keys : List String}
    (once : keys.Nodup) (pods : GoMap String (List ReportedPod)) (address : String) :
    (keys.foldl (fun pods key =>
          match entries[key]? with
          | none => pods
          | some entry => pods.insert key (pods.getD key [] ++ [entry]))
        pods).getD address [] =
      pods.getD address [] ++ if address ∈ keys then entries[address]?.toList else [] := by
  induction keys generalizing pods with
  | nil => simp
  | cons first rest ih =>
    rw [nodup_cons] at once
    rw [foldl_cons, ih once.2]
    by_cases same : first = address
    · subst same
      cases found : entries[first]? with
      | none => simp
      | some entry => simp [once.1]
    · cases found : entries[first]? with
      | none => simp [Ne.symm same]
      | some entry => simp [Ne.symm same, getD_insert, same]

lemma getD_addObject (runtime : Runtime) (now : Int)
    (index : EndpointIndex) (object : RdmaEndpoint) (address : String) :
    (addObject runtime now index object).pods.getD address [] =
      index.pods.getD address [] ++ (entryOf now address object).toList := by
  rw [addObject, entryOf]
  by_cases isStale : object.isStale now = true
  · simp [isStale]
  · by_cases unowned : podUIDOf object = ""
    · simp [isStale, unowned]
    · have entries := foldl_visitPort_fst (podUIDOf object)
        object.status.nodeName (portVisits object) ∅ index.nodes
      rw [← podsByAddress] at entries
      simp only [isStale, unowned, entries, Bool.false_eq_true, or_self, if_false]
      rw [getD_foldl_append ((runtime.range_perm _ _).nodup_iff.2 (keys_nodup _))]
      congr 1
      cases found : (podsByAddress object)[address]? with
      | none => simp
      | some entry =>
        rw [if_pos]
        rw [MapOrder.mem_range, mem_keys_iff]
        exact ⟨entry, found⟩

/-- The Pods of an address are those the objects contribute, in order. -/
lemma getD_buildEndpointIndex (runtime : Runtime)
    (objects : List RdmaEndpoint) (now : Int) (address : String) :
    (buildEndpointIndex runtime objects now).pods.getD address [] =
      objects.filterMap (entryOf now address) := by
  rw [buildEndpointIndex]
  induction objects using reverseRecOn with
  | nil => simp
  | append_singleton before last ih =>
    rw [foldl_append, foldl_cons, foldl_nil, getD_addObject, ih, filterMap_append]
    congr 1

end Unifabric.EbpfFlow
