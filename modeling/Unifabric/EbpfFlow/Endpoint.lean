import Unifabric.V1beta1.Types

/-!
# The RDMA endpoints of a node

`collectEndpoints`: one RDMAEndpoint per Pod which holds an RDMA device or has
queue pairs.  What the agent reads from sysfs, from `/proc` and from the BPF
maps is the argument of the model.
-/

namespace Unifabric.EbpfFlow

open Lib V1beta1

/-! ## Objects -/

/-- The link layer of a port. -/
inductive LinkLayer where
  | infiniBand
  | ethernet
  deriving DecidableEq, Repr

/-- An entry of a GID table. -/
structure RdmaGid where
  index : Int
  gid : String
  deriving DecidableEq, Repr

/-- A queue pair and the process which created it. -/
structure RdmaQueuePair where
  qpn : UInt32
  pid : UInt32
  deriving DecidableEq, Repr

/-- A port of a device. -/
structure RdmaPort where
  port : Int
  linkLayer : LinkLayer
  lid : UInt16
  subnetPrefix : String
  gids : List RdmaGid
  queuePairs : List RdmaQueuePair
  deriving DecidableEq, Repr

/-- A device of a Pod. -/
structure RdmaInterface where
  name : String
  rdmaDevice : String
  ports : List RdmaPort
  deriving DecidableEq, Repr

/-- The owner of an object. -/
structure OwnerReference where
  apiVersion : String
  kind : String
  name : String
  uid : String
  controller : Bool
  blockOwnerDeletion : Bool
  deriving DecidableEq, Repr

/-- What the agent observed. -/
structure RdmaEndpointStatus where
  nodeName : String
  hostNetwork : Bool
  lastUpdateTime : Int
  interfaces : List RdmaInterface
  deriving DecidableEq, Repr

/-- An RDMAEndpoint. -/
structure RdmaEndpoint where
  namespaceName : String
  name : String
  labels : Labels
  ownerReferences : List OwnerReference
  status : RdmaEndpointStatus
  deriving DecidableEq

/-- The label with the node of an object. -/
def rdmaEndpointLabelNode : String := "unifabric.io/node"

/-- The API key of an object. -/
abbrev ObjectKey := Lex (String × String)

/-- The key an object is stored under. -/
def RdmaEndpoint.key (object : RdmaEndpoint) : ObjectKey :=
  toLex (object.namespaceName, object.name)

/-- `podUIDOf`: the first owner which is a Pod. -/
def podUIDOf (object : RdmaEndpoint) : String :=
  ((object.ownerReferences.find? fun owner => owner.kind = "Pod").map OwnerReference.uid).getD ""

/-! ## One interface -/

/-- What the scan learns about a port. -/
structure PortInfo where
  num : Int
  linkLayer : LinkLayer
  lid : UInt16
  subnetPrefix : String
  gids : List RdmaGid
  deriving DecidableEq, Repr

/-- What the scan learns about a device. -/
structure DeviceInfo where
  netdev : String
  ports : List PortInfo
  deriving DecidableEq, Repr

/-- A queue pair of a Pod as the BPF map has it. -/
structure QpRecord where
  qpn : UInt32
  pid : UInt32
  port : Int
  deriving DecidableEq, Repr

def firstPortNum (ports : List PortInfo) : Int := (ports.head?.map PortInfo.num).getD 0

/-- The queue pairs by the port they were created on. -/
def queuePairsByPort (qps : List QpRecord) : GoMap Int (List RdmaQueuePair) :=
  qps.foldl (fun byPort qp =>
      byPort.insert qp.port (byPort.getD qp.port [] ++ [{ qpn := qp.qpn, pid := qp.pid }]))
    ∅

section

variable (runtime : Runtime)

/-- Queue pairs in the order of their numbers. -/
def sortQueuePairs (queuePairs : List RdmaQueuePair) : List RdmaQueuePair :=
  runtime.sortSlice (fun left right => left.qpn < right.qpn) queuePairs

/-- A scanned port with its queue pairs; the first port takes port zero. -/
def buildPort (info : DeviceInfo) (byPort : GoMap Int (List RdmaQueuePair)) (port : PortInfo) :
    RdmaPort :=
  { port := port.num
    linkLayer := port.linkLayer
    lid := port.lid
    subnetPrefix := port.subnetPrefix
    gids := port.gids
    queuePairs :=
      sortQueuePairs runtime (byPort.getD port.num [] ++
          if port.num = firstPortNum info.ports then byPort.getD 0 []
          else []) }

def buildInterface (device : String) (info : DeviceInfo) (qps : List QpRecord) : RdmaInterface :=
  let byPort := queuePairsByPort qps
  { name := info.netdev
    rdmaDevice := device
    ports :=
      info.ports.map (buildPort runtime info byPort) ++
        -- a device whose table was unreadable keeps its queue pairs
        if info.ports = [] ∧ qps ≠ [] then
          [{ port := 1
             linkLayer := .ethernet
             lid := 0
             subnetPrefix := ""
             gids := []
             queuePairs :=
               sortQueuePairs runtime ((runtime.range ["buildInterface", device]
                    byPort.keys).flatMap fun port =>
                      byPort.getD port []) }]
        else [] }

end

/-! ## All Pods of a node -/

/-- The devices the processes of a Pod hold, and one of its processes. -/
structure PodHolder where
  pid : String
  devices : GoMap String Bool

/-- A Pod of the index. -/
structure IndexedPod where
  namespaceName : String
  name : String
  hostNetwork : Bool
  deriving DecidableEq, Repr

/-- What one run reads: tables of devices, holders, queue pairs, the index. -/
structure Scan where
  now : Int
  hostDevices : GoMap String DeviceInfo
  /-- The table a process sees in its own namespace. -/
  podDeviceTable : String → GoMap String DeviceInfo
  podDeviceHolders : GoMap String PodHolder
  podQPs : GoMap String (GoMap String (List QpRecord))
  byUID : GoMap String IndexedPod

section

variable (runtime : Runtime)

/-- A queue pair proves that its device is in use. -/
def addQPHolder (scan : Scan) (holders : GoMap String PodHolder)
    (uid : String) : GoMap String PodHolder :=
  let holder := holders.getD uid { pid := "", devices := ∅ }
  holders.insert uid
    { holder with
      devices :=
        (runtime.range ["collectEndpoints", "qps", uid] (scan.podQPs.getD uid ∅).keys).foldl
          (fun devices device => devices.insert device true)
          holder.devices }

/-- The holders, those known only by their queue pairs included. -/
def allHolders (scan : Scan) : GoMap String PodHolder :=
  (runtime.range ["collectEndpoints", "qps"] scan.podQPs.keys).foldl
    (addQPHolder runtime scan) scan.podDeviceHolders

/-- The interfaces of a Pod, by device name. -/
def podInterfaces (scan : Scan) (uid : String) (holder : PodHolder)
    (indexed : Option IndexedPod) : List RdmaInterface :=
  let podDevices :=
    -- a Pod without the host network sees its own devices
    if holder.pid ≠ "" ∧ (indexed.map IndexedPod.hostNetwork) ≠ some true then
      scan.podDeviceTable holder.pid
    else ∅
  (sortValues (runtime.range ["sortedKeys", uid] holder.devices.keys)).map fun device =>
      buildInterface runtime device (podDevices.getD device
          (scan.hostDevices.getD device { netdev := "", ports := [] }))
        ((scan.podQPs.getD uid ∅).getD device [])

/-- The object of one holder; an unknown Pod has no name yet. -/
def endpointOf (node : String) (scan : Scan) (uid : String) (holder : PodHolder) : RdmaEndpoint :=
  let indexed := scan.byUID[uid]?
  { namespaceName := (indexed.map IndexedPod.namespaceName).getD ""
    name := (indexed.map IndexedPod.name).getD ""
    labels :=
      ((∅ : Labels).insert "app.kubernetes.io/managed-by"
        "unifabric-agent").insert rdmaEndpointLabelNode node
    ownerReferences :=
      [{ apiVersion := "v1"
         kind := "Pod"
         name := (indexed.map IndexedPod.name).getD ""
         uid := uid
         controller := true
         blockOwnerDeletion := true }]
    status :=
      { nodeName := node
        hostNetwork := (indexed.map IndexedPod.hostNetwork).getD false
        lastUpdateTime := scan.now
        interfaces := podInterfaces runtime scan uid holder indexed } }

/-- Whether a holder is left out: peers find its Pod by the Pod address. -/
def leftOut (allPods : Bool) (scan : Scan) (uid : String) : Bool :=
  match scan.byUID[uid]? with
  | some pod => !allPods && !pod.hostNetwork
  | none => false

def collectEndpoints (node : String) (allPods : Bool) (scan : Scan) : List RdmaEndpoint :=
  let holders := allHolders runtime scan
  runtime.sortSlice (fun left right => podUIDOf left < podUIDOf right)
    (((runtime.range ["collectEndpoints", "holders"]
        holders.keys).filter fun uid => !leftOut allPods scan uid).map
      fun uid =>
        endpointOf runtime node scan uid (holders.getD uid { pid := "", devices := ∅ }))

@[simp]
lemma podUIDOf_endpointOf (node : String) (scan : Scan) (uid : String) (holder : PodHolder) :
    podUIDOf (endpointOf runtime node scan uid holder) = uid := by
  simp [podUIDOf, endpointOf]

lemma collectEndpoints_uids_nodup (node : String) (allPods : Bool) (scan : Scan) :
    ((collectEndpoints runtime node allPods scan).map podUIDOf).Nodup := by
  rw [collectEndpoints, ((runtime.sortSlice_perm _ _).map podUIDOf).nodup_iff, List.map_map]
  have identity : (podUIDOf ∘ fun uid =>
      endpointOf runtime node scan uid ((allHolders runtime scan).getD uid
        { pid := "", devices := ∅ })) = id :=
    funext fun uid => podUIDOf_endpointOf runtime node scan uid _
  rw [identity, List.map_id]
  exact ((runtime.range_perm _ _).nodup_iff.2 (GoMap.keys_nodup _)).filter _

end

end Unifabric.EbpfFlow
