import Unifabric.Lib.GoMap

/-!
# Objects of the API

The fields of the custom resources and of the Kubernetes Node which the
controllers read or write.  An optional enumeration is `none` where the source
has the empty string.
-/

namespace Unifabric.V1beta1

open Lib

/-- The labels or annotations of an object. -/
abbrev Labels := GoMap String String

/-- The fabric a switch belongs to. -/
inductive SwitchRole where
  | scaleOut
  | scaleUp
  | storage
  deriving DecidableEq, Repr

/-- The text of a role. -/
def SwitchRole.text : SwitchRole → String
  | .scaleOut => "ScaleOut"
  | .scaleUp => "ScaleUp"
  | .storage => "Storage"

/-- The role the agent reports for a node. -/
inductive NodeRole where
  | gpu
  | storage
  deriving DecidableEq, Repr

/-- What a switch neighbour resolves to. -/
inductive RemoteSystemType where
  | kubernetesNode
  | switch
  deriving DecidableEq, Repr

/-- The text of a remote system type. -/
def RemoteSystemType.text : RemoteSystemType → String
  | .kubernetesNode => "KubernetesNode"
  | .switch => "Switch"

/-- The annotation with the manual neighbours of a switch. -/
def switchNeighborsAnnotation : String := "unifabric.io/switch-neighbors"

/-- The label with the domain of a switch. -/
def topologyDomainLabel : String := "unifabric.io/domain"

/-- The LLDP neighbour of a NIC. -/
structure LldpNeighbor where
  hostname : String
  port : String
  deriving DecidableEq, Repr

/-- A NIC of a node. -/
structure NicInfo where
  state : String
  lldpNeighbor : LldpNeighbor
  deriving DecidableEq, Repr

/-- A FabricNode with the status fields discovery reads. -/
structure FabricNode where
  name : String
  nodeRole : Option NodeRole
  scaleOutNics : List NicInfo
  storageNics : List NicInfo
  deriving DecidableEq, Repr

/-- One neighbour in the status of a switch. -/
structure SwitchNeighbor where
  remoteSystemType : Option RemoteSystemType
  remoteSystemName : String
  linkCount : Int32
  deriving DecidableEq, Repr

/-- A Switch. -/
structure Switch where
  name : String
  labels : Labels
  annotations : Labels
  role : Option SwitchRole
  hostname : String
  lldpNeighbors : List SwitchNeighbor

/-- A Kubernetes Node. -/
structure Node where
  name : String
  labels : Labels

end Unifabric.V1beta1
