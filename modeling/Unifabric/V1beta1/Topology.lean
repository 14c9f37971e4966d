import Unifabric.V1beta1.Types

/-!
# The Topology resource

The status of a Topology: a forest of domains and the Nodes grouped by their
path through it.
-/

namespace Unifabric.V1beta1

/-- A domain of the forest; without a parent the text is empty. -/
structure TopologyDomain where
  name : String
  tier : Int
  parent : String
  switchMember : List String
  deriving DecidableEq, Repr

/-- The Nodes with one path, which runs from the top tier to tier one. -/
structure TopologyNodeGroup where
  name : String
  nodes : List String
  switchDomainPath : List String
  deriving DecidableEq, Repr

/-- The status of a Topology. -/
structure TopologyStatus where
  domains : List TopologyDomain
  nodes : List TopologyNodeGroup
  deriving DecidableEq, Repr

end Unifabric.V1beta1
