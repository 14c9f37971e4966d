import Unifabric.Discovery.TierDistance
import Unifabric.EbpfFlow.AddressResolution
import Unifabric.EbpfFlow.BuildId
import Unifabric.EbpfFlow.Cleanup
import Unifabric.EbpfFlow.Convergence
import Unifabric.EbpfFlow.FlowRecount
import Unifabric.EbpfFlow.InfoIndex
import Unifabric.EbpfFlow.Interface
import Unifabric.EbpfFlow.OffsetCache
import Unifabric.EbpfFlow.PeerResolution
import Unifabric.EbpfFlow.SinkWorker
import Unifabric.EbpfFlow.UpdateLoop
import Unifabric.FabricNodeAgent.Lldp
import Unifabric.FabricNodeAgent.RdmaPods
import Unifabric.Sflow.Accounting
import Unifabric.Sflow.FlowLog
import Unifabric.Sflow.SampledHeader
import Unifabric.Sflow.Truncation
import Unifabric.SwitchAgent.BroadcastSafety
import Unifabric.SwitchTopology.HostLabels
import Unifabric.SwitchTopology.InputPredicates
import Unifabric.SwitchTopology.InputsOrder
import Unifabric.SwitchTopology.Ownership
import Unifabric.SwitchTopology.Replan
import Unifabric.SwitchTopology.Reset
import Unifabric.SwitchTopology.SnapshotNeighbors
import Unifabric.SwitchTopology.SnapshotRuns
import Unifabric.SwitchTopology.SubscriptionSync
import Unifabric.TopologyStatus.Controller
