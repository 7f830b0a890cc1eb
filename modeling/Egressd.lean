import Egressd.FiniteMap
import Egressd.PartialRuns
import Egressd.Histories
import Egressd.Rises
import Egressd.KeySort
import Egressd.FirstLeast
import Egressd.GoRuntime
import Egressd.Netaddr
import Egressd.NetfilterConntrack
import Egressd.CiliumConntrack
import Egressd.KernelHZ
import Egressd.CollectorModel
import Egressd.CollectorSteps
import Egressd.CollectorHandler
import Egressd.CollectorRuns
import Egressd.CollectorAccounting
import Egressd.CollectorSightings
import Egressd.CollectorCleanup
import Egressd.CollectorDelta
import Egressd.HandlerWrites
import Egressd.GenericsCache
import Egressd.DNSResolutions
import Egressd.CollectorReread
import Egressd.CollectorMirror
import Egressd.CollectorOrder
import Egressd.KubeObjects
import Egressd.PodByIPCache
import Egressd.PodIndexRuns
import Egressd.RunningPodsCache
import Egressd.NodeCaches
import Egressd.ExporterModel
import Egressd.ExporterResults
import Egressd.ExporterAttribution
import Egressd.FanIn
import Egressd.ExporterDestination
import Egressd.Pipeline
import Egressd.ExportRuns
import Egressd.HTTPSink
import Egressd.PromSink
import Egressd.PublicDestinations
import Egressd.PacketFilter
import Egressd.DNSRecords
import Egressd.ProtoWire
import Egressd.MetricsPb
import Egressd.Fetches
import Egressd.Deliveries
import Egressd.UnreadableNames
import Egressd.CacheHistory
import Egressd.ExporterRounds
import Egressd.InPlaceFilter
import Egressd.TrackedPods
import Egressd.BoundedChannel
import Egressd.DNSTracer
import Egressd.CollectorProcess
import Egressd.CollectorTable
import Egressd.SinkPayloads
import Egressd.ExportAccounting
import Egressd.EndToEnd
import Egressd.NameProvenance
import Egressd.PodProvenance
import Egressd.BinaryRounding
import Egressd.PromCounters
import Egressd.CollectorMemory
import Egressd.UniqueSeries
import Egressd.CriticalSections
import Egressd.CollectorMutex
import Egressd.KernelClock
