import Floid.Pmm.MaskRuns
import Floid.Pmm.IdleRuns
import Floid.Pmm.WakeRuns
import Floid.Mmu.SessionEnd
import Floid.Mmu.UmpMemory
import Floid.Mmu.Activation
import Floid.Engine.EngineRuns
import Floid.Ump.ReferenceRuns
import Floid.Render.Lifetime
import Floid.Render.SuspendRuns
import Floid.Wifi.CcmpConformance
import Floid.Wifi.DefragRuns
import Floid.Wifi.PacketNumberRuns
import Floid.Wifi.XmitQueueRuns
import Floid.Wifi.ReorderRuns
import Floid.Wifi.AggregationLayout
import Floid.Ump.SecureIds
import Floid.Wifi.EfuseWriteRuns
import Floid.Wifi.Amsdu
import Floid.Wifi.ClientLinkRuns
import Floid.Wifi.CmdThreadRuns
import Floid.Wifi.UsbReceiveExact
import Floid.Wifi.ScanTableRuns
import Floid.Mmu.AllocateAtomic
import Floid.Mmu.L2Invalidation
import Floid.Wifi.BlockAckRuns
import Floid.Wifi.ApProtectionRuns
import Floid.Wifi.MgntPools
import Floid.Wifi.GoNegotiationRuns
import Floid.Wifi.PowerSave
import Floid.Wifi.ApElements
import Floid.Wifi.RefusedRequests
import Floid.Wifi.AssocRequestReads
import Floid.Descriptors.GrowthBounds
import Floid.Buddy.BlockIndices
import Floid.Buddy.Carving
import Floid.Buddy.Overlap
import Floid.Core.Initialize
import Floid.Core.SerialisedInfo
import Floid.Mmu.DumpPageTable
import Floid.Render.UtilizationRuns
import Floid.Wifi.SecurityElements
import Floid.Wifi.Checksum
import Floid.Wifi.MichaelStandard
import Floid.Pmm.Purge
import Floid.Ump.AllOrNothing
import Floid.Ump.CacheFlush
import Floid.Engine.PageList
import Floid.Render.GpuUtilization
