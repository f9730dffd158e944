import HiDumper.ForStd.Interleave
import HiDumper.ForStd.Layering
import HiDumper.ForStd.Runs
import HiDumper.Native.TaskControl
import HiDumper.Spec.TaskData
import HiDumper.Native.TaskTopo
import HiDumper.Spec.TopoCache
import HiDumper.Spec.ExecuteTask
import HiDumper.Native.DumpManagerService
import HiDumper.Spec.RequestLimit
import HiDumper.ForStd.Forest
import HiDumper.Native.ConfigData
import HiDumper.Native.DumpUtils
import HiDumper.Native.ConfigUtils
import HiDumper.Spec.ConfigExpansion
import HiDumper.Spec.ConfigHandlers
import HiDumper.Spec.ConfigAccess
import HiDumper.Spec.ConfigSections
import HiDumper.Native.CmdOptions
import HiDumper.Native.DumpImplement
import HiDumper.Spec.DumpPermission
import HiDumper.Spec.TmpFolders
import HiDumper.Native.RawParam
import HiDumper.Spec.ArgTransfer
import HiDumper.Native.MemoryInterval
import HiDumper.Spec.StopRequests
import HiDumper.Spec.Contributions
import HiDumper.Spec.PidSections
import HiDumper.Native.MemoryUsage
import HiDumper.Native.MemoryInfo
import HiDumper.Spec.MemoryUsage
import HiDumper.Spec.MemorySessions
import HiDumper.Native.DumpMain
import HiDumper.Spec.OptionReads
import HiDumper.Spec.ZipTitles
import HiDumper.Spec.OptionRoutes
import HiDumper.Spec.OptionValues
import HiDumper.ForStd.Loops
import HiDumper.Native.Executors
import HiDumper.Native.DumpDatas
import HiDumper.Spec.DumpedLines
import HiDumper.Spec.LoopedDump
import HiDumper.Native.CmdParse
import HiDumper.Spec.CommandLine
import HiDumper.Spec.ParserTurns
import HiDumper.Spec.TwoParsers
import HiDumper.Native.DumpCpuData
import HiDumper.Spec.CpuDataParcel
import HiDumper.Native.DumpEventInfo
import HiDumper.Spec.FaultEvents
import HiDumper.ForStd.MapSums
import HiDumper.Native.SmapsMemoryInfo
import HiDumper.Native.FdLinks
import HiDumper.Spec.SmapsSummary
import HiDumper.Spec.FdPipelines
import HiDumper.Spec.RequestIds
import HiDumper.Native.InventoryCalls
import HiDumper.Spec.InventoryRaces
import HiDumper.Native.TaskRun
import HiDumper.Spec.RetryLeftovers
import HiDumper.ForStd.Padding
import HiDumper.Native.Outputs
import HiDumper.Native.ZipDump
import HiDumper.Spec.OutputTexts
import HiDumper.Native.OutFd
import HiDumper.Spec.ZipProgress
import HiDumper.Spec.OutFdClosed
import HiDumper.Native.CmdUsage
import HiDumper.Spec.DailyUsage
import HiDumper.Native.TaskVerify
import HiDumper.Spec.TaskVerify
import HiDumper.Spec.FailureCounts
import HiDumper.ForStd.Walks
import HiDumper.Spec.ListOptions
import HiDumper.Native.ConfigNodes
import HiDumper.Spec.GroupNesting
import HiDumper.Spec.TreeFlattening
import HiDumper.Spec.GroupCopies
import HiDumper.ForStd.Largest
import HiDumper.Native.TopN
import HiDumper.Spec.TopEntries
import HiDumper.Spec.TopOrders
import HiDumper.Native.OrphanVnodes
import HiDumper.Spec.OrphanCounts
import HiDumper.Native.ZipFileCleaner
import HiDumper.Spec.ZipCleaning
import HiDumper.Spec.ControlChars
import HiDumper.ForStd.LineBreaks
import HiDumper.Native.PrintMemoryInfo
import HiDumper.Spec.PrintedSamples
import HiDumper.ForStd.Scanf
import HiDumper.Native.MemoryGroups
import HiDumper.Spec.UnopenableFiles
import HiDumper.Spec.SmapsGroups
import HiDumper.Spec.MemoryRows
import HiDumper.Spec.SmapsCategories
import HiDumper.ForStd.ExactInts
import HiDumper.Native.RamInfo
import HiDumper.Spec.RamArithmetic
import HiDumper.Native.DmaInfo
import HiDumper.Spec.DmaHolders
import HiDumper.ForStd.Fields
import HiDumper.Native.ThreadInfo
import HiDumper.Spec.StartTimes
import HiDumper.Native.ZipWriter
import HiDumper.Spec.ZipContent
import HiDumper.ForStd.Slices
import HiDumper.Native.HardwareInfo
import HiDumper.Spec.HardwareGroups
import HiDumper.Spec.SplitTexts
import HiDumper.Spec.RegisterDump
import HiDumper.Native.ProcStatus
import HiDumper.Spec.ProcStatus
import HiDumper.ForStd.Delivery
import HiDumper.Native.DumpBroker
import HiDumper.Spec.BrokerCalls
import HiDumper.Native.DumpManagerCpuClient
import HiDumper.Spec.CpuConnections
import HiDumper.ForStd.DecimalTexts
import HiDumper.ForStd.Sorting
import HiDumper.Native.DumpManagerCpuService
import HiDumper.Spec.CpuReports
import HiDumper.Native.PluginHost
import HiDumper.Spec.PluginUses
import HiDumper.Native.MemoryReport
import HiDumper.Spec.MemoryReport
import HiDumper.ForStd.StreamCoding
import HiDumper.Native.ZipOutput
import HiDumper.Spec.ZipOutput
import HiDumper.Native.DumpManager
import HiDumper.Spec.SystemDump
import HiDumper.ForStd.Columns
import HiDumper.Native.DmaBufTable
import HiDumper.Spec.DmaBufTable
import HiDumper.Native.EventListDumper
import HiDumper.Spec.EventList
import HiDumper.ForStd.StorePrograms
import HiDumper.Native.TaskEntries
import HiDumper.Spec.DumpTexts
import HiDumper.Spec.DumpTasks
