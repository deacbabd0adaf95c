import RemotePrinter.Program
import RemotePrinter.Runs
import RemotePrinter.Streams
import RemotePrinter.Threads
import RemotePrinter.Fifo
import RemotePrinter.Handles
import RemotePrinter.Winspool
import RemotePrinter.Service
import RemotePrinter.ServerHandlers
import RemotePrinter.Detours
import RemotePrinter.World
import RemotePrinter.Courses
import RemotePrinter.Steps
import RemotePrinter.Routing
import RemotePrinter.HandleSpaces
import RemotePrinter.Orphans
import RemotePrinter.Sessions
import RemotePrinter.HookTable
import RemotePrinter.JobTrace
import RemotePrinter.HostThreads
import RemotePrinter.TrackedHandles
import RemotePrinter.SharedConnection
import RemotePrinter.BinaryProtocol
import RemotePrinter.ThriftTransport
import RemotePrinter.ThriftClient
import RemotePrinter.Sending
import RemotePrinter.Receiving
import RemotePrinter.Escapes
import RemotePrinter.ClientRuns
import RemotePrinter.CleanConnections
import RemotePrinter.DeadConnections
import RemotePrinter.Executions
import RemotePrinter.HandleWidths
import RemotePrinter.TextMode
import RemotePrinter.UsbHandlers
import RemotePrinter.PrintFiles
import RemotePrinter.RegistryTest
import RemotePrinter.AnsiNames
import RemotePrinter.ByteMemory
import RemotePrinter.PrinterInfo
import RemotePrinter.Queries
import RemotePrinter.QueryDetours
import RemotePrinter.QueryWorld
import RemotePrinter.QueryRuns
import RemotePrinter.OutBuffers
import RemotePrinter.PrinterQueries
import RemotePrinter.CallerBuffers
import RemotePrinter.Relocation
import RemotePrinter.ReturnedPrinters
import RemotePrinter.ReturnedEntries
import RemotePrinter.Received
import RemotePrinter.Terminated
import RemotePrinter.ForwardedCalls
import RemotePrinter.WideStrings
import RemotePrinter.ForwardedArguments
import RemotePrinter.PrivateSettings
import RemotePrinter.ForwardedWrites
import RemotePrinter.TempFiles
import RemotePrinter.UsbReads
import RemotePrinter.StaleBytes
import RemotePrinter.PartialRuns
import RemotePrinter.HookSessions
import RemotePrinter.PreloadedDlls
import RemotePrinter.Ledger
import RemotePrinter.Injection
import RemotePrinter.ProcessNames
import RemotePrinter.ServerThreads
import RemotePrinter.RemainingHandlers
import RemotePrinter.NullCalls
import RemotePrinter.Decoding
import RemotePrinter.WireValues
import RemotePrinter.Codecs
import RemotePrinter.SelfService
import RemotePrinter.Processor
import RemotePrinter.RoundTrips
import RemotePrinter.TaskRuns
import RemotePrinter.TaskSessions
import RemotePrinter.RemoteCalls
import RemotePrinter.Lanes
import RemotePrinter.ServerConnections
import RemotePrinter.LosslessConnections
import RemotePrinter.AddressSpace
import RemotePrinter.ControlFlow
import RemotePrinter.Operands
import RemotePrinter.HookMemory
import RemotePrinter.Hooks
import RemotePrinter.SlotPlaces
import RemotePrinter.TrampolineFlow
