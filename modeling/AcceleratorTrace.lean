import AcceleratorTrace.Batch
import AcceleratorTrace.Chip
import AcceleratorTrace.Clock
import AcceleratorTrace.CommandLine
import AcceleratorTrace.CommandLine.Arguments
import AcceleratorTrace.Database
import AcceleratorTrace.Decoder
import AcceleratorTrace.Descriptor
import AcceleratorTrace.Descriptor.Fault
import AcceleratorTrace.Descriptor.Value
import AcceleratorTrace.Dispatch
import AcceleratorTrace.Engine
import AcceleratorTrace.FileSet
import AcceleratorTrace.FileTree
import AcceleratorTrace.FileTree.DatabaseName
import AcceleratorTrace.FileTree.Databases
import AcceleratorTrace.FileTree.Locks
import AcceleratorTrace.FileTree.SideFiles
import AcceleratorTrace.FileTree.Stores
import AcceleratorTrace.Json.Number
import AcceleratorTrace.Json.Skip
import AcceleratorTrace.Json.Text
import AcceleratorTrace.Layout
import AcceleratorTrace.Log
import AcceleratorTrace.Main
import AcceleratorTrace.Number.Binary64
import AcceleratorTrace.Number.Clamp
import AcceleratorTrace.Number.Digits
import AcceleratorTrace.Number.Shortest
import AcceleratorTrace.Number.Text
import AcceleratorTrace.Pairing
import AcceleratorTrace.Path
import AcceleratorTrace.PerTable
import AcceleratorTrace.Proofs.Attempts
import AcceleratorTrace.Proofs.BatchContents
import AcceleratorTrace.Proofs.BatchPrefix
import AcceleratorTrace.Proofs.ClockArithmetic
import AcceleratorTrace.Proofs.DecoderRegistry
import AcceleratorTrace.Proofs.DescriptorLoading
import AcceleratorTrace.Proofs.DescriptorText
import AcceleratorTrace.Proofs.DescriptorValues
import AcceleratorTrace.Proofs.DevicePairing
import AcceleratorTrace.Proofs.Discovery
import AcceleratorTrace.Proofs.DispatchTables
import AcceleratorTrace.Proofs.DoubleRange
import AcceleratorTrace.Proofs.DoubleRounding
import AcceleratorTrace.Proofs.EngineTables
import AcceleratorTrace.Proofs.ErrorBudget
import AcceleratorTrace.Proofs.FailedTask
import AcceleratorTrace.Proofs.FieldBytes
import AcceleratorTrace.Proofs.FileContents
import AcceleratorTrace.Proofs.FirstBadFile
import AcceleratorTrace.Proofs.FirstError
import AcceleratorTrace.Proofs.Independence
import AcceleratorTrace.Proofs.Ingestion
import AcceleratorTrace.Proofs.JsonGrammar
import AcceleratorTrace.Proofs.JsonNumbers
import AcceleratorTrace.Proofs.LayoutTiling
import AcceleratorTrace.Proofs.LosslessRows
import AcceleratorTrace.Proofs.NameGrammar
import AcceleratorTrace.Proofs.PackedFields
import AcceleratorTrace.Proofs.PairedPositions
import AcceleratorTrace.Proofs.PairingBalance
import AcceleratorTrace.Proofs.RecordFormat
import AcceleratorTrace.Proofs.RowColumns
import AcceleratorTrace.Proofs.RunHistory
import AcceleratorTrace.Proofs.Schedules
import AcceleratorTrace.Proofs.SliceBoundaries
import AcceleratorTrace.Proofs.SmallDoubles
import AcceleratorTrace.Proofs.SucceededTask
import AcceleratorTrace.Proofs.TableSchema
import AcceleratorTrace.Proofs.TableWrite
import AcceleratorTrace.Proofs.TaskDuration
import AcceleratorTrace.Proofs.TaskPhases
import AcceleratorTrace.Proofs.TaskWrites
import AcceleratorTrace.Proofs.Transaction
import AcceleratorTrace.Proofs.WindowWarnings
import AcceleratorTrace.Record
import AcceleratorTrace.Record.AiCpu
import AcceleratorTrace.Record.BlockLog
import AcceleratorTrace.Record.Hccl
import AcceleratorTrace.Record.NpuMem
import AcceleratorTrace.Record.Qos
import AcceleratorTrace.Record.StarsLog
import AcceleratorTrace.Record.TaskSpan
import AcceleratorTrace.Row
import AcceleratorTrace.Run
import AcceleratorTrace.Run.Budget
import AcceleratorTrace.Run.Config
import AcceleratorTrace.Run.Pool
import AcceleratorTrace.Run.Report
import AcceleratorTrace.Run.Task
import AcceleratorTrace.Script
import AcceleratorTrace.Sink
import AcceleratorTrace.Slice
import AcceleratorTrace.SliceName
import AcceleratorTrace.Store
import AcceleratorTrace.Table
import AcceleratorTrace.Text.Control
import AcceleratorTrace.Text.Hidden
import AcceleratorTrace.Text.Quoted
import AcceleratorTrace.Text.Utf8
