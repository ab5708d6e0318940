import ChunkBridge.Compile.Scripted
import ChunkBridge.Plugin.Bundler
import ChunkBridge.Proofs.Ledger.Allocation
import ChunkBridge.Proofs.Ledger.Calls
import ChunkBridge.Proofs.Exports.Preparation
import ChunkBridge.Proofs.Chunk.Stages
import ChunkBridge.Proofs.Exports.Found
import ChunkBridge.Proofs.Exports.Clause
import ChunkBridge.Proofs.Chunk.Preparation
import ChunkBridge.Proofs.Edit.Untouched
import ChunkBridge.Proofs.Script.Positions
import ChunkBridge.Proofs.Chunk.Directives
import ChunkBridge.Proofs.Chunk.HashbangLine
import ChunkBridge.Proofs.Module.Preparation
import ChunkBridge.Proofs.Build.Rendering
import ChunkBridge.Proofs.Plugin.Runs
import ChunkBridge.Proofs.Plugin.HashbangLines
import ChunkBridge.Proofs.Build.Externs
import ChunkBridge.Proofs.Chunk.Settled
import ChunkBridge.Proofs.Build.Independence
import ChunkBridge.Proofs.Exports.LocalNames
import ChunkBridge.Proofs.Build.ExternsFiles
import ChunkBridge.Proofs.Exports.DefaultExport
import ChunkBridge.Proofs.Ledger.Extension
import ChunkBridge.Proofs.Ledger.Scopes
import ChunkBridge.Proofs.Build.Records
import ChunkBridge.Proofs.Plugin.Frame
import ChunkBridge.Proofs.Plugin.ExportRecords
import ChunkBridge.Proofs.Build.Numbering
import ChunkBridge.Proofs.Plugin.Restarts
import ChunkBridge.Proofs.Edit.Disjoint
import ChunkBridge.Proofs.Exports.Ranges
import ChunkBridge.Proofs.Chunk.Rewriting
import ChunkBridge.Proofs.Chunk.Ranges
import ChunkBridge.Proofs.Script.Targets
import ChunkBridge.Proofs.Script.Stores
import ChunkBridge.Proofs.Script.Execution
import ChunkBridge.Proofs.Script.Names
import ChunkBridge.Proofs.Exports.Assignments
import ChunkBridge.Proofs.Exports.OwnProperties
import ChunkBridge.Proofs.Exports.Values
import ChunkBridge.Proofs.Exports.Freshness
import ChunkBridge.Proofs.Ledger.Search
import ChunkBridge.Proofs.Ledger.Shortest
import ChunkBridge.Proofs.Module.GivenUp
import ChunkBridge.Proofs.Build.Refusal
import ChunkBridge.Proofs.Store.Computations
import ChunkBridge.Proofs.Module.LineNumbers
import ChunkBridge.Proofs.Build.Settings
import ChunkBridge.Proofs.Config.CommandLine
import ChunkBridge.Proofs.Config.Members
import ChunkBridge.Proofs.Filter.Moves
import ChunkBridge.Proofs.Filter.Progress
import ChunkBridge.Proofs.Filter.Shift
import ChunkBridge.Proofs.Filter.Names
import ChunkBridge.Proofs.Filter.Anchoring
import ChunkBridge.Proofs.Exports.ReadBack
