import WordMachine.Main
import WordMachine.Proofs.Assignments
import WordMachine.Proofs.Attribution
import WordMachine.Proofs.Backtraces
import WordMachine.Proofs.Breakpoints
import WordMachine.Proofs.Cbor
import WordMachine.Proofs.ChannelCalls
import WordMachine.Proofs.Channels
import WordMachine.Proofs.Characters
import WordMachine.Proofs.Conditions
import WordMachine.Proofs.Decoding
import WordMachine.Proofs.Delivery
import WordMachine.Proofs.Effects
import WordMachine.Proofs.EventChain
import WordMachine.Proofs.FailedBatches
import WordMachine.Proofs.FaultConditions
import WordMachine.Proofs.Faults
import WordMachine.Proofs.Gzip
import WordMachine.Proofs.HitCounts
import WordMachine.Proofs.Images
import WordMachine.Proofs.Input
import WordMachine.Proofs.Instructions
import WordMachine.Proofs.Interruptions
import WordMachine.Proofs.LateInput
import WordMachine.Proofs.Memory
import WordMachine.Proofs.Numerals
import WordMachine.Proofs.Operands
import WordMachine.Proofs.Operations
import WordMachine.Proofs.Patches
import WordMachine.Proofs.PlainMemory
import WordMachine.Proofs.Preparations
import WordMachine.Proofs.ProgramFiles
import WordMachine.Proofs.Reachable
import WordMachine.Proofs.Recording
import WordMachine.Proofs.Replay
import WordMachine.Proofs.Resuming
import WordMachine.Proofs.Returns
import WordMachine.Proofs.Runs
import WordMachine.Proofs.SavedStates
import WordMachine.Proofs.Scripts
import WordMachine.Proofs.Slices
import WordMachine.Proofs.SnapshotFiles
import WordMachine.Proofs.Snapshots
import WordMachine.Proofs.Spelling
import WordMachine.Proofs.Streams
import WordMachine.Proofs.TraceCalls
import WordMachine.Proofs.TraceRows
import WordMachine.Proofs.UsageErrors
import WordMachine.Proofs.WellFormed
import WordMachine.Proofs.WriteFailures
import WordMachine.Status
import WordMachine.Workbench
