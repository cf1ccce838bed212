import Std.Data.TreeMap
import WordMachine.Machine.Run

/-!
# Recorded traces

A recorder keeps a table of runs. Each run has its steps, at most one for each
sequence number, and its faults. Steps are buffered and stored a batch at a time, all
of a batch or none of it. The first failure of a run is kept, and nothing more is
stored until another run begins.
-/

namespace WordMachine

/-- One stored step. -/
structure TraceRow where
  sequence : UInt64
  pc : UInt32
  opcode : String
  instruction : String
  next : UInt32
  registers : String
  depth : Nat
deriving DecidableEq, Repr

/-- The row of an event. -/
def TraceRow.ofEvent (event : StepEvent) : TraceRow where
  sequence := event.sequence
  pc := event.instruction.address
  opcode := Opcode.nameOf event.instruction.code
  instruction := event.instruction.text
  next := event.next
  registers := event.registers.text
  depth := event.depth

/-- One stored fault. -/
structure FaultRow where
  pc : UInt32
  instruction : String
  kind : String
  detail : String
deriving DecidableEq, Repr

/-- The row of a fault. -/
def FaultRow.ofFault (fault : Fault) : FaultRow where
  pc := fault.pc
  instruction := fault.instruction.text
  kind := match fault.kind? with
    | some kind => kind.name
    | none => "unknown"
  detail := fault.message

/-- All that is stored of a run. -/
structure RunRecord where
  program : String
  /-- The result, once the run was finished. -/
  result : Option String
  /-- The final count of instructions, once the run was finished. -/
  total : Option UInt64
  /-- The steps by sequence number. -/
  steps : Std.TreeMap Nat TraceRow
  /-- The faults in the order in which they were stored. -/
  faults : Array FaultRow

/-- A run of which nothing is known but the program. -/
def RunRecord.begun (program : String) : RunRecord :=
  ⟨program, none, none, ∅, #[]⟩

/-- Why a trace could not be written or read. -/
inductive TraceError where
  /-- A run could not be added to the table. -/
  | recording
  /-- A batch could not be started. -/
  | batch
  /-- A step could not be stored. -/
  | step (sequence : UInt64)
  /-- The end of a run could not be stored. -/
  | finishing
  /-- The tables could not be read, or a fault not stored. -/
  | tables
  /-- There is no such run. -/
  | noRun (id : String)
deriving DecidableEq, Repr

/-- The wording of a trace error, without what the tables add to it. -/
def TraceError.message : TraceError → String
  | recording => "recording run"
  | batch => "trace batch"
  | step sequence => "trace step " ++ toString sequence.toNat
  | finishing => "finishing run"
  | tables => "sql"
  | noRun id => "run " ++ id ++ " not found"

/-- The tables, the run being recorded, and the steps not yet stored. -/
structure Recorder where
  runs : Array RunRecord
  /-- How many steps make a batch. -/
  batch : Nat
  /-- The place of the run being recorded. -/
  current : Option Nat
  buffered : Array TraceRow
  /-- The failure that keeps the current run from being recorded further. -/
  failure : Option TraceError
  /-- Nothing can be read or written any more. -/
  closed : Bool

namespace Recorder

/-- The batch size when none is asked for. -/
abbrev defaultBatch : Nat := 512

def batchSize (batch : Int) : Nat :=
  if batch ≤ 0 then defaultBatch else batch.toNat

def opened (runs : Array RunRecord) (batch : Int) : Recorder :=
  ⟨runs, batchSize batch, none, #[], none, false⟩

/-- The most steps that there is room for in a batch. -/
abbrev batchLimit : Nat := 3518437208883

/-- A recorder on existing tables, if there is room for a batch. -/
def open? (runs : Array RunRecord) (batch : Int) : Option Recorder :=
  if batchLimit < batchSize batch then none else some (opened runs batch)

/-- The tables hold whole numbers below this. -/
abbrev integerLimit : Nat := 0x8000000000000000

/-- The steps with one more, unless its number is taken or too large. -/
def storeStep (steps : Std.TreeMap Nat TraceRow) (row : TraceRow) :
    Except TraceError (Std.TreeMap Nat TraceRow) :=
  let key := row.sequence.toNat
  if key < integerLimit ∧ ¬ steps.contains key then .ok (steps.insert key row)
  else .error (.step row.sequence)

/-- The steps with all of a batch, or the reason why the batch cannot be stored. -/
def storeBatch (steps : Std.TreeMap Nat TraceRow) (rows : List TraceRow) :
    Except TraceError (Std.TreeMap Nat TraceRow) :=
  rows.foldlM storeStep steps

/-- Stores the buffered steps under the current run. On failure they stay buffered and
    the tables stay as they were. -/
def flush (recorder : Recorder) : Except TraceError Recorder :=
  if recorder.buffered.isEmpty then .ok recorder
  else if recorder.closed then .error .batch
  else
    match recorder.current with
    | none => .error .batch
    | some place =>
      match recorder.runs[place]? with
      | none => .error .batch
      | some record =>
        match storeBatch record.steps recorder.buffered.toList with
        | .error error => .error error
        | .ok steps =>
          .ok { recorder with
            runs := recorder.runs.setIfInBounds place { record with steps }
            buffered := #[] }

/-- Stores the buffered steps, and keeps the failure if there is one. -/
def flushKeeping (recorder : Recorder) : Recorder :=
  match recorder.flush with
  | .ok recorder => recorder
  | .error error => { recorder with failure := some error }

/-- Adds a run to the table and makes it the current one. Buffered steps stay buffered. -/
def begin (recorder : Recorder) (program : String) : Except TraceError Recorder :=
  if recorder.closed then .error .recording
  else .ok { recorder with
    runs := recorder.runs.push (.begun program)
    current := some recorder.runs.size
    failure := none }

/-- Whether the current run is being recorded. -/
def isRecording (recorder : Recorder) : Bool :=
  recorder.current.isSome && recorder.failure.isNone

/-- Records a step; a full batch is stored. -/
def onStep (recorder : Recorder) (event : StepEvent) : Recorder :=
  if recorder.isRecording then
    let recorder := { recorder with buffered := recorder.buffered.push (.ofEvent event) }
    if recorder.batch ≤ recorder.buffered.size then recorder.flushKeeping else recorder
  else recorder

/-- Adds a fault to the current run. -/
def storeFault (recorder : Recorder) (row : FaultRow) : Recorder :=
  if recorder.closed then { recorder with failure := some .tables }
  else
    match recorder.current with
    | none => recorder
    | some place =>
      { recorder with
        runs := recorder.runs.modify place fun record =>
          { record with faults := record.faults.push row } }

/-- Records a fault, after the steps before it are stored. -/
def onFault (recorder : Recorder) (fault : Fault) : Recorder :=
  if recorder.isRecording then
    let recorder := recorder.flushKeeping
    if recorder.failure.isSome then recorder else recorder.storeFault (.ofFault fault)
  else recorder

def notify (recorder : Recorder) : Notice → Recorder
  | .stepped event => recorder.onStep event
  | .faulted fault => recorder.onFault fault

/-- Stores the buffered steps and the result of the current run. -/
def finish (recorder : Recorder) (result : RunResult) (total : UInt64) :
    Except TraceError Unit × Recorder :=
  match recorder.current with
  | none => (.ok (), recorder)
  | some place =>
    let recorder := if recorder.failure.isSome then recorder else recorder.flushKeeping
    match recorder.failure with
    | some error => (.error error, recorder)
    | none =>
      if recorder.closed ∨ integerLimit ≤ total.toNat then (.error .finishing, recorder)
      else (.ok (), { recorder with
        runs := recorder.runs.modify place fun record =>
          { record with result := some result.name, total := some total } })

def close (recorder : Recorder) : Except TraceError Unit × Recorder :=
  if recorder.isRecording then
    match recorder.flush with
    | .ok recorder => (.ok (), { recorder with closed := true })
    | .error error => (.error error, { recorder with closed := true })
  else (.ok (), { recorder with closed := true })

/-- A run by its place, as long as the tables can be read. -/
def run? (recorder : Recorder) (place : Option Nat) : Except TraceError (Option RunRecord) :=
  if recorder.closed then .error .tables
  else .ok (place.bind fun place => recorder.runs[place]?)

def counts (recorder : Recorder) (place : Option Nat) : Except TraceError (Nat × Nat) := do
  match ← recorder.run? place with
  | none => return (0, 0)
  | some record => return (record.steps.size, record.faults.size)

/-- The result stored of a run; empty before the run was finished. -/
def resultOf (recorder : Recorder) (place : Option Nat) (id : String) :
    Except TraceError String := do
  match ← recorder.run? place with
  | none => .error (.noRun id)
  | some record => return record.result.getD ""

end Recorder

end WordMachine
