import WordMachine.Text.Split
import WordMachine.Trace.Recorder

/-!
# Trace sheets

The tables of a recorder as a text: a line for each run, followed by a line for each of
its steps and faults. Fields are separated by tabs, and characters that would break a
line are escaped.
-/

namespace WordMachine.Sheet

/-! ## Fields -/

/-- A character inside a field. -/
def escapeChar (c : Char) : List Char :=
  if c = '\\' then ['\\', '\\']
  else if c = '\t' then ['\\', 't']
  else if c = '\n' then ['\\', 'n']
  else [c]

def escape (field : String) : String :=
  String.ofList (field.toList.flatMap escapeChar)

def unescapeChars : List Char → List Char
  | '\\' :: '\\' :: rest => '\\' :: unescapeChars rest
  | '\\' :: 't' :: rest => '\t' :: unescapeChars rest
  | '\\' :: 'n' :: rest => '\n' :: unescapeChars rest
  | c :: rest => c :: unescapeChars rest
  | [] => []

def line (fields : List String) : String :=
  "\t".intercalate (fields.map escape) ++ "\n"

/-- The fields of a line without its end. -/
def fields (cs : List Char) : List String :=
  (Text.splitAt '\t' cs).map fun field => String.ofList (unescapeChars field)

/-! ## Writing -/

/-- The first line of a sheet. -/
def title : String := "word machine trace"

def stepLine (row : TraceRow) : String :=
  line ["step", toString row.sequence.toNat, toString row.pc.toNat, row.opcode, row.instruction,
    toString row.next.toNat, row.registers, toString row.depth]

def faultLine (row : FaultRow) : String :=
  line ["fault", toString row.pc.toNat, row.instruction, row.kind, row.detail]

/-- The line of a run. One that was not finished has no result. -/
def runLine (record : RunRecord) : String :=
  line (["run", record.program] ++
    match record.result, record.total with
    | some result, some total => [result, toString total.toNat]
    | _, _ => [])

def runLines (record : RunRecord) : List String :=
  runLine record :: record.steps.values.map stepLine ++ record.faults.toList.map faultLine

def write (runs : Array RunRecord) : String :=
  String.join (line [title] :: runs.toList.flatMap runLines)

/-! ## Reading -/

def run? : List String → Option RunRecord
  | [program] => some (.begun program)
  | [program, result, total] => do
    return { RunRecord.begun program with result := result, total := (← total.toNat?).toUInt64 }
  | _ => none

def step? : List String → Option TraceRow
  | [sequence, pc, opcode, instruction, next, registers, depth] => do
    return ⟨(← sequence.toNat?).toUInt64, (← pc.toNat?).toUInt32, opcode, instruction,
      (← next.toNat?).toUInt32, registers, ← depth.toNat?⟩
  | _ => none

def fault? : List String → Option FaultRow
  | [pc, instruction, kind, detail] => do
    return ⟨(← pc.toNat?).toUInt32, instruction, kind, detail⟩
  | _ => none

/-- The runs with one more line read. Steps and faults belong to the last run. -/
def readLine (runs : Array RunRecord) : List String → Option (Array RunRecord)
  | "run" :: rest => do return runs.push (← run? rest)
  | "step" :: rest => do
    let row ← step? rest
    return runs.modify (runs.size - 1) fun record =>
      { record with steps := record.steps.insert row.sequence.toNat row }
  | "fault" :: rest => do
    let row ← fault? rest
    return runs.modify (runs.size - 1) fun record =>
      { record with faults := record.faults.push row }
  | _ => none

def read? (text : String) : Option (Array RunRecord) :=
  match (Text.splitAt '\n' text.toList).map fields with
  | first :: rest =>
    if first = [title] then (rest.filter (· ≠ [""])).foldlM readLine #[] else none
  | [] => none

end WordMachine.Sheet
