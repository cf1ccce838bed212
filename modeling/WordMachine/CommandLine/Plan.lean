import WordMachine.Debug.Assignment
import WordMachine.Debug.Debugger
import WordMachine.Settings

/-!
# Plans

What the debug settings ask for, read and checked before anything is opened:
breakpoints with their condition, registers to set and words to patch.
-/

namespace WordMachine.CommandLine

/-- Debug settings that were read. -/
structure Plan where
  condition : Option Condition
  breakpoints : List UInt64
  assignments : List Assignment
  patches : List Patch
deriving DecidableEq, Repr

/-- Why debug settings cannot be read. -/
inductive PlanError where
  | condition (error : ConditionError)
  | breakpoint (text : String)
  | set (error : EditError)
  | patch (error : EditError)
deriving DecidableEq, Repr

def PlanError.message : PlanError → String
  | condition error => "break condition: " ++ error.message
  | breakpoint text => "invalid breakpoint address " ++ Quoted.text text
  | set error => "set: " ++ error.message
  | patch error => "patch: " ++ error.message

namespace Plan

/-- The condition of all breakpoints; there is none in an empty text. -/
def readCondition (text : String) : Except PlanError (Option Condition) :=
  if text = "" then .ok none
  else
    match Condition.parse text with
    | .ok condition => .ok (some condition)
    | .error error => .error (.condition error)

/-- The address of a breakpoint, which must lie in memory. -/
def readBreakpoint (text : String) : Except PlanError UInt64 :=
  match Numeral.read text with
  | .number address =>
    if address.toNat < addressSpace then .ok address else .error (.breakpoint text)
  | _ => .error (.breakpoint text)

def readAssignment (text : String) : Except PlanError Assignment :=
  match Assignment.parse text with
  | .ok assignment => .ok assignment
  | .error error => .error (.set error)

def readPatch (text : String) : Except PlanError Patch :=
  match Patch.parse text with
  | .ok patch => .ok patch
  | .error error => .error (.patch error)

/-- Reads debug settings. The first thing that is wrong counts, conditions before
    breakpoints before registers before patches. -/
def ofSettings (debug : DebugSettings) : Except PlanError Plan := do
  let condition ← readCondition debug.condition
  let breakpoints ← debug.breakpoints.mapM readBreakpoint
  let assignments ← debug.set.mapM readAssignment
  let patches ← debug.patch.mapM readPatch
  return ⟨condition, breakpoints, assignments, patches⟩

def patch (plan : Plan) (machine : Machine) : Machine :=
  plan.patches.foldl (fun machine patch => machine.writeMemory patch.address patch.words) machine

/-- The machine with registers set, or the first assignment that is refused. -/
def assign (machine : Machine) : List Assignment → Except Assignment Machine
  | [] => .ok machine
  | assignment :: rest =>
    match machine.setRegister? assignment.name assignment.value with
    | none => .error assignment
    | some machine => assign machine rest

def setBreakpoint (condition : Option Condition) (debugger : Debugger) (address : UInt64) :
    Debugger :=
  (debugger.set? address condition).getD debugger

/-- The debugger that the run consults, if there are breakpoints. -/
def debugger? (plan : Plan) : Option Debugger :=
  if plan.breakpoints.isEmpty then none
  else some (plan.breakpoints.foldl (setBreakpoint plan.condition) .empty)

end Plan

end WordMachine.CommandLine
