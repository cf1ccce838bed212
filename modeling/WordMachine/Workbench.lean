import WordMachine.Debug.Report
import WordMachine.Snapshot.File
import WordMachine.Terminal
import WordMachine.Trace.Log

/-!
# The workbench

A machine with a terminal, several debuggers, observers, and a shelf of snapshots.
Runs consult only the debugger that was the first to set a breakpoint.
-/

namespace WordMachine

/-- A machine and everything around it. -/
structure Workbench where
  machine : Machine
  console : Option Terminal
  /-- The debuggers used so far, by number. -/
  debuggers : List (Int × Debugger)
  /-- The debugger that runs consult. -/
  bound : Option Int
  observers : Observers
  shelf : List (String × Snapshot)
  /-- How the last run ended. -/
  lastEnding : Ending

namespace Workbench

def setUp (console : Option Terminal) (recorder : Option Recorder) : Workbench where
  machine := .initial
  console
  debuggers := []
  bound := none
  observers := ⟨recorder, [], #[]⟩
  shelf := []
  lastEnding := .halted

def debugger (bench : Workbench) (number : Int) : Debugger :=
  (bench.debuggers.lookup number).getD .empty

def withDebugger (debuggers : List (Int × Debugger)) (number : Int) (debugger : Debugger) :
    List (Int × Debugger) :=
  (number, debugger) :: debuggers.filter fun entry => entry.1 ≠ number

/-- Sets a breakpoint with the debugger of a number, unless the address lies past memory.
    The first debugger to do so is the one that runs consult. -/
def setBreakpoint (bench : Workbench) (number : Int) (address : UInt64)
    (condition : Option Condition) : Bool × Workbench :=
  match (bench.debugger number).set? address condition with
  | none => (false, bench)
  | some debugger =>
    (true, { bench with
      debuggers := withDebugger bench.debuggers number debugger
      bound := bench.bound.or (some number) })

def session (bench : Workbench) : Session Terminal Observers :=
  ⟨bench.machine, bench.console, bench.bound.map bench.debugger, bench.observers⟩

/-- The bench after a session. -/
def afterSession (bench : Workbench) (session : Session Terminal Observers) : Workbench :=
  { bench with
    machine := session.machine
    console := session.console
    observers := session.observer
    debuggers := match bench.bound, session.debugger with
      | some number, some debugger => withDebugger bench.debuggers number debugger
      | _, _ => bench.debuggers }

/-- Carries out instructions until one halts or faults, `more + 1` at most. Returns how
    many were tried, and the outcome of the last. -/
def step (bench : Workbench) (more : Nat) : Nat × Outcome × Workbench :=
  let (tried, outcome, session) := bench.session.stepMany Observers.notify 1 more
  (tried, outcome, bench.afterSession session)

/-- Runs, with a stop request after so many instructions, if any. There is no ending when
    the fuel is used up before. -/
def run (bench : Workbench) (fuel : Nat) (stopAfter : Option Nat) : Option Ending × Workbench :=
  match bench.session.run Observers.notify (fun done => stopAfter == some done) fuel with
  | (ending, session) =>
    (ending, { bench.afterSession session with lastEnding := ending.getD bench.lastEnding })

/-- The report of the last run, with the last hit of the debugger of a number. -/
def report (bench : Workbench) (number : Int) : String :=
  bench.lastEnding.report bench.machine (bench.debugger number).lastHit

/-- Whether a run is going on. Between two operations none is. -/
def isRunning (_ : Workbench) : Bool := false

def snapshot? (bench : Workbench) (name : String) : Option Snapshot :=
  bench.shelf.lookup name

def shelve (bench : Workbench) (name : String) (snapshot : Snapshot) : Workbench :=
  { bench with shelf := (name, snapshot) :: bench.shelf.filter fun entry => entry.1 ≠ name }

/-- The output since the last time, and the bench without it. -/
def drain (bench : Workbench) : Array UInt8 × Workbench :=
  match bench.console with
  | none => (#[], bench)
  | some terminal =>
    let (bytes, terminal) := terminal.drain
    (bytes, { bench with console := some terminal })

/-- What the tracers noted since the last time, and the bench without it. -/
def takeLines (bench : Workbench) : Array TraceLine × Workbench :=
  (bench.observers.lines,
    { bench with observers := { bench.observers with lines := #[] } })

end Workbench

end WordMachine
