import WordMachine.Debug.Debugger
import WordMachine.Machine.Step

/-!
# Runs

A run carries out instructions until the program halts or faults, a breakpoint is
hit, or a stop is asked for. Stops take effect between instructions. A run that
starts where the one before stopped at a breakpoint passes that breakpoint once.
-/

namespace WordMachine

/-- How a run ended. -/
inductive Ending where
  | halted
  | stopped
  | breakpoint
  | faulted (fault : Fault)
deriving DecidableEq, Repr

/-- The result of a run as it is recorded: one of four, or a number that is none. -/
inductive RunResult where
  | halted
  | stopped
  | breakpoint
  | faulted
  | unknown (number : Int)
deriving DecidableEq, Repr

namespace RunResult

def ofNumber (number : Int) : RunResult :=
  if number = 0 then halted
  else if number = 1 then stopped
  else if number = 2 then breakpoint
  else if number = 3 then faulted
  else unknown number

def name : RunResult → String
  | halted => "halted"
  | stopped => "stopped"
  | breakpoint => "breakpoint"
  | faulted => "faulted"
  | unknown number => "RunResult(" ++ toString number ++ ")"

end RunResult

namespace Ending

def result : Ending → RunResult
  | halted => .halted
  | stopped => .stopped
  | breakpoint => .breakpoint
  | faulted _ => .faulted

def fault? : Ending → Option Fault
  | faulted fault => some fault
  | _ => none

end Ending

/-- The exit code of a run. A program that asks for input past its end is treated as
    stopped from outside. -/
def exitCode (result : RunResult) (fault : Option Fault) : Nat :=
  match result with
  | .halted => 0
  | .breakpoint => 3
  | .stopped => 130
  | .faulted | .unknown _ =>
    if (fault.bind Fault.kind?) = some .inputClosed then 130 else 1

/-- A machine with its terminal, the debugger that runs consult once it has a breakpoint,
    and whatever observes the instructions. -/
structure Session (τ ω : Type) where
  machine : Machine
  console : Option τ
  debugger : Option Debugger
  observer : ω

namespace Session

variable {τ ω : Type} [Channel τ]

/-- Carries out one instruction and tells the observer. -/
def step (notify : Notice → ω → ω) (session : Session τ ω) : Outcome × Session τ ω :=
  match session with
  | ⟨machine, console, debugger, observer⟩ =>
    match machine.step console with
    | (outcome, machine, console) =>
      (outcome, ⟨machine, console, debugger, notify outcome.notice observer⟩)

/-- Carries out instructions until one halts or faults, `more` after this one at most.
    `tried` counts this one and those before it. -/
def stepMany (notify : Notice → ω → ω) (tried : Nat) :
    (more : Nat) → Session τ ω → Nat × Outcome × Session τ ω
  | 0, session => (tried, session.step notify)
  | more + 1, session =>
    match session.step notify with
    | (.continued _, session) => stepMany notify (tried + 1) more session
    | (outcome, session) => (tried, outcome, session)

omit [Channel τ] in
/-- Consults the debugger before an instruction: true if the run stops here. -/
def arrive (session : Session τ ω) : Bool × Session τ ω :=
  match session with
  | ⟨machine, console, none, observer⟩ => (false, ⟨machine, console, none, observer⟩)
  | ⟨machine, console, some debugger, observer⟩ =>
    if machine.resuming then
      (false, ⟨{ machine with resuming := false }, console, some debugger, observer⟩)
    else
      match debugger.arrive machine with
      | (stop, debugger) =>
        (stop, ⟨{ machine with resuming := stop }, console, some debugger, observer⟩)

omit [Channel τ] in
/-- The session after a stop request arrives or not. -/
def requestStopIf (session : Session τ ω) (asked : Bool) : Session τ ω :=
  if asked then { session with machine := session.machine.requestStop } else session

/-- Runs until something ends the run, for at most as many rounds as there is fuel.
    `done` instructions were carried out before, and `stops n` says that a stop request
    arrives right after the `n`-th. -/
def runFrom (notify : Notice → ω → ω) (stops : Nat → Bool) :
    (fuel done : Nat) → Session τ ω → Option Ending × Session τ ω
  | 0, _, session => (none, session)
  | fuel + 1, done, session =>
    if session.machine.stopRequested then
      (some .stopped, { session with machine := { session.machine with stopRequested := false } })
    else
      match session.arrive with
      | (true, session) => (some .breakpoint, session)
      | (false, session) =>
        match session.step notify with
        | (.faulted fault, session) => (some (.faulted fault), session)
        | (.halted _, session) => (some .halted, session.requestStopIf (stops (done + 1)))
        | (.continued _, session) =>
          runFrom notify stops fuel (done + 1) (session.requestStopIf (stops (done + 1)))

/-- Runs until something ends the run, or the fuel is used up. -/
def run (notify : Notice → ω → ω) (stops : Nat → Bool) (fuel : Nat) (session : Session τ ω) :
    Option Ending × Session τ ω :=
  session.runFrom notify stops fuel 0

end Session

end WordMachine
