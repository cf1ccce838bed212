import Mathlib.Logic.Relation
import WordMachine.Machine.Run
import WordMachine.Proofs.Instructions

/-!
What one round of a run can come to. Before its instruction a run consults the debugger,
which changes nothing but the mark for resuming and the debugger itself (`arrive_cases`).
A round then either ends the run without an instruction, on a stop request or at a
breakpoint, or it carries out one instruction, after which the run is over or goes on
(`runFrom_cases`). So whatever single instructions and changes from outside keep holds
after any work with the machine (`Invariant.handled`). Runs and stop requests are the calls that
all histories of a session have in common (`RunCall`).
-/

namespace WordMachine

/-- How an instruction ends the program, if it does. -/
def Outcome.ending? : Outcome → Option Ending
  | continued _ => none
  | halted _ => some .halted
  | faulted fault => some (.faulted fault)

/-- A transcript of notices, the latest last. -/
def transcribe (notice : Notice) (told : List Notice) : List Notice :=
  told ++ [notice]

namespace Debugger

theorem condition_count (address : UInt64) (breakpoint : Breakpoint) :
    (count address breakpoint).condition = breakpoint.condition := by
  rw [count]
  split <;> rfl

/-- A breakpoint without a condition stops every run that arrives at it. -/
theorem arrive_of_unconditional {debugger : Debugger} {machine : Machine} {breakpoint : Breakpoint}
    (found : debugger.find? machine.pc.toUInt64 = some breakpoint)
    (unconditional : breakpoint.condition = none) : (debugger.arrive machine).1 = true := by
  have fires : (count machine.pc.toUInt64 breakpoint).fires machine = true := by
    simp only [Breakpoint.fires, condition_count, unconditional]
  simp only [arrive, found, fires, if_true]

end Debugger

namespace Session

variable {τ ω : Type}

/-- The debugger is asked unless there is none or the run resumes. Only the debugger and the mark
    for resuming change. -/
theorem arrive_cases (session : Session τ ω) :
    (session.debugger = none ∧ session.arrive = (false, session)) ∨
    (∃ debugger, session.debugger = some debugger ∧ session.machine.resuming = true ∧
      session.arrive =
        (false, { session with machine := { session.machine with resuming := false } })) ∨
    ∃ debugger, session.debugger = some debugger ∧ session.machine.resuming = false ∧
      session.arrive = ((debugger.arrive session.machine).1,
        { session with
          machine := { session.machine with resuming := (debugger.arrive session.machine).1 }
          debugger := some (debugger.arrive session.machine).2 }) := by
  obtain ⟨machine, console, debugger, observer⟩ := session
  cases debugger with
  | none => exact .inl ⟨rfl, rfl⟩
  | some debugger =>
    cases resuming : machine.resuming with
    | true => exact .inr (.inl ⟨debugger, rfl, rfl, by simp only [arrive, resuming, if_true]⟩)
    | false =>
      refine .inr (.inr ⟨debugger, rfl, rfl, ?_⟩)
      simp only [arrive, resuming]
      rfl

theorem arrive_frame {session here : Session τ ω} {stop : Bool}
    (arrived : session.arrive = (stop, here)) :
    ∃ resuming debugger,
      here = { session with machine := { session.machine with resuming }, debugger } := by
  rcases session.arrive_cases with ⟨_, same⟩ | ⟨_, _, _, passed⟩ | ⟨_, _, _, asked⟩
  · rw [same] at arrived
    cases arrived
    exact ⟨_, _, rfl⟩
  · rw [passed] at arrived
    cases arrived
    exact ⟨_, _, rfl⟩
  · rw [asked] at arrived
    cases arrived
    exact ⟨_, _, rfl⟩

variable [Channel τ]

/-- A round of a run ends it on a stop request, ends it at a breakpoint, or carries out an
    instruction, which may end it too. -/
theorem runFrom_cases (notify : Notice → ω → ω) (stops : Nat → Bool) (fuel done : Nat)
    (session : Session τ ω) :
    (session.machine.stopRequested = true ∧
      session.runFrom notify stops (fuel + 1) done =
        (some .stopped,
          { session with machine := { session.machine with stopRequested := false } })) ∨
    (session.machine.stopRequested = false ∧ ∃ here, session.arrive = (true, here) ∧
      session.runFrom notify stops (fuel + 1) done = (some .breakpoint, here)) ∨
    (session.machine.stopRequested = false ∧ ∃ here outcome after,
      session.arrive = (false, here) ∧ here.step notify = (outcome, after) ∧
      ((∃ ending asked, outcome.ending? = some ending ∧
          session.runFrom notify stops (fuel + 1) done = (some ending, after.requestStopIf asked)) ∨
        (outcome.ending? = none ∧ session.runFrom notify stops (fuel + 1) done =
          (after.requestStopIf (stops (done + 1))).runFrom notify stops fuel (done + 1)))) := by
  rw [runFrom]
  cases requested : session.machine.stopRequested with
  | true => exact .inl ⟨rfl, rfl⟩
  | false =>
    rcases arrived : session.arrive with ⟨stop, here⟩
    cases stop with
    | true => exact .inr (.inl ⟨rfl, here, rfl, rfl⟩)
    | false =>
      rcases stepped : here.step notify with ⟨outcome, after⟩
      refine .inr (.inr ⟨rfl, here, outcome, after, rfl, stepped, ?_⟩)
      cases outcome with
      | faulted fault => exact .inl ⟨.faulted fault, false, rfl, by simp [stepped, requestStopIf]⟩
      | halted event => exact .inl ⟨.halted, stops (done + 1), rfl, by simp [stepped]⟩
      | continued event => exact .inr ⟨rfl, by simp [stepped]⟩

/-! ## Calls -/

/-- What can be asked of a machine on its way: a run, during which stop requests may arrive, or
    that the run stop. -/
inductive RunCall where
  | run (stops : Nat → Bool) (fuel : Nat)
  | stop

/-- Carries out a call, and tells how a run ended if it did. -/
def carryOut (notify : Notice → ω → ω) (session : Session τ ω) :
    RunCall → Option Ending × Session τ ω
  | .run stops fuel => session.run notify stops fuel
  | .stop => (none, { session with machine := session.machine.requestStop })

omit [Channel τ] in
/-- The session with a note about its machine, if a run ended at a breakpoint. -/
def noteRest (note : Machine → ω → ω) : Option Ending × Session τ ω → Session τ ω
  | (some .breakpoint, after) => { after with observer := note after.machine after.observer }
  | (_, after) => after

/-! ## Work with a machine -/

omit [Channel τ] in
/-- The session after changes from outside: registers, program counter, stack, memory, stop
    requests and breakpoints, but neither the input nor the count of instructions. -/
def adjusted (session : Session τ ω) (pc : UInt32) (registers : Registers) (stack : Stack)
    (store : Store) (stopRequested resuming : Bool) (debugger : Option Debugger) : Session τ ω :=
  { session with
    machine := { session.machine with pc, registers, stack, store, stopRequested, resuming }
    debugger }

/-- What can be done with a machine that is not loaded anew: single instructions, runs, and
    changes from outside. -/
inductive Handled (notify : Notice → ω → ω) : Session τ ω → Session τ ω → Prop
  | step (session : Session τ ω) : Handled notify session (session.step notify).2
  | run (session : Session τ ω) (stops : Nat → Bool) (fuel : Nat) :
      Handled notify session (session.run notify stops fuel).2
  | adjust (session : Session τ ω) (pc : UInt32) (registers : Registers) (stack : Stack)
      (store : Store) (stopRequested resuming : Bool) (debugger : Option Debugger) :
      Handled notify session
        (session.adjusted pc registers stack store stopRequested resuming debugger)

/-- Single instructions and changes from outside keep a property. -/
structure Invariant (notify : Notice → ω → ω) (holds : Session τ ω → Prop) : Prop where
  step : ∀ {session : Session τ ω}, holds session → holds (session.step notify).2
  adjust : ∀ {session : Session τ ω} (pc : UInt32) (registers : Registers) (stack : Stack)
    (store : Store) (stopRequested resuming : Bool) (debugger : Option Debugger), holds session →
    holds (session.adjusted pc registers stack store stopRequested resuming debugger)

section
variable {notify : Notice → ω → ω} {holds : Session τ ω → Prop}

theorem Invariant.flags (invariant : Invariant notify holds) {session : Session τ ω}
    (stopRequested resuming : Bool) (debugger : Option Debugger) (before : holds session) :
    holds { session with
      machine := { session.machine with stopRequested, resuming }
      debugger } :=
  invariant.adjust session.machine.pc session.machine.registers session.machine.stack
    session.machine.store stopRequested resuming debugger before

theorem Invariant.requestStopIf (invariant : Invariant notify holds) {session : Session τ ω}
    (asked : Bool) (before : holds session) : holds (session.requestStopIf asked) := by
  cases asked with
  | false => exact before
  | true => exact invariant.flags true session.machine.resuming session.debugger before

/-- A run keeps what its instructions keep. -/
theorem Invariant.runFrom (invariant : Invariant notify holds) (stops : Nat → Bool)
    (fuel done : Nat) {session : Session τ ω} (before : holds session) :
    holds (session.runFrom notify stops fuel done).2 := by
  induction fuel generalizing done session with
  | zero => exact before
  | succ fuel ih =>
    rcases session.runFrom_cases notify stops fuel done
      with ⟨_, stopped⟩ | ⟨_, here, arrived, resting⟩ |
      ⟨_, here, outcome, next, arrived, stepped, went⟩
    · rw [stopped]
      exact invariant.flags false session.machine.resuming session.debugger before
    · rw [resting]
      obtain ⟨resuming, debugger, rfl⟩ := arrive_frame arrived
      exact invariant.flags session.machine.stopRequested resuming debugger before
    · obtain ⟨resuming, debugger, rfl⟩ := arrive_frame arrived
      have moved := invariant.step
        (invariant.flags session.machine.stopRequested resuming debugger before)
      rw [stepped] at moved
      rcases went with ⟨_, asked, _, last⟩ | ⟨_, more⟩
      · rw [last]
        exact invariant.requestStopIf asked moved
      · rw [more]
        exact ih (done + 1) (invariant.requestStopIf _ moved)

/-- Any work with a machine keeps what single instructions and changes from outside keep. -/
theorem Invariant.handled (invariant : Invariant notify holds) {before after : Session τ ω}
    (handled : Relation.ReflTransGen (Handled notify) before after) (initially : holds before) :
    holds after := by
  induction handled with
  | refl => exact initially
  | tail _ last ih =>
    cases last with
    | step => exact invariant.step ih
    | run stops fuel => exact invariant.runFrom stops fuel 0 ih
    | adjust pc registers stack store stopRequested resuming debugger =>
      exact invariant.adjust pc registers stack store stopRequested resuming debugger ih

end

end Session

end WordMachine
