import WordMachine.Proofs.Resuming
import WordMachine.Proofs.Runs

/-!
Breakpoints that are passed. A run that ends at a breakpoint marks the machine, and the next
run passes whatever breakpoint it starts at. Moving the program counter, loading and restoring
drop the mark, and a run uses it up with its first instruction; a single step leaves it. So a
run passes a breakpoint without a condition only if no run has carried out an instruction since
the last report, and that report was of the same breakpoint unless there were single steps
since (`passes_only_after_report`). With a single step it can pass one that was never reported
(`step_hides_breakpoint`).
-/

namespace WordMachine

/-- What happened at an address: a run carried out the instruction there, a single step did, or a
    run ended there at a breakpoint. -/
inductive Happening where
  | ran (address : UInt32)
  | stepped (address : UInt32)
  | reported (address : UInt32)
deriving DecidableEq, Repr

namespace Happening

def isStep : Happening → Bool
  | stepped _ => true
  | ran _ | reported _ => false

/-- Notes the instructions that are carried out, the latest first. One that faults is not. -/
def note (happening : UInt32 → Happening) (notice : Notice) (history : List Happening) :
    List Happening :=
  match notice with
  | .stepped event => happening event.instruction.address :: history
  | .faulted _ => history

/-- Notes that a run ended at a breakpoint. -/
def report (machine : Machine) (history : List Happening) : List Happening :=
  .reported machine.pc :: history

/-- The latest report was of this address, or of another one and single steps have followed it;
    nothing else has been carried out since. -/
def Reported (history : List Happening) (address : UInt32) : Prop :=
  ∃ steps place before, history = steps ++ .reported place :: before ∧
    (∀ happening ∈ steps, happening.isStep = true) ∧ (steps = [] → place = address)

theorem Reported.step {history : List Happening} {address : UInt32} (is : Reported history address)
    (place next : UInt32) : Reported (.stepped place :: history) next := by
  obtain ⟨steps, reported, before, rfl, all, _⟩ := is
  refine ⟨.stepped place :: steps, reported, before, rfl, ?_, nofun⟩
  intro happening member
  rcases List.mem_cons.mp member with rfl | earlier
  · rfl
  · exact all happening earlier

end Happening

/-- What can be asked of a machine and its debugger from outside. -/
inductive Call where
  | drive (call : Session.RunCall)
  | setBreakpoint (address : UInt64) (condition : Option Condition)
  | step
  | jump (address : UInt64)
  | setRegister (name : String) (value : UInt64)
  | load (words : List UInt16)
  | restore (snapshot : Snapshot)

namespace Session

/-- A breakpoint without a condition is set at an address. -/
def HasBreakpoint {τ ω : Type} (session : Session τ ω) (address : UInt32) : Prop :=
  ∃ debugger, session.debugger = some debugger ∧
    (debugger.find? address.toUInt64).map Breakpoint.condition = some none

variable {τ : Type}

/-- A machine as it is made, on a terminal, without breakpoints. -/
def fresh (console : Option τ) : Session τ (List Happening) := ⟨.initial, console, none, []⟩

/-- If the next run passes the breakpoint where it starts, that is because of a report. -/
def Marked (session : Session τ (List Happening)) : Prop :=
  session.machine.resuming = true →
    session.debugger ≠ none ∧ Happening.Reported session.observer session.machine.pc

variable [Channel τ]

/-- Carries out a call and keeps the history. -/
def perform (session : Session τ (List Happening)) : Call → Session τ (List Happening)
  | .drive call => noteRest Happening.report (session.carryOut (Happening.note .ran) call)
  | .setBreakpoint address condition =>
    match (session.debugger.getD .empty).set? address condition with
    | none => session
    | some debugger => { session with debugger := some debugger }
  | .step => (session.step (Happening.note .stepped)).2
  | .jump address => { session with machine := session.machine.jump address }
  | .setRegister name value =>
    { session with machine := (session.machine.setRegister? name value).getD session.machine }
  | .load words => { session with machine := (session.machine.load words).2 }
  | .restore snapshot => { session with machine := (snapshot.restore session.machine).2 }

end Session

/-! ## Debuggers -/

namespace Debugger

theorem address_count (address : UInt64) (breakpoint : Breakpoint) :
    (count address breakpoint).address = breakpoint.address := by
  rw [count]
  split <;> rfl

/-- Arrivals change nothing of a breakpoint but its number of hits. -/
theorem find?_arrive (debugger : Debugger) (machine : Machine) (address : UInt64) :
    ((debugger.arrive machine).2.find? address).map Breakpoint.condition =
      (debugger.find? address).map Breakpoint.condition := by
  have counted : ∀ breakpoints : List Breakpoint,
      ((breakpoints.map (count machine.pc.toUInt64)).find? (·.address == address)).map
          Breakpoint.condition =
        (breakpoints.find? (·.address == address)).map Breakpoint.condition := by
    intro breakpoints
    simp only [List.find?_map, Option.map_map, Function.comp_def, address_count, condition_count]
  simp only [arrive]
  split
  · rfl
  · split
    · exact counted debugger.breakpoints
    · exact counted debugger.breakpoints

end Debugger

/-- A step keeps the flags of runs. -/
theorem Machine.resuming_step {τ : Type} [Channel τ] (machine : Machine) (console : Option τ) :
    (machine.step console).2.1.resuming = machine.resuming := by
  have same := machine.step_withFlags machine.stopRequested machine.resuming console
  exact congrArg (fun result => result.2.1.resuming) same

/-- Setting a register moves the program counter or changes a general register. -/
theorem Machine.setRegister?_cases {machine after : Machine} {name : String} {value : UInt64}
    (accepted : machine.setRegister? name value = some after) :
    after = machine.jump value ∨ ∃ registers, after = { machine with registers } := by
  simp only [setRegister?] at accepted
  split at accepted
  · cases accepted
    exact .inl rfl
  · split at accepted
    · cases accepted
    · split at accepted
      · cases accepted
        exact .inr ⟨_, rfl⟩
      · cases accepted

namespace Session

/-! ## Consulting the debugger -/

section
variable {τ ω : Type}

theorem hasBreakpoint_arrive {session here : Session τ ω} {stop : Bool}
    (arrived : session.arrive = (stop, here)) (address : UInt32) :
    here.HasBreakpoint address ↔ session.HasBreakpoint address := by
  rcases session.arrive_cases with ⟨_, same⟩ | ⟨_, _, _, passed⟩ | ⟨debugger, is, _, asked⟩
  · rw [same] at arrived
    cases arrived
    rfl
  · rw [passed] at arrived
    cases arrived
    rfl
  · rw [asked] at arrived
    cases arrived
    simp only [HasBreakpoint, is, Option.some.injEq, exists_eq_left', Debugger.find?_arrive]

theorem debugger_of_arrive {session here : Session τ ω} (arrived : session.arrive = (true, here)) :
    here.debugger ≠ none := by
  rcases session.arrive_cases with ⟨_, same⟩ | ⟨_, _, _, passed⟩ | ⟨_, _, _, asked⟩
  · rw [same] at arrived
    cases arrived
  · rw [passed] at arrived
    cases arrived
  · rw [asked] at arrived
    obtain ⟨_, rfl⟩ := Prod.mk.inj arrived
    exact nofun

/-- A run that does not resume passes no breakpoint without a condition. -/
theorem not_hasBreakpoint_of_arrive {session here : Session τ ω}
    (arrived : session.arrive = (false, here)) (notResuming : session.machine.resuming = false) :
    ¬ session.HasBreakpoint session.machine.pc := by
  rintro ⟨debugger, is, unconditional⟩
  obtain ⟨breakpoint, found, condition⟩ := Option.map_eq_some_iff.mp unconditional
  rcases session.arrive_cases with ⟨detached, _⟩ | ⟨_, _, resuming, _⟩ | ⟨other, other_is, _, asked⟩
  · rw [is] at detached
    cases detached
  · rw [notResuming] at resuming
    cases resuming
  · obtain rfl : debugger = other := Option.some.inj (is.symm.trans other_is)
    rw [asked, Debugger.arrive_of_unconditional found condition] at arrived
    cases arrived

end

variable {τ : Type} [Channel τ]

/-! ## Carrying out instructions -/

/-- An instruction is noted at its address, or it faults and nothing is. -/
theorem step_noted {happening : UInt32 → Happening} {session after : Session τ (List Happening)}
    {outcome : Outcome} (stepped : session.step (Happening.note happening) = (outcome, after)) :
    after.debugger = session.debugger ∧ after.machine.resuming = session.machine.resuming ∧
      ((after.machine = session.machine ∧ after.observer = session.observer) ∨
        after.observer = happening session.machine.pc :: session.observer) := by
  obtain ⟨machine, console, debugger, history⟩ := session
  have kept := machine.resuming_step console
  rcases machine.step_cases console with ⟨_, _, _, done, _⟩ |
    ⟨instruction, _, _, halts, _, _, read, _, _, done⟩
  · simp only [step, done] at stepped
    cases stepped
    exact ⟨rfl, rfl, .inl ⟨rfl, rfl⟩⟩
  · rw [done] at kept
    simp only [step, done] at stepped
    cases stepped
    obtain ⟨_, decoded⟩ := Machine.decode_eq_ok read
    refine ⟨rfl, kept, .inr ?_⟩
    rw [← decoded.address_eq]
    cases halts <;> rfl

/-- The history after a run: the instructions that it carried out are added, and where one of them
    has a breakpoint, there is a report to account for it. -/
inductive Ran (hasBreakpoint : UInt32 → Prop) (start : List Happening) : List Happening → Prop
  | start : Ran hasBreakpoint start start
  | next {history : List Happening} (address : UInt32) (earlier : Ran hasBreakpoint start history)
      (accounted : hasBreakpoint address → Happening.Reported history address) :
      Ran hasBreakpoint start (.ran address :: history)

theorem Ran.trans {hasBreakpoint : UInt32 → Prop} {start middle history : List Happening}
    (first : Ran hasBreakpoint start middle) (second : Ran hasBreakpoint middle history) :
    Ran hasBreakpoint start history := by
  induction second with
  | start => exact first
  | next address _ accounted ih => exact .next address ih accounted

theorem Ran.reported {hasBreakpoint : UInt32 → Prop} {start history later earlier : List Happening}
    {address : UInt32} (ran : Ran hasBreakpoint start history)
    (is : history = later ++ .ran address :: (earlier ++ start)) (has : hasBreakpoint address) :
    Happening.Reported (earlier ++ start) address := by
  induction ran generalizing later with
  | start =>
    have lengths := congrArg List.length is
    simp only [List.length_cons, List.length_append] at lengths
    omega
  | next place _ accounted ih =>
    cases later with
    | nil =>
      obtain ⟨same, rfl⟩ := List.cons.inj is
      cases same
      exact accounted has
    | cons latest later => exact ih (List.cons.inj is).2

/-- An instruction of a run uses up the mark, and one at a breakpoint needs it. -/
theorem round_ran {session here next : Session τ (List Happening)} {outcome : Outcome}
    (marked : session.Marked) (arrived : session.arrive = (false, here))
    (stepped : here.step (Happening.note .ran) = (outcome, next)) :
    Ran session.HasBreakpoint session.observer next.observer ∧ next.machine.resuming = false ∧
      next.HasBreakpoint = session.HasBreakpoint := by
  have used : here.machine.resuming = false := by
    rcases session.arrive_cases with ⟨detached, same⟩ | ⟨_, _, _, passed⟩ | ⟨_, _, _, asked⟩
    · rw [same] at arrived
      cases arrived
      cases resuming : session.machine.resuming with
      | false => rfl
      | true => exact absurd detached (marked resuming).1
    · rw [passed] at arrived
      cases arrived
      rfl
    · rw [asked] at arrived
      obtain ⟨passes, rfl⟩ := Prod.mk.inj arrived
      exact passes
  have accounted : session.HasBreakpoint session.machine.pc →
      Happening.Reported session.observer session.machine.pc := by
    intro has
    cases resuming : session.machine.resuming with
    | true => exact (marked resuming).2
    | false => exact absurd has (not_hasBreakpoint_of_arrive arrived resuming)
  have breakpoints (address : UInt32) := hasBreakpoint_arrive arrived address
  obtain ⟨debuggers, kept, noted⟩ := step_noted stepped
  refine ⟨?_, kept.trans used, ?_⟩
  · obtain ⟨_, _, rfl⟩ := arrive_frame arrived
    rcases noted with ⟨_, same⟩ | added
    · rw [same]
      exact .start
    · rw [added]
      exact .next _ .start accounted
  · funext address
    rw [← propext (breakpoints address), HasBreakpoint, debuggers, HasBreakpoint]

/-- Of the instructions of a run only the first can be at a breakpoint, and only if that breakpoint
    was reported. -/
theorem runFrom_ran (stops : Nat → Bool) (fuel done : Nat)
    {session after : Session τ (List Happening)}
    {returned : Option Ending} (marked : session.Marked)
    (ran : session.runFrom (Happening.note .ran) stops fuel done = (returned, after)) :
    Ran session.HasBreakpoint session.observer after.observer ∧
      (returned = some .breakpoint → after.debugger ≠ none) ∧
      (returned ≠ some .breakpoint → after.Marked) := by
  induction fuel generalizing done session with
  | zero =>
    cases ran
    exact ⟨.start, nofun, fun _ => marked⟩
  | succ fuel ih =>
    rcases session.runFrom_cases (Happening.note .ran) stops fuel done with ⟨_, stopped⟩ |
      ⟨_, here, arrived, resting⟩ | ⟨_, here, outcome, next, arrived, stepped, went⟩
    · rw [stopped] at ran
      cases ran
      exact ⟨.start, nofun, fun _ => marked⟩
    · rw [resting] at ran
      cases ran
      have debugged := debugger_of_arrive arrived
      obtain ⟨_, _, rfl⟩ := arrive_frame arrived
      exact ⟨.start, fun _ => debugged, fun otherwise => absurd rfl otherwise⟩
    · obtain ⟨first, used, breakpoints⟩ := round_ran marked arrived stepped
      -- A stop request that arrives now changes neither the history nor the mark.
      have unmarked (asked : Bool) : (next.requestStopIf asked).Marked := by
        intro resuming
        cases asked <;> exact absurd (used.symm.trans resuming) Bool.false_ne_true
      have history (asked : Bool) : (next.requestStopIf asked).observer = next.observer := by
        cases asked <;> rfl
      rcases went with ⟨_, asked, ends, last⟩ | ⟨_, more⟩
      · rw [last] at ran
        cases ran
        rw [history]
        refine ⟨first, ?_, fun _ => unmarked asked⟩
        rintro ⟨⟩
        cases outcome <;> cases ends
      · rw [more] at ran
        obtain ⟨rest, remaining⟩ := ih (done + 1) (unmarked _) ran
        have same : (next.requestStopIf (stops (done + 1))).HasBreakpoint =
          session.HasBreakpoint := by
          rw [← breakpoints]
          cases stops (done + 1) <;> rfl
        rw [history, same] at rest
        exact ⟨first.trans rest, remaining⟩

/-! ## Sequences of calls -/

theorem perform_marked {session : Session τ (List Happening)} (marked : session.Marked)
    (call : Call) : (session.perform call).Marked := by
  cases call with
  | drive call =>
    cases call with
    | run stops fuel =>
      rcases ran : session.run (Happening.note .ran) stops fuel with ⟨returned, after⟩
      obtain ⟨_, debugged, kept⟩ := runFrom_ran stops fuel 0 marked ran
      by_cases hit : returned = some .breakpoint
      · subst hit
        simp only [perform, carryOut, ran]
        intro _
        exact ⟨debugged rfl, [], _, _, rfl, List.forall_mem_nil _, fun _ => rfl⟩
      · simp only [perform, carryOut, ran, noteRest]
        exact kept hit
    | stop => exact marked
  | setBreakpoint address condition =>
    simp only [perform]
    split
    · exact marked
    · intro resuming
      exact ⟨Option.some_ne_none _, (marked resuming).2⟩
  | step =>
    rcases stepped : session.step (Happening.note .stepped) with ⟨outcome, after⟩
    obtain ⟨debuggers, kept, noted⟩ := step_noted stepped
    simp only [perform, stepped]
    intro resuming
    rw [kept] at resuming
    obtain ⟨attached, reported⟩ := marked resuming
    rw [debuggers]
    refine ⟨attached, ?_⟩
    rcases noted with ⟨machine, history⟩ | added
    · rw [machine, history]
      exact reported
    · rw [added]
      exact reported.step _ _
  | jump address =>
    intro resuming
    cases resuming
  | setRegister name value =>
    simp only [perform]
    cases accepted : session.machine.setRegister? name value with
    | none => exact marked
    | some after =>
      rcases Machine.setRegister?_cases accepted with rfl | ⟨registers, rfl⟩
      · intro resuming
        cases resuming
      · exact marked
  | load words =>
    have dropped : (session.machine.load words).2.resuming = false := by
      rw [Machine.load]
      cases session.machine.reset.store.load words <;> rfl
    intro resuming
    exact absurd (dropped.symm.trans resuming) Bool.false_ne_true
  | restore snapshot =>
    simp only [perform]
    rcases snapshot.restore_cases session.machine with ⟨_, _, refused⟩ | ⟨_, _, _, restored⟩
    · rw [refused]
      exact marked
    · rw [restored]
      intro resuming
      cases resuming

theorem calls_marked (console : Option τ) (calls : List Call) :
    (calls.foldl perform (fresh console)).Marked := by
  have each : ∀ session : Session τ (List Happening), session.Marked →
      (calls.foldl perform session).Marked := by
    induction calls with
    | nil => exact fun _ marked => marked
    | cons call rest ih => exact fun session marked => ih _ (perform_marked marked call)
  exact each (fresh console) nofun

/-- A run passes a breakpoint without a condition only on account of a report. Whatever was asked of
    the machine and its debugger before, if a run carries out an instruction at such a breakpoint,
    then since the last time that a run ended at a breakpoint no run has carried out any; and if no
    single step has either, that breakpoint was this one. -/
theorem passes_only_after_report (console : Option τ) (calls : List Call)
    (session : Session τ (List Happening)) (stops : Nat → Bool) (fuel : Nat)
    (later earlier : List Happening) (address : UInt32)
    (called : calls.foldl perform (fresh console) = session)
    (ran : (session.run (Happening.note .ran) stops fuel).2.observer =
      later ++ .ran address :: (earlier ++ session.observer))
    (has : session.HasBreakpoint address) :
    ∃ steps place before, earlier ++ session.observer = steps ++ .reported place :: before ∧
      (∀ happening ∈ steps, happening.isStep = true) ∧ (steps = [] → place = address) := by
  have marked := calls_marked console calls
  rw [called] at marked
  rcases whole : session.run (Happening.note .ran) stops fuel with ⟨returned, after⟩
  rw [whole] at ran
  obtain ⟨history, _, _⟩ := runFrom_ran stops fuel 0 marked whole
  exact history.reported ran has

/-- Loading two words is writing them one after the other. -/
theorem load_pair (first second : UInt16) (console : Option τ) :
    (fresh console).perform (.load [first, second]) =
      { fresh console with
        machine := { Machine.initial with
          store := (Store.empty.put ⟨0, by decide⟩ first).put ⟨1, by decide⟩ second } } := by
  have loaded : Store.empty.load [first, second] =
      .ok ((Store.empty.put ⟨0, by decide⟩ first).put ⟨1, by decide⟩ second) := by
    have fits : [first, second].length ≤ addressSpace := show 2 ≤ addressSpace by decide
    have accepted := Store.load_eq_ok Store.empty fits
    rw [accepted]
    apply congrArg
    apply Store.ext_get
    · intro cell
      rw [Store.get_of_load Store.empty_wellFormed accepted, Store.get_put, Store.get_put,
        Store.get_empty]
      rcases cell with ⟨_ | _ | place, inside⟩
      · rfl
      · rfl
      · simp [Fin.ext_iff]
    · rfl
  have cleared : Machine.initial.reset = Machine.initial :=
    Machine.reset_eq_initial Machine.initial_wellFormed
  have start : Machine.initial.store = Store.empty := rfl
  simp only [perform, fresh, Machine.load, cleared, start, loaded]

/-- The breakpoint at 0 was reported, and the next run passes it. -/
theorem passes_only_after_report_resuming :
    ∃ session : Session MemoryTerminal (List Happening),
      [Call.load [21, 21], .setBreakpoint 0 none, .drive (.run (fun _ => false) 3)].foldl perform
        (fresh (some .empty)) = session ∧
      session.HasBreakpoint 0 ∧
      (session.run (Happening.note .ran) (fun _ => false) 3).2.observer =
        [.ran 2, .ran 1] ++ .ran 0 :: ([] ++ session.observer) ∧
      ∃ steps place before, [] ++ session.observer = steps ++ .reported place :: before ∧
        (∀ happening ∈ steps, happening.isStep = true) ∧ (steps = [] → place = 0) := by
  have called := List.foldl_cons (f := perform) (b := fresh (some MemoryTerminal.empty))
    (a := Call.load [21, 21]) (l := [.setBreakpoint 0 none, .drive (.run (fun _ => false) 3)])
  rw [load_pair] at called
  have reported := passes_only_after_report (some MemoryTerminal.empty)
    [.load [21, 21], .setBreakpoint 0 none, .drive (.run (fun _ => false) 3)] _ (fun _ => false) 3
    [.ran 2, .ran 1] [] 0 called
  exact ⟨_, called, ⟨_, rfl, rfl⟩, rfl, reported rfl ⟨_, rfl, rfl⟩⟩

/-- Two breakpoints in a row. The first is reported, a single step carries out the instruction
    there, and the next run passes the second, which was never reported, and halts. -/
theorem step_hides_breakpoint :
    ∃ session : Session MemoryTerminal (List Happening),
      [Call.load [21, 21], .setBreakpoint 0 none, .setBreakpoint 1 none,
        .drive (.run (fun _ => false) 3), .step].foldl perform (fresh (some .empty)) = session ∧
      session.HasBreakpoint 1 ∧ session.observer = [.stepped 0, .reported 0] ∧
      (session.run (Happening.note .ran) (fun _ => false) 3).1 = some .halted ∧
      (session.run (Happening.note .ran) (fun _ => false) 3).2.observer =
        [.ran 2, .ran 1, .stepped 0, .reported 0] := by
  have called := List.foldl_cons (f := perform) (b := fresh (some MemoryTerminal.empty))
    (a := Call.load [21, 21])
    (l := [.setBreakpoint 0 none, .setBreakpoint 1 none, .drive (.run (fun _ => false) 3), .step])
  rw [load_pair] at called
  exact ⟨_, called, ⟨_, rfl, rfl⟩, rfl, rfl, rfl⟩

end Session

end WordMachine
