import WordMachine.Proofs.Faults
import WordMachine.Proofs.Interruptions
import WordMachine.Proofs.Recording

/-!
What observers are told of a machine that nobody changes from outside. Each event names the
instruction that stood in memory and the state that it left (`step_records`). Single steps and
runs, interrupted and resumed, come to plain steps one after the other (`Advanced.trans`), so
the events link up from the first program counter to the last, and a fault is the last thing
that observers hear (`events_form_chain`).
-/

namespace WordMachine

/-! ## Instructions in memory -/

/-- The words of an instruction are those in memory: the code of the operation at its address, and
    behind it one operand for each that the operation has. The other operands are zero. -/
structure Instruction.StandsIn (instruction : Instruction) (op : Opcode) (store : Store) :
    Prop where
  code : store.read instruction.address = .ok instruction.code
  operation : Opcode.ofWord? instruction.code = some op
  fetched : instruction.fetched = op.arity
  operand : ∀ i (inside : i < 3), i < op.arity →
    store.read (instruction.address + 1 + UInt32.ofNat i) = .ok instruction.operands[i]
  unused : ∀ i (inside : i < 3), op.arity ≤ i → instruction.operands[i] = 0

theorem Instruction.following_eq {instruction : Instruction} {n : Nat}
    (fetched : instruction.fetched = n) :
    instruction.following = instruction.address + 1 + UInt32.ofNat n := by
  have same : UInt32.ofInt (n : Int) = UInt32.ofNat n := by
    apply UInt32.toNat_inj.mp
    rw [UInt32.ofInt, UInt32.toNat_ofNat', UInt32.toNat_ofNat']
    omega
  rw [Instruction.following, Instruction.size, fetched, same, UInt32.add_assoc]

namespace Machine

/-- The operands that are fetched stand one behind the other; no other operand changes. -/
theorem fetchOperands_operands {store : Store} (more : Nat) {instruction result : Instruction}
    {n : Nat}
    (fetched : instruction.fetched = n) (read : fetchOperands store instruction more = .ok result)
    (i : Nat) (inside : i < 3) :
    (n ≤ i → i < n + more →
      store.read (instruction.address + 1 + UInt32.ofNat i) = .ok result.operands[i]) ∧
    (i < n ∨ n + more ≤ i → result.operands[i] = instruction.operands[i]) := by
  induction more generalizing instruction n with
  | zero =>
    cases read
    exact ⟨fun low high => by omega, fun _ => rfl⟩
  | succ more ih =>
    rw [fetchOperands] at read
    split at read
    · cases read
    · rename_i word found
      rw [Instruction.following_eq fetched] at found
      have advanced : instruction.fetched + 1 = (n + 1 : Nat) := by rw [fetched]; rfl
      obtain ⟨later, kept⟩ := ih advanced read
      have place : instruction.fetched.toNat = n := by rw [fetched]; rfl
      simp only [place, Vector.getElem_setIfInBounds] at kept
      constructor
      · intro low high
        by_cases here : n = i
        · subst here
          rw [kept (.inl (Nat.lt_succ_self n)), if_pos rfl]
          exact found
        · exact later (by omega) (by omega)
      · intro outside
        rw [kept (by omega), if_neg (by omega)]

theorem decode_standsIn {machine : Machine} {address : UInt32} {instruction : Instruction}
    (read : machine.decode address = .ok instruction) :
    instruction.address = address ∧ ∃ op, instruction.StandsIn op machine.store := by
  rw [decode] at read
  split at read
  · cases read
  · rename_i word found
    obtain ⟨within, _⟩ := read_eq_ok found
    split at read
    · cases read
    · rename_i op known
      obtain ⟨place, code, count, _⟩ := fetchOperands_eq_ok (n := 0) op.arity rfl within read
      have words := fetchOperands_operands (n := 0) op.arity rfl read
      have address_eq : instruction.address = address := place
      have code_eq : instruction.code = word := code
      refine ⟨address_eq, op, ?_, ?_, ?_, ?_, ?_⟩
      · rw [address_eq, code_eq, found]
      · rw [code_eq, known]
      · rw [count, Nat.zero_add]
      · intro i inside fetched
        rw [address_eq]
        exact (words i inside).1 (Nat.zero_le i) (by omega)
      · intro i inside beyond
        rw [(words i inside).2 (.inr (by omega))]
        simp [unread]

end Machine

/-! ## One step -/

/-- What an event says of the step from one machine to the next. -/
structure StepEvent.Records (event : StepEvent) (before after : Machine) : Prop where
  sequence : event.sequence = before.count + 1
  address : event.instruction.address = before.pc
  stands : ∃ op, event.instruction.StandsIn op before.store
  next : event.next = after.pc
  registers : event.registers = after.registers
  depth : event.depth = after.stack.depth
  counted : after.count = before.count + 1

namespace Machine

variable {τ : Type} [Channel τ]

theorem step_records {machine : Machine} {console : Option τ} {event : StepEvent}
    (told : (machine.step console).1.notice = .stepped event) :
    event.Records machine (machine.step console).2.1 := by
  rcases machine.step_cases console with ⟨_, _, _, faulted, _⟩ |
    ⟨instruction, _, next, halts, performed, _, read, _, does, stepped⟩
  · rw [faulted] at told
    cases told
  · rw [stepped] at told ⊢
    obtain rfl : (performed.commit next).eventOf instruction = event := by
      cases halts <;> exact Notice.stepped.inj told
    obtain ⟨place, op, stands⟩ := decode_standsIn read
    have counted : (performed.commit next).count = machine.count + 1 := by
      rw [← does.count_eq]
      rfl
    exact ⟨counted, place, ⟨op, stands⟩, rfl, rfl, rfl, counted⟩

theorem step_of_faulted {machine : Machine} {console : Option τ} {fault : Fault}
    (told : (machine.step console).1.notice = .faulted fault) :
    (machine.step console).2.1 = machine ∧ fault.pc = machine.pc := by
  rcases machine.step_cases console with ⟨_, _, _, faulted, _⟩ |
    ⟨_, _, _, halts, _, _, _, _, _, stepped⟩
  · rw [faulted] at told ⊢
    cases told
    exact ⟨rfl, machine.address_instructionAt machine.pc⟩
  · rw [stepped] at told
    cases halts <;> cases told

/-! ## Plain steps -/

theorem length_steps (n : Nat) (machine : Machine) (console : Option τ) :
    (machine.steps n console).1.length = n := by
  induction n generalizing machine console with
  | zero => rfl
  | succ n ih => simp [steps, ih]

theorem final_of_steps_add (m n : Nat) (machine : Machine) (console : Option τ) :
    (machine.steps (m + n) console).2 =
      ((machine.steps m console).2.1.steps n (machine.steps m console).2.2).2 := by
  rw [steps_add]

theorem steps_succ (n : Nat) (machine : Machine) (console : Option τ) :
    (machine.steps (n + 1) console).2 =
      ((machine.steps n console).2.1.step (machine.steps n console).2.2).2 :=
  final_of_steps_add n 1 machine console

/-- What comes of the step after `i` others. -/
theorem getElem?_steps {n i : Nat} (inside : i < n) (machine : Machine) (console : Option τ) :
    (machine.steps n console).1[i]? =
      some ((machine.steps i console).2.1.step (machine.steps i console).2.2).1 := by
  obtain ⟨k, rfl⟩ := Nat.exists_eq_add_of_lt inside
  rw [Nat.add_assoc, steps_add, List.getElem?_append_right
    (Nat.le_of_eq (length_steps i machine console)), length_steps, Nat.sub_self]
  rfl

end Machine

/-! ## Stretches of steps -/

/-- What observers are told: events, and at the end a fault if there is one. -/
def notices (events : List StepEvent) (fault : Option Fault) : List Notice :=
  events.map .stepped ++ fault.toList.map .faulted

/-- If at most the last of some instructions ends the program, only the last can have faulted. -/
theorem notices_of_outcomes {outcomes : List Outcome}
    (continues : ∀ outcome ∈ outcomes.dropLast, outcome.ending? = none) :
    ∃ events, outcomes.map Outcome.notice =
      notices events ((outcomes.findSome? Outcome.ending?).bind Ending.fault?) := by
  induction outcomes with
  | nil => exact ⟨[], rfl⟩
  | cons outcome rest ih =>
    cases rest with
    | nil =>
      cases outcome with
      | continued event | halted event => exact ⟨[event], rfl⟩
      | faulted fault => exact ⟨[], rfl⟩
    | cons following others =>
      rw [List.dropLast_cons_of_ne_nil (List.cons_ne_nil _ _), List.forall_mem_cons] at continues
      obtain ⟨events, told⟩ := ih continues.2
      cases outcome with
      | continued event =>
        refine ⟨event :: events, ?_⟩
        rw [List.map_cons, told]
        rfl
      | halted event | faulted fault => cases continues.1

namespace Session

variable {τ ω : Type} [Channel τ]

/-- The observer was told of plain steps, one notice for each, and these steps lead to the same
    machine up to the flags of runs and to the same terminal. -/
structure Advanced (notify : Notice → ω → ω) (before : Session τ ω) (told : List Notice)
    (after : Session τ ω) : Prop where
  outcomes : (before.machine.steps told.length before.console).1.map Outcome.notice = told
  machine : after.machine.Agree (before.machine.steps told.length before.console).2.1
  console : after.console = (before.machine.steps told.length before.console).2.2
  observer : after.observer =
    told.foldl (fun observer notice => notify notice observer) before.observer

theorem Advanced.trans {notify : Notice → ω → ω} {before middle after : Session τ ω}
    {earlier later : List Notice} (first : Advanced notify before earlier middle)
    (second : Advanced notify middle later after) :
    Advanced notify before (earlier ++ later) after := by
  obtain ⟨outcomes, remaining, machines⟩ := first.machine.steps later.length middle.console
  rw [first.console] at outcomes remaining machines
  have joined := before.machine.steps_add earlier.length later.length before.console
  rw [← List.length_append] at joined
  refine ⟨?_, ?_, ?_, ?_⟩
  · rw [joined, List.map_append, first.outcomes, ← outcomes, ← first.console, second.outcomes]
  · rw [joined]
    exact second.machine.trans (by rw [first.console]; exact machines)
  · rw [joined, second.console, first.console]
    exact remaining
  · rw [second.observer, first.observer, List.foldl_append]

theorem Stretch.refl (notify : Notice → ω → ω) (session : Session τ ω) :
    Stretch notify session 0 none session :=
  stretch_zero ⟨rfl, rfl, rfl, rfl, rfl, rfl⟩ rfl rfl

/-- A stretch of steps, at most the last of which ended the program. -/
theorem Stretch.advanced {notify : Notice → ω → ω} {before after : Session τ ω} {n : Nat}
    {ending : Option Ending} (stretch : Stretch notify before n ending after) :
    ∃ events, Advanced notify before (notices events (ending.bind Ending.fault?)) after := by
  obtain ⟨events, told⟩ := notices_of_outcomes stretch.continues
  rw [stretch.ends] at told
  have count : (notices events (ending.bind Ending.fault?)).length = n := by
    rw [← told, List.length_map, Machine.length_steps]
  refine ⟨events, ?_, ?_, ?_, ?_⟩
  · rw [count, told]
  · rw [count]
    exact stretch.machine
  · rw [count]
    exact stretch.console
  · rw [← told, List.foldl_map]
    exact stretch.observer

/-! ## Demands -/

/-- What is asked of a machine that nobody changes from outside: a step, a run during which stop
    requests may arrive, a stop, or other breakpoints. -/
inductive Demand where
  | drive (call : RunCall)
  | step
  | breakpoints (debugger : Option Debugger)

/-- The session after a demand, and the fault that ended it, if one did. -/
def meet (notify : Notice → ω → ω) (session : Session τ ω) : Demand → Option Fault × Session τ ω
  | .drive call =>
    ((session.carryOut notify call).1.bind Ending.fault?, (session.carryOut notify call).2)
  | .step => ((session.step notify).1.ending?.bind Ending.fault?, (session.step notify).2)
  | .breakpoints debugger => (none, { session with debugger })

/-- Meets demands in turn, up to the first that ends in a fault. -/
def meetAll (notify : Notice → ω → ω) : List Demand → Session τ ω → Option Fault × Session τ ω
  | [], session => (none, session)
  | demand :: rest, session =>
    match session.meet notify demand with
    | (some fault, after) => (some fault, after)
    | (none, after) => meetAll notify rest after

theorem meet_advanced (notify : Notice → ω → ω) (session : Session τ ω) (demand : Demand) :
    ∃ events, Advanced notify session (notices events (session.meet notify demand).1)
      (session.meet notify demand).2 := by
  cases demand with
  | drive call =>
    cases call with
    | run stops fuel =>
      obtain ⟨_, stretch, _, _⟩ := runFrom_stretch notify stops fuel 0 session (Prod.ext rfl rfl)
      have final : (((session.run notify stops fuel).1.bind Ending.final?).bind Ending.fault?) =
          (session.run notify stops fuel).1.bind Ending.fault? := by
        rcases (session.run notify stops fuel).1 with _ | _ | _ | _ | _ <;> rfl
      have advanced := stretch.advanced
      rw [← run, final] at advanced
      exact advanced
    | stop => exact ((Stretch.refl notify session).requestStopIf true).advanced
  | step => exact (step_stretch (Prod.ext rfl rfl)).advanced
  | breakpoints debugger =>
    have same : Stretch notify session 0 none { session with debugger } :=
      stretch_zero ⟨rfl, rfl, rfl, rfl, rfl, rfl⟩ rfl rfl
    exact same.advanced

theorem meetAll_advanced (notify : Notice → ω → ω) (demands : List Demand) (session : Session τ ω) :
    ∃ events, Advanced notify session (notices events (session.meetAll notify demands).1)
      (session.meetAll notify demands).2 := by
  induction demands generalizing session with
  | nil => exact (Stretch.refl notify session).advanced
  | cons demand rest ih =>
    obtain ⟨events, first⟩ := session.meet_advanced notify demand
    rcases met : session.meet notify demand with ⟨fault, after⟩
    rw [met] at first
    cases fault with
    | some fault =>
      simp only [meetAll, met]
      exact ⟨events, first⟩
    | none =>
      simp only [meetAll, met]
      obtain ⟨others, further⟩ := ih after
      refine ⟨events ++ others, ?_⟩
      have whole := first.trans further
      simp only [notices, Option.toList_none, List.map_nil, List.append_nil, ← List.append_assoc,
        ← List.map_append] at whole
      exact whole

/-! ## Chains of events -/

/-- The events of steps from a machine on a terminal, up to the machine that they lead to. -/
structure Chain (machine : Machine) (console : Option τ) (events : List StepEvent)
    (final : Machine) :
    Prop where
  recorded : ∀ i (inside : i < events.length),
    events[i].Records (machine.steps i console).2.1 (machine.steps (i + 1) console).2.1
  numbered : ∀ i (inside : i < events.length),
    events[i].sequence = machine.count + UInt64.ofNat (i + 1)
  first : ∀ event, events.head? = some event → event.instruction.address = machine.pc
  linked : ∀ i (inside : i + 1 < events.length),
    events[i + 1].instruction.address = events[i].next
  reached : final.Agree (machine.steps events.length console).2.1
  last : final.pc = (events.getLast?.map StepEvent.next).getD machine.pc
  counted : final.count = machine.count + UInt64.ofNat events.length

/-- The number of instructions after `i` steps that are recorded. -/
theorem count_of_recorded {machine : Machine} {console : Option τ} {events : List StepEvent}
    (recorded : ∀ i (inside : i < events.length),
      events[i].Records (machine.steps i console).2.1 (machine.steps (i + 1) console).2.1)
    {i : Nat} (inside : i ≤ events.length) :
    (machine.steps i console).2.1.count = machine.count + UInt64.ofNat i := by
  induction i with
  | zero => simp [Machine.steps]
  | succ i ih =>
    rw [(recorded i inside).counted, ih (by omega), UInt64.ofNat_add, UInt64.add_assoc]
    rfl

theorem chain_of_recorded {machine final : Machine} {console : Option τ} {events : List StepEvent}
    (recorded : ∀ i (inside : i < events.length),
      events[i].Records (machine.steps i console).2.1 (machine.steps (i + 1) console).2.1)
    (reached : final.Agree (machine.steps events.length console).2.1) :
    Chain machine console events final := by
  refine ⟨recorded, ?_, ?_, ?_, reached, ?_, ?_⟩
  · intro i inside
    rw [(recorded i inside).sequence, count_of_recorded recorded (Nat.le_of_lt inside),
      UInt64.ofNat_add, UInt64.add_assoc]
    rfl
  · intro event head
    cases events with
    | nil => cases head
    | cons other rest =>
      cases head
      exact (recorded 0 (Nat.zero_lt_succ _)).address
  · intro i inside
    rw [(recorded (i + 1) inside).address, (recorded i (by omega)).next]
  · rw [reached.pc]
    by_cases empty : events = []
    · subst empty
      rfl
    · have positive := List.length_pos_iff.mpr empty
      have next := (recorded (events.length - 1) (by omega)).next
      rw [Nat.sub_add_cancel positive] at next
      rw [List.getLast?_eq_getElem?, List.getElem?_eq_getElem (by omega), Option.map_some,
        Option.getD_some, next]
  · rw [reached.count, count_of_recorded recorded (Nat.le_refl _)]

theorem Advanced.notice_eq {notify : Notice → ω → ω} {before after : Session τ ω}
    {told : List Notice} (advanced : Advanced notify before told after) {i : Nat}
    (inside : i < told.length) :
    told[i] =
      ((before.machine.steps i before.console).2.1.step
        (before.machine.steps i before.console).2.2).1.notice := by
  have here := congrArg (·[i]?) advanced.outcomes
  simp only [List.getElem?_map, Machine.getElem?_steps inside, Option.map_some,
    List.getElem?_eq_getElem inside] at here
  exact (Option.some.inj here).symm

/-- The step after `i` others is that of the event at this place. -/
theorem Advanced.stepped {notify : Notice → ω → ω} {before after : Session τ ω}
    {events : List StepEvent}
    {fault : Option Fault} (advanced : Advanced notify before (notices events fault) after)
    {i : Nat} (inside : i < events.length) :
    ((before.machine.steps i before.console).2.1.step
      (before.machine.steps i before.console).2.2).1.notice = .stepped events[i] := by
  have within : i < (notices events fault).length := by
    simp only [notices, List.length_append, List.length_map]
    omega
  rw [← advanced.notice_eq within]
  simp [notices, inside]

/-- The step after all events faulted, if there was a fault. -/
theorem Advanced.faulted {notify : Notice → ω → ω} {before after : Session τ ω}
    {events : List StepEvent} {fault : Fault}
    (advanced : Advanced notify before (notices events (some fault)) after) :
    after.machine.Agree (before.machine.steps events.length before.console).2.1 ∧
      fault.pc = after.machine.pc := by
  have count : (notices events (some fault)).length = events.length + 1 := by simp [notices]
  have last := advanced.notice_eq (i := events.length) (by omega)
  have reached := advanced.machine
  rw [show (notices events (some fault))[events.length] = .faulted fault by simp [notices]] at last
  obtain ⟨same, place⟩ := Machine.step_of_faulted last.symm
  rw [count, Machine.steps_succ, same] at reached
  exact ⟨reached, place.trans reached.pc.symm⟩

theorem Advanced.chain {notify : Notice → ω → ω} {before after : Session τ ω}
    {events : List StepEvent} {fault : Option Fault}
    (advanced : Advanced notify before (notices events fault) after) :
    Chain before.machine before.console events after.machine := by
  apply chain_of_recorded
  · intro i inside
    rw [Machine.steps_succ]
    exact Machine.step_records (advanced.stepped inside)
  · cases fault with
    | none => simpa [notices] using advanced.machine
    | some fault => exact advanced.faulted.1

end Session

/-- Each observer of several is told everything in order. -/
theorem Observers.foldl_notify (told : List Notice) (observers : Observers) :
    (told.foldl (fun observers notice => observers.notify notice) observers).recorder =
        observers.recorder.map (fun recorder => told.foldl Recorder.notify recorder) ∧
      (told.foldl (fun observers notice => observers.notify notice) observers).tracers =
        observers.tracers ∧
      (told.foldl (fun observers notice => observers.notify notice) observers).lines.toList =
        observers.lines.toList ++
          told.flatMap fun notice => observers.tracers.filterMap (·.line? notice) := by
  induction told generalizing observers with
  | nil => simp
  | cons notice rest ih =>
    obtain ⟨recorder, tracers, lines⟩ := ih (observers.notify notice)
    have same : (observers.notify notice).tracers = observers.tracers := rfl
    have recorded : (observers.notify notice).recorder =
        observers.recorder.map (·.notify notice) := rfl
    refine ⟨?_, ?_, ?_⟩
    · rw [List.foldl_cons, recorder, recorded, Option.map_map]
      rfl
    · rw [List.foldl_cons, tracers, same]
    · rw [List.foldl_cons, lines, Observers.lines_notify, same, List.flatMap_cons,
        List.append_assoc]

namespace Session

variable {τ ω : Type} [Channel τ]

/-- Observers are told a faithful chain. However a machine is driven, by single steps and runs, with
    any breakpoints and stops, its observer is told of the steps that were carried out, one event
    for each, and then of the fault if it came to one, and of nothing else. The events are numbered
    on from the count of instructions and lead from the program counter at first to the one at last;
    each holds the instruction that stood in memory before its step and the state after it. Where
    there are several observers, each is told all of it. -/
theorem events_form_chain (notify : Notice → ω → ω) (demands : List Demand)
    (session : Session τ ω) :
    ∃ events : List StepEvent,
      (session.meetAll notify demands).2.observer =
        (notices events (session.meetAll notify demands).1).foldl
          (fun observer notice => notify notice observer) session.observer ∧
      Chain session.machine session.console events (session.meetAll notify demands).2.machine ∧
      (∀ fault, (session.meetAll notify demands).1 = some fault →
        fault.pc = (session.meetAll notify demands).2.machine.pc) ∧
      ∀ observers : Observers,
        let told := notices events (session.meetAll notify demands).1
        let after := told.foldl (fun observers notice => observers.notify notice) observers
        after.recorder =
            observers.recorder.map (fun recorder => told.foldl Recorder.notify recorder) ∧
          after.lines.toList = observers.lines.toList ++
            told.flatMap fun notice => observers.tracers.filterMap (·.line? notice) := by
  obtain ⟨events, advanced⟩ := session.meetAll_advanced notify demands
  refine ⟨events, advanced.observer, advanced.chain, ?_, ?_⟩
  · intro fault is
    rw [is] at advanced
    exact advanced.faulted.2
  · intro observers
    obtain ⟨recorder, _, lines⟩ := observers.foldl_notify
      (notices events (session.meetAll notify demands).1)
    exact ⟨recorder, lines⟩

end Session

end WordMachine
