import WordMachine.Machine.Run
import WordMachine.Proofs.Instructions
import WordMachine.Terminal.Memory
import WordMachine.Trace.Log

/-!
Faults. An instruction that faults has no effect but on the terminal: the machine is as it
was, the fault names the instruction that it stands on, and observers are told of the fault
and of nothing else (`step_fault_atomic`).
-/

namespace WordMachine

theorem FaultKind.mem_all (kind : FaultKind) : kind ∈ FaultKind.all := by
  cases kind <;> decide

/-! ## What observers are told -/

/-- Every tracer notes a fault. -/
theorem Tracer.isSome_line?_faulted (tracer : Tracer) (fault : Fault) :
    (tracer.line? (.faulted fault)).isSome := by
  cases tracer with
  | events => rfl
  | log debug => cases debug <;> rfl

/-- Each tracer in turn notes what it has to say, at most one line. -/
theorem Observers.lines_notify (observers : Observers) (notice : Notice) :
    (observers.notify notice).lines.toList =
      observers.lines.toList ++ observers.tracers.filterMap (·.line? notice) := by
  obtain ⟨recorder, tracers, lines⟩ := observers
  simp only [notify]
  induction tracers generalizing lines with
  | nil => simp
  | cons tracer rest ih =>
    rw [List.foldl_cons, ih]
    cases noted : tracer.line? notice with
    | none => simp [noted]
    | some line => simp [noted]

theorem Observers.recorder_notify_faulted (observers : Observers) (fault : Fault) :
    (observers.notify (.faulted fault)).recorder = observers.recorder.map (·.onFault fault) := rfl

/-! ## Faulting steps -/

/-- A fault is atomic. Whatever the machine and its terminal, a step that faults leaves the whole
    machine as it was; the fault is that of the instruction at its program counter, as far as it
    could be read, and of one of the eight kinds; the observer is told once, of the fault. Told of
    it, the recorder takes the fault and each tracer adds one line. -/
theorem step_fault_atomic {τ ω : Type} [Channel τ] (notify : Notice → ω → ω)
    (session after : Session τ ω) (fault : Fault)
    (faulted : session.step notify = (.faulted fault, after)) :
    after.machine = session.machine ∧
      after.debugger = session.debugger ∧
      fault.pc = session.machine.pc ∧
      fault.instruction = session.machine.instructionAt session.machine.pc ∧
      (∃ kind ∈ FaultKind.all, fault.kind? = some kind) ∧
      after.observer = notify (.faulted fault) session.observer ∧
      ∀ observers : Observers,
        (observers.notify (.faulted fault)).recorder = observers.recorder.map (·.onFault fault) ∧
        (observers.notify (.faulted fault)).lines.toList =
          observers.lines.toList ++ observers.tracers.filterMap (·.line? (.faulted fault)) ∧
        ∀ tracer ∈ observers.tracers, (tracer.line? (.faulted fault)).isSome := by
  obtain ⟨machine, console, debugger, observer⟩ := session
  rcases machine.step_cases console with ⟨cause, kind, remaining, stepped, is⟩ |
    ⟨instruction, change, next, halts, _, remaining, _, _, _, stepped⟩
  · simp only [Session.step, stepped, Prod.mk.injEq, Outcome.faulted.injEq] at faulted
    obtain ⟨rfl, rfl⟩ := faulted
    refine ⟨rfl, rfl, machine.address_instructionAt machine.pc, rfl, ⟨kind, kind.mem_all, is⟩, rfl,
      ?_⟩
    intro observers
    exact ⟨observers.recorder_notify_faulted _, observers.lines_notify _,
      fun tracer _ => tracer.isSome_line?_faulted _⟩
  · -- The other case of a step ends in a halt or goes on.
    simp only [Session.step, stepped, Prod.mk.injEq] at faulted
    cases halts <;> exact absurd faulted.1 (by simp)

/-- A machine that asks for input into R0, on a terminal without any: it has already asked the
    terminal when it faults. -/
theorem step_fault_atomic_at_input :
    let machine : Machine :=
      { Machine.initial with
        store := (Store.empty.put ⟨0, by decide⟩ 20).put ⟨1, by decide⟩ 32768 }
    let session : Session MemoryTerminal (List Notice) := ⟨machine, some .empty, none, []⟩
    let fault : Fault := ⟨⟨0, 20, #v[32768, 0, 0], 1⟩, .inputEnded⟩
    (session.step List.cons).1 = .faulted fault ∧
      (session.step List.cons).2.machine = machine ∧
      (session.step List.cons).2.observer = [.faulted fault] := by
  intro machine session fault
  have code : machine.store.read 0 = .ok 20 := rfl
  have operand : machine.store.read 1 = .ok 32768 := rfl
  have start : machine.pc = 0 := rfl
  have pending : machine.pending = [] := rfl
  -- The cells are not looked at any more: from here on the machine is known by these four facts.
  clear_value machine
  have read : machine.decode machine.pc = .ok ⟨0, 20, #v[32768, 0, 0], 1⟩ := by
    rw [start]
    exact Machine.decode_unary code rfl rfl operand
  have resolved : machine.resolve ⟨0, 20, #v[32768, 0, 0], 1⟩ =
      .ok ⟨.input ⟨0, by decide⟩, 2, false⟩ := rfl
  have outcome : (session.step List.cons).1 = .faulted fault := by
    simp only [Session.step, session, Machine.step, Machine.execute, read, resolved, pending]
    rfl
  obtain ⟨same, _, _, _, _, told, _⟩ :=
    step_fault_atomic List.cons session _ fault (Prod.ext outcome rfl)
  exact ⟨outcome, same, told⟩

end WordMachine
