import WordMachine.Proofs.Operations

/-!
What one instruction can come to. Whatever goes wrong before the terminal is asked lies within the
machine (`internal_of_resolve`). A step either faults, and the machine is as it was, or performs the
change that the instruction was resolved to and moves on (`step_cases`): everything else
about steps is derived from these two cases.
-/

namespace WordMachine

namespace Machine

/-! ## What can go wrong -/

theorem Refused.internal {machine : Machine} {op : Opcode} {instruction : Instruction}
    {cause : Cause} (refused : machine.Refused instruction op cause) : Internal cause := by
  cases refused <;> exact ⟨_, rfl, by decide⟩

theorem internal_objection (word : UInt16) : Internal (objection word) := by
  refine ⟨_, kind?_objection word, ?_⟩
  split <;> decide

theorem internal_of_resolve {machine : Machine} {instruction : Instruction} {cause : Cause}
    (failed : machine.resolve instruction = .error cause) : Internal cause := by
  cases known : Opcode.ofWord? instruction.code with
  | none =>
    rw [resolve, known] at failed
    cases failed
    exact ⟨_, rfl, by decide⟩
  | some op =>
    rcases refused_of_resolve known failed with ⟨word, rfl⟩ | refused
    · exact internal_objection word
    · exact refused.internal

section
variable {τ : Type} [Channel τ]

theorem takeInput_error_kind {pending : List UInt8} {console remaining : Option τ} {cause : Cause}
    (failed : takeInput pending console = (.error cause, remaining)) :
    cause.kind? = some .inputClosed := by
  unfold takeInput at failed
  split at failed
  · cases failed
  · cases failed
    rfl
  · split at failed
    · cases failed
    all_goals
      cases failed
      rfl

theorem putOutput_error_kind {console remaining : Option τ} {c : Char} {cause : Cause}
    (failed : putOutput console c = (.error cause, remaining)) : cause.kind? = some .output := by
  unfold putOutput at failed
  split at failed
  · cases failed
    rfl
  · split at failed
    · cases failed
    · cases failed
      rfl

/-! ## Carrying an instruction out -/

/-- What a change makes of a machine. Only taking input depends on more than the machine. -/
inductive Performed (machine : Machine) : Change → Machine → Prop
  | input (index : Fin registerCount) (first : UInt8) (rest : List UInt8) :
      Performed machine (.input index)
        { machine with pending := rest, registers := machine.registers.set index first.toUInt16 }
  | plain {change : Change} (noInput : ∀ index, change ≠ .input index) :
      Performed machine change (machine.apply change)

/-- An instruction that cannot be carried out leaves the machine as it is, for a reason that
    belongs to a kind of fault. -/
theorem execute_eq_error {machine after : Machine} {console remaining : Option τ}
    {instruction : Instruction} {cause : Cause}
    (failed : machine.execute console instruction = (.error cause, after, remaining)) :
    after = machine ∧ ∃ kind, cause.kind? = some kind := by
  rw [execute] at failed
  split at failed
  · rename_i refused
    cases failed
    obtain ⟨kind, is, _⟩ := internal_of_resolve refused
    exact ⟨rfl, kind, is⟩
  · split at failed
    · split at failed
      · rename_i refused
        cases failed
        exact ⟨rfl, _, putOutput_error_kind refused⟩
      · cases failed
    · split at failed
      · rename_i refused
        cases failed
        exact ⟨rfl, _, takeInput_error_kind refused⟩
      · cases failed
    · cases failed

/-- An instruction that is carried out performs the change that it was resolved to. -/
theorem execute_eq_ok {machine after : Machine} {console remaining : Option τ}
    {instruction : Instruction} {completion : Completion}
    (done : machine.execute console instruction = (.ok completion, after, remaining)) :
    ∃ change, machine.resolve instruction = .ok ⟨change, completion.next, completion.halts⟩ ∧
      Performed machine change after := by
  rw [execute] at done
  split at done
  · cases done
  · rename_i change next halts resolved
    refine ⟨change, ?_⟩
    split at done
    · split at done
      · cases done
      · cases done
        exact ⟨resolved, .plain (by simp)⟩
    · split at done
      · cases done
      · cases done
        exact ⟨resolved, .input ..⟩
    · rename_i noInput
      cases done
      exact ⟨resolved, .plain noInput⟩

/-- A change that needs no terminal is made as it stands. -/
theorem step_of_plain {machine : Machine} {instruction : Instruction} {change : Change}
    {next : UInt32}
    {halts : Bool} (console : Option τ) (read : machine.decode machine.pc = .ok instruction)
    (resolved : machine.resolve instruction = .ok ⟨change, next, halts⟩)
    (noOutput : ∀ c, change ≠ .write c) (noInput : ∀ index, change ≠ .input index) :
    (machine.step console).2 = ((machine.apply change).commit next, console) := by
  simp only [step, execute, read, resolved]

/-- A step faults and leaves the machine as it is, or performs the change of the instruction at
    the program counter, moves on and counts it. -/
theorem step_cases (machine : Machine) (console : Option τ) :
    (∃ cause kind remaining,
      machine.step console =
        (.faulted ⟨machine.instructionAt machine.pc, cause⟩, machine, remaining) ∧
      cause.kind? = some kind) ∨
    ∃ instruction change next halts after remaining,
      machine.decode machine.pc = .ok instruction ∧
      machine.resolve instruction = .ok ⟨change, next, halts⟩ ∧
      Performed machine change after ∧
      machine.step console =
        (if halts then .halted ((after.commit next).eventOf instruction)
          else .continued ((after.commit next).eventOf instruction), after.commit next,
          remaining) := by
  cases read : machine.decode machine.pc with
  | error failure =>
    obtain ⟨instruction, cause⟩ := failure
    obtain ⟨_, kind, is, _⟩ := decode_eq_error read
    exact .inl ⟨cause, kind, console, by simp only [step, instructionAt, read], is⟩
  | ok instruction =>
    rcases carried : machine.execute console instruction with ⟨answer, after, remaining⟩
    cases answer with
    | error cause =>
      obtain ⟨rfl, kind, is⟩ := execute_eq_error carried
      exact .inl ⟨cause, kind, remaining, by simp only [step, instructionAt, read, carried], is⟩
    | ok completion =>
      obtain ⟨change, resolved, performed⟩ := execute_eq_ok carried
      exact .inr ⟨instruction, change, completion.next, completion.halts, after, remaining, rfl,
        resolved, performed, by simp only [step, read, carried]⟩

end

end Machine

end WordMachine
