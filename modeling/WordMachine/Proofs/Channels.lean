import WordMachine.Proofs.Resuming

/-!
What instructions ask of the terminal. An instruction either faults before the terminal is asked or
is resolved to a change, and only two changes need the terminal (`faulted_or_resolved`). One that
does not fault is carried out by the rule of its operation, and asks the terminal only if the rule
needs it (`step_carriedOut`). So a machine cannot tell two terminals apart that give the same
answers: if one terminal simulates another, a step does the same on both, except where the first has
nothing left to read (`step_simulates`).
-/

namespace WordMachine

/-- What comes of an instruction that was carried out. -/
def Outcome.completed (halts : Bool) (event : StepEvent) : Outcome :=
  if halts then .halted event else .continued event

@[simp] theorem Outcome.notice_completed (halts : Bool) (event : StepEvent) :
    (Outcome.completed halts event).notice = .stepped event := by
  cases halts <;> rfl

namespace Machine

/-! ## Instructions and the terminal -/

/-- The instruction at the program counter, and what it is resolved to. -/
structure Resolved (machine : Machine) (instruction : Instruction) (change : Change) (next : UInt32)
    (halts : Bool) : Prop where
  read : machine.decode machine.pc = .ok instruction
  action : machine.resolve instruction = .ok ⟨change, next, halts⟩

/-- An instruction faults for a reason of its own on every terminal, or is resolved to a change. -/
theorem faulted_or_resolved (machine : Machine) :
    (∃ fault : Fault, Internal fault.cause ∧ ∀ {τ : Type} [Channel τ] (console : Option τ),
      machine.step console = (.faulted fault, machine, console)) ∨
    ∃ instruction change next halts, machine.Resolved instruction change next halts := by
  cases read : machine.decode machine.pc with
  | error failure =>
    obtain ⟨instruction, cause⟩ := failure
    obtain ⟨_, within⟩ := decode_eq_error read
    exact .inl ⟨⟨instruction, cause⟩, within, fun console => by simp only [step, read]⟩
  | ok instruction =>
    cases action : machine.resolve instruction with
    | error cause =>
      exact .inl ⟨⟨instruction, cause⟩, internal_of_resolve action, fun console => by
        simp only [step, read, execute, action]⟩
    | ok resolved => exact .inr ⟨instruction, _, _, _, read, action⟩

section
variable {τ : Type} [Channel τ] {machine : Machine} {instruction : Instruction} {next : UInt32}
  {halts : Bool}

theorem Resolved.step_plain {change : Change}
    (resolved : machine.Resolved instruction change next halts)
    (noOutput : ∀ c, change ≠ .write c) (noInput : ∀ index, change ≠ .input index)
    (console : Option τ) :
    machine.step console =
      (.completed halts (((machine.apply change).commit next).eventOf instruction),
        (machine.apply change).commit next, console) := by
  simp only [step, execute, resolved.read, resolved.action, Outcome.completed]

theorem Resolved.step_write {c : Char}
    (resolved : machine.Resolved instruction (.write c) next halts) (console : Option τ) :
    machine.step console =
      match putOutput console c with
      | (.ok _, console) =>
        (.completed halts ((machine.commit next).eventOf instruction), machine.commit next, console)
      | (.error cause, console) => (.faulted ⟨instruction, cause⟩, machine, console) := by
  simp only [step, execute, resolved.read, resolved.action]
  rcases putOutput console c with ⟨answer, remaining⟩
  cases answer <;> rfl

theorem Resolved.step_input {index : Fin registerCount}
    (resolved : machine.Resolved instruction (.input index) next halts) (console : Option τ) :
    machine.step console =
      match takeInput machine.pending console with
      | (.ok (first, pending), console) =>
        let after : Machine :=
          { machine with pending, registers := machine.registers.set index first.toUInt16 }
        (.completed halts ((after.commit next).eventOf instruction), after.commit next, console)
      | (.error cause, console) => (.faulted ⟨instruction, cause⟩, machine, console) := by
  simp only [step, execute, resolved.read, resolved.action]
  rcases takeInput machine.pending console with ⟨answer, remaining⟩
  cases answer <;> rfl

end

/-! ## Instructions that are carried out -/

section
variable {τ : Type} [Channel τ]

theorem putOutput_eq_ok {console remaining : Option τ} {c : Char} {done : Unit}
    (taken : putOutput console c = (.ok done, remaining)) :
    ∃ terminal left, console = some terminal ∧ remaining = some left ∧
      Channel.writeChar terminal c = (.ok (), left) := by
  unfold putOutput at taken
  split at taken
  · cases taken
  · rename_i terminal
    split at taken
    · rename_i left written
      cases taken
      exact ⟨terminal, left, rfl, rfl, written⟩
    · cases taken

theorem takeInput_eq_ok {pending rest : List UInt8} {first : UInt8} {console remaining : Option τ}
    (taken : takeInput pending console = (.ok (first, rest), remaining)) :
    pending = first :: rest ∧ remaining = console ∨
      pending = [] ∧ ∃ terminal left, console = some terminal ∧ remaining = some left ∧
        Channel.readLine terminal = (.ok (first :: rest), left) := by
  unfold takeInput at taken
  split at taken
  · cases taken
    exact .inl ⟨rfl, rfl⟩
  · cases taken
  · rename_i terminal
    right
    split at taken
    · rename_i left read
      cases taken
      exact ⟨rfl, terminal, left, rfl, rfl, read⟩
    all_goals cases taken

/-- An action that was carried out: the machine and the terminal after it. Only two changes ask the
    terminal, each for one thing at most. -/
inductive CarriedOut (machine : Machine) (console : Option τ) : Action → Machine → Option τ → Prop
  | plain {change : Change} {next : UInt32} {halts : Bool} (noOutput : ∀ c, change ≠ .write c)
      (noInput : ∀ index, change ≠ .input index) :
      CarriedOut machine console ⟨change, next, halts⟩ ((machine.apply change).commit next) console
  | written {c : Char} {next : UInt32} {halts : Bool} {terminal left : τ}
      (attached : console = some terminal) (taken : Channel.writeChar terminal c = (.ok (), left)) :
      CarriedOut machine console ⟨.write c, next, halts⟩ (machine.commit next) (some left)
  | held {index : Fin registerCount} {next : UInt32} {halts : Bool} {first : UInt8}
      {rest : List UInt8} (pending : machine.pending = first :: rest) :
      CarriedOut machine console ⟨.input index, next, halts⟩
        ({ machine with
          pending := rest, registers := machine.registers.set index first.toUInt16 }.commit next)
        console
  | asked {index : Fin registerCount} {next : UInt32} {halts : Bool} {first : UInt8}
      {rest : List UInt8}
      {terminal left : τ} (pending : machine.pending = []) (attached : console = some terminal)
      (read : Channel.readLine terminal = (.ok (first :: rest), left)) :
      CarriedOut machine console ⟨.input index, next, halts⟩
        ({ machine with
          pending := rest, registers := machine.registers.set index first.toUInt16 }.commit next)
        (some left)

theorem Resolved.carriedOut {machine : Machine} {instruction : Instruction} {change : Change}
    {next : UInt32}
    {halts : Bool} (resolved : machine.Resolved instruction change next halts) {console : Option τ}
    (executed : ∀ fault, (machine.step console).1 ≠ .faulted fault) :
    ∃ after remaining, machine.CarriedOut console ⟨change, next, halts⟩ after remaining ∧
      (machine.step console).2 = (after, remaining) := by
  cases change with
  | write c =>
    rw [resolved.step_write] at executed ⊢
    rcases put : putOutput console c with ⟨answer, remaining⟩
    rw [put] at executed
    cases answer with
    | error cause => exact absurd rfl (executed _)
    | ok done =>
      obtain ⟨terminal, left, attached, rfl, taken⟩ := putOutput_eq_ok put
      exact ⟨_, _, .written attached taken, rfl⟩
  | input index =>
    rw [resolved.step_input] at executed ⊢
    rcases took : takeInput machine.pending console with ⟨answer, remaining⟩
    rw [took] at executed
    cases answer with
    | error cause => exact absurd rfl (executed _)
    | ok input =>
      obtain ⟨first, rest⟩ := input
      rcases takeInput_eq_ok took with ⟨pending, rfl⟩ |
        ⟨pending, terminal, left, attached, rfl, read⟩
      · exact ⟨_, _, .held pending, rfl⟩
      · exact ⟨_, _, .asked pending attached read, rfl⟩
  | _ => exact ⟨_, console, .plain nofun nofun, by rw [resolved.step_plain nofun nofun]⟩

theorem Resolved.acts {machine : Machine} {instruction : Instruction} {change : Change}
    {next : UInt32} {halts : Bool} (resolved : machine.Resolved instruction change next halts) :
    ∃ op, machine.Reads op instruction ∧ machine.Acts instruction op ⟨change, next, halts⟩ := by
  obtain ⟨op, decoded⟩ := decode_eq_ok resolved.read
  exact ⟨op, ⟨resolved.read, decoded.operation⟩, acts_of_resolve decoded.operation resolved.action⟩

/-- An instruction that does not fault is carried out by the rule of its operation. -/
theorem step_carriedOut {machine : Machine} {console : Option τ}
    (executed : ∀ fault, (machine.step console).1 ≠ .faulted fault) :
    ∃ op instruction action after remaining, machine.Reads op instruction ∧
      machine.Acts instruction op action ∧ machine.CarriedOut console action after remaining ∧
      (machine.step console).2 = (after, remaining) := by
  rcases machine.faulted_or_resolved with ⟨fault, _, faulted⟩ |
    ⟨instruction, change, next, halts, resolved⟩
  · exact absurd (by rw [faulted console]) (executed fault)
  · obtain ⟨op, reads, acts⟩ := resolved.acts
    obtain ⟨after, remaining, carried, stepped⟩ := resolved.carriedOut executed
    exact ⟨op, instruction, _, after, remaining, reads, acts, carried, stepped⟩

end

end Machine

/-! ## Terminals with the same answers -/

/-- One terminal answers like the other as long as it has something to read. -/
structure Simulates {σ τ : Type} [Channel σ] [Channel τ] (related : σ → τ → Prop) (dry : σ → Prop) :
    Prop where
  write : ∀ {left : σ} {right : τ} (c : Char), related left right →
    (Channel.writeChar left c).1 = (Channel.writeChar right c).1 ∧
      related (Channel.writeChar left c).2 (Channel.writeChar right c).2
  read : ∀ {left : σ} {right : τ}, related left right → dry left ∨
    (Channel.readLine left).1 = (Channel.readLine right).1 ∧
      related (Channel.readLine left).2 (Channel.readLine right).2

namespace Machine

/-- The next instruction takes input, and none is pending. -/
def Asking (machine : Machine) : Prop :=
  machine.pending = [] ∧
    ∃ instruction index next halts, machine.Resolved instruction (.input index) next halts

variable {σ τ : Type} [Channel σ] [Channel τ] {related : σ → τ → Prop} {dry : σ → Prop}

theorem putOutput_simulates (simulates : Simulates related dry) {left : σ} {right : τ}
    (start : related left right) (c : Char) :
    ∃ answer leftAfter rightAfter, putOutput (some left) c = (answer, some leftAfter) ∧
      putOutput (some right) c = (answer, some rightAfter) ∧ related leftAfter rightAfter := by
  have written := simulates.write c start
  simp only [putOutput]
  generalize Channel.writeChar left c = first, Channel.writeChar right c = second at written ⊢
  obtain ⟨answer, leftAfter⟩ := first
  obtain ⟨other, rightAfter⟩ := second
  obtain ⟨rfl, after⟩ := written
  cases answer with
  | error error => exact ⟨_, _, _, rfl, rfl, after⟩
  | ok _ => exact ⟨_, _, _, rfl, rfl, after⟩

theorem takeInput_simulates (simulates : Simulates related dry) {left : σ} {right : τ}
    (start : related left right) (pending : List UInt8) :
    pending = [] ∧ dry left ∨
      ∃ answer leftAfter rightAfter, takeInput pending (some left) = (answer, some leftAfter) ∧
        takeInput pending (some right) = (answer, some rightAfter) ∧
          related leftAfter rightAfter := by
  cases pending with
  | cons first rest => exact .inr ⟨_, left, right, rfl, rfl, start⟩
  | nil =>
    rcases simulates.read start with isDry | answered
    · exact .inl ⟨rfl, isDry⟩
    · right
      simp only [takeInput]
      generalize Channel.readLine left = first, Channel.readLine right = second at answered ⊢
      obtain ⟨answer, leftAfter⟩ := first
      obtain ⟨other, rightAfter⟩ := second
      obtain ⟨rfl, after⟩ := answered
      rcases answer with (_ | _) | (_ | _)
      all_goals exact ⟨_, _, _, rfl, rfl, after⟩

/-- A step does the same on both terminals, unless it asks for input that the first does not
    have. -/
theorem step_simulates (simulates : Simulates related dry) (machine : Machine) {left : σ}
    {right : τ} (start : related left right) :
    machine.Asking ∧ dry left ∨
      ∃ outcome after leftAfter rightAfter,
      machine.step (some left) = (outcome, after, some leftAfter) ∧
        machine.step (some right) = (outcome, after, some rightAfter) ∧
          related leftAfter rightAfter := by
  rcases machine.faulted_or_resolved with ⟨fault, _, faulted⟩ |
    ⟨instruction, change, next, halts, resolved⟩
  · exact .inr ⟨_, _, left, right, faulted _, faulted _, start⟩
  · cases change with
    | write c =>
      obtain ⟨answer, leftAfter, rightAfter, first, second, after⟩ :=
        putOutput_simulates simulates start c
      simp only [resolved.step_write, first, second]
      cases answer with
      | error cause => exact .inr ⟨_, _, _, _, rfl, rfl, after⟩
      | ok _ => exact .inr ⟨_, _, _, _, rfl, rfl, after⟩
    | input index =>
      rcases takeInput_simulates simulates start machine.pending with ⟨empty, isDry⟩ |
        ⟨answer, leftAfter, rightAfter, first, second, after⟩
      · exact .inl ⟨⟨empty, _, _, _, _, resolved⟩, isDry⟩
      · simp only [resolved.step_input, first, second]
        cases answer with
        | error cause => exact .inr ⟨_, _, _, _, rfl, rfl, after⟩
        | ok taken => exact .inr ⟨_, _, _, _, rfl, rfl, after⟩
    | _ =>
      exact .inr ⟨_, _, left, right, resolved.step_plain nofun nofun _,
        resolved.step_plain nofun nofun _, start⟩

/-- On terminals that always give the same answers a machine does the same for any number of
    instructions. -/
theorem steps_simulates (simulates : Simulates related fun _ => False) (n : Nat) (machine : Machine)
    {left : σ} {right : τ} (start : related left right) :
    ∃ outcomes after leftAfter rightAfter,
      machine.steps n (some left) = (outcomes, after, some leftAfter) ∧
      machine.steps n (some right) = (outcomes, after, some rightAfter) ∧
      related leftAfter rightAfter := by
  induction n generalizing machine left right with
  | zero => exact ⟨_, _, _, _, rfl, rfl, start⟩
  | succ n ih =>
    rcases machine.step_simulates simulates start with ⟨_, never⟩ |
      ⟨outcome, after, leftAfter, rightAfter, first, second, moved⟩
    · exact never.elim
    · obtain ⟨outcomes, final, leftFinal, rightFinal, leftSteps, rightSteps, ends⟩ := ih after moved
      refine ⟨outcome :: outcomes, final, leftFinal, rightFinal, ?_, ?_, ends⟩
      · simp only [steps, first, leftSteps]
      · simp only [steps, second, rightSteps]

end Machine

end WordMachine
