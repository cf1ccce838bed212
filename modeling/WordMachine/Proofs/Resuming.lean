import WordMachine.Proofs.Reachable

/-!
Saving a machine and going on elsewhere. What a machine does depends on everything but the
flags of runs (`step_withFlags`), and that is what a snapshot keeps, so a machine restored
from a snapshot goes on exactly as the one it was taken from (`restore_take_steps`).
-/

namespace WordMachine

namespace Machine

/-- Machines that differ at most in the flags of runs. -/
structure Agree (left right : Machine) : Prop where
  pc : left.pc = right.pc
  registers : left.registers = right.registers
  stack : left.stack = right.stack
  store : left.store = right.store
  pending : left.pending = right.pending
  count : left.count = right.count

theorem agree_withFlags (machine : Machine) (stopRequested resuming : Bool) :
    Agree { machine with stopRequested, resuming } machine :=
  ⟨rfl, rfl, rfl, rfl, rfl, rfl⟩

section
variable {τ : Type} [Channel τ]

/-- Carries out `n` instructions, also after one that halts or faults: what came of each, and the
    machine and the terminal afterwards. -/
def steps : (n : Nat) → Machine → Option τ → List Outcome × Machine × Option τ
  | 0, machine, console => ([], machine, console)
  | n + 1, machine, console =>
    match machine.step console with
    | (outcome, machine, console) =>
      match steps n machine console with
      | (outcomes, machine, console) => (outcome :: outcomes, machine, console)

theorem steps_of_step {machine after : Machine} {console remaining : Option τ} (n : Nat)
    (stepped : (machine.step console).2 = (after, remaining)) :
    (machine.steps (n + 1) console).2 = (after.steps n remaining).2 := by
  rcases whole : machine.step console with ⟨outcome, rest⟩
  rw [whole] at stepped
  have same : rest = (after, remaining) := stepped
  simp only [steps, whole, same]

/-! ## The flags of runs -/

theorem execute_withFlags (machine : Machine) (stopRequested resuming : Bool) (console : Option τ)
    (instruction : Instruction) :
    { machine with stopRequested, resuming }.execute console instruction =
      ((machine.execute console instruction).1,
        { (machine.execute console instruction).2.1 with stopRequested, resuming },
        (machine.execute console instruction).2.2) := by
  have same : { machine with stopRequested, resuming }.resolve instruction =
      machine.resolve instruction := rfl
  simp only [execute, same]
  cases machine.resolve instruction with
  | error cause => rfl
  | ok action =>
    obtain ⟨change, next, halts⟩ := action
    cases change with
    | write c =>
      rcases sent : putOutput console c with ⟨answer, remaining⟩
      cases answer <;> simp only [sent]
    | input index =>
      dsimp only
      rcases takeInput machine.pending console with ⟨answer, remaining⟩
      cases answer <;> rfl
    | _ => rfl

/-- A step neither looks at the flags nor changes them. -/
theorem step_withFlags (machine : Machine) (stopRequested resuming : Bool) (console : Option τ) :
    { machine with stopRequested, resuming }.step console =
      ((machine.step console).1, { (machine.step console).2.1 with stopRequested, resuming },
        (machine.step console).2.2) := by
  have same : { machine with stopRequested, resuming }.decode machine.pc =
    machine.decode machine.pc := rfl
  simp only [step, same]
  cases machine.decode machine.pc with
  | error failure => rfl
  | ok instruction =>
    simp only [execute_withFlags]
    rcases machine.execute console instruction with ⟨answer, after, remaining⟩
    cases answer <;> rfl

theorem steps_withFlags (n : Nat) (machine : Machine) (stopRequested resuming : Bool)
    (console : Option τ) :
    { machine with stopRequested, resuming }.steps n console =
      ((machine.steps n console).1, { (machine.steps n console).2.1 with stopRequested, resuming },
        (machine.steps n console).2.2) := by
  induction n generalizing machine console with
  | zero => rfl
  | succ n ih => simp only [steps, step_withFlags, ih]

end

end Machine

/-- A snapshot holds everything that decides what a machine will do. Taken from a machine that is
    not past the end of memory and restored into any other, it is accepted, and from there on both
    machines do the same for any number of instructions on any terminal: the same outcomes, the
    same terminal afterwards, whatever it keeps of what it sends and is asked for, and machines
    that differ in nothing but the flags of runs. -/
theorem restore_take_steps {machine other : Machine} (reachable : Reachable machine)
    (otherReachable : Reachable other) (inside : machine.pc.toNat < addressSpace) :
    ∃ restored, (Snapshot.take machine).restore other = (.ok (), restored) ∧
      ∀ {τ : Type} [Channel τ] (console : Option τ) (n : Nat),
        (restored.steps n console).1 = (machine.steps n console).1 ∧
        (restored.steps n console).2.2 = (machine.steps n console).2.2 ∧
        (restored.steps n console).2.1.Agree (machine.steps n console).2.1 := by
  refine ⟨_, Snapshot.restore_take reachable.wellFormed otherReachable.wellFormed inside, ?_⟩
  intro τ _ console n
  rw [machine.steps_withFlags n false false console]
  exact ⟨rfl, rfl, Machine.agree_withFlags _ false false⟩

/-- A machine in the middle of a line of input, restored into one that ran another program. -/
theorem restore_take_steps_within_line :
    let asking := Machine.initial.writeMemory 0 [20, 32768, 20, 32769]
    let machine := (asking.step (some (⟨[[104, 105, 10]], #[]⟩ : MemoryTerminal))).2.1
    let other := ((Machine.initial.load [21, 21]).2.step (some MemoryTerminal.empty)).2.1
    machine.pending = [105, 10] ∧
      ∃ restored, (Snapshot.take machine).restore other = (.ok (), restored) ∧
        ∀ n, (restored.steps n (some MemoryTerminal.empty)).1 =
          (machine.steps n (some MemoryTerminal.empty)).1 := by
  intro asking machine other
  have start : asking.pc = 0 := rfl
  have nothing : asking.pending = [] := rfl
  have code : asking.store.read 0 = .ok 20 := rfl
  have operand : asking.store.read 1 = .ok 32768 := rfl
  have reachable : Reachable asking := .single (.writeMemory _ _ _)
  clear_value asking
  have read : asking.decode asking.pc = .ok ⟨0, 20, #v[32768, 0, 0], 1⟩ := by
    rw [start]
    exact Machine.decode_unary code rfl rfl operand
  have resolved : asking.resolve ⟨0, 20, #v[32768, 0, 0], 1⟩ =
      .ok ⟨.input ⟨0, by decide⟩, 2, false⟩ := rfl
  have pending : machine.pending = [105, 10] := by
    simp only [machine, Machine.step, Machine.execute, read, resolved, nothing]
    rfl
  have place : machine.pc = 2 := by
    simp only [machine, Machine.step, Machine.execute, read, resolved, nothing]
    rfl
  have inside : machine.pc.toNat < addressSpace := by
    rw [place]
    decide
  have otherReachable : Reachable other :=
    .tail (.single (.load _ _)) (.step _ (some MemoryTerminal.empty))
  obtain ⟨restored, accepted, same⟩ :=
    restore_take_steps (reachable.operated (.step asking _)) otherReachable inside
  exact ⟨pending, restored, accepted, fun n => (same _ n).1⟩

end WordMachine
