import Mathlib.Logic.Relation
import WordMachine.Disk.Loading
import WordMachine.Proofs.Snapshots
import WordMachine.Terminal.Memory

/-!
The states a machine can be in. `Operated` lists everything that can be done to a machine
from outside, and a machine is reachable if a sequence of these operations leads to it
from the initial one. Every operation keeps a machine within its bounds
(`operated_wellFormed`), so every reachable machine is within them.
-/

namespace WordMachine

namespace Machine

/-! ## Clearing, loading and editing -/

theorem reset_eq_initial {machine : Machine} (wellFormed : machine.WellFormed) :
    machine.reset = initial := by
  simp only [reset, Store.reset_eq_empty wellFormed.store, initial]

theorem load_wellFormed {machine : Machine} (wellFormed : machine.WellFormed)
    (words : List UInt16) : (machine.load words).2.WellFormed := by
  rw [load, reset_eq_initial wellFormed]
  cases loaded : initial.store.load words with
  | error cause => exact initial_wellFormed
  | ok store =>
    obtain ⟨registers, stack, pc, _⟩ := initial_wellFormed
    exact ⟨registers, stack, pc, Store.load_wellFormed Store.empty_wellFormed loaded⟩

/-- Loading a file is loading its words, or nothing at all. -/
theorem loadFile_machine (machine : Machine) (disk : Disk) (path : String) :
    (machine.loadFile disk path).2 = machine ∨
      ∃ words, (machine.loadFile disk path).2 = (machine.load words).2 := by
  rw [loadFile]
  cases disk.program path with
  | error error => exact .inl rfl
  | ok words =>
    refine .inr ⟨words, ?_⟩
    rcases loaded : machine.load words with ⟨answer, after⟩
    cases answer with
    | error cause => simp only [loaded]
    | ok _ => simp only [loaded]

theorem jump_wellFormed {machine : Machine} (wellFormed : machine.WellFormed) (address : UInt64) :
    (machine.jump address).WellFormed := by
  refine ⟨wellFormed.registers_le, wellFormed.stack_le, ?_, wellFormed.store⟩
  change (address % addressSpace.toUInt64).toUInt32.toNat ≤ addressSpace
  have modulus : (addressSpace.toUInt64).toNat = addressSpace := by decide
  rw [UInt64.toNat_toUInt32, UInt64.toNat_mod, modulus]
  have wrapped := Nat.mod_lt address.toNat (show addressSpace > 0 by decide)
  exact Nat.le_trans (Nat.mod_le _ _) (Nat.le_of_lt wrapped)

theorem setRegister?_wellFormed {machine after : Machine} (wellFormed : machine.WellFormed)
    {name : String} {value : UInt64} (accepted : machine.setRegister? name value = some after) :
    after.WellFormed := by
  simp only [setRegister?] at accepted
  split at accepted
  · cases accepted
    exact jump_wellFormed wellFormed value
  · split at accepted
    · cases accepted
    · rename_i index _
      split at accepted
      · rename_i small
        cases accepted
        have narrow : value.toUInt16 ≤ maxLiteral := by
          have bound : value.toNat ≤ 32767 := UInt64.le_iff_toNat_le.mp small
          rw [le_maxLiteral_iff, UInt64.toNat_toUInt16]
          exact Nat.lt_of_le_of_lt (Nat.mod_le _ _) (Nat.lt_succ_of_le bound)
        exact ⟨Registers.set_le wellFormed.registers_le index narrow, wellFormed.stack_le,
          wellFormed.pc_le, wellFormed.store⟩
      · cases accepted

end Machine

/-! ## Operations -/

/-- What can be done to a machine from outside: carrying out one instruction or a run on any
    terminal, clearing, loading words or a program file, restoring any snapshot, setting a register
    by name, moving the program counter, writing to memory, and asking for a stop. An operation
    that is refused counts too. -/
inductive Operated : Machine → Machine → Prop
  | step {τ : Type} [Channel τ] (machine : Machine) (console : Option τ) :
      Operated machine (machine.step console).2.1
  | run {τ ω : Type} [Channel τ] (session : Session τ ω) (notify : Notice → ω → ω)
      (stops : Nat → Bool) (fuel : Nat) :
      Operated session.machine (session.run notify stops fuel).2.machine
  | reset (machine : Machine) : Operated machine machine.reset
  | load (machine : Machine) (words : List UInt16) : Operated machine (machine.load words).2
  | loadFile (machine : Machine) (disk : Disk) (path : String) :
      Operated machine (machine.loadFile disk path).2
  | restore (machine : Machine) (snapshot : Snapshot) :
      Operated machine (snapshot.restore machine).2
  | setRegister (machine : Machine) (name : String) (value : UInt64) :
      Operated machine ((machine.setRegister? name value).getD machine)
  | jump (machine : Machine) (address : UInt64) : Operated machine (machine.jump address)
  | writeMemory (machine : Machine) (address : UInt64) (words : List UInt16) :
      Operated machine (machine.writeMemory address words)
  | requestStop (machine : Machine) : Operated machine machine.requestStop

/-- The machines that operations lead to from the initial one. -/
def Reachable (machine : Machine) : Prop :=
  Relation.ReflTransGen Operated .initial machine

/-- Every operation keeps the bounds. -/
theorem operated_wellFormed {before after : Machine} (operated : Operated before after)
    (wellFormed : before.WellFormed) : after.WellFormed := by
  cases operated with
  | step _ console => exact Machine.step_wellFormed wellFormed console
  | run session notify stops fuel => exact session.run_wellFormed notify stops fuel wellFormed
  | reset =>
    rw [Machine.reset_eq_initial wellFormed]
    exact Machine.initial_wellFormed
  | load _ words => exact Machine.load_wellFormed wellFormed words
  | loadFile _ disk path =>
    rcases before.loadFile_machine disk path with same | ⟨words, loaded⟩
    · rw [same]
      exact wellFormed
    · rw [loaded]
      exact Machine.load_wellFormed wellFormed words
  | restore _ snapshot => exact snapshot.restore_wellFormed wellFormed
  | setRegister _ name value =>
    cases accepted : before.setRegister? name value with
    | none => exact wellFormed
    | some after => exact Machine.setRegister?_wellFormed wellFormed accepted
  | jump _ address => exact Machine.jump_wellFormed wellFormed address
  | writeMemory _ address words =>
    exact ⟨wellFormed.registers_le, wellFormed.stack_le, wellFormed.pc_le,
      Store.storeWords_wellFormed words wellFormed.store address⟩
  | requestStop => exact wellFormed.withFlags true before.resuming

/-- Every sequence of operations keeps the bounds. -/
theorem operations_wellFormed {before after : Machine} (wellFormed : before.WellFormed)
    (operations : Relation.ReflTransGen Operated before after) : after.WellFormed := by
  induction operations with
  | refl => exact wellFormed
  | tail _ operated ih => exact operated_wellFormed operated ih

theorem Reachable.wellFormed {machine : Machine} (reachable : Reachable machine) :
    machine.WellFormed :=
  operations_wellFormed Machine.initial_wellFormed reachable

theorem Reachable.operated {machine after : Machine} (reachable : Reachable machine)
    (operated : Operated machine after) : Reachable after :=
  Relation.ReflTransGen.tail reachable operated

/-- The bounds are an invariant of the machine: it starts within them, and neither a single
    operation nor a sequence of operations of any length leads out of them. -/
theorem wellFormed_invariant :
    Machine.initial.WellFormed ∧
      (∀ before after, before.WellFormed → Operated before after → after.WellFormed) ∧
      ∀ before after, before.WellFormed → Relation.ReflTransGen Operated before after →
        after.WellFormed :=
  ⟨Machine.initial_wellFormed, fun _ _ wellFormed operated =>
    operated_wellFormed operated wellFormed,
    fun _ _ wellFormed operations => operations_wellFormed wellFormed operations⟩

/-- A program that writes a call over its own next instruction and then carries it out. -/
theorem wellFormed_after_self_modification :
    (((Machine.initial.load [16, 3, 17, 0, 32766]).2.step (some MemoryTerminal.empty)).2.1.step
      (some MemoryTerminal.empty)).2.1.WellFormed :=
  wellFormed_invariant.2.1 _ _
    (wellFormed_invariant.2.2 _ _ wellFormed_invariant.1
      (.tail (.single (.load _ _)) (.step _ (some MemoryTerminal.empty))))
    (.step _ (some MemoryTerminal.empty))

end WordMachine
