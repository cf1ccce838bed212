import WordMachine.Machine.Run
import WordMachine.Proofs.Instructions
import WordMachine.Proofs.Memory

/-!
Machines within their bounds: registers and stack hold 15-bit words, the program
counter is at most one past the end of memory, and memory is zero beyond its extent.
A program can only compute such words (`Acts.within`), so a step keeps the machine
within its bounds (`step_wellFormed`), and so does every run (`runFrom_keeps`). Only an
instruction at the very end leads out of memory (`following_of_step_outside`).
-/

namespace WordMachine

/-! ## Words of 15 bits -/

theorem toNat_toUInt32_lt {word : UInt16} (narrow : word ≤ maxLiteral) :
    word.toUInt32.toNat < addressSpace :=
  (le_maxLiteral_iff word).mp narrow

theorem wordOfBool_le (b : Bool) : wordOfBool b ≤ maxLiteral := by
  cases b <;> decide

theorem toUInt16_mod_le (n : UInt32) : (n % 0x8000).toUInt16 ≤ maxLiteral := by
  have modulus : (0x8000 : UInt32).toNat = 32768 := rfl
  rw [le_maxLiteral_iff, UInt32.toNat_toUInt16, UInt32.toNat_mod, modulus]
  exact Nat.lt_of_le_of_lt (Nat.mod_le _ _) (Nat.mod_lt _ (by decide))

theorem mod_le_maxLiteral {left : UInt16} (narrow : left ≤ maxLiteral) (right : UInt16) :
    left % right ≤ maxLiteral := by
  rw [le_maxLiteral_iff] at narrow ⊢
  rw [UInt16.toNat_mod]
  exact Nat.lt_of_le_of_lt (Nat.mod_le _ _) narrow

theorem and_le_maxLiteral {right : UInt16} (narrow : right ≤ maxLiteral) (left : UInt16) :
    left &&& right ≤ maxLiteral := by
  rw [le_maxLiteral_iff] at narrow ⊢
  rw [UInt16.toNat_and]
  exact Nat.lt_of_le_of_lt Nat.and_le_right narrow

theorem or_le_maxLiteral {left right : UInt16} (leftNarrow : left ≤ maxLiteral)
    (rightNarrow : right ≤ maxLiteral) : left ||| right ≤ maxLiteral := by
  rw [le_maxLiteral_iff] at leftNarrow rightNarrow ⊢
  rw [UInt16.toNat_or]
  exact Nat.or_lt_two_pow (n := 15) leftNarrow rightNarrow

theorem complement_le {word : UInt16} (narrow : word ≤ maxLiteral) :
    maxLiteral - word ≤ maxLiteral := by
  have bound : maxLiteral.toNat = 32767 := rfl
  rw [le_maxLiteral_iff, UInt16.toNat_sub_of_le _ _ narrow, bound]
  exact Nat.lt_of_le_of_lt (Nat.sub_le _ _) (by decide)

theorem toUInt16_byte_le (byte : UInt8) : byte.toUInt16 ≤ maxLiteral := by
  rw [le_maxLiteral_iff]
  exact Nat.lt_trans byte.toNat_lt (by decide)

theorem Opcode.compute_le {op : Opcode} {left right result : UInt16}
    (leftNarrow : left ≤ maxLiteral)
    (rightNarrow : right ≤ maxLiteral) (computed : op.compute left right = .ok result) :
    result ≤ maxLiteral := by
  cases op with
  | eq | gt => cases computed; exact wordOfBool_le _
  | add | mult => cases computed; exact toUInt16_mod_le _
  | mod =>
    simp only [Opcode.compute] at computed
    split at computed
    · cases computed
    · cases computed
      exact mod_le_maxLiteral leftNarrow right
  | and => cases computed; exact and_le_maxLiteral rightNarrow left
  | or => cases computed; exact or_le_maxLiteral leftNarrow rightNarrow
  | _ => cases computed; decide

/-! ## Registers and stack -/

theorem Registers.get_set (registers : Registers) (index other : Fin registerCount)
    (word : UInt16) :
    (registers.set index word).get other = if index = other then word else registers.get other := by
  simp only [Registers.get, Registers.set, Fin.getElem_fin]
  rw [Vector.getElem_set]
  simp only [Fin.ext_iff]

theorem Registers.set_le {registers : Registers}
    (narrow : ∀ index, registers.get index ≤ maxLiteral)
    (index : Fin registerCount) {word : UInt16} (fits : word ≤ maxLiteral)
    (other : Fin registerCount) : (registers.set index word).get other ≤ maxLiteral := by
  rw [Registers.get_set]
  split
  · exact fits
  · exact narrow other

theorem Stack.push_le {stack : Stack} (narrow : ∀ word ∈ stack.words, word ≤ maxLiteral)
    {word : UInt16} (fits : word ≤ maxLiteral) :
    ∀ other ∈ (stack.push word).words, other ≤ maxLiteral := by
  intro other member
  rcases Array.mem_push.mp member with below | rfl
  · exact narrow other below
  · exact fits

theorem Stack.mem_of_mem_drop {stack : Stack} {word : UInt16} (member : word ∈ stack.drop.words) :
    word ∈ stack.words := by
  have kept : word ∈ stack.words.toList.dropLast := by
    rw [← Array.toList_pop]
    exact Array.mem_toList_iff.mpr member
  exact Array.mem_toList_iff.mp (List.dropLast_subset _ kept)

theorem Stack.mem_of_top? {stack : Stack} {word : UInt16} (top : stack.top? = some word) :
    word ∈ stack.words :=
  Array.mem_of_back? top

/-- The words that a change puts into registers or on the stack have 15 bits. -/
def Change.Within : Change → Prop
  | .setRegister _ word | .push word | .popTo _ word => word ≤ maxLiteral
  | .none | .drop | .store _ _ | .write _ | .input _ => True

/-- What an instruction does lies within the bounds of a machine, and it leads to the instruction
    after it or to a place in memory. -/
structure Action.Within (following : UInt32) (action : Action) : Prop where
  change : action.change.Within
  next : action.next = following ∨ action.next.toNat < addressSpace

namespace Machine

/-- The bounds of a machine. The program counter may stand one past the end of memory, where
    nothing can be read. -/
structure WellFormed (machine : Machine) : Prop where
  registers_le : ∀ index, machine.registers.get index ≤ maxLiteral
  stack_le : ∀ word ∈ machine.stack.words, word ≤ maxLiteral
  pc_le : machine.pc.toNat ≤ addressSpace
  store : machine.store.WellFormed

theorem initial_wellFormed : initial.WellFormed where
  registers_le := by
    intro index
    simp [initial, Registers.get, Registers.zero]
  stack_le := by
    intro word member
    simp [initial, Stack.empty] at member
  pc_le := Nat.zero_le _
  store := Store.empty_wellFormed

/-- The bounds do not depend on the flags of runs. -/
theorem WellFormed.withFlags {machine : Machine} (wellFormed : machine.WellFormed)
    (stopRequested resuming : Bool) : { machine with stopRequested, resuming }.WellFormed :=
  ⟨wellFormed.registers_le, wellFormed.stack_le, wellFormed.pc_le, wellFormed.store⟩

/-! ## Steps -/

theorem valueOf_le {machine : Machine} (wellFormed : machine.WellFormed) {word value : UInt16}
    (is : machine.valueOf word = .ok value) : value ≤ maxLiteral := by
  rw [valueOf, Operand.ofWord] at is
  split at is
  · rename_i narrow
    cases is
    exact narrow
  · split at is
    · cases is
      exact wellFormed.registers_le _
    · cases is

theorem following_le {machine : Machine} {instruction : Instruction}
    (read : machine.decode machine.pc = .ok instruction) :
    instruction.following.toNat ≤ addressSpace := by
  obtain ⟨op, decoded⟩ := decode_eq_ok read
  have inside := decoded.inside
  rw [← decoded.address_eq] at inside
  rw [toNat_following decoded.fetched_eq inside]
  omega

/-- A program computes only words of 15 bits, and jumps only to places in memory. -/
theorem Acts.within {machine : Machine} (wellFormed : machine.WellFormed) {op : Opcode}
    {instruction : Instruction} {action : Action} (acts : machine.Acts instruction op action)
    (here : instruction.address.toNat < addressSpace) :
    action.Within instruction.following := by
  have jump {word : UInt16} (narrow : word ≤ maxLiteral) :
      word.toUInt32 = instruction.following ∨ word.toUInt32.toNat < addressSpace :=
    .inr (toNat_toUInt32_lt narrow)
  cases acts with
  | halt => exact ⟨trivial, .inr here⟩
  | noop | wmem | out | inp => exact ⟨trivial, .inl rfl⟩
  | set _ value | push value => exact ⟨valueOf_le wellFormed value, .inl rfl⟩
  | pop _ top => exact ⟨wellFormed.stack_le _ (Stack.mem_of_top? top), .inl rfl⟩
  | compute _ _ first second computed =>
    exact ⟨Opcode.compute_le (valueOf_le wellFormed first) (valueOf_le wellFormed second) computed,
      .inl rfl⟩
  | not _ value => exact ⟨complement_le (valueOf_le wellFormed value), .inl rfl⟩
  | rmem => exact ⟨and_le_maxLiteral (by decide) _, .inl rfl⟩
  | jmp value => exact ⟨trivial, jump (valueOf_le wellFormed value)⟩
  | jt _ value =>
    refine ⟨trivial, ?_⟩
    dsimp only
    split
    · exact .inl rfl
    · exact jump (valueOf_le wellFormed value)
  | jf _ value =>
    refine ⟨trivial, ?_⟩
    dsimp only
    split
    · exact jump (valueOf_le wellFormed value)
    · exact .inl rfl
  | call value inside =>
    refine ⟨?_, jump (valueOf_le wellFormed value)⟩
    change instruction.following.toUInt16 ≤ maxLiteral
    rw [le_maxLiteral_iff, UInt32.toNat_toUInt16]
    exact Nat.lt_of_le_of_lt (Nat.mod_le _ _) inside
  | ret top => exact ⟨trivial, jump (wellFormed.stack_le _ (Stack.mem_of_top? top))⟩

theorem resolve_within {machine : Machine} (wellFormed : machine.WellFormed)
    {instruction : Instruction}
    {action : Action} (read : machine.decode machine.pc = .ok instruction)
    (resolved : machine.resolve instruction = .ok action) :
    action.Within instruction.following := by
  obtain ⟨op, decoded⟩ := decode_eq_ok read
  have inside := decoded.inside
  have here : instruction.address.toNat < addressSpace := by
    rw [decoded.address_eq]
    omega
  exact (acts_of_resolve decoded.operation resolved).within wellFormed here

theorem performed_wellFormed {machine after : Machine} {change : Change}
    (wellFormed : machine.WellFormed) (within : change.Within)
    (performed : Performed machine change after) :
    after.WellFormed := by
  obtain ⟨registers, stack, pc, store⟩ := wellFormed
  cases performed with
  | input index first rest =>
    exact ⟨Registers.set_le registers index (toUInt16_byte_le first), stack, pc, store⟩
  | plain _ =>
    cases change with
    | none | write _ | input _ => exact ⟨registers, stack, pc, store⟩
    | setRegister index word => exact ⟨Registers.set_le registers index within, stack, pc, store⟩
    | push word => exact ⟨registers, Stack.push_le stack within, pc, store⟩
    | drop =>
      exact ⟨registers, fun word member => stack word (Stack.mem_of_mem_drop member), pc, store⟩
    | popTo index word =>
      exact ⟨Registers.set_le registers index within,
        fun word member => stack word (Stack.mem_of_mem_drop member), pc, store⟩
    | store cell word => exact ⟨registers, stack, pc, Store.put_wellFormed store cell word⟩

/-- A step keeps the bounds, whether it goes on, halts or faults. -/
theorem step_wellFormed {τ : Type} [Channel τ] {machine : Machine} (wellFormed : machine.WellFormed)
    (console : Option τ) : (machine.step console).2.1.WellFormed := by
  rcases step_cases machine console with ⟨_, _, _, faulted, _⟩ |
    ⟨instruction, change, next, halts, after, _, read, resolved, performed, done⟩
  · rw [faulted]
    exact wellFormed
  · rw [done]
    have within := resolve_within wellFormed read resolved
    have kept := performed_wellFormed wellFormed within.change performed
    have onward : next.toNat ≤ addressSpace := by
      rcases within.next with same | inside
      · rw [show next = instruction.following from same]
        exact following_le read
      · exact Nat.le_of_lt inside
    exact ⟨kept.registers_le, kept.stack_le, onward, kept.store⟩

/-- A program leaves memory only after an instruction that ends with its last word. -/
theorem following_of_step_outside {τ : Type} [Channel τ] {machine : Machine}
    (wellFormed : machine.WellFormed) (inside : machine.pc.toNat < addressSpace)
    (console : Option τ) (outside : (machine.step console).2.1.pc.toNat = addressSpace) :
    (machine.instructionAt machine.pc).following.toNat = addressSpace := by
  rcases step_cases machine console with ⟨_, _, _, faulted, _⟩ |
    ⟨instruction, change, next, halts, after, _, read, resolved, performed, done⟩
  · rw [faulted] at outside
    exact absurd outside (Nat.ne_of_lt inside)
  · rw [done] at outside
    have ends : next.toNat = addressSpace := outside
    have within := resolve_within wellFormed read resolved
    rcases within.next with same | jumped
    · rw [instructionAt, read, ← ends]
      exact congrArg _ same.symm
    · exact absurd ends (Nat.ne_of_lt jumped)

end Machine

/-! ## Runs -/

namespace Session

variable {τ ω : Type} [Channel τ]

theorem step_machine (notify : Notice → ω → ω) (session : Session τ ω) :
    (session.step notify).2.machine = (session.machine.step session.console).2.1 := rfl

omit [Channel τ] in
/-- Consulting the debugger changes nothing of the machine but its mark for resuming. -/
theorem arrive_machine (session : Session τ ω) :
    ∃ resuming, session.arrive.2.machine = { session.machine with resuming } := by
  obtain ⟨machine, console, debugger, observer⟩ := session
  cases debugger with
  | none => exact ⟨machine.resuming, rfl⟩
  | some debugger =>
    by_cases resuming : machine.resuming = true
    · exact ⟨false, by simp only [arrive, resuming, if_true]⟩
    · exact ⟨(debugger.arrive machine).1, by simp only [arrive, resuming]; rfl⟩

/-- A run keeps what every step keeps, provided that it does not depend on the flags. -/
theorem runFrom_keeps (keeps : Machine → Prop)
    (steps : ∀ (machine : Machine) (console : Option τ), keeps machine →
      keeps (machine.step console).2.1)
    (flags : ∀ (machine : Machine) (stopRequested resuming : Bool), keeps machine →
      keeps { machine with stopRequested, resuming })
    (notify : Notice → ω → ω) (stops : Nat → Bool) (fuel done : Nat) (session : Session τ ω)
    (before : keeps session.machine) : keeps
    (session.runFrom notify stops fuel done).2.machine := by
  have stopped (session : Session τ ω) (asked : Bool) (held : keeps session.machine) :
      keeps (session.requestStopIf asked).machine := by
    cases asked with
    | false => exact held
    | true => exact flags session.machine true session.machine.resuming held
  induction fuel generalizing done session with
  | zero => exact before
  | succ fuel ih =>
    rw [runFrom]
    split
    · exact flags session.machine false session.machine.resuming before
    · obtain ⟨resuming, same⟩ := session.arrive_machine
      have arrived : keeps session.arrive.2.machine := by
        rw [same]
        exact flags session.machine session.machine.stopRequested resuming before
      split
      · rename_i stopping
        rw [stopping] at arrived
        exact arrived
      · rename_i passing
        rw [passing] at arrived
        have stepped := steps _ (session.arrive.2.console) arrived
        rw [passing, ← step_machine notify] at stepped
        split
        · rename_i faulting
          rw [faulting] at stepped
          exact stepped
        · rename_i halting
          rw [halting] at stepped
          exact stopped _ _ stepped
        · rename_i continuing
          rw [continuing] at stepped
          exact ih _ _ (stopped _ _ stepped)

theorem run_wellFormed (notify : Notice → ω → ω) (stops : Nat → Bool) (fuel : Nat)
    (session : Session τ ω) (wellFormed : session.machine.WellFormed) :
    (session.run notify stops fuel).2.machine.WellFormed :=
  runFrom_keeps Machine.WellFormed (fun _ console held => Machine.step_wellFormed held console)
    (fun _ stopRequested resuming held => held.withFlags stopRequested resuming) notify stops fuel 0
    session wellFormed

end Session

end WordMachine
