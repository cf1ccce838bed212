import Mathlib.Data.List.Basic
import WordMachine.Proofs.Decoding
import WordMachine.Proofs.Operands

/-!
The operations as rules. `Acts` says what each operation does with its operands, with all that it
asks for, and `Refused` lists what else can stand in its way; an instruction whose operands fit
their roles comes to one or the other (`resolve_meets`), and one whose operands do not fit comes
to neither (`resolve_of_misfit`).
-/

namespace WordMachine

/-- The operand word at a place, and zero past the last. -/
def Instruction.operand (instruction : Instruction) (place : Nat) : UInt16 :=
  (instruction.operands[place]?).getD 0

/-- The operand words of an instruction with their roles, left to right. -/
def Instruction.placed (instruction : Instruction) (op : Opcode) : List (Role × UInt16) :=
  op.roles.zip instruction.operands.toList

/-- Every operand word is one that its role admits. -/
def Instruction.Fits (instruction : Instruction) (op : Opcode) : Prop :=
  ∀ place ∈ instruction.placed op, place.1.Admits place.2

instance Instruction.decidableFits (instruction : Instruction) (op : Opcode) :
    Decidable (instruction.Fits op) :=
  inferInstanceAs (Decidable (∀ place ∈ instruction.placed op, place.1.Admits place.2))

theorem Instruction.placed_eq (instruction : Instruction) (op : Opcode) :
    instruction.placed op =
      op.roles.zip [instruction.operand 0, instruction.operand 1, instruction.operand 2] := by
  obtain ⟨address, code, ⟨⟨words⟩, size⟩, fetched⟩ := instruction
  obtain ⟨a, b, c, rfl⟩ := List.length_eq_three.mp size
  rfl

theorem Instruction.fits_iff (instruction : Instruction) (op : Opcode) :
    instruction.Fits op ↔ (instruction.placed op).find? isMisfit = none := by
  simp [Fits, isMisfit]

namespace Machine

/-- The instruction at the program counter can be read whole, and is one of this operation. -/
structure Reads (machine : Machine) (op : Opcode) (instruction : Instruction) : Prop where
  read : machine.decode machine.pc = .ok instruction
  operation : Opcode.ofWord? instruction.code = some op

theorem Reads.decoded {machine : Machine} {op : Opcode} {instruction : Instruction}
    (reads : machine.Reads op instruction) : Decoded machine.pc op instruction := by
  obtain ⟨other, decoded⟩ := decode_eq_ok reads.read
  have same : other = op := Option.some.inj (decoded.operation.symm.trans reads.operation)
  exact same ▸ decoded

theorem Reads.toNat_following {machine : Machine} {op : Opcode} {instruction : Instruction}
    (reads : machine.Reads op instruction) :
    instruction.following.toNat = machine.pc.toNat + op.arity + 1 := by
  have inside := reads.decoded.inside
  rw [← reads.decoded.address_eq] at inside ⊢
  exact Machine.toNat_following reads.decoded.fetched_eq inside

theorem Reads.unique {machine : Machine} {op other : Opcode} {instruction another : Instruction}
    (reads : machine.Reads op instruction) (alike : machine.Reads other another) :
    op = other ∧ instruction = another := by
  have same : instruction = another := Except.ok.inj (reads.read.symm.trans alike.read)
  subst same
  exact ⟨Option.some.inj (reads.operation.symm.trans alike.operation), rfl⟩

theorem resolve_of_known (machine : Machine) {op : Opcode} {instruction : Instruction}
    (known : Opcode.ofWord? instruction.code = some op) :
    machine.resolve instruction =
      machine.actionOf instruction.address instruction.following op (instruction.operand 0)
        (instruction.operand 1) (instruction.operand 2) := by
  rw [resolve, known]
  rfl

/-- What an operation does. -/
inductive Acts (machine : Machine) (instruction : Instruction) : Opcode → Action → Prop
  | halt : Acts machine instruction .halt ⟨.none, instruction.address, true⟩
  | noop : Acts machine instruction .noop ⟨.none, instruction.following, false⟩
  | set {index : Fin registerCount} {word : UInt16}
      (target : targetOf (instruction.operand 0) = .ok index)
      (value : machine.valueOf (instruction.operand 1) = .ok word) :
      Acts machine instruction .set ⟨.setRegister index word, instruction.following, false⟩
  | push {word : UInt16} (value : machine.valueOf (instruction.operand 0) = .ok word) :
      Acts machine instruction .push ⟨.push word, instruction.following, false⟩
  | pop {index : Fin registerCount} {word : UInt16}
      (target : targetOf (instruction.operand 0) = .ok index)
      (top : machine.stack.top? = some word) :
      Acts machine instruction .pop ⟨.popTo index word, instruction.following, false⟩
  | compute {op : Opcode} {index : Fin registerCount} {left right word : UInt16}
      (roles : op.roles = [.destination, .source, .source])
      (target : targetOf (instruction.operand 0) = .ok index)
      (first : machine.valueOf (instruction.operand 1) = .ok left)
      (second : machine.valueOf (instruction.operand 2) = .ok right)
      (computed : op.compute left right = .ok word) :
      Acts machine instruction op ⟨.setRegister index word, instruction.following, false⟩
  | not {index : Fin registerCount} {word : UInt16}
      (target : targetOf (instruction.operand 0) = .ok index)
      (value : machine.valueOf (instruction.operand 1) = .ok word) :
      Acts machine instruction .not
        ⟨.setRegister index (maxLiteral - word), instruction.following, false⟩
  | jmp {goal : UInt16} (value : machine.valueOf (instruction.operand 0) = .ok goal) :
      Acts machine instruction .jmp ⟨.none, goal.toUInt32, false⟩
  | jt {word goal : UInt16} (tested : machine.valueOf (instruction.operand 0) = .ok word)
      (value : machine.valueOf (instruction.operand 1) = .ok goal) :
      Acts machine instruction .jt
        ⟨.none, if word = 0 then instruction.following else goal.toUInt32, false⟩
  | jf {word goal : UInt16} (tested : machine.valueOf (instruction.operand 0) = .ok word)
      (value : machine.valueOf (instruction.operand 1) = .ok goal) :
      Acts machine instruction .jf
        ⟨.none, if word = 0 then goal.toUInt32 else instruction.following, false⟩
  | rmem {index : Fin registerCount} {place : UInt16}
      (target : targetOf (instruction.operand 0) = .ok index)
      (value : machine.valueOf (instruction.operand 1) = .ok place)
      (inside : place.toNat < addressSpace) :
      Acts machine instruction .rmem
        ⟨.setRegister index (machine.store.get ⟨place.toNat, inside⟩ &&& maxLiteral),
          instruction.following, false⟩
  | wmem {place word : UInt16} (address : machine.valueOf (instruction.operand 0) = .ok place)
      (value : machine.valueOf (instruction.operand 1) = .ok word)
      (inside : place.toNat < addressSpace) :
      Acts machine instruction .wmem
        ⟨.store ⟨place.toNat, inside⟩ word, instruction.following, false⟩
  | call {goal : UInt16} (value : machine.valueOf (instruction.operand 0) = .ok goal)
      (inside : instruction.following.toNat < addressSpace) :
      Acts machine instruction .call
        ⟨.push instruction.following.toUInt16, goal.toUInt32, false⟩
  | ret {word : UInt16} (top : machine.stack.top? = some word) :
      Acts machine instruction .ret ⟨.drop, word.toUInt32, false⟩
  | out {word : UInt16} (value : machine.valueOf (instruction.operand 0) = .ok word) :
      Acts machine instruction .out
        ⟨.write (Utf8.charOfCode word.toNat), instruction.following, false⟩
  | inp {index : Fin registerCount} (target : targetOf (instruction.operand 0) = .ok index) :
      Acts machine instruction .inp ⟨.input index, instruction.following, false⟩

/-- What stands in the way of an operation whose operands fit their roles. -/
inductive Refused (machine : Machine) (instruction : Instruction) : Opcode → Cause → Prop
  | pop (empty : machine.stack.top? = none) : Refused machine instruction .pop .emptyStack
  | ret (empty : machine.stack.top? = none) : Refused machine instruction .ret .emptyStack
  | mod (left : UInt16) (divisor : machine.valueOf (instruction.operand 2) = .ok 0) :
      Refused machine instruction .mod (.moduloZero left)
  | rmem {place : UInt16} (value : machine.valueOf (instruction.operand 1) = .ok place)
      (outside : ¬ place.toNat < addressSpace) :
      Refused machine instruction .rmem (.readOutside place.toUInt32)
  | wmem {place : UInt16} (address : machine.valueOf (instruction.operand 0) = .ok place)
      (outside : ¬ place.toNat < addressSpace) :
      Refused machine instruction .wmem (.writeOutside place.toUInt32)
  | call (outside : ¬ instruction.following.toNat < addressSpace) :
      Refused machine instruction .call (.returnOutside instruction.following)

theorem resolve_of_misfit (machine : Machine) {op : Opcode} {instruction : Instruction}
    (known : Opcode.ofWord? instruction.code = some op) {role : Role} {word : UInt16}
    (found : (instruction.placed op).find? isMisfit = some (role, word)) :
    machine.resolve instruction = .error (objection word) := by
  rw [instruction.placed_eq] at found
  rw [machine.resolve_of_known known]
  exact actionOf_guards machine _ _ op _ _ _ role word found

/-! ## Instructions whose operands fit -/

/-- An answer is a good one, or a failure for a bad reason. -/
def Meets {α : Type} (good : α → Prop) (bad : Cause → Prop) : Except Cause α → Prop
  | .ok a => good a
  | .error cause => bad cause

theorem meets_value {α : Type} {good : α → Prop} {bad : Cause → Prop} {machine : Machine}
    {word : UInt16} {next : UInt16 → Except Cause α} (admits : Role.source.Admits word)
    (after : ∀ value, machine.valueOf word = .ok value → Meets good bad (next value)) :
    Meets good bad (machine.valueOf word >>= next) := by
  obtain ⟨value, is⟩ := machine.valueOf_of_admits admits
  rw [is]
  exact after value is

theorem meets_target {α : Type} {good : α → Prop} {bad : Cause → Prop} {word : UInt16}
    {next : Fin registerCount → Except Cause α} (admits : Role.destination.Admits word)
    (after : ∀ index, targetOf word = .ok index → Meets good bad (next index)) :
    Meets good bad (targetOf word >>= next) := by
  obtain ⟨index, is⟩ := targetOf_of_admits admits
  rw [is]
  exact after index is

/-- An instruction whose operands fit their roles does what its operation does, or is refused. -/
theorem resolve_meets (machine : Machine) {op : Opcode} {instruction : Instruction}
    (known : Opcode.ofWord? instruction.code = some op) (fits : instruction.Fits op) :
    Meets (machine.Acts instruction op) (machine.Refused instruction op)
      (machine.resolve instruction) := by
  rw [machine.resolve_of_known known]
  rw [Instruction.Fits, instruction.placed_eq] at fits
  -- One rule for each operation; only those below `not` can be refused.
  cases op with
  | halt => exact Acts.halt
  | noop => exact Acts.noop
  | push => exact meets_value (fits (.source, _) (.head _)) fun _ value => Acts.push value
  | jmp => exact meets_value (fits (.source, _) (.head _)) fun _ value => Acts.jmp value
  | out => exact meets_value (fits (.source, _) (.head _)) fun _ value => Acts.out value
  | inp => exact meets_target (fits (.destination, _) (.head _)) fun _ target => Acts.inp target
  | jt =>
    exact meets_value (fits (.source, _) (.head _)) fun _ tested =>
      meets_value (fits (.source, _) (.tail _ (.head _))) fun _ value => Acts.jt tested value
  | jf =>
    exact meets_value (fits (.source, _) (.head _)) fun _ tested =>
      meets_value (fits (.source, _) (.tail _ (.head _))) fun _ value => Acts.jf tested value
  | set =>
    exact meets_target (fits (.destination, _) (.head _)) fun _ target =>
      meets_value (fits (.source, _) (.tail _ (.head _))) fun _ value => Acts.set target value
  | not =>
    exact meets_target (fits (.destination, _) (.head _)) fun _ target =>
      meets_value (fits (.source, _) (.tail _ (.head _))) fun _ value => Acts.not target value
  | eq | gt | add | mult | and | or =>
    exact meets_target (fits (.destination, _) (.head _)) fun _ target =>
      meets_value (fits (.source, _) (.tail _ (.head _))) fun _ first =>
        meets_value (fits (.source, _) (.tail _ (.tail _ (.head _)))) fun _ second =>
          Acts.compute rfl target first second rfl
  | mod =>
    refine meets_target (fits (.destination, _) (.head _)) fun _ target =>
      meets_value (fits (.source, _) (.tail _ (.head _))) fun left first =>
        meets_value (fits (.source, _) (.tail _ (.tail _ (.head _)))) fun right second => ?_
    by_cases zero : right = 0
    · subst zero
      exact Refused.mod left second
    · have computed : Opcode.mod.compute left right = .ok (left % right) := by
        simp only [Opcode.compute, if_neg zero]
      rw [computed]
      exact Acts.compute rfl target first second computed
  | rmem =>
    refine meets_target (fits (.destination, _) (.head _)) fun _ target =>
      meets_value (fits (.source, _) (.tail _ (.head _))) fun place value => ?_
    by_cases inside : place.toUInt32.toNat < addressSpace
    · rw [read_of_inside machine.store inside]
      exact Acts.rmem target value inside
    · rw [read_of_outside machine.store inside]
      exact Refused.rmem value inside
  | wmem =>
    refine meets_value (fits (.source, _) (.head _)) fun place address =>
      meets_value (fits (.source, _) (.tail _ (.head _))) fun _ value => ?_
    by_cases inside : place.toUInt32.toNat < addressSpace
    · simp only [Store.cell?, dif_pos inside]
      exact Acts.wmem address value inside
    · simp only [Store.cell?, dif_neg inside]
      exact Refused.wmem address inside
  | call =>
    refine meets_value (fits (.source, _) (.head _)) fun _ value => ?_
    by_cases inside : instruction.following.toNat < addressSpace
    · rw [if_pos inside]
      exact Acts.call value inside
    · rw [if_neg inside]
      exact Refused.call inside
  | pop =>
    refine meets_target (fits (.destination, _) (.head _)) fun _ target => ?_
    cases top : machine.stack.top? with
    | none => exact Refused.pop top
    | some word => exact Acts.pop target top
  | ret =>
    simp only [actionOf]
    cases top : machine.stack.top? with
    | none => exact Refused.ret top
    | some word => exact Acts.ret top

/-! ## Every instruction -/

/-- An instruction has an operand that does not fit, or does what its operation does, or is
    refused. -/
theorem resolve_cases (machine : Machine) {op : Opcode} {instruction : Instruction}
    (known : Opcode.ofWord? instruction.code = some op) :
    (∃ role word, (instruction.placed op).find? isMisfit = some (role, word) ∧
      machine.resolve instruction = .error (objection word)) ∨
    instruction.Fits op ∧
      Meets (machine.Acts instruction op) (machine.Refused instruction op)
        (machine.resolve instruction) := by
  cases found : (instruction.placed op).find? isMisfit with
  | some place => exact .inl ⟨_, _, rfl, machine.resolve_of_misfit known found⟩
  | none =>
    have fits := (instruction.fits_iff op).mpr found
    exact .inr ⟨fits, machine.resolve_meets known fits⟩

theorem acts_of_resolve {machine : Machine} {op : Opcode} {instruction : Instruction}
    {action : Action} (known : Opcode.ofWord? instruction.code = some op)
    (resolved : machine.resolve instruction = .ok action) : machine.Acts instruction op action := by
  rcases machine.resolve_cases known with ⟨_, _, _, refused⟩ | ⟨_, meets⟩
  · rw [resolved] at refused
    cases refused
  · rw [resolved] at meets
    exact meets

theorem refused_of_resolve {machine : Machine} {op : Opcode} {instruction : Instruction}
    {cause : Cause} (known : Opcode.ofWord? instruction.code = some op)
    (failed : machine.resolve instruction = .error cause) :
    (∃ word, cause = objection word) ∨ machine.Refused instruction op cause := by
  rcases machine.resolve_cases known with ⟨_, word, _, refused⟩ | ⟨_, meets⟩
  · rw [failed] at refused
    exact .inl ⟨word, Except.error.inj refused⟩
  · rw [failed] at meets
    exact .inr meets

end Machine

end WordMachine
