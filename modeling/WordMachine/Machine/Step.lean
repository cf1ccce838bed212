import WordMachine.Machine.State
import WordMachine.Terminal.Channel
import WordMachine.Text.Utf8

/-!
# One instruction

An instruction is carried out in two halves. `resolve` checks everything that can
go wrong inside the machine and says what is to be done, changing nothing. `execute`
does it, and the only thing that can still fail then is the terminal, which is asked
before the machine changes. So a faulting instruction leaves the machine as it was.
-/

namespace WordMachine

/-- What an instruction does besides moving the program counter. -/
inductive Change where
  /-- Nothing. -/
  | none
  | setRegister (index : Fin registerCount) (word : UInt16)
  | push (word : UInt16)
  | drop
  /-- Drops the top of the stack and puts it into a register. -/
  | popTo (index : Fin registerCount) (word : UInt16)
  | store (cell : Fin addressSpace) (word : UInt16)
  | write (c : Char)
  | input (index : Fin registerCount)
deriving DecidableEq, Repr

/-- What an instruction does, and where the program goes on. -/
structure Action where
  change : Change
  next : UInt32
  halts : Bool := false
deriving DecidableEq, Repr

/-- Where the program goes on after an instruction. -/
structure Completion where
  next : UInt32
  halts : Bool
deriving DecidableEq, Repr

/-- 1 for true and 0 for false. -/
def wordOfBool (b : Bool) : UInt16 := if b then 1 else 0

namespace Opcode

/-- The result of a three-operand operation on the values of its sources. Sums and
    products are taken modulo 32768. -/
def compute : Opcode → UInt16 → UInt16 → Except Cause UInt16
  | .eq, b, c => .ok (wordOfBool (b == c))
  | .gt, b, c => .ok (wordOfBool (c < b))
  | .add, b, c => .ok ((b.toUInt32 + c.toUInt32) % 0x8000).toUInt16
  | .mult, b, c => .ok ((b.toUInt32 * c.toUInt32) % 0x8000).toUInt16
  | .mod, b, c => if c = 0 then .error (.moduloZero b) else .ok (b % c)
  | .and, b, c => .ok (b &&& c)
  | .or, b, c => .ok (b ||| c)
  | _, _, _ => .ok 0

end Opcode

namespace Machine

/-- The value of an operand word that is read. -/
def valueOf (machine : Machine) (word : UInt16) : Except Cause UInt16 :=
  (Operand.ofWord word).value machine.registers

/-- The register of an operand word that is written. -/
def targetOf (word : UInt16) : Except Cause (Fin registerCount) :=
  (Operand.ofWord word).destination

/-- The action of an operation on the operand words `a`, `b` and `c`. Operands are
    checked left to right, before anything else. -/
def actionOf (machine : Machine) (address following : UInt32) (op : Opcode) (a b c : UInt16) :
    Except Cause Action :=
  match op with
  | .halt => .ok { change := .none, next := address, halts := true }
  | .noop => .ok { change := .none, next := following }
  | .set => do
    let target ← targetOf a
    let value ← machine.valueOf b
    return { change := .setRegister target value, next := following }
  | .push => do
    let value ← machine.valueOf a
    return { change := .push value, next := following }
  | .pop => do
    let target ← targetOf a
    match machine.stack.top? with
    | none => .error .emptyStack
    | some word => return { change := .popTo target word, next := following }
  | .eq | .gt | .add | .mult | .mod | .and | .or => do
    let target ← targetOf a
    let left ← machine.valueOf b
    let right ← machine.valueOf c
    let result ← op.compute left right
    return { change := .setRegister target result, next := following }
  | .not => do
    let target ← targetOf a
    let value ← machine.valueOf b
    return { change := .setRegister target (maxLiteral - value), next := following }
  | .jmp => do
    let value ← machine.valueOf a
    return { change := .none, next := value.toUInt32 }
  | .jt => do
    let value ← machine.valueOf a
    let goal ← machine.valueOf b
    return { change := .none, next := if value = 0 then following else goal.toUInt32 }
  | .jf => do
    let value ← machine.valueOf a
    let goal ← machine.valueOf b
    return { change := .none, next := if value = 0 then goal.toUInt32 else following }
  | .rmem => do
    let target ← targetOf a
    let place ← machine.valueOf b
    let word ← machine.store.read place.toUInt32
    return { change := .setRegister target (word &&& maxLiteral), next := following }
  | .wmem => do
    let place ← machine.valueOf a
    let value ← machine.valueOf b
    match Store.cell? place.toUInt32 with
    | none => .error (.writeOutside place.toUInt32)
    | some cell => return { change := .store cell value, next := following }
  | .call => do
    let goal ← machine.valueOf a
    if following.toNat < addressSpace then
      return { change := .push following.toUInt16, next := goal.toUInt32 }
    else .error (.returnOutside following)
  | .ret =>
    match machine.stack.top? with
    | none => .error .emptyStack
    | some word => .ok { change := .drop, next := word.toUInt32 }
  | .out => do
    let value ← machine.valueOf a
    return { change := .write (Utf8.charOfCode value.toNat), next := following }
  | .inp => do
    let target ← targetOf a
    return { change := .input target, next := following }

/-- Checks an instruction and says what it does. -/
def resolve (machine : Machine) (instruction : Instruction) : Except Cause Action :=
  match Opcode.ofWord? instruction.code with
  | none => .error (.invalidOpcode instruction.code)
  | some op =>
    machine.actionOf instruction.address instruction.following op
      (instruction.operands.get ⟨0, by decide⟩) (instruction.operands.get ⟨1, by decide⟩)
      (instruction.operands.get ⟨2, by decide⟩)

/-- The machine after a change that needs no terminal. -/
def apply (machine : Machine) : Change → Machine
  | .setRegister index word => { machine with registers := machine.registers.set index word }
  | .push word => { machine with stack := machine.stack.push word }
  | .drop => { machine with stack := machine.stack.drop }
  | .popTo index word =>
    { machine with stack := machine.stack.drop, registers := machine.registers.set index word }
  | .store cell word => { machine with store := machine.store.put cell word }
  | .none | .write _ | .input _ => machine

/-- The next input character and those after it, read from the terminal when the line
    before is used up. -/
def takeInput {τ : Type} [Channel τ] (pending : List UInt8) (console : Option τ) :
    Except Cause (UInt8 × List UInt8) × Option τ :=
  match pending, console with
  | first :: rest, console => (.ok (first, rest), console)
  | [], none => (.error .noInput, none)
  | [], some terminal =>
    match Channel.readLine terminal with
    | (.ok (first :: rest), terminal) => (.ok (first, rest), some terminal)
    | (.ok [], terminal) => (.error .inputEnded, some terminal)
    | (.error .endOfInput, terminal) => (.error .inputEnded, some terminal)
    | (.error error, terminal) => (.error (.inputFailed error), some terminal)

def putOutput {τ : Type} [Channel τ] (console : Option τ) (c : Char) :
    Except Cause Unit × Option τ :=
  match console with
  | none => (.error .noOutput, none)
  | some terminal =>
    match Channel.writeChar terminal c with
    | (.ok _, terminal) => (.ok (), some terminal)
    | (.error error, terminal) => (.error (.outputFailed error), some terminal)

/-- Carries out an instruction, the program counter and the count apart. -/
def execute {τ : Type} [Channel τ] (machine : Machine) (console : Option τ)
    (instruction : Instruction) : Except Cause Completion × Machine × Option τ :=
  match machine.resolve instruction with
  | .error cause => (.error cause, machine, console)
  | .ok ⟨change, next, halts⟩ =>
    match change with
    | .write c =>
      match putOutput console c with
      | (.error cause, console) => (.error cause, machine, console)
      | (.ok _, console) => (.ok ⟨next, halts⟩, machine, console)
    | .input index =>
      match takeInput machine.pending console with
      | (.error cause, console) => (.error cause, machine, console)
      | (.ok (first, pending), console) =>
        (.ok ⟨next, halts⟩,
          { machine with pending, registers := machine.registers.set index first.toUInt16 },
          console)
    | change => (.ok ⟨next, halts⟩, machine.apply change, console)

end Machine

/-- An instruction that was carried out, and the state it left behind. -/
structure StepEvent where
  /-- The count of instructions, this one included. -/
  sequence : UInt64
  instruction : Instruction
  next : UInt32
  registers : Registers
  depth : Nat
deriving DecidableEq, Repr

/-- What came of one instruction. -/
inductive Outcome where
  | continued (event : StepEvent)
  | halted (event : StepEvent)
  /-- The instruction could not be carried out. -/
  | faulted (fault : Fault)
deriving DecidableEq, Repr

/-- What observers are told about an instruction. -/
inductive Notice where
  | stepped (event : StepEvent)
  | faulted (fault : Fault)
deriving DecidableEq, Repr

/-- The one notice that observers get of an outcome. -/
def Outcome.notice : Outcome → Notice
  | continued event | halted event => .stepped event
  | faulted fault => .faulted fault

namespace Machine

/-- Moves on to the next instruction and counts the one carried out. -/
def commit (machine : Machine) (next : UInt32) : Machine :=
  { machine with pc := next, count := machine.count + 1 }

/-- The event of an instruction after which the machine is in this state. -/
def eventOf (machine : Machine) (instruction : Instruction) : StepEvent :=
  ⟨machine.count, instruction, machine.pc, machine.registers, machine.stack.depth⟩

/-- Carries out the instruction at the program counter. -/
def step {τ : Type} [Channel τ] (machine : Machine) (console : Option τ) :
    Outcome × Machine × Option τ :=
  match machine.decode machine.pc with
  | .error (instruction, cause) => (.faulted ⟨instruction, cause⟩, machine, console)
  | .ok instruction =>
    match machine.execute console instruction with
    | (.error cause, machine, console) => (.faulted ⟨instruction, cause⟩, machine, console)
    | (.ok completion, machine, console) =>
      let machine := machine.commit completion.next
      let event := machine.eventOf instruction
      (if completion.halts then .halted event else .continued event, machine, console)

end Machine

end WordMachine
