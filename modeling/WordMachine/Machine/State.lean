import WordMachine.Fault
import WordMachine.Stack
import WordMachine.Store

/-!
# The state of the machine

Program counter, registers, stack, memory, the rest of the input line being read,
and the count of instructions carried out. Two flags belong to runs: a request to
stop, and whether the next run resumes from a breakpoint.
-/

namespace WordMachine

/-- Everything the machine remembers. The terminal is not part of it. -/
structure Machine where
  pc : UInt32
  registers : Registers
  stack : Stack
  store : Store
  /-- Input characters read from the terminal and not yet taken by the program. -/
  pending : List UInt8
  /-- A run has been asked to stop before its next instruction. -/
  stopRequested : Bool
  /-- The last run ended at a breakpoint, which the next run passes. -/
  resuming : Bool
  count : UInt64
deriving DecidableEq

namespace Machine

/-- The machine before anything was loaded. -/
def initial : Machine where
  pc := 0
  registers := .zero
  stack := .empty
  store := .empty
  pending := []
  stopRequested := false
  resuming := false
  count := 0

instance : Inhabited Machine := ⟨initial⟩

def reset (machine : Machine) : Machine where
  pc := 0
  registers := .zero
  stack := .empty
  store := machine.store.reset
  pending := []
  stopRequested := false
  resuming := false
  count := 0

/-- Clears the machine, then puts words into memory from address 0 on. The machine is
    cleared even if there are too many words. -/
def load (machine : Machine) (words : List UInt16) : Except Cause Unit × Machine :=
  let cleared := machine.reset
  match cleared.store.load words with
  | .ok store => (.ok (), { cleared with store })
  | .error cause => (.error cause, cleared)

/-- Asks for a stop before the next instruction of a run. -/
def requestStop (machine : Machine) : Machine :=
  { machine with stopRequested := true }

/-- Moves the program counter; the next run does not resume from a breakpoint. -/
def jump (machine : Machine) (address : UInt64) : Machine :=
  { machine with pc := (address % addressSpace.toUInt64).toUInt32, resuming := false }

/-- Reads further operand words. On failure the instruction read so far is returned
    with the cause. -/
def fetchOperands (store : Store) (instruction : Instruction) :
    Nat → Except (Instruction × Cause) Instruction
  | 0 => .ok instruction
  | more + 1 =>
    match store.read instruction.following with
    | .error cause => .error (instruction, cause)
    | .ok word =>
      fetchOperands store
        { instruction with
          operands := instruction.operands.setIfInBounds instruction.fetched.toNat word
          fetched := instruction.fetched + 1 } more

/-- An instruction of which nothing was read. Its code is no operation's. -/
def unread (address : UInt32) : Instruction :=
  ⟨address, Opcode.count.toUInt16, Vector.replicate 3 0, 0⟩

/-- Reads the instruction at an address. On failure the instruction read so far is
    returned with the cause. -/
def decode (machine : Machine) (address : UInt32) : Except (Instruction × Cause) Instruction :=
  match machine.store.read address with
  | .error cause => .error (unread address, cause)
  | .ok word =>
    match Opcode.ofWord? word with
    | none => .error (unread address, .invalidOpcode word)
    | some op => fetchOperands machine.store { unread address with code := word } op.arity

end Machine

end WordMachine
