import WordMachine.Operand
import WordMachine.Opcode

/-!
# Instructions and faults

An instruction is a code with its operand words as they stand in memory. An
instruction that cannot be carried out raises a fault: the instruction together
with the cause.
-/

namespace WordMachine

/-- A code, the operand words read for it, and where it stands. -/
structure Instruction where
  address : UInt32
  code : UInt16
  /-- Operand words; those not fetched are zero. -/
  operands : Vector UInt16 3
  /-- How many operand words count as fetched. -/
  fetched : Int
deriving DecidableEq, Repr

namespace Instruction

/-- The length in words, modulo the range of an address. -/
def size (instruction : Instruction) : UInt32 :=
  1 + UInt32.ofInt instruction.fetched

/-- The address after the instruction. -/
def following (instruction : Instruction) : UInt32 :=
  instruction.address + instruction.size

/-- A listing has room for three operands. -/
def isListable (instruction : Instruction) : Bool :=
  instruction.fetched ≤ 3

def operandTexts (instruction : Instruction) : List String :=
  (instruction.operands.toList.take instruction.fetched.toNat).map fun word =>
    (Operand.ofWord word).text

/-- The instruction as it appears in listings, as in `add R0, R1, 5`. -/
def text (instruction : Instruction) : String :=
  match instruction.operandTexts with
  | [] => Opcode.nameOf instruction.code
  | texts => Opcode.nameOf instruction.code ++ " " ++ ", ".intercalate texts

end Instruction

/-- An instruction that cannot be carried out. The machine stays at its address. -/
structure Fault where
  instruction : Instruction
  cause : Cause
deriving DecidableEq, Repr

namespace Fault

/-- The address of the instruction that raised the fault. -/
def pc (fault : Fault) : UInt32 := fault.instruction.address

def kind? (fault : Fault) : Option FaultKind := fault.cause.kind?

/-- The report of a fault. The instruction is shown unless not even its code was read. -/
def message (fault : Fault) : String :=
  let place := "w16: " ++ fault.cause.message ++ " at PC=" ++ Numeral.hex 4 fault.pc.toNat
  if fault.instruction.fetched = 0 ∧ Opcode.count ≤ fault.instruction.code.toNat then place
  else place ++ " (" ++ fault.instruction.text ++ ")"

end Fault

end WordMachine
