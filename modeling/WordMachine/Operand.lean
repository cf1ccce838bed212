import WordMachine.Cause
import WordMachine.Registers

/-!
# Operands

An operand word up to 32767 is a literal, the next eight words name the registers,
and no other word is an operand.
-/

namespace WordMachine

/-- The largest literal, and the largest value a program can compute. -/
abbrev maxLiteral : UInt16 := 0x7FFF

/-- The operand word that names R0. -/
abbrev registerBase : UInt16 := 0x8000

/-- What an operand word denotes. -/
inductive Operand where
  | literal (word : UInt16)
  | register (index : Fin registerCount)
  /-- Nothing. -/
  | invalid (word : UInt16)
deriving DecidableEq, Repr

namespace Operand

def ofWord (word : UInt16) : Operand :=
  if word ≤ maxLiteral then .literal word
  else if h : (word - registerBase).toNat < registerCount then .register ⟨_, h⟩
  else .invalid word

/-- The operand as it appears in listings: `1234`, `R3` or `?65000`. -/
def text : Operand → String
  | literal word => toString word.toNat
  | register index => Registers.name index
  | invalid word => "?" ++ toString word.toNat

/-- The value of an operand that is read. -/
def value (registers : Registers) : Operand → Except Cause UInt16
  | literal word => .ok word
  | register index => .ok (registers.get index)
  | invalid word => .error (.operandOutOfRange word)

/-- The register of an operand that is written. -/
def destination : Operand → Except Cause (Fin registerCount)
  | literal word => .error (.literalDestination word)
  | register index => .ok index
  | invalid word => .error (.operandOutOfRange word)

end Operand

end WordMachine
