import WordMachine.Text.Numeral
import WordMachine.Text.UpperCase

/-!
# Registers

The eight general registers R0 to R7. A register holds a 16-bit word; programs
keep it within 15 bits.
-/

namespace WordMachine

abbrev registerCount : Nat := 8

/-- The contents of R0 to R7. -/
structure Registers where
  words : Vector UInt16 registerCount
deriving DecidableEq, Repr

namespace Registers

/-- All registers zero. -/
def zero : Registers := ⟨Vector.replicate registerCount 0⟩

instance : Inhabited Registers := ⟨zero⟩

def get (registers : Registers) (index : Fin registerCount) : UInt16 :=
  registers.words[index]

def set (registers : Registers) (index : Fin registerCount) (word : UInt16) : Registers :=
  ⟨registers.words.set index word⟩

/-- The register of a number, if the number names one. -/
def index? (number : Int) : Option (Fin registerCount) :=
  if h : 0 ≤ number ∧ number.toNat < registerCount then some ⟨number.toNat, h.2⟩ else none

/-- The name of a register: `R0` to `R7`. -/
def name (index : Fin registerCount) : String :=
  "R" ++ toString index.val

/-- The register that a name stands for, in either case and with white space around it. -/
def named? (text : String) : Option (Fin registerCount) :=
  (List.finRange registerCount).find? fun index =>
    (name index).toList == Text.upper (Text.trim text.toList)

/-- A register and its word, as in `R3=00FF`. -/
def entry (registers : Registers) (index : Fin registerCount) : String :=
  name index ++ "=" ++ Numeral.hex 4 (registers.get index).toNat

def text (registers : Registers) : String :=
  " ".intercalate ((List.finRange registerCount).map registers.entry)

end Registers

end WordMachine
