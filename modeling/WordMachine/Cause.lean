import WordMachine.Terminal.Channel
import WordMachine.Text.Numeral

/-!
# Causes

Everything that keeps the machine from doing what it is told, each cause with its
kind and its wording.
-/

namespace WordMachine

/-- The number of words of memory. -/
abbrev addressSpace : Nat := 32768

/-- The eight kinds of fault. -/
inductive FaultKind where
  | invalidOpcode
  | operandOutOfRange
  | invalidRegisterIndex
  | stackUnderflow
  | arithmetic
  | addressing
  | inputClosed
  | output
deriving DecidableEq, Repr

namespace FaultKind

def all : List FaultKind :=
  [invalidOpcode, operandOutOfRange, invalidRegisterIndex, stackUnderflow, arithmetic, addressing,
    inputClosed, output]

def name : FaultKind → String
  | invalidOpcode => "invalid opcode"
  | operandOutOfRange => "operand out of range"
  | invalidRegisterIndex => "invalid register index"
  | stackUnderflow => "stack underflow"
  | arithmetic => "arithmetic error"
  | addressing => "addressing error"
  | inputClosed => "input closed"
  | output => "output error"

def named? (text : String) : Option FaultKind :=
  all.find? fun kind => kind.name == text

end FaultKind

/-- Why something cannot be done. -/
inductive Cause where
  /-- The word at the program counter is no operation's code. -/
  | invalidOpcode (word : UInt16)
  /-- An operand word is neither a literal nor a register. -/
  | operandOutOfRange (word : UInt16)
  /-- A literal stands where a register to write is named. -/
  | literalDestination (word : UInt16)
  /-- There is nothing to pop. -/
  | emptyStack
  /-- A remainder by zero. -/
  | moduloZero (dividend : UInt16)
  /-- A read past the end of memory. -/
  | readOutside (address : UInt32)
  /-- A write past the end of memory. -/
  | writeOutside (address : UInt32)
  /-- A call whose return address would lie past the end of memory. -/
  | returnOutside (address : UInt32)
  /-- More words to load than memory has. -/
  | tooManyWords (count : Nat)
  | longProgram (count : Nat)
  | inputEnded
  /-- Input is wanted and no terminal is attached. -/
  | noInput
  /-- The terminal failed to deliver a line. -/
  | inputFailed (error : ChannelError)
  /-- Output is wanted and no terminal is attached. -/
  | noOutput
  /-- The terminal failed to take a character. -/
  | outputFailed (error : ChannelError)
  /-- A kind of fault with further words, possibly none. -/
  | reported (kind : FaultKind) (detail : String)
  /-- Words that belong to no kind of fault. -/
  | other (detail : String)
deriving DecidableEq, Repr

namespace Cause

def kind? : Cause → Option FaultKind
  | invalidOpcode _ => some .invalidOpcode
  | operandOutOfRange _ => some .operandOutOfRange
  | literalDestination _ => some .invalidRegisterIndex
  | emptyStack => some .stackUnderflow
  | moduloZero _ => some .arithmetic
  | readOutside _ | writeOutside _ | returnOutside _ | tooManyWords _ | longProgram _ =>
    some .addressing
  | inputEnded | noInput | inputFailed _ => some .inputClosed
  | noOutput | outputFailed _ => some .output
  | reported kind _ => some kind
  | other _ => none

/-- What is said after the name of the kind. -/
def detail : Cause → String
  | invalidOpcode word => toString word.toNat
  | operandOutOfRange word => toString word.toNat
  | literalDestination word => "literal " ++ toString word.toNat ++ " used as destination"
  | emptyStack => "pop from empty stack"
  | moduloZero dividend => "mod " ++ toString dividend.toNat ++ " by zero"
  | readOutside address => "read at 0x" ++ Numeral.hex 1 address.toNat
  | writeOutside address => "write at 0x" ++ Numeral.hex 1 address.toNat
  | returnOutside address => "return address 0x" ++ Numeral.hex 1 address.toNat ++ " outside memory"
  | tooManyWords count =>
    "program is " ++ toString count ++ " words, address space is " ++ toString addressSpace
  | longProgram count =>
    "program exceeds " ++ toString addressSpace ++ " words (read " ++ toString count ++ ")"
  | inputEnded => ""
  | noInput | noOutput => "no terminal attached"
  | inputFailed error | outputFailed error => error.message
  | reported _ detail => detail
  | other detail => detail

/-- Whether anything follows the name of the kind. An error of the terminal follows
    even if it has no words. -/
def hasDetail : Cause → Bool
  | inputEnded => false
  | reported _ detail => detail ≠ ""
  | _ => true

def message (cause : Cause) : String :=
  match cause.kind? with
  | none => cause.detail
  | some kind => if cause.hasDetail then kind.name ++ ": " ++ cause.detail else kind.name

end Cause

end WordMachine
