/-!
# Operations

The 22 operations, their codes in order of declaration, and how many operands each
takes and in which roles.
-/

namespace WordMachine

/-- The operations of the machine. -/
inductive Opcode where
  | halt
  | set
  | push
  | pop
  | eq
  | gt
  | jmp
  | jt
  | jf
  | add
  | mult
  | mod
  | and
  | or
  | not
  | rmem
  | wmem
  | call
  | ret
  | out
  | inp
  | noop
deriving DecidableEq, Repr

/-- What an operation does with an operand. -/
inductive Role where
  /-- The operand is read. -/
  | source
  /-- The operand names the register that is written. -/
  | destination
deriving DecidableEq, Repr

namespace Opcode

/-- All operations in order of their codes. -/
def all : List Opcode :=
  [halt, set, push, pop, eq, gt, jmp, jt, jf, add, mult, mod, and, or, not, rmem, wmem, call, ret,
    out, inp, noop]

/-- The number of operations, which is the least word that is no operation's code. -/
abbrev count : Nat := 22

def ofWord? (word : UInt16) : Option Opcode :=
  all[word.toNat]?

def code : Opcode → UInt16
  | halt => 0
  | set => 1
  | push => 2
  | pop => 3
  | eq => 4
  | gt => 5
  | jmp => 6
  | jt => 7
  | jf => 8
  | add => 9
  | mult => 10
  | mod => 11
  | and => 12
  | or => 13
  | not => 14
  | rmem => 15
  | wmem => 16
  | call => 17
  | ret => 18
  | out => 19
  | inp => 20
  | noop => 21

theorem ofWord?_code (op : Opcode) : ofWord? op.code = some op := by
  cases op <;> rfl

def mnemonic : Opcode → String
  | halt => "halt"
  | set => "set"
  | push => "push"
  | pop => "pop"
  | eq => "eq"
  | gt => "gt"
  | jmp => "jmp"
  | jt => "jt"
  | jf => "jf"
  | add => "add"
  | mult => "mult"
  | mod => "mod"
  | and => "and"
  | or => "or"
  | not => "not"
  | rmem => "rmem"
  | wmem => "wmem"
  | call => "call"
  | ret => "ret"
  | out => "out"
  | inp => "in"
  | noop => "noop"

/-- The roles of an operation's operands, left to right. -/
def roles : Opcode → List Role
  | halt | ret | noop => []
  | push | jmp | call | out => [.source]
  | pop | inp => [.destination]
  | jt | jf | wmem => [.source, .source]
  | set | not | rmem => [.destination, .source]
  | eq | gt | add | mult | mod | and | or => [.destination, .source, .source]

def arity (op : Opcode) : Nat := op.roles.length

/-- The name of a code in listings, also of one that belongs to no operation. -/
def nameOf (word : UInt16) : String :=
  match ofWord? word with
  | some op => op.mnemonic
  | none => "op(" ++ toString word.toNat ++ ")"

end Opcode

end WordMachine
