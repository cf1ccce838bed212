import WordMachine.Cause

/-!
# The stack

One stack without a limit holds both data and return addresses.
-/

namespace WordMachine

/-- The words on the stack, the bottom first. -/
structure Stack where
  words : Array UInt16
deriving DecidableEq, Repr

namespace Stack

/-- No words. -/
def empty : Stack := ⟨#[]⟩

instance : Inhabited Stack := ⟨empty⟩

def depth (stack : Stack) : Nat := stack.words.size

def push (stack : Stack) (word : UInt16) : Stack :=
  ⟨stack.words.push word⟩

def top? (stack : Stack) : Option UInt16 :=
  stack.words.back?

/-- The stack without its top word. -/
def drop (stack : Stack) : Stack :=
  ⟨stack.words.pop⟩

/-- The top word and the stack without it. -/
def pop (stack : Stack) : Except Cause (UInt16 × Stack) :=
  match stack.top? with
  | some word => .ok (word, stack.drop)
  | none => .error .emptyStack

/-- The word `below` places under the top. -/
def peek? (stack : Stack) (below : Int) : Option UInt16 :=
  if 0 ≤ below ∧ below.toNat < stack.words.size then
    stack.words[stack.words.size - 1 - below.toNat]?
  else none

/-- The words, the bottom first. -/
def toList (stack : Stack) : List UInt16 := stack.words.toList

/-- The stack of these words, the bottom first. -/
def ofList (words : List UInt16) : Stack := ⟨words.toArray⟩

/-- The first `count` words, the top first. -/
def topmost (stack : Stack) (count : Nat) : List UInt16 :=
  stack.words.toList.reverse.take count

end Stack

end WordMachine
