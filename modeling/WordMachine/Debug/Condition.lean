import WordMachine.Registers
import WordMachine.Cause
import WordMachine.Text.Quoted

/-!
# Breakpoint conditions

A condition compares a register, a word of memory or the number of hits with a
constant, as in `R1==$FF`, `[$1000]==$42` or `hitcount>10`.
-/

namespace WordMachine

/-- The six ways to compare. -/
inductive Comparison where
  | equal
  | notEqual
  | less
  | greater
  | lessEqual
  | greaterEqual
deriving DecidableEq, Repr

namespace Comparison

/-- All comparisons in order of their numbers. -/
def all : List Comparison := [equal, notEqual, less, greater, lessEqual, greaterEqual]

def ofNumber? (number : Int) : Option Comparison :=
  if 0 ≤ number then all[number.toNat]? else none

def number : Comparison → Nat
  | equal => 0
  | notEqual => 1
  | less => 2
  | greater => 3
  | lessEqual => 4
  | greaterEqual => 5

def sign : Comparison → List Char
  | equal => ['=', '=']
  | notEqual => ['!', '=']
  | less => ['<']
  | greater => ['>']
  | lessEqual => ['<', '=']
  | greaterEqual => ['>', '=']

/-- The signs in the order in which they are looked for: those of two characters come
    before those that begin them. -/
def searchOrder : List Comparison := [equal, notEqual, lessEqual, greaterEqual, less, greater]

def holds (comparison : Comparison) (actual expected : UInt64) : Bool :=
  match comparison with
  | equal => actual == expected
  | notEqual => actual != expected
  | less => actual < expected
  | greater => expected < actual
  | lessEqual => actual ≤ expected
  | greaterEqual => expected ≤ actual

end Comparison

/-- What a condition looks at. -/
inductive Subject where
  /-- A register by name: R0 to R7, PC or SP. -/
  | register (name : String)
  /-- The word at an address. -/
  | memory (address : UInt64)
  /-- The number of hits. -/
  | hitCount
  /-- Nothing: the value is zero and the text is empty. -/
  | nothing
deriving DecidableEq, Repr

/-- A comparison of a subject with a constant. -/
structure Condition where
  subject : Subject
  comparison : Comparison
  value : UInt64
deriving DecidableEq, Repr

/-- Why a text is no condition. -/
inductive ConditionError where
  | empty
  | noOperator (text : String)
  | badValue (text : String)
  | badAddress (text : String)
  | unknownRegister (text : String)
deriving DecidableEq, Repr

def ConditionError.message : ConditionError → String
  | empty => "empty condition"
  | noOperator text =>
    "no operator found in " ++ Quoted.text text ++ " (use ==, !=, <, >, <=, >=)"
  | badValue text => "invalid value: " ++ Quoted.text text
  | badAddress text => "invalid memory address: " ++ Quoted.text text
  | unknownRegister text => "unknown register " ++ Quoted.text text

namespace Subject

def text : Subject → String
  | register name => name
  | memory address => "[$" ++ Numeral.hex 4 address.toNat ++ "]"
  | hitCount => "hitcount"
  | nothing => ""

/-- Between the brackets of a text in brackets. -/
def bracketed? (cs : List Char) : Option (List Char) :=
  match cs with
  | '[' :: rest => if rest.getLast? = some ']' then some rest.dropLast else none
  | _ => none

/-- Reads the left side of a condition, white space around it gone. -/
def parse (cs : List Char) : Except ConditionError Subject :=
  match bracketed? cs with
  | some inner =>
    match Numeral.readChars inner with
    | .number address =>
      if address.toNat < addressSpace then .ok (.memory address)
      else .error (.badAddress (String.ofList inner))
    | _ => .error (.badAddress (String.ofList inner))
  | none =>
    if Text.sameLetters cs "hitcount".toList then .ok .hitCount
    else
      let name := String.ofList (Text.upper cs)
      if (Registers.named? name).isSome ∨ name = "PC" ∨ name = "SP" then .ok (.register name)
      else .error (.unknownRegister (String.ofList cs))

end Subject

namespace Condition

/-- The characters before and after the first place where `sign` occurs. -/
def cut? (sign : List Char) : List Char → Option (List Char × List Char)
  | [] => if sign.isEmpty then some ([], []) else none
  | c :: rest =>
    if sign.isPrefixOf (c :: rest) then some ([], (c :: rest).drop sign.length)
    else (cut? sign rest).map fun parts => (c :: parts.1, parts.2)

/-- The first sign in search order that occurs, with what stands before and after it. -/
def split? (cs : List Char) : Option (Comparison × List Char × List Char) :=
  Comparison.searchOrder.findSome? fun comparison =>
    (cut? comparison.sign cs).map fun parts => (comparison, parts.1, parts.2)

/-- Reads a condition given as characters without white space around them. -/
def parseTrimmed (cs : List Char) : Except ConditionError Condition :=
  if cs.isEmpty then .error .empty
  else
    match split? cs with
    | none => .error (.noOperator (String.ofList cs))
    | some (comparison, left, right) =>
      let right := Text.trim right
      match Numeral.readChars right with
      | .number value => do
        let subject ← Subject.parse (Text.trim left)
        return ⟨subject, comparison, value⟩
      | _ => .error (.badValue (String.ofList right))

def parse (text : String) : Except ConditionError Condition :=
  parseTrimmed (Text.trim text.toList)

/-- The text of a condition, which reads back as the condition. -/
def text (condition : Condition) : String :=
  condition.subject.text ++ String.ofList condition.comparison.sign ++ "$" ++
    Numeral.hex 1 condition.value.toNat

end Condition

end WordMachine
