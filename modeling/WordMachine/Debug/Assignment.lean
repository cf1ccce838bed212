import WordMachine.Cause
import WordMachine.Text.Quoted
import WordMachine.Text.Split
import WordMachine.Text.UpperCase

/-!
# Assignments and patches

Changes asked for before a run: `R7=25734` sets a register, and `$0209=21,21` puts
words into memory.
-/

namespace WordMachine

/-- A register, by the upper-case form of the name given, and the value asked for. -/
structure Assignment where
  name : String
  value : UInt64
deriving DecidableEq, Repr

/-- Words to put into memory from an address on. -/
structure Patch where
  address : UInt64
  words : List UInt16
deriving DecidableEq, Repr

/-- Why a text is no assignment and no patch. -/
inductive EditError where
  | noAssignment (text : String)
  | badValue (text : String)
  | noPatch (text : String)
  | badAddress (text : String)
  | badWord (field text : String)
  | pastEnd (text : String)
deriving DecidableEq, Repr

def EditError.message : EditError → String
  | noAssignment text => "expected NAME=VALUE, got " ++ Quoted.text text
  | badValue text => "invalid value in " ++ Quoted.text text
  | noPatch text => "expected ADDR=WORD[,WORD...], got " ++ Quoted.text text
  | badAddress text => "invalid address in " ++ Quoted.text text
  | badWord field text => "invalid word " ++ Quoted.text field ++ " in " ++ Quoted.text text
  | pastEnd text => Quoted.text text ++ " runs past the end of memory"

/-- Reads an assignment. Whether the name is a register's is not looked at. -/
def Assignment.parse (text : String) : Except EditError Assignment :=
  match Text.cutAt? '=' text.toList with
  | none => .error (.noAssignment text)
  | some (before, after) =>
    let name := Text.upper (Text.trim before)
    if name.isEmpty then .error (.noAssignment text)
    else
      match Numeral.readChars after with
      | .number value => .ok ⟨String.ofList name, value⟩
      | _ => .error (.badValue text)

namespace Patch

def parseWord (text : String) (field : List Char) : Except EditError UInt16 :=
  match Numeral.readChars field with
  | .number n =>
    if n ≤ 0xFFFF then .ok n.toUInt16
    else .error (.badWord (String.ofList (Text.trim field)) text)
  | _ => .error (.badWord (String.ofList (Text.trim field)) text)

def parse (text : String) : Except EditError Patch :=
  match Text.cutAt? '=' text.toList with
  | none => .error (.noPatch text)
  | some (before, after) =>
    match Numeral.readChars before with
    | .number address =>
      if address.toNat < addressSpace then do
        let words ← (Text.splitAt ',' after).mapM (parseWord text)
        if address.toNat + words.length ≤ addressSpace then return ⟨address, words⟩
        else .error (.pastEnd text)
      else .error (.badAddress text)
    | _ => .error (.badAddress text)

end Patch

end WordMachine
