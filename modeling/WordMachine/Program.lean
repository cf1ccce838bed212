import WordMachine.Cause

/-!
# Program images

A program is stored as its words in order, the low byte of each first. An odd byte
at the end is a word of its own.
-/

namespace WordMachine.Program

/-- Why there is no program. -/
inductive ReadError where
  | tooLong (count : Nat)
  /-- The source of the bytes failed. -/
  | failed (reason : String)
deriving DecidableEq, Repr

def ReadError.cause : ReadError → Cause
  | tooLong count => .longProgram count
  | failed reason => .other ("reading program: " ++ reason)

/-- A word from its low and high byte. -/
def word (low high : UInt8) : UInt16 :=
  low.toUInt16 ||| (high.toUInt16 <<< 8)

/-- The error of a source that breaks off after its last byte instead of ending. Such an
    error may itself say that the data are at an end, or that they ended too early. -/
structure SourceError where
  reason : String
  meansEnd : Bool
  meansEarlyEnd : Bool
deriving DecidableEq, Repr

/-- An error that says nothing about an end of the data. -/
def SourceError.other (reason : String) : SourceError :=
  ⟨reason, false, false⟩

/-- The words that were read up to the end of a source. -/
def finish (failure : Option SourceError) (out : Array UInt16) :
    Except ReadError (List UInt16) :=
  match failure with
  | none => .ok out.toList
  | some error => if error.meansEnd then .ok out.toList else .error (.failed error.reason)

/-- Reads words after the `count` that are in `out`. An odd byte at the end is a word of its
    own if the data ended there, even if too early; before another error it is lost. -/
def decodeInto (failure : Option SourceError) (out : Array UInt16) (count : Nat) :
    List UInt8 → Except ReadError (List UInt16)
  | low :: high :: rest =>
    if count < addressSpace then decodeInto failure (out.push (word low high)) (count + 1) rest
    else .error (.tooLong (count + 1))
  | [low] =>
    if failure.all (·.meansEarlyEnd) then
      if count < addressSpace then .ok (out.push (word low 0)).toList
      else .error (.tooLong (count + 1))
    else finish failure out
  | [] => finish failure out

/-- The words of an image, read from a source of its bytes. -/
def decode (bytes : List UInt8) (failure : Option SourceError) :
    Except ReadError (List UInt16) :=
  decodeInto failure #[] 0 bytes

def encode (words : List UInt16) : List UInt8 :=
  words.flatMap fun (w : UInt16) => [w.toUInt8, (w >>> 8).toUInt8]

end WordMachine.Program
