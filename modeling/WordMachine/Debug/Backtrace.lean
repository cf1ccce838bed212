import WordMachine.Debug.Debugger

/-!
# Backtraces

The words on the stack, the top first. A word is taken for a return address if it
points just past a call; that is the best one stack for data and returns allows.
-/

namespace WordMachine

/-- One word of the stack. -/
structure Frame where
  /-- The number of words above it. -/
  depth : Nat
  value : UInt16
  /-- The call that the word would return to, if there is one. -/
  callSite : Option UInt16
deriving DecidableEq, Repr

/-- The call just before an address. -/
def Machine.callBefore? (machine : Machine) (value : UInt16) : Option UInt16 :=
  if 2 ≤ value then
    if machine.word? (value - 2).toUInt64 = some Opcode.call.code then some (value - 2) else none
  else none

/-- The frames of words, numbered from `depth` on. -/
def framesFrom (machine : Machine) (depth : Nat) : List UInt16 → List Frame
  | [] => []
  | value :: rest =>
    ⟨depth, value, machine.callBefore? value⟩ :: framesFrom machine (depth + 1) rest

/-- The top frames of the stack, at most `limit`. -/
def Machine.backtrace (machine : Machine) (limit : Nat) : List Frame :=
  framesFrom machine 0 (machine.stack.topmost limit)

namespace Frame

def text (frame : Frame) : String :=
  let word := "  #" ++ Numeral.padRight 3 (toString frame.depth) ++ " " ++
    Numeral.hex 4 frame.value.toNat
  match frame.callSite with
  | none => word ++ "\n"
  | some site => word ++ "  return from call at " ++ Numeral.hex 4 site.toNat ++ "\n"

end Frame

def backtraceText (frames : List Frame) : String :=
  match frames with
  | [] => "  (stack empty)\n"
  | frames => String.join (frames.map Frame.text)

end WordMachine
