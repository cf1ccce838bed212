import WordMachine.Debug.Backtrace
import WordMachine.Machine.Run

/-!
# Run reports

What is said about a run that did not simply halt: why it ended, the registers and
the stack.
-/

namespace WordMachine

/-- The first line of a report, if there is one. -/
def Ending.headline (ending : Ending) (machine : Machine) (lastHit : Option Hit) : String :=
  match ending with
  | .halted => ""
  | .faulted fault => "\nFault: " ++ fault.message ++ "\n"
  | .breakpoint =>
    match lastHit with
    | none => ""
    | some hit =>
      "\nBreakpoint at " ++ Numeral.hex 4 hit.address.toNat ++ " (hit " ++
        toString hit.hits.toNat ++ ")\n"
  | .stopped => "\nStopped at PC=" ++ Numeral.hex 4 machine.pc.toNat ++ "\n"

/-- All registers on one line, PC and SP included. -/
def Machine.registerLine (machine : Machine) : String :=
  " ".intercalate (machine.registerViews.map fun view =>
    view.name ++ "=" ++ Numeral.hex 4 view.value.toNat)

abbrev reportDepth : Nat := 16

/-- The report of a run. There is none after a halt. -/
def Ending.report (ending : Ending) (machine : Machine) (lastHit : Option Hit) : String :=
  match ending with
  | .halted => ""
  | ending =>
    ending.headline machine lastHit ++ machine.registerLine ++ "\nStack (top first):\n" ++
      backtraceText (machine.backtrace reportDepth)

end WordMachine
