import WordMachine.Trace.Recorder

/-!
# Observers

Besides a recorder, any number of tracers may watch a machine. What they note is
collected in the order in which it happens.
-/

namespace WordMachine

/-- Something that a tracer notes. -/
inductive TraceLine where
  | event (event : StepEvent)
  | fault (fault : Fault)
  | logged (text : String)
deriving DecidableEq, Repr

/-- The kinds of tracer. -/
inductive Tracer where
  /-- Notes events and faults as they are. -/
  | events
  /-- Writes log lines: faults always, steps only when debugging. -/
  | log (debug : Bool)
deriving DecidableEq, Repr

def StepEvent.logLine (event : StepEvent) : String :=
  Numeral.hex 4 event.instruction.address.toNat ++ "  " ++
    Numeral.padRight 20 event.instruction.text ++ " -> " ++
    Numeral.hex 4 event.next.toNat ++ "  " ++ event.registers.text ++ "  sp=" ++
      toString event.depth

def Fault.logLine (fault : Fault) : String :=
  Numeral.hex 4 fault.pc.toNat ++ "  " ++ Numeral.padRight 20 fault.instruction.text ++ "  " ++
    fault.message

def Tracer.line? (tracer : Tracer) (notice : Notice) : Option TraceLine :=
  match tracer, notice with
  | .events, .stepped event => some (.event event)
  | .events, .faulted fault => some (.fault fault)
  | .log true, .stepped event => some (.logged ("D " ++ event.logLine))
  | .log false, .stepped _ => none
  | .log _, .faulted fault => some (.logged ("E " ++ fault.logLine))

/-- A recorder, tracers, and what the tracers noted. -/
structure Observers where
  recorder : Option Recorder
  tracers : List Tracer
  lines : Array TraceLine

namespace Observers

/-- No observers. -/
def none : Observers := ⟨.none, [], #[]⟩

def notify (notice : Notice) : Observers → Observers
  | ⟨recorder, tracers, lines⟩ =>
    ⟨recorder.map (·.notify notice), tracers,
      tracers.foldl (fun lines tracer => match tracer.line? notice with
        | some line => lines.push line
        | .none => lines) lines⟩

end Observers

end WordMachine
