import WordMachine.Debug.Condition
import WordMachine.Machine.State

/-!
# The debugger's view of a machine

Registers by name, memory by address, and breakpoints that may have conditions. A
breakpoint counts how often a run arrives at it.
-/

namespace WordMachine

namespace Machine

/-- A register by name. R0 to R7 may have white space around the name; PC and SP, the
    depth of the stack, may not. -/
def register? (machine : Machine) (name : String) : Option UInt64 :=
  let upper := Text.upper name.toList
  if upper = "PC".toList then some machine.pc.toUInt64
  else if upper = "SP".toList then some machine.stack.depth.toUInt64
  else (Registers.named? (String.ofList upper)).map fun index =>
    (machine.registers.get index).toUInt64

/-- The machine with a register set by name. SP cannot be set, nor a general register
    to more than 15 bits; PC wraps at the end of memory. -/
def setRegister? (machine : Machine) (name : String) (value : UInt64) : Option Machine :=
  let upper := Text.upper name.toList
  if upper = "PC".toList then some (machine.jump value)
  else
    match Registers.named? (String.ofList upper) with
    | none => none
    | some index =>
      if value ≤ maxLiteral.toUInt64 then
        some { machine with registers := machine.registers.set index value.toUInt16 }
      else none

/-- Words from an address on; none past the end of memory. -/
def readMemory? (machine : Machine) (address : UInt64) (count : Int) : Option (List UInt16) :=
  if addressSpace ≤ address.toNat then some [] else machine.store.slice? address.toUInt32 count

/-- The word at an address, unless it lies past the end of memory. -/
def word? (machine : Machine) (address : UInt64) : Option UInt16 :=
  if h : address.toNat < addressSpace then some (machine.store.get ⟨address.toNat, h⟩) else none

/-- The store with words put at an address and after, up to the end of memory. Addresses
    are 64-bit sums. -/
def storeWords (store : Store) (address : UInt64) : List UInt16 → Store
  | [] => store
  | word :: rest =>
    if h : address.toNat < addressSpace then
      storeWords (store.put ⟨address.toNat, h⟩ word) (address + 1) rest
    else store

/-- The machine with words put at an address and after, up to the end of memory. -/
def writeMemory (machine : Machine) (address : UInt64) (words : List UInt16) : Machine :=
  { machine with store := storeWords machine.store address words }

end Machine

/-- A register as reports list it. -/
structure RegisterView where
  name : String
  bits : Nat
  value : UInt64
  group : String
deriving DecidableEq, Repr

/-- All registers: R0 to R7, then PC and SP. -/
def Machine.registerViews (machine : Machine) : List RegisterView :=
  (List.finRange registerCount).map (fun index =>
    ⟨Registers.name index, 16, (machine.registers.get index).toUInt64, "general"⟩) ++
  [⟨"PC", 16, machine.pc.toUInt64, "control"⟩,
   ⟨"SP", 16, machine.stack.depth.toUInt64, "control"⟩]

namespace Condition

/-- The value of a subject, unless it cannot be read. -/
def actual? (subject : Subject) (machine : Machine) (hits : UInt64) : Option UInt64 :=
  match subject with
  | .register name => machine.register? name
  | .memory address => (machine.word? address).map (·.toUInt64)
  | .hitCount => some hits
  | .nothing => some 0

/-- Whether a condition holds. It does not when its subject cannot be read. -/
def holds (condition : Condition) (machine : Machine) (hits : UInt64) : Bool :=
  match actual? condition.subject machine hits with
  | some actual => condition.comparison.holds actual condition.value
  | none => false

end Condition

/-- A place where runs stop, always or under a condition. -/
structure Breakpoint where
  address : UInt64
  condition : Option Condition
  /-- How often a run arrived here, modulo 2^64. -/
  hits : UInt64
deriving DecidableEq, Repr

/-- Whether a run that arrives stops. -/
def Breakpoint.fires (breakpoint : Breakpoint) (machine : Machine) : Bool :=
  match breakpoint.condition with
  | none => true
  | some condition => condition.holds machine breakpoint.hits

/-- The breakpoint at which a run stopped last. -/
structure Hit where
  address : UInt64
  hits : UInt64
deriving DecidableEq, Repr

/-- Breakpoints in order of address, at most one for each, and the last hit. -/
structure Debugger where
  breakpoints : List Breakpoint
  lastHit : Option Hit
deriving DecidableEq, Repr

namespace Debugger

/-- No breakpoints. -/
def empty : Debugger := ⟨[], none⟩

/-- The breakpoints with one added in its place, instead of one at the same address. -/
def insert (breakpoint : Breakpoint) : List Breakpoint → List Breakpoint
  | [] => [breakpoint]
  | head :: rest =>
    if breakpoint.address < head.address then breakpoint :: head :: rest
    else if breakpoint.address = head.address then breakpoint :: rest
    else head :: insert breakpoint rest

/-- Sets a breakpoint that was never hit, unless the address lies past memory. -/
def set? (debugger : Debugger) (address : UInt64) (condition : Option Condition) :
    Option Debugger :=
  if address.toNat < addressSpace then
    some { debugger with breakpoints := insert ⟨address, condition, 0⟩ debugger.breakpoints }
  else none

/-- The addresses of all breakpoints in order. -/
def addresses (debugger : Debugger) : List UInt64 :=
  debugger.breakpoints.map (·.address)

def find? (debugger : Debugger) (address : UInt64) : Option Breakpoint :=
  debugger.breakpoints.find? (·.address == address)

/-- Counts an arrival at a breakpoint. -/
def count (address : UInt64) (breakpoint : Breakpoint) : Breakpoint :=
  if breakpoint.address = address then { breakpoint with hits := breakpoint.hits + 1 }
  else breakpoint

/-- A run arrives at an address: the breakpoint there counts it and may stop the run. -/
def arrive (debugger : Debugger) (machine : Machine) : Bool × Debugger :=
  let address := machine.pc.toUInt64
  match debugger.find? address with
  | none => (false, debugger)
  | some found =>
    let breakpoint := count address found
    let breakpoints := debugger.breakpoints.map (count address)
    if breakpoint.fires machine then (true, ⟨breakpoints, some ⟨address, breakpoint.hits⟩⟩)
    else (false, { debugger with breakpoints })

end Debugger

/-- Addresses in hexadecimal, separated by spaces. -/
def addressList (addresses : List UInt64) : String :=
  " ".intercalate (addresses.map fun address => Numeral.hex 4 address.toNat)

end WordMachine
