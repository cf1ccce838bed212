import WordMachine.Machine.State
import WordMachine.Text.Quoted

/-!
# Snapshots

A snapshot is everything that determines what a machine will do, the terminal apart.
Only memory below the extent is kept; the rest is zero.
-/

namespace WordMachine

/-- A saved machine, checked or not. A list may be absent, which means the same as an
    empty one. -/
structure Snapshot where
  version : Int
  cpu : String
  pc : UInt32
  registers : Registers
  /-- The stack, the bottom first. -/
  stack : Option (List UInt16)
  /-- The words of memory from address 0 on. -/
  memory : Option (List UInt16)
  /-- The rest of the input line being read. -/
  pending : Option (List UInt8)
  count : UInt64
deriving DecidableEq, Repr

/-- Why a snapshot is not accepted. -/
inductive SnapshotError where
  /-- The file cannot be read. -/
  | unreadable (reason : String)
  /-- The file ends within the mark at its start. -/
  | shortMark (empty : Bool)
  | badMark (bytes : List UInt8)
  /-- The file ends within its version. -/
  | shortVersion (empty : Bool)
  | version (number : Int)
  /-- What follows is no compressed file. -/
  | notCompressed
  | damaged
  /-- The contents are no snapshot. -/
  | undecodable
  | cpu (name : String)
  | pcOutside (pc : UInt32)
  | longMemory (count : Nat)
  | wideRegister (index : Fin registerCount) (word : UInt16)
  | wideStackWord (place : Nat) (word : UInt16)
deriving DecidableEq, Repr

namespace SnapshotError

/-- The words for a source that ends too soon: at once, or in the middle. -/
def ending (empty : Bool) : String :=
  if empty then "EOF" else "unexpected EOF"

def detail : SnapshotError → String
  | unreadable reason => "reading magic: " ++ reason
  | shortMark empty => "reading magic: " ++ ending empty
  | badMark bytes => "invalid magic " ++ Quoted.bytes bytes
  | shortVersion empty => "reading version: " ++ ending empty
  | version number => "unsupported version " ++ toString number
  | notCompressed => "opening gzip reader"
  | damaged => "decompressing"
  | undecodable => "decoding"
  | cpu name => "cpu type " ++ Quoted.text name
  | pcOutside pc => "PC 0x" ++ Numeral.hex 1 pc.toNat ++ " outside memory"
  | longMemory count => toString count ++ " memory words"
  | wideRegister index word =>
    Registers.name index ++ "=" ++ toString word.toNat ++ " exceeds 15 bits"
  | wideStackWord place word =>
    "stack[" ++ toString place ++ "]=" ++ toString word.toNat ++ " exceeds 15 bits"

def kindName : String := "bad snapshot"

def message (error : SnapshotError) : String :=
  kindName ++ ": " ++ error.detail

end SnapshotError

namespace Snapshot

/-- The version that is written and read. -/
abbrev currentVersion : Int := 1

def machineName : String := "W16"

/-- A snapshot in which nothing is set. -/
def blank : Snapshot := ⟨0, "", 0, .zero, none, none, none, 0⟩

def stackWords (snapshot : Snapshot) : List UInt16 := snapshot.stack.getD []

def memoryWords (snapshot : Snapshot) : List UInt16 := snapshot.memory.getD []

def pendingBytes (snapshot : Snapshot) : List UInt8 := snapshot.pending.getD []

/-- A list, absent if it is empty. -/
def presentIf {α : Type} (list : List α) : Option (List α) :=
  if list.isEmpty then none else some list

def take (machine : Machine) : Snapshot where
  version := currentVersion
  cpu := machineName
  pc := machine.pc
  registers := machine.registers
  stack := presentIf machine.stack.toList
  memory := presentIf machine.store.words
  pending := presentIf machine.pending
  count := machine.count

/-- The first register with more than 15 bits. -/
def wideRegister? (registers : Registers) : Option (Fin registerCount) :=
  (List.finRange registerCount).find? fun index => maxLiteral < registers.get index

/-- The first stack word with more than 15 bits, and its place. -/
def wideWord? (place : Nat) : List UInt16 → Option (Nat × UInt16)
  | [] => none
  | word :: rest => if maxLiteral < word then some (place, word) else wideWord? (place + 1) rest

/-- Whether a machine can be in the state of the snapshot: the first thing that is wrong
    with it, if any. -/
def check (snapshot : Snapshot) : Except SnapshotError Unit :=
  if snapshot.version ≠ currentVersion then .error (.version snapshot.version)
  else if snapshot.cpu ≠ machineName then .error (.cpu snapshot.cpu)
  else if addressSpace ≤ snapshot.pc.toNat then .error (.pcOutside snapshot.pc)
  else if addressSpace < snapshot.memoryWords.length then
    .error (.longMemory snapshot.memoryWords.length)
  else
    match wideRegister? snapshot.registers with
    | some index => .error (.wideRegister index (snapshot.registers.get index))
    | none =>
      match wideWord? 0 snapshot.stackWords with
      | some (place, word) => .error (.wideStackWord place word)
      | none => .ok ()

/-- Why a machine is not restored. -/
inductive RestoreError where
  /-- The snapshot is not accepted. -/
  | rejected (error : SnapshotError)
  /-- Memory does not take the words. -/
  | load (cause : Cause)
deriving DecidableEq, Repr

/-- Replaces the whole state of a machine. A snapshot that is not accepted changes
    nothing. -/
def restore (snapshot : Snapshot) (machine : Machine) : Except RestoreError Unit × Machine :=
  match snapshot.check with
  | .error error => (.error (.rejected error), machine)
  | .ok _ =>
    let cleared := machine.reset
    match cleared.store.load snapshot.memoryWords with
    | .error cause => (.error (.load cause), cleared)
    | .ok store =>
      (.ok (), { cleared with
        store
        pc := snapshot.pc
        registers := snapshot.registers
        stack := .ofList snapshot.stackWords
        pending := snapshot.pendingBytes
        count := snapshot.count })

end Snapshot

end WordMachine
