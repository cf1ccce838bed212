import WordMachine.Cbor.Reader
import WordMachine.Snapshot.Record
import WordMachine.Text.Utf8

/-!
# Snapshots as data items

A snapshot is written as a map with one entry for each field, shorter names first. It
is read from a map whose keys may come in any order and either case; fields that are
missing stay blank, unknown ones are passed over, and of two with one name the first
counts.
-/

namespace WordMachine.Snapshot

open Cbor (Item)

/-- The fields of a snapshot. -/
inductive Field where
  | pc
  | cpu
  | mem
  | regs
  | count
  | stack
  | pending
  | version
deriving DecidableEq, Repr

namespace Field

/-- The fields in the order in which they are written. -/
def all : List Field := [pc, cpu, mem, regs, count, stack, pending, version]

def key : Field → String
  | pc => "pc"
  | cpu => "cpu"
  | mem => "mem"
  | regs => "regs"
  | count => "count"
  | stack => "stack"
  | pending => "pending"
  | version => "version"

/-- The field of a name in either case. Names are ASCII, so only ASCII letters have
    another case of the same length. -/
def named? (name : List Char) : Option Field :=
  all.find? fun field => field.key.toList == name.map Char.toLower

end Field

/-- A list, null if it is absent. -/
def writeOptional {α : Type} (write : List α → List UInt8) : Option (List α) → List UInt8
  | some list => write list
  | none => Cbor.writeNull

def writeField (snapshot : Snapshot) : Field → List UInt8
  | .pc => Cbor.writeInt snapshot.pc.toNat
  | .cpu => Cbor.writeText (Utf8.bytesOf snapshot.cpu)
  | .mem => writeOptional Cbor.writeWords snapshot.memory
  | .regs => Cbor.writeWords snapshot.registers.words.toList
  | .count => Cbor.writeInt snapshot.count.toNat
  | .stack => writeOptional Cbor.writeWords snapshot.stack
  | .pending => writeOptional Cbor.writeBytes snapshot.pending
  | .version => Cbor.writeInt snapshot.version

def writeEntry (snapshot : Snapshot) (field : Field) : List UInt8 :=
  Cbor.writeText (Utf8.bytesOf field.key) ++ snapshot.writeField field

def encode (snapshot : Snapshot) : List UInt8 :=
  Cbor.head Cbor.mapType Field.all.length ++ Field.all.flatMap snapshot.writeEntry

/-- A number between bounds; null leaves the number that is there. -/
def readBounded (low high default : Int) (item : Item) : Option Int := do
  let item ← item.bare
  if item.isNull then return default
  else
    let n ← item.integer?
    if low ≤ n ∧ n ≤ high then return n else none

/-- A number of so many bits. -/
def readNat (bits : Nat) (item : Item) : Option Nat :=
  (readBounded 0 (Nat.pow 2 bits - 1 : Nat) 0 item).map Int.toNat

/-- Numbers of so many bits. -/
def readNats (bits : Nat) (items : List Item) : Option (List Nat) :=
  items.mapM (readNat bits)

/-- An array of words; null for none. -/
def readWords (item : Item) : Option (Option (List UInt16)) := do
  let item ← item.bare
  if item.isNull then return none
  else
    match item with
    | .array items => return some ((← readNats 16 items).map Nat.toUInt16)
    | _ => none

/-- A byte string, an array of bytes, or the bytes of a big number; null for none. -/
def readByteList (item : Item) : Option (Option (List UInt8)) := do
  let item ← item.bare
  if item.isNull then return none
  else
    match item with
    | .bytes content => return some content
    | .tag _ (.bytes content) => return some content
    | .array items => return some ((← readNats 8 items).map Nat.toUInt8)
    | _ => none

/-- Eight registers. Those that are missing are zero, and further items are not looked at. -/
def readRegisters (item : Item) : Option Registers := do
  let item ← item.bare
  if item.isNull then return .zero
  else
    match item with
    | .array items =>
      let words := (← readNats 16 (items.take registerCount)).map Nat.toUInt16
      return ⟨Vector.ofFn fun index => words.getD index.val 0⟩
    | _ => none

/-- The characters of a text string, each chunk of which must be whole characters. -/
def readChunks (chunks : List (List UInt8)) : Option (List Char) :=
  (chunks.mapM Utf8.decode?).map List.flatten

/-- A text; null leaves it empty. -/
def readText (item : Item) : Option String := do
  let item ← item.bare
  if item.isNull then return ""
  else
    match item with
    | .text chunks => (readChunks chunks).map String.ofList
    | _ => none

def readField (snapshot : Snapshot) (field : Field) (item : Item) : Option Snapshot := do
  match field with
  | .pc => return { snapshot with pc := (← readNat 32 item).toUInt32 }
  | .cpu => return { snapshot with cpu := ← readText item }
  | .mem => return { snapshot with memory := ← readWords item }
  | .regs => return { snapshot with registers := ← readRegisters item }
  | .count => return { snapshot with count := (← readNat 64 item).toUInt64 }
  | .stack => return { snapshot with stack := ← readWords item }
  | .pending => return { snapshot with pending := ← readByteList item }
  | .version =>
    let version ← readBounded (-0x8000000000000000) 0x7FFFFFFFFFFFFFFF 0 item
    return { snapshot with version }

/-- The field that a key names. Number keys name none; what is neither text nor a number
    is no key. -/
def readKey (key : Item) : Option (Option Field) :=
  match key with
  | .text chunks => (readChunks chunks).map Field.named?
  | .unsigned _ => some none
  | .negative n => if n.toNat < 0x8000000000000000 then some none else none
  | _ => none

/-- Sets the fields that the entries name, except those in `found`. -/
def readEntries (snapshot : Snapshot) (found : List Field) :
    List (Item × Item) → Option Snapshot
  | [] => some snapshot
  | (key, value) :: rest => do
    match ← readKey key with
    | none => readEntries snapshot found rest
    | some field =>
      if field ∈ found then readEntries snapshot found rest
      else
        let snapshot ← readField snapshot field value
        readEntries snapshot (field :: found) rest

/-- The snapshot of an item: a map, or null for a blank one. -/
def ofItem (item : Item) : Option Snapshot := do
  let item ← item.bare
  if item.isNull then return blank
  else
    match item with
    | .map pairs => readEntries blank [] pairs
    | _ => none

/-- Reads a snapshot that is one item and nothing else. -/
def decode (bytes : List UInt8) : Option Snapshot := do
  let item ← Cbor.parse? bytes
  ofItem item

end WordMachine.Snapshot
