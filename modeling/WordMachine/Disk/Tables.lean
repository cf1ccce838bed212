import WordMachine.Disk
import WordMachine.Disk.Address

/-!
# Tables on a disk

The file that an address of tables leads to, and the runs in its tables. The file is
opened first, and made if that is asked for; only then are the tables looked at.
-/

namespace WordMachine

/-- Why tables cannot be used. -/
inductive TablesError where
  /-- There can be no such file, or what is asked for makes no sense. -/
  | unopened
  /-- The file is not one for tables, or nothing can be written to it. -/
  | unusable
deriving DecidableEq, Repr

/-- Tables that were opened. -/
structure Tables where
  /-- Where their file is, if they are in one. -/
  place : Option Place
  runs : Array RunRecord

/-- The wording of a tables error, without what the tables add to it. -/
def TablesError.message : TablesError → String
  | unopened => "setting busy timeout"
  | unusable => "creating trace tables"

/-- The length of the path from the root, in bytes. -/
def Place.pathSize (place : Place) : Nat :=
  place.foldl (fun size name => size + 1 + name.utf8ByteSize) 0

namespace Disk

/-- The longest path on the way to tables. -/
abbrev wayLimit : Nat := 511

/-- What is added to the name of tables for the journal of changes. -/
def journalSuffix : String := "-journal"

/-- The longest path of tables: that of the journal must be short enough too. -/
abbrev tablesPathLimit : Nat := 512 - journalSuffix.utf8ByteSize

/-- One step on the way to tables. A step up undoes the last one, whatever is there; any
    other step must not lead out of a file or to a name that is too long. -/
def approach? (disk : Disk) (place : Place) (piece : String) : Option Place :=
  if piece = "" ∨ piece = "." then some place
  else if piece = ".." then some place.dropLast
  else
    let next := place ++ [piece]
    if wayLimit < Place.pathSize next then none
    else
      match disk.entryAt? place with
      | none => some next
      | some (.file _) => none
      | some .directory => if nameLimit < piece.utf8ByteSize then none else some next

/-- The place of the tables that a path leads to. -/
def tablesPlace? (disk : Disk) (path : String) : Option Place := do
  let place ← (Path.pieces path).foldlM disk.approach? (disk.start path)
  if place = [] ∨ tablesPathLimit < Place.pathSize place then none
  else
    match disk.entryAt? place.dropLast with
    | some .directory => return place
    | _ => none

/-- What is found at the place of tables when it is opened, and the disk on which an absent
    file was made, if that is allowed. -/
def openEntry (disk : Disk) (access : Access) (place : Place) : Option (Entry × Disk) :=
  match disk.entryAt? place with
  | some .directory => if access = .read then some (.directory, disk) else none
  | some entry => some (entry, disk)
  | none =>
    if access = .make then
      some (.file (.bytes []), disk.put place (.file (.bytes [])))
    else none

def takesJournal (place : Place) : Bool :=
  place.getLast?.all fun name => (name ++ journalSuffix).utf8ByteSize ≤ nameLimit

/-- The runs in an entry. A file of at most one byte counts as empty. -/
def runs? : Entry → Option (Array RunRecord)
  | .file (.tables runs) => some runs
  | .file (.bytes []) | .file (.bytes [_]) => some #[]
  | _ => none

/-- The tables at a place, and the disk with them on it. -/
def openTablesAt (disk : Disk) (address : Address) (place : Place) :
    Except TablesError Tables × Disk :=
  match disk.openEntry address.access place with
  | none => (.error .unopened, disk)
  | some (entry, disk) =>
    if ¬ address.optionsFit then (.error .unopened, disk)
    else if address.isWritable ∧ takesJournal place then
      match runs? entry with
      | some runs => (.ok ⟨some place, runs⟩, disk.put place (.file (.tables runs)))
      | none => (.error .unusable, disk)
    else (.error .unusable, disk)

/-- Tables that are in no file. -/
def openVolatile (address : Address) : Except TablesError Tables :=
  if ¬ address.optionsFit then .error .unopened
  else if address.isWritable then .ok ⟨none, #[]⟩
  else .error .unusable

/-- The tables of an address, and the disk with them on it. -/
def openTables (disk : Disk) (text : String) : Except TablesError Tables × Disk :=
  match Address.parse? text with
  | none => (.error .unopened, disk)
  | some address =>
    if address.isVolatile then (openVolatile address, disk)
    else
      match disk.tablesPlace? address.path with
      | none => (.error .unopened, disk)
      | some place => disk.openTablesAt address place

/-- The path of the file that an address leads to. -/
def tablesPath? (text : String) : Option String :=
  (Address.parse? text).bind fun address =>
    if address.isVolatile then none else some address.path

/-- The disk with these runs in tables that were opened. -/
def saveTables (disk : Disk) (tables : Tables) (runs : Array RunRecord) : Disk :=
  match tables.place with
  | none => disk
  | some place => disk.put place (.file (.tables runs))

/-- Why there is no run to be looked at. -/
inductive LookError where
  | tables (error : TablesError)
  | noRun
deriving DecidableEq, Repr

def LookError.message : LookError → String
  | tables error => error.message
  | noRun => TraceError.tables.message

/-- The first run in the tables of an address, and the disk with the tables on it. There is
    none if the address, taken as a path, leads to nothing. -/
def firstRun (disk : Disk) (text : String) : Except LookError (Option RunRecord) × Disk :=
  match disk.find text with
  | .error _ => (.ok none, disk)
  | .ok _ =>
    match disk.openTables text with
    | (.error error, disk) => (.error (.tables error), disk)
    | (.ok tables, disk) =>
      match tables.runs[0]? with
      | some record => (.ok (some record), disk)
      | none => (.error .noRun, disk)

end Disk

end WordMachine
