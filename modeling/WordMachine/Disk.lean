import WordMachine.Path
import WordMachine.Text.Utf8
import WordMachine.Trace.Recorder

/-!
# Disks

Files and directories by their place below the root, as far as a run needs them: a
path is followed piece by piece, files are read and written whole, and a file may
hold the tables of a recorder. Of special files there are those that are one of the
standard streams. There are no links, and everything that is there may be used.
-/

namespace WordMachine

/-- What a file holds. -/
inductive Contents where
  | bytes (content : List UInt8)
  /-- The tables of a recorder. -/
  | tables (runs : Array RunRecord)
  /-- Nothing of its own: the file is the standard input. -/
  | input
  /-- Nothing of its own: the file is the standard output. -/
  | output

/-- The mark at the start of a file of tables. -/
def Contents.tablesMark : List UInt8 := Utf8.bytesOf "SQLite format 3\x00"

/-- What is found by reading a file byte by byte. Of tables only the mark is known, and from
    a stream itself nothing comes. -/
def Contents.image : Contents → List UInt8
  | bytes content => content
  | tables _ => tablesMark
  | input | output => []

/-- What a file holds if the standard input holds these bytes. -/
def Contents.shown (stdin : List UInt8) : Contents → Contents
  | input => bytes stdin
  | contents => contents

/-- What is found at a place. -/
inductive Entry where
  | directory
  | file (contents : Contents)

def Entry.shown (stdin : List UInt8) : Entry → Entry
  | directory => directory
  | file contents => file (contents.shown stdin)

/-- A place below the root: the names on the way to it. -/
abbrev Place := List String

/-- Everything on a disk, and the directory that paths start from. -/
structure Disk where
  home : Place
  entries : List (Place × Entry)

/-- Why a file cannot be used. -/
inductive DiskError where
  | missing
  | notDirectory
  | isDirectory
  | longName
  | badName
deriving DecidableEq, Repr

def DiskError.message : DiskError → String
  | missing => "no such file or directory"
  | notDirectory => "not a directory"
  | isDirectory => "is a directory"
  | longName => "file name too long"
  | badName => "invalid argument"

/-- What was tried with a file. -/
inductive FileAction where
  | opening
  | reading
deriving DecidableEq, Repr

def FileAction.name : FileAction → String
  | opening => "open"
  | reading => "read"

/-- A file that cannot be used, and why. -/
structure FileError where
  action : FileAction
  path : String
  reason : DiskError
deriving DecidableEq, Repr

def FileError.message (error : FileError) : String :=
  error.action.name ++ " " ++ error.path ++ ": " ++ error.reason.message

namespace Disk

/-- The places on the way from the root to a place, both included. -/
def wayTo (place : Place) : List Place :=
  (List.range (place.length + 1)).map place.take

def empty (home : Place) : Disk :=
  ⟨home, (wayTo home).map fun place => (place, .directory)⟩

def entryAt? (disk : Disk) (place : Place) : Option Entry :=
  disk.entries.lookup place

def put (disk : Disk) (place : Place) (entry : Entry) : Disk :=
  { disk with entries := (place, entry) :: disk.entries.filter fun e => e.1 ≠ place }

/-- The disk with bytes added to a file, which is made if it is absent. Nothing but plain files
    takes them. -/
def append (disk : Disk) (place : Place) (bytes : List UInt8) : Disk :=
  match disk.entryAt? place with
  | none => disk.put place (.file (.bytes bytes))
  | some (.file (.bytes content)) => disk.put place (.file (.bytes (content ++ bytes)))
  | some _ => disk

/-- The disk as it is read while the standard input holds these bytes. -/
def shown (disk : Disk) (stdin : List UInt8) : Disk :=
  { disk with entries := disk.entries.map fun e => (e.1, e.2.shown stdin) }

/-- The disk with a directory at a place, unless something is there. -/
def addDirectory (disk : Disk) (place : Place) : Disk :=
  match disk.entryAt? place with
  | some _ => disk
  | none => disk.put place .directory

/-- The disk with a file at a place, and the directories on the way to it. -/
def addFile (disk : Disk) (place : Place) (contents : Contents) : Disk :=
  ((wayTo place.dropLast).foldl addDirectory disk).put place (.file contents)

def homePath (disk : Disk) : String :=
  "/" ++ "/".intercalate disk.home

/-- The longest name of a file or directory, in bytes. -/
abbrev nameLimit : Nat := 255

/-- Follows the pieces of a path from a place. Only the last of the places on the way may
    be absent, or something else than a directory. -/
def follow (disk : Disk) (place : Place) : List String → Except DiskError Place
  | [] => .ok place
  | piece :: rest =>
    match disk.entryAt? place with
    | none => .error .missing
    | some (.file _) => .error .notDirectory
    | some .directory =>
      if piece = "" ∨ piece = "." then follow disk place rest
      else if piece = ".." then follow disk place.dropLast rest
      else if nameLimit < piece.utf8ByteSize then .error .longName
      else follow disk (place ++ [piece]) rest

def start (disk : Disk) (path : String) : Place :=
  if Path.isAbsolute path then [] else disk.home

/-- The longest path, in bytes. -/
abbrev pathLimit : Nat := 4095

/-- What is wrong with a path, whatever is on a disk. -/
def fault? (path : String) : Option DiskError :=
  if path = "" then some .missing
  else if path.toList.contains '\x00' then some .badName
  else if pathLimit < path.utf8ByteSize then some .longName
  else none

/-- The place that pieces of a path lead to, whether or not something is there. -/
def resolvePieces (disk : Disk) (path : String) (pieces : List String) : Except DiskError Place :=
  match fault? path with
  | some error => .error error
  | none => disk.follow (disk.start path) pieces

/-- The place that a path leads to, whether or not something is there. -/
def resolve (disk : Disk) (path : String) : Except DiskError Place :=
  disk.resolvePieces path (Path.pieces path)

/-- What is at the end of a path. -/
def find (disk : Disk) (path : String) : Except DiskError Entry := do
  match disk.entryAt? (← disk.resolve path) with
  | none => .error .missing
  | some entry => return entry

/-- The bytes of a file. A directory can be opened, but not read. -/
def read (disk : Disk) (path : String) : Except FileError (List UInt8) :=
  match disk.find path with
  | .error reason => .error ⟨.opening, path, reason⟩
  | .ok .directory => .error ⟨.reading, path, .isDirectory⟩
  | .ok (.file contents) => .ok contents.image

/-- The place at which a path lets a file be made. A path that ends in a slash is a
    directory's. -/
def placeForFile (disk : Disk) (path : String) : Except DiskError Place := do
  match (Path.pieces path).reverse with
  | "" :: _ :: _ =>
    let named := ((Path.pieces path).reverse.dropWhile (· = "")).reverse
    match disk.entryAt? (← disk.resolvePieces path named.dropLast) with
    | none => .error .missing
    | some (.file _) => .error .notDirectory
    | some .directory => .error .isDirectory
  | _ =>
    let place ← disk.resolve path
    match disk.entryAt? place with
    | some .directory => .error .isDirectory
    | _ => return place

def write (disk : Disk) (path : String) (contents : Contents) : Except FileError Disk :=
  match disk.placeForFile path with
  | .error reason => .error ⟨.opening, path, reason⟩
  | .ok place => .ok (disk.put place (.file contents))

end Disk

end WordMachine
