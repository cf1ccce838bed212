import WordMachine.Disk
import WordMachine.Machine.State
import WordMachine.Program
import WordMachine.Snapshot.File
import WordMachine.Terminal.Script

/-!
# Loading and saving

Programs, scripts and snapshots as files of a disk.
-/

namespace WordMachine

/-- A file that was opened: its bytes, and the error that follows them if it cannot be read
    to its end. -/
structure Source where
  bytes : List UInt8
  failure : Option FileError
deriving DecidableEq, Repr

/-- Opens a file. A directory can be opened, and fails when it is read. -/
def Disk.source (disk : Disk) (path : String) : Except FileError Source :=
  match disk.read path with
  | .ok bytes => .ok ⟨bytes, none⟩
  | .error error =>
    match error.action with
    | .opening => .error error
    | .reading => .ok ⟨[], some error⟩

/-- Why nothing was loaded from a file: it could not be opened, or what it holds is of no
    use. -/
inductive LoadError (ε : Type) where
  | unopened (error : FileError)
  | rejected (path : String) (error : ε)
deriving DecidableEq, Repr

def LoadError.message {ε : Type} (wording : ε → String) : LoadError ε → String
  | unopened error => error.message
  | rejected path error => path ++ ": " ++ wording error

/-! ## Programs -/

def Disk.program (disk : Disk) (path : String) :
    Except (LoadError Program.ReadError) (List UInt16) :=
  match disk.source path with
  | .error error => .error (.unopened error)
  | .ok source =>
    match Program.decode source.bytes (source.failure.map (.other ·.message)) with
    | .error error => .error (.rejected path error)
    | .ok words => .ok words

/-- Why a program file was not loaded into a machine. -/
inductive ProgramError where
  | file (error : LoadError Program.ReadError)
  /-- Memory does not take the words. -/
  | memory (path : String) (cause : Cause)
deriving DecidableEq, Repr

def ProgramError.message : ProgramError → String
  | file error => error.message fun e => e.cause.message
  | memory path cause => "loading " ++ path ++ ": " ++ cause.message

/-- Loads a program file. The machine stays as it is if the file is of no use. -/
def Machine.loadFile (machine : Machine) (disk : Disk) (path : String) :
    Except ProgramError Unit × Machine :=
  match disk.program path with
  | .error error => (.error (.file error), machine)
  | .ok words =>
    match machine.load words with
    | (.ok _, machine) => (.ok (), machine)
    | (.error cause, machine) => (.error (.memory path cause), machine)

/-! ## Scripts -/

def Disk.script (disk : Disk) (path : String) (echo : Bool) : Except (LoadError String) Script :=
  match disk.source path with
  | .error error => .error (.unopened error)
  | .ok source =>
    match source.failure with
    | some error => .error (.rejected path (Script.unreadable error.message))
    | none =>
      match Script.parse source.bytes echo with
      | .error error => .error (.rejected path error)
      | .ok script => .ok script

/-! ## Snapshots -/

def Disk.snapshot (disk : Disk) (path : String) : Except (LoadError SnapshotError) Snapshot :=
  match disk.source path with
  | .error error => .error (.unopened error)
  | .ok source =>
    match source.failure with
    | some error => .error (.rejected path (.unreadable error.message))
    | none =>
      match Snapshot.ofFile source.bytes with
      | .error error => .error (.rejected path error)
      | .ok snapshot => .ok snapshot

def Disk.saveSnapshot (disk : Disk) (path : String) (snapshot : Snapshot) : Except FileError Disk :=
  disk.write path (.bytes snapshot.toFile)

end WordMachine
