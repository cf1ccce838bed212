import WordMachine.Disk.Loading
import WordMachine.Disk.Tables
import WordMachine.Settings

/-!
# The world of a run

What is around a run: a disk, the standard streams and the log. A file may be the
standard input under another name, and what is read there is gone from the input. The
error output is a stream of its own, on which no greeting is shown.

Lines of the log are kept as they are up to the start of the run. How they are written
depends on the moment, and is left open. The lines about the run itself hold times and
an identifier that is made up for it, and are left out.
-/

namespace WordMachine

/-- What the standard input comes from. -/
inductive Attachment where
  /-- A file or another program. -/
  | stream
  /-- A keyboard. -/
  | keyboard
  /-- A keyboard that does not let single keys be read. -/
  | stuck (reason : String)
deriving DecidableEq, Repr

/-- A line of the log: what it is about, and what it says. -/
structure LogLine where
  topic : String
  text : String
deriving DecidableEq, Repr

/-- Where lines of the log go. -/
structure LogTarget where
  verbosity : Int
  /-- The place of the file that they are written to. Without one they go to the error
      output of the process. -/
  place : Option Place
deriving DecidableEq, Repr

/-- The least verbosity with which anything is written to the log. -/
abbrev LogSettings.leastVerbosity : Int := -3

/-- The least verbosity with which the log tells of what goes well. -/
abbrev LogTarget.tellingVerbosity : Int := 1

structure World where
  disk : Disk
  attachment : Attachment
  /-- What is left of the standard input. -/
  stdin : List UInt8
  /-- What was written to the standard output. -/
  stdout : List UInt8
  /-- The lines of the log so far. -/
  log : List LogLine
  /-- How a line of the log is written after others. -/
  print : List LogLine → LogLine → List UInt8

namespace World

/-- A world in which nothing has happened yet. -/
def initial (disk : Disk) (attachment : Attachment) (stdin : List UInt8)
    (print : List LogLine → LogLine → List UInt8) : World :=
  ⟨disk, attachment, stdin, [], [], print⟩

/-! ## Files -/

/-- The disk as it is read. -/
def shown (world : World) : Disk := world.disk.shown world.stdin

/-- Whether a path leads to the standard input. -/
def isInput (world : World) (path : String) : Bool :=
  match world.disk.find path with
  | .ok (.file .input) => true
  | _ => false

/-- The world after a file was read to its end. -/
def afterReading (world : World) (path : String) : World :=
  if world.isInput path then { world with stdin := [] } else world

/-- The world with bytes added to a file. -/
def append (world : World) (place : Place) (bytes : List UInt8) : World :=
  match world.disk.entryAt? place with
  | some (.file .output) => { world with stdout := world.stdout ++ bytes }
  | _ => { world with disk := world.disk.append place bytes }

/-- The world with a snapshot saved in a file. One that is saved in the standard input is
    lost. -/
def saveSnapshot (world : World) (path : String) (snapshot : Snapshot) : Except FileError World :=
  match world.disk.find path with
  | .ok (.file .input) => .ok world
  | .ok (.file .output) => .ok { world with stdout := world.stdout ++ snapshot.toFile }
  | _ =>
    match world.disk.saveSnapshot path snapshot with
    | .ok disk => .ok { world with disk }
    | .error error => .error error

/-! ## The log -/

/-- Opens the file of the log, if one is asked for and anything is to be written. It is made
    if it is absent. -/
def openLog (world : World) (log : LogSettings) : Except FileError LogTarget × World :=
  if log.file = "" ∨ log.verbosity < LogSettings.leastVerbosity then
    (.ok ⟨log.verbosity, none⟩, world)
  else
    match world.disk.placeForFile log.file with
    | .error reason => (.error ⟨.opening, log.file, reason⟩, world)
    | .ok place => (.ok ⟨log.verbosity, some place⟩, world.append place [])

/-- The world with a line in its log, if the log tells of what goes well. -/
def tell (world : World) (target : LogTarget) (line : LogLine) : World :=
  if target.verbosity < LogTarget.tellingVerbosity then world
  else
    let told := { world with log := world.log ++ [line] }
    match target.place with
    | none => told
    | some place => told.append place (world.print world.log line)

def tellAll (world : World) (target : LogTarget) (lines : List LogLine) : World :=
  lines.foldl (fun world line => world.tell target line) world

end World

end WordMachine
