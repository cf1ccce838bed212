import WordMachine.CommandLine
import WordMachine.Trace.Sheet

/-!
# The program

Looks up the files that a command line names, carries the command line out, and writes
what it leaves behind.
-/

namespace WordMachine.Outside

/-- What is at a path outside. Tables are kept as sheets. -/
def probe (path : String) : IO (Option Entry) := do
  try
    let found ← IO.FS.realPath path
    if ← found.isDir then return some .directory
    else
      let content ← IO.FS.readBinFile found
      match (String.fromUTF8? content).bind Sheet.read? with
      | some runs => return some (.file (.tables runs))
      | none => return some (.file (.bytes content.toList))
  catch _ => return none

/-- The places outside that are standard streams. -/
def streams : List (Place × Contents) :=
  [(["dev", "stdin"], .input), (["dev", "stdout"], .output)]

/-- The disk with what is found at the end of a path, and on the way to it. -/
def lookUp (disk : Disk) (path : String) : IO Disk := do
  let mut disk := disk
  for place in Disk.wayTo (Path.simplify (Path.absolute disk.homePath path)) do
    match streams.lookup place with
    | some stream => disk := disk.put place (.file stream)
    | none =>
      match ← probe ("/" ++ "/".intercalate place) with
      | some entry => disk := disk.put place entry
      | none => pure ()
  return disk

/-- The disk with what is found at the end of paths. -/
def lookUpAll (disk : Disk) (paths : List String) : IO Disk :=
  paths.foldlM lookUp disk

/-- All bytes of a stream, after those in `read`. -/
partial def readAll (stream : IO.FS.Stream) (read : ByteArray) : IO ByteArray := do
  let chunk ← stream.read 65536
  if chunk.isEmpty then return read else readAll stream (read ++ chunk)

/-- Writes the files that are new or different. -/
def store (before after : Disk) : IO Unit := do
  for (place, entry) in after.entries do
    let path := "/" ++ "/".intercalate place
    match entry, before.entryAt? place with
    | .file (.tables runs), _ => IO.FS.writeFile path (Sheet.write runs)
    | .file (.bytes content), some (.file (.bytes old)) =>
      if content ≠ old then IO.FS.writeBinFile path ⟨content.toArray⟩
    | .file (.bytes content), _ => IO.FS.writeBinFile path ⟨content.toArray⟩
    | .directory, _ | .file .input, _ | .file .output, _ => pure ()

/-- More instructions than any run carries out. -/
def fuel : Nat := 0x4000000000000000

/-- What this build says about itself. -/
def build : CommandLine.Build := ⟨"none", "any"⟩

/-- How a line of the log is written. The moment is not shown. -/
def print (_ : List LogLine) (line : LogLine) : List UInt8 :=
  Utf8.bytesOf ("INFO [" ++ line.topic ++ "] " ++ line.text ++ "\n")

/-- The world with the standard input in it. -/
def withInput (world : World) : IO World := do
  let input ← readAll (← IO.getStdin) .empty
  return { world with stdin := input.toList }

end WordMachine.Outside

open WordMachine in
def main (arguments : List String) : IO UInt32 := do
  let home := Path.simplify (← IO.currentDir).toString
  let configuration := CommandLine.configurationPath? arguments
  let disk ← Outside.lookUpAll (.empty home) configuration.toList
  let world := World.initial disk .stream [] Outside.print
  -- A configuration that is the standard input has to be read first.
  let early := configuration.any world.isInput
  let world ← if early then Outside.withInput world else pure world
  let request := CommandLine.request Outside.build arguments world.shown
  let disk ← Outside.lookUpAll disk request.paths
  let world := { world with disk }
  let world ← if request.reads && !early then Outside.withInput world else pure world
  match CommandLine.run Outside.build Outside.fuel arguments world with
  | none =>
    (← IO.getStderr).putStr (CommandLine.complaint "no room for a batch of steps")
    return CommandLine.usageCode.toUInt32
  | some result =>
    (← IO.getStdout).write ⟨result.stdout.toArray⟩
    (← IO.getStderr).putStr result.stderr
    Outside.store disk result.disk
    return result.code.toUInt32
