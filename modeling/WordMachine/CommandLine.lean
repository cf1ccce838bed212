import WordMachine.CommandLine.Options
import WordMachine.CommandLine.Plan
import WordMachine.CommandLine.World
import WordMachine.Configuration
import WordMachine.Debug.Report
import WordMachine.Terminal
import WordMachine.Trace.Log

/-!
# The command line

Arguments and the world around them make up a run of the machine: what it writes, the
disk that it leaves behind, and its exit code. Everything that is wrong with the arguments
is found before the first instruction. What was opened until then is closed again.
-/

namespace WordMachine.CommandLine

/-- What comes out of a run. -/
structure Result where
  code : Nat
  stdout : List UInt8
  stderr : String
  /-- The input that was not read. -/
  unread : List UInt8
  disk : Disk

/-- The exit code of a request that is not carried out because it makes no sense. -/
abbrev usageCode : Nat := 2

/-- The exit code of a request that cannot be carried out. -/
abbrev failureCode : Nat := 1

/-- What a build says about itself. -/
structure Build where
  toolchain : String
  platform : String
deriving DecidableEq, Repr

/-- The features that are always there. -/
def features : List String :=
  ["debug:snapshots", "debug:trace-db", "terminal:raw-line-editing"]

def Build.featureText (build : Build) : String :=
  "Word Engine dev\n  Go version: " ++ build.toolchain ++ "\n  OS/Arch:    " ++ build.platform ++
    "\n\nCompiled features:\n" ++ String.join (features.map fun feature => "  " ++ feature ++ "\n")

/-- A complaint on a line of its own. -/
def complaint (text : String) : String := "Error: " ++ text ++ "\n"

/-- What comes out if nothing more happens in a world. -/
def answer (world : World) (code : Nat) (stderr : String) : Result :=
  ⟨code, world.stdout, stderr, world.stdin, world.disk⟩

/-! ## What the arguments ask for -/

/-- Why there are no settings. -/
inductive SettingsError where
  | configuration (error : ConfigurationError)
  | manyPrograms
  | noProgram
deriving DecidableEq, Repr

/-- What is written about missing settings. The use of the command line is explained only
    if the arguments are at fault. -/
def SettingsError.text : SettingsError → String
  | configuration error => complaint error.message
  | manyPrograms => complaint "only one program file may be given" ++ usage
  | noProgram => complaint "no program file given" ++ usage

/-- The settings of the configuration file that is asked for. -/
def Options.base (options : Options) (disk : Disk) : Except ConfigurationError Settings :=
  if options.config = "" then .ok .standard else disk.configuration options.config

/-- The settings that options and the arguments after them ask for. -/
def settings (options : Options) (operands : List String) (disk : Disk) :
    Except SettingsError Settings :=
  match options.base disk with
  | .error error => .error (.configuration error)
  | .ok base =>
    let settings := options.override base
    match operands with
    | _ :: _ :: _ => .error .manyPrograms
    | operands =>
      let settings := { settings with program := operands.head?.getD settings.program }
      if settings.program = "" ∧ settings.snapshot.load = "" then .error .noProgram
      else .ok settings

/-! ## Preparations -/

/-- Why a run is not started. -/
inductive StartError where
  /-- The keyboard does not let single keys be read. -/
  | keyboard (reason : String)
  | script (error : LoadError String)
  | tables (error : TablesError)
  | snapshot (error : LoadError SnapshotError)
  | restore (error : Snapshot.RestoreError)
  | program (error : ProgramError)
  /-- A register cannot be set as asked. -/
  | refused (assignment : Assignment)
  | recording (error : TraceError)
deriving DecidableEq, Repr

namespace StartError

def restoreText : Snapshot.RestoreError → String
  | .rejected error => error.message
  | .load cause => cause.message

def message : StartError → String
  | keyboard reason => "terminal_host: failed to set raw mode: " ++ reason
  | script error => "input script: " ++ error.message id
  | tables error => error.message
  | snapshot error => "snapshot: " ++ error.message SnapshotError.message
  | restore error => "snapshot: " ++ restoreText error
  | program error => error.message
  | refused assignment =>
    "set: cannot set " ++ assignment.name ++ " to " ++ toString assignment.value.toNat
  | recording error => error.message

/-- The exit code of a start error. Only a refused register is the fault of the arguments. -/
def code : StartError → Nat
  | refused _ => usageCode
  | _ => failureCode

end StartError

/-- The terminal that the standard streams make up. It gets its input when it is used, as files
    that are read before may be the standard input. -/
def openConsole (world : World) (log : LogTarget) : Except StartError Terminal × World :=
  match world.attachment with
  | .stream => (.ok (.stream (.opened [] none (.empty none))), world)
  | .keyboard =>
    (.ok (.editor (.opened [] none (.empty none))),
      world.tell log ⟨"word-engine.terminal", "interactive terminal in raw mode"⟩)
  | .stuck reason => (.error (.keyboard reason), world)

def scriptLine (path : String) (script : Script) : LogLine :=
  ⟨"word-engine.terminal",
    "replaying " ++ toString script.remaining ++ " input lines from " ++ path⟩

/-- A terminal with a script before it, if one is asked for. -/
def openScript (input : InputSettings) (world : World) (log : LogTarget) (console : Terminal) :
    Except StartError Terminal × World :=
  if input.script = "" then (.ok console, world)
  else
    let read := world.afterReading input.script
    match world.shown.script input.script input.echo with
    | .error error => (.error (.script error), read)
    | .ok script =>
      (.ok (.script script console), read.tell log (scriptLine input.script script))

/-- The tables of a recorder, if one is asked for. -/
def openTables (trace : TraceSettings) (world : World) (log : LogTarget) :
    Except StartError (Option Tables) × World :=
  if trace.database = "" then (.ok none, world)
  else
    match world.disk.openTables trace.database with
    | (.error error, disk) => (.error (.tables error), { world with disk })
    | (.ok tables, disk) =>
      let world := { world with disk }
      (.ok (some tables),
        world.tell log ⟨"word-engine.trace", "recording trace to " ++ trace.database⟩)

/-- A recorder, and the tables that it was opened on. -/
structure Recording where
  tables : Tables
  recorder : Recorder

/-- The recorder of a run, if one is asked for. There must be room for its batches. -/
def recording? (trace : TraceSettings) : Option Tables → Option (Option Recording)
  | none => some none
  | some tables =>
    (Recorder.open? tables.runs trace.batch).map fun recorder => some ⟨tables, recorder⟩

/-- The file that the machine is loaded from: a snapshot, if one is given, or a program. -/
def source (settings : Settings) : String :=
  if settings.snapshot.load = "" then settings.program else settings.snapshot.load

def loadMachine (settings : Settings) (disk : Disk) : Except StartError Machine :=
  if settings.snapshot.load = "" then
    match Machine.initial.loadFile disk settings.program with
    | (.ok _, machine) => .ok machine
    | (.error error, _) => .error (.program error)
  else
    match disk.snapshot settings.snapshot.load with
    | .error error => .error (.snapshot error)
    | .ok snapshot =>
      match snapshot.restore .initial with
      | (.ok _, machine) => .ok machine
      | (.error error, _) => .error (.restore error)

/-- The machine as it is loaded, with patches made and registers set. -/
def prepareMachine (settings : Settings) (plan : Plan) (disk : Disk) :
    Except StartError Machine := do
  let machine ← loadMachine settings disk
  match Plan.assign (plan.patch machine) plan.assignments with
  | .error assignment => .error (.refused assignment)
  | .ok machine => return machine

def loadedLine (settings : Settings) (machine : Machine) : LogLine :=
  if settings.snapshot.load = "" then
    ⟨"word-engine.cpu",
      "loaded " ++ toString machine.store.extent ++ " words from " ++ settings.program⟩
  else
    ⟨"word-engine.snapshot",
      "loaded snapshot from " ++ settings.snapshot.load ++ " (PC=" ++
        Numeral.hex 4 machine.pc.toNat ++ ")"⟩

def patchedLine (patch : Patch) : LogLine :=
  ⟨"word-engine",
    "patched " ++ toString patch.words.length ++ " words at " ++
      Numeral.hex 4 patch.address.toNat⟩

/-- The lines about a machine that was loaded and patched. -/
def preparationLines (settings : Settings) (plan : Plan) (disk : Disk) : List LogLine :=
  match loadMachine settings disk with
  | .error _ => []
  | .ok machine => loadedLine settings machine :: plan.patches.map patchedLine

/-- The line about the breakpoints, if there are any. -/
def breakpointsLine? (plan : Plan) : Option LogLine :=
  plan.debugger?.map fun debugger =>
    ⟨"word-engine",
      Snapshot.machineName ++ " breakpoints at " ++ addressList debugger.addresses⟩

/-- The recording with a run begun, if there is one. -/
def beginRun (recording : Option Recording) (program : String) :
    Except StartError (Option Recording) :=
  match recording with
  | none => .ok none
  | some ⟨tables, recorder⟩ =>
    match recorder.begin program with
    | .error error => .error (.recording error)
    | .ok recorder => .ok (some ⟨tables, recorder⟩)

/-! ## Runs -/

/-- A run that ended, and what was around it. -/
structure Finished where
  ending : Ending
  session : Session Terminal Observers

/-- Runs until something ends the run. A run that outlasts its fuel counts as stopped. -/
def runSession (fuel : Nat) (session : Session Terminal Observers) : Finished :=
  match session.run Observers.notify (fun _ => false) fuel with
  | (ending, session) => ⟨ending.getD .stopped, session⟩

/-! ## Closing -/

/-- The world after a terminal was given back: with what it has sent, and the input it has
    left. -/
def giveBack (console : Terminal) (world : World) : World :=
  let (_, console) := console.flush
  let console := console.release
  { world with stdout := world.stdout ++ console.drain.1.toList, stdin := console.unread }

/-- The world after a recorder, if there is one, was closed: with what is in its tables. -/
def closeRecording (recording : Option Recording) (world : World) : World :=
  match recording with
  | none => world
  | some ⟨tables, recorder⟩ =>
    let (_, recorder) := recorder.close
    { world with disk := world.disk.saveTables tables recorder.runs }

/-- The recording with the result of a run. -/
def finishRun (recording : Option Recording) (finished : Finished) : Option Recording :=
  match recording, finished.session.observer.recorder with
  | some ⟨tables, _⟩, some recorder =>
    let (_, recorder) :=
      recorder.finish finished.ending.result finished.session.machine.count
    some ⟨tables, recorder⟩
  | _, _ => none

/-- The world with the snapshot that a run leaves behind, and the complaint if it cannot be
    saved. A program that halted leaves none. -/
def saveState (save : String) (finished : Finished) (world : World) : String × World :=
  if finished.ending = .halted ∨ save = "" then ("", world)
  else
    match world.saveSnapshot save (.take finished.session.machine) with
    | .ok world => ("", world)
    | .error error => (complaint ("snapshot: " ++ error.message), world)

/-- What comes out of a run that ended. -/
def conclude (settings : Settings) (recording : Option Recording) (world : World)
    (finished : Finished) : Result :=
  let world := closeRecording (finishRun recording finished) world
  let world := finished.session.console.elim world (giveBack · world)
  let (trouble, world) := saveState settings.snapshot.save finished world
  let lastHit := finished.session.debugger.bind (·.lastHit)
  answer world (exitCode finished.ending.result finished.ending.fault?)
    (trouble ++ finished.ending.report finished.session.machine lastHit)

/-- What comes out of a run that is not started, in a world in which everything is closed. -/
def decline (error : StartError) (world : World) : Result :=
  answer world error.code (complaint error.message)

/-- The world after a machine was loaded and patched. -/
def afterLoading (settings : Settings) (plan : Plan) (log : LogTarget) (world : World) : World :=
  (world.afterReading (source settings)).tellAll log (preparationLines settings plan world.shown)

/-- Loads the machine, and runs. -/
def start (fuel : Nat) (settings : Settings) (plan : Plan) (log : LogTarget) (world : World)
    (console : Terminal) (recording : Option Recording) : Result :=
  let loaded := afterLoading settings plan log world
  let console := console.withInput loaded.stdin
  match prepareMachine settings plan world.shown with
  | .error error => decline error (closeRecording recording (giveBack console loaded))
  | .ok machine =>
    let ready := loaded.tellAll log (breakpointsLine? plan).toList
    match beginRun recording (source settings) with
    | .error error => decline error (closeRecording recording (giveBack console ready))
    | .ok recording =>
      conclude settings recording ready
        (runSession fuel ⟨machine, some console, plan.debugger?,
          ⟨recording.map (·.recorder), [], #[]⟩⟩)

/-- Opens what a run needs, and runs. Nothing comes out if there is no room for a batch of
    steps. -/
def execute (fuel : Nat) (settings : Settings) (plan : Plan) (log : LogTarget) (world : World) :
    Option Result :=
  match openConsole world log with
  | (.error error, world) => some (decline error world)
  | (.ok console, world) =>
    match openScript settings.input world log console with
    | (.error error, world) => some (decline error (giveBack (console.withInput world.stdin) world))
    | (.ok console, world) =>
      match openTables settings.trace world log with
      | (.error error, world) =>
        some (decline error (giveBack (console.withInput world.stdin) world))
      | (.ok tables, world) =>
        (recording? settings.trace tables).map (start fuel settings plan log world console)

/-! ## Requests -/

/-- What is written about flags that cannot be read. -/
def FlagError.text : FlagError → String
  | .help => usage ++ usage
  | error => usage ++ complaint error.message ++ usage

/-- The exit code of flags that cannot be read. -/
def FlagError.code : FlagError → Nat
  | .help => 0
  | _ => usageCode

/-- What the arguments amount to. -/
inductive Request where
  /-- An answer that needs nothing to be opened. -/
  | reply (code : Nat) (stdout stderr : String)
  /-- A plan that makes no sense. This is found when the log is open. -/
  | refuse (log : LogSettings) (error : PlanError)
  | start (settings : Settings) (plan : Plan)
deriving DecidableEq, Repr

/-- Reads the arguments, and the configuration file that they name. -/
def request (build : Build) (arguments : List String) (disk : Disk) : Request :=
  match Options.none.read arguments with
  | .error error => .reply error.code "" error.text
  | .ok (options, operands) =>
    if options.features then .reply 0 build.featureText ""
    else
      match settings options operands disk with
      | .error error => .reply usageCode "" error.text
      | .ok settings =>
        match Plan.ofSettings settings.debug with
        | .error error => .refuse settings.log error
        | .ok plan => .start settings plan

/-- The path of the configuration file that arguments name, if it is read. -/
def configurationPath? (arguments : List String) : Option String :=
  match Options.none.read arguments with
  | .ok (options, _) => if options.features ∨ options.config = "" then none else some options.config
  | .error _ => none

/-- What comes out if the log cannot be opened. -/
def declineLog (error : FileError) (world : World) : Result :=
  answer world failureCode ("log file error: " ++ error.message ++ "\n")

/-- Carries out a request. Nothing comes out if there is no room for what is asked. -/
def Request.carryOut (request : Request) (fuel : Nat) (world : World) : Option Result :=
  match request with
  | reply code stdout stderr =>
    let world := { world with stdout := world.stdout ++ Utf8.bytesOf stdout }
    some (answer world code stderr)
  | refuse log error =>
    match world.openLog log with
    | (.error error, world) => some (declineLog error world)
    | (.ok _, world) => some (answer world usageCode (complaint error.message))
  | start settings plan =>
    match world.openLog settings.log with
    | (.error error, world) => some (declineLog error world)
    | (.ok log, world) => execute fuel settings plan log world

/-- The world after the configuration was read. -/
def afterConfiguration (arguments : List String) (world : World) : World :=
  (configurationPath? arguments).elim world world.afterReading

def run (build : Build) (fuel : Nat) (arguments : List String) (world : World) : Option Result :=
  (request build arguments world.shown).carryOut fuel (afterConfiguration arguments world)

/-- The paths that a request may open. -/
def Request.paths : Request → List String
  | reply _ _ _ => []
  | refuse log _ => [log.file].filter (· ≠ "")
  | start settings _ =>
    ([settings.log.file, settings.program, settings.input.script, settings.snapshot.load,
      settings.snapshot.save].filter (· ≠ "")) ++
      (Disk.tablesPath? settings.trace.database).toList

def Request.reads : Request → Bool
  | start _ _ => true
  | _ => false

end WordMachine.CommandLine
