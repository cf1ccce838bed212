import WordMachine.Path
import WordMachine.Text.UpperCase
import WordMachine.Toml.Document
import WordMachine.Trace.Recorder

/-!
# Settings

What a run is told to do, from a configuration file or without one. Names in a file may
be written in either case. A value of the wrong type makes the whole file unusable, and
so does a name that means nothing.
-/

namespace WordMachine

/-- Settings of the log. -/
structure LogSettings where
  verbosity : Int
  file : String
  debug : Bool
deriving DecidableEq, Repr

/-- Settings of the input script. -/
structure InputSettings where
  script : String
  echo : Bool
deriving DecidableEq, Repr

/-- Settings of the recorder. -/
structure TraceSettings where
  database : String
  batch : Int
deriving DecidableEq, Repr

/-- Snapshots to start from and to leave behind. -/
structure SnapshotSettings where
  load : String
  save : String
deriving DecidableEq, Repr

/-- Breakpoints, and changes made before the run, all as they are written. -/
structure DebugSettings where
  breakpoints : List String
  condition : String
  set : List String
  patch : List String
deriving DecidableEq, Repr

/-- All settings of a run. Empty texts mean that nothing is asked for. -/
structure Settings where
  directory : String
  program : String
  log : LogSettings
  input : InputSettings
  trace : TraceSettings
  snapshot : SnapshotSettings
  debug : DebugSettings
deriving DecidableEq, Repr

/-- The settings without a configuration file. -/
def Settings.standard : Settings where
  directory := ""
  program := ""
  log := ⟨0, "", false⟩
  input := ⟨"", true⟩
  trace := ⟨"", Recorder.defaultBatch⟩
  snapshot := ⟨"", ""⟩
  debug := ⟨[], "", [], []⟩

namespace Settings

open Toml (Value Key)

/-! ## Names -/

/-- Whether a name, in either case, is that of a setting. -/
def isNamed (setting name : String) : Bool :=
  Text.sameLetters setting.toList name.toList

/-- The groups of settings, and the names in each. A setting that stands alone has none. -/
def groups : List (String × List String) := [
  ("program", []),
  ("log", ["verbosity", "file", "debug"]),
  ("input", ["script", "echo"]),
  ("trace", ["database", "batch"]),
  ("snapshot", ["load", "save"]),
  ("debug", ["breakpoints", "condition", "set", "patch"])]

/-- Whether a key is that of a setting or a group. -/
def isKnown : Key → Bool
  | [name] => groups.any fun group => isNamed group.1 name
  | [name, inner] =>
    groups.any fun group => isNamed group.1 name && group.2.any fun setting => isNamed setting inner
  | _ => false

/-! ## Values -/

def text? : Value → Option String
  | .text content => some content
  | _ => none

def integer? : Value → Option Int
  | .integer n => some n
  | _ => none

def truth? : Value → Option Bool
  | .truth b => some b
  | _ => none

def texts? : Value → Option (List String)
  | .array items => items.mapM text?
  | _ => none

/-- Reads the entries of a group one after the other. -/
def readGroup {σ : Type} (read : σ → String → Value → Option σ) (group : σ) : Value → Option σ
  | .table entries => entries.foldlM (fun group (name, value) => read group name value) group
  | _ => none

def readLog (log : LogSettings) (name : String) (value : Value) : Option LogSettings :=
  if isNamed "verbosity" name then (integer? value).map fun n => { log with verbosity := n }
  else if isNamed "file" name then (text? value).map fun t => { log with file := t }
  else if isNamed "debug" name then (truth? value).map fun b => { log with debug := b }
  else some log

def readInput (input : InputSettings) (name : String) (value : Value) : Option InputSettings :=
  if isNamed "script" name then (text? value).map fun t => { input with script := t }
  else if isNamed "echo" name then (truth? value).map fun b => { input with echo := b }
  else some input

def readTrace (trace : TraceSettings) (name : String) (value : Value) : Option TraceSettings :=
  if isNamed "database" name then (text? value).map fun t => { trace with database := t }
  else if isNamed "batch" name then (integer? value).map fun n => { trace with batch := n }
  else some trace

def readSnapshot (snapshot : SnapshotSettings) (name : String) (value : Value) :
    Option SnapshotSettings :=
  if isNamed "load" name then (text? value).map fun t => { snapshot with load := t }
  else if isNamed "save" name then (text? value).map fun t => { snapshot with save := t }
  else some snapshot

def readDebug (debug : DebugSettings) (name : String) (value : Value) : Option DebugSettings :=
  if isNamed "breakpoints" name then (texts? value).map fun ts => { debug with breakpoints := ts }
  else if isNamed "condition" name then (text? value).map fun t => { debug with condition := t }
  else if isNamed "set" name then (texts? value).map fun ts => { debug with set := ts }
  else if isNamed "patch" name then (texts? value).map fun ts => { debug with patch := ts }
  else some debug

def readEntry (settings : Settings) (name : String) (value : Value) : Option Settings :=
  if isNamed "program" name then (text? value).map fun t => { settings with program := t }
  else if isNamed "log" name then
    (readGroup readLog settings.log value).map fun group => { settings with log := group }
  else if isNamed "input" name then
    (readGroup readInput settings.input value).map fun group => { settings with input := group }
  else if isNamed "trace" name then
    (readGroup readTrace settings.trace value).map fun group => { settings with trace := group }
  else if isNamed "snapshot" name then
    (readGroup readSnapshot settings.snapshot value).map fun group =>
      { settings with snapshot := group }
  else if isNamed "debug" name then
    (readGroup readDebug settings.debug value).map fun group => { settings with debug := group }
  else some settings

/-! ## Files -/

/-- Why a configuration file is of no use. -/
inductive FileFault where
  /-- It is not written as it should be, or a value has the wrong type. -/
  | malformed
  /-- It has a key that means nothing. -/
  | unknownKey (key : Key)
deriving DecidableEq, Repr

/-- The settings of a configuration file, as they are written. -/
def ofDocument (document : Toml.Document) : Except FileFault Settings :=
  match readGroup readEntry standard (.table document.root) with
  | none => .error .malformed
  | some settings =>
    match document.keys.find? fun key => !(isKnown key && (document.root.valueAt? key).isSome) with
    | some key => .error (.unknownKey key)
    | none => .ok settings

/-- A path in a configuration file, seen from the file's directory. -/
def resolvePath (directory path : String) : String :=
  if path = "" ∨ Path.isAbsolute path ∨ directory = "" then path else Path.join directory path

/-- The settings with all paths seen from a directory, and a batch size that can be used. -/
def locate (settings : Settings) (directory : String) : Settings :=
  let resolve := resolvePath directory
  { settings with
    directory
    program := resolve settings.program
    log := { settings.log with file := resolve settings.log.file }
    input := { settings.input with script := resolve settings.input.script }
    trace := ⟨resolve settings.trace.database, Recorder.batchSize settings.trace.batch⟩
    snapshot := ⟨resolve settings.snapshot.load, resolve settings.snapshot.save⟩ }

/-- The settings of a configuration file's bytes, given the file's directory. -/
def ofBytes (directory : String) (bytes : List UInt8) : Except FileFault Settings := do
  match Toml.parse? bytes with
  | none => .error .malformed
  | some document => return (← ofDocument document).locate directory

end Settings

end WordMachine
