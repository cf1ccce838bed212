import WordMachine.CommandLine.Flag
import WordMachine.Settings

/-!
# Options

The flags that were given, with their values, and the arguments after them. What is
given on the command line counts for more than a configuration file.
-/

namespace WordMachine.CommandLine

/-- What was given on the command line. What was not given is absent. -/
structure Options where
  config : String
  features : Bool
  debug : Option Bool
  verbosity : Option Int
  logFile : Option String
  script : Option String
  noEcho : Option Bool
  database : Option String
  load : Option String
  save : Option String
  breakpoints : Option (List String)
  condition : Option String
  set : Option (List String)
  patch : Option (List String)
deriving DecidableEq, Repr

/-- No flag given. -/
def Options.none : Options :=
  ⟨"", false, .none, .none, .none, .none, .none, .none, .none, .none, .none, .none, .none, .none⟩

/-- Why the flags cannot be read. -/
inductive FlagError where
  /-- An explanation was asked for. -/
  | help
  | undefined (name : String)
  | badForm (argument : String)
  | noArgument (flag : Flag)
  | badTruth (flag : Flag) (value : String)
  | badInteger (flag : Flag) (value : String) (error : IntegerError)
deriving DecidableEq, Repr

def FlagError.message : FlagError → String
  | help => "flag: help requested"
  | undefined name => "flag provided but not defined: -" ++ name
  | badForm argument => "bad flag syntax: " ++ argument
  | noArgument flag => "flag needs an argument: -" ++ flag.name
  | badTruth flag value =>
    "invalid boolean value " ++ Quoted.text value ++ " for -" ++ flag.name ++ ": parse error"
  | badInteger flag value error =>
    "invalid value " ++ Quoted.text value ++ " for flag -" ++ flag.name ++ ": " ++ error.message

namespace Options

/-- A list of texts with one more. -/
def append (texts : Option (List String)) (text : String) : Option (List String) :=
  some (texts.getD [] ++ [text])

def withTruth (options : Options) (flag : Flag) (value : Bool) : Options :=
  match flag with
  | .debug => { options with debug := some value }
  | .features => { options with features := value }
  | .noEcho => { options with noEcho := some value }
  | _ => options

/-- The options with a text set, or added where a flag may be given several times. -/
def withText (options : Options) (flag : Flag) (value : String) : Options :=
  match flag with
  | .breakAt => { options with breakpoints := append options.breakpoints value }
  | .breakIf => { options with condition := some value }
  | .config => { options with config := value }
  | .input => { options with script := some value }
  | .log => { options with logFile := some value }
  | .patch => { options with patch := append options.patch value }
  | .set => { options with set := append options.set value }
  | .snapshotIn => { options with load := some value }
  | .snapshotOut => { options with save := some value }
  | .traceDb => { options with database := some value }
  | _ => options

def withValue (options : Options) (flag : Flag) (value : String) : Except FlagError Options :=
  match flag.argument with
  | .truth =>
    match Text.truth? value with
    | some b => .ok (options.withTruth flag b)
    | .none => .error (.badTruth flag value)
  | .integer =>
    match integer value with
    | .ok n => .ok { options with verbosity := some n }
    | .error error => .error (.badInteger flag value error)
  | .text | .texts => .ok (options.withText flag value)

end Options

/-- What an argument is among the flags. -/
inductive Word where
  /-- The first argument that is no flag. -/
  | operand
  /-- The mark that ends the flags. -/
  | endOfFlags
  | malformed
  | flag (name : String) (value : Option String)
deriving DecidableEq, Repr

/-- The characters of a flag after its hyphens. -/
def wordOfBody (body : List Char) : Word :=
  match body with
  | [] => .malformed
  | c :: _ =>
    if c = '-' ∨ c = '=' then .malformed
    else
      match body.span (· ≠ '=') with
      | (name, []) => .flag (String.ofList name) none
      | (name, _ :: value) => .flag (String.ofList name) (some (String.ofList value))

/-- What an argument is. A single hyphen is no flag. -/
def wordOf (argument : String) : Word :=
  match argument.toList with
  | ['-', '-'] => .endOfFlags
  | '-' :: '-' :: body => wordOfBody body
  | '-' :: c :: rest => wordOfBody (c :: rest)
  | _ => .operand

/-- Reads flags up to the first argument that is none, and returns the arguments left. -/
def Options.read (options : Options) : List String → Except FlagError (Options × List String)
  | [] => .ok (options, [])
  | argument :: rest =>
    match wordOf argument with
    | .operand => .ok (options, argument :: rest)
    | .endOfFlags => .ok (options, rest)
    | .malformed => .error (.badForm argument)
    | .flag name value =>
      match Flag.named? name with
      | .none => .error (if name = "help" ∨ name = "h" then .help else .undefined name)
      | some flag =>
        match value with
        | some value =>
          match options.withValue flag value with
          | .ok options => read options rest
          | .error error => .error error
        | .none =>
          if flag.argument = .truth then read (options.withTruth flag true) rest
          else
            match rest with
            | [] => .error (.noArgument flag)
            | value :: rest =>
              match options.withValue flag value with
              | .ok options => read options rest
              | .error error => .error error

/-- The settings with what was given on the command line in place of what they say. -/
def Options.override (options : Options) (settings : Settings) : Settings :=
  { settings with
    log := ⟨options.verbosity.getD settings.log.verbosity, options.logFile.getD settings.log.file,
      options.debug.getD settings.log.debug⟩
    input := ⟨options.script.getD settings.input.script,
      (options.noEcho.map (!·)).getD settings.input.echo⟩
    trace := { settings.trace with database := options.database.getD settings.trace.database }
    snapshot := ⟨options.load.getD settings.snapshot.load, options.save.getD settings.snapshot.save⟩
    debug := ⟨options.breakpoints.getD settings.debug.breakpoints,
      options.condition.getD settings.debug.condition, options.set.getD settings.debug.set,
      options.patch.getD settings.debug.patch⟩ }

end WordMachine.CommandLine
