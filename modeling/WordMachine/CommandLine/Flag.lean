import WordMachine.Text.Quoted
import WordMachine.Text.Truth

/-!
# Flags

The flags of the command line, what follows each of them, and how they are explained.
-/

namespace WordMachine.CommandLine

/-- The flags, in the order in which they are explained. -/
inductive Flag where
  | breakAt
  | breakIf
  | config
  | debug
  | features
  | input
  | log
  | noEcho
  | patch
  | set
  | snapshotIn
  | snapshotOut
  | traceDb
  | verbosity
deriving DecidableEq, Repr

/-- What may follow a flag. -/
inductive Argument where
  /-- A truth value, which may only be joined to the flag; true if there is none. -/
  | truth
  | integer
  | text
  /-- A text; the flag may be given several times. -/
  | texts
deriving DecidableEq, Repr

namespace Flag

def all : List Flag := [
  breakAt, breakIf, config, debug, features, input, log, noEcho, patch, set, snapshotIn,
  snapshotOut, traceDb, verbosity]

def name : Flag → String
  | breakAt => "break"
  | breakIf => "break-if"
  | config => "config"
  | debug => "debug"
  | features => "features"
  | input => "input"
  | log => "log"
  | noEcho => "no-echo"
  | patch => "patch"
  | set => "set"
  | snapshotIn => "snapshot-in"
  | snapshotOut => "snapshot-out"
  | traceDb => "trace-db"
  | verbosity => "v"

def argument : Flag → Argument
  | debug | features | noEcho => .truth
  | verbosity => .integer
  | breakAt | set | patch => .texts
  | breakIf | config | input | log | snapshotIn | snapshotOut | traceDb => .text

def help : Flag → String
  | breakAt => "breakpoint address, hex ($/0x) or decimal (repeatable)"
  | breakIf => "condition for all breakpoints, e.g. \"R7!=0\""
  | config => "load configuration from a TOML file"
  | debug => "trace every instruction"
  | features => "list compiled features and exit"
  | input => "replay input lines from file before reading the terminal"
  | log => "log to file instead of stderr"
  | noEcho => "do not echo replayed input lines"
  | patch => "store words after loading, e.g. \"$0209=21,21\" (repeatable)"
  | set => "set a register after loading, e.g. \"R7=25734\" (repeatable)"
  | snapshotIn => "restore machine state instead of loading a program"
  | snapshotOut => "save machine state on stop, breakpoint or fault"
  | traceDb => "record executed instructions to a SQLite database"
  | verbosity => "log verbosity (0 notice, 1 info, 2 debug)"

def named? (name : String) : Option Flag :=
  all.find? fun flag => flag.name = name

end Flag

/-- The word for what follows a flag, with a blank before it. -/
def Argument.placeholder : Argument → String
  | truth => ""
  | integer => " int"
  | text => " string"
  | texts => " value"

def Flag.usage (flag : Flag) : String :=
  "  -" ++ flag.name ++ flag.argument.placeholder ++ "\n    \t" ++ flag.help ++ "\n"

def usage : String :=
  "Usage: ./word_engine [flags] program.bin\n" ++ String.join (Flag.all.map Flag.usage)

/-! ## Values of flags -/

/-- Why a text is no integer. -/
inductive IntegerError where
  | malformed
  | outOfRange
deriving DecidableEq, Repr

def IntegerError.message : IntegerError → String
  | malformed => "parse error"
  | outOfRange => "value out of range"

/-- The base that a numeral is written in, whether a mark says so, and its digits: `0b`,
    `0o` or `0x` before at least one more character, and a plain zero for base eight. -/
def baseOf : List Char → Nat × Bool × List Char
  | '0' :: mark :: c :: rest =>
    let lower := mark.toLower
    if lower = 'b' then (2, true, c :: rest)
    else if lower = 'o' then (8, true, c :: rest)
    else if lower = 'x' then (16, true, c :: rest)
    else (8, false, mark :: c :: rest)
  | '0' :: rest => (8, false, rest)
  | cs => (10, false, cs)

/-- Whether every underscore stands between two digits; `afterDigit` says that a digit, or
    the mark of a base, comes before. -/
def separates (afterDigit : Bool) : List Char → Bool
  | [] => true
  | ['_'] => false
  | '_' :: '_' :: _ => false
  | '_' :: rest => afterDigit && separates false rest
  | _ :: rest => separates true rest

/-- A number without a sign, in the base that it is written in. The first character that is
    no digit or takes the number past 64 bits decides. -/
def unsigned (cs : List Char) : Except IntegerError Nat :=
  if cs.isEmpty then .error .malformed
  else
    let (base, marked, digits) := baseOf cs
    match Numeral.readFrom base 0 (digits.filter (· ≠ '_')) with
    | .malformed => .error .malformed
    | .tooLarge => .error .outOfRange
    | .number n =>
      if separates (marked || base = 8) digits then .ok n.toNat else .error .malformed

/-- An integer of 64 bits with or without a sign. -/
def integer (text : String) : Except IntegerError Int := do
  let (negative, cs) := match text.toList with
    | '+' :: rest => (false, rest)
    | '-' :: rest => (true, rest)
    | cs => (false, cs)
  let n ← unsigned cs
  let value : Int := if negative then -(n : Int) else n
  if -0x8000000000000000 ≤ value ∧ value < 0x8000000000000000 then return value
  else .error .outOfRange

end WordMachine.CommandLine
