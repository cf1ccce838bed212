import WordMachine.Text.Percent
import WordMachine.Text.Truth

/-!
# Addresses of tables

Tables are opened by an address. A plain address is a path. An address that starts with
`file:` is percent-encoded, and may say what is allowed with the file. Options follow a
question mark; those about the use of the tables are read in both kinds of address.
-/

namespace WordMachine

open Percent (Field)

/-! ## What can be asked for -/

/-- Where tables can be kept. -/
inductive Storage where
  | file
  | memory
deriving DecidableEq, Repr

def Storage.named? (name : String) : Option Storage :=
  if name ∈ ["unix", "unix-none", "unix-dotfile", "unix-excl"] then some .file
  else if name = "memdb" then some .memory
  else none

/-- The storage that names ask for. They must agree; without a name it is a file. -/
def Storage.chosen? (names : List String) : Option Storage :=
  let agreed := names.foldlM
    (fun chosen name => if chosen = "" ∨ chosen = name then some name else none) ""
  match agreed with
  | none => none
  | some name => if name = "" then some .file else named? name

/-- What is allowed with a file. -/
inductive Access where
  | read
  | write
  /-- The file is also made if it is absent. -/
  | make
  /-- There is no file. -/
  | memory
deriving DecidableEq, Repr

def Access.named? : String → Option Access
  | "ro" => some .read
  | "rw" => some .write
  | "rwc" => some .make
  | "memory" => some .memory
  | _ => none

/-- More is allowed with a file by access of a higher rank. -/
def Access.rank : Access → Nat
  | read => 1
  | write => 2
  | make => 3
  | memory => 4

/-- The access after another one is asked for, which must not allow more. Memory may always
    be asked for. -/
def Access.narrow? (access asked : Access) : Option Access :=
  if asked = .memory ∨ asked.rank ≤ access.rank then some asked else none

abbrev switchLimit : Nat := 0x7FFFFFFF

/-- Whether a switch is on: by a word, or by a number of which the low eight bits count. -/
def isSwitchedOn (text : String) : Bool :=
  match text.toList.takeWhile Char.isDigit with
  | [] => text.toLower ∈ ["on", "yes", "true"]
  | digits =>
    let number := digits.foldl (fun n c => 10 * n + (c.toNat - '0'.toNat)) 0
    number ≤ switchLimit && number % 256 ≠ 0

/-! ## Adjustments -/

/-- A setting of the tables that lasts as long as they are open. -/
structure Adjustment where
  name : String
  value : String
deriving DecidableEq, Repr

namespace Adjustment

def isNameChar (c : Char) : Bool :=
  c.isAlphanum || c = '_' || c = '$' || 0x80 ≤ c.toNat

def isName (cs : List Char) : Bool :=
  match cs with
  | [] => false
  | c :: _ => !c.isDigit && c ≠ '$' && cs.all isNameChar

/-- A number, which may have a sign. -/
def isNumber (cs : List Char) : Bool :=
  let unsigned := match cs with
    | '-' :: rest | '+' :: rest => Text.trim rest
    | cs => cs
  (unsigned.head?.any fun c => c.isDigit || c = '.') &&
    unsigned.all (fun c => c.isAlphanum || c = '.') && unsigned.any Char.isDigit

/-- The value that is spelled: a name, a number or a quoted text. -/
def value? (cs : List Char) : Option String :=
  match Text.trim cs with
  | '\x27' :: rest =>
    match rest.reverse with
    | '\x27' :: inside =>
      if inside.contains '\x27' then none else some (String.ofList inside.reverse)
    | _ => none
  | cs => if isName cs || isNumber cs then some (String.ofList cs) else none

/-- Reads an adjustment: a name, and the value after an equals sign or in brackets if there
    is one. -/
def parse? (text : String) : Option Adjustment :=
  let (name, rest) := (Text.trim text.toList).span isNameChar
  let named (value : Option String) : Option Adjustment :=
    if isName name then value.map (⟨String.ofList name, ·⟩) else none
  match Text.trim rest with
  | [] => named (some "")
  | '=' :: value => named (value? value)
  | '(' :: rest =>
    match rest.reverse with
    | ')' :: value => named (value? value.reverse)
    | _ => none
  | _ => none

/-- Whether nothing can be written any more. -/
def forbidsWriting (adjustment : Adjustment) : Bool :=
  adjustment.name.toLower = "query_only" && isSwitchedOn adjustment.value

end Adjustment

/-! ## Addresses -/

/-- The tables that are asked for. -/
structure Address where
  path : String
  storage : Storage
  access : Access
  /-- The file is taken to be one that never changes. -/
  frozen : Bool
  /-- All options, those about the use of the tables among them. -/
  options : List Field
deriving DecidableEq, Repr

namespace Address

/-- The path of tables that are kept nowhere. -/
def volatilePath : String := ":memory:"

/-- The characters before the first `separator`. -/
def before (separator : Char) (cs : List Char) : List Char :=
  cs.takeWhile (· ≠ separator)

/-- An address before and after the question mark of its options. One at the very start
    belongs to the path. -/
def parts : List Char → List Char × List Char
  | [] => ([], [])
  | c :: rest =>
    if c = '?' then (c :: rest, [])
    else
      match Text.cutAt? '?' rest with
      | some (path, options) => (c :: path, options)
      | none => (c :: rest, [])

def scheme : List Char := "file:".toList

/-- What follows the name of the host, which must be this one. -/
def afterHost? : List Char → Option (List Char)
  | '/' :: '/' :: rest =>
    let (host, path) := rest.span (· ≠ '/')
    if host = [] ∨ host = "localhost".toList then some path else none
  | cs => some cs

/-- The address with what an option asks for. Options that are not about the file are of no
    effect here. -/
def withOption? (address : Address) (field : Field) : Option Address :=
  match field.name with
  | "vfs" => (Storage.named? field.value).map fun storage => { address with storage }
  | "mode" =>
    ((Access.named? field.value).bind address.access.narrow?).map fun access =>
      { address with access }
  | "cache" => if field.value ∈ ["shared", "private"] then some address else none
  | _ => some address

/-- Reads what follows the mark of a percent-encoded address. -/
def ofEncoded? (storage : Storage) (options : List Field) (cs : List Char) : Option Address := do
  let cs := before '#' (← afterHost? (before '\x00' cs))
  let (path, list) := (Text.cutAt? '?' cs).getD (cs, [])
  let fields := Percent.looseFields list
  let frozen := (Field.first? fields "immutable").any isSwitchedOn
  fields.foldlM withOption?
    ⟨Percent.textOf (Percent.loose path), storage, .make, frozen, options⟩

/-- Reads an address, if it makes sense. -/
def parse? (text : String) : Option Address := do
  let (path, list) := parts text.toList
  let options ← Percent.strictFields? list
  let storage ← Storage.chosen? (Field.all options "vfs")
  if scheme.isPrefixOf text.toList then
    ofEncoded? storage options (text.toList.drop scheme.length)
  else return ⟨String.ofList (before '\x00' path), storage, .make, false, options⟩

/-- Whether the tables are in no file. -/
def isVolatile (address : Address) : Bool :=
  address.storage = .memory || address.access = .memory || address.path = "" ||
    address.path = volatilePath

/-- The adjustments that are asked for; none if one of them makes no sense. -/
def adjustments? (address : Address) : Option (List Adjustment) :=
  (Field.all address.options "_pragma").mapM Adjustment.parse?

/-- Whether the first value of an option, if it is there and not empty, is a good one. -/
def optionFits (address : Address) (name : String) (isGood : String → Bool) : Bool :=
  match Field.first? address.options name with
  | none => true
  | some value => value = "" || isGood value

/-- Whether the options about the use of the tables make sense. -/
def optionsFit (address : Address) : Bool :=
  address.adjustments?.isSome &&
  address.optionFits "_time_format" (· = "sqlite") &&
  address.optionFits "_time_integer_format"
    (· ∈ ["unix", "unix_milli", "unix_micro", "unix_nano"]) &&
  address.optionFits "_inttotime" (fun value => (Text.truth? value).isSome) &&
  address.optionFits "_texttotime" (fun value => (Text.truth? value).isSome) &&
  address.optionFits "_txlock" (·.toLower ∈ ["deferred", "immediate", "exclusive"])

/-- Whether the tables may be written. -/
def isWritable (address : Address) : Bool :=
  address.access ≠ .read && (address.isVolatile || !address.frozen) &&
    (address.adjustments?.getD []).all (!·.forbidsWriting)

end Address

end WordMachine
