import WordMachine.Text.Numeral

/-!
# TOML values

What a configuration file means: tables of named values. A table that is written
under repeated headers is a list of tables, which is not the same as an array.
-/

namespace WordMachine.Toml

/-- A number with a fraction or an exponent, or one of the special numbers. -/
inductive Decimal where
  /-- The number that the digits spell, times ten to the power `exponent`. -/
  | finite (negative : Bool) (digits : List Char) (exponent : Int)
  | infinite (negative : Bool)
  | undefined
deriving DecidableEq, Repr

/-- A value. -/
inductive Value where
  | text (content : String)
  | integer (n : Int)
  | decimal (number : Decimal)
  | truth (b : Bool)
  /-- A date, a time of day or both, as it was written. -/
  | moment (written : String)
  | array (items : List Value)
  | table (entries : List (String × Value))
  /-- The tables of a repeated header: those before the last, the latest first, and the
      last. -/
  | tables (earlier : List (List (String × Value))) (last : List (String × Value))
deriving Repr

/-- The names and values of a table. -/
abbrev Table := List (String × Value)

/-- A dotted key: the names on the way to a value. -/
abbrev Key := List String

/-- A character that a name may have without quotes. -/
def isBare (c : Char) : Bool :=
  ('a' ≤ c && c ≤ 'z') || ('A' ≤ c && c ≤ 'Z') || ('0' ≤ c && c ≤ '9') || c = '_' || c = '-'

namespace Key

def quotedChar (c : Char) : List Char :=
  if c = '"' ∨ c = '\\' then ['\\', c]
  else if c = '\x08' then ['\\', 'b']
  else if c = '\t' then ['\\', 't']
  else if c = '\n' then ['\\', 'n']
  else if c = '\x0C' then ['\\', 'f']
  else if c = '\r' then ['\\', 'r']
  else if c.toNat < 0x20 ∨ c = '\x7F' then '\\' :: 'u' :: Numeral.hexDigits 4 c.toNat
  else [c]

/-- A name as it is shown: between quotes if it could not be written without. -/
def nameText (name : String) : String :=
  if name ≠ "" ∧ name.toList.all isBare then name
  else String.ofList ('"' :: name.toList.flatMap quotedChar ++ ['"'])

def text (key : Key) : String :=
  ".".intercalate (key.map nameText)

end Key

namespace Table

def get? (table : Table) (name : String) : Option Value :=
  table.lookup name

def put (table : Table) (name : String) (value : Value) : Table :=
  match table with
  | [] => [(name, value)]
  | entry :: rest => if entry.1 = name then (name, value) :: rest else entry :: put rest name value

/-- The table that a value leads into: itself, or the last of a list of tables. -/
def inside? : Value → Option Table
  | .table entries => some entries
  | .tables _ last => some last
  | _ => none

/-- The table at the end of a key. -/
def at? (table : Table) : Key → Option Table
  | [] => some table
  | name :: rest => do
    let inner ← inside? (← table.get? name)
    at? inner rest

/-- The value at the end of a key. -/
def valueAt? (table : Table) (key : Key) : Option Value := do
  let name ← key.getLast?
  let inner ← table.at? key.dropLast
  inner.get? name

/-- The value with the table it leads into replaced. -/
def withInside (inner : Table) : Value → Value
  | .tables earlier _ => .tables earlier inner
  | _ => .table inner

/-- The table with a value put at the end of a key; all names but the last lead into
    tables. -/
def putAt? (table : Table) : Key → Value → Option Table
  | [], _ => none
  | [name], value => some (table.put name value)
  | name :: rest, value => do
    let found ← table.get? name
    let inner ← putAt? (← inside? found) rest value
    return table.put name (withInside inner found)

/-- Tables inside each other, without anything else in them. -/
def nest : List String → Table
  | [] => []
  | name :: rest => [(name, .table (nest rest))]

/-- The table with the tables along `names` made, as far as they are missing, and how many
    of the names were there. -/
def makeWay? (table : Table) : List String → Option (Table × Nat)
  | [] => some (table, 0)
  | name :: rest =>
    match table.get? name with
    | none => some (table.put name (.table (nest rest)), 0)
    | some value => do
      let (inner, found) ← makeWay? (← inside? value) rest
      return (table.put name (withInside inner value), found + 1)

end Table

end WordMachine.Toml
