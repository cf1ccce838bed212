import Std.Data.HashSet
import WordMachine.Toml.Form

/-!
# TOML documents

Statements are carried out one after the other on a draft, which knows which tables
were only passed on the way to others. Such a table may be opened once more; nothing
else may be set twice.
-/

namespace WordMachine.Toml

/-- A document in the making. -/
structure Draft where
  root : Table
  /-- Keys of tables that no statement has opened for good. -/
  passed : Std.HashSet Key
  /-- Keys whose value was last seen to be an array. -/
  arrays : Std.HashSet Key
  /-- The keys of all statements and entries, in order. -/
  keys : Array Key

namespace Draft

def empty : Draft := ⟨[], ∅, ∅, #[]⟩

/-- Notes that a table is only passed on the way to others. -/
def pass (draft : Draft) (key : Key) : Draft :=
  { draft with passed := draft.passed.insert key }

/-- Notes that a table is open for good. -/
def settle (draft : Draft) (key : Key) : Draft :=
  { draft with passed := draft.passed.erase key }

def meet (draft : Draft) (key : Key) : Draft :=
  { draft with keys := draft.keys.push key }

/-- The key under which it is noted whether a value is an array. An empty name stands for
    the table that it is in. -/
def noteKey (context : Key) (name : String) : Key :=
  if name ≠ "" then context ++ [name] else if context.isEmpty then [""] else context

def note (draft : Draft) (key : Key) (isArray : Bool) : Draft :=
  { draft with
    arrays := if isArray then draft.arrays.insert key else draft.arrays.erase key }

/-- Sets a value in the table at `context`. A value that is there already stands, and must
    be a table only passed so far; an array in the making is replaced. -/
def set (draft : Draft) (context : Key) (name : String) (value : Value) : Option Draft := do
  let table ← draft.root.at? context
  let key := context ++ [name]
  match table.get? name with
  | none => return { draft with root := ← draft.root.putAt? key value }
  | some _ =>
    if draft.passed.contains key then
      if draft.arrays.contains key then
        return { draft.settle key with root := ← draft.root.putAt? key value }
      else return draft.settle key
    else none

/-- Makes the tables on the way along a key, as far as they are missing, and passes them. -/
def makeWay (draft : Draft) (key : Key) : Option Draft := do
  let (root, found) ← draft.root.makeWay? key
  let made := (List.range (key.length - found)).map fun i => key.take (found + i + 1)
  return made.foldl pass { draft with root }

def openTable (draft : Draft) (key : Key) : Option Draft := do
  let draft ← draft.makeWay key.dropLast
  draft.set key.dropLast (← key.getLast?) (.table [])

/-- Starts one more table of a list of tables. -/
def openNext (draft : Draft) (key : Key) : Option Draft := do
  let draft ← draft.makeWay key.dropLast
  let table ← draft.root.at? key.dropLast
  match table.get? (← key.getLast?) with
  | none => return { draft with root := ← draft.root.putAt? key (.tables [] []) }
  | some (.tables earlier last) =>
    return { draft with root := ← draft.root.putAt? key (.tables (last :: earlier) []) }
  | some _ => none

/-- Passes the tables of a dotted key from the table at `context` on, and returns the key
    of the last. -/
def passThrough (draft : Draft) (context : Key) : List String → Option (Key × Draft)
  | [] => some (context, draft)
  | name :: rest => do
    let key := context ++ [name]
    let draft ← (draft.pass key).openTable key
    passThrough draft key rest

def isArray : Value → Bool
  | .array _ => true
  | _ => false

/-- The table in braces with one more value; the names before the last lead into tables of
    its own. -/
def putOwn? (table : Table) : List String → String → Value → Option Table
  | [], name, value => some (table.put name value)
  | first :: rest, name, value =>
    match table.get? first with
    | none => do return table.put first (.table (← putOwn? [] rest name value))
    | some (.table inner) => do return table.put first (.table (← putOwn? inner rest name value))
    | some _ => none

mutual

/-- The value of a form that is assigned to `name` in the table at `context`, or is an item
    of the array assigned to it. -/
def evaluate (draft : Draft) (context : Key) (name : String) (inArray : Bool) :
    Form → Option (Value × Draft)
  | .scalar value => some (value, draft)
  | .array items => do
    let (values, draft) ← evaluateItems (draft.note (noteKey context name) true) context name items
    return (.array values, draft)
  | .table entries => do
    let key := context ++ [name]
    let draft := draft.pass key
    let draft ← if inArray then draft.openNext key else draft.openTable key
    let (table, draft) ← evaluateEntries draft key [] entries
    return (.table table, draft)

def evaluateItems (draft : Draft) (context : Key) (name : String) :
    List Form → Option (List Value × Draft)
  | [] => some ([], draft)
  | item :: rest => do
    let (value, draft) ← evaluate draft context name true item
    let (values, draft) ← evaluateItems draft context name rest
    return (value :: values, draft)

/-- The table that entries make up, after those in `table`. -/
def evaluateEntries (draft : Draft) (context : Key) (table : Table) :
    List (Key × Form) → Option (Table × Draft)
  | [] => some (table, draft)
  | (key, form) :: rest => do
    let name ← key.getLast?
    let (inner, draft) ← draft.passThrough context key.dropLast
    let (value, draft) ← evaluate (draft.meet (inner ++ [name])) inner name false form
    let draft ← draft.set inner name value
    let table ← putOwn? table key.dropLast name value
    evaluateEntries (draft.note (noteKey inner name) (isArray value)) context table rest

end

/-- Carries out an assignment in the table at `context`. -/
def assign (draft : Draft) (context : Key) (key : Key) (form : Form) : Option Draft := do
  let name ← key.getLast?
  let (inner, draft) ← draft.passThrough context key.dropLast
  let (value, draft) ← evaluate (draft.meet (inner ++ [name])) inner name false form
  let draft ← draft.set inner name value
  return draft.note (noteKey inner name) (isArray value)

/-- Carries out one statement, and returns the key of the table that assignments go to. -/
def perform (draft : Draft) (context : Key) : Statement → Option (Key × Draft)
  | .header key => do return (key, ((← draft.openTable key).note key false).meet key)
  | .repeatedHeader key => do return (key, ((← draft.openNext key).note key false).meet key)
  | .assignment key form => do return (context, ← draft.assign context key form)

/-- Carries out statements in order. -/
def performAll (draft : Draft) (context : Key) : List Statement → Option Draft
  | [] => some draft
  | statement :: rest => do
    let (context, draft) ← draft.perform context statement
    performAll draft context rest

end Draft

/-- What a file says: its tables, and all keys in the order in which they are written. -/
structure Document where
  root : Table
  keys : List Key

def parse? (bytes : List UInt8) : Option Document := do
  let draft ← Draft.empty.performAll [] (← statements? bytes)
  return ⟨draft.root, draft.keys.toList⟩

end WordMachine.Toml
