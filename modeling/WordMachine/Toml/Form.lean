import WordMachine.Toml.Scalar

/-!
# TOML as it is written

A file is a list of statements: headers, which name the table that follows, and
assignments. The values of assignments are kept as they are written, because what a
dotted key means depends on the tables before it.
-/

namespace WordMachine.Toml

/-- A value as it is written. -/
inductive Form where
  | scalar (value : Value)
  | array (items : List Form)
  /-- A table in braces. -/
  | table (entries : List (Key × Form))

/-- One statement of a file. -/
inductive Statement where
  /-- A header in single brackets. -/
  | header (key : Key)
  /-- A header in double brackets, which starts one more table of a list. -/
  | repeatedHeader (key : Key)
  | assignment (key : Key) (form : Form)

/-! ## Blanks -/

/-- The characters after the spaces and tabs at their start. -/
def skipSpaces (cs : List Char) : List Char :=
  cs.dropWhile isSpace

/-- The characters after the blanks, line ends and comments at their start. -/
def skipFiller (inComment : Bool) : List Char → List Char
  | [] => []
  | c :: rest =>
    if inComment then skipFiller (c ≠ '\n') rest
    else if isSpace c || isLineEnd c then skipFiller false rest
    else if c = '#' then skipFiller true rest
    else c :: rest

/-- What follows a statement on its line: nothing but blanks and a comment. -/
def endOfStatement (cs : List Char) : Option (List Char) :=
  match skipSpaces cs with
  | [] => some []
  | c :: rest => if isLineEnd c || c = '#' then some (c :: rest) else none

/-! ## Keys -/

def readName : Reader String := fun cs =>
  match cs with
  | [] => none
  | c :: rest =>
    if c = '"' ∨ c = apostrophe then readLine c rest
    else
      let (name, rest) := cs.span isBare
      if name.isEmpty then none else some (String.ofList name, rest)

/-- The names of a key, after those in `names`. Blanks may stand around the dots. -/
def readKeyFrom (names : Array String) : (fuel : Nat) → Reader Key
  | 0, _ => none
  | fuel + 1, cs => do
    let (name, rest) ← readName (skipSpaces cs)
    match skipSpaces rest with
    | '.' :: more => readKeyFrom (names.push name) fuel more
    | rest => return ((names.push name).toList, rest)

/-- A key, and the blanks after it; it has at most as many names as there is fuel. -/
def readKey (fuel : Nat) : Reader Key := readKeyFrom #[] fuel

/-! ## Values -/

/-- The mark before a table in braces. -/
def openBrace : Char := '\x7B'

/-- The mark after a table in braces. -/
def closeBrace : Char := '\x7D'

/-- The items of an array up to its bracket, after those in `items`. A comma may follow
    the last one. -/
def readItems (element : Reader Form) (items : Array Form) : (fuel : Nat) → Reader (List Form)
  | 0, _ => none
  | fuel + 1, cs =>
    match skipFiller false cs with
    | ']' :: rest => some (items.toList, rest)
    | cs => do
      let (item, rest) ← element cs
      match skipFiller false rest with
      | ',' :: rest => readItems element (items.push item) fuel rest
      | ']' :: rest => return ((items.push item).toList, rest)
      | _ => none

def readAssignment (element : Reader Form) (fuel : Nat) : Reader (Key × Form) := fun cs => do
  let (key, rest) ← readKey fuel cs
  let (_, rest) ← expect '=' rest
  let (form, rest) ← element (skipSpaces rest)
  return ((key, form), rest)

/-- The entries of a table up to its brace, after those in `entries`. A comma may follow
    the last one. -/
def readEntries (element : Reader Form) (entries : Array (Key × Form)) :
    (fuel : Nat) → Reader (List (Key × Form))
  | 0, _ => none
  | fuel + 1, cs =>
    match skipFiller false cs with
    | [] => none
    | c :: rest =>
      if c = closeBrace then some (entries.toList, rest)
      else do
        let (entry, rest) ← readAssignment element (fuel + 1) (c :: rest)
        match skipFiller false rest with
        | [] => none
        | d :: rest =>
          if d = ',' then readEntries element (entries.push entry) fuel rest
          else if d = closeBrace then return ((entries.push entry).toList, rest)
          else none

/-- A value. There must be more fuel than characters. -/
def readForm : (fuel : Nat) → Reader Form
  | 0, _ => none
  | _ + 1, [] => none
  | fuel + 1, c :: rest =>
    if c = '"' ∨ c = apostrophe then do
      let (text, rest) ← readText c rest
      return (.scalar (.text text), rest)
    else if c = '[' then do
      let (items, rest) ← readItems (readForm fuel) #[] fuel rest
      return (.array items, rest)
    else if c = openBrace then do
      let (entries, rest) ← readEntries (readForm fuel) #[] fuel rest
      return (.table entries, rest)
    else if c = 't' ∨ c = 'f' then do
      let (value, rest) ← readTruth (c :: rest)
      return (.scalar value, rest)
    else do
      let (value, rest) ← readPlain (c :: rest)
      return (.scalar value, rest)

/-! ## Statements -/

def readHeader (fuel : Nat) : Reader Statement
  | '[' :: rest => do
    let (key, rest) ← readKey fuel rest
    let (_, rest) ← expect ']' rest
    let (_, rest) ← expect ']' rest
    return (.repeatedHeader key, rest)
  | cs => do
    let (key, rest) ← readKey fuel cs
    let (_, rest) ← expect ']' rest
    return (.header key, rest)

/-- One statement. There must be more fuel than characters. -/
def readStatement (fuel : Nat) : Reader Statement
  | '[' :: rest => readHeader fuel rest
  | cs => do
    let ((key, form), rest) ← readAssignment (readForm fuel) fuel cs
    return (.assignment key form, rest)

/-- The statements of a file, after those in `out`. Every statement has a line of its own. -/
def readStatements (out : Array Statement) : (fuel : Nat) → List Char → Option (List Statement)
  | 0, _ => none
  | fuel + 1, cs =>
    match skipFiller false cs with
    | [] => some out.toList
    | cs => do
      let (statement, rest) ← readStatement (fuel + 1) cs
      readStatements (out.push statement) fuel (← endOfStatement rest)

/-- The bytes after a byte order mark. -/
def dropOrderMark : List UInt8 → List UInt8
  | 0xFF :: 0xFE :: rest => rest
  | 0xFE :: 0xFF :: rest => rest
  | 0xEF :: 0xBB :: 0xBF :: rest => rest
  | bytes => bytes

/-- Whether a file may have these characters: of the control characters only tabs and line
    ends, and a carriage return only before a line feed. -/
def areAllowed : List Char → Bool
  | [] => true
  | '\r' :: '\n' :: rest => areAllowed rest
  | c :: rest =>
    (c = '\t' || c = '\n' || (0x20 ≤ c.toNat && c.toNat ≠ 0x7F)) && areAllowed rest

def statements? (bytes : List UInt8) : Option (List Statement) := do
  let cs ← Utf8.decode? (dropOrderMark bytes)
  if areAllowed cs then readStatements #[] (cs.length + 1) cs else none

end WordMachine.Toml
