import WordMachine.Text.Numeral
import WordMachine.Text.Split

/-!
# Percent-encoded texts

A byte may be spelled as a percent sign and two hexadecimal digits. A strict reader
refuses a percent sign that spells nothing, a loose one takes it as it stands. Both are
used for lists of named values.
-/

namespace WordMachine.Percent

def byte? (high low : Char) : Option UInt8 :=
  match Numeral.digit? high, Numeral.digit? low with
  | some h, some l => if h < 16 ∧ l < 16 then some (UInt8.ofNat (16 * h + l)) else none
  | _, _ => none

/-- The bytes of a text in which every percent sign spells a byte. A plus sign is a space. -/
def strict? : List Char → Option (List UInt8)
  | [] => some []
  | '%' :: high :: low :: rest =>
    match byte? high low with
    | some byte => (strict? rest).map (byte :: ·)
    | none => none
  | c :: rest =>
    if c = '%' then none
    else (strict? rest).map (Utf8.encode (if c = '+' then ' ' else c) ++ ·)

/-- The bytes of a text, up to the first byte zero that is spelled. -/
def loose : List Char → List UInt8
  | [] => []
  | '%' :: high :: low :: rest =>
    match byte? high low with
    | some byte => if byte = 0 then [] else byte :: loose rest
    | none => Utf8.encode '%' ++ loose (high :: low :: rest)
  | c :: rest => Utf8.encode c ++ loose rest

/-- The text of bytes. -/
def textOf (bytes : List UInt8) : String :=
  String.ofList (Utf8.decode bytes)

/-- A value, and the name by which it is asked for. -/
structure Field where
  name : String
  value : String
deriving DecidableEq, Repr

/-- The name and the value of a piece, before and after the first equals sign. -/
def sides (piece : List Char) : List Char × List Char :=
  (Text.cutAt? '=' piece).getD (piece, [])

/-- The field that a piece spells strictly. A semicolon must be spelled as a byte. -/
def strictField? (piece : List Char) : Option Field :=
  if piece.contains ';' then none
  else
    match strict? (sides piece).1, strict? (sides piece).2 with
    | some name, some value => some ⟨textOf name, textOf value⟩
    | _, _ => none

/-- The most pieces that a strict list may have. -/
abbrev pieceLimit : Nat := 10000

def strictFields? (cs : List Char) : Option (List Field) :=
  let pieces := Text.splitAt '&' cs
  if pieceLimit < pieces.length then none
  else (pieces.filter (· ≠ [])).mapM strictField?

/-- The fields of a loose list. Those without a name are left out. -/
def looseFields (cs : List Char) : List Field :=
  ((Text.splitAt '&' cs).map fun piece =>
    ⟨textOf (loose (sides piece).1), textOf (loose (sides piece).2)⟩).filter fun field =>
      field.name ≠ ""

/-- The first value with a name. -/
def Field.first? (fields : List Field) (name : String) : Option String :=
  (fields.find? fun field => field.name = name).map (·.value)

def Field.all (fields : List Field) (name : String) : List String :=
  (fields.filter fun field => field.name = name).map (·.value)

end WordMachine.Percent
