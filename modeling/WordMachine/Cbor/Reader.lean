import WordMachine.Cbor.Item

/-!
# Reading CBOR

A reader of one well-formed item. Arrays and maps nest at most 32 deep, and a tag
directly inside a tag counts as a level too. Arrays and maps have at most 131072
entries.
-/

namespace WordMachine.Cbor

/-- Takes something off the front of a byte string. -/
abbrev Reader (α : Type) := List UInt8 → Option (α × List UInt8)

abbrev levelLimit : Nat := 32

/-- The most entries of an array or a map. -/
abbrev entryLimit : Nat := 131072

/-- The head of an item: its major type, the low bits of the initial byte, and the
    number they stand for. -/
structure Head where
  major : Nat
  info : Nat
  value : Nat
deriving DecidableEq, Repr

/-- Whether the length of the item is left open. -/
def Head.isOpen (head : Head) : Bool := head.info == 31

/-- A number of so many bytes, the most significant first. -/
def readBigEndian : (width value : Nat) → Reader Nat
  | 0, value, bytes => some (value, bytes)
  | width + 1, value, b :: rest => readBigEndian width (256 * value + b.toNat) rest
  | _ + 1, _, [] => none

/-- Whether a head can have these bits: 28 to 30 mean nothing, an open length makes sense
    for strings, arrays and maps, and small simple values are written without a second
    byte. -/
def Head.isValid (head : Head) : Bool :=
  if head.info < 28 then
    !(head.major == simpleType && head.info == 24 && head.value < 32)
  else
    head.info == 31 && (head.major == bytesType || head.major == textType ||
      head.major == arrayType || head.major == mapType)

/-- The number of bytes that follow an initial byte with these low bits. -/
def argumentWidth (info : Nat) : Nat :=
  if info = 24 then 1
  else if info = 25 then 2
  else if info = 26 then 4
  else if info = 27 then 8
  else 0

def readHead : Reader Head
  | [] => none
  | initial :: rest =>
    let major := initial.toNat / 32
    let info := initial.toNat % 32
    match argumentWidth info with
    | 0 =>
      let head : Head := ⟨major, info, info⟩
      if head.isValid then some (head, rest) else none
    | width => do
      let (value, rest) ← readBigEndian width 0 rest
      let head : Head := ⟨major, info, value⟩
      if head.isValid then some (head, rest) else none

/-- Takes so many bytes. -/
def takeBytes (count : Nat) : Reader (List UInt8) := fun bytes =>
  let (content, rest) := bytes.splitAt count
  if content.length = count then some (content, rest) else none

/-- The chunks of a string of open length. Every chunk is a whole string of the same
    type. -/
def readChunks (major : Nat) : (fuel : Nat) → Array (List UInt8) → Reader (List (List UInt8))
  | 0, _, _ => none
  | _ + 1, _, [] => none
  | fuel + 1, chunks, b :: rest =>
    if b = breakByte then some (chunks.toList, rest)
    else do
      let (head, rest) ← readHead (b :: rest)
      if head.major = major ∧ ¬ head.isOpen then
        let (chunk, rest) ← takeBytes head.value rest
        readChunks major fuel (chunks.push chunk) rest
      else none

/-- The chunks of a string. -/
def readString (head : Head) : Reader (List (List UInt8)) := fun bytes =>
  if head.isOpen then readChunks head.major (bytes.length + 1) #[] bytes
  else do
    let (content, rest) ← takeBytes head.value bytes
    return ([content], rest)

/-- So many items. -/
def readMany (element : Reader Item) : (count : Nat) → Array Item → Reader (List Item)
  | 0, items, bytes => some (items.toList, bytes)
  | count + 1, items, bytes => do
    let (item, rest) ← element bytes
    readMany element count (items.push item) rest

/-- Items up to a break, at most `limit`. -/
def readUntilBreak (element : Reader Item) (limit : Nat) :
    (fuel : Nat) → Array Item → Reader (List Item)
  | 0, _, _ => none
  | _ + 1, _, [] => none
  | fuel + 1, items, b :: rest =>
    if b = breakByte then some (items.toList, rest)
    else do
      let (item, rest) ← element (b :: rest)
      if items.size < limit then readUntilBreak element limit fuel (items.push item) rest else none

/-- The items of an array, or the keys and values of a map in turn. `width` is 1 or 2. -/
def readEntries (element : Reader Item) (width : Nat) (head : Head) : Reader (List Item) :=
  fun bytes =>
    if head.isOpen then
      readUntilBreak element (width * entryLimit + width - 1) (bytes.length + 1) #[] bytes
    else if head.value ≤ entryLimit then readMany element (width * head.value) #[] bytes
    else none

/-- Keys paired with values, after the pairs in `out`. A key without a value is no map. -/
def pairUp (out : Array (Item × Item)) : List Item → Option (List (Item × Item))
  | [] => some out.toList
  | [_] => none
  | key :: value :: rest => pairUp (out.push (key, value)) rest

/-- A simple value or a floating-point number. -/
def readSimple (head : Head) : Item :=
  if head.info = 25 ∨ head.info = 26 ∨ head.info = 27 then .float else .simple head.value

/-- Reads an item that is not a tag, after its head. `element` reads what is nested in it,
    if anything may be. -/
def readPlain (element : Option (Reader Item)) (head : Head) : Reader Item := fun bytes =>
  if head.major = unsignedType then some (.unsigned head.value.toUInt64, bytes)
  else if head.major = negativeType then some (.negative head.value.toUInt64, bytes)
  else if head.major = bytesType then do
    let (chunks, rest) ← readString head bytes
    return (.bytes chunks.flatten, rest)
  else if head.major = textType then do
    let (chunks, rest) ← readString head bytes
    return (.text chunks, rest)
  else if head.major = arrayType then do
    let (items, rest) ← readEntries (← element) 1 head bytes
    return (.array items, rest)
  else if head.major = mapType then do
    let (items, rest) ← readEntries (← element) 2 head bytes
    let pairs ← pairUp #[] items
    return (.map pairs, rest)
  else if head.major = simpleType then some (readSimple head, bytes)
  else none

/-- Reads an item. A tag is followed by its content, which is nested if it is a tag too. -/
def readTagged (element : Option (Reader Item)) : Reader Item := fun bytes => do
  let (head, rest) ← readHead bytes
  if head.major = tagType then
    let (inner, after) ← readHead rest
    if inner.major = tagType then
      let (content, rest) ← (← element) rest
      return (.tag head.value.toUInt64 content, rest)
    else
      let (content, rest) ← readPlain element inner after
      return (.tag head.value.toUInt64 content, rest)
  else readPlain element head rest

/-- Reads an item in which so many levels may nest. -/
def readItem : (levels : Nat) → Reader Item
  | 0 => readTagged none
  | levels + 1 => readTagged (some (readItem levels))

def parse? (bytes : List UInt8) : Option Item :=
  match readItem levelLimit bytes with
  | some (item, []) => some item
  | _ => none

namespace Item

/-- The item inside tags that carry no meaning here. Tag 55799 marks any item; dates (0, 1)
    and big numbers (2, 3) must hold what they ought to. A big number stays as it is. -/
def bare : Item → Option Item
  | tag number content =>
    if number = 0 then
      match content with
      | .text chunks => some (.text chunks)
      | _ => none
    else if number = 1 then
      match content with
      | .unsigned n => some (.unsigned n)
      | .negative n => some (.negative n)
      | .float => some .float
      | _ => none
    else if number = 2 ∨ number = 3 then
      match content with
      | .bytes b => some (.tag number (.bytes b))
      | _ => none
    else bare content
  | item => some item

/-- Null or undefined. -/
def isNull : Item → Bool
  | simple number => number == 22 || number == 23
  | _ => false

/-- The number that bytes spell, the most significant first. -/
def bigNumber (bytes : List UInt8) : Nat :=
  bytes.foldl (fun value b => 256 * value + b.toNat) 0

/-- The number of a bare item. Simple values other than truth values and null count as
    their numbers. -/
def integer? : Item → Option Int
  | unsigned n => some n.toNat
  | negative n => if n.toNat < 0x8000000000000000 then some (-1 - n.toNat) else none
  | simple number => if 20 ≤ number ∧ number ≤ 23 then none else some number
  | tag number (bytes b) =>
    let n := bigNumber b
    if number = 2 then if n < 0x10000000000000000 then some n else none
    else if number = 3 then if n < 0x8000000000000000 then some (-1 - n) else none
    else none
  | _ => none

end Item

end WordMachine.Cbor
