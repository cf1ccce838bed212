/-!
# CBOR items

The data model of concise binary objects, as far as a reader has to tell items
apart, and the heads that items are written with.
-/

namespace WordMachine.Cbor

/-- A data item. -/
inductive Item where
  /-- A number from zero on. -/
  | unsigned (n : UInt64)
  /-- The number -1 - n. -/
  | negative (n : UInt64)
  /-- A byte string, its chunks joined. -/
  | bytes (content : List UInt8)
  /-- A text string in its chunks, one if it was written whole. -/
  | text (chunks : List (List UInt8))
  | array (items : List Item)
  /-- Keys and values in the order in which they were written. -/
  | map (pairs : List (Item × Item))
  | tag (number : UInt64) (content : Item)
  /-- A simple value; 20 to 23 are false, true, null and undefined. -/
  | simple (number : Nat)
  /-- A floating-point number, whatever its value. -/
  | float
deriving Repr

/-- The eight major types are numbered 0 to 7. -/
abbrev unsignedType : Nat := 0

/-- Numbers below zero. -/
abbrev negativeType : Nat := 1

abbrev bytesType : Nat := 2

abbrev textType : Nat := 3

abbrev arrayType : Nat := 4

abbrev mapType : Nat := 5

abbrev tagType : Nat := 6

abbrev simpleType : Nat := 7

/-- The byte that ends an item of indefinite length. -/
abbrev breakByte : UInt8 := 0xFF

def initialByte (major info : Nat) : UInt8 := (32 * major + info).toUInt8

/-- The bytes of a number, the most significant first. -/
def bigEndian : (width n : Nat) → List UInt8
  | 0, _ => []
  | width + 1, n => bigEndian width (n / 256) ++ [n.toUInt8]

/-- The shortest head with a number. -/
def head (major n : Nat) : List UInt8 :=
  if n < 24 then [initialByte major n]
  else if n < 0x100 then initialByte major 24 :: bigEndian 1 n
  else if n < 0x10000 then initialByte major 25 :: bigEndian 2 n
  else if n < 0x100000000 then initialByte major 26 :: bigEndian 4 n
  else initialByte major 27 :: bigEndian 8 n

def writeInt (n : Int) : List UInt8 :=
  if 0 ≤ n then head unsignedType n.toNat else head negativeType (-1 - n).toNat

def writeBytes (content : List UInt8) : List UInt8 :=
  head bytesType content.length ++ content

/-- A text string given by its bytes. -/
def writeText (content : List UInt8) : List UInt8 :=
  head textType content.length ++ content

def writeWords (words : List UInt16) : List UInt8 :=
  head arrayType words.length ++ words.flatMap fun (w : UInt16) => head unsignedType w.toNat

/-- The null item. -/
def writeNull : List UInt8 := [initialByte simpleType 22]

end WordMachine.Cbor
