import WordMachine.Gzip.Huffman

/-!
# Inflating

Compressed data is a sequence of blocks: stored bytes, or literals and references to
earlier output in a prefix code that is either fixed or described in the block.
-/

namespace WordMachine.Gzip

/-- Output so far and the place of the next bit. -/
structure Inflation where
  output : Array UInt8
  place : Nat
deriving Repr

/-- The place of the next whole byte, as a byte. -/
def nextByte (place : Nat) : Nat := (place + 7) / 8

/-- A stored number of two bytes, the low byte first. -/
def readPair? (data : Array UInt8) (offset : Nat) : Option Nat := do
  let low ← data[offset]?
  let high ← data[offset + 1]?
  return low.toNat + 256 * high.toNat

/-- A block of stored bytes, with its length and the complement of it in front. -/
def inflateStored (data : Array UInt8) (state : Inflation) : Option Inflation := do
  let start := nextByte state.place
  let length ← readPair? data start
  let complement ← readPair? data (start + 2)
  if length + complement = 0xFFFF ∧ start + 4 + length ≤ data.size then
    return ⟨state.output ++ data.extract (start + 4) (start + 4 + length), 8 * (start + 4 + length)⟩
  else none

/-- The least length of each length symbol from 257 on. -/
def lengthBases : Array Nat :=
  #[3, 4, 5, 6, 7, 8, 9, 10, 11, 13, 15, 17, 19, 23, 27, 31, 35, 43, 51, 59, 67, 83, 99, 115, 131,
    163, 195, 227, 258]

/-- How many bits are added to the least length. -/
def lengthBits : Array Nat :=
  #[0, 0, 0, 0, 0, 0, 0, 0, 1, 1, 1, 1, 2, 2, 2, 2, 3, 3, 3, 3, 4, 4, 4, 4, 5, 5, 5, 5, 0]

/-- The least distance of each distance symbol. -/
def distanceBases : Array Nat :=
  #[1, 2, 3, 4, 5, 7, 9, 13, 17, 25, 33, 49, 65, 97, 129, 193, 257, 385, 513, 769, 1025, 1537, 2049,
    3073, 4097, 6145, 8193, 12289, 16385, 24577]

/-- How many bits are added to the least distance. -/
def distanceBits : Array Nat :=
  #[0, 0, 0, 0, 1, 1, 2, 2, 3, 3, 4, 4, 5, 5, 6, 6, 7, 7, 8, 8, 9, 9, 10, 10, 11, 11, 12, 12,
    13, 13]

/-- Repeats earlier output byte by byte, so that a copy may run into itself. -/
def copyBack (distance : Nat) : (length : Nat) → Array UInt8 → Array UInt8
  | 0, output => output
  | length + 1, output =>
    copyBack distance length (output.push (output.getD (output.size - distance) 0))

/-- A reference to earlier output, after its length symbol. -/
def inflateReference (data : Array UInt8) (distances : PrefixCode) (symbol : Nat)
    (state : Inflation) : Option Inflation := do
  let base ← lengthBases[symbol - 257]?
  let bits ← lengthBits[symbol - 257]?
  let extra ← readBits? data bits state.place
  let (far, place) ← distances.read? data (state.place + bits)
  let farBase ← distanceBases[far]?
  let farBits ← distanceBits[far]?
  let farExtra ← readBits? data farBits place
  let distance := farBase + farExtra
  if distance ≤ state.output.size then
    return ⟨copyBack distance (base + extra) state.output, place + farBits⟩
  else none

/-- Symbols up to the end of the block. -/
def inflateSymbols (data : Array UInt8) (literals distances : PrefixCode) :
    (fuel : Nat) → Inflation → Option Inflation
  | 0, _ => none
  | fuel + 1, state => do
    let (symbol, place) ← literals.read? data state.place
    if symbol < 256 then
      inflateSymbols data literals distances fuel ⟨state.output.push symbol.toUInt8, place⟩
    else if symbol = 256 then return ⟨state.output, place⟩
    else
      let state ← inflateReference data distances symbol ⟨state.output, place⟩
      inflateSymbols data literals distances fuel state

/-- The code lengths of the fixed code for literals and lengths. -/
def fixedLiteralLengths : Array Nat :=
  Array.replicate 144 8 ++ Array.replicate 112 9 ++ Array.replicate 24 7 ++ Array.replicate 8 8

/-- The order in which the lengths of the code for code lengths are given. -/
def lengthOrder : List Nat :=
  [16, 17, 18, 0, 8, 7, 9, 6, 10, 5, 11, 4, 12, 3, 13, 2, 14, 1, 15]

/-- The lengths of the code for code lengths, three bits each. -/
def readLengthLengths (data : Array UInt8) : (order : List Nat) → (count place : Nat) →
    Array Nat → Option (Array Nat)
  | symbol :: rest, count + 1, place, lengths => do
    let length ← readBits? data 3 place
    readLengthLengths data rest count (place + 3) (lengths.setIfInBounds symbol length)
  | _, _, _, lengths => some lengths

/-- Code lengths until there are `total`. Symbol 16 repeats the length before, 17 and 18
    give zeros. -/
def readCodeLengths (data : Array UInt8) (code : PrefixCode) (total : Nat) :
    (fuel : Nat) → Array Nat → (place : Nat) → Option (Array Nat × Nat)
  | 0, _, _ => none
  | fuel + 1, lengths, place =>
    if total ≤ lengths.size then some (lengths, place)
    else do
      let (symbol, place) ← code.read? data place
      if symbol < 16 then readCodeLengths data code total fuel (lengths.push symbol) place
      else
        let (least, bits, value) ←
          if symbol = 16 then do let last ← lengths.back?; pure (3, 2, last)
          else if symbol = 17 then pure (3, 3, 0)
          else pure (11, 7, 0)
        let extra ← readBits? data bits place
        let repeats := least + extra
        if lengths.size + repeats ≤ total then
          readCodeLengths data code total fuel (lengths ++ Array.replicate repeats value)
            (place + bits)
        else none

/-- Upper bound on the symbols that fit into the data. -/
def symbolFuel (data : Array UInt8) : Nat := 8 * data.size + 1

/-- A block in a code of its own. -/
def inflateDynamic (data : Array UInt8) (state : Inflation) : Option Inflation := do
  let literalCount := (← readBits? data 5 state.place) + 257
  let distanceCount := (← readBits? data 5 (state.place + 5)) + 1
  let lengthCount := (← readBits? data 4 (state.place + 10)) + 4
  if literalCount ≤ 286 ∧ distanceCount ≤ 30 then
    let place := state.place + 14
    let lengthLengths ← readLengthLengths data lengthOrder lengthCount place (Array.replicate 19 0)
    let lengthCode ← PrefixCode.ofLengths? lengthLengths
    let (lengths, place) ← readCodeLengths data lengthCode (literalCount + distanceCount)
      (symbolFuel data) #[] (place + 3 * lengthCount)
    let literals ← PrefixCode.ofLengths? (lengths.extract 0 literalCount)
    let distances ← PrefixCode.ofLengths? (lengths.extract literalCount lengths.size)
    inflateSymbols data literals distances (symbolFuel data) ⟨state.output, place⟩
  else none

/-- A block in the fixed code. -/
def inflateFixed (data : Array UInt8) (state : Inflation) : Option Inflation := do
  let literals ← PrefixCode.ofLengths? fixedLiteralLengths
  let distances ← PrefixCode.ofLengths? (Array.replicate 32 5)
  inflateSymbols data literals distances (symbolFuel data) state

/-- A block, after the bits that say which kind it is. -/
def inflateBlock (data : Array UInt8) (kind : Nat) (state : Inflation) : Option Inflation :=
  match kind with
  | 0 => inflateStored data state
  | 1 => inflateFixed data state
  | 2 => inflateDynamic data state
  | _ => none

/-- Blocks up to the one that is marked as the last. -/
def inflateBlocks (data : Array UInt8) : (fuel : Nat) → Inflation → Option Inflation
  | 0, _ => none
  | fuel + 1, ⟨output, place⟩ => do
    let last ← bitAt? data place
    let kind ← readBits? data 2 (place + 1)
    let state ← inflateBlock data kind ⟨output, place + 3⟩
    if last = 1 then return state else inflateBlocks data fuel state

/-- Inflates the data from a byte on. Returns the output and the byte after the data. -/
def inflate? (data : Array UInt8) (start : Nat) : Option (Array UInt8 × Nat) := do
  let state ← inflateBlocks data (symbolFuel data) ⟨#[], 8 * start⟩
  return (state.output, nextByte state.place)

end WordMachine.Gzip
