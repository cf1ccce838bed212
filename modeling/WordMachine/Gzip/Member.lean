import WordMachine.Gzip.Checksum
import WordMachine.Gzip.Inflate

/-!
# Compressed files

A compressed file is one member or several: a header, compressed data, and the check
and length of what was compressed. The contents of the members are joined. Files are
written as one member of stored blocks.
-/

namespace WordMachine.Gzip

/-- Why a file cannot be read. -/
inductive ReadError where
  /-- The first header is missing or wrong. -/
  | header
  /-- Anything after the first header. -/
  | data
deriving DecidableEq, Repr

/-- The byte after a text that ends in a zero, which must come within 512 bytes. -/
def skipText (data : Array UInt8) : (fuel : Nat) → (offset : Nat) → Option Nat
  | 0, _ => none
  | fuel + 1, offset => do
    let b ← data[offset]?
    if b = 0 then return offset + 1 else skipText data fuel (offset + 1)

/-- The longest text in a header, its zero included. -/
abbrev textLimit : Nat := 512

/-- The byte after a header that starts at `start`. -/
def skipHeader (data : Array UInt8) (start : Nat) : Option Nat := do
  if start + 10 ≤ data.size ∧ data[start]? = some 0x1F ∧ data[start + 1]? = some 0x8B ∧
      data[start + 2]? = some 8 then
    let flags := (data.getD (start + 3) 0).toNat
    let has (bit : Nat) : Bool := flags.testBit bit
    let offset := start + 10
    let offset ← if has 2 then do
        let length ← readPair? data offset
        if offset + 2 + length ≤ data.size then pure (offset + 2 + length) else none
      else pure offset
    let offset ← if has 3 then skipText data textLimit offset else pure offset
    let offset ← if has 4 then skipText data textLimit offset else pure offset
    if has 1 then
      let check ← readPair? data offset
      if check = (checksum (data.extract start offset)).toNat % 0x10000 then pure (offset + 2)
      else none
    else pure offset
  else none

/-- A stored number of four bytes, the low byte first. -/
def readWord? (data : Array UInt8) (offset : Nat) : Option Nat := do
  let low ← readPair? data offset
  let high ← readPair? data (offset + 2)
  return low + 0x10000 * high

/-- The contents of a member after its header, and the byte after the member. -/
def readBody (data : Array UInt8) (start : Nat) : Option (Array UInt8 × Nat) := do
  let (output, offset) ← inflate? data start
  let check ← readWord? data offset
  let length ← readWord? data (offset + 4)
  if check = (checksum output).toNat ∧ length = output.size % 0x100000000 then
    return (output, offset + 8)
  else none

/-- The contents of the members from `start` on, after the first one's header. -/
def readMembers (data : Array UInt8) : (fuel : Nat) → Array UInt8 → (start : Nat) →
    Option (Array UInt8)
  | 0, _, _ => none
  | fuel + 1, joined, start => do
    let (output, after) ← readBody data start
    let joined := joined ++ output
    if after = data.size then return joined
    else
      let start ← skipHeader data after
      readMembers data fuel joined start

def decompress (bytes : List UInt8) : Except ReadError (List UInt8) :=
  let data := bytes.toArray
  match skipHeader data 0 with
  | none => .error .header
  | some start =>
    match readMembers data (data.size + 1) #[] start with
    | none => .error .data
    | some contents => .ok contents.toList

/-- The bytes of a number, the low byte first. -/
def littleEndian : (width n : Nat) → List UInt8
  | 0, _ => []
  | width + 1, n => n.toUInt8 :: littleEndian width (n / 256)

/-- The longest stored block. -/
abbrev blockLimit : Nat := 65535

def storedBlock (last : Bool) (content : List UInt8) : List UInt8 :=
  (if last then 1 else 0) :: littleEndian 2 content.length ++
    littleEndian 2 (0xFFFF - content.length) ++ content

def storedBlocks : (fuel : Nat) → List UInt8 → List UInt8
  | 0, content => storedBlock true content
  | fuel + 1, content =>
    if content.length ≤ blockLimit then storedBlock true content
    else
      storedBlock false (content.take blockLimit) ++ storedBlocks fuel (content.drop blockLimit)

/-- A compressed file with these contents. -/
def compress (content : List UInt8) : List UInt8 :=
  [0x1F, 0x8B, 8, 0, 0, 0, 0, 0, 0, 0xFF] ++
    storedBlocks (content.length / blockLimit) content ++
    littleEndian 4 (checksum content.toArray).toNat ++ littleEndian 4 (content.length % 0x100000000)

end WordMachine.Gzip
