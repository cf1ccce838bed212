/-!
# Bits and prefix codes

Compressed data is read bit by bit, the low bit of each byte first. Symbols are
written in a prefix code that is given by the length of each symbol's code: shorter
codes come first, and codes of one length follow the order of the symbols.
-/

namespace WordMachine.Gzip

def bitAt? (data : Array UInt8) (place : Nat) : Option Nat :=
  (data[place / 8]?).map fun b => (b.toNat >>> (place % 8)) % 2

/-- The number in the next bits, the low bit first. -/
def readBits? (data : Array UInt8) : (count place : Nat) → Option Nat
  | 0, _ => some 0
  | count + 1, place => do
    let bit ← bitAt? data place
    let rest ← readBits? data count (place + 1)
    return bit + 2 * rest

/-- The longest code has so many bits. -/
abbrev maxBits : Nat := 15

/-- A prefix code: the number of codes of each length from 1 on, and the symbols in the
    order of their codes. -/
structure PrefixCode where
  counts : List Nat
  symbols : Array Nat
deriving Repr

namespace PrefixCode

def countOf (lengths : Array Nat) (length : Nat) : Nat :=
  lengths.foldl (fun n l => if l = length then n + 1 else n) 0

def symbolsOf (lengths : Array Nat) (length : Nat) : List Nat :=
  (List.range lengths.size).filter fun symbol => lengths[symbol]? = some length

/-- The lengths that codes may have. -/
def codeLengths : List Nat := (List.range maxBits).map (· + 1)

/-- How much of the space of all codes is used, in units of the longest code. -/
def usage (counts : List Nat) : Nat :=
  counts.foldl (fun space n => 2 * space + n) 0

/-- The code with these lengths. Every sequence of bits must begin with a code, except that
    a code may have no symbols, or one symbol with one bit. -/
def ofLengths? (lengths : Array Nat) : Option PrefixCode :=
  let counts := codeLengths.map (countOf lengths)
  let code : PrefixCode := ⟨counts, (codeLengths.flatMap (symbolsOf lengths)).toArray⟩
  let total := counts.foldl (· + ·) 0
  let complete := usage counts = Nat.pow 2 maxBits
  if total = 0 ∨ (total = 1 ∧ counts.head? = some 1) ∨ complete then some code else none

/-- Reads one symbol. `code` holds the bits so far, `first` the first code of the present
    length and `index` the place of its symbol. -/
def walk (data : Array UInt8) (symbols : Array Nat) :
    (counts : List Nat) → (code first index place : Nat) → Option (Nat × Nat)
  | [], _, _, _, _ => none
  | count :: rest, code, first, index, place => do
    let bit ← bitAt? data place
    let code := code + bit
    if code < first + count then
      let symbol ← symbols[index + (code - first)]?
      return (symbol, place + 1)
    else walk data symbols rest (2 * code) (2 * (first + count)) (index + count) (place + 1)

/-- The symbol at a place and the place after it. -/
def read? (code : PrefixCode) (data : Array UInt8) (place : Nat) : Option (Nat × Nat) :=
  walk data code.symbols code.counts 0 0 0 place

end PrefixCode

end WordMachine.Gzip
