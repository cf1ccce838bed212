/-!
# Cyclic redundancy checks

The 32-bit check of a byte string that compressed files carry.
-/

namespace WordMachine.Gzip

/-- Eight steps of the division by the check polynomial. -/
def reduce : (steps : Nat) → UInt32 → UInt32
  | 0, c => c
  | steps + 1, c => reduce steps (if c &&& 1 = 1 then (c >>> 1) ^^^ 0xEDB88320 else c >>> 1)

/-- The remainders of all single bytes. -/
def remainders : Array UInt32 :=
  (Array.range 256).map fun n => reduce 8 n.toUInt32

/-- The running check after one more byte. -/
def addByte (check : UInt32) (b : UInt8) : UInt32 :=
  remainders.getD ((check ^^^ b.toUInt32) &&& 0xFF).toNat 0 ^^^ (check >>> 8)

/-- The check of an array of bytes. -/
def checksum (bytes : Array UInt8) : UInt32 :=
  bytes.foldl addByte 0xFFFFFFFF ^^^ 0xFFFFFFFF

end WordMachine.Gzip
