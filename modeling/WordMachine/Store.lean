import WordMachine.Cause

/-!
# Memory

32768 words, all zero at first, and the extent: one past the highest address that
was loaded or written. Clearing touches only the words below the extent.
-/

namespace WordMachine

/-- A word for every address, and the extent of those in use. -/
structure Store where
  cells : Vector UInt16 addressSpace
  extent : Nat
deriving DecidableEq

namespace Store

/-- A memory that nothing was ever written to. -/
def empty : Store := ⟨Vector.replicate addressSpace 0, 0⟩

instance : Inhabited Store := ⟨empty⟩

def cell? (address : UInt32) : Option (Fin addressSpace) :=
  if h : address.toNat < addressSpace then some ⟨address.toNat, h⟩ else none

def get (store : Store) (cell : Fin addressSpace) : UInt16 :=
  store.cells[cell]

/-- The memory with one word replaced; the extent grows to cover it. -/
def put (store : Store) (cell : Fin addressSpace) (word : UInt16) : Store :=
  ⟨store.cells.set cell word, max store.extent (cell.val + 1)⟩

/-- The word at an address. -/
def read (store : Store) (address : UInt32) : Except Cause UInt16 :=
  match cell? address with
  | some cell => .ok (store.get cell)
  | none => .error (.readOutside address)

/-- The memory after a word is written to an address. -/
def write (store : Store) (address : UInt32) (word : UInt16) : Except Cause Store :=
  match cell? address with
  | some cell => .ok (store.put cell word)
  | none => .error (.writeOutside address)

/-- Zeros put into the cells below a bound. -/
def clearBelow (cells : Vector UInt16 addressSpace) : Nat → Vector UInt16 addressSpace
  | 0 => cells
  | n + 1 => clearBelow (cells.setIfInBounds n 0) n

/-- The memory with everything below the extent cleared and nothing in use. -/
def reset (store : Store) : Store :=
  ⟨clearBelow store.cells store.extent, 0⟩

/-- Words put into consecutive cells. -/
def fill (cells : Vector UInt16 addressSpace) : Nat → List UInt16 → Vector UInt16 addressSpace
  | _, [] => cells
  | n, word :: rest => fill (cells.setIfInBounds n word) (n + 1) rest

/-- The memory that holds the words from address 0 on and nothing else. -/
def load (store : Store) (words : List UInt16) : Except Cause Store :=
  if words.length ≤ addressSpace then
    .ok ⟨fill store.reset.cells 0 words, words.length⟩
  else .error (.tooManyWords words.length)

def between (store : Store) (start stop : Nat) : List UInt16 :=
  (store.cells.toArray.extract start stop).toList

/-- The words from an address on, as many as wanted and there are. The end address
    is a 32-bit sum; there is no answer when it wraps to before the start. -/
def slice? (store : Store) (address : UInt32) (count : Int) : Option (List UInt16) :=
  if addressSpace ≤ address.toNat ∨ count ≤ 0 then some []
  else
    let stop := min (address + count.toNat.toUInt32).toNat addressSpace
    if stop < address.toNat then none else some (store.between address.toNat stop)

def words (store : Store) : List UInt16 :=
  store.between 0 store.extent

end Store

end WordMachine
