import Mathlib.Algebra.Group.Nat.Defs
import Mathlib.Data.List.Basic
import WordMachine.Cbor.Reader

/-!
Items are read as they were written. A head gives its number back whatever its width
(`reads_head`), and from there numbers, strings, arrays and maps are read from the bytes
they were written as, with whatever follows left over.
-/

namespace WordMachine.Cbor

/-- The reader takes these bytes off any input that starts with them. -/
def Reads {α : Type} (reader : Reader α) (bytes : List UInt8) (value : α) : Prop :=
  ∀ rest, reader (bytes ++ rest) = some (value, rest)

/-! ## Heads -/

-- The writer puts the low byte last and the reader starts with the high one, so the induction on
-- the width leaves room for bytes that are still to come.
theorem readBigEndian_bigEndian {width n : Nat} (more value : Nat) (rest : List UInt8)
    (fits : n < 256 ^ width) :
    readBigEndian (width + more) value (bigEndian width n ++ rest) =
      readBigEndian more (value * 256 ^ width + n) rest := by
  induction width generalizing n more rest with
  | zero =>
    obtain rfl : n = 0 := by simpa using fits
    simp [bigEndian]
  | succ width ih =>
    have high : n / 256 < 256 ^ width := Nat.div_lt_of_lt_mul (by rwa [Nat.pow_succ'] at fits)
    have low : n.toUInt8.toNat = n % 256 := rfl
    have joined : 256 * (value * 256 ^ width + n / 256) + n % 256 =
      value * 256 ^ (width + 1) + n := by
      rw [Nat.pow_succ, ← Nat.mul_assoc]
      omega
    have moved : width + 1 + more = width + (more + 1) := by omega
    rw [bigEndian, List.append_assoc, moved, ih (more + 1) _ high]
    simp only [List.cons_append, List.nil_append, readBigEndian, low, joined]

/-- The number of a head stands in the initial byte, or in the bytes after it. -/
theorem head_form (major : Nat) {n : Nat} (fits : n < 2 ^ 64) :
    ∃ info < 28, head major n = initialByte major info :: bigEndian (argumentWidth info) n ∧
      (argumentWidth info = 0 ∧ info = n ∨ 0 < argumentWidth info ∧
        n < 256 ^ argumentWidth info) := by
  unfold head
  split_ifs with small byte pair quad
  · have direct : argumentWidth n = 0 := by
      unfold argumentWidth
      split_ifs <;> omega
    exact ⟨n, by omega, by simp [direct, bigEndian], .inl ⟨direct, rfl⟩⟩
  · exact ⟨24, by decide, rfl, .inr ⟨by decide, byte⟩⟩
  · exact ⟨25, by decide, rfl, .inr ⟨by decide, pair⟩⟩
  · exact ⟨26, by decide, rfl, .inr ⟨by decide, quad⟩⟩
  · exact ⟨27, by decide, rfl, .inr ⟨by decide, fits⟩⟩

theorem initialByte_parts {major info : Nat} (typed : major < 8) (short : info < 32) :
    (initialByte major info).toNat / 32 = major ∧ (initialByte major info).toNat % 32 = info := by
  have whole : (initialByte major info).toNat = (32 * major + info) % 256 := rfl
  omega

theorem reads_head {major n : Nat} (typed : major < 7) (fits : n < 2 ^ 64) :
    ∃ info < 28, Reads readHead (head major n) ⟨major, info, n⟩ := by
  obtain ⟨info, short, written, placed⟩ := head_form major fits
  refine ⟨info, short, fun rest => ?_⟩
  obtain ⟨major_eq, info_eq⟩ := initialByte_parts (by omega : major < 8) (by omega : info < 32)
  have valid (value : Nat) : Head.isValid ⟨major, info, value⟩ = true := by
    simp [Head.isValid, short, Nat.ne_of_lt typed]
  rw [written, List.cons_append, readHead, major_eq, info_eq]
  rcases placed with ⟨direct, rfl⟩ | ⟨positive, inside⟩
  · simp [direct, bigEndian, valid]
  · have number : readBigEndian (argumentWidth info) 0 (bigEndian (argumentWidth info) n ++ rest) =
        .some (n, rest) := by
      have read := readBigEndian_bigEndian 0 0 rest inside
      simpa [readBigEndian] using read
    split
    · omega
    · simp [number, valid]

/-! ## Items without nesting -/

/-- An item that is no tag goes on after its head, whose length is given. -/
theorem readTagged_head (element : Option (Reader Item)) {major n : Nat} (typed : major < tagType)
    (fits : n < 2 ^ 64) :
    ∃ head' : Head, head'.major = major ∧ head'.value = n ∧ head'.isOpen = false ∧
      ∀ rest, readTagged element (head major n ++ rest) = readPlain element head' rest := by
  obtain ⟨info, short, read⟩ := reads_head (Nat.lt_succ_of_lt typed) fits
  refine ⟨⟨major, info, n⟩, rfl, rfl, by simp [Head.isOpen]; omega, fun rest => ?_⟩
  have plain : major ≠ tagType := Nat.ne_of_lt typed
  simp [readTagged, read rest, plain]

variable {element : Option (Reader Item)}

theorem reads_unsigned (n : UInt64) :
    Reads (readTagged element) (head unsignedType n.toNat) (.unsigned n) := by
  obtain ⟨head', major_eq, value_eq, _, read⟩ :=
    readTagged_head element (by decide : unsignedType < tagType) n.toNat_lt
  intro rest
  simp [read, readPlain, major_eq, value_eq]

theorem reads_int {n : Int} {m : UInt64} (number : n = m.toNat) :
    Reads (readTagged element) (writeInt n) (.unsigned m) := by
  have written : writeInt n = head unsignedType m.toNat := by simp [writeInt, number]
  rw [written]
  exact reads_unsigned m

theorem reads_null : Reads (readTagged element) writeNull (.simple 22) := fun _ => rfl

theorem reads_takeBytes (content : List UInt8) :
    Reads (takeBytes content.length) content content := by
  intro rest
  simp [takeBytes]

theorem reads_string {head : Head} {content : List UInt8} (closed : head.isOpen = false)
    (long : head.value = content.length) : Reads (readString head) content [content] := by
  intro rest
  simp [readString, closed, long, reads_takeBytes content rest]

theorem reads_bytes {content : List UInt8} (fits : content.length < 2 ^ 64) :
    Reads (readTagged element) (writeBytes content) (.bytes content) := by
  obtain ⟨head', major_eq, long, closed, read⟩ :=
    readTagged_head element (by decide : bytesType < tagType) fits
  intro rest
  rw [writeBytes, List.append_assoc, read]
  simp [readPlain, major_eq, reads_string closed long rest]

theorem reads_text {content : List UInt8} (fits : content.length < 2 ^ 64) :
    Reads (readTagged element) (writeText content) (.text [content]) := by
  obtain ⟨head', major_eq, long, closed, read⟩ :=
    readTagged_head element (by decide : textType < tagType) fits
  intro rest
  rw [writeText, List.append_assoc, read]
  simp [readPlain, major_eq, textType, negativeType, reads_string closed long rest]

/-! ## Arrays and maps -/

section Nested

variable {α : Type} {element : Reader Item}

theorem readMany_of_reads {bytes : List UInt8} {item : Item} (read : Reads element bytes item)
    (count : Nat) (items : Array Item) (rest : List UInt8) :
    readMany element (count + 1) items (bytes ++ rest) =
      readMany element count (items.push item) rest := by
  simp [readMany, read rest]

theorem readMany_flatMap {write : α → List UInt8} {item : α → Item} {list : List α}
    (read : ∀ x ∈ list, Reads element (write x) (item x)) (items : Array Item) (rest : List UInt8) :
    readMany element list.length items (list.flatMap write ++ rest) =
      some (items.toList ++ list.map item, rest) := by
  induction list generalizing items with
  | nil => simp [readMany]
  | cons x list ih =>
    rw [List.flatMap_cons, List.append_assoc, List.length_cons,
      readMany_of_reads (read x (.head _)), ih fun y member => read y (.tail _ member)]
    simp

theorem reads_array {write : α → List UInt8} {item : α → Item} {list : List α}
    (short : list.length ≤ entryLimit) (read : ∀ x ∈ list, Reads element (write x) (item x)) :
    Reads (readTagged (some element)) (head arrayType list.length ++ list.flatMap write)
      (.array (list.map item)) := by
  obtain ⟨head', major_eq, long, closed, started⟩ :=
    readTagged_head (some element) (by decide : arrayType < tagType)
      (Nat.lt_of_le_of_lt short (by decide))
  intro rest
  rw [List.append_assoc, started]
  simp [readPlain, major_eq, arrayType, negativeType, bytesType, readEntries, closed, long, short,
    readMany_flatMap read #[] rest]

/-- Words as an item. -/
def wordsItem (words : List UInt16) : Item :=
  .array (words.map fun word => .unsigned word.toUInt64)

theorem reads_words {words : List UInt16} (levels : Nat) (short : words.length ≤ entryLimit) :
    Reads (readItem (levels + 2)) (writeWords words) (wordsItem words) := by
  refine reads_array short fun word _ => ?_
  rw [← UInt16.toNat_toUInt64]
  exact reads_unsigned word.toUInt64

theorem pairUp_flatMap (key value : α → Item) (list : List α) (out : Array (Item × Item)) :
    pairUp out (list.flatMap fun x => [key x, value x]) =
      some (out.toList ++ list.map fun x => (key x, value x)) := by
  induction list generalizing out with
  | nil => simp [pairUp]
  | cons x list ih => simp [pairUp, ih]

theorem readMany_pairs {writeKey writeValue : α → List UInt8} {key value : α → Item} {list : List α}
    (readKey : ∀ x ∈ list, Reads element (writeKey x) (key x))
    (readValue : ∀ x ∈ list, Reads element (writeValue x) (value x)) (items : Array Item)
    (rest : List UInt8) :
    readMany element (2 * list.length) items
        (list.flatMap (fun x => writeKey x ++ writeValue x) ++ rest) =
      some (items.toList ++ list.flatMap fun x => [key x, value x], rest) := by
  induction list generalizing items with
  | nil => simp [readMany]
  | cons x list ih =>
    have count : 2 * (x :: list).length = 2 * list.length + 1 + 1 := by
      rw [List.length_cons]
      omega
    rw [count, List.flatMap_cons, List.append_assoc, List.append_assoc,
      readMany_of_reads (readKey x (.head _)), readMany_of_reads (readValue x (.head _)),
      ih (fun y member => readKey y (.tail _ member)) fun y member => readValue y (.tail _ member)]
    simp

theorem reads_map {writeKey writeValue : α → List UInt8} {key value : α → Item} {list : List α}
    (short : list.length ≤ entryLimit) (readKey : ∀ x ∈ list, Reads element (writeKey x) (key x))
    (readValue : ∀ x ∈ list, Reads element (writeValue x) (value x)) :
    Reads (readTagged (some element))
      (head mapType list.length ++ list.flatMap fun x => writeKey x ++ writeValue x)
      (.map (list.map fun x => (key x, value x))) := by
  obtain ⟨head', major_eq, long, closed, started⟩ :=
    readTagged_head (some element) (by decide : mapType < tagType)
      (Nat.lt_of_le_of_lt short (by decide))
  intro rest
  rw [List.append_assoc, started]
  simp [readPlain, major_eq, mapType, negativeType, bytesType, textType, readEntries, closed, long,
    short, readMany_pairs readKey readValue #[] rest, pairUp_flatMap]

end Nested

/-- What an item is read from, and nothing else, is that item. -/
theorem parse?_of_reads {bytes : List UInt8} {item : Item}
    (read : Reads (readItem levelLimit) bytes item) :
    parse? bytes = some item := by
  have whole := read []
  rw [List.append_nil] at whole
  rw [parse?, whole]

end WordMachine.Cbor
