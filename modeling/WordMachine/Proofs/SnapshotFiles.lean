import Mathlib.Algebra.Group.Nat.Defs
import Mathlib.Data.List.Basic
import WordMachine.Proofs.Cbor
import WordMachine.Proofs.Gzip
import WordMachine.Proofs.Reachable
import WordMachine.Snapshot.File

/-!
Snapshots in files. Every field is read back from the item that it was written as
(`readField_fieldItem`), whatever the order of the fields, so that a snapshot is decoded
from its own encoding and comes out of its own file (`file_roundTrip`). Other files are
refused or hold a state that every machine can be restored to, and a machine is restored
whole or stays as it is (`restore_whole_or_not`).
-/

namespace WordMachine.Snapshot

open Cbor (Item Reads wordsItem)

/-- A snapshot of this version whose lists are short enough to be read again. -/
structure Writable (snapshot : Snapshot) : Prop where
  version_eq : snapshot.version = currentVersion
  cpu_eq : snapshot.cpu = machineName
  memory_le : snapshot.memoryWords.length ≤ Cbor.entryLimit
  stack_le : snapshot.stackWords.length ≤ Cbor.entryLimit
  pending_lt : snapshot.pendingBytes.length < 2 ^ 64

/-! ## What is written -/

/-- A list as an item, null if it is absent. -/
def optionalItem {α : Type} (item : List α → Item) : Option (List α) → Item
  | some list => item list
  | none => .simple 22

/-- The item that a field is written as. -/
def fieldItem (snapshot : Snapshot) : Field → Item
  | .pc => .unsigned snapshot.pc.toUInt64
  | .cpu => .text [Utf8.bytesOf snapshot.cpu]
  | .mem => optionalItem wordsItem snapshot.memory
  | .regs => wordsItem snapshot.registers.words.toList
  | .count => .unsigned snapshot.count
  | .stack => optionalItem wordsItem snapshot.stack
  | .pending => optionalItem .bytes snapshot.pending
  | .version => .unsigned snapshot.version.toNat.toUInt64

/-- The item of the name of a field. -/
def keyItem (field : Field) : Item := .text [Utf8.bytesOf field.key]

/-- The items of some fields. -/
def entries (snapshot : Snapshot) (fields : List Field) : List (Item × Item) :=
  fields.map fun field => (keyItem field, snapshot.fieldItem field)

theorem reads_writeOptional {α : Type} {levels : Nat} {write : List α → List UInt8}
    {item : List α → Item} {list : Option (List α)}
    (read : ∀ present, list = some present →
      Reads (Cbor.readItem (levels + 1)) (write present) (item present)) :
    Reads (Cbor.readItem (levels + 1)) (writeOptional write list) (optionalItem item list) := by
  cases list with
  | some present => exact read present rfl
  | none => exact Cbor.reads_null

theorem reads_writeField {snapshot : Snapshot} (writable : snapshot.Writable) (levels : Nat)
    (field : Field) :
    Reads (Cbor.readItem (levels + 2)) (snapshot.writeField field) (snapshot.fieldItem field) := by
  cases field with
  | pc => exact Cbor.reads_int (by simp)
  | cpu =>
    refine Cbor.reads_text ?_
    rw [writable.cpu_eq]
    decide +kernel
  | mem =>
    refine reads_writeOptional fun words present => Cbor.reads_words levels ?_
    simpa [memoryWords, present] using writable.memory_le
  | regs =>
    refine Cbor.reads_words levels ?_
    rw [Vector.length_toList]
    decide
  | count => exact Cbor.reads_int rfl
  | stack =>
    refine reads_writeOptional fun words present => Cbor.reads_words levels ?_
    simpa [stackWords, present] using writable.stack_le
  | pending =>
    refine reads_writeOptional fun bytes present => Cbor.reads_bytes ?_
    simpa [pendingBytes, present] using writable.pending_lt
  | version =>
    rw [writeField, fieldItem, writable.version_eq]
    exact Cbor.reads_int rfl

theorem length_key_lt (field : Field) : (Utf8.bytesOf field.key).length < 2 ^ 64 := by
  cases field <;> decide +kernel

theorem parse?_encode {snapshot : Snapshot} (writable : snapshot.Writable) :
    Cbor.parse? snapshot.encode = some (.map (snapshot.entries Field.all)) := by
  -- The map takes one of the 32 levels, and the arrays in it another one.
  apply Cbor.parse?_of_reads
  refine Cbor.reads_map (by decide) ?_ ?_
  · exact fun field _ => Cbor.reads_text (length_key_lt field)
  · exact fun field _ => reads_writeField writable 29 field

/-! ## What is read -/

theorem readBounded_unsigned {low high : Int} {n : UInt64} (default : Int) (above : low ≤ n.toNat)
    (below : n.toNat ≤ high) :
    readBounded low high default (.unsigned n) = some (n.toNat : Int) := by
  simp [readBounded, Item.bare, Item.isNull, Item.integer?, above, below]

theorem readNat_unsigned {bits : Nat} {n : UInt64} (fits : n.toNat < 2 ^ bits) :
    readNat bits (.unsigned n) = some n.toNat := by
  have below : (n.toNat : Int) ≤ (Nat.pow 2 bits - 1 : Nat) :=
    Int.ofNat_le.mpr (Nat.le_sub_one_of_lt fits)
  rw [readNat, readBounded_unsigned 0 (Int.natCast_nonneg _) below]
  rfl

theorem readNat_word (word : UInt16) : readNat 16 (.unsigned word.toUInt64) = some word.toNat := by
  rw [readNat_unsigned (by simpa using word.toNat_lt), UInt16.toNat_toUInt64]

theorem readNats_words (words : List UInt16) :
    readNats 16 (words.map fun word => .unsigned word.toUInt64) =
      some (words.map UInt16.toNat) := by
  rw [readNats]
  induction words with
  | nil => rfl
  | cons word words ih => simp only [List.map_cons, List.mapM_cons, readNat_word, ih]; rfl

theorem map_toUInt16_toNat (words : List UInt16) :
    (words.map UInt16.toNat).map Nat.toUInt16 = words := by
  simp [Function.comp_def]

theorem readWords_optionalItem (words : Option (List UInt16)) :
    readWords (optionalItem wordsItem words) = some words := by
  cases words with
  | none => rfl
  | some words =>
    simp [optionalItem, wordsItem, readWords, Item.bare, Item.isNull, readNats_words,
      map_toUInt16_toNat, -List.map_map]

theorem readByteList_optionalItem (bytes : Option (List UInt8)) :
    readByteList (optionalItem .bytes bytes) = some bytes := by
  cases bytes <;> rfl

theorem readRegisters_wordsItem (registers : Registers) :
    readRegisters (wordsItem registers.words.toList) = some registers := by
  have all :
      (registers.words.toList.map fun word => Item.unsigned word.toUInt64).take registerCount =
      registers.words.toList.map fun word => Item.unsigned word.toUInt64 :=
    List.take_of_length_le (by simp)
  have back :
      (Vector.ofFn fun index : Fin registerCount => registers.words.toList.getD index.val 0) =
      registers.words := by
    ext index inside
    simp
  simp only [wordsItem, readRegisters, Item.bare, Item.isNull, all, readNats_words,
    map_toUInt16_toNat, back, Option.bind_eq_bind, Option.bind_some]
  rfl

theorem readChunks_machineName :
    readChunks [Utf8.bytesOf machineName] = some machineName.toList := by
  decide +kernel

/-- The snapshot with one field taken from another. -/
def copyField (source snapshot : Snapshot) : Field → Snapshot
  | .pc => { snapshot with pc := source.pc }
  | .cpu => { snapshot with cpu := source.cpu }
  | .mem => { snapshot with memory := source.memory }
  | .regs => { snapshot with registers := source.registers }
  | .count => { snapshot with count := source.count }
  | .stack => { snapshot with stack := source.stack }
  | .pending => { snapshot with pending := source.pending }
  | .version => { snapshot with version := source.version }

theorem readField_fieldItem {source : Snapshot} (writable : source.Writable) (snapshot : Snapshot)
    (field : Field) :
    snapshot.readField field (source.fieldItem field) = some (copyField source snapshot field) := by
  cases field with
  | pc =>
    have fits : source.pc.toUInt64.toNat < 2 ^ 32 := by simpa using source.pc.toNat_lt
    simp [readField, fieldItem, copyField, readNat_unsigned fits]
  | cpu =>
    simp [readField, fieldItem, copyField, readText, Item.bare, Item.isNull, writable.cpu_eq,
      readChunks_machineName]
  | mem => simp [readField, fieldItem, copyField, readWords_optionalItem]
  | regs => simp [readField, fieldItem, copyField, readRegisters_wordsItem]
  | count =>
    simp [readField, fieldItem, copyField, readNat_unsigned source.count.toNat_lt]
  | stack => simp [readField, fieldItem, copyField, readWords_optionalItem]
  | pending => simp [readField, fieldItem, copyField, readByteList_optionalItem]
  | version =>
    rw [fieldItem, copyField, writable.version_eq]
    rfl

theorem readKey_keyItem (field : Field) : readKey (keyItem field) = some (some field) := by
  cases field <;> decide +kernel

/-- Fields are read in any order, as long as none comes twice. -/
theorem readEntries_entries {source : Snapshot} (writable : source.Writable)
    {fields found : List Field}
    (nodup : fields.Nodup) (fresh : ∀ field ∈ fields, field ∉ found) (snapshot : Snapshot) :
    readEntries snapshot found (source.entries fields) =
      some (fields.foldl (copyField source) snapshot) := by
  induction fields generalizing found snapshot with
  | nil => rfl
  | cons field fields ih =>
    obtain ⟨absent, nodup⟩ := List.nodup_cons.mp nodup
    have unread : ∀ other ∈ fields, other ∉ field :: found := by
      intro other member
      have distinct : other ≠ field := fun same => absent (same ▸ member)
      simpa [distinct] using fresh other (.tail _ member)
    rw [List.foldl_cons, ← ih nodup unread]
    simp [entries, readEntries, readKey_keyItem, fresh field (.head _),
      readField_fieldItem writable]

theorem decode_encode {snapshot : Snapshot} (writable : snapshot.Writable) :
    decode snapshot.encode = some snapshot := by
  have read : readEntries blank [] (snapshot.entries Field.all) = some snapshot :=
    readEntries_entries writable (by decide) (by simp) blank
  simp [decode, parse?_encode writable, ofItem, Item.bare, Item.isNull, read]

theorem Valid.writable {snapshot : Snapshot} (valid : snapshot.Valid)
    (shallow : snapshot.stackWords.length ≤ Cbor.entryLimit)
    (short : snapshot.pendingBytes.length < 2 ^ 64) : snapshot.Writable :=
  ⟨valid.version_eq, valid.cpu_eq, Nat.le_trans valid.memory_le (by decide), shallow, short⟩

theorem writable_take {machine : Machine} (shallow : machine.stack.depth ≤ Cbor.entryLimit)
    (short : machine.pending.length < 2 ^ 64) : (take machine).Writable where
  version_eq := rfl
  cpu_eq := rfl
  memory_le := by
    have bounded : machine.store.words.length ≤ addressSpace := by
      rw [Store.words, Store.between, Array.length_toList, Array.size_extract, Vector.size_toArray]
      omega
    rw [memoryWords_take]
    exact Nat.le_trans bounded (by decide)
  stack_le := by
    rw [stackWords_take]
    exact shallow
  pending_lt := by
    rw [pendingBytes_take]
    exact short

/-! ## Files -/

theorem unwrap_header {compressed body : List UInt8}
    (inflated : Gzip.decompress compressed = .ok body) :
    unwrap (header ++ compressed) = .ok body := by
  have mark_eq : mark = [0x57, 0x31, 0x36, 0x53] := by decide +kernel
  have header_eq : header = [0x57, 0x31, 0x36, 0x53, 1, 0, 0, 0] := by decide +kernel
  simp [unwrap, header_eq, mark_eq, ofLittleEndian, inflated]

theorem ofFile_eq_ok_iff {bytes : List UInt8} {snapshot : Snapshot} :
    ofFile bytes = .ok snapshot ↔
      ∃ body, unwrap bytes = .ok body ∧ decode body = some snapshot ∧ snapshot.check = .ok () := by
  constructor
  · intro read
    cases unwrapped : unwrap bytes with
    | error error => simp [ofFile, unwrapped, bind, Except.bind] at read
    | ok body =>
      cases decoded : decode body with
      | none => simp [ofFile, unwrapped, decoded, bind, Except.bind] at read
      | some found =>
        cases checked : found.check with
        | error error => simp [ofFile, unwrapped, decoded, checked, bind, Except.bind] at read
        | ok _ =>
          simp only [ofFile, unwrapped, decoded, checked, bind, Except.bind] at read
          cases read
          exact ⟨body, rfl, decoded, checked⟩
  · rintro ⟨body, unwrapped, decoded, checked⟩
    simp only [ofFile, unwrapped, decoded, checked, bind, Except.bind]
    rfl

/-- A snapshot that is accepted is decoded from its own encoding, and read from a file with that
    encoding in it, however it was compressed. What is decoded of a machine encodes to the same
    bytes again. Arrays have at most 131072 entries, and lengths are numbers of 64 bits. -/
theorem file_roundTrip :
    (∀ snapshot : Snapshot, snapshot.check = .ok () → snapshot.stackWords.length ≤ 131072 →
      snapshot.pendingBytes.length < 2 ^ 64 →
      decode snapshot.encode = some snapshot ∧
      (∀ compressed, Gzip.decompress compressed = .ok snapshot.encode →
        ofFile (header ++ compressed) = .ok snapshot) ∧
      ofFile snapshot.toFile = .ok snapshot) ∧
    ∀ machine : Machine, machine.stack.depth ≤ 131072 → machine.pending.length < 2 ^ 64 →
      ∃ decoded, decode (take machine).encode = some decoded ∧
        decoded.encode = (take machine).encode := by
  constructor
  · intro snapshot accepted shallow short
    have writable := ((check_eq_ok_iff snapshot).mp accepted).writable shallow short
    have decoded := decode_encode writable
    refine ⟨decoded, ?_, ?_⟩
    · intro compressed inflated
      exact ofFile_eq_ok_iff.mpr ⟨_, unwrap_header inflated, decoded, accepted⟩
    · have inflated := Gzip.decompress_compress snapshot.encode
      exact ofFile_eq_ok_iff.mpr ⟨_, unwrap_header inflated, decoded, accepted⟩
  · intro machine shallow short
    exact ⟨_, decode_encode (writable_take shallow short), rfl⟩

/-- Numbers of several widths, a memory that is empty, input that is absent, and the largest
    count. -/
theorem file_roundTrip_wide_values :
    let registers : Registers := ⟨#v[0, 23, 24, 255, 256, 32767, 1, 2]⟩
    let snapshot : Snapshot :=
      ⟨1, "W16", 32767, registers, some [23, 24, 32767], some [], none, 0xFFFFFFFFFFFFFFFF⟩
    let machine : Machine := { Machine.initial with stack := ⟨#[7]⟩, pending := [0x61, 0x0A] }
    ofFile snapshot.toFile = .ok snapshot ∧
      ∃ decoded, decode (take machine).encode = some decoded ∧
        decoded.encode = (take machine).encode := by
  intro registers snapshot machine
  obtain ⟨_, _, read⟩ := file_roundTrip.1 snapshot rfl (by decide) (by decide)
  exact ⟨read, file_roundTrip.2 machine (by decide) (by decide)⟩

/-! ## Restoring -/

/-- A snapshot that is accepted makes the same machine of every machine. -/
theorem restore_of_valid {snapshot : Snapshot} (valid : snapshot.Valid) :
    ∃ store, Store.empty.load snapshot.memoryWords = .ok store ∧
      ∀ machine : Machine, machine.WellFormed → snapshot.restore machine =
        (.ok (), ⟨snapshot.pc, snapshot.registers, .ofList snapshot.stackWords, store,
          snapshot.pendingBytes, false, false, snapshot.count⟩) := by
  have loaded := Store.load_eq_ok .empty valid.memory_le
  refine ⟨_, loaded, ?_⟩
  intro machine wellFormed
  rcases snapshot.restore_cases machine with ⟨error, refused, _⟩ | ⟨store, _, same, restored⟩
  · rw [(check_eq_ok_iff snapshot).mpr valid] at refused
    cases refused
  · rw [Store.reset_eq_empty wellFormed.store, loaded] at same
    rw [restored, ← Except.ok.inj same]

/-- Whatever a file holds, it is refused or gives a snapshot that every machine takes. Whatever a
    snapshot holds, it is refused by every machine, which stays as it is, or it decides all that a
    machine holds afterwards, within the bounds and with zeros after its words of memory. -/
theorem restore_whole_or_not :
    (∀ bytes : List UInt8,
      (∃ error detail, ofFile bytes = .error error ∧ error.message = "bad snapshot: " ++ detail) ∨
      ∃ snapshot, ofFile bytes = .ok snapshot ∧
        ∀ machine, (snapshot.restore machine).1 = .ok ()) ∧
    ∀ snapshot : Snapshot,
      (∃ error detail, error.message = "bad snapshot: " ++ detail ∧
        ∀ machine, snapshot.restore machine = (.error (.rejected error), machine)) ∨
      ∃ restored : Machine,
        (∀ machine, Reachable machine → snapshot.restore machine = (.ok (), restored)) ∧
        restored = ⟨snapshot.pc, snapshot.registers, .ofList snapshot.stackWords, restored.store,
          snapshot.pendingBytes, false, false, snapshot.count⟩ ∧
        restored.pc.toNat ≤ 32767 ∧
        (∀ index, (restored.registers.get index).toNat ≤ 32767) ∧
        (∀ word ∈ restored.stack.toList, word.toNat ≤ 32767) ∧
        (∀ cell, restored.store.get cell = snapshot.memoryWords.getD cell.val 0) ∧
        restored.store.extent = snapshot.memoryWords.length := by
  constructor
  · intro bytes
    cases read : ofFile bytes with
    | error error => exact .inl ⟨error, error.detail, rfl, rfl⟩
    | ok snapshot =>
      obtain ⟨_, _, _, accepted⟩ := ofFile_eq_ok_iff.mp read
      exact .inr ⟨snapshot, rfl, fun machine => (restore_eq_ok_iff snapshot machine).mpr accepted⟩
  · intro snapshot
    cases checked : snapshot.check with
    | error error => exact .inl ⟨error, error.detail, rfl, fun machine => by rw [restore, checked]⟩
    | ok _ =>
      have valid := (check_eq_ok_iff snapshot).mp checked
      obtain ⟨store, loaded, restored⟩ := restore_of_valid valid
      refine .inr ⟨_, fun machine reachable =>
        restored machine reachable.wellFormed, rfl, ?_, ?_, ?_, ?_, ?_⟩
      · exact Nat.le_of_lt_succ valid.pc_lt
      · exact fun index => UInt16.le_iff_toNat_le.mp (valid.registers_le index)
      · exact fun word member => UInt16.le_iff_toNat_le.mp (valid.stack_le word member)
      · intro cell
        rw [Store.get_of_load Store.empty_wellFormed loaded, List.getD_eq_getElem?_getD]
      · exact (Store.extent_of_load loaded).1

/-- A longer program that was in memory before leaves nothing behind. -/
theorem restore_whole_or_not_over_program :
    let machine := (Machine.initial.load [21, 22, 23]).2
    let snapshot : Snapshot := ⟨1, "W16", 1, .zero, none, some [21, 0xFFFF], none, 5⟩
    ∃ restored, snapshot.restore machine = (.ok (), restored) ∧
      restored.store.get 1 = 0xFFFF ∧ restored.store.get 2 = 0 := by
  intro machine snapshot
  have reachable : Reachable machine := .single (.load .initial _)
  rcases restore_whole_or_not.2 snapshot
    with ⟨_, _, _, refused⟩ | ⟨restored, same, _, _, _, _, words, _⟩
  · have accepted := (restore_eq_ok_iff snapshot machine).mpr rfl
    rw [refused] at accepted
    cases accepted
  · exact ⟨restored, same machine reachable, words 1, words 2⟩

end WordMachine.Snapshot
