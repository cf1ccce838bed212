import WordMachine.Gzip.Member

/-!
Compressed files are read as they were written. A stored block adds its content to the
output (`inflateBlocks_storedBlock`), the blocks of a file add up to its contents, and
the check and the length at the end agree (`decompress_compress`).
-/

namespace WordMachine.Gzip

/-- These bytes stand at the offset. -/
def Holds (data : Array UInt8) (offset : Nat) (bytes : List UInt8) : Prop :=
  ∃ before after, data.toList = before ++ (bytes ++ after) ∧ before.length = offset

namespace Holds

variable {data : Array UInt8} {offset : Nat} {xs ys : List UInt8}

theorem left (holds : Holds data offset (xs ++ ys)) : Holds data offset xs := by
  obtain ⟨before, after, whole, rfl⟩ := holds
  exact ⟨before, ys ++ after, by simpa using whole, rfl⟩

theorem right (holds : Holds data offset (xs ++ ys)) : Holds data (offset + xs.length) ys := by
  obtain ⟨before, after, whole, rfl⟩ := holds
  exact ⟨before ++ xs, after, by simpa using whole, by simp⟩

theorem le_size (holds : Holds data offset xs) : offset + xs.length ≤ data.size := by
  obtain ⟨before, after, whole, rfl⟩ := holds
  have count := congrArg List.length whole
  simp only [Array.length_toList, List.length_append] at count
  omega

theorem getElem? {index : Nat} (holds : Holds data offset xs) (inside : index < xs.length) :
    data[offset + index]? = xs[index]? := by
  obtain ⟨before, after, whole, rfl⟩ := holds
  rw [← Array.getElem?_toList, whole, List.getElem?_append_right (Nat.le_add_right ..),
    Nat.add_sub_cancel_left, List.getElem?_append_left inside]

theorem extract_eq (holds : Holds data offset xs) :
    data.extract offset (offset + xs.length) = xs.toArray := by
  obtain ⟨before, after, whole, rfl⟩ := holds
  apply Array.ext'
  simp [whole, List.extract_eq_take_drop]

end Holds

/-! ## Numbers -/

variable {data : Array UInt8} {offset : Nat}

theorem readPair?_littleEndian {n : Nat} (holds : Holds data offset (littleEndian 2 n)) :
    readPair? data offset = some (n % 0x10000) := by
  have low : data[offset]? = some n.toUInt8 := holds.getElem? (by decide : 0 < 2)
  have high : data[offset + 1]? = some (n / 256).toUInt8 := holds.getElem? (by decide : 1 < 2)
  have low_eq : n.toUInt8.toNat = n % 256 := rfl
  have high_eq : (n / 256).toUInt8.toNat = n / 256 % 256 := rfl
  have joined : n % 256 + 256 * (n / 256 % 256) = n % 0x10000 := by omega
  simp only [readPair?, low, high, Option.bind_eq_bind, Option.bind_some, low_eq, high_eq, joined]
  rfl

theorem readWord?_littleEndian {n : Nat} (holds : Holds data offset (littleEndian 4 n)) :
    readWord? data offset = some (n % 0x100000000) := by
  have split : littleEndian 4 n = littleEndian 2 n ++ littleEndian 2 (n / 0x10000) := by
    simp [littleEndian, Nat.div_div_eq_div_mul]
  rw [split] at holds
  have low := readPair?_littleEndian holds.left
  have high := readPair?_littleEndian holds.right
  have joined : n % 0x10000 + 0x10000 * (n / 0x10000 % 0x10000) = n % 0x100000000 := by omega
  simp only [littleEndian, List.length_cons, List.length_nil] at high
  simp [readWord?, low, high, joined]

/-! ## Blocks -/

/-- What follows the first byte of a stored block. -/
def storedBody (content : List UInt8) : List UInt8 :=
  littleEndian 2 content.length ++ (littleEndian 2 (0xFFFF - content.length) ++ content)

theorem storedBlock_eq (last : Bool) (content : List UInt8) :
    storedBlock last content = [if last then 1 else 0] ++ storedBody content := by
  simp [storedBlock, storedBody]

theorem length_storedBlock (last : Bool) (content : List UInt8) :
    (storedBlock last content).length = 5 + content.length := by
  rw [storedBlock_eq]
  simp only [storedBody, littleEndian, List.length_append, List.length_cons, List.length_nil]
  omega

theorem inflateStored_storedBody {content : List UInt8} (output : Array UInt8)
    (short : content.length ≤ 0xFFFF) (holds : Holds data (offset + 1) (storedBody content)) :
    inflateStored data ⟨output, 8 * offset + 3⟩ =
      some ⟨output ++ content.toArray, 8 * (offset + 5 + content.length)⟩ := by
  have start : nextByte (8 * offset + 3) = offset + 1 := by
    unfold nextByte
    omega
  have length : readPair? data (offset + 1) = some content.length := by
    rw [readPair?_littleEndian holds.left, Nat.mod_eq_of_lt (by omega)]
  have complement : readPair? data (offset + 1 + 2) = some (0xFFFF - content.length) := by
    have read := readPair?_littleEndian holds.right.left
    rwa [Nat.mod_eq_of_lt (by omega)] at read
  have content_at : Holds data (offset + 1 + 4) content := holds.right.right
  have sum : content.length + (0xFFFF - content.length) = 0xFFFF := by omega
  simp only [inflateStored, start, length, complement, Option.bind_eq_bind, Option.bind_some, sum,
    content_at.le_size, content_at.extract_eq, and_self, if_true]
  rfl

theorem bitAt?_first {last : Bool} {place : Nat}
    (first : data[offset]? = some (if last then 1 else 0)) (inside : place < 8) :
    bitAt? data (8 * offset + place) = some (if last ∧ place = 0 then 1 else 0) := by
  have byte : (8 * offset + place) / 8 = offset := by omega
  have bit : (8 * offset + place) % 8 = place := by omega
  rw [bitAt?, byte, bit, first]
  cases last with
  | false => simp
  | true =>
    cases place with
    | zero => rfl
    | succ place => simp [Nat.shiftRight_succ_inside]

/-- One stored block adds its content, and the block that is marked as the last one ends the
    data. -/
theorem inflateBlocks_storedBlock {last : Bool} {content : List UInt8} (fuel : Nat)
    (output : Array UInt8) (short : content.length ≤ blockLimit)
    (holds : Holds data offset (storedBlock last content)) :
    inflateBlocks data (fuel + 1) ⟨output, 8 * offset⟩ =
      let state : Inflation :=
        ⟨output ++ content.toArray, 8 * (offset + (storedBlock last content).length)⟩
      if last then some state else inflateBlocks data fuel state := by
  rw [storedBlock_eq] at holds
  have first : data[offset]? = some (if last then 1 else 0) := holds.left.getElem? Nat.one_pos
  have mark : bitAt? data (8 * offset) = some (if last then 1 else 0) := by
    simpa using bitAt?_first first (by decide : 0 < 8)
  have kind : readBits? data 2 (8 * offset + 1) = some 0 := by
    simp [readBits?, bitAt?_first first (by decide : 1 < 8), bitAt?_first first (by decide : 2 < 8)]
  have stored := inflateStored_storedBody output short holds.right
  rw [length_storedBlock, ← Nat.add_assoc]
  simp only [inflateBlocks, mark, kind, inflateBlock, stored, Option.bind_eq_bind, Option.bind_some]
  cases last <;> rfl

theorem inflateBlocks_storedBlocks {count fuel : Nat} {content : List UInt8} (output : Array UInt8)
    (enough : content.length ≤ blockLimit * (count + 1)) (fueled : count < fuel)
    (holds : Holds data offset (storedBlocks count content)) :
    inflateBlocks data fuel ⟨output, 8 * offset⟩ =
      some ⟨output ++ content.toArray, 8 * (offset + (storedBlocks count content).length)⟩ := by
  obtain ⟨fuel, rfl⟩ := Nat.exists_eq_add_of_lt fueled
  induction count generalizing content output offset with
  | zero =>
    rw [storedBlocks] at holds ⊢
    exact inflateBlocks_storedBlock _ output (by omega) holds
  | succ count ih =>
    rw [storedBlocks] at holds ⊢
    by_cases short : content.length ≤ blockLimit
    · rw [if_pos short] at holds ⊢
      exact inflateBlocks_storedBlock _ output short holds
    · rw [if_neg short] at holds ⊢
      have rest : (content.drop blockLimit).length ≤ blockLimit * (count + 1) := by
        rw [List.length_drop]
        exact Nat.sub_le_of_le_add enough
      have fuel_eq : count + 1 + fuel + 1 = count + fuel + 1 + 1 := by omega
      rw [fuel_eq, inflateBlocks_storedBlock _ output (List.length_take_le ..) holds.left]
      simp only [Bool.false_eq_true, if_false]
      rw [ih _ rest holds.right (by omega)]
      simp [Nat.add_assoc]

theorem length_le_storedBlocks (count : Nat) (content : List UInt8) :
    content.length ≤ (storedBlocks count content).length := by
  induction count generalizing content with
  | zero =>
    rw [storedBlocks, length_storedBlock]
    omega
  | succ count ih =>
    rw [storedBlocks]
    split
    · rw [length_storedBlock]
      omega
    · have rest := ih (content.drop blockLimit)
      rw [List.length_append, length_storedBlock, List.length_take]
      rw [List.length_drop] at rest
      omega

/-! ## Files -/

theorem inflate?_storedBlocks {content : List UInt8}
    (holds : Holds data offset (storedBlocks (content.length / blockLimit) content)) :
    inflate? data offset = some (content.toArray,
      offset + (storedBlocks (content.length / blockLimit) content).length) := by
  have enough : content.length ≤ blockLimit * (content.length / blockLimit + 1) := by
    have whole := Nat.div_add_mod content.length blockLimit
    have less := Nat.mod_lt content.length (by decide : 0 < blockLimit)
    rw [Nat.mul_add]
    omega
  have fueled : content.length / blockLimit < symbolFuel data := by
    have blocks := Nat.div_le_self content.length blockLimit
    have length := length_le_storedBlocks (content.length / blockLimit) content
    have inside := holds.le_size
    unfold symbolFuel
    omega
  have place (n : Nat) : nextByte (8 * n) = n := by
    unfold nextByte
    omega
  simp [inflate?, inflateBlocks_storedBlocks #[] enough fueled holds, place]

/-- The header of the files that are written. -/
def plainHeader : List UInt8 := [0x1F, 0x8B, 8, 0, 0, 0, 0, 0, 0, 0xFF]

theorem skipHeader_plainHeader (holds : Holds data 0 plainHeader) :
    skipHeader data 0 = some 10 := by
  have size : 10 ≤ data.size := Nat.le_trans (by decide) holds.le_size
  have byte (index : Nat) (inside : index < 10) : data[index]? = plainHeader[index]? := by
    simpa using holds.getElem? inside
  have flags : data.getD 3 0 = 0 := by
    simp [Array.getD_eq_getD_getElem?, byte 3 (by decide), plainHeader]
  simp [skipHeader, size, byte 0 (by decide), byte 1 (by decide), byte 2 (by decide), plainHeader,
    flags]

theorem readBody_eq {content : List UInt8}
    (holds : Holds data offset (storedBlocks (content.length / blockLimit) content ++
      (littleEndian 4 (checksum content.toArray).toNat ++
        littleEndian 4 (content.length % 0x100000000)))) :
    readBody data offset = some (content.toArray,
      offset + (storedBlocks (content.length / blockLimit) content).length + 8) := by
  have output := inflate?_storedBlocks holds.left
  have check : (checksum content.toArray).toNat % 0x100000000 = (checksum content.toArray).toNat :=
    Nat.mod_eq_of_lt (checksum content.toArray).toNat_lt
  have checked := readWord?_littleEndian holds.right.left
  have measured := readWord?_littleEndian holds.right.right
  simp only [littleEndian, List.length_cons, List.length_nil] at measured
  simp [readBody, output, checked, measured, check]

/-- Whatever is compressed comes out again. -/
theorem decompress_compress (content : List UInt8) :
    decompress (compress content) = .ok content := by
  have holds : Holds (compress content).toArray 0
      (plainHeader ++ (storedBlocks (content.length / blockLimit) content ++
        (littleEndian 4 (checksum content.toArray).toNat ++
          littleEndian 4 (content.length % 0x100000000)))) :=
    ⟨[], [], by simp [compress, plainHeader], rfl⟩
  have size : (compress content).toArray.size =
      10 + (storedBlocks (content.length / blockLimit) content).length + 8 := by
    simp only [compress, littleEndian, List.size_toArray, List.length_append, List.length_cons,
      List.length_nil]
  have started := skipHeader_plainHeader holds.left
  have body : readBody (compress content).toArray 10 =
      some (content.toArray, (compress content).toArray.size) := by
    rw [size]
    exact readBody_eq holds.right
  have joined : #[] ++ content.toArray = content.toArray := Array.empty_append
  simp only [decompress, started, readMembers, body, joined, Option.bind_eq_bind, Option.bind_some,
    if_true, Option.pure_def]

end WordMachine.Gzip
