import WordMachine.Machine.Step

/-!
Reading instructions. An instruction that is read lies within memory, whole (`decode_eq_ok`), and
one that cannot be read is refused for a reason within the machine (`decode_eq_error`).
-/

namespace WordMachine

namespace Machine

/-- The instruction of an operation at an address, all of it within memory. -/
structure Decoded (address : UInt32) (op : Opcode) (instruction : Instruction) : Prop where
  address_eq : instruction.address = address
  operation : Opcode.ofWord? instruction.code = some op
  fetched_eq : instruction.fetched = op.arity
  inside : address.toNat + op.arity < addressSpace

/-- The address after an instruction that lies within memory. -/
theorem toNat_following {instruction : Instruction} {n : Nat} (fetched : instruction.fetched = n)
    (inside : instruction.address.toNat + n < addressSpace) :
    instruction.following.toNat = instruction.address.toNat + n + 1 := by
  have space : addressSpace = 32768 := rfl
  have one : (1 : UInt32).toNat = 1 := rfl
  have count : (UInt32.ofInt (n : Int)).toNat = n := by
    rw [UInt32.ofInt, UInt32.toNat_ofNat']
    omega
  rw [Instruction.following, Instruction.size, fetched, UInt32.toNat_add, UInt32.toNat_add, count,
    one]
  omega

theorem read_of_inside (store : Store) {address : UInt32} (inside : address.toNat < addressSpace) :
    store.read address = .ok (store.get ⟨address.toNat, inside⟩) := by
  simp only [Store.read, Store.cell?, dif_pos inside]

theorem read_of_outside (store : Store) {address : UInt32}
    (outside : ¬ address.toNat < addressSpace) :
    store.read address = .error (.readOutside address) := by
  simp only [Store.read, Store.cell?, dif_neg outside]

theorem read_eq_ok {store : Store} {address : UInt32} {word : UInt16}
    (found : store.read address = .ok word) :
    ∃ inside : address.toNat < addressSpace, store.get ⟨address.toNat, inside⟩ = word := by
  unfold Store.read Store.cell? at found
  split at found
  · rename_i cell is
    split at is
    · rename_i inside
      cases is
      exact ⟨inside, Except.ok.inj found⟩
    · cases is
  · cases found

theorem read_error_kind {store : Store} {address : UInt32} {cause : Cause}
    (failed : store.read address = .error cause) : cause.kind? = some .addressing := by
  unfold Store.read at failed
  split at failed
  · cases failed
  · cases failed
    rfl

/-- Fetching operands keeps the address and the code, and ends within memory. -/
theorem fetchOperands_eq_ok {store : Store} (more : Nat) {instruction result : Instruction}
    {n : Nat}
    (fetched : instruction.fetched = n) (inside : instruction.address.toNat + n < addressSpace)
    (read : fetchOperands store instruction more = .ok result) :
    result.address = instruction.address ∧ result.code = instruction.code ∧
      result.fetched = (n + more : Nat) ∧
        instruction.address.toNat + (n + more) < addressSpace := by
  induction more generalizing instruction n with
  | zero =>
    cases read
    exact ⟨rfl, rfl, fetched, inside⟩
  | succ more ih =>
    rw [fetchOperands] at read
    split at read
    · cases read
    · rename_i word found
      obtain ⟨within, _⟩ := read_eq_ok found
      rw [toNat_following fetched inside] at within
      have advanced : instruction.fetched + 1 = (n + 1 : Nat) := by rw [fetched]; rfl
      obtain ⟨address, code, count, bound⟩ := ih advanced (by exact within) read
      refine ⟨address, code, ?_, ?_⟩
      · rw [count]
        omega
      · have within : instruction.address.toNat + (n + 1 + more) < addressSpace := bound
        omega

theorem fetchOperands_eq_error {store : Store} (more : Nat) {instruction result : Instruction}
    {cause : Cause} (failed : fetchOperands store instruction more = .error (result, cause)) :
    result.address = instruction.address ∧ cause.kind? = some .addressing := by
  induction more generalizing instruction with
  | zero => cases failed
  | succ more ih =>
    rw [fetchOperands] at failed
    split at failed
    · rename_i failure
      cases failed
      exact ⟨rfl, read_error_kind failure⟩
    · obtain ⟨address, kind⟩ := ih (by exact failed)
      exact ⟨address, kind⟩

theorem decode_eq_ok {machine : Machine} {address : UInt32} {instruction : Instruction}
    (read : machine.decode address = .ok instruction) : ∃ op, Decoded address op instruction := by
  rw [decode] at read
  split at read
  · cases read
  · rename_i word found
    obtain ⟨inside, _⟩ := read_eq_ok found
    split at read
    · cases read
    · rename_i op known
      obtain ⟨place, code, count, bound⟩ := fetchOperands_eq_ok (n := 0) op.arity rfl inside read
      rw [Nat.zero_add] at count bound
      exact ⟨op, place, by rw [code]; exact known, count, bound⟩

/-- The cause lies within the machine: it belongs to a kind of fault other than the two that a
    terminal gives rise to. -/
def Internal (cause : Cause) : Prop :=
  ∃ kind, cause.kind? = some kind ∧ kind ≠ .inputClosed ∧ kind ≠ .output

theorem decode_eq_error {machine : Machine} {address : UInt32} {instruction : Instruction}
    {cause : Cause} (failed : machine.decode address = .error (instruction, cause)) :
    instruction.address = address ∧ Internal cause := by
  rw [decode] at failed
  split at failed
  · rename_i failure
    cases failed
    exact ⟨rfl, _, read_error_kind failure, by decide⟩
  · split at failed
    · cases failed
      exact ⟨rfl, _, rfl, by decide⟩
    · obtain ⟨place, kind⟩ := fetchOperands_eq_error _ failed
      exact ⟨place, _, kind, by decide⟩

theorem fetchOperands_of_read {store : Store} {instruction : Instruction} {word : UInt16}
    (more : Nat) (found : store.read instruction.following = .ok word) :
    fetchOperands store instruction (more + 1) =
      fetchOperands store
        { instruction with
          operands := instruction.operands.setIfInBounds instruction.fetched.toNat word
          fetched := instruction.fetched + 1 } more := by
  rw [fetchOperands, found]

theorem decode_of_read {machine : Machine} {address : UInt32} {word : UInt16} {op : Opcode}
    (found : machine.store.read address = .ok word) (known : Opcode.ofWord? word = some op) :
    machine.decode address =
      fetchOperands machine.store { unread address with code := word } op.arity := by
  simp only [decode, found, known]

/-- An instruction with one operand is read from two words. -/
theorem decode_unary {machine : Machine} {address : UInt32} {code operand : UInt16} {op : Opcode}
    (found : machine.store.read address = .ok code) (known : Opcode.ofWord? code = some op)
    (one : op.arity = 1) (next : machine.store.read (address + 1) = .ok operand) :
    machine.decode address = .ok ⟨address, code, #v[operand, 0, 0], 1⟩ := by
  have following : ({ unread address with code } : Instruction).following = address + 1 := by
    have zero : UInt32.ofInt 0 = 0 := rfl
    simp [Instruction.following, Instruction.size, unread, zero]
  rw [← following] at next
  rw [decode_of_read found known, one, fetchOperands_of_read 0 next]
  rfl

/-- The instruction at an address, as far as it can be read. -/
def instructionAt (machine : Machine) (address : UInt32) : Instruction :=
  match machine.decode address with
  | .ok instruction => instruction
  | .error (instruction, _) => instruction

theorem address_instructionAt (machine : Machine) (address : UInt32) :
    (machine.instructionAt address).address = address := by
  rw [instructionAt]
  split
  · rename_i read
    obtain ⟨_, decoded⟩ := decode_eq_ok read
    exact decoded.address_eq
  · rename_i failed
    exact (decode_eq_error failed).1

end Machine

end WordMachine
