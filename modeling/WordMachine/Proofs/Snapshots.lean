import WordMachine.Proofs.WellFormed
import WordMachine.Snapshot.Record

/-!
Snapshots and the machines they stand for. The check accepts exactly the states within
the bounds of a machine whose program counter lies in memory (`check_eq_ok_iff`), a
machine is restored whole or not at all (`restore_cases`), and the snapshot of a machine
brings back everything but the flags of runs (`restore_take`).
-/

namespace WordMachine.Snapshot

/-- The states that are accepted. -/
structure Valid (snapshot : Snapshot) : Prop where
  version_eq : snapshot.version = currentVersion
  cpu_eq : snapshot.cpu = machineName
  pc_lt : snapshot.pc.toNat < addressSpace
  memory_le : snapshot.memoryWords.length ≤ addressSpace
  registers_le : ∀ index, snapshot.registers.get index ≤ maxLiteral
  stack_le : ∀ word ∈ snapshot.stackWords, word ≤ maxLiteral

/-! ## The check -/

theorem wideRegister?_eq_none_iff (registers : Registers) :
    wideRegister? registers = none ↔ ∀ index, registers.get index ≤ maxLiteral := by
  rw [wideRegister?, List.find?_eq_none]
  constructor
  · intro unfound index
    have narrow := unfound index (List.mem_finRange index)
    simpa using narrow
  · intro narrow index _
    simpa using narrow index

theorem wideWord?_eq_none_iff (words : List UInt16) (place : Nat) :
    wideWord? place words = none ↔ ∀ word ∈ words, word ≤ maxLiteral := by
  induction words generalizing place with
  | nil => simp [wideWord?]
  | cons word rest ih =>
    rw [wideWord?]
    by_cases wide : maxLiteral < word
    · have outside : ¬ word ≤ maxLiteral := by simpa using wide
      simp [wide, outside]
    · have inside : word ≤ maxLiteral := by simpa using wide
      simp [wide, inside, ih]

theorem check_eq_ok_iff (snapshot : Snapshot) : snapshot.check = .ok () ↔ snapshot.Valid := by
  rw [check]
  constructor
  · intro accepted
    split at accepted
    · cases accepted
    · split at accepted
      · cases accepted
      · split at accepted
        · cases accepted
        · split at accepted
          · cases accepted
          · rename_i version cpu pc memory
            split at accepted
            · cases accepted
            · rename_i registers
              split at accepted
              · cases accepted
              · rename_i stack
                exact ⟨by simpa using version, by simpa using cpu, by omega, by omega,
                  (wideRegister?_eq_none_iff _).mp registers, (wideWord?_eq_none_iff _ _).mp stack⟩
  · intro valid
    have pc := valid.pc_lt
    have memory := valid.memory_le
    rw [if_neg (not_not_intro valid.version_eq), if_neg (not_not_intro valid.cpu_eq),
      if_neg (by omega), if_neg (by omega), (wideRegister?_eq_none_iff _).mpr valid.registers_le,
      (wideWord?_eq_none_iff _ _).mpr valid.stack_le]

/-! ## Restoring -/

/-- A snapshot is refused and changes nothing, or it is valid and decides the whole state of the
    machine; that memory does not take its words cannot happen. -/
theorem restore_cases (snapshot : Snapshot) (machine : Machine) :
    (∃ error, snapshot.check = .error error ∧
      snapshot.restore machine = (.error (.rejected error), machine)) ∨
    ∃ store, snapshot.Valid ∧ machine.store.reset.load snapshot.memoryWords = .ok store ∧
      snapshot.restore machine =
        (.ok (), ⟨snapshot.pc, snapshot.registers, .ofList snapshot.stackWords, store,
          snapshot.pendingBytes, false, false, snapshot.count⟩) := by
  cases checked : snapshot.check with
  | error error => exact .inl ⟨error, rfl, by rw [restore, checked]⟩
  | ok _ =>
    have valid := (check_eq_ok_iff snapshot).mp checked
    have loaded := Store.load_eq_ok machine.store.reset valid.memory_le
    refine .inr ⟨_, valid, loaded, ?_⟩
    have cleared : machine.reset.store = machine.store.reset := rfl
    simp only [restore, checked, cleared, loaded]
    rfl

theorem restore_eq_ok_iff (snapshot : Snapshot) (machine : Machine) :
    (snapshot.restore machine).1 = .ok () ↔ snapshot.check = .ok () := by
  rcases snapshot.restore_cases machine with ⟨error, refused, rejected⟩ | ⟨_, valid, _, restored⟩
  · simp [refused, rejected]
  · simp [restored, (check_eq_ok_iff snapshot).mpr valid]

theorem restore_wellFormed (snapshot : Snapshot) {machine : Machine}
    (wellFormed : machine.WellFormed) : (snapshot.restore machine).2.WellFormed := by
  rcases snapshot.restore_cases machine with ⟨_, _, refused⟩ | ⟨store, valid, loaded, restored⟩
  · rw [refused]
    exact wellFormed
  · rw [restored]
    have cleared : machine.store.reset.WellFormed := by
      rw [Store.reset_eq_empty wellFormed.store]
      exact Store.empty_wellFormed
    refine ⟨valid.registers_le, ?_, Nat.le_of_lt valid.pc_lt, Store.load_wellFormed cleared loaded⟩
    intro word member
    exact valid.stack_le word (by simpa [Stack.ofList] using member)

/-! ## The snapshot of a machine -/

theorem getD_presentIf {α : Type} (list : List α) : (presentIf list).getD [] = list := by
  cases list <;> rfl

theorem stackWords_take (machine : Machine) : (take machine).stackWords = machine.stack.toList :=
  getD_presentIf _

theorem memoryWords_take (machine : Machine) : (take machine).memoryWords = machine.store.words :=
  getD_presentIf _

theorem pendingBytes_take (machine : Machine) : (take machine).pendingBytes = machine.pending :=
  getD_presentIf _

theorem valid_take {machine : Machine} (wellFormed : machine.WellFormed)
    (inside : machine.pc.toNat < addressSpace) : (take machine).Valid where
  version_eq := rfl
  cpu_eq := rfl
  pc_lt := inside
  memory_le := by
    rw [memoryWords_take, Store.length_words wellFormed.store]
    exact wellFormed.store.extent_le
  registers_le := wellFormed.registers_le
  stack_le := by
    rw [stackWords_take]
    intro word member
    exact wellFormed.stack_le word (Array.mem_toList_iff.mp member)

/-- A machine past the end of memory cannot be restored, however it came there. -/
theorem check_take_outside {machine : Machine} (outside : addressSpace ≤ machine.pc.toNat) :
    (take machine).check = .error (.pcOutside machine.pc) := by
  have version : (take machine).version = currentVersion := rfl
  have cpu : (take machine).cpu = machineName := rfl
  rw [check, if_neg (not_not_intro version), if_neg (not_not_intro cpu)]
  exact if_pos outside

/-- The snapshot of a machine within its bounds is accepted, unless the machine is past the end of
    memory. -/
theorem check_take {machine : Machine} (wellFormed : machine.WellFormed) :
    (take machine).check =
      if machine.pc.toNat = addressSpace then .error (.pcOutside machine.pc) else .ok () := by
  by_cases outside : machine.pc.toNat = addressSpace
  · rw [if_pos outside, check_take_outside (Nat.le_of_eq outside.symm)]
  · have inside := Nat.lt_of_le_of_ne wellFormed.pc_le outside
    rw [if_neg outside, (check_eq_ok_iff _).mpr (valid_take wellFormed inside)]

/-- The snapshot of a machine, restored into any other, gives the machine back without its
    flags. -/
theorem restore_take {machine other : Machine} (wellFormed : machine.WellFormed)
    (otherWellFormed : other.WellFormed) (inside : machine.pc.toNat < addressSpace) :
    (take machine).restore other =
      (.ok (), { machine with stopRequested := false, resuming := false }) := by
  rcases (take machine).restore_cases other with ⟨error, refused, _⟩ | ⟨store, _, loaded, restored⟩
  · rw [(check_eq_ok_iff _).mpr (valid_take wellFormed inside)] at refused
    cases refused
  · have same : store = machine.store := by
      rw [memoryWords_take, Store.reset_eq_empty otherWellFormed.store,
        Store.load_words wellFormed.store Store.empty_wellFormed] at loaded
      exact (Except.ok.inj loaded).symm
    rw [restored, same, stackWords_take, pendingBytes_take]
    simp only [Stack.ofList, Stack.toList, Array.toArray_toList, take]

end WordMachine.Snapshot
