import WordMachine.Proofs.Channels
import WordMachine.Proofs.Operations
import WordMachine.Terminal.Memory

/-!
When instructions fault, and with which kind. An instruction lies past the end of memory, is no
operation's, is cut off by the end of memory, or can be read whole (`fetch_cases`). One that is
read whole and has an operand that its role does not admit faults for the first such operand and
for nothing else (`first_misfit_decides`). With operands that fit, only an empty stack, a
remainder by zero, a call at the very end of memory and the terminal are left to give rise to a
fault (`raises_exactly`).
-/

namespace WordMachine

namespace Opcode

theorem ofWord?_eq_none_iff (word : UInt16) : ofWord? word = none ↔ count ≤ word.toNat :=
  List.getElem?_eq_none_iff

theorem code_of_ofWord? {word : UInt16} {op : Opcode} (known : ofWord? word = some op) :
    word = op.code := by
  have table : ∀ place : Fin all.length, all[place].code.toNat = place.val := by decide
  obtain ⟨inside, is⟩ := List.getElem?_eq_some_iff.mp known
  apply UInt16.toNat_inj.mp
  rw [← is]
  exact (table ⟨word.toNat, inside⟩).symm

theorem code_lt (op : Opcode) : op.code.toNat < count := by
  cases op <;> decide

theorem code_injective {op other : Opcode} (same : op.code = other.code) : op = other := by
  have known := ofWord?_code op
  rw [same, ofWord?_code] at known
  exact (Option.some.inj known).symm

end Opcode

theorem Stack.toList_eq_nil_iff (stack : Stack) : stack.toList = [] ↔ stack.top? = none := by
  simp [toList, top?]

namespace Machine

variable {τ : Type} [Channel τ]

/-- The instruction at the program counter faults, with this kind of fault. -/
def Raises (machine : Machine) (console : Option τ) (kind : FaultKind) : Prop :=
  ∃ fault, (machine.step console).1 = .faulted fault ∧ fault.kind? = some kind

theorem raises_of_faulted {machine : Machine} {console : Option τ} {fault : Fault}
    {kind : FaultKind}
    (faulted : (machine.step console).1 = .faulted fault) (is : fault.kind? = some kind)
    (other : FaultKind) : machine.Raises console other ↔ other = kind := by
  constructor
  · rintro ⟨same, raised, otherwise⟩
    rw [faulted] at raised
    cases raised
    exact Option.some.inj (otherwise.symm.trans is)
  · rintro rfl
    exact ⟨fault, faulted, is⟩

theorem kind?_of_step {machine : Machine} {console : Option τ} {fault : Fault}
    (faulted : (machine.step console).1 = .faulted fault) : ∃ kind, fault.kind? = some kind := by
  rcases machine.step_cases console with ⟨cause, kind, _, stepped, is⟩ |
    ⟨_, _, _, halts, _, _, _, _, _, stepped⟩
  · rw [stepped] at faulted
    cases faulted
    exact ⟨kind, is⟩
  · rw [stepped] at faulted
    cases halts <;> cases faulted

/-! ## Reading the instruction -/

theorem fetchOperands_of_inside (store : Store) (more : Nat) {instruction : Instruction} {n : Nat}
    (fetched : instruction.fetched = n)
    (inside : instruction.address.toNat + (n + more) < addressSpace) :
    ∃ result, fetchOperands store instruction more = .ok result := by
  induction more generalizing instruction n with
  | zero => exact ⟨instruction, rfl⟩
  | succ more ih =>
    have behind := toNat_following fetched (by omega)
    have within : instruction.following.toNat < addressSpace := by omega
    rw [fetchOperands_of_read more (read_of_inside store within)]
    have advanced : instruction.fetched + 1 = (n + 1 : Nat) := by rw [fetched]; rfl
    refine ih advanced ?_
    change instruction.address.toNat + (n + 1 + more) < addressSpace
    omega

theorem beyond_of_fetch_error {store : Store} {more : Nat} {instruction : Instruction} {n : Nat}
    {failure : Instruction × Cause} (fetched : instruction.fetched = n)
    (failed : fetchOperands store instruction more = .error failure) :
    addressSpace ≤ instruction.address.toNat + (n + more) := by
  by_contra short
  obtain ⟨result, succeeds⟩ := fetchOperands_of_inside store more fetched (Nat.not_le.mp short)
  rw [failed] at succeeds
  cases succeeds

theorem read_ne_code {store : Store} {address : UInt32} {word : UInt16}
    (found : store.read address = .ok word) (unknown : Opcode.count ≤ word.toNat) (op : Opcode) :
    store.read address ≠ .ok op.code := by
  rw [found]
  rintro ⟨⟩
  exact absurd unknown (Nat.not_le.mpr op.code_lt)

theorem Reads.code {machine : Machine} {op : Opcode} {instruction : Instruction}
    (reads : machine.Reads op instruction) : machine.store.read machine.pc = .ok op.code := by
  have read := reads.read
  rw [decode] at read
  split at read
  · cases read
  · rename_i word found
    obtain ⟨within, _⟩ := read_eq_ok found
    split at read
    · cases read
    · rename_i known
      obtain ⟨_, same, _⟩ := fetchOperands_eq_ok (n := 0) _ rfl within read
      have code : instruction.code = word := same
      rw [found, ← code, Opcode.code_of_ofWord? reads.operation]

/-- The four ways of reading an instruction, and what becomes of it in the first three. -/
theorem fetch_cases (machine : Machine) (console : Option τ) :
    (addressSpace ≤ machine.pc.toNat ∧ ∀ kind, machine.Raises console kind ↔ kind = .addressing) ∨
    (∃ word, machine.store.read machine.pc = .ok word ∧ Opcode.count ≤ word.toNat ∧
      ∀ kind, machine.Raises console kind ↔ kind = .invalidOpcode) ∨
    (∃ op : Opcode, machine.store.read machine.pc = .ok op.code ∧
      addressSpace ≤ machine.pc.toNat + op.arity ∧
      ∀ kind, machine.Raises console kind ↔ kind = .addressing) ∨
    ∃ op instruction, machine.Reads op instruction := by
  have unreadable {instruction : Instruction} {cause : Cause}
      (failed : machine.decode machine.pc = .error (instruction, cause)) :
      (machine.step console).1 = .faulted ⟨instruction, cause⟩ := by
    simp only [step, failed]
  by_cases inside : machine.pc.toNat < addressSpace
  · have found := read_of_inside machine.store inside
    generalize machine.store.get ⟨machine.pc.toNat, inside⟩ = word at found
    cases known : Opcode.ofWord? word with
    | none =>
      have failed : machine.decode machine.pc =
        .error (unread machine.pc, .invalidOpcode word) := by
        simp only [decode, found, known]
      exact .inr (.inl ⟨word, found, (Opcode.ofWord?_eq_none_iff word).mp known,
        raises_of_faulted (unreadable failed) rfl⟩)
    | some op =>
      have read := decode_of_read found known
      have code := Opcode.code_of_ofWord? known
      right; right
      cases fetched :
          fetchOperands machine.store { unread machine.pc with code := word } op.arity with
      | error failure =>
        obtain ⟨instruction, cause⟩ := failure
        rw [fetched] at read
        obtain ⟨_, kind⟩ := fetchOperands_eq_error _ fetched
        have beyond := beyond_of_fetch_error (n := 0) rfl fetched
        rw [Nat.zero_add] at beyond
        exact .inl ⟨op, by rw [found, code], beyond, raises_of_faulted (unreadable read) kind⟩
      | ok instruction =>
        rw [fetched] at read
        obtain ⟨_, same, _⟩ := fetchOperands_eq_ok (n := 0) _ rfl inside fetched
        have codes : instruction.code = word := same
        exact .inr ⟨op, instruction, read, by rw [codes, known]⟩
  · have failed : machine.decode machine.pc =
      .error (unread machine.pc, .readOutside machine.pc) := by
      simp only [decode, read_of_outside machine.store inside]
    exact .inl ⟨Nat.not_lt.mp inside, raises_of_faulted (unreadable failed) rfl⟩

/-! ## Instructions that were read -/

/-- An instruction that is refused faults without asking the terminal. -/
theorem Reads.step_of_error {machine : Machine} {op : Opcode} {instruction : Instruction}
    {cause : Cause}
    (reads : machine.Reads op instruction) (refused : machine.resolve instruction = .error cause)
    (console : Option τ) :
    machine.step console = (.faulted ⟨instruction, cause⟩, machine, console) := by
  simp only [step, reads.read, execute, refused]

/-- Only the two operations that ask the terminal can still fault once they were resolved. -/
theorem Reads.raises_of_resolved {machine : Machine} {op : Opcode} {instruction : Instruction}
    {action : Action} (reads : machine.Reads op instruction)
    (resolved : machine.resolve instruction = .ok action)
    {console : Option τ} {kind : FaultKind} (raises : machine.Raises console kind) :
    op = .inp ∧ kind = .inputClosed ∨ op = .out ∧ kind = .output := by
  obtain ⟨fault, faulted, is⟩ := raises
  have plain (noOutput : ∀ c, action.change ≠ .write c)
    (noInput : ∀ index, action.change ≠ .input index) :
      False := by
    rw [Resolved.step_plain ⟨reads.read, resolved⟩ noOutput noInput] at faulted
    cases halts : action.halts <;> rw [halts] at faulted <;> cases faulted
  cases acts_of_resolve reads.operation resolved with
  | inp target =>
    left
    rw [Resolved.step_input ⟨reads.read, resolved⟩] at faulted
    rcases taken : takeInput machine.pending console with ⟨answer, remaining⟩
    rw [taken] at faulted
    cases answer with
    | error cause =>
      cases faulted
      exact ⟨rfl, Option.some.inj (is.symm.trans (takeInput_error_kind taken))⟩
    | ok _ => cases faulted
  | out value =>
    right
    rw [Resolved.step_write ⟨reads.read, resolved⟩] at faulted
    rcases put : putOutput console _ with ⟨answer, remaining⟩
    rw [put] at faulted
    cases answer with
    | error cause =>
      cases faulted
      exact ⟨rfl, Option.some.inj (is.symm.trans (putOutput_error_kind put))⟩
    | ok _ => cases faulted
  | _ => exact (plain nofun nofun).elim

/-! ## Operands that do not fit -/

/-- No other hindrance is taken for an operand that does not fit. -/
theorem Refused.kind_ne {machine : Machine} {op : Opcode} {instruction : Instruction}
    {cause : Cause} (refused : machine.Refused instruction op cause) :
    cause.kind? ≠ some .operandOutOfRange ∧ cause.kind? ≠ some .invalidRegisterIndex := by
  cases refused <;> exact ⟨nofun, nofun⟩

theorem Reads.not_raises_of_fits {machine : Machine} {op : Opcode} {instruction : Instruction}
    (reads : machine.Reads op instruction) (fits : instruction.Fits op) (console : Option τ) :
    ¬ machine.Raises console .operandOutOfRange ∧
      ¬ machine.Raises console .invalidRegisterIndex := by
  have meets := machine.resolve_meets reads.operation fits
  cases resolved : machine.resolve instruction with
  | ok action =>
    rw [resolved] at meets
    constructor
    all_goals
      intro raises
      rcases reads.raises_of_resolved resolved raises with ⟨_, is⟩ | ⟨_, is⟩ <;> cases is
  | error cause =>
    rw [resolved] at meets
    obtain ⟨range, register⟩ := meets.kind_ne
    constructor
    all_goals
      rintro ⟨fault, raised, is⟩
      rw [reads.step_of_error resolved] at raised
      cases raised
      contradiction

theorem Reads.step_of_misfit {machine : Machine} {op : Opcode} {instruction : Instruction}
    (reads : machine.Reads op instruction) {role : Role} {word : UInt16}
    (found : (instruction.placed op).find? isMisfit = some (role, word)) (console : Option τ) :
    machine.step console = (.faulted ⟨instruction, objection word⟩, machine, console) :=
  reads.step_of_error (machine.resolve_of_misfit reads.operation found) console

theorem Reads.raises_of_misfit {machine : Machine} {op : Opcode} {instruction : Instruction}
    (reads : machine.Reads op instruction) {role : Role} {word : UInt16}
    (found : (instruction.placed op).find? isMisfit = some (role, word)) (console : Option τ)
    (kind : FaultKind) :
    machine.Raises console kind ↔
      kind = if 32775 < word.toNat then .operandOutOfRange else .invalidRegisterIndex := by
  have faulted : (machine.step console).1 = .faulted ⟨instruction, objection word⟩ := by
    rw [reads.step_of_misfit found]
  exact raises_of_faulted faulted (kind?_objection word) kind

/-- Operands are checked before anything else. An instruction that was read whole faults for its
    operands exactly if one of them is not admitted by its role. It then faults for the leftmost of
    these, whatever else is wrong with it and even if it would not use the operand, and the terminal
    is not asked for anything. -/
theorem first_misfit_decides {machine : Machine} {op : Opcode} {instruction : Instruction}
    (reads : machine.Reads op instruction) (console : Option τ) :
    (machine.Raises console .operandOutOfRange ∨ machine.Raises console .invalidRegisterIndex ↔
      ∃ place ∈ instruction.placed op, ¬ place.1.Admits place.2) ∧
    ∀ role word, (instruction.placed op).find? isMisfit = some (role, word) →
      machine.step console = (.faulted ⟨instruction, objection word⟩, machine, console) ∧
      ∀ kind, machine.Raises console kind ↔
        kind = if 32775 < word.toNat then .operandOutOfRange else .invalidRegisterIndex := by
  refine ⟨⟨fun raises => ?_, ?_⟩, fun role word found =>
    ⟨reads.step_of_misfit found console, reads.raises_of_misfit found console⟩⟩
  · by_contra none
    have fits : instruction.Fits op := by
      intro place member
      by_contra misfit
      exact none ⟨place, member, misfit⟩
    obtain ⟨range, register⟩ := reads.not_raises_of_fits fits console
    exact raises.elim range register
  · rintro ⟨place, member, misfit⟩
    cases found : (instruction.placed op).find? isMisfit with
    | none => exact absurd ((instruction.fits_iff op).mpr found place member) misfit
    | some first =>
      obtain ⟨role, word⟩ := first
      have raises := reads.raises_of_misfit found console
      by_cases high : 32775 < word.toNat
      · exact .inl ((raises _).mpr (if_pos high).symm)
      · exact .inr ((raises _).mpr (if_neg high).symm)

/-- A remainder by zero into a literal, of a word that is no operand: the literal is reported. -/
theorem first_misfit_decides_of_three :
    let machine : Machine :=
      { Machine.initial with
        store := (((Store.empty.put ⟨0, by decide⟩ 11).put ⟨1, by decide⟩ 5).put
          ⟨2, by decide⟩ 40000).put ⟨3, by decide⟩ 0 }
    let instruction : Instruction := ⟨0, 11, #v[5, 40000, 0], 3⟩
    let console : Option MemoryTerminal := some .empty
    machine.Reads .mod instruction ∧
      machine.step console = (.faulted ⟨instruction, .literalDestination 5⟩, machine, console) ∧
      machine.Raises console .invalidRegisterIndex := by
  intro machine instruction console
  have reads : machine.Reads .mod instruction := ⟨by decide +kernel, rfl⟩
  clear_value machine
  obtain ⟨stepped, raises⟩ := (first_misfit_decides reads console).2 .destination 5 (by decide)
  exact ⟨reads, stepped, (raises _).mpr (by decide)⟩

/-! ## Operands that fit -/

/-- What hinders an instruction whose operands fit their roles, by the kind of the fault. -/
def Hindered (machine : Machine) (instruction : Instruction) (op : Opcode) : FaultKind → Prop
  | .stackUnderflow => (op = .pop ∨ op = .ret) ∧ machine.stack.toList = []
  | .arithmetic => op = .mod ∧ machine.valueOf (instruction.operand 2) = .ok 0
  | .addressing => op = .call ∧ machine.pc.toNat = 32766
  | _ => False

theorem hindered_unique {machine : Machine} {instruction : Instruction} {op : Opcode}
    {kind other : FaultKind} (first : machine.Hindered instruction op kind)
    (second : machine.Hindered instruction op other) : kind = other := by
  cases kind <;> cases other <;> simp_all [Hindered]

/-- A machine within its bounds is hindered by what its rules refuse it for. -/
theorem Refused.hindered {machine : Machine} (wellFormed : machine.WellFormed) {op : Opcode}
    {instruction : Instruction} (reads : machine.Reads op instruction) {cause : Cause}
    (refused : machine.Refused instruction op cause) :
    ∃ kind, cause.kind? = some kind ∧ machine.Hindered instruction op kind := by
  cases refused with
  | pop empty => exact ⟨_, rfl, .inl rfl, (Stack.toList_eq_nil_iff _).mpr empty⟩
  | ret empty => exact ⟨_, rfl, .inr rfl, (Stack.toList_eq_nil_iff _).mpr empty⟩
  | mod left divisor => exact ⟨_, rfl, rfl, divisor⟩
  | rmem value outside =>
    exact absurd ((le_maxLiteral_iff _).mp (valueOf_le wellFormed value)) outside
  | wmem address outside =>
    exact absurd ((le_maxLiteral_iff _).mp (valueOf_le wellFormed address)) outside
  | call outside =>
    have behind := reads.toNat_following
    have inside := reads.decoded.inside
    have one : Opcode.call.arity = 1 := rfl
    have space : addressSpace = 32768 := rfl
    exact ⟨_, rfl, rfl, by omega⟩

theorem Acts.not_hindered {machine : Machine} {op : Opcode} {instruction : Instruction}
    {action : Action}
    (reads : machine.Reads op instruction) (acts : machine.Acts instruction op action)
    (kind : FaultKind) :
    ¬ machine.Hindered instruction op kind := by
  intro hindered
  cases kind with
  | stackUnderflow =>
    obtain ⟨is, empty⟩ := hindered
    rw [Stack.toList_eq_nil_iff] at empty
    cases acts with
    | pop _ top | ret top => exact absurd (empty.symm.trans top) nofun
    | compute roles => rcases is with rfl | rfl <;> cases roles
    | _ => rcases is with is | is <;> cases is
  | arithmetic =>
    obtain ⟨rfl, zero⟩ := hindered
    cases acts with
    | compute _ _ _ second computed =>
      obtain rfl := Except.ok.inj (second.symm.trans zero)
      cases computed
  | addressing =>
    obtain ⟨rfl, last⟩ := hindered
    cases acts with
    | compute roles => cases roles
    | call _ inside =>
      rw [reads.toNat_following, last] at inside
      exact absurd inside (by decide)
  | _ => exact hindered

/-- With operands that fit, an instruction faults for what hinders it, or else because of the
    terminal. -/
theorem Reads.raises_cases {machine : Machine} (wellFormed : machine.WellFormed) {op : Opcode}
    {instruction : Instruction} (reads : machine.Reads op instruction) (fits : instruction.Fits op)
    (console : Option τ) :
    (∀ kind, machine.Hindered instruction op kind → machine.Raises console kind) ∧
    ∀ kind, machine.Raises console kind → machine.Hindered instruction op kind ∨
      op = .inp ∧ kind = .inputClosed ∨ op = .out ∧ kind = .output := by
  have meets := machine.resolve_meets reads.operation fits
  cases resolved : machine.resolve instruction with
  | ok action =>
    rw [resolved] at meets
    exact ⟨fun kind hindered => absurd hindered (meets.not_hindered reads kind),
      fun kind raises => .inr (reads.raises_of_resolved resolved raises)⟩
  | error cause =>
    rw [resolved] at meets
    obtain ⟨actual, is, hindered⟩ := meets.hindered wellFormed reads
    have faulted : (machine.step console).1 = .faulted ⟨instruction, cause⟩ := by
      rw [reads.step_of_error resolved]
    have raises := raises_of_faulted faulted is
    constructor
    · intro kind other
      exact (raises kind).mpr (hindered_unique other hindered)
    · intro kind raised
      rw [(raises kind).mp raised]
      exact .inl hindered

/-- A hindrance is reported only once the operands were found to fit, and the terminal is blamed for
    nothing else. -/
theorem Reads.raises_iff_hindered {machine : Machine} (wellFormed : machine.WellFormed)
    {op : Opcode}
    {instruction : Instruction} (reads : machine.Reads op instruction) (console : Option τ)
    {kind : FaultKind} (other : kind ≠ .operandOutOfRange ∧ kind ≠ .invalidRegisterIndex)
    (own : kind ≠ .inputClosed ∧ kind ≠ .output) :
    machine.Raises console kind ↔ instruction.Fits op ∧ machine.Hindered instruction op kind := by
  by_cases fits : instruction.Fits op
  · obtain ⟨hinders, raises⟩ := reads.raises_cases wellFormed fits console
    refine ⟨fun raised => ⟨fits, ?_⟩, fun ⟨_, hindered⟩ => hinders kind hindered⟩
    rcases raises kind raised with hindered | ⟨_, is⟩ | ⟨_, is⟩
    · exact hindered
    · exact absurd is own.1
    · exact absurd is own.2
  · have misfit : (instruction.placed op).find? isMisfit ≠ none :=
      fun clear => fits ((instruction.fits_iff op).mpr clear)
    obtain ⟨⟨role, word⟩, found⟩ := Option.ne_none_iff_exists'.mp misfit
    rw [reads.raises_of_misfit found]
    refine ⟨fun is => ?_, fun ⟨fitting, _⟩ => absurd fitting fits⟩
    split at is
    · exact absurd is other.1
    · exact absurd is other.2

theorem raises_addressing_iff {machine : Machine} (wellFormed : machine.WellFormed)
    (console : Option τ) :
    machine.Raises console .addressing ↔
      machine.pc.toNat = addressSpace ∨
      (∃ op : Opcode, machine.store.read machine.pc = .ok op.code ∧
        addressSpace ≤ machine.pc.toNat + op.arity) ∨
      ∃ instruction, machine.Reads .call instruction ∧ machine.pc.toNat = 32766 ∧
        instruction.Fits .call := by
  have within {word : UInt16} (found : machine.store.read machine.pc = .ok word) :
      machine.pc.toNat ≠ addressSpace := by
    obtain ⟨inside, _⟩ := read_eq_ok found
    exact Nat.ne_of_lt inside
  rcases machine.fetch_cases console with ⟨outside, raises⟩ | ⟨word, found, unknown, raises⟩ |
    ⟨op, found, short, raises⟩ | ⟨op, instruction, reads⟩
  · have past : machine.pc.toNat = addressSpace := Nat.le_antisymm wellFormed.pc_le outside
    exact ⟨fun _ => .inl past, fun _ => (raises _).mpr rfl⟩
  · constructor
    · intro raised
      cases (raises _).mp raised
    · rintro (past | ⟨op, code, _⟩ | ⟨_, reads, _⟩)
      · exact absurd past (within found)
      · exact absurd code (read_ne_code found unknown op)
      · exact absurd reads.code (read_ne_code found unknown .call)
  · exact ⟨fun _ => .inr (.inl ⟨op, found, short⟩), fun _ => (raises _).mpr rfl⟩
  · rw [reads.raises_iff_hindered wellFormed console (by decide) (by decide)]
    constructor
    · rintro ⟨fits, rfl, last⟩
      exact .inr (.inr ⟨instruction, reads, last, fits⟩)
    · rintro (past | ⟨other, code, short⟩ | ⟨another, alike, last, fits⟩)
      · exact absurd past (within reads.code)
      · obtain rfl := Opcode.code_injective (Except.ok.inj (reads.code.symm.trans code))
        exact absurd reads.decoded.inside (Nat.not_lt.mpr short)
      · obtain ⟨rfl, rfl⟩ := reads.unique alike
        exact ⟨fits, rfl, last⟩

theorem raises_invalidOpcode_iff {machine : Machine} (wellFormed : machine.WellFormed)
    (console : Option τ) :
    machine.Raises console .invalidOpcode ↔
      ∃ word, machine.store.read machine.pc = .ok word ∧ Opcode.count ≤ word.toNat := by
  rcases machine.fetch_cases console with ⟨outside, raises⟩ | ⟨word, found, unknown, raises⟩ |
    ⟨op, code, short, raises⟩ | ⟨op, instruction, reads⟩
  · constructor
    · intro raised
      cases (raises _).mp raised
    · rintro ⟨word, found, _⟩
      obtain ⟨inside, _⟩ := read_eq_ok found
      exact absurd inside (Nat.not_lt.mpr outside)
  · exact ⟨fun _ => ⟨word, found, unknown⟩, fun _ => (raises _).mpr rfl⟩
  · constructor
    · intro raised
      cases (raises _).mp raised
    · rintro ⟨word, found, unknown⟩
      exact absurd code (read_ne_code found unknown op)
  · rw [reads.raises_iff_hindered wellFormed console (by decide) (by decide)]
    constructor
    · rintro ⟨_, hindered⟩
      exact hindered.elim
    · rintro ⟨word, found, unknown⟩
      exact absurd reads.code (read_ne_code found unknown op)

/-- The other kinds of fault, each exactly where it belongs. A machine within its bounds reports an
    address if its program counter has left memory, if the instruction there does not end within
    memory, or if it is a call that would return past the end, and never for an address that a
    program computes; it reports an operation if the word at the program counter is none's. An
    instruction whose operands fit their roles finds the stack empty exactly if it is to take a word
    off an empty stack, and divides by zero exactly if it is a remainder by zero; beyond that only
    `in` and `out` fault, because of the terminal. -/
theorem raises_exactly {machine : Machine} (wellFormed : machine.WellFormed) (console : Option τ) :
    (machine.Raises console .addressing ↔
      machine.pc.toNat = addressSpace ∨
      (∃ op : Opcode, machine.store.read machine.pc = .ok op.code ∧
        addressSpace ≤ machine.pc.toNat + op.arity) ∨
      ∃ instruction, machine.Reads .call instruction ∧ machine.pc.toNat = 32766 ∧
        instruction.Fits .call) ∧
    (∀ instruction, machine.Reads .rmem instruction ∨ machine.Reads .wmem instruction →
      ¬ machine.Raises console .addressing) ∧
    (machine.Raises console .invalidOpcode ↔
      ∃ word, machine.store.read machine.pc = .ok word ∧ 22 ≤ word.toNat) ∧
    ∀ op instruction, machine.Reads op instruction → instruction.Fits op →
      (machine.Raises console .stackUnderflow ↔ (op = .pop ∨ op = .ret) ∧
        machine.stack.toList = []) ∧
      (machine.Raises console .arithmetic ↔
        op = .mod ∧ machine.valueOf (instruction.operand 2) = .ok 0) ∧
      ∀ fault, (machine.step console).1 = .faulted fault → ∃ kind, fault.kind? = some kind ∧
        (kind = .addressing ∨ kind = .stackUnderflow ∨ kind = .arithmetic ∨
          op = .inp ∧ kind = .inputClosed ∨ op = .out ∧ kind = .output) := by
  refine ⟨raises_addressing_iff wellFormed console, ?_, raises_invalidOpcode_iff wellFormed console,
    ?_⟩
  · rintro instruction (reads | reads)
    all_goals
      rw [reads.raises_iff_hindered wellFormed console (by decide) (by decide)]
      rintro ⟨_, is, _⟩
      cases is
  intro op instruction reads fits
  have hindered {kind : FaultKind} (other : kind ≠ .operandOutOfRange ∧
    kind ≠ .invalidRegisterIndex)
      (own : kind ≠ .inputClosed ∧ kind ≠ .output) :
      machine.Raises console kind ↔ machine.Hindered instruction op kind := by
    rw [reads.raises_iff_hindered wellFormed console other own, and_iff_right fits]
  refine ⟨hindered (by decide) (by decide), hindered (by decide) (by decide), ?_⟩
  intro fault faulted
  obtain ⟨kind, is⟩ := kind?_of_step faulted
  refine ⟨kind, is, ?_⟩
  rcases (reads.raises_cases wellFormed fits console).2 kind ⟨fault, faulted, is⟩
    with blocked | terminal
  · cases kind with
    | addressing | stackUnderflow | arithmetic => simp
    | _ => exact blocked.elim
  · exact .inr (.inr (.inr terminal))

/-- A call in the last two words of memory, on an empty stack. -/
theorem raises_exactly_at_last_call :
    let machine : Machine :=
      { Machine.initial with
        pc := 32766
        store := (Store.empty.put ⟨32766, by decide⟩ 17).put ⟨32767, by decide⟩ 32768 }
    let instruction : Instruction := ⟨32766, 17, #v[32768, 0, 0], 1⟩
    let console : Option MemoryTerminal := none
    machine.WellFormed ∧ machine.Reads .call instruction ∧ instruction.Fits .call ∧
      machine.Raises console .addressing ∧ ¬ machine.Raises console .stackUnderflow := by
  intro machine instruction console
  have wellFormed : machine.WellFormed :=
    ⟨initial_wellFormed.registers_le, initial_wellFormed.stack_le, by decide,
      Store.put_wellFormed (Store.put_wellFormed Store.empty_wellFormed _ _) _ _⟩
  have reads : machine.Reads .call instruction := by
    have code : machine.store.read 32766 = .ok 17 := by
      rw [Store.read_put _ _ _ (by decide), Store.read_put _ _ _ (by decide)]
      rfl
    have operand : machine.store.read (32766 + 1) = .ok 32768 := by
      rw [Store.read_put _ _ _ (by decide)]
      rfl
    exact ⟨decode_unary code rfl rfl operand, rfl⟩
  have fits : instruction.Fits .call := by decide
  obtain ⟨addressing, _, _, rest⟩ := raises_exactly wellFormed console
  refine ⟨wellFormed, reads, fits, addressing.mpr (.inr (.inr ⟨instruction, reads, rfl, fits⟩)), ?_⟩
  rw [(rest .call instruction reads fits).1]
  decide

end Machine

end WordMachine
