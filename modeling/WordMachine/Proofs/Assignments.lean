import WordMachine.Proofs.Conditions
import WordMachine.Proofs.Patches
import WordMachine.Proofs.ProgramFiles
import WordMachine.Proofs.SavedStates

/-!
Registers set by name. A name stands for the program counter or for a general register, whether it
is read or set (`Machine.register?_of_named`, `Machine.setRegister?_eq_some_iff`). What was set
reads as it was set, but that addresses wrap at the end of memory. Of several assignments to one
register the last counts (`CommandLine.Plan.assign_last`). The machine that a command line starts
has the registers it was asked for (`register_reads_as_set`).
-/

namespace WordMachine

/-! ## Names -/

/-- What can be set by name. -/
inductive Settable where
  | counter
  | general (index : Fin registerCount)
deriving DecidableEq

namespace Settable

/-- The names of what can be set, in either case. Only those of general registers may have white
    space around them. -/
def Named (cs : List Char) : Settable → Prop
  | counter => Text.upper cs = "PC".toList
  | general index => Text.upper (Text.trim cs) = (Registers.name index).toList

instance Named.decidable (cs : List Char) : (target : Settable) → Decidable (target.Named cs)
  | counter => inferInstanceAs (Decidable (_ = _))
  | general _ => inferInstanceAs (Decidable (_ = _))

/-- The values it can be set to. -/
def Takes (value : UInt64) : Settable → Prop
  | counter => True
  | general _ => value ≤ 32767

instance Takes.decidable (value : UInt64) : (target : Settable) → Decidable (target.Takes value)
  | counter => inferInstanceAs (Decidable True)
  | general _ => inferInstanceAs (Decidable (_ ≤ _))

/-- What it holds once it was set. -/
def stored (value : UInt64) : Settable → UInt64
  | counter => value % 32768
  | general _ => value

end Settable

theorem Registers.name_injective : ∀ index other, name index = name other → index = other := by
  decide

theorem Registers.named?_eq_some_iff {text : String} {index : Fin registerCount} :
    named? text = some index ↔ Text.upper (Text.trim text.toList) = (name index).toList := by
  constructor
  · intro found
    have same := List.find?_some found
    rw [beq_iff_eq] at same
    exact same.symm
  · intro same
    have listed : (named? text).isSome := by
      rw [named?, List.find?_isSome]
      exact ⟨index, List.mem_finRange index, by rw [beq_iff_eq, same]⟩
    obtain ⟨other, found⟩ := Option.isSome_iff_exists.mp listed
    have also := List.find?_some found
    rw [beq_iff_eq, same, String.toList_inj] at also
    rw [found, name_injective other index also]

/-- The name of a general register is turned to upper case twice, to no effect. -/
theorem Registers.named?_upper_iff {cs : List Char} {index : Fin registerCount} :
    named? (String.ofList (Text.upper cs)) = some index ↔ (Settable.general index).Named cs := by
  have ascii := Subject.ascii_registerName (Subject.name_mem_registerNames index)
  rw [named?_eq_some_iff, String.toList_ofList, Text.trim_upper, Settable.Named]
  constructor
  · intro twice
    rw [← twice]
    refine (Text.upper_upper ?_).symm
    rwa [twice]
  · intro once
    have raised : ∀ index, Text.upper (name index).toList = (name index).toList := by decide
    rw [once, raised]

theorem Settable.Named.general_upper {cs : List Char} {index : Fin registerCount}
    (named : (general index).Named cs) :
    Text.upper cs ≠ "PC".toList ∧ Text.upper cs ≠ "SP".toList := by
  have trimmed : Text.trim (Text.upper cs) = (Registers.name index).toList := by
    rw [Text.trim_upper]
    exact named
  have others : ∀ index, Text.trim "PC".toList ≠ (Registers.name index).toList ∧
      Text.trim "SP".toList ≠ (Registers.name index).toList := by decide
  constructor
  · intro same
    exact (others index).1 (same ▸ trimmed)
  · intro same
    exact (others index).2 (same ▸ trimmed)

/-- A name stands for one thing at most. -/
theorem Settable.Named.unique {cs : List Char} {target other : Settable} (named : target.Named cs)
    (also : other.Named cs) : target = other := by
  cases target with
  | counter =>
    cases other with
    | counter => rfl
    | general index => exact absurd named (general_upper also).1
  | general index =>
    cases other with
    | counter => exact absurd also (general_upper named).1
    | general index' =>
      have same := String.toList_inj.mp (named.symm.trans also)
      rw [Registers.name_injective index index' same]

/-! ## One assignment -/

namespace Machine

def shown (machine : Machine) : Settable → UInt64
  | .counter => machine.pc.toUInt64
  | .general index => (machine.registers.get index).toUInt64

/-- The machine with a register set. With the program counter, the machine also forgets that it
    stands at a breakpoint. -/
def withSet (machine : Machine) (value : UInt64) : Settable → Machine
  | .counter => { machine with pc := (value % 32768).toUInt32, resuming := false }
  | .general index => { machine with registers := machine.registers.set index value.toUInt16 }

variable {machine after : Machine} {name : String} {value : UInt64} {target other : Settable}

theorem register?_of_named (machine : Machine) (named : target.Named name.toList) :
    machine.register? name = some (machine.shown target) := by
  cases target with
  | counter => exact if_pos named
  | general index =>
    obtain ⟨notCounter, notDepth⟩ := named.general_upper
    rw [register?, if_neg notCounter, if_neg notDepth, Registers.named?_upper_iff.mpr named]
    rfl

theorem setRegister?_eq_some_iff :
    machine.setRegister? name value = some after ↔
      ∃ target : Settable, target.Named name.toList ∧ target.Takes value ∧
        after = machine.withSet value target := by
  constructor
  · intro accepted
    simp only [setRegister?] at accepted
    split at accepted
    · rename_i counter
      cases accepted
      exact ⟨.counter, counter, trivial, rfl⟩
    · split at accepted
      · cases accepted
      · rename_i index found
        split at accepted
        · rename_i small
          cases accepted
          exact ⟨.general index, Registers.named?_upper_iff.mp found, small, rfl⟩
        · cases accepted
  · rintro ⟨target, named, takes, rfl⟩
    cases target with
    | counter => exact if_pos named
    | general index =>
      simp only [setRegister?]
      rw [if_neg named.general_upper.1, Registers.named?_upper_iff.mpr named]
      exact if_pos takes

theorem shown_withSet (takes : target.Takes value) :
    (machine.withSet value target).shown target = target.stored value := by
  cases target with
  | counter =>
    apply UInt64.toNat_inj.mp
    have bound : (value % 32768).toNat < 32768 := by
      rw [UInt64.toNat_mod]
      exact Nat.mod_lt _ (by decide)
    show (value % 32768).toUInt32.toUInt64.toNat = (value % 32768).toNat
    rw [UInt32.toNat_toUInt64, UInt64.toNat_toUInt32]
    omega
  | general index =>
    have bound : value.toNat ≤ 32767 := UInt64.le_iff_toNat_le.mp takes
    apply UInt64.toNat_inj.mp
    show ((machine.registers.set index value.toUInt16).get index).toUInt64.toNat = value.toNat
    rw [Registers.get_set, if_pos rfl, UInt16.toNat_toUInt64, UInt64.toNat_toUInt16]
    omega

theorem shown_withSet_of_ne (different : target ≠ other) :
    (machine.withSet value target).shown other = machine.shown other := by
  cases target with
  | counter =>
    cases other with
    | counter => exact absurd rfl different
    | general => rfl
  | general index =>
    cases other with
    | counter => rfl
    | general index' =>
      have apart : index ≠ index' := fun same => different (congrArg Settable.general same)
      simp only [withSet, shown, Registers.get_set, if_neg apart]

end Machine

/-! ## Several assignments -/

namespace CommandLine

namespace Plan

theorem assign_append {machine after : Machine} {front behind : List Assignment}
    (accepted : assign machine (front ++ behind) = .ok after) :
    ∃ between, assign machine front = .ok between ∧ assign between behind = .ok after := by
  induction front generalizing machine with
  | nil => exact ⟨machine, rfl, accepted⟩
  | cons assignment rest ih =>
    rw [List.cons_append, assign] at accepted
    split at accepted
    · cases accepted
    · rename_i next set
      obtain ⟨between, first, second⟩ := ih accepted
      refine ⟨between, ?_, second⟩
      rw [assign, set]
      exact first

theorem assign_others {machine after : Machine} {assignments : List Assignment} {target : Settable}
    (accepted : assign machine assignments = .ok after)
    (free : ∀ assignment ∈ assignments, ¬ target.Named assignment.name.toList) :
    after.shown target = machine.shown target := by
  induction assignments generalizing machine with
  | nil =>
    cases accepted
    rfl
  | cons assignment rest ih =>
    rw [assign] at accepted
    split at accepted
    · cases accepted
    · rename_i next set
      obtain ⟨other, named, takes, rfl⟩ := Machine.setRegister?_eq_some_iff.mp set
      have different : other ≠ target := fun same =>
        free assignment List.mem_cons_self (same ▸ named)
      rw [ih accepted fun later member => free later (List.mem_cons_of_mem _ member),
        Machine.shown_withSet_of_ne different]

/-- Every assignment is to something that takes its value, and the last to it counts. -/
theorem assign_last {machine after : Machine} {front behind : List Assignment}
    {assignment : Assignment}
    (accepted : assign machine (front ++ assignment :: behind) = .ok after) :
    ∃ target : Settable, target.Named assignment.name.toList ∧ target.Takes assignment.value ∧
      ((∀ later ∈ behind, ¬ target.Named later.name.toList) →
        after.register? assignment.name = some (target.stored assignment.value)) := by
  obtain ⟨between, -, rest⟩ := assign_append accepted
  rw [assign] at rest
  split at rest
  · cases rest
  · rename_i next set
    obtain ⟨target, named, takes, rfl⟩ := Machine.setRegister?_eq_some_iff.mp set
    refine ⟨target, named, takes, fun last => ?_⟩
    rw [after.register?_of_named named, assign_others rest last, Machine.shown_withSet takes]

/-- Nothing but registers and what goes with the program counter. -/
theorem assign_frame {machine after : Machine} {assignments : List Assignment}
    (accepted : assign machine assignments = .ok after) :
    after = { machine with
      pc := after.pc, registers := after.registers, resuming := after.resuming } := by
  induction assignments generalizing machine with
  | nil =>
    cases accepted
    rfl
  | cons assignment rest ih =>
    rw [assign] at accepted
    split at accepted
    · cases accepted
    · rename_i next set
      obtain ⟨target, -, -, rfl⟩ := Machine.setRegister?_eq_some_iff.mp set
      have later := ih accepted
      cases target <;> exact later

theorem readAssignment_eq_ok_iff {text : String} {assignment : Assignment} :
    readAssignment text = .ok assignment ↔ Assignment.parse text = .ok assignment := by
  unfold readAssignment
  cases Assignment.parse text <;> simp

theorem assignments_of_settings {debug : DebugSettings} {plan : Plan}
    (read : ofSettings debug = .ok plan) :
    List.Forall₂ (fun text assignment => Assignment.parse text = .ok assignment)
      debug.set plan.assignments := by
  simp only [ofSettings, bind, Except.bind] at read
  split at read
  · cases read
  split at read
  · cases read
  split at read
  · cases read
  rename_i assignments set
  split at read
  · cases read
  cases read
  simpa only [mapM_eq_ok_iff, readAssignment_eq_ok_iff] using set

/-- The assignment of a text, what stands before it, and what is read from the texts behind. -/
theorem assignments_around {front behind : List String} {text : String}
    {assignments : List Assignment}
    (texts : List.Forall₂ (fun text assignment => Assignment.parse text = .ok assignment)
      (front ++ text :: behind) assignments) :
    ∃ before assignment later, assignments = before ++ assignment :: later ∧
      Assignment.parse text = .ok assignment ∧
      ∀ other ∈ later, ∃ text ∈ behind, Assignment.parse text = .ok other := by
  induction front generalizing assignments with
  | nil =>
    obtain ⟨assignment, later, parsed, others, rfl⟩ := List.forall₂_cons_left_iff.mp texts
    refine ⟨[], assignment, later, rfl, parsed, fun other member => ?_⟩
    obtain ⟨place, inside, is⟩ := List.mem_iff_getElem.mp member
    have inside' : place < behind.length := others.length_eq ▸ inside
    have found := others.get inside' inside
    rw [List.get_eq_getElem, List.get_eq_getElem, is] at found
    exact ⟨behind[place], List.getElem_mem inside', found⟩
  | cons first rest ih =>
    obtain ⟨assignment, more, parsed, others, rfl⟩ := List.forall₂_cons_left_iff.mp texts
    obtain ⟨before, assignment', later, rfl, found⟩ := ih others
    exact ⟨assignment :: before, assignment', later, rfl, found⟩

end Plan

/-- Setting a register means what it says, addresses wrapping at the end of memory. A value that is
    accepted for a name is what the name then reads as, modulo 32768 if it is that of the program
    counter; nothing else of the machine changes, but that setting the program counter makes it
    forget a breakpoint. Refused are just the names of nothing that can be set and values above
    32767 for general registers, and then nothing changes. So the machine that a command line starts
    differs from the one loaded and patched in what was set alone, every setting was accepted, and
    the last for a register is what it reads as. -/
theorem register_reads_as_set :
    (∀ (machine : Machine) (name : String) (value : UInt64),
      let after := (machine.setRegister? name value).getD machine
      (∃ target : Settable, target.Named name.toList ∧ target.Takes value ∧
        machine.setRegister? name value = some after ∧ after = machine.withSet value target ∧
        after.register? name = some (target.stored value)) ∨
      ((∀ target : Settable, target.Named name.toList → ¬ target.Takes value) ∧
        machine.setRegister? name value = none ∧ after = machine)) ∧
    ∀ (settings : Settings) (plan : Plan) (disk : Disk) (machine : Machine),
      Plan.ofSettings settings.debug = .ok plan → prepareMachine settings plan disk = .ok machine →
      (∃ loaded, loadMachine settings disk = .ok loaded ∧
        machine = { plan.patch loaded with
          pc := machine.pc, registers := machine.registers, resuming := machine.resuming } ∧
        ∀ target : Settable,
          (∀ assignment ∈ plan.assignments, ¬ target.Named assignment.name.toList) →
            machine.shown target = (plan.patch loaded).shown target) ∧
      ∀ (front behind : List String) (text : String), settings.debug.set = front ++ text :: behind →
        ∃ (assignment : Assignment) (target : Settable), Assignment.parse text = .ok assignment ∧
          target.Named assignment.name.toList ∧ target.Takes assignment.value ∧
          ((∀ other ∈ behind, ∀ later, Assignment.parse other = .ok later →
              ¬ target.Named later.name.toList) →
            machine.register? assignment.name = some (target.stored assignment.value)) := by
  refine ⟨fun machine name value => ?_, fun settings plan disk machine read prepared => ?_⟩
  · cases accepted : machine.setRegister? name value with
    | some after =>
      obtain ⟨target, named, takes, rfl⟩ := Machine.setRegister?_eq_some_iff.mp accepted
      refine .inl ⟨target, named, takes, rfl, rfl, ?_⟩
      rw [Option.getD_some, Machine.register?_of_named _ named, Machine.shown_withSet takes]
    | none =>
      refine .inr ⟨fun target named takes => ?_, rfl, rfl⟩
      have accepts : machine.setRegister? name value = some (machine.withSet value target) :=
        Machine.setRegister?_eq_some_iff.mpr ⟨target, named, takes, rfl⟩
      rw [accepted] at accepts
      cases accepts
  · obtain ⟨loaded, found, accepted⟩ := prepareMachine_eq_ok prepared
    refine ⟨⟨loaded, found, Plan.assign_frame accepted, fun target => Plan.assign_others accepted⟩,
      ?_⟩
    intro front behind text written
    obtain ⟨before, assignment, later, assignments, parsed, others⟩ :=
      Plan.assignments_around (written ▸ Plan.assignments_of_settings read)
    rw [assignments] at accepted
    obtain ⟨target, named, takes, last⟩ := Plan.assign_last accepted
    refine ⟨assignment, target, parsed, named, takes, fun free => last fun other member => ?_⟩
    obtain ⟨text, written, read⟩ := others other member
    exact free text written other read

/-- The program counter set twice, to an address past the end of memory the second time, and a
    general register to the largest value. -/
theorem register_reads_as_set_past_memory :
    let settings : Settings := { Settings.standard with
      program := "p", debug := ⟨[], "", ["PC=7", "pc = $8001", "r3=#32767"], []⟩ }
    let plan : Plan := ⟨none, [], [⟨"PC", 7⟩, ⟨"PC", 32769⟩, ⟨"R3", 32767⟩], []⟩
    let disk : Disk := ⟨[], [([], .directory), (["p"], .file (.bytes [21, 0]))]⟩
    ∃ machine, Plan.ofSettings settings.debug = .ok plan ∧
      prepareMachine settings plan disk = .ok machine ∧
      machine.register? "PC" = some 1 ∧ machine.register? "R3" = some 32767 := by
  intro settings plan disk
  have read : Plan.ofSettings settings.debug = .ok plan := rfl
  have loaded : ∃ machine, loadMachine settings disk = .ok machine := by
    have program : disk.program settings.program = .ok [21] := by decide +kernel
    obtain ⟨machine, accepted⟩ :=
      Machine.initial.load_accepts (show [21].length ≤ addressSpace by decide)
    refine ⟨machine, ?_⟩
    rw [loadMachine, if_pos (show settings.snapshot.load = "" from rfl), Machine.loadFile, program]
    simp only [accepted]
  obtain ⟨loaded, found⟩ := loaded
  let machine := ((loaded.withSet 7 .counter).withSet 32769 .counter).withSet 32767 (.general 3)
  have prepared : prepareMachine settings plan disk = .ok machine := by
    rw [prepareMachine, found]
    rfl
  have second : Assignment.parse "pc = $8001" = .ok ⟨"PC", 32769⟩ := rfl
  have third : Assignment.parse "r3=#32767" = .ok ⟨"R3", 32767⟩ := rfl
  obtain ⟨-, reads⟩ := register_reads_as_set.2 settings plan disk machine read prepared
  refine ⟨machine, read, prepared, ?_, ?_⟩
  · obtain ⟨assignment, target, parsed, named, _, last⟩ :=
      reads ["PC=7"] ["r3=#32767"] "pc = $8001" rfl
    cases second.symm.trans parsed
    obtain rfl : target = .counter := named.unique (by decide +kernel)
    refine last fun other member later read => ?_
    rw [List.mem_singleton.mp member] at read
    cases third.symm.trans read
    decide +kernel
  · obtain ⟨assignment, target, parsed, named, _, last⟩ :=
      reads ["PC=7", "pc = $8001"] [] "r3=#32767" rfl
    cases third.symm.trans parsed
    obtain rfl : target = .general 3 := named.unique (by decide +kernel)
    exact last fun other member => absurd member List.not_mem_nil

end CommandLine

/-- An address past the end of memory is accepted and read back as another. -/
theorem counter_wraps_when_set :
    ∃ after, Machine.initial.setRegister? "PC" 40000 = some after ∧
      after.register? "PC" = some 7232 ∧ after.register? "PC" ≠ some 40000 := by
  exact ⟨_, rfl, by decide +kernel, by decide +kernel⟩

end WordMachine
