import WordMachine.Proofs.FaultConditions
import WordMachine.Proofs.Returns
import WordMachine.Terminal

/-!
What instructions change. From the rules of the operations follows, one component after the other,
what each of them leaves alone: `Acts.memory_kept`, `Acts.registers_kept` and so on. A terminal that
is asked for a line writes at most the echo of a prepared one (`readLine_behind`).
`step_changes_only` puts these together.
-/

namespace WordMachine

/-! ## What asking for a line writes -/

namespace Terminal

/-- The terminal behind all scripts. -/
def behind : Terminal → Terminal
  | script _ next => next.behind
  | other => other

/-- The characters that asking for a line makes a terminal write: those of the prepared line that is
    next, if its script is echoed. -/
def echo : Terminal → List Char
  | script ⟨[], _⟩ next => next.echo
  | script ⟨line :: _, true⟩ _ => Utf8.decode line
  | _ => []

theorem writeChar_behind (terminal : Terminal) (c : Char) :
    terminal.behind.writeChar c = ((terminal.writeChar c).1, (terminal.writeChar c).2.behind) := by
  induction terminal with
  | script s next ih => simpa only [behind, writeChar] using ih
  | _ => rfl

theorem writeAll_behind (text : List Char) {terminal after : Terminal}
    (taken : Script.writeAll writeChar text terminal = (.ok (), after)) :
    Script.writeAll writeChar text terminal.behind = (.ok (), after.behind) := by
  induction text generalizing terminal with
  | nil =>
    cases taken
    rfl
  | cons c rest ih =>
    have first := terminal.writeChar_behind c
    rw [Script.writeAll] at taken ⊢
    rcases written : terminal.writeChar c with ⟨answer, next⟩
    rw [written] at taken first
    cases answer with
    | error error => cases taken
    | ok _ =>
      simp only [first]
      exact ih taken

/-- The terminal behind all scripts is asked for a line, or else it is given the echo of a prepared
    line, which is empty unless the script is echoed. -/
theorem readLine_behind {terminal after : Terminal} {line : List UInt8}
    (read : terminal.readLine = (.ok line, after)) :
    terminal.echo = [] ∧ terminal.behind.readLine = (.ok line, after.behind) ∨
      Script.writeAll writeChar terminal.echo terminal.behind = (.ok (), after.behind) := by
  induction terminal generalizing after with
  | null => cases read
  | memory | stream | editor =>
    have kept : after.behind = after := by
      obtain ⟨_, rfl⟩ := Prod.mk.inj read
      rfl
    exact .inl ⟨rfl, kept.symm ▸ read⟩
  | script s next ih =>
    -- A script without lines asks the terminal behind it; one with a line left only echoes.
    obtain ⟨lines, echoed⟩ := s
    cases lines with
    | nil =>
      rcases asked : next.readLine with ⟨answer, left⟩
      simp only [readLine, Script.readLine, asked] at read
      cases read
      have answered := ih asked
      exact answered
    | cons prepared rest =>
      right
      cases echoed with
      | false =>
        cases read
        rfl
      | true =>
        rcases written : Script.writeAll writeChar (Utf8.decode prepared) next with ⟨answer, left⟩
        cases answer with
        | error error =>
          simp only [readLine, Script.readLine, if_true, written] at read
          cases read
        | ok _ =>
          simp only [readLine, Script.readLine, if_true, written] at read
          cases read
          have echoed := writeAll_behind _ written
          exact echoed

end Terminal

namespace Machine

variable {τ : Type} [Channel τ]

/-! ## What each operation leaves alone -/

section

variable {machine after : Machine} {op : Opcode} {instruction : Instruction} {action : Action}
  {console remaining : Option τ}

theorem Acts.memory_kept (acts : machine.Acts instruction op action)
    (carried : machine.CarriedOut console action after remaining) (other : op ≠ .wmem) :
    after.store = machine.store := by
  cases acts with
  | wmem => exact absurd rfl other
  | _ => cases carried <;> rfl

theorem Acts.memory_written (acts : machine.Acts instruction .wmem action)
    (carried : machine.CarriedOut console action after remaining) :
    ∃ place word, machine.valueOf (instruction.operand 0) = .ok place ∧
      machine.valueOf (instruction.operand 1) = .ok word ∧ place.toNat < addressSpace ∧
      after.store.extent = max machine.store.extent (place.toNat + 1) ∧
      ∀ cell, after.store.get cell =
        if cell.val = place.toNat then word else machine.store.get cell := by
  cases acts with
  | compute roles => cases roles
  | @wmem place word address value inside =>
    cases carried
    refine ⟨place, word, address, value, inside, rfl, fun cell => ?_⟩
    have here : ⟨place.toNat, inside⟩ = cell ↔ cell.val = place.toNat := by
      rw [Fin.ext_iff, eq_comm]
    simp only [commit, apply, Store.get_put, here]

theorem Acts.registers_kept (acts : machine.Acts instruction op action)
    (carried : machine.CarriedOut console action after remaining)
    (other : op.roles.head? ≠ some .destination) : after.registers = machine.registers := by
  cases acts with
  | set | pop | not | rmem | inp => exact absurd rfl other
  | compute roles =>
    rw [roles] at other
    exact absurd rfl other
  | _ => cases carried <;> rfl

/-- An operation whose first operand is written puts a word into that register. -/
theorem Acts.register_written (acts : machine.Acts instruction op action)
    (carried : machine.CarriedOut console action after remaining)
    (writes : op.roles.head? = some .destination) :
    ∃ index word, targetOf (instruction.operand 0) = .ok index ∧
      after.registers = machine.registers.set index word := by
  cases acts with
  | set target | pop target | not target | rmem target | compute _ target =>
    cases carried
    exact ⟨_, _, target, rfl⟩
  | inp target =>
    cases carried with
    | plain _ noInput => exact absurd rfl (noInput _)
    | held | asked => exact ⟨_, _, target, rfl⟩
  | _ => cases writes

theorem Acts.stack_kept (acts : machine.Acts instruction op action)
    (carried : machine.CarriedOut console action after remaining)
    (other : op ∉ [.push, .call, .pop, .ret]) : after.stack = machine.stack := by
  cases acts with
  | push | call | pop | ret => exact absurd (by decide) other
  | _ => cases carried <;> rfl

theorem Acts.stack_grown (acts : machine.Acts instruction op action)
    (carried : machine.CarriedOut console action after remaining) (puts : op = .push ∨ op = .call) :
    ∃ word, after.stack.toList = machine.stack.toList ++ [word] := by
  rcases puts with rfl | rfl
  all_goals
    cases acts with
    | compute roles => cases roles
    | _ =>
      cases carried
      exact ⟨_, Stack.toList_push _ _⟩

theorem Acts.stack_shrunk (acts : machine.Acts instruction op action)
    (carried : machine.CarriedOut console action after remaining) (takes : op = .pop ∨ op = .ret) :
    ∃ word, machine.stack.toList = after.stack.toList ++ [word] := by
  rcases takes with rfl | rfl
  · cases acts with
    | compute roles => cases roles
    | pop _ top =>
      cases carried
      exact ⟨_, Stack.toList_of_top? top⟩
  · cases acts with
    | compute roles => cases roles
    | ret top =>
      cases carried
      exact ⟨_, Stack.toList_of_top? top⟩

theorem Acts.pending_kept (acts : machine.Acts instruction op action)
    (carried : machine.CarriedOut console action after remaining) (other : op ≠ .inp) :
    after.pending = machine.pending := by
  cases acts with
  | inp => exact absurd rfl other
  | _ => cases carried <;> rfl

theorem Acts.silent (acts : machine.Acts instruction op action)
    (carried : machine.CarriedOut console action after remaining) (noOutput : op ≠ .out)
    (noInput : op ≠ .inp) : remaining = console := by
  cases acts with
  | out => exact absurd rfl noOutput
  | inp => exact absurd rfl noInput
  | _ =>
    cases carried
    rfl

theorem Acts.written (acts : machine.Acts instruction .out action)
    (carried : machine.CarriedOut console action after remaining) :
    ∃ word terminal left, machine.valueOf (instruction.operand 0) = .ok word ∧
      console = some terminal ∧ remaining = some left ∧
      Channel.writeChar terminal (Utf8.charOfCode word.toNat) = (.ok (), left) := by
  cases acts with
  | compute roles => cases roles
  | out value =>
    cases carried with
    | plain noOutput => exact absurd rfl (noOutput _)
    | written attached taken => exact ⟨_, _, _, value, attached, rfl, taken⟩

theorem Acts.asked (acts : machine.Acts instruction .inp action)
    (carried : machine.CarriedOut console action after remaining) :
    ∃ first, machine.pending = first :: after.pending ∧ remaining = console ∨
      machine.pending = [] ∧ ∃ terminal left, console = some terminal ∧ remaining = some left ∧
        Channel.readLine terminal = (.ok (first :: after.pending), left) := by
  cases acts with
  | compute roles => cases roles
  | inp target =>
    cases carried with
    | plain _ noInput => exact absurd rfl (noInput _)
    | held pending => exact ⟨_, .inl ⟨pending, rfl⟩⟩
    | asked pending attached read => exact ⟨_, .inr ⟨pending, _, _, attached, rfl, read⟩⟩

theorem CarriedOut.bookkeeping (carried : machine.CarriedOut console action after remaining) :
    after.stopRequested = machine.stopRequested ∧ after.resuming = machine.resuming ∧
      after.count = machine.count + 1 ∧ after.pc = action.next := by
  cases carried with
  | @plain change => cases change <;> exact ⟨rfl, rfl, rfl, rfl⟩
  | _ => exact ⟨rfl, rfl, rfl, rfl⟩

end

/-- Where the program goes on after an instruction. -/
def Leads (machine : Machine) (instruction : Instruction) (goal : Nat) : Opcode → Prop
  | .halt => goal = machine.pc.toNat
  | .jmp | .call => ∃ word, machine.valueOf (instruction.operand 0) = .ok word ∧ goal = word.toNat
  | .ret => ∃ word, machine.stack.top? = some word ∧ goal = word.toNat
  | .jt => ∃ tested word, machine.valueOf (instruction.operand 0) = .ok tested ∧
      machine.valueOf (instruction.operand 1) = .ok word ∧
      goal = if tested = 0 then machine.pc.toNat + 3 else word.toNat
  | .jf => ∃ tested word, machine.valueOf (instruction.operand 0) = .ok tested ∧
      machine.valueOf (instruction.operand 1) = .ok word ∧
      goal = if tested = 0 then word.toNat else machine.pc.toNat + 3
  | op => goal = machine.pc.toNat + op.arity + 1

theorem Reads.leads {machine : Machine} {op : Opcode} {instruction : Instruction} {action : Action}
    (reads : machine.Reads op instruction) (acts : machine.Acts instruction op action) :
    machine.Leads instruction action.next.toNat op := by
  have behind := reads.toNat_following
  cases acts with
  | halt => exact congrArg UInt32.toNat reads.decoded.address_eq
  | jmp value | call value => exact ⟨_, value, UInt16.toNat_toUInt32 _⟩
  | ret top => exact ⟨_, top, UInt16.toNat_toUInt32 _⟩
  | jt tested value | jf tested value =>
    refine ⟨_, _, tested, value, ?_⟩
    change UInt32.toNat (if _ then _ else _) = _
    rw [apply_ite UInt32.toNat, UInt16.toNat_toUInt32, behind]
    rfl
  | compute roles =>
    cases op with
    | eq | gt | add | mult | mod | and | or => exact behind
    | _ => cases roles
  | _ => exact behind

/-! ## The whole step -/

/-- What an instruction may change, one component after the other. -/
structure Effect (op : Opcode) (instruction : Instruction) (before : Machine) (console : Option τ)
    (after : Machine) (remaining : Option τ) : Prop where
  memory_kept : op ≠ .wmem → after.store = before.store
  memory_written : op = .wmem → ∃ place word, before.valueOf (instruction.operand 0) = .ok place ∧
    before.valueOf (instruction.operand 1) = .ok word ∧ place.toNat < addressSpace ∧
    after.store.extent = max before.store.extent (place.toNat + 1) ∧
    ∀ cell, after.store.get cell = if cell.val = place.toNat then word else before.store.get cell
  registers_kept : op.roles.head? ≠ some .destination → after.registers = before.registers
  register_written : op.roles.head? = some .destination → ∃ index : Fin registerCount,
    (instruction.operand 0).toNat = 32768 + index.val ∧
    ∀ other, other ≠ index → after.registers.get other = before.registers.get other
  stack_kept : op ∉ [.push, .call, .pop, .ret] → after.stack = before.stack
  stack_grown : op = .push ∨ op = .call → ∃ word, after.stack.toList = before.stack.toList ++ [word]
  stack_shrunk : op = .pop ∨ op = .ret → ∃ word, before.stack.toList = after.stack.toList ++ [word]
  pending_kept : op ≠ .inp → after.pending = before.pending
  silent : op ≠ .out → op ≠ .inp → remaining = console
  /-- `out` writes one character. -/
  written : op = .out → ∃ word terminal left, before.valueOf (instruction.operand 0) = .ok word ∧
    console = some terminal ∧ remaining = some left ∧
    Channel.writeChar terminal (Utf8.charOfCode word.toNat) = (.ok (), left)
  /-- `in` takes one character, and asks for a line if there is none. -/
  asked : op = .inp → ∃ first, before.pending = first :: after.pending ∧ remaining = console ∨
    before.pending = [] ∧ ∃ terminal left, console = some terminal ∧ remaining = some left ∧
      Channel.readLine terminal = (.ok (first :: after.pending), left)
  flags_kept : after.stopRequested = before.stopRequested ∧ after.resuming = before.resuming
  counted : after.count = before.count + 1
  leads : before.Leads instruction after.pc.toNat op

theorem Reads.effect {machine after : Machine} {op : Opcode} {instruction : Instruction}
    {action : Action} {console remaining : Option τ} (reads : machine.Reads op instruction)
    (acts : machine.Acts instruction op action)
    (carried : machine.CarriedOut console action after remaining) :
    Effect op instruction machine console after remaining := by
  obtain ⟨stopRequested, resuming, count, pc⟩ := carried.bookkeeping
  exact {
    memory_kept := acts.memory_kept carried
    memory_written := by
      rintro rfl
      exact acts.memory_written carried
    registers_kept := acts.registers_kept carried
    register_written := by
      intro writes
      obtain ⟨index, word, target, set⟩ := acts.register_written carried writes
      refine ⟨index, toNat_of_targetOf target, fun other apart => ?_⟩
      rw [set, Registers.get_set, if_neg (Ne.symm apart)]
    stack_kept := acts.stack_kept carried
    stack_grown := acts.stack_grown carried
    stack_shrunk := acts.stack_shrunk carried
    pending_kept := acts.pending_kept carried
    silent := acts.silent carried
    written := by
      rintro rfl
      exact acts.written carried
    asked := by
      rintro rfl
      exact acts.asked carried
    flags_kept := ⟨stopRequested, resuming⟩
    counted := count
    leads := pc ▸ reads.leads acts }

/-- A step that does not fault changes what its operation may change and nothing else. It asks the
    terminal for nothing but the one character of `out` or the one line of `in`, and all that asking
    for a line writes is the echo of a prepared line. -/
theorem step_changes_only {machine : Machine} {console : Option τ}
    (executed : ∀ fault, (machine.step console).1 ≠ .faulted fault) :
    (∃ op instruction, machine.Reads op instruction ∧
      Effect op instruction machine console (machine.step console).2.1 (machine.step console).2.2) ∧
    ∀ (terminal after : Terminal) (line : List UInt8), terminal.readLine = (.ok line, after) →
      terminal.echo = [] ∧ terminal.behind.readLine = (.ok line, after.behind) ∨
        Script.writeAll Terminal.writeChar terminal.echo terminal.behind =
          (.ok (), after.behind) := by
  refine ⟨?_, fun _ _ _ => Terminal.readLine_behind⟩
  obtain ⟨op, instruction, action, after, remaining, reads, acts, carried, stepped⟩ :=
    step_carriedOut executed
  rw [stepped]
  exact ⟨op, instruction, reads, reads.effect acts carried⟩

/-- An instruction that puts 9 over its own operation. -/
theorem step_changes_only_over_itself :
    let machine : Machine :=
      { Machine.initial with
        store := ((Store.empty.put ⟨0, by decide⟩ 16).put ⟨1, by decide⟩ 0).put ⟨2, by decide⟩ 9 }
    let console : Option MemoryTerminal := none
    let after := (machine.step console).2.1
    (∀ fault, (machine.step console).1 ≠ .faulted fault) ∧ after.store.get ⟨0, by decide⟩ = 9 ∧
      after.store.get ⟨1, by decide⟩ = 0 ∧ after.store.extent = 3 ∧
        after.registers = machine.registers ∧
      after.pc.toNat = 3 := by
  intro machine console after
  have ends : (machine.step console).1.ending? = none := by decide +kernel
  have reads : machine.Reads .wmem ⟨0, 16, #v[0, 9, 0], 2⟩ := ⟨by decide +kernel, rfl⟩
  have extent : machine.store.extent = 3 := rfl
  have operand : machine.store.get ⟨1, by decide⟩ = 0 := by decide +kernel
  have start : machine.pc.toNat = 0 := rfl
  have executed : ∀ fault, (machine.step console).1 ≠ .faulted fault := by
    intro fault faulted
    rw [faulted] at ends
    cases ends
  obtain ⟨⟨op, instruction, found, effect⟩, _⟩ := step_changes_only executed
  obtain ⟨rfl, rfl⟩ := found.unique reads
  obtain ⟨place, word, address, value, _, grown, stored⟩ := effect.memory_written rfl
  obtain rfl : 0 = place := Except.ok.inj address
  obtain rfl : 9 = word := Except.ok.inj value
  refine ⟨executed, stored _, (stored _).trans operand, grown.trans (by rw [extent]; rfl),
    effect.registers_kept nofun, effect.leads.trans (by rw [start]; rfl)⟩

end Machine

end WordMachine
