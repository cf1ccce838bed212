import WordMachine.Proofs.Runs
import WordMachine.Proofs.Streams
import WordMachine.Terminal

/-!
Where the input is. The input of a terminal passes through three places: the terminal with
the scripts in front of it, the line that the machine has begun to read, and the registers
that `in` instructions fill. A line read from a terminal is taken off the front of its supply
(`readLine_supplies`), an instruction takes at most one character off the front of the rest
(`step_supplies`) and reports the end of the input only when there is no rest (`closed_iff`).
So nothing is lost, repeated or reordered in any work with the machine (`input_conserved`).
-/

namespace WordMachine

/-! ## The supply of a terminal -/

namespace Terminal

/-- All the input that a terminal still has. -/
def supply : Terminal → List UInt8
  | null => []
  | memory t => t.lines.flatten
  | stream t => StreamTerminal.completed t.input
  | editor _ => []
  | script s next => s.lines.flatten ++ next.supply

/-- Scripts in front of a terminal whose output never fails and whose input simply ends. No prepared
    line is empty: each has its newline. -/
def Steady : Terminal → Prop
  | null => True
  | memory t => ∀ line ∈ t.lines, line ≠ []
  | stream t => t.Working
  | editor _ => False
  | script s next => (∀ line ∈ s.lines, line ≠ []) ∧ next.Steady

theorem steady_enqueue (line : List UInt8) {terminal : Terminal} (steady : terminal.Steady) :
    (terminal.enqueue line).Steady := by
  induction terminal with
  | null => exact trivial
  | memory t =>
    intro queued member
    rcases List.mem_append.mp member with before | new
    · exact steady queued before
    · rw [List.mem_singleton.mp new]
      exact MemoryTerminal.terminated_ne_nil line
  | stream t => exact steady
  | editor t => exact steady
  | script s next ih => exact ⟨steady.1, ih steady.2⟩

theorem steady_scripted {bytes : List UInt8} {echo : Bool} {prepared : Script} {next : Terminal}
    (parsed : Script.parse bytes echo = .ok prepared) (steady : next.Steady) :
    (script prepared next).Steady := by
  refine ⟨fun line member => ?_, steady⟩
  simp only [Script.parse, Script.commands?] at parsed
  split at parsed
  · rename_i lines commands
    split at commands
    · cases commands
      cases parsed
      obtain ⟨text, _, rfl⟩ := List.mem_map.mp member
      exact List.concat_ne_nil newline text
    · cases commands
  · cases parsed

/-- The terminal takes a character, and its input stays as it is. -/
theorem writeChar_supplies {terminal : Terminal} (steady : terminal.Steady) (c : Char) :
    ∃ after, terminal.writeChar c = (.ok (), after) ∧ after.Steady ∧
      after.supply = terminal.supply := by
  induction terminal with
  | null => exact ⟨_, rfl, trivial, rfl⟩
  | memory t => exact ⟨_, rfl, steady, rfl⟩
  | stream t =>
    obtain ⟨after, done, works, input, _⟩ := StreamTerminal.writeChar_cases steady c
    exact ⟨stream after, by simp only [writeChar, done], works, by simp only [supply, input]⟩
  | editor t => exact steady.elim
  | script s next ih =>
    obtain ⟨after, done, works, same⟩ := ih steady.2
    exact ⟨script s after, by simp only [writeChar, done],
      ⟨steady.1, works⟩, by simp only [supply, same]⟩

/-- So does it take an echo. -/
theorem writeAll_supplies (text : List Char) {terminal : Terminal} (steady : terminal.Steady) :
    ∃ after, Script.writeAll writeChar text terminal = (.ok (), after) ∧ after.Steady ∧
      after.supply = terminal.supply := by
  induction text generalizing terminal with
  | nil => exact ⟨terminal, rfl, steady, rfl⟩
  | cons c rest ih =>
    obtain ⟨next, done, works, same⟩ := writeChar_supplies steady c
    obtain ⟨after, echoed, steadyAfter, still⟩ := ih works
    exact ⟨after, by simp only [Script.writeAll, done, echoed], steadyAfter, still.trans same⟩

/-- How the answer to a call for a line relates the supply before it to the supply after it. -/
def Supplies (answer : Except ChannelError (List UInt8)) (before after : List UInt8) : Prop :=
  answer = .error .endOfInput ∧ before = [] ∧ after = [] ∨
    ∃ first rest, answer = .ok (first :: rest) ∧ before = first :: (rest ++ after)

theorem supplies_line {line : List UInt8} (present : line ≠ []) (after : List UInt8) :
    Supplies (.ok line) (line ++ after) after := by
  cases line with
  | nil => exact absurd rfl present
  | cons first rest => exact .inr ⟨first, rest, rfl, rfl⟩

/-- A line comes off the front of the supply, and only an empty supply gives none. -/
theorem readLine_supplies {terminal : Terminal} (steady : terminal.Steady) :
    ∃ answer after, terminal.readLine = (answer, after) ∧ after.Steady ∧
      Supplies answer terminal.supply after.supply := by
  induction terminal with
  | null => exact ⟨_, _, rfl, trivial, .inl ⟨rfl, rfl, rfl⟩⟩
  | memory t =>
    obtain ⟨lines, output⟩ := t
    cases lines with
    | nil => exact ⟨_, _, rfl, steady, .inl ⟨rfl, rfl, rfl⟩⟩
    | cons line rest =>
      refine ⟨_, _, rfl, fun other member => steady other (List.mem_cons_of_mem line member), ?_⟩
      exact supplies_line (steady line List.mem_cons_self) rest.flatten
  | stream t =>
    obtain ⟨answer, after, done, works, _, ended | ⟨line, rfl, first⟩⟩ :=
      StreamTerminal.readLine_cases steady
    · obtain ⟨rfl, empty, drained⟩ := ended
      refine ⟨.error .endOfInput, stream after, by simp only [readLine, done], works, ?_⟩
      simp only [supply, empty, drained]
      exact .inl ⟨rfl, rfl, rfl⟩
    · refine ⟨.ok (line ++ [newline]), stream after, by simp only [readLine, done], works, ?_⟩
      simp only [supply, first.completed_eq]
      simpa using supplies_line (List.concat_ne_nil newline line)
        (StreamTerminal.completed after.input)
  | editor t => exact steady.elim
  | script s next ih =>
    obtain ⟨lines, echo⟩ := s
    obtain ⟨filled, steadyNext⟩ := steady
    cases lines with
    | nil =>
      obtain ⟨answer, after, done, works, supplies⟩ := ih steadyNext
      exact ⟨answer, script ⟨[], echo⟩ after, by simp only [readLine, Script.readLine, done],
        ⟨filled, works⟩, supplies⟩
    | cons line rest =>
      have filledRest : ∀ other ∈ rest, other ≠ [] :=
        fun other member => filled other (List.mem_cons_of_mem line member)
      have fromFront := supplies_line (filled line List.mem_cons_self) (rest.flatten ++ next.supply)
      -- The echo goes to the next terminal, whose supply it leaves alone.
      cases echo with
      | false =>
        refine ⟨_, _, rfl, ⟨filledRest, steadyNext⟩, ?_⟩
        simpa only [supply, List.flatten_cons, List.append_assoc] using fromFront
      | true =>
        obtain ⟨after, echoed, works, same⟩ := writeAll_supplies (Utf8.decode line) steadyNext
        refine ⟨.ok line, script ⟨rest, true⟩ after, ?_, ⟨filledRest, works⟩, ?_⟩
        · simp only [readLine, Script.readLine, echoed, if_true]
        · simpa only [supply, List.flatten_cons, List.append_assoc, same] using fromFront

end Terminal

/-! ## Instructions that take input -/

/-- The register that an `in` instruction fills, if its operand is one. -/
def Instruction.inputTarget? (instruction : Instruction) : Option (Fin registerCount) :=
  match Opcode.ofWord? instruction.code with
  | some .inp => (Machine.targetOf (instruction.operands.get 0)).toOption
  | _ => none

/-- The code that an instruction stored from the input. -/
def Notice.entered? : Notice → Option UInt16
  | stepped event => event.instruction.inputTarget?.map event.registers.get
  | faulted _ => none

/-- The codes stored from the input, in order. -/
def entered (told : List Notice) : List UInt16 :=
  told.filterMap Notice.entered?

namespace Machine

theorem Resolved.inputTarget?_eq_some {machine : Machine} {instruction : Instruction}
    {next : UInt32} {halts : Bool} {index : Fin registerCount}
    (resolved : machine.Resolved instruction (.input index) next halts) :
    instruction.inputTarget? = some index := by
  obtain ⟨op, reads, acts⟩ := resolved.acts
  cases acts with
  | inp target =>
    have first : targetOf (instruction.operands.get 0) = .ok index := target
    simp only [Instruction.inputTarget?, reads.operation, first]
    rfl

theorem resolve_of_inputTarget? (machine : Machine) {instruction : Instruction}
    {index : Fin registerCount} (takes : instruction.inputTarget? = some index) :
    machine.resolve instruction = .ok ⟨.input index, instruction.following, false⟩ := by
  rw [Instruction.inputTarget?] at takes
  split at takes
  · rename_i known
    cases target : targetOf (instruction.operands.get 0) with
    | error cause =>
      rw [target] at takes
      cases takes
    | ok register =>
      rw [target] at takes
      cases takes
      have first : targetOf (instruction.operands.get ⟨0, by decide⟩) = .ok index := target
      simp only [resolve, known, actionOf, first]
      rfl
  · cases takes

/-- Only a change that takes input belongs to an instruction that does. -/
theorem Resolved.inputTarget?_eq_none {machine : Machine} {instruction : Instruction}
    {change : Change}
    {next : UInt32} {halts : Bool} (resolved : machine.Resolved instruction change next halts)
    (noInput : ∀ index, change ≠ .input index) : instruction.inputTarget? = none := by
  cases takes : instruction.inputTarget? with
  | none => rfl
  | some index =>
    have action := resolved.action
    rw [machine.resolve_of_inputTarget? takes] at action
    cases action
    exact absurd rfl (noInput index)

/-- The next character of pending and supplied input is handed out, unless there is none. -/
theorem takeInput_supplies (pending : List UInt8) {terminal : Terminal} (steady : terminal.Steady) :
    (∃ left, takeInput pending (some terminal) = (.error .inputEnded, some left) ∧ left.Steady ∧
      pending ++ terminal.supply = [] ∧ pending ++ left.supply = []) ∨
    ∃ first rest left, takeInput pending (some terminal) = (.ok (first, rest), some left) ∧
      left.Steady ∧
      pending ++ terminal.supply = first :: (rest ++ left.supply) := by
  cases pending with
  | cons first rest => exact .inr ⟨first, rest, terminal, rfl, steady, rfl⟩
  | nil =>
    obtain ⟨answer, left, done, works, supplies⟩ := Terminal.readLine_supplies steady
    have asked : Channel.readLine terminal = (answer, left) := done
    simp only [takeInput, asked]
    rcases supplies with ⟨rfl, before, after⟩ | ⟨first, rest, rfl, before⟩
    · exact .inl ⟨left, rfl, works, before, after⟩
    · exact .inr ⟨first, rest, left, rfl, works, before⟩

/-- An instruction moves at most one character, from the front of what is left into a register. -/
theorem step_supplies (machine : Machine) {terminal : Terminal} (steady : terminal.Steady) :
    ∃ outcome after left, machine.step (some terminal) = (outcome, after, some left) ∧ left.Steady ∧
      (machine.pending ++ terminal.supply).map UInt8.toUInt16 =
        outcome.notice.entered?.toList ++ (after.pending ++ left.supply).map UInt8.toUInt16 := by
  rcases machine.faulted_or_resolved with ⟨fault, _, faulted⟩ |
    ⟨instruction, change, next, halts, resolved⟩
  · exact ⟨_, _, terminal, faulted _, steady, rfl⟩
  · cases change with
    | write c =>
      obtain ⟨left, done, works, same⟩ := Terminal.writeChar_supplies steady c
      have put : putOutput (some terminal) c = (.ok (), some left) := by
        have asked : Channel.writeChar terminal c = (.ok (), left) := done
        simp only [putOutput, asked]
      refine ⟨_, _, left, by simp only [resolved.step_write, put]; rfl, works, ?_⟩
      have plain := resolved.inputTarget?_eq_none (by simp)
      simp [Notice.entered?, eventOf, plain, same, commit]
    | input index =>
      have takes := resolved.inputTarget?_eq_some
      rcases takeInput_supplies machine.pending steady with ⟨left, taken, works, before, after⟩ |
        ⟨first, rest, left, taken, works, moved⟩
      · refine ⟨_, _, left, by simp only [resolved.step_input, taken]; rfl, works, ?_⟩
        rw [before, after]
        rfl
      · refine ⟨_, _, left, by simp only [resolved.step_input, taken]; rfl, works, ?_⟩
        rw [moved]
        simp [Notice.entered?, eventOf, takes, commit, Registers.get, Registers.set]
    | _ =>
      refine ⟨_, _, terminal, resolved.step_plain (by simp) (by simp) _, steady, ?_⟩
      have plain := resolved.inputTarget?_eq_none (by simp)
      simp [Notice.entered?, eventOf, plain, commit, apply]

/-- An `in` instruction reports the end of the input exactly when nothing is pending or supplied. -/
theorem closed_iff {machine : Machine} {instruction : Instruction} {index : Fin registerCount}
    (read : machine.decode machine.pc = .ok instruction)
    (takes : instruction.inputTarget? = some index)
    {terminal : Terminal} (steady : terminal.Steady) :
    (∃ fault, (machine.step (some terminal)).1 = .faulted fault ∧ fault.kind? = some .inputClosed) ↔
      machine.pending ++ terminal.supply = [] := by
  have resolved : machine.Resolved instruction (.input index) instruction.following false :=
    ⟨read, machine.resolve_of_inputTarget? takes⟩
  rw [resolved.step_input]
  rcases takeInput_supplies machine.pending steady with ⟨left, taken, _, before, _⟩ |
    ⟨first, rest, left, taken, _, moved⟩
  · simp only [taken, before, iff_true]
    exact ⟨_, rfl, rfl⟩
  · simp only [taken, moved]
    exact ⟨nofun, nofun⟩

end Machine

/-! ## Any work with a machine -/

theorem entered_transcribe (notice : Notice) (told : List Notice) :
    entered (transcribe notice told) = entered told ++ notice.entered?.toList := by
  cases is : notice.entered? <;> simp [entered, transcribe, is]

/-- What instructions have stored from the input, what is pending, and what the terminal still has
    make up the whole input. -/
def Accounted (whole : List UInt8) (session : Session Terminal (List Notice)) : Prop :=
  ∃ left, session.console = some left ∧ left.Steady ∧
    entered session.observer ++ (session.machine.pending ++ left.supply).map UInt8.toUInt16 =
      whole.map UInt8.toUInt16

theorem accounted_invariant (whole : List UInt8) :
    Session.Invariant transcribe (Accounted whole) where
  step := by
    rintro ⟨machine, console, debugger, told⟩ ⟨terminal, rfl, steady, accounted⟩
    obtain ⟨outcome, after, left, stepped, works, moved⟩ := machine.step_supplies steady
    simp only [Session.step, stepped]
    refine ⟨left, rfl, works, ?_⟩
    rw [← accounted, moved, entered_transcribe, List.append_assoc]
  adjust := by
    intro session pc registers stack store stopRequested resuming debugger accounted
    exact accounted

/-- No input is lost, repeated or reordered. From the moment a program is loaded, whatever is done
    with the machine, the codes that `in` instructions have stored, the pending bytes and the input
    left in the terminal are together the input that the terminal had. An `in` instruction into a
    register reports the end of the input exactly when all of it was stored. -/
theorem input_conserved (machine : Machine) (words : List UInt16) {terminal : Terminal}
    (steady : terminal.Steady) (debugger : Option Debugger) {after : Session Terminal (List Notice)}
    (worked : Relation.ReflTransGen (Session.Handled transcribe)
      ⟨(machine.load words).2, some terminal, debugger, []⟩ after) :
    ∃ left, after.console = some left ∧
      entered after.observer ++ (after.machine.pending ++ left.supply).map UInt8.toUInt16 =
        terminal.supply.map UInt8.toUInt16 ∧
      ∀ instruction index, after.machine.decode after.machine.pc = .ok instruction →
        instruction.inputTarget? = some index →
        ((∃ fault, (after.step transcribe).1 = .faulted fault ∧ fault.kind? = some .inputClosed) ↔
          entered after.observer = terminal.supply.map UInt8.toUInt16) := by
  have fresh : (machine.load words).2.pending = [] := by
    simp only [Machine.load]
    split <;> rfl
  have initially : Accounted terminal.supply
      ⟨(machine.load words).2, some terminal, debugger, []⟩ :=
    ⟨terminal, rfl, steady, by simp only [fresh]; rfl⟩
  obtain ⟨left, console, steadyLeft, accounted⟩ :=
    (accounted_invariant terminal.supply).handled worked initially
  refine ⟨left, console, accounted, fun instruction index read takes => ?_⟩
  have stepped : (after.step transcribe).1 = (after.machine.step (some left)).1 := by
    rw [Session.step, ← console]
  rw [stepped, Machine.closed_iff read takes steadyLeft, ← accounted]
  simp

/-- A program that reads for ever, on an echoed script before another one before a queued line. The
    run has stored all of it when it faults, and would fault again. -/
theorem input_conserved_through_scripts :
    let scripts : Terminal :=
      .script ⟨[[97, newline]], true⟩ (.script ⟨[[98, newline]], false⟩ (.memory .empty))
    let terminal := scripts.enqueue [99]
    let machine : Machine :=
      { Machine.initial with
        store := (((Store.empty.put ⟨0, by decide⟩ 20).put ⟨1, by decide⟩ 32768).put
          ⟨2, by decide⟩ 6).put ⟨3, by decide⟩ 0 }
    let before : Session Terminal (List Notice) := ⟨machine, some terminal, none, []⟩
    let after := (before.run transcribe (fun _ => false) 13).2
    (Machine.initial.load [20, 32768, 6, 0]).2 = machine ∧
      Script.parse [97] true = .ok ⟨[[97, newline]], true⟩ ∧
      Script.parse [98] false = .ok ⟨[[98, newline]], false⟩ ∧ terminal.Steady ∧
      entered after.observer = [97, 10, 98, 10, 99, 10] ∧
      ∃ left, after.console = some left ∧
        entered after.observer ++ (after.machine.pending ++ left.supply).map UInt8.toUInt16 =
          terminal.supply.map UInt8.toUInt16 ∧
        ∃ fault, (after.step transcribe).1 = .faulted fault ∧ fault.kind? = some .inputClosed := by
  intro scripts terminal machine before after
  have loaded : (Machine.initial.load [20, 32768, 6, 0]).2 = machine := by
    have inside (n : Nat) (small : n < 4) : n < addressSpace := Nat.lt_trans small (by decide)
    have fits : [(20 : UInt16), 32768, 6, 0].length ≤ addressSpace := by decide
    rw [Machine.load, Store.load_eq_ok _ fits,
      Store.fill_cons _ (inside 0 (by decide)), Store.fill_cons _ (inside 1 (by decide)),
      Store.fill_cons _ (inside 2 (by decide)), Store.fill_cons _ (inside 3 (by decide))]
    rfl
  have outer : Script.parse [97] true = .ok ⟨[[97, newline]], true⟩ := by decide +kernel
  have inner : Script.parse [98] false = .ok ⟨[[98, newline]], false⟩ := by decide +kernel
  have steady : terminal.Steady := Terminal.steady_enqueue [99]
    (Terminal.steady_scripted outer (Terminal.steady_scripted inner (List.forall_mem_nil _)))
  have whole : terminal.supply.map UInt8.toUInt16 = [97, 10, 98, 10, 99, 10] := by decide
  have stored : entered after.observer = [97, 10, 98, 10, 99, 10] := by decide +kernel
  have read : after.machine.decode after.machine.pc = .ok ⟨0, 20, #v[32768, 0, 0], 1⟩ := by
    decide +kernel
  have worked : Relation.ReflTransGen (Session.Handled transcribe)
      ⟨(Machine.initial.load [20, 32768, 6, 0]).2, some terminal, none, []⟩ after := by
    rw [loaded]
    exact .single (.run before (fun _ => false) 13)
  obtain ⟨left, console, accounted, closed⟩ := input_conserved _ _ steady none worked
  exact ⟨loaded, outer, inner, steady, stored, left, console, accounted,
    (closed _ ⟨0, by decide⟩ read (by decide)).mpr (stored.trans whole.symm)⟩

end WordMachine
