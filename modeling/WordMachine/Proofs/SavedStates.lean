import WordMachine.CommandLine
import WordMachine.Proofs.Resuming

/-!
The states that are saved and those that can be restored. A machine can be in one state
that the check of snapshots refuses: right past the end of memory, where a program is that
ran off its last word. Everything else that can be saved can be restored
(`restorable_unless_past_end`), also what the command line leaves behind.
-/

namespace WordMachine

namespace CommandLine

/-! ## The machine of a command line -/

theorem patch_reachable (plan : Plan) {machine : Machine} (reachable : Reachable machine) :
    Reachable (plan.patch machine) := by
  rw [Plan.patch]
  induction plan.patches generalizing machine with
  | nil => exact reachable
  | cons patch rest ih =>
    rw [List.foldl_cons]
    exact ih (reachable.operated (.writeMemory _ _ _))

theorem assign_reachable (assignments : List Assignment) {machine assigned : Machine}
    (reachable : Reachable machine) (accepted : Plan.assign machine assignments = .ok assigned) :
    Reachable assigned := by
  induction assignments generalizing machine with
  | nil =>
    cases accepted
    exact reachable
  | cons assignment rest ih =>
    rw [Plan.assign] at accepted
    split at accepted
    · cases accepted
    · rename_i after set
      have operated := Operated.setRegister machine assignment.name assignment.value
      rw [set, Option.getD_some] at operated
      exact ih (reachable.operated operated) accepted

theorem loadMachine_reachable {settings : Settings} {disk : Disk} {machine : Machine}
    (loaded : loadMachine settings disk = .ok machine) : Reachable machine := by
  rw [loadMachine] at loaded
  split at loaded
  · have operated := Operated.loadFile .initial disk settings.program
    split at loaded
    · rename_i read
      cases loaded
      rw [read] at operated
      exact .single operated
    · cases loaded
  · split at loaded
    · cases loaded
    · rename_i snapshot _
      have operated := Operated.restore .initial snapshot
      split at loaded
      · rename_i restored
        cases loaded
        rw [restored] at operated
        exact .single operated
      · cases loaded

/-- A machine that is prepared was loaded, patched and then set. -/
theorem prepareMachine_eq_ok {settings : Settings} {plan : Plan} {disk : Disk} {machine : Machine}
    (prepared : prepareMachine settings plan disk = .ok machine) :
    ∃ loaded, loadMachine settings disk = .ok loaded ∧
      Plan.assign (plan.patch loaded) plan.assignments = .ok machine := by
  cases loaded : loadMachine settings disk with
  | error error =>
    rw [prepareMachine, loaded] at prepared
    cases prepared
  | ok initial =>
    simp only [prepareMachine, loaded, bind, Except.bind] at prepared
    split at prepared
    · cases prepared
    · rename_i accepted
      cases prepared
      exact ⟨initial, rfl, accepted⟩

theorem prepareMachine_reachable {settings : Settings} {plan : Plan} {disk : Disk}
    {machine : Machine}
    (prepared : prepareMachine settings plan disk = .ok machine) : Reachable machine := by
  obtain ⟨loaded, found, accepted⟩ := prepareMachine_eq_ok prepared
  exact assign_reachable _ (patch_reachable plan (loadMachine_reachable found)) accepted

theorem runSession_reachable (fuel : Nat) {session : Session Terminal Observers}
    (reachable : Reachable session.machine) : Reachable (runSession fuel session).session.machine :=
  reachable.operated (.run session Observers.notify (fun _ => false) fuel)

end CommandLine

/-! ## What can be restored -/

theorem steps_reachable {τ : Type} [Channel τ] (n : Nat) {machine : Machine}
    (reachable : Reachable machine)
    (console : Option τ) : Reachable (machine.steps n console).2.1 := by
  induction n generalizing machine console with
  | zero => exact reachable
  | succ n ih =>
    rw [Machine.steps_of_step n rfl]
    exact ih (reachable.operated (.step machine console)) _

theorem check_take_eq_ok_iff {machine : Machine} (reachable : Reachable machine) :
    (Snapshot.take machine).check = .ok () ↔ machine.pc.toNat ≠ addressSpace := by
  rw [Snapshot.check_take reachable.wellFormed]
  split
  · rename_i outside
    simp [outside]
  · rename_i inside
    simp [inside]

/-! ## Running off the end -/

namespace Machine

theorem read_of_load {words : List UInt16} (fits : words.length ≤ addressSpace)
    {address : UInt32} (inside : address.toNat < addressSpace) :
    (initial.load words).2.store.read address = .ok ((words[address.toNat]?).getD 0) := by
  have loaded := Store.load_eq_ok initial.store fits
  rw [load, reset_eq_initial initial_wellFormed]
  simp only [loaded]
  rw [read_of_inside _ inside, Store.get_of_load Store.empty_wellFormed loaded]

theorem decode_noop {machine : Machine} {address : UInt32}
    (found : machine.store.read address = .ok 21) :
    machine.decode address = .ok ⟨address, 21, #v[0, 0, 0], 0⟩ :=
  decode_of_read found rfl

/-- The program puts `noop` into the last word of memory, jumps there and is past the end with the
    third instruction. -/
theorem steps_past_end {τ : Type} [Channel τ] (console : Option τ) :
    ∃ last after : Machine,
      ((initial.load [16, 32767, 21, 6, 32767]).2.steps 2 console).2 = (last, console) ∧
      ((initial.load [16, 32767, 21, 6, 32767]).2.steps 3 console).2 = (after, console) ∧
      (last.step console).2 = (after, console) ∧ last.pc = 32767 ∧ after.pc = 32768 := by
  have start : (initial.load [16, 32767, 21, 6, 32767]).2.pc = 0 := rfl
  have words (address : UInt32) (inside : address.toNat < addressSpace) :=
    read_of_load (show [16, 32767, 21, 6, 32767].length ≤ addressSpace by decide) inside
  generalize (initial.load [16, 32767, 21, 6, 32767]).2 = machine at start words ⊢
  have first : machine.decode machine.pc = .ok ⟨0, 16, #v[32767, 21, 0], 2⟩ := by
    rw [start, decode_of_read (words 0 (by decide)) rfl]
    exact (fetchOperands_of_read 1 (words 1 (by decide))).trans
      (fetchOperands_of_read 0 (words 2 (by decide)))
  have stored := step_of_plain console first
    (show machine.resolve _ = .ok ⟨.store ⟨32767, by decide⟩ 21, 3, false⟩ from rfl) (by simp)
    (by simp)
  have kept (address : UInt32) (inside : address.toNat < addressSpace) :=
    Store.read_put machine.store ⟨32767, by decide⟩ 21 inside
  -- What the second instruction sees of the first is its store and its place.
  generalize moved : (machine.apply (.store ⟨32767, by decide⟩ 21)).commit 3 = second at stored
  have holds : second.store = machine.store.put ⟨32767, by decide⟩ 21 := by
    rw [← moved]
    rfl
  have place : second.pc = 3 := by
    rw [← moved]
    rfl
  rw [← holds] at kept
  have next : second.decode second.pc = .ok ⟨3, 6, #v[32767, 0, 0], 1⟩ := by
    rw [place]
    exact decode_unary ((kept 3 (by decide)).trans (words 3 (by decide))) rfl rfl
      ((kept 4 (by decide)).trans (words 4 (by decide)))
  have jumped := step_of_plain console next
    (show second.resolve _ = .ok ⟨.none, 32767, false⟩ from rfl) (by simp) (by simp)
  have filled : (second.commit 32767).store.read (second.commit 32767).pc = .ok 21 :=
    (kept 32767 (by decide)).trans (if_pos rfl)
  have left := step_of_plain console (decode_noop filled)
    (show (second.commit 32767).resolve _ = .ok ⟨.none, 32768, false⟩ from rfl) (by simp) (by simp)
  exact ⟨second.commit 32767, (second.commit 32767).commit 32768,
    (steps_of_step 1 stored).trans (steps_of_step 0 jumped),
    (steps_of_step 2 stored).trans ((steps_of_step 1 jumped).trans (steps_of_step 0 left)), left,
    rfl, rfl⟩

end Machine

theorem CommandLine.prepareMachine_of_program {settings : Settings} {disk : Disk}
    {words : List UInt16} {machine : Machine} (noSnapshot : settings.snapshot.load = "")
    (read : disk.program settings.program = .ok words)
    (loaded : Machine.initial.load words = (.ok (), machine)) :
    prepareMachine settings ⟨none, [], [], []⟩ disk = .ok machine := by
  have fromFile : Machine.initial.loadFile disk settings.program = (.ok (), machine) := by
    rw [Machine.loadFile, read]
    simp only [loaded]
  rw [prepareMachine, loadMachine, if_pos noSnapshot, fromFile]
  rfl

/-- The snapshot of a machine is accepted, and can be restored into any other, unless the program
    counter of the machine is past the end of memory, for which it is refused. A step leads there
    only over an instruction that ends with the last word of memory. What a run of the command
    line leaves behind is no exception. -/
theorem restorable_unless_past_end (machine other : Machine) :
    (Reachable machine →
      ((Snapshot.take machine).check = .ok () ↔ machine.pc.toNat ≠ addressSpace) ∧
      (((Snapshot.take machine).restore other).1 = .ok () ↔ machine.pc.toNat ≠ addressSpace) ∧
      (machine.pc.toNat = addressSpace →
        (Snapshot.take machine).check = .error (.pcOutside machine.pc))) ∧
    (∀ {τ : Type} [Channel τ] (console : Option τ), Reachable machine →
      machine.pc.toNat ≠ addressSpace → (machine.step console).2.1.pc.toNat = addressSpace →
        (machine.instructionAt machine.pc).following.toNat = addressSpace) ∧
    ∀ (fuel : Nat) (settings : Settings) (plan : CommandLine.Plan) (disk : Disk)
      (console : Terminal) (observers : Observers) (finished : CommandLine.Finished),
      CommandLine.prepareMachine settings plan disk = .ok machine →
      CommandLine.runSession fuel ⟨machine, some console, plan.debugger?, observers⟩ = finished →
        ((Snapshot.take finished.session.machine).check = .ok () ↔
          finished.session.machine.pc.toNat ≠ addressSpace) := by
  refine ⟨?_, ?_, ?_⟩
  · intro reachable
    have accepted := check_take_eq_ok_iff reachable
    refine ⟨accepted, (Snapshot.restore_eq_ok_iff _ other).trans accepted, ?_⟩
    intro outside
    exact Snapshot.check_take_outside (Nat.le_of_eq outside.symm)
  · intro τ _ console reachable elsewhere outside
    have inside := Nat.lt_of_le_of_ne reachable.wellFormed.pc_le elsewhere
    exact Machine.following_of_step_outside reachable.wellFormed inside console outside
  · rintro fuel settings plan disk console observers finished prepared rfl
    have reachable := CommandLine.prepareMachine_reachable prepared
    exact check_take_eq_ok_iff (CommandLine.runSession_reachable fuel reachable)

/-- The last word of memory can be restored to, and what a run of a program file leaves behind too,
    unless it is past the end. -/
theorem restorable_at_last_word :
    let machine := (Machine.initial.load [16, 32767, 21, 6, 32767]).2
    let last := (machine.steps 2 (some MemoryTerminal.empty)).2.1
    let disk : Disk :=
      ⟨[], [([], .directory), (["p"], .file (.bytes [16, 0, 255, 127, 21, 0, 6, 0, 255, 127]))]⟩
    let settings := { Settings.standard with program := "p" }
    let plan : CommandLine.Plan := ⟨none, [], [], []⟩
    let console : Terminal := .stream (.opened [] none (.empty none))
    let finished := CommandLine.runSession 3 ⟨machine, some console, plan.debugger?,
      ⟨none, [], #[]⟩⟩
    (Snapshot.take last).check = .ok () ∧
      ((Snapshot.take last).restore machine).1 = .ok () ∧
      (last.instructionAt last.pc).following.toNat = addressSpace ∧
      CommandLine.prepareMachine settings plan disk = .ok machine ∧
      ((Snapshot.take finished.session.machine).check = .ok () ↔
        finished.session.machine.pc.toNat ≠ addressSpace) := by
  intro machine last disk settings plan console finished
  have loaded : Reachable machine := .single (.load .initial _)
  have reachable := steps_reachable 2 loaded (some MemoryTerminal.empty)
  obtain ⟨place, after, twice, _, left, here, outside⟩ :=
    Machine.steps_past_end (some MemoryTerminal.empty)
  have same : last = place := by simp only [last, machine, twice]
  have inside : last.pc.toNat ≠ addressSpace := by
    rw [same, here]
    decide
  have next : (last.step (some MemoryTerminal.empty)).2.1.pc.toNat = addressSpace := by
    rw [same, left, outside]
    rfl
  have opened : disk.source "p" = .ok ⟨[16, 0, 255, 127, 21, 0, 6, 0, 255, 127], none⟩ := rfl
  have decoded : Program.decode [16, 0, 255, 127, 21, 0, 6, 0, 255, 127] none =
      .ok [16, 32767, 21, 6, 32767] := rfl
  have read : disk.program settings.program = .ok [16, 32767, 21, 6, 32767] := by
    rw [show settings.program = "p" from rfl, Disk.program, opened]
    simp only [Option.map_none, decoded]
  have prepared : CommandLine.prepareMachine settings plan disk = .ok machine :=
    CommandLine.prepareMachine_of_program rfl read (Prod.ext rfl rfl)
  obtain ⟨taken, ends, _⟩ := restorable_unless_past_end last machine
  obtain ⟨accepted, restored, _⟩ := taken reachable
  obtain ⟨_, _, saved⟩ := restorable_unless_past_end machine machine
  exact ⟨accepted.mpr inside, restored.mpr inside,
    ends (some MemoryTerminal.empty) reachable inside next, prepared,
    saved 3 settings plan disk console _ finished prepared rfl⟩

/-- A state that a program runs into, and that cannot be restored. -/
theorem check_take_refused_past_end :
    let loaded := Machine.initial.load [16, 32767, 21, 6, 32767]
    let after := (loaded.2.steps 3 (some MemoryTerminal.empty)).2.1
    loaded.1 = .ok () ∧ after.pc = 32768 ∧
      (Snapshot.take after).check = .error (.pcOutside 32768) := by
  intro loaded after
  obtain ⟨_, past, _, thrice, _, _, place⟩ := Machine.steps_past_end (some MemoryTerminal.empty)
  have same : after = past := by simp only [after, loaded, thrice]
  have outside : after.pc = 32768 := by
    rw [same]
    exact place
  refine ⟨rfl, outside, ?_⟩
  rw [← outside]
  apply Snapshot.check_take_outside
  rw [outside]
  decide

end WordMachine
