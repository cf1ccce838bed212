import WordMachine.Proofs.Runs
import WordMachine.Proofs.Streams

/-!
Input that arrives late. A step does not depend on lines that it does not read
(`longer_simulates`), and the only instruction that can find the queue empty is one that
takes input, which then faults and changes nothing. So it does not matter whether lines are
queued before a run or after the run has faulted for want of them (`run_with_late_input`).
-/

namespace WordMachine

/-- The same terminal with more lines behind its own, none of which is empty. -/
def Longer (more : List (List UInt8)) (short long : MemoryTerminal) : Prop :=
  (∀ line ∈ short.lines, line ≠ []) ∧ long = ⟨short.lines ++ more, short.output⟩

theorem longer_simulates (more : List (List UInt8)) :
    Simulates (Longer more) fun short => short.lines = [] where
  write := by
    rintro short _ c ⟨filled, rfl⟩
    exact ⟨rfl, filled, rfl⟩
  read := by
    rintro ⟨lines, output⟩ _ ⟨filled, rfl⟩
    cases lines with
    | nil => exact .inl rfl
    | cons line rest =>
      exact .inr ⟨rfl, fun other member => filled other (List.mem_cons_of_mem line member), rfl⟩

/-- Only a fault ends a program in a fault. -/
theorem Outcome.eq_faulted {outcome : Outcome} {fault : Fault}
    (ends : outcome.ending? = some (.faulted fault)) : outcome = .faulted fault := by
  cases outcome with
  | faulted own =>
    cases ends
    rfl
  | _ => cases ends

namespace Machine

/-- An instruction that takes input faults on an empty queue. -/
theorem step_of_asking {machine : Machine} (asking : machine.Asking) (output : Array UInt8) :
    ∃ instruction, machine.step (some (⟨[], output⟩ : MemoryTerminal)) =
      (.faulted ⟨instruction, .inputEnded⟩, machine, some ⟨[], output⟩) := by
  obtain ⟨empty, instruction, index, next, halts, resolved⟩ := asking
  refine ⟨instruction, ?_⟩
  rw [resolved.step_input, empty]
  rfl

/-- No other instruction reports that input has ended, and on a queue with lines that one does not
    either. -/
theorem asking_of_closed {machine after : Machine} {terminal : MemoryTerminal}
    {remaining : Option MemoryTerminal} {fault : Fault}
    (filled : ∀ line ∈ terminal.lines, line ≠ [])
    (faulted : machine.step (some terminal) = (.faulted fault, after, remaining))
    (closed : fault.kind? = some .inputClosed) : machine.Asking ∧ terminal.lines = [] := by
  have noCompletion (halts : Bool) (event : StepEvent) :
    Outcome.completed halts event ≠ .faulted fault := by
    cases halts <;> exact nofun
  rcases machine.faulted_or_resolved with ⟨own, ⟨kind, is, notInput, _⟩, faults⟩ |
    ⟨instruction, change, next, halts, resolved⟩
  · rw [faults] at faulted
    cases faulted
    exact absurd (Option.some.inj (is.symm.trans closed)) notInput
  · cases change with
    | write c =>
      rw [resolved.step_write] at faulted
      exact absurd (congrArg Prod.fst faulted) (noCompletion _ _)
    | input index =>
      rw [resolved.step_input] at faulted
      obtain ⟨lines, output⟩ := terminal
      cases pending : machine.pending with
      | cons first rest =>
        rw [pending] at faulted
        exact absurd (congrArg Prod.fst faulted) (noCompletion _ _)
      | nil =>
        rcases lines with _ | ⟨_ | ⟨first, line⟩, rest⟩
        · exact ⟨⟨pending, _, _, _, _, resolved⟩, rfl⟩
        · exact absurd rfl (filled [] (by simp))
        · rw [pending] at faulted
          exact absurd (congrArg Prod.fst faulted) (noCompletion _ _)
    | _ =>
      rw [resolved.step_plain nofun nofun] at faulted
      exact absurd (congrArg Prod.fst faulted) (noCompletion _ _)

end Machine

namespace Session

variable {τ ω : Type} [Channel τ] (notify : Notice → ω → ω)

/-! ## Undisturbed runs -/

/-- A round of a run without breakpoints or stop requests is one instruction. -/
theorem runFrom_instruction (fuel done : Nat) {machine after : Machine}
    {console remaining : Option τ} {outcome : Outcome} (quiet : machine.stopRequested = false)
    (stepped : machine.step console = (outcome, after, remaining)) (observer : ω) :
    (⟨machine, console, none, observer⟩ : Session τ ω).runFrom notify (fun _ => false)
        (fuel + 1) done =
      match outcome.ending? with
      | some ending => (some ending, ⟨after, remaining, none, notify outcome.notice observer⟩)
      | none => runFrom notify (fun _ => false) fuel (done + 1)
          ⟨after, remaining, none, notify outcome.notice observer⟩ := by
  rw [runFrom]
  simp only [quiet, arrive, step, stepped]
  cases outcome <;> rfl

/-- Runs that end the same way in the same state. Observers may have been told different things. -/
structure Alike (left right : Option Ending × Session τ ω) : Prop where
  ending : left.1 = right.1
  machine : left.2.machine = right.2.machine
  console : left.2.console = right.2.console

/-- What was done before and what observers were told has no influence on a run. -/
theorem runFrom_alike (fuel done other : Nat) (machine : Machine) (console : Option τ)
    (first second : ω) :
    Alike (runFrom notify (fun _ => false) fuel done ⟨machine, console, none, first⟩)
      (runFrom notify (fun _ => false) fuel other ⟨machine, console, none, second⟩) := by
  induction fuel generalizing done other machine console first second with
  | zero => exact ⟨rfl, rfl, rfl⟩
  | succ fuel ih =>
    cases quiet : machine.stopRequested with
    | true =>
      simp only [runFrom, quiet, if_true]
      exact ⟨rfl, rfl, rfl⟩
    | false =>
      rcases stepped : machine.step console with ⟨outcome, after, remaining⟩
      rw [runFrom_instruction notify fuel done quiet stepped,
        runFrom_instruction notify fuel other quiet stepped]
      cases outcome.ending? with
      | some ending => exact ⟨rfl, rfl, rfl⟩
      | none => exact ih _ _ _ _ _ _

/-- A run that faults for want of input, beside the run with more lines: the longer run comes to the
    same point, with those lines still queued, and has not ended there. -/
theorem runFrom_longer {more : List (List UInt8)} (fuel done : Nat) {machine : Machine}
    {short long : MemoryTerminal} (start : Longer more short long) (observer : ω) {fault : Fault}
    {after : Session MemoryTerminal ω}
    (ran : runFrom notify (fun _ => false) fuel done ⟨machine, some short, none, observer⟩ =
      (some (.faulted fault), after)) (closed : fault.kind? = some .inputClosed) :
    ∃ k < fuel, ∃ output told, after = ⟨after.machine, some ⟨[], output⟩, none, after.observer⟩ ∧
      (∀ m ≤ k, (runFrom notify (fun _ => false) m done
        ⟨machine, some long, none, observer⟩).1 = none) ∧
      ∀ n, runFrom notify (fun _ => false) (k + n) done ⟨machine, some long, none, observer⟩ =
        runFrom notify (fun _ => false) n (done + k)
          ⟨after.machine, some ⟨more, output⟩, none, told⟩ := by
  induction fuel generalizing done machine short long observer with
  | zero => cases ran
  | succ fuel ih =>
    cases quiet : machine.stopRequested with
    | true =>
      simp only [runFrom, quiet, if_true] at ran
      cases ran
    | false =>
      by_cases dry : machine.Asking ∧ short.lines = []
      · -- The short run ends here, and the long one starts over from the same machine.
        obtain ⟨lines, output⟩ := short
        obtain ⟨asking, rfl⟩ := dry
        obtain ⟨_, rfl⟩ := start
        obtain ⟨instruction, stepped⟩ := Machine.step_of_asking asking output
        rw [runFrom_instruction notify fuel done quiet stepped] at ran
        cases ran
        refine ⟨0, fuel.succ_pos, output, observer, rfl, ?_, fun n => ?_⟩
        · rintro m atMost
          rw [Nat.le_zero.mp atMost]
          rfl
        · rw [Nat.zero_add]
          rfl
      · -- Both runs carry out the same instruction, which cannot be the one that ends the
        -- short run.
        obtain ⟨outcome, next, shortAfter, longAfter, shortStep, longStep, moved⟩ :=
          (machine.step_simulates (longer_simulates more) start).resolve_left dry
        rw [runFrom_instruction notify fuel done quiet shortStep] at ran
        cases ends : outcome.ending? with
        | some ending =>
          rw [ends] at ran
          cases ran
          have faulted := Outcome.eq_faulted ends
          rw [faulted] at shortStep
          exact absurd (Machine.asking_of_closed start.1 shortStep closed) dry
        | none =>
          rw [ends] at ran
          obtain ⟨k, within, output, told, rest, unended, goesOn⟩ := ih (done + 1) moved _ ran
          have longRun (m : Nat) := runFrom_instruction notify m done quiet longStep observer
          simp only [ends] at longRun
          refine ⟨k + 1, Nat.succ_lt_succ within, output, told, rest, ?_, fun n => ?_⟩
          · intro m fits
            cases m with
            | zero => rfl
            | succ m => rw [longRun]; exact unended m (Nat.le_of_succ_le_succ fits)
          · rw [Nat.add_right_comm, longRun, goesOn, Nat.add_right_comm, Nat.add_assoc]

end Session

/-- A run that faults for want of input and is taken up again once more lines are queued, beside one
    with all the lines from the start: that one comes to the same point after `k` instructions, and
    from there on both are alike for any number of rounds. -/
theorem run_with_late_input {ω : Type} (notify : Notice → ω → ω) (machine : Machine) (observer : ω)
    (output : Array UInt8) (early late : List (List UInt8)) (fuel : Nat) {fault : Fault}
    {after : Session MemoryTerminal ω}
    (ran : Session.run notify (fun _ => false) fuel
      ⟨machine, some (early.foldl .enqueue ⟨[], output⟩), none, observer⟩ =
        (some (.faulted fault), after))
    (closed : fault.kind? = some .inputClosed) :
    ∃ k < fuel, ∃ terminal, after.console = some terminal ∧
      let whole (n : Nat) := Session.run notify (fun _ => false) n
        ⟨machine, some ((early ++ late).foldl .enqueue ⟨[], output⟩), none, observer⟩
      let resumed (n : Nat) := Session.run notify (fun _ => false) n
        { after with console := some (late.foldl .enqueue terminal) }
      (∀ n ≤ k, (whole n).1 = none) ∧ ∀ n, Session.Alike (whole (k + n)) (resumed n) := by
  have start : Longer (late.map MemoryTerminal.terminated) (early.foldl .enqueue ⟨[], output⟩)
      ((early ++ late).foldl .enqueue ⟨[], output⟩) := by
    simp only [MemoryTerminal.foldl_enqueue, List.map_append]
    refine ⟨fun line member => ?_, rfl⟩
    obtain ⟨_, _, rfl⟩ := List.mem_map.mp member
    exact MemoryTerminal.terminated_ne_nil _
  obtain ⟨k, within, left, told, rest, unended, goesOn⟩ :=
    Session.runFrom_longer notify fuel 0 start observer ran closed
  obtain ⟨last, console, debugger, heard⟩ := after
  cases rest
  refine ⟨k, within, ⟨[], left⟩, rfl, unended, fun n => ?_⟩
  simp only [Session.run, goesOn, MemoryTerminal.foldl_enqueue late, List.nil_append]
  exact Session.runFrom_alike notify n _ _ _ _ _ _

/-- A program that reads two characters and halts, with one line of nothing but a newline at first
    and another one later. -/
theorem run_with_late_input_second_line :
    let machine : Machine :=
      { Machine.initial with
        store := (((Store.empty.put ⟨0, by decide⟩ 20).put ⟨1, by decide⟩ 32768).put
          ⟨2, by decide⟩ 20).put ⟨3, by decide⟩ 32769 }
    let before : Session MemoryTerminal (List Notice) :=
      ⟨machine, some ([[]].foldl .enqueue ⟨[], #[]⟩), none, []⟩
    let paused := (before.run List.cons (fun _ => false) 2).2
    let resumed : Session MemoryTerminal (List Notice) :=
      { paused with console := some ([[]].foldl .enqueue ⟨[], #[]⟩) }
    let fault : Fault := ⟨⟨2, 20, #v[32769, 0, 0], 1⟩, .inputEnded⟩
    before.run List.cons (fun _ => false) 2 = (some (.faulted fault), paused) ∧
      fault.kind? = some .inputClosed ∧ paused.console = some ⟨[], #[]⟩ ∧
      (resumed.run List.cons (fun _ => false) 2).1 = some .halted ∧
      ∃ k < 2, Session.Alike
        (Session.run List.cons (fun _ => false) (k + 2)
          ⟨machine, some (([[]] ++ [[]]).foldl .enqueue ⟨[], #[]⟩), none, []⟩)
        (resumed.run List.cons (fun _ => false) 2) := by
  intro machine before paused resumed fault
  have ran : before.run List.cons (fun _ => false) 2 = (some (.faulted fault), paused) :=
    Prod.ext (by decide +kernel) rfl
  have used : paused.console = some ⟨[], #[]⟩ := by decide +kernel
  have halts : (resumed.run List.cons (fun _ => false) 2).1 = some .halted := by decide +kernel
  obtain ⟨k, within, terminal, left, _, alike⟩ :=
    run_with_late_input List.cons machine [] #[] [[]] [[]] 2 ran rfl
  obtain rfl : terminal = ⟨[], #[]⟩ := Option.some.inj (left.symm.trans used)
  exact ⟨ran, rfl, used, halts, k, within, alike 2⟩

end WordMachine
