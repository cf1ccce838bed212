import WordMachine.Proofs.Runs
import WordMachine.Terminal.Memory
import WordMachine.Trace.Log

/-!
The recorded trace. Steps wait in a buffer until they fill a batch, and a fault or the end
of the run stores what is waiting. As long as steps come with increasing numbers nothing that
waits can be refused (`storeBatch_eq_ok`), so the tables always hold a beginning of what
happened, and all of it at every fault and at the end, whatever the size of a batch
(`trace_complete`).
-/

namespace WordMachine

/-- The event of a completed instruction. -/
def Notice.event? : Notice → Option StepEvent
  | stepped event => some event
  | faulted _ => none

/-- The fault of an instruction that could not be completed. -/
def Notice.fault? : Notice → Option Fault
  | stepped _ => none
  | faulted fault => some fault

/-- The events that were emitted, in order. -/
def emitted (told : List Notice) : List StepEvent :=
  told.filterMap Notice.event?

/-- The faults that were raised, in order. -/
def raised (told : List Notice) : List Fault :=
  told.filterMap Notice.fault?

@[simp] theorem emitted_transcribe_stepped (event : StepEvent) (told : List Notice) :
    emitted (transcribe (.stepped event) told) = emitted told ++ [event] := by
  simp [emitted, transcribe, Notice.event?]

@[simp] theorem emitted_transcribe_faulted (fault : Fault) (told : List Notice) :
    emitted (transcribe (.faulted fault) told) = emitted told := by
  simp [emitted, transcribe, Notice.event?]

@[simp] theorem raised_transcribe_stepped (event : StepEvent) (told : List Notice) :
    raised (transcribe (.stepped event) told) = raised told := by
  simp [raised, transcribe, Notice.fault?]

@[simp] theorem raised_transcribe_faulted (fault : Fault) (told : List Notice) :
    raised (transcribe (.faulted fault) told) = raised told ++ [fault] := by
  simp [raised, transcribe, Notice.fault?]

/-! ## Rows of steps -/

/-- The numbers of events increase and fit the tables. -/
structure Storable (events : List StepEvent) : Prop where
  increasing : events.Pairwise fun first second => first.sequence.toNat < second.sequence.toNat
  fits : ∀ event ∈ events, event.sequence.toNat < Recorder.integerLimit

/-- The entry of an event in the table of steps. -/
def StepEvent.entry (event : StepEvent) : Nat × TraceRow :=
  (event.sequence.toNat, .ofEvent event)

/-- A key after all others is new, and its entry comes last. -/
theorem toList_insert_last {steps : Std.TreeMap Nat TraceRow} {key : Nat}
    (last : ∀ entry ∈ steps.toList, entry.1 < key) (row : TraceRow) :
    ¬ steps.contains key ∧ (steps.insert key row).toList = steps.toList ++ [(key, row)] := by
  have fresh : ¬ steps.contains key := by
    intro found
    have entry := Std.TreeMap.mem_toList_iff_getElem?_eq_some.mpr
      (Std.TreeMap.getElem?_eq_some_getElem found)
    exact Nat.lt_irrefl key (last _ entry)
  have sorted (rows : Std.TreeMap Nat TraceRow) :
      rows.toList.Pairwise fun first second => first.1 < second.1 :=
    rows.ordered_keys_toList.imp Nat.compare_eq_lt.mp
  have longer : (steps.toList ++ [(key, row)]).Pairwise fun first second => first.1 < second.1 :=
    List.pairwise_append.mpr ⟨sorted steps, List.pairwise_singleton _ _, by simpa using last⟩
  have kept : steps.toList.filter (fun entry => ¬ key == entry.1) = steps.toList := by
    apply List.filter_eq_self.mpr
    intro entry member
    simpa using Nat.ne_of_gt (last entry member)
  have same := Std.TreeMap.toList_insert_perm (t := steps) (k := key) (v := row)
  rw [kept] at same
  exact ⟨fresh, (same.trans (List.perm_append_singleton _ _).symm).eq_of_pairwise
    (fun _ _ _ _ less greater => absurd less (Nat.lt_asymm greater)) (sorted _) longer⟩

/-- Events after those that are stored can all be stored. -/
theorem storeBatch_eq_ok {steps : Std.TreeMap Nat TraceRow} {stored waiting : List StepEvent}
    (holds : steps.toList = stored.map StepEvent.entry) (storable : Storable (stored ++ waiting)) :
    ∃ after, Recorder.storeBatch steps (waiting.map .ofEvent) = .ok after ∧
      after.toList = (stored ++ waiting).map StepEvent.entry := by
  induction waiting generalizing steps stored with
  | nil => exact ⟨steps, rfl, by rw [holds, List.append_nil]⟩
  | cons event rest ih =>
    obtain ⟨_, _, before⟩ := List.pairwise_append.mp storable.increasing
    have last : ∀ entry ∈ steps.toList, entry.1 < event.sequence.toNat := by
      intro entry member
      rw [holds] at member
      obtain ⟨earlier, among, rfl⟩ := List.mem_map.mp member
      exact before earlier among event List.mem_cons_self
    obtain ⟨fresh, inserted⟩ := toList_insert_last last (.ofEvent event)
    have fits : event.sequence.toNat < Recorder.integerLimit := storable.fits event (by simp)
    have stepped : Recorder.storeStep steps (.ofEvent event) =
        .ok (steps.insert event.sequence.toNat (.ofEvent event)) := if_pos ⟨fits, fresh⟩
    rw [List.append_cons] at storable ⊢
    obtain ⟨after, stores, holdsAfter⟩ :=
      ih (by rw [inserted, holds, List.map_append]; rfl) storable
    refine ⟨after, ?_, holdsAfter⟩
    rw [List.map_cons, Recorder.storeBatch, List.foldlM_cons, stepped]
    exact stores

/-! ## One recorded run -/

/-- What is stored of a run: its program, its end if it has one, its steps and its faults. -/
structure RunRecord.Keeps (record : RunRecord) (program : String)
    (ending : Option (RunResult × UInt64))
    (events : List StepEvent) (faults : List Fault) : Prop where
  program_eq : record.program = program
  result_eq : record.result = ending.map fun ended => ended.1.name
  total_eq : record.total = ending.map Prod.snd
  steps_eq : record.steps.toList = events.map StepEvent.entry
  faults_eq : record.faults.toList = faults.map FaultRow.ofFault

namespace Recorder

theorem setIfInBounds_last (runs : Array RunRecord) (old new : RunRecord) :
    (runs.push old).setIfInBounds runs.size new = runs.push new := by
  simp [Array.setIfInBounds, Array.set_push]

theorem modify_last (runs : Array RunRecord) (old : RunRecord) (change : RunRecord → RunRecord) :
    (runs.push old).modify runs.size change = runs.push (change old) := by
  grind

/-- A recorder without buffered steps on tables that can be written. -/
structure Idle (batch : Int) (recorder : Recorder) : Prop where
  sized : recorder.batch = batchSize batch
  empty : recorder.buffered = #[]
  writable : recorder.closed = false

/-- The tables are those of another recorder and one more run. -/
def Extends (idle : Recorder) (program : String) (ending : Option (RunResult × UInt64))
    (events : List StepEvent) (faults : List Fault) (recorder : Recorder) : Prop :=
  ∃ record : RunRecord, recorder.runs = idle.runs.push record ∧
    record.Keeps program ending events faults

/-- A run is being recorded: some of its events are stored and the others are waiting. -/
def Recording (idle : Recorder) (program : String) (stored waiting : List StepEvent)
    (faults : List Fault) (recorder : Recorder) : Prop :=
  ∃ record : RunRecord, record.Keeps program none stored faults ∧
    recorder = ⟨idle.runs.push record, idle.batch, some idle.runs.size,
      (waiting.map TraceRow.ofEvent).toArray, none, false⟩

variable {idle recorder : Recorder} {program : String} {stored waiting : List StepEvent}
  {faults : List Fault}

theorem opened_idle (runs : Array RunRecord) (batch : Int) : (opened runs batch).Idle batch :=
  ⟨rfl, rfl, rfl⟩

theorem batchSize_pos (batch : Int) : 0 < batchSize batch := by
  rw [batchSize]
  split
  · decide
  · omega

theorem begin_recording {batch : Int} {begun : Recorder} (ready : idle.Idle batch)
    (begins : idle.begin program = .ok begun) : Recording idle program [] [] [] begun := by
  obtain ⟨runs, size, current, buffered, failure, closed⟩ := idle
  obtain ⟨_, rfl, rfl⟩ := ready
  cases begins
  exact ⟨_, ⟨rfl, rfl, rfl, rfl, rfl⟩, rfl⟩

theorem Recording.tables (recording : Recording idle program stored waiting faults recorder) :
    idle.Extends program none stored faults recorder := by
  obtain ⟨record, keeps, rfl⟩ := recording
  exact ⟨record, rfl, keeps⟩

/-- What waits can be stored. -/
theorem Recording.flush_eq (recording : Recording idle program stored waiting faults recorder)
    (storable : Storable (stored ++ waiting)) :
    ∃ full, recorder.flush = .ok full ∧ Recording idle program (stored ++ waiting) [] faults
      full := by
  obtain ⟨record, keeps, rfl⟩ := recording
  cases waiting with
  | nil => exact ⟨_, rfl, record, by rwa [List.append_nil], rfl⟩
  | cons event rest =>
    obtain ⟨steps, stores, holds⟩ := storeBatch_eq_ok keeps.steps_eq storable
    have found : (idle.runs.push record)[idle.runs.size]? = some record := by simp
    refine ⟨_, ?_, { record with steps }, ⟨keeps.program_eq, keeps.result_eq, keeps.total_eq, holds,
      keeps.faults_eq⟩, rfl⟩
    have filled : ((event :: rest).map TraceRow.ofEvent).toArray.isEmpty = false := rfl
    simp only [flush, filled, found, stores, setIfInBounds_last]
    rfl

/-- A step waits behind the others, and a full batch is stored. -/
theorem Recording.onStep_eq (recording : Recording idle program stored waiting faults recorder)
    (event : StepEvent) :
    ∃ longer, Recording idle program stored (waiting ++ [event]) faults longer ∧
      recorder.onStep event =
        if idle.batch ≤ (waiting ++ [event]).length then longer.flushKeeping else longer := by
  obtain ⟨record, keeps, rfl⟩ := recording
  refine ⟨_, ⟨record, keeps, rfl⟩, ?_⟩
  simp [onStep, isRecording]

theorem Recording.onStep (recording : Recording idle program stored waiting faults recorder)
    (few : waiting.length < idle.batch) {event : StepEvent}
    (storable : Storable (stored ++ (waiting ++ [event]))) :
    ∃ before after, before ++ after = stored ++ (waiting ++ [event]) ∧ after.length < idle.batch ∧
      Recording idle program before after faults (recorder.onStep event) := by
  obtain ⟨longer, waits, told⟩ := recording.onStep_eq event
  rw [told]
  by_cases full : idle.batch ≤ (waiting ++ [event]).length
  · obtain ⟨after, flushed, recorded⟩ := waits.flush_eq storable
    refine ⟨_, [], List.append_nil _, Nat.zero_lt_of_lt few, ?_⟩
    simpa only [full, if_true, flushKeeping, flushed] using recorded
  · refine ⟨stored, waiting ++ [event], rfl, Nat.lt_of_not_le full, ?_⟩
    simpa only [full, if_false] using waits

/-- The fault is stored behind the others. -/
theorem Recording.storeFault (recording : Recording idle program stored waiting faults recorder)
    (fault : Fault) :
    Recording idle program stored waiting (faults ++ [fault])
      (recorder.storeFault (.ofFault fault)) := by
  obtain ⟨record, keeps, rfl⟩ := recording
  refine ⟨{ record with faults := record.faults.push (.ofFault fault) },
    ⟨keeps.program_eq, keeps.result_eq, keeps.total_eq, keeps.steps_eq, ?_⟩, ?_⟩
  · simp [keeps.faults_eq]
  · simp [Recorder.storeFault, modify_last]

/-- Before a fault is stored, all that waits is. -/
theorem Recording.onFault_eq (recording : Recording idle program stored waiting faults recorder)
    (storable : Storable (stored ++ waiting)) :
    ∃ full, Recording idle program (stored ++ waiting) [] faults full ∧
      ∀ fault, recorder.onFault fault = full.storeFault (.ofFault fault) := by
  obtain ⟨full, flushed, recorded⟩ := recording.flush_eq storable
  refine ⟨full, recorded, fun fault => ?_⟩
  obtain ⟨record, keeps, rfl⟩ := recording
  obtain ⟨_, _, rfl⟩ := recorded
  simp [onFault, isRecording, flushKeeping, flushed]

/-- At the end of a run all that waits is stored, and then the end. -/
theorem Recording.finish_eq {batch : Int} (ready : idle.Idle batch)
    (recording : Recording idle program stored waiting faults recorder)
    (storable : Storable (stored ++ waiting)) (result : RunResult) {total : UInt64}
    (fits : total.toNat < integerLimit) :
    ∃ finished, recorder.finish result total = (.ok (), finished) ∧ finished.Idle batch ∧
      idle.Extends program (some (result, total)) (stored ++ waiting) faults finished := by
  obtain ⟨full, flushed, recorded⟩ := recording.flush_eq storable
  obtain ⟨record, keeps, rfl⟩ := recording
  obtain ⟨complete, keepsAll, rfl⟩ := recorded
  let ended : RunRecord := { complete with result := some result.name, total := some total }
  refine ⟨⟨idle.runs.push ended, idle.batch, some idle.runs.size, #[], none, false⟩, ?_,
    ⟨ready.sized, rfl, rfl⟩, ended, rfl, keepsAll.program_eq, rfl, rfl, keepsAll.steps_eq,
    keepsAll.faults_eq⟩
  simp [finish, flushKeeping, flushed, Nat.not_le.mpr fits, modify_last, ended]

end Recorder

/-! ## Numbers of events -/

namespace Machine

theorem Performed.count_eq {machine after : Machine} {change : Change}
    (performed : Performed machine change after) : after.count = machine.count := by
  cases performed with
  | input => rfl
  | plain => cases change <;> rfl

/-- A step that faults counts nothing. Any other is counted, and its event has the new count. -/
theorem step_counts {τ : Type} [Channel τ] (machine : Machine) (console : Option τ) :
    (∃ fault remaining, machine.step console = (.faulted fault, machine, remaining)) ∨
    ∃ outcome event after remaining, machine.step console = (outcome, after, remaining) ∧
      outcome.notice = .stepped event ∧ event.sequence = after.count ∧
      after.count = machine.count + 1 := by
  rcases machine.step_cases console with ⟨cause, _, remaining, faulted, _⟩ |
    ⟨instruction, _, next, halts, after, remaining, _, _, performed, stepped⟩
  · exact .inl ⟨_, remaining, faulted⟩
  · refine .inr ⟨_, (after.commit next).eventOf instruction, _, _, stepped, ?_, rfl, ?_⟩
    · cases halts <;> rfl
    · rw [← performed.count_eq]
      rfl

end Machine

/-- The numbers of events increase up to the count of instructions, which fits the tables if there
    are any. -/
structure Numbered (events : List StepEvent) (count : UInt64) : Prop where
  increasing : events.Pairwise fun first second => first.sequence.toNat < second.sequence.toNat
  within : ∀ event ∈ events,
    event.sequence.toNat ≤ count.toNat ∧ count.toNat < Recorder.integerLimit

theorem Numbered.storable {events : List StepEvent} {count : UInt64}
    (numbered : Numbered events count) :
    Storable events :=
  ⟨numbered.increasing, fun event member =>
    Nat.lt_of_le_of_lt (numbered.within event member).1 (numbered.within event member).2⟩

theorem Numbered.snoc {events : List StepEvent} {count : UInt64} (numbered : Numbered events count)
    {event : StepEvent} (next : event.sequence = count + 1)
    (fits : event.sequence.toNat < Recorder.integerLimit) :
    Numbered (events ++ [event]) (count + 1) := by
  have later : ∀ earlier ∈ events, earlier.sequence.toNat < event.sequence.toNat := by
    intro earlier member
    obtain ⟨bounded, small⟩ := numbered.within earlier member
    have room : count.toNat + 1 < 2 ^ 64 :=
      Nat.lt_of_le_of_lt (Nat.succ_le_of_lt small) (by decide)
    have grows : (count + 1).toNat = count.toNat + 1 :=
      (UInt64.toNat_add count 1).trans (Nat.mod_eq_of_lt room)
    rw [next, grows]
    exact Nat.lt_succ_of_le bounded
  constructor
  · exact List.pairwise_append.mpr
      ⟨numbered.increasing, List.pairwise_singleton _ _, by simpa using later⟩
  · rw [← next]
    intro other member
    rcases List.mem_append.mp member with before | only
    · exact ⟨Nat.le_of_lt (later other before), fits⟩
    · rw [List.mem_singleton.mp only]
      exact ⟨Nat.le_refl _, fits⟩

/-! ## Any recorded work with a machine -/

/-- Tells observers of an instruction, and keeps a transcript beside them. -/
def Observers.witnessed (notice : Notice) (beside : Observers × List Notice) :
    Observers × List Notice :=
  (beside.1.notify notice, transcribe notice beside.2)

/-- As long as the numbers fit the tables, what was emitted and not stored is waiting. -/
def Traced {τ : Type} (idle : Recorder) (program : String)
    (session : Session τ (Observers × List Notice)) : Prop :=
  (∀ event ∈ emitted session.observer.2, event.sequence.toNat < Recorder.integerLimit) →
    Numbered (emitted session.observer.2) session.machine.count ∧
    ∃ recorder stored waiting, session.observer.1.recorder = some recorder ∧
      stored ++ waiting = emitted session.observer.2 ∧ waiting.length < idle.batch ∧
      idle.Recording program stored waiting (raised session.observer.2) recorder

theorem traced_invariant {τ : Type} [Channel τ] (idle : Recorder) (program : String) :
    Session.Invariant Observers.witnessed
      (Traced idle program : Session τ (Observers × List Notice) → Prop) where
  step := by
    rintro ⟨machine, console, debugger, ⟨observed, tracers, lines⟩, told⟩ traced
    rcases machine.step_counts console with ⟨fault, remaining, faulted⟩ |
      ⟨outcome, event, after, remaining, stepped, notice, sequence, count⟩
    · -- The count stays, and all that waits is stored before the fault.
      simp only [Session.step, faulted, Traced, Observers.witnessed, Outcome.notice,
        emitted_transcribe_faulted, raised_transcribe_faulted]
      intro fits
      obtain ⟨numbered, recorder, stored, waiting, rfl, whole, few, recording⟩ := traced fits
      obtain ⟨full, recorded, told⟩ := recording.onFault_eq (by rw [whole]; exact numbered.storable)
      refine ⟨numbered, _, _, [], congrArg some (told fault), ?_, Nat.zero_lt_of_lt few,
        recorded.storeFault fault⟩
      rw [List.append_nil, whole]
    · -- The number of the event is new, since the count has not wrapped around.
      simp only [Session.step, stepped, Traced, Observers.witnessed, notice,
        emitted_transcribe_stepped, raised_transcribe_stepped]
      intro fits
      obtain ⟨numbered, recorder, stored, waiting, rfl, whole, few, recording⟩ :=
        traced fun other member => fits other (List.mem_append_left _ member)
      have counted := numbered.snoc (sequence.trans count) (fits event (by simp))
      rw [← count, ← whole, List.append_assoc] at counted
      obtain ⟨before, behind, same, fewer, recorded⟩ := recording.onStep few counted.storable
      rw [← whole, List.append_assoc]
      exact ⟨counted, _, before, behind, rfl, same, fewer, recorded⟩
  adjust := by
    intro session pc registers stack store stopRequested resuming debugger traced
    exact traced

/-- The trace is complete for every size of a batch. Whatever is done with a machine after a run was
    begun, the tables hold the runs from before and one more. Its steps are the events emitted so
    far up to fewer than a batch, and its faults are the faults raised. All events so far are stored
    before the next fault is, and finishing the run stores them with the result and leaves nothing
    buffered. -/
theorem trace_complete {τ : Type} [Channel τ] {batch : Int} {idle begun : Recorder}
    {program : String}
    (ready : idle.Idle batch) (begins : idle.begin program = .ok begun) (machine : Machine)
    (console : Option τ) (debugger : Option Debugger) (tracers : List Tracer)
    (lines : Array TraceLine) {now : Session τ (Observers × List Notice)}
    (worked : Relation.ReflTransGen (Session.Handled Observers.witnessed)
      ⟨machine, console, debugger, ⟨some begun, tracers, lines⟩, []⟩ now)
    (fits : ∀ event ∈ emitted now.observer.2, event.sequence.toNat < Recorder.integerLimit) :
    ∃ recorder stored waiting, now.observer.1.recorder = some recorder ∧
      stored ++ waiting = emitted now.observer.2 ∧ waiting.length < Recorder.batchSize batch ∧
      idle.Extends program none stored (raised now.observer.2) recorder ∧
      (∃ full, idle.Extends program none (emitted now.observer.2) (raised now.observer.2) full ∧
        ∀ fault, recorder.onFault fault = full.storeFault (.ofFault fault)) ∧
      ∀ (result : RunResult) (total : UInt64), total.toNat < Recorder.integerLimit →
        ∃ finished, recorder.finish result total = (.ok (), finished) ∧ finished.Idle batch ∧
          idle.Extends program (some (result, total)) (emitted now.observer.2)
            (raised now.observer.2)
            finished := by
  have initially : Traced idle program
      (⟨machine, console, debugger, ⟨some begun, tracers, lines⟩, []⟩ : Session τ _) := by
    intro _
    refine ⟨⟨.nil, nofun⟩, begun, [], [], rfl, rfl, ?_, Recorder.begin_recording ready begins⟩
    rw [ready.sized]
    exact Recorder.batchSize_pos batch
  obtain ⟨numbered, recorder, stored, waiting, observed, whole, few, recording⟩ :=
    (traced_invariant idle program).handled worked initially fits
  have storable := numbered.storable
  rw [← whole] at storable ⊢
  obtain ⟨full, recorded, told⟩ := recording.onFault_eq storable
  refine ⟨recorder, stored, waiting, observed, rfl, ready.sized ▸ few, recording.tables,
    ⟨full, recorded.tables, told⟩, fun result total counted => ?_⟩
  exact Recorder.Recording.finish_eq ready recording storable result counted

/-- Three steps in batches of two, and then a fault. -/
theorem trace_complete_across_batches :
    let machine : Machine :=
      { Machine.initial with
        store := ((((Store.empty.put ⟨0, by decide⟩ 21).put ⟨1, by decide⟩ 21).put
          ⟨2, by decide⟩ 21).put ⟨3, by decide⟩ 3).put ⟨4, by decide⟩ 32768 }
    let idle := Recorder.opened #[.begun "earlier"] 2
    ∃ begun, idle.begin "later" = .ok begun ∧
      let start : Session MemoryTerminal (Observers × List Notice) :=
        ⟨machine, none, none, ⟨some begun, [], #[]⟩, []⟩
      let now := (start.run Observers.witnessed (fun _ => false) 4).2
      (emitted now.observer.2).map StepEvent.sequence = [1, 2, 3] ∧
      (raised now.observer.2).map Fault.kind? = [some .stackUnderflow] ∧
      ∃ recorder finished, now.observer.1.recorder = some recorder ∧
        recorder.finish .faulted 3 = (.ok (), finished) ∧ finished.Idle 2 ∧
        idle.Extends "later" (some (.faulted, 3)) (emitted now.observer.2) (raised now.observer.2)
          finished := by
  intro machine idle
  refine ⟨_, rfl, ?_⟩
  intro start now
  have numbers : (emitted now.observer.2).map StepEvent.sequence = [1, 2, 3] := by decide +kernel
  have fits : ∀ event ∈ emitted now.observer.2, event.sequence.toNat < Recorder.integerLimit := by
    decide +kernel
  have worked : Relation.ReflTransGen (Session.Handled Observers.witnessed) start now :=
    .single (.run start (fun _ => false) 4)
  obtain ⟨recorder, _, _, observed, _, _, _, _, ends⟩ :=
    trace_complete (Recorder.opened_idle _ 2) rfl machine none none [] #[] worked fits
  obtain ⟨finished, done, ready, holds⟩ := ends .faulted 3 (by decide)
  exact ⟨numbers, by decide +kernel, recorder, finished, observed, done, ready, holds⟩

end WordMachine
