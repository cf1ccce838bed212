import WordMachine.Proofs.TraceCalls

/-!
Batches that cannot be stored. If a number of a batch is taken already or occurs twice, the batch
is refused as a whole and the failure is kept. From then on no call changes the tables, and every
attempt to finish the run answers with the failure, until another run begins
(`failed_batch_sticky`).
-/

namespace WordMachine

namespace Recorder

/-- The batch that a call stores and whose failure it keeps, if it stores one. -/
def batch? (recorder : Recorder) : TraceCall → Option (List TraceRow)
  | .step event =>
    let rows := recorder.buffered.push (.ofEvent event)
    if recorder.batch ≤ rows.size then some rows.toList else none
  | .fault _ | .finish _ _ => some recorder.buffered.toList
  | .begin _ | .close => none

/-- A number of a batch is taken already, or it occurs twice. -/
def Clashes (steps : Std.TreeMap Nat TraceRow) (rows : List TraceRow) : Prop :=
  (∃ row ∈ rows, steps.contains row.sequence.toNat) ∨ ¬ (rows.map TraceRow.sequence).Nodup

/-- A run has failed, and these are the tables. -/
structure Stuck (place : Nat) (error : TraceError) (runs : Array RunRecord) (recorder : Recorder) :
    Prop where
  current : recorder.current = some place
  failure : recorder.failure = some error
  tables : recorder.runs = runs

variable {recorder : Recorder} {place : Nat} {record : RunRecord} {error : TraceError}
  {runs : Array RunRecord}

/-! ## The failure -/

theorem storeBatch_of_clash {steps : Std.TreeMap Nat TraceRow} {rows : List TraceRow}
    (clash : Clashes steps rows) :
    ∃ row ∈ rows, storeBatch steps rows = .error (.step row.sequence) := by
  rcases storeBatch_cases steps rows with ⟨after, _, stored⟩ | refused
  · rcases clash with ⟨row, member, taken⟩ | repeated
    · exact absurd taken (stored.fresh row member)
    · exact absurd stored.distinct repeated
  · exact refused

theorem flushKeeping_of_clash (current : recorder.current = some place)
    (found : recorder.runs[place]? = some record) (writable : recorder.closed = false)
    (clash : Clashes record.steps recorder.buffered.toList) :
    ∃ row ∈ recorder.buffered.toList,
      recorder.flushKeeping = { recorder with failure := some (.step row.sequence) } := by
  obtain ⟨row, member, refused⟩ := storeBatch_of_clash clash
  have filled : recorder.buffered.isEmpty = false := by
    rw [← Bool.not_eq_true, Array.isEmpty_iff]
    intro empty
    simp [empty] at member
  have failed : recorder.flush = .error (.step row.sequence) := by
    simp [flush, filled, writable, current, found, refused]
  exact ⟨row, member, by rw [flushKeeping, failed]⟩

/-- A call that stores a batch with a clash keeps the failure and leaves the tables as they are. The
    end of the run answers with the failure at once. -/
theorem perform_of_clash {call : TraceCall} {rows : List TraceRow}
    (current : recorder.current = some place) (found : recorder.runs[place]? = some record)
    (writable : recorder.closed = false) (sound : recorder.failure = none)
    (stores : recorder.batch? call = some rows) (clash : Clashes record.steps rows) :
    ∃ row ∈ rows, (recorder.perform call).Stuck place (.step row.sequence) recorder.runs ∧
      ∀ result total, call = .finish result total →
        (recorder.finish result total).1 = .error (.step row.sequence) := by
  have recording : recorder.isRecording = true := by simp [isRecording, current, sound]
  cases call with
  | begin program | close => cases stores
  | step event =>
    simp only [batch?] at stores
    split at stores
    · rename_i full
      obtain rfl := Option.some.inj stores
      let filled := { recorder with buffered := recorder.buffered.push (.ofEvent event) }
      obtain ⟨row, member, failed⟩ := filled.flushKeeping_of_clash current found writable clash
      refine ⟨row, member, ?_, by rintro _ _ ⟨⟩⟩
      rw [perform, onStep, if_pos recording]
      dsimp only
      rw [if_pos full, failed]
      exact ⟨current, rfl, rfl⟩
    · cases stores
  | fault fault =>
    obtain rfl := Option.some.inj stores
    obtain ⟨row, member, failed⟩ := flushKeeping_of_clash current found writable clash
    refine ⟨row, member, ?_, by rintro _ _ ⟨⟩⟩
    rw [perform, onFault, if_pos recording, failed]
    exact ⟨current, rfl, rfl⟩
  | finish result total =>
    obtain rfl := Option.some.inj stores
    obtain ⟨row, member, failed⟩ := flushKeeping_of_clash current found writable clash
    have answer : recorder.finish result total =
        (.error (.step row.sequence), { recorder with failure := some (.step row.sequence) }) := by
      simp [finish, current, sound, failed]
    refine ⟨row, member, ?_, ?_⟩
    · rw [perform, answer]
      exact ⟨current, rfl, rfl⟩
    · rintro _ _ ⟨⟩
      rw [answer]

/-! ## After the failure -/

theorem Stuck.onStep (stuck : recorder.Stuck place error runs) (event : StepEvent) :
    recorder.onStep event = recorder := by
  simp [Recorder.onStep, isRecording, stuck.failure]

theorem Stuck.onFault (stuck : recorder.Stuck place error runs) (fault : Fault) :
    recorder.onFault fault = recorder := by
  simp [Recorder.onFault, isRecording, stuck.failure]

theorem Stuck.finish (stuck : recorder.Stuck place error runs) (result : RunResult)
    (total : UInt64) :
    recorder.finish result total = (.error error, recorder) := by
  simp [Recorder.finish, stuck.current, stuck.failure]

theorem Stuck.close (stuck : recorder.Stuck place error runs) :
    recorder.close = (.ok (), { recorder with closed := true }) := by
  simp [Recorder.close, isRecording, stuck.failure]

/-- A run that has failed stays so until another one begins. -/
theorem Stuck.perform (stuck : recorder.Stuck place error runs) (call : TraceCall) :
    (recorder.perform call).Stuck place error runs ∨
      ((recorder.perform call).current = some runs.size ∧
        (recorder.perform call).runs.size = runs.size + 1) := by
  cases call with
  | begin program =>
    cases closed : recorder.closed with
    | true =>
      left
      simpa [Recorder.perform, Recorder.begin, closed] using stuck
    | false =>
      right
      simp [Recorder.perform, Recorder.begin, closed, stuck.tables]
  | step event =>
    left
    rw [Recorder.perform, stuck.onStep]
    exact stuck
  | fault fault =>
    left
    rw [Recorder.perform, stuck.onFault]
    exact stuck
  | finish result total =>
    left
    rw [Recorder.perform, stuck.finish]
    exact stuck
  | close =>
    left
    rw [Recorder.perform, stuck.close]
    exact ⟨stuck.current, stuck.failure, stuck.tables⟩

/-- A run is not the current one again once it was left. -/
theorem current_ne_of_left (calls : List TraceCall) (inside : place < recorder.runs.size)
    (left : recorder.current ≠ some place) :
    (calls.foldl perform recorder).current ≠ some place := by
  induction calls generalizing recorder with
  | nil => exact left
  | cons call rest ih =>
    obtain ⟨further, away⟩ : place < (recorder.perform call).runs.size ∧
        (recorder.perform call).current ≠ some place := by
      rcases recorder.perform_cases call with written | ⟨_, _, _, _, written⟩ | ⟨_, _, _, begun⟩
      · rw [written.size_runs, written.current_eq]
        exact ⟨inside, left⟩
      · rw [written.size_runs, written.current_eq]
        exact ⟨inside, left⟩
      · rw [begun, Array.size_push]
        refine ⟨Nat.lt_succ_of_lt inside, ?_⟩
        intro same
        exact absurd (Option.some.inj same) (Nat.ne_of_gt inside)
    exact ih further away

theorem Stuck.calls (stuck : recorder.Stuck place error runs) (inside : place < runs.size)
    (calls : List TraceCall)
    (still : (calls.foldl Recorder.perform recorder).current = some place) :
    (calls.foldl Recorder.perform recorder).Stuck place error runs := by
  induction calls generalizing recorder with
  | nil => exact stuck
  | cons call rest ih =>
    rcases stuck.perform call with stays | ⟨current, size⟩
    · exact ih stays still
    · have left : (recorder.perform call).current ≠ some place := by
        rw [current]
        intro same
        exact absurd (Option.some.inj same) (Nat.ne_of_gt inside)
      have longer : place < (recorder.perform call).runs.size := by
        rw [size]
        exact Nat.lt_succ_of_lt inside
      exact absurd still (current_ne_of_left rest longer left)

/-- A failed batch is all or nothing, and the failure is kept. If a call is about to store a batch
    in which a number is taken already or occurs twice, nothing of the batch is stored, and the
    tables stay as they were. Whatever is called later, as long as no other run was begun: the
    tables are still the same, steps and faults are ignored, the end of the run answers with that
    failure each time, and closing writes nothing either. The beginning of a run takes the failure
    away. -/
theorem failed_batch_sticky {call : TraceCall} {rows : List TraceRow}
    (current : recorder.current = some place) (found : recorder.runs[place]? = some record)
    (writable : recorder.closed = false) (sound : recorder.failure = none)
    (stores : recorder.batch? call = some rows) (clash : Clashes record.steps rows) :
    ∃ row ∈ rows,
      (∀ result total, call = .finish result total →
        (recorder.finish result total).1 = .error (.step row.sequence)) ∧
      ∀ (later : List TraceCall) (now : Recorder),
        later.foldl perform (recorder.perform call) = now → now.current = some place →
        now.runs = recorder.runs ∧
        (∀ event, now.onStep event = now) ∧ (∀ fault, now.onFault fault = now) ∧
        (∀ result total, now.finish result total = (.error (.step row.sequence), now)) ∧
        now.close = (.ok (), { now with closed := true }) ∧
        ∀ program begun, now.begin program = .ok begun → begun.isRecording = true := by
  obtain ⟨row, member, stuck, answers⟩ := perform_of_clash current found writable sound stores clash
  refine ⟨row, member, answers, ?_⟩
  rintro later now rfl still
  have inside : place < recorder.runs.size := (Array.getElem?_eq_some_iff.mp found).1
  have stays := stuck.calls inside later still
  refine ⟨stays.tables, stays.onStep, stays.onFault, stays.finish, stays.close, ?_⟩
  intro program begun begins
  rw [Recorder.begin] at begins
  split at begins
  · cases begins
  · cases begins
    rfl

/-- A step in batches of one, and the same step again after the machine was loaded anew. -/
theorem failed_batch_sticky_of_reload :
    let event : StepEvent := ⟨1, ⟨0, 21, .replicate 3 0, 0⟩, 1, .zero, 0⟩
    let recorder := [.begin "noop", .step event].foldl perform (opened #[] 1)
    let now := [.step event, .close].foldl perform (recorder.perform (.step event))
    now.runs = recorder.runs ∧ now.finish .halted 2 = (.error (.step 1), now) := by
  intro event recorder now
  have found : ∃ record : RunRecord, recorder.runs[0]? = some record ∧ record.steps.contains 1 := by
    refine ⟨_, rfl, ?_⟩
    decide +kernel
  obtain ⟨record, found, taken⟩ := found
  have stores : recorder.batch? (.step event) = some [.ofEvent event] := rfl
  have clash : Clashes record.steps [.ofEvent event] := .inl ⟨_, List.mem_singleton_self _, taken⟩
  obtain ⟨row, member, _, kept⟩ :=
    failed_batch_sticky (by decide +kernel) found (by decide +kernel) (by decide +kernel)
      stores clash
  obtain rfl := List.mem_singleton.mp member
  obtain ⟨tables, _, _, answers, _⟩ := kept [.step event, .close] now rfl (by decide +kernel)
  exact ⟨tables, answers .halted 2⟩

end Recorder

end WordMachine
