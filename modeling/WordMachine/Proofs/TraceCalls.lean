import WordMachine.Trace.Recorder

/-!
What can be called on a recorder, and what each call does to its tables. A batch is stored whole or
refused on account of one of its rows (`storeBatch_cases`). A call writes to the runs that are
there, and only the beginning of a run adds one and makes it the current one (`perform_cases`).
-/

namespace WordMachine

/-- What a recorder can be asked for. -/
inductive TraceCall where
  | begin (program : String)
  | step (event : StepEvent)
  | fault (fault : Fault)
  | finish (result : RunResult) (total : UInt64)
  | close
deriving DecidableEq, Repr

namespace Recorder

/-- The recorder after a call. The beginning of a run may be refused. -/
def perform (recorder : Recorder) : TraceCall → Recorder
  | .begin program =>
    match recorder.begin program with
    | .ok begun => begun
    | .error _ => recorder
  | .step event => recorder.onStep event
  | .fault fault => recorder.onFault fault
  | .finish result total => (recorder.finish result total).2
  | .close => recorder.close.2

/-! ## Batches -/

/-- A batch was stored: none of its numbers was taken, none occurs twice, and the table holds what
    it held and the rows. -/
structure Stored (steps : Std.TreeMap Nat TraceRow) (rows : List TraceRow)
    (after : Std.TreeMap Nat TraceRow) : Prop where
  fresh : ∀ row ∈ rows, ¬ steps.contains row.sequence.toNat
  distinct : (rows.map TraceRow.sequence).Nodup
  holds : ∀ (key : Nat) row, after[key]? = some row ↔
    steps[key]? = some row ∨ (row ∈ rows ∧ row.sequence.toNat = key)

theorem storeStep_cases (steps : Std.TreeMap Nat TraceRow) (row : TraceRow) :
    (¬ steps.contains row.sequence.toNat ∧
      storeStep steps row = .ok (steps.insert row.sequence.toNat row)) ∨
    storeStep steps row = .error (.step row.sequence) := by
  rw [storeStep]
  by_cases storable : row.sequence.toNat < integerLimit ∧ ¬ steps.contains row.sequence.toNat
  · exact .inl ⟨storable.2, if_pos storable⟩
  · exact .inr (if_neg storable)

theorem getElem?_insert_fresh {steps : Std.TreeMap Nat TraceRow} {row : TraceRow}
    (fresh : ¬ steps.contains row.sequence.toNat) (key : Nat) (other : TraceRow) :
    (steps.insert row.sequence.toNat row)[key]? = some other ↔
      steps[key]? = some other ∨ (other = row ∧ other.sequence.toNat = key) := by
  rw [Std.TreeMap.getElem?_insert]
  split
  · rename_i same
    obtain rfl := Std.LawfulEqCmp.eq_of_compare same
    have absent : steps[row.sequence.toNat]? = none :=
      Std.TreeMap.getElem?_eq_none_of_contains_eq_false (Bool.eq_false_iff.mpr fresh)
    rw [absent]
    constructor
    · rintro ⟨⟩
      exact .inr ⟨rfl, rfl⟩
    · rintro (held | ⟨rfl, _⟩)
      · cases held
      · rfl
  · rename_i different
    constructor
    · exact .inl
    · rintro (held | ⟨rfl, same⟩)
      · exact held
      · exact absurd (Nat.compare_eq_eq.mpr same) different

theorem Stored.cons {steps after : Std.TreeMap Nat TraceRow} {row : TraceRow} {rest : List TraceRow}
    (first : ¬ steps.contains row.sequence.toNat)
    (others : Stored (steps.insert row.sequence.toNat row) rest after) :
    Stored steps (row :: rest) after := by
  have apart : ∀ other ∈ rest,
      row.sequence ≠ other.sequence ∧ ¬ steps.contains other.sequence.toNat := by
    intro other member
    have absent := others.fresh other member
    rw [Std.TreeMap.contains_insert] at absent
    constructor
    · intro same
      simp [same] at absent
    · intro taken
      simp [taken] at absent
  refine ⟨?_, ?_, ?_⟩
  · intro other member
    rcases List.mem_cons.mp member with rfl | later
    · exact first
    · exact (apart other later).2
  · rw [List.map_cons, List.nodup_cons]
    refine ⟨?_, others.distinct⟩
    intro again
    obtain ⟨other, member, same⟩ := List.mem_map.mp again
    exact (apart other member).1 same.symm
  · intro key other
    rw [others.holds, getElem?_insert_fresh first, List.mem_cons, or_and_right, or_assoc]

/-- A batch is stored, or refused on account of one of its rows. -/
theorem storeBatch_cases (steps : Std.TreeMap Nat TraceRow) (rows : List TraceRow) :
    (∃ after, storeBatch steps rows = .ok after ∧ Stored steps rows after) ∨
    ∃ row ∈ rows, storeBatch steps rows = .error (.step row.sequence) := by
  induction rows generalizing steps with
  | nil =>
    exact .inl ⟨steps, rfl, List.forall_mem_nil _, List.nodup_nil, by simp⟩
  | cons row rest ih =>
    rw [storeBatch, List.foldlM_cons]
    rcases storeStep_cases steps row with ⟨fresh, stored⟩ | refused
    · rw [stored]
      rcases ih (steps.insert row.sequence.toNat row) with ⟨after, stores, others⟩ |
        ⟨bad, among, refuses⟩
      · exact .inl ⟨after, stores, others.cons fresh⟩
      · exact .inr ⟨bad, List.mem_cons_of_mem _ among, refuses⟩
    · rw [refused]
      exact .inr ⟨row, List.mem_cons_self, rfl⟩

/-! ## What calls write -/

/-- What a call can make of a recorder: marks are set, the buffered steps are stored under the
    current run, and something other than the steps of a run is noted. -/
inductive Written (start : Recorder) : Recorder → Prop
  | start : Written start start
  | marked {now : Recorder} (earlier : Written start now) (failure : Option TraceError)
      (closed : Bool) :
      Written start { now with failure, closed }
  | stored {now : Recorder} {place : Nat} {record : RunRecord} {steps : Std.TreeMap Nat TraceRow}
      (earlier : Written start now) (current : now.current = some place)
      (found : now.runs[place]? = some record)
      (stored : Stored record.steps now.buffered.toList steps) :
      Written start { now with
        runs := now.runs.setIfInBounds place { record with steps }
        buffered := #[] }
  | noted {now : Recorder} (earlier : Written start now) (place : Nat)
      {change : RunRecord → RunRecord} (keeps : ∀ record, (change record).steps = record.steps) :
      Written start { now with runs := now.runs.modify place change }

theorem Written.trans {start middle now : Recorder} (first : Written start middle)
    (second : Written middle now) : Written start now := by
  induction second with
  | start => exact first
  | marked _ failure closed ih => exact ih.marked failure closed
  | stored _ current found stored ih => exact ih.stored current found stored
  | noted _ place keeps ih => exact ih.noted place keeps

/-- A flush that succeeds has nothing to store, or stores the buffered steps under the current
    run. -/
theorem flush_eq_ok {recorder after : Recorder} (flushed : recorder.flush = .ok after) :
    (recorder.buffered = #[] ∧ after = recorder) ∨
    ∃ place record steps, recorder.current = some place ∧ recorder.runs[place]? = some record ∧
      Stored record.steps recorder.buffered.toList steps ∧
      after = { recorder with
        runs := recorder.runs.setIfInBounds place { record with steps }
        buffered := #[] } := by
  rw [flush] at flushed
  split at flushed
  · rename_i empty
    cases flushed
    exact .inl ⟨Array.isEmpty_iff.mp empty, rfl⟩
  · split at flushed
    · cases flushed
    · split at flushed
      · cases flushed
      · rename_i place current
        split at flushed
        · cases flushed
        · rename_i record found
          rcases storeBatch_cases record.steps recorder.buffered.toList with
            ⟨steps, stores, stored⟩ | ⟨row, _, refused⟩
          · rw [stores] at flushed
            cases flushed
            exact .inr ⟨place, record, steps, current, found, stored, rfl⟩
          · rw [refused] at flushed
            cases flushed

theorem flush_written {recorder after : Recorder} (flushed : recorder.flush = .ok after) :
    Written recorder after := by
  rcases flush_eq_ok flushed with ⟨_, rfl⟩ | ⟨place, record, steps, current, found, stored, rfl⟩
  · exact .start
  · exact Written.start.stored current found stored

theorem flushKeeping_written (recorder : Recorder) : Written recorder recorder.flushKeeping := by
  rw [flushKeeping]
  split
  · rename_i flushed
    exact flush_written flushed
  · exact Written.start.marked _ _

theorem storeFault_written (recorder : Recorder) (row : FaultRow) :
    Written recorder (recorder.storeFault row) := by
  rw [storeFault]
  split
  · exact Written.start.marked _ _
  · split
    · exact .start
    · exact Written.start.noted _ fun _ => rfl

theorem onFault_written (recorder : Recorder) (fault : Fault) :
    Written recorder (recorder.onFault fault) := by
  have flushed := recorder.flushKeeping_written
  rw [onFault]
  split
  · dsimp only
    split
    · exact flushed
    · exact flushed.trans (storeFault_written _ _)
  · exact .start

theorem finish_written (recorder : Recorder) (result : RunResult) (total : UInt64) :
    Written recorder (recorder.finish result total).2 := by
  rw [finish]
  split
  · exact .start
  · have flushed : Written recorder
        (if recorder.failure.isSome then recorder else recorder.flushKeeping) := by
      split
      · exact .start
      · exact recorder.flushKeeping_written
    generalize (if recorder.failure.isSome then recorder else recorder.flushKeeping) = ready
      at flushed ⊢
    dsimp only
    split
    · exact flushed
    · split
      · exact flushed
      · exact flushed.noted _ fun _ => rfl

theorem close_written (recorder : Recorder) : Written recorder recorder.close.2 := by
  rw [close]
  split
  · split
    · rename_i flushed
      exact (flush_written flushed).marked _ true
    · exact Written.start.marked _ true
  · exact Written.start.marked _ true

/-- A call writes; before that it buffers a step of the current run if it is one, and only the
    beginning of a run does something else. -/
theorem perform_cases (recorder : Recorder) (call : TraceCall) :
    Written recorder (recorder.perform call) ∨
    (∃ event place, call = .step event ∧ recorder.current = some place ∧
      Written { recorder with buffered := recorder.buffered.push (.ofEvent event) }
        (recorder.perform call)) ∨
    ∃ program, call = .begin program ∧ recorder.begin program = .ok (recorder.perform call) ∧
      recorder.perform call = { recorder with
        runs := recorder.runs.push (.begun program)
        current := some recorder.runs.size
        failure := none } := by
  cases call with
  | begin program =>
    cases closed : recorder.closed with
    | true =>
      left
      simp only [perform, begin, closed, if_true]
      exact .start
    | false =>
      right
      right
      exact ⟨program, rfl, by simp [perform, begin, closed], by simp [perform, begin, closed]⟩
  | step event =>
    rw [perform, onStep]
    split
    · rename_i recording
      obtain ⟨place, current⟩ : ∃ place, recorder.current = some place := by
        simp only [isRecording, Bool.and_eq_true] at recording
        exact Option.isSome_iff_exists.mp recording.1
      refine .inr (.inl ⟨event, place, rfl, current, ?_⟩)
      dsimp only
      split
      · exact flushKeeping_written _
      · exact .start
    · exact .inl .start
  | fault fault => exact .inl (recorder.onFault_written fault)
  | finish result total => exact .inl (recorder.finish_written result total)
  | close => exact .inl recorder.close_written

theorem Written.current_eq {start now : Recorder} (written : Written start now) :
    now.current = start.current := by
  induction written with
  | start => rfl
  | marked _ _ _ ih | stored _ _ _ _ ih | noted _ _ _ ih => exact ih

theorem Written.size_runs {start now : Recorder} (written : Written start now) :
    now.runs.size = start.runs.size := by
  induction written with
  | start => rfl
  | marked _ _ _ ih => exact ih
  | stored _ _ _ _ ih => rw [← ih, Array.size_setIfInBounds]
  | noted _ _ _ ih => rw [← ih, Array.size_modify]

end Recorder

end WordMachine
