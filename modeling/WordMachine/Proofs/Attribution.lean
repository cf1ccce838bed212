import Mathlib.Data.List.Induction
import WordMachine.Proofs.TraceCalls

/-!
The run of a stored step. A step is stored under the run that is current when the buffer is written,
and the beginning of a run leaves the buffer as it is. So a step that is stored under a run was
emitted during that run, or it was still buffered from an earlier one when that run began
(`stored_step_origin`).
-/

namespace WordMachine

namespace Recorder

/-- The tables hold a step of a run. -/
def Tabled (runs : Array RunRecord) (place key : Nat) (row : TraceRow) : Prop :=
  ∃ record, runs[place]? = some record ∧ record.steps[key]? = some row

/-- One of the calls is with this step, and the run is then the current one. -/
def Emitted (start : Recorder) (calls : List TraceCall) (place : Nat) (row : TraceRow) : Prop :=
  ∃ before event after, calls = before ++ .step event :: after ∧
    (before.foldl perform start).current = some place ∧ row = .ofEvent event

/-- One of the calls begins the run, and then this step is still buffered, which was emitted during
    an earlier run. -/
def LeftOver (start : Recorder) (calls : List TraceCall) (place : Nat) (row : TraceRow) : Prop :=
  ∃ before program after begun, calls = before ++ .begin program :: after ∧
    (before.foldl perform start).begin program = .ok begun ∧ begun.current = some place ∧
    row ∈ begun.buffered ∧ ∃ earlier < place, Emitted start before earlier row

/-- How a step can come to be stored under a run. -/
def Origin (start : Recorder) (calls : List TraceCall) (place : Nat) (row : TraceRow) : Prop :=
  Emitted start calls place row ∨ LeftOver start calls place row

section

variable {start : Recorder} {calls : List TraceCall} {place : Nat} {row : TraceRow}

theorem Emitted.append (emitted : Emitted start calls place row) (more : List TraceCall) :
    Emitted start (calls ++ more) place row := by
  obtain ⟨before, event, after, rfl, current, same⟩ := emitted
  exact ⟨before, event, after ++ more, by simp, current, same⟩

theorem Origin.append (origin : Origin start calls place row) (more : List TraceCall) :
    Origin start (calls ++ more) place row := by
  rcases origin with emitted | ⟨before, program, after, begun, rfl, begins, current, left, earlier⟩
  · exact .inl (emitted.append more)
  · exact .inr ⟨before, program, after ++ more, begun, by simp, begins, current, left, earlier⟩

theorem Origin.emitted (origin : Origin start calls place row) :
    ∃ earlier ≤ place, Emitted start calls earlier row := by
  rcases origin with emitted | ⟨before, program, after, _, rfl, _, _, _, earlier, less, emitted⟩
  · exact ⟨place, Nat.le_refl place, emitted⟩
  · exact ⟨earlier, Nat.le_of_lt less, emitted.append (.begin program :: after)⟩

end

/-! ## Tables -/

section

variable {runs : Array RunRecord} {place key : Nat} {row : TraceRow}

theorem tabled_modify {changed : Nat} {change : RunRecord → RunRecord}
    (keeps : ∀ record, (change record).steps = record.steps) :
    Tabled (runs.modify changed change) place key row ↔ Tabled runs place key row := by
  by_cases here : changed = place
  · simp [Tabled, Array.getElem?_modify, here, keeps]
  · simp [Tabled, Array.getElem?_modify, here]

theorem tabled_stored {current : Nat} {record : RunRecord} {rows : List TraceRow}
    {steps : Std.TreeMap Nat TraceRow} (found : runs[current]? = some record)
    (stored : Stored record.steps rows steps) :
    Tabled (runs.setIfInBounds current { record with steps }) place key row ↔
      Tabled runs place key row ∨ (place = current ∧ row ∈ rows ∧ row.sequence.toNat = key) := by
  by_cases here : current = place
  · subst here
    obtain ⟨inside, rfl⟩ := Array.getElem?_eq_some_iff.mp found
    simp [Tabled, inside, stored.holds]
  · simp [Tabled, here, Ne.symm here]

theorem Tabled.of_begun {program : String}
    (tabled : Tabled (runs.push (.begun program)) place key row) :
    Tabled runs place key row := by
  obtain ⟨record, found, stored⟩ := tabled
  rw [Array.getElem?_push] at found
  split at found
  · cases found
    simp [RunRecord.begun] at stored
  · exact ⟨record, found, stored⟩

end

/-! ## Calls -/

/-- The steps in the buffer have their origin with the current run. Those in the tables have it with
    the run under which they are stored, or were there before. -/
structure Attributed (old : Array RunRecord) (origin : Nat → TraceRow → Prop)
    (recorder : Recorder) :
    Prop where
  waiting : ∀ row ∈ recorder.buffered, ∃ place, recorder.current = some place ∧ origin place row
  tables : ∀ place key row, Tabled recorder.runs place key row →
    Tabled old place key row ∨ origin place row
  inside : ∀ place, recorder.current = some place → place < recorder.runs.size

variable {old : Array RunRecord} {origin other : Nat → TraceRow → Prop} {recorder : Recorder}

theorem Attributed.imp (attributed : Attributed old origin recorder)
    (weaker : ∀ place row, origin place row → other place row) : Attributed old other recorder := by
  refine ⟨?_, ?_, attributed.inside⟩
  · intro row member
    obtain ⟨place, current, emitted⟩ := attributed.waiting row member
    exact ⟨place, current, weaker place row emitted⟩
  · intro place key row tabled
    exact (attributed.tables place key row tabled).imp_right (weaker place row)

theorem Attributed.written {start now : Recorder} (attributed : Attributed old origin start)
    (written : Written start now) : Attributed old origin now := by
  induction written with
  | start => exact attributed
  | marked _ _ _ ih => exact ⟨ih.waiting, ih.tables, ih.inside⟩
  | @stored now current record steps _ is found stored ih =>
    refine ⟨fun row member => by simp at member, ?_, ?_⟩
    · intro place key row tabled
      rcases (tabled_stored found stored).mp tabled with there | ⟨rfl, flushed, _⟩
      · exact ih.tables place key row there
      · -- The batch goes to the run that is current now.
        obtain ⟨its, itsCurrent, emitted⟩ := ih.waiting row (Array.mem_toList_iff.mp flushed)
        obtain rfl : its = place := Option.some.inj (itsCurrent.symm.trans is)
        exact .inr emitted
    · intro place same
      rw [Array.size_setIfInBounds]
      exact ih.inside place same
  | noted _ changed keeps ih =>
    refine ⟨ih.waiting, ?_, ?_⟩
    · intro place key row tabled
      exact ih.tables place key row ((tabled_modify keeps).mp tabled)
    · intro place same
      rw [Array.size_modify]
      exact ih.inside place same

theorem Attributed.push (attributed : Attributed old origin recorder) {place : Nat} {row : TraceRow}
    (current : recorder.current = some place) (emitted : origin place row) :
    Attributed old origin { recorder with buffered := recorder.buffered.push row } := by
  refine ⟨?_, attributed.tables, attributed.inside⟩
  intro waiting member
  rcases Array.mem_push.mp member with before | rfl
  · exact attributed.waiting waiting before
  · exact ⟨place, current, emitted⟩

theorem Attributed.perform {start : Recorder} {calls : List TraceCall}
    (attributed : Attributed old (Origin start calls) (calls.foldl Recorder.perform start))
    (call : TraceCall) :
    Attributed old (Origin start (calls ++ [call]))
      ((calls.foldl Recorder.perform start).perform call) := by
  have longer := attributed.imp fun place row origin => origin.append [call]
  rcases perform_cases (calls.foldl Recorder.perform start) call with written |
    ⟨event, place, rfl, current, written⟩ | ⟨program, rfl, begins, begun⟩
  · exact longer.written written
  · have emitted : Emitted start (calls ++ [.step event]) place (.ofEvent event) :=
      ⟨calls, event, [], rfl, current, rfl⟩
    exact (longer.push current (.inl emitted)).written written
  · rw [begun] at begins ⊢
    refine ⟨?_, ?_, ?_⟩
    · -- Whatever is buffered is left over from now on.
      intro row member
      obtain ⟨place, current, origin⟩ := attributed.waiting row member
      obtain ⟨earlier, least, emitted⟩ := origin.emitted
      have less := Nat.lt_of_le_of_lt least (attributed.inside place current)
      exact ⟨_, rfl, .inr ⟨calls, program, [], _, rfl, begins, rfl, member, earlier, less, emitted⟩⟩
    · intro place key row tabled
      exact longer.tables place key row tabled.of_begun
    · rintro _ ⟨⟩
      simp

theorem opened_attributed (runs : Array RunRecord) (batch : Int) (calls : List TraceCall) :
    Attributed runs (Origin (opened runs batch) calls)
      (calls.foldl Recorder.perform (opened runs batch)) := by
  induction calls using List.reverseRecOn with
  | nil => exact ⟨nofun, fun _ _ _ tabled => .inl tabled, nofun⟩
  | append_singleton calls call ih =>
    rw [List.foldl_append]
    exact ih.perform call

/-! ## Steps that were left -/

theorem finish_eq_ok {place : Nat} {result : RunResult} {total : UInt64} {finished : Recorder}
    (current : recorder.current = some place) (sound : recorder.failure = none)
    (ends : recorder.finish result total = (.ok (), finished)) :
    ∃ ready, recorder.flush = .ok ready ∧ finished = { ready with
      runs := ready.runs.modify place fun record =>
        { record with result := some result.name, total := some total } } := by
  simp only [finish, current, sound, Option.isSome_none, flushKeeping] at ends
  cases flushed : recorder.flush with
  | error error => simp [flushed] at ends
  | ok ready =>
    simp only [flushed, Bool.false_eq_true, if_false] at ends
    split at ends
    · cases ends
    · split at ends
      · cases ends
      · cases ends
        exact ⟨ready, rfl, rfl⟩

/-- What is buffered when a run begins is stored under that run when it ends. -/
theorem left_stored {program : String} {begun finished : Recorder} {result : RunResult}
    {total : UInt64} (begins : recorder.begin program = .ok begun)
    (ends : begun.finish result total = (.ok (), finished)) {row : TraceRow}
    (left : row ∈ recorder.buffered) :
    Tabled finished.runs recorder.runs.size row.sequence.toNat row := by
  rw [begin] at begins
  split at begins
  · cases begins
  · cases begins
    obtain ⟨ready, flushed, rfl⟩ := finish_eq_ok rfl rfl ends
    refine (tabled_modify ?_).mpr ?_
    · intro record
      rfl
    · rcases flush_eq_ok flushed with ⟨empty, _⟩ |
        ⟨place, record, steps, current, found, stored, rfl⟩
      · simp [show recorder.buffered = #[] from empty] at left
      · rw [tabled_stored found stored]
        exact .inr ⟨Option.some.inj current, Array.mem_toList_iff.mpr left, rfl⟩

/-- Every stored step has its origin. Whatever is called after a recorder was opened, in any order,
    a step in the tables was there before, or it was emitted while the run under which it is stored
    was the current one, or else it was emitted during an earlier run and was still buffered when
    this one began. So a run that begins with an empty buffer gets only steps of its own. A run that
    begins with steps in the buffer has all of them as soon as it ends. -/
theorem stored_step_origin (runs : Array RunRecord) (batch : Int) (calls : List TraceCall)
    {now : Recorder} (called : calls.foldl perform (opened runs batch) = now) :
    (∀ place key row, Tabled now.runs place key row →
      Tabled runs place key row ∨ Emitted (opened runs batch) calls place row ∨
        LeftOver (opened runs batch) calls place row) ∧
    ∀ program begun result total finished, now.begin program = .ok begun →
      begun.finish result total = (.ok (), finished) →
      ∀ row ∈ now.buffered, Tabled finished.runs now.runs.size row.sequence.toNat row := by
  subst called
  refine ⟨(opened_attributed runs batch calls).tables, ?_⟩
  intro program begun result total finished begins ends row left
  exact left_stored begins ends left

/-- A step in batches of four, whose run is abandoned. -/
theorem stored_step_origin_of_abandoned :
    let event : StepEvent := ⟨1, ⟨0, 21, .replicate 3 0, 0⟩, 1, .zero, 0⟩
    ∃ now begun finished, [.begin "first", .step event].foldl perform (opened #[] 4) = now ∧
      now.begin "second" = .ok begun ∧ begun.finish .stopped 0 = (.ok (), finished) ∧
      Tabled finished.runs 1 1 (.ofEvent event) := by
  intro event
  obtain ⟨_, stored⟩ := stored_step_origin #[] 4 [.begin "first", .step event] rfl
  refine ⟨_, _, _, rfl, rfl, rfl, ?_⟩
  exact stored "second" _ .stopped 0 _ rfl rfl (.ofEvent event) Array.mem_push_self

/-- A step that is stored under a run during which it was not emitted. -/
theorem stored_step_not_emitted :
    let event : StepEvent := ⟨1, ⟨0, 21, .replicate 3 0, 0⟩, 1, .zero, 0⟩
    let calls : List TraceCall := [.begin "first", .step event, .begin "second", .finish .stopped 0]
    Tabled (calls.foldl perform (opened #[] 4)).runs 1 1 (.ofEvent event) ∧
      ¬ Tabled #[] 1 1 (.ofEvent event) ∧ ¬ Emitted (opened #[] 4) calls 1 (.ofEvent event) := by
  intro event calls
  refine ⟨?_, ?_, ?_⟩
  · refine ⟨_, rfl, ?_⟩
    decide +kernel
  · rintro ⟨_, ⟨⟩, _⟩
  · rintro ⟨before, other, after, split, current, _⟩
    match before with
    | [] | [_, _] | [_, _, _] | _ :: _ :: _ :: _ :: _ => simp [calls] at split
    | [_] =>
      obtain ⟨rfl, _⟩ := List.cons.inj split
      exact absurd current (by decide +kernel)

end Recorder

end WordMachine
