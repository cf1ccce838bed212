import Mathlib.Data.List.TakeDrop
import WordMachine.Proofs.Channels
import WordMachine.Terminal.Script
import WordMachine.Terminal.Stream

/-!
Terminals on streams. As long as the sink takes everything, a stream terminal loses nothing
of what is written to it, and hands out its input line by line (`readLine_cases`). A
terminal in memory on which these lines are queued gives the same answers, so no program can
tell the two apart (`stream_agrees_with_memory`).
-/

namespace WordMachine

/-! ## Lines -/

namespace Script

theorem splitInto_toList (out : Array (List UInt8)) (line : Array UInt8) (bytes : List UInt8) :
    (splitInto out line bytes).toList = out.toList ++ (splitInto #[] line bytes).toList := by
  induction bytes generalizing out line with
  | nil =>
    simp only [splitInto]
    split <;> simp
  | cons b rest ih =>
    simp only [splitInto]
    split
    · rw [ih (out.push line.toList), ih (#[].push line.toList)]
      simp
    · exact ih out (line.push b)

theorem splitInto_append {line : List UInt8} (free : newline ∉ line) (out : Array (List UInt8))
    (before : Array UInt8) (rest : List UInt8) :
    splitInto out before (line ++ rest) = splitInto out (before ++ line) rest := by
  induction line generalizing before with
  | nil => simp
  | cons b line ih =>
    obtain ⟨other, further⟩ : newline ≠ b ∧ newline ∉ line := by simpa using free
    rw [List.cons_append, splitInto, if_neg (Ne.symm other), ih further]
    simp

end Script

/-- The first line of some input, without its newline, and the input after it. -/
inductive FirstLine : List UInt8 → List UInt8 → List UInt8 → Prop
  | ended {line : List UInt8} (free : newline ∉ line) (rest : List UInt8) :
      FirstLine (line ++ newline :: rest) line rest
  | last {line : List UInt8} (free : newline ∉ line) (present : line ≠ []) : FirstLine line line []

theorem FirstLine.free {input line rest : List UInt8} (first : FirstLine input line rest) :
    newline ∉ line := by
  cases first with
  | ended free => exact free
  | last free => exact free

theorem FirstLine.split_eq {input line rest : List UInt8} (first : FirstLine input line rest) :
    Script.split input = line :: Script.split rest := by
  cases first with
  | ended free =>
    rw [Script.split, Script.splitInto_append free, Script.splitInto, if_pos rfl,
      Script.splitInto_toList]
    simp [Script.split]
  | last free present =>
    have whole := Script.splitInto_append free #[] #[] []
    rw [List.append_nil] at whole
    simp [Script.split, whole, Script.splitInto, present]

namespace StreamTerminal

/-- Input as it is handed out: a last line without a newline gets one. -/
def completed (input : List UInt8) : List UInt8 :=
  if input = [] ∨ input.getLast? = some newline then input else input ++ [newline]

end StreamTerminal

theorem FirstLine.completed_eq {input line rest : List UInt8} (first : FirstLine input line rest) :
    StreamTerminal.completed input = line ++ newline :: StreamTerminal.completed rest := by
  cases first with
  | ended free =>
    by_cases empty : rest = []
    · simp [StreamTerminal.completed, empty]
    · have last : (line ++ newline :: rest).getLast? = rest.getLast? := by
        obtain ⟨final, is⟩ := Option.isSome_iff_exists.mp (List.getLast?_isSome.mpr empty)
        simp [List.getLast?_append, List.getLast?_cons, is]
      by_cases terminated : rest.getLast? = some newline
      · simp [StreamTerminal.completed, last, terminated]
      · simp [StreamTerminal.completed, last, terminated, empty]
  | last free present =>
    have unterminated : input.getLast? ≠ some newline := by
      intro ends
      exact free (List.mem_of_getLast? ends)
    simp [StreamTerminal.completed, present, unterminated]

namespace StreamTerminal

/-- The bytes before the first newline hold none, and after them comes one or nothing. -/
theorem splitLine_cases (input : List UInt8) :
    (∃ line rest, splitLine input = (line, newline :: rest) ∧ newline ∉ line ∧
      input = line ++ newline :: rest) ∨
    splitLine input = (input, []) ∧ newline ∉ input := by
  rw [splitLine, List.span_eq_takeWhile_dropWhile]
  induction input with
  | nil => exact .inr ⟨rfl, by simp⟩
  | cons b input ih =>
    by_cases is : b = newline
    · exact .inl ⟨[], input, by simp [is], by simp, by simp [is]⟩
    · have kept : decide (b ≠ newline) = true := by simpa using is
      simp only [List.takeWhile_cons, List.dropWhile_cons, kept, if_true]
      rcases ih with ⟨line, rest, split, free, whole⟩ | ⟨split, free⟩
      · obtain ⟨taken, dropped⟩ := Prod.mk.inj split
        refine .inl ⟨b :: line, rest, by rw [taken, dropped], ?_, by rw [whole]; rfl⟩
        simp [free, Ne.symm is]
      · obtain ⟨taken, dropped⟩ := Prod.mk.inj split
        exact .inr ⟨by rw [taken, dropped], by simp [free, Ne.symm is]⟩

/-! ## A terminal whose sink takes everything -/

/-- The input simply ends, and nothing that is sent is refused. -/
structure Working (terminal : StreamTerminal) : Prop where
  ends : terminal.readFailure = none
  unbroken : terminal.broken = none
  roomy : terminal.sink.room = none

/-- Everything that was written: what the sink received, and what is still buffered. -/
def written (terminal : StreamTerminal) : Array UInt8 :=
  terminal.sink.received ++ terminal.buffer

theorem flush_eq {terminal : StreamTerminal} (working : terminal.Working) :
    terminal.flush =
      (.ok (), { terminal with buffer := #[], sink := ⟨terminal.written, none⟩ }) := by
  obtain ⟨input, readFailure, buffer, ⟨received, room⟩, broken⟩ := terminal
  obtain ⟨rfl, rfl, rfl⟩ := working
  simp [flush, Sink.write, Sink.accepts, written]

theorem put_cases {terminal : StreamTerminal} (working : terminal.Working) (c : Char) :
    ∃ after, terminal.put c = (.ok (), after) ∧ after.Working ∧ after.input = terminal.input ∧
      after.written = terminal.written ++ Utf8.encode c := by
  have flushed := flush_eq working
  obtain ⟨input, readFailure, buffer, ⟨received, room⟩, broken⟩ := terminal
  obtain ⟨rfl, rfl, rfl⟩ := working
  simp only [put, flushed]
  split
  · exact ⟨_, rfl, ⟨rfl, rfl, rfl⟩, rfl, Array.ext' (by simp [written])⟩
  · exact ⟨_, rfl, ⟨rfl, rfl, rfl⟩, rfl, Array.ext' (by simp [written])⟩

/-- A character is written behind the others, and nothing else changes. -/
theorem writeChar_cases {terminal : StreamTerminal} (working : terminal.Working) (c : Char) :
    ∃ after, terminal.writeChar c = (.ok (), after) ∧ after.Working ∧ after.input = terminal.input ∧
      after.written = terminal.written ++ Utf8.encode c := by
  obtain ⟨after, done, works, input, written⟩ := put_cases working c
  simp only [writeChar, done]
  split
  · exact ⟨_, flush_eq works, ⟨works.ends, works.unbroken, rfl⟩, input, written⟩
  · exact ⟨after, rfl, works, input, written⟩

/-- At the end of the input there is no line; before it the first one is handed out. Nothing that
    was written is lost. -/
theorem readLine_cases {terminal : StreamTerminal} (working : terminal.Working) :
    ∃ answer after, terminal.readLine = (answer, after) ∧ after.Working ∧
      after.written = terminal.written ∧
      (answer = .error .endOfInput ∧ terminal.input = [] ∧ after.input = [] ∨
        ∃ line, answer = .ok (line ++ [newline]) ∧ FirstLine terminal.input line after.input) := by
  have flushed := flush_eq working
  obtain ⟨input, readFailure, buffer, ⟨received, room⟩, broken⟩ := terminal
  obtain ⟨rfl, rfl, rfl⟩ := working
  simp only [readLine, flushed, takeLine]
  rcases splitLine_cases input with ⟨line, rest, split, free, rfl⟩ | ⟨split, free⟩
  · simp only [split]
    exact ⟨_, _, rfl, ⟨rfl, rfl, rfl⟩, by simp [written], .inr ⟨line, rfl, .ended free rest⟩⟩
  · simp only [split]
    cases input with
    | nil => exact ⟨_, _, rfl, ⟨rfl, rfl, rfl⟩, by simp [written], .inl ⟨rfl, rfl, rfl⟩⟩
    | cons b rest =>
      exact ⟨_, _, rfl, ⟨rfl, rfl, rfl⟩, by simp [written],
        .inr ⟨b :: rest, rfl, .last free (List.cons_ne_nil b rest)⟩⟩

end StreamTerminal

/-! ## The same answers from memory -/

theorem MemoryTerminal.foldl_enqueue (lines : List (List UInt8)) (terminal : MemoryTerminal) :
    lines.foldl enqueue terminal = ⟨terminal.lines ++ lines.map terminated, terminal.output⟩ := by
  induction lines generalizing terminal with
  | nil => simp
  | cons line rest ih => simp [ih, enqueue]

theorem MemoryTerminal.terminated_ne_nil (line : List UInt8) : terminated line ≠ [] := by
  rw [terminated]
  split
  · rename_i ends
    exact List.ne_nil_of_mem (List.mem_of_getLast? ends)
  · exact List.concat_ne_nil newline line

theorem MemoryTerminal.terminated_of_free {line : List UInt8} (free : newline ∉ line) :
    terminated line = line ++ [newline] := by
  have unterminated : line.getLast? ≠ some newline := fun ends => free (List.mem_of_getLast? ends)
  simp [terminated, unterminated]

/-- The terminal in memory has the lines that are left in the stream, and the same output. -/
structure Mirrors (stream : StreamTerminal) (memory : MemoryTerminal) : Prop where
  working : stream.Working
  lines : memory.lines = (Script.split stream.input).map MemoryTerminal.terminated
  output : memory.output = stream.written

theorem mirrors_simulates : Simulates Mirrors fun _ => False where
  write := by
    rintro stream memory c ⟨working, lines, output⟩
    obtain ⟨after, done, works, input, written⟩ := StreamTerminal.writeChar_cases working c
    simp only [Channel.writeChar, MemoryTerminal.writeChar, done]
    exact ⟨trivial, works, by rw [input]; exact lines, by rw [written, output]⟩
  read := by
    rintro stream ⟨queued, collected⟩ ⟨working, lines, output⟩
    obtain rfl : queued = _ := lines
    right
    obtain ⟨answer, after, done, works, written, ⟨rfl, empty, drained⟩ | ⟨line, rfl, first⟩⟩ :=
      StreamTerminal.readLine_cases working
    · have noLines : Script.split ([] : List UInt8) = [] := rfl
      simp only [Channel.readLine, done, empty, noLines, List.map_nil, MemoryTerminal.readLine]
      exact ⟨trivial, works, by rw [drained]; rfl, by rw [written, ← output]⟩
    · simp only [Channel.readLine, done, first.split_eq, List.map_cons, MemoryTerminal.readLine]
      exact ⟨by rw [MemoryTerminal.terminated_of_free first.free], works,
        rfl, by rw [written, ← output]⟩

/-- No program can tell a stream from the lines of the stream in memory. From every state of the
    machine and on every input the two make the same of any number of instructions, with the same
    events and the same faults, and what a flush has sent by then to a sink that takes everything is
    what has collected in memory. -/
theorem stream_agrees_with_memory (machine : Machine) (input : List UInt8) (n : Nat) :
    let stream := StreamTerminal.opened input none (.empty none)
    let memory := (Script.split input).foldl MemoryTerminal.enqueue .empty
    ∃ outcomes after streamAfter memoryAfter flushed,
      machine.steps n (some stream) = (outcomes, after, some streamAfter) ∧
      machine.steps n (some memory) = (outcomes, after, some memoryAfter) ∧
      streamAfter.flush = (.ok (), flushed) ∧ flushed.sink.received = memoryAfter.drain.1 := by
  intro stream memory
  have start : Mirrors stream memory := by
    refine ⟨⟨rfl, rfl, rfl⟩, ?_, ?_⟩
    · simp [memory, MemoryTerminal.foldl_enqueue, MemoryTerminal.empty, stream,
        StreamTerminal.opened]
    · simp [memory, MemoryTerminal.foldl_enqueue, MemoryTerminal.empty, stream,
        StreamTerminal.opened, StreamTerminal.written, Sink.empty]
  obtain ⟨outcomes, after, streamAfter, memoryAfter, onStream, inMemory, ends⟩ :=
    machine.steps_simulates mirrors_simulates n start
  exact ⟨outcomes, after, streamAfter, memoryAfter, _, onStream, inMemory,
    StreamTerminal.flush_eq ends.working, ends.output.symm⟩

end WordMachine
