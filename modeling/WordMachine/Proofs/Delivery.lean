import WordMachine.Proofs.ChannelCalls
import WordMachine.Proofs.Streams

/-!
Output on its way to a sink. What was written is in the sink or in the buffer behind it, and
sending moves bytes from one to the other and changes nothing else (`flush_cases`). After the
first failure nothing is added any more (`exchange_moved`). So whatever is asked of a terminal on
streams, and wherever its sink fails, the sink has received a beginning of the output, and all of
it whenever the buffer was sent (`output_in_order`).
-/

namespace WordMachine

theorem Sink.accepts_le (sink : Sink) (count : Nat) : sink.accepts count ≤ count := by
  unfold accepts
  split
  · exact Nat.le_refl _
  · exact Nat.min_le_right _ _

namespace StreamTerminal

open Channel (exchange history)

/-! ## Sending the buffer -/

/-- Output may be sent on, and nothing else changes. -/
structure Sent (before after : StreamTerminal) : Prop where
  written : after.written = before.written
  input : after.input = before.input
  buffer : after.buffer.size ≤ before.buffer.size

theorem Sent.refl (terminal : StreamTerminal) : Sent terminal terminal :=
  ⟨rfl, rfl, Nat.le_refl _⟩

theorem Sent.fits {before after : StreamTerminal} (sent : Sent before after) :
    after.buffer.size ≤ max before.buffer.size capacity :=
  Nat.le_trans sent.buffer (Nat.le_max_left _ _)

/-- A broken terminal stays as it is. Any other sends its whole buffer, or as much of it as the
    sink takes, and is broken from then on. -/
theorem flush_cases (terminal : StreamTerminal) :
    (∃ error, terminal.broken = some error ∧ terminal.flush = (.error error, terminal)) ∨
    (terminal.broken = none ∧ ∃ after, Sent terminal after ∧ after.broken = none ∧
      after.buffer = #[] ∧ terminal.flush = (.ok (), after)) ∨
    (terminal.broken = none ∧ ∃ error after, Sent terminal after ∧ after.broken = some error ∧
      terminal.flush = (.error error, after)) := by
  obtain ⟨input, readFailure, buffer, sink, broken⟩ := terminal
  cases broken with
  | some error => exact .inl ⟨error, rfl, rfl⟩
  | none =>
    right
    by_cases short : sink.accepts buffer.size < buffer.size
    · right
      refine ⟨rfl, Sink.full, ⟨input, readFailure, buffer.extract (sink.accepts buffer.size),
        (sink.write buffer).2, some Sink.full⟩, ⟨?_, rfl, ?_⟩, rfl,
        by simp [flush, Sink.write, if_pos short]⟩
      · -- The bytes that were taken and those left over make up the buffer.
        have whole : max (sink.accepts buffer.size) buffer.size = buffer.size :=
          Nat.max_eq_right (Nat.le_of_lt short)
        simp [written, Sink.write, short, Array.append_assoc, Array.extract_append_extract, whole]
      · simp
    · left
      have all : sink.accepts buffer.size = buffer.size :=
        Nat.le_antisymm (Sink.accepts_le sink buffer.size) (Nat.le_of_not_lt short)
      refine ⟨rfl, ⟨input, readFailure, #[], (sink.write buffer).2, none⟩, ⟨?_, rfl, ?_⟩, rfl, rfl,
        by simp [flush, Sink.write, if_neg short]⟩
      · simp [written, Sink.write, all]
      · simp

/-! ## Single calls -/

theorem length_encode_le (c : Char) : (Utf8.encode c).length ≤ demand (Utf8.encode c).length := by
  have size : (Utf8.encode c).length ≤ 4 := by
    rw [Utf8.encode, String.length_utf8EncodeChar]
    exact c.utf8Size_le_four
  unfold demand
  split
  · assumption
  · exact size

/-- A character is put behind the others, unless the terminal is broken or breaks before that. -/
theorem put_outcome (terminal : StreamTerminal) (c : Char) :
    (∃ error after, terminal.put c = (.error error, after) ∧ after.broken = some error ∧
      Sent terminal after) ∨
    (terminal.broken = none ∧ ∃ after, terminal.put c = (.ok (), after) ∧ after.broken = none ∧
      after.written = terminal.written ++ Utf8.encode c ∧ after.buffer.size ≤ capacity) := by
  have short := length_encode_le c
  have small : demand (Utf8.encode c).length ≤ capacity := by
    unfold demand
    split <;> decide
  cases unbroken : terminal.broken with
  | some error =>
    left
    exact ⟨error, terminal, by simp only [put, unbroken], unbroken, Sent.refl terminal⟩
  | none =>
    by_cases full : capacity < terminal.buffer.size + demand (Utf8.encode c).length
    · rcases terminal.flush_cases with ⟨_, broken, _⟩ | ⟨_, after, sent, works, empty, flushed⟩ |
        ⟨_, error, after, sent, breaks, flushed⟩
      · rw [unbroken] at broken
        cases broken
      · right
        refine ⟨rfl, { after with buffer := after.buffer ++ Utf8.encode c },
          by simp only [put, unbroken, if_pos full, flushed], works, ?_, ?_⟩
        · rw [← sent.written]
          exact Array.ext' (by simp [written])
        · simp [empty]
          omega
      · left
        exact ⟨error, after, by simp only [put, unbroken, if_pos full, flushed], breaks, sent⟩
    · right
      refine ⟨rfl, { terminal with buffer := terminal.buffer ++ Utf8.encode c },
        by simp only [put, unbroken, if_neg full], unbroken, ?_, ?_⟩
      · exact Array.ext' (by simp [written])
      · have size : (terminal.buffer ++ Utf8.encode c).size =
            terminal.buffer.size + (Utf8.encode c).length := by
          rw [← Array.length_toList, Array.toList_appendList, List.length_append,
            Array.length_toList]
        dsimp only
        omega

/-- A character is written, and a newline sends the buffer. Where it is refused the terminal is
    broken; the character may have been put before that. -/
theorem writeChar_outcome (terminal : StreamTerminal) (c : Char) :
    (∃ error after, terminal.writeChar c = (.error error, after) ∧ after.broken = some error ∧
      after.buffer.size ≤ max terminal.buffer.size capacity ∧
      (after.written = terminal.written ∨
        terminal.broken = none ∧ after.written = terminal.written ++ Utf8.encode c)) ∨
    (terminal.broken = none ∧ ∃ after, terminal.writeChar c = (.ok (), after) ∧
      after.written = terminal.written ++ Utf8.encode c ∧ after.buffer.size ≤ capacity ∧
      after.broken = none ∧ (c = '\n' → after.buffer = #[])) := by
  rcases terminal.put_outcome c with ⟨error, after, refused, breaks, sent⟩ |
    ⟨unbroken, placed, taken, works, written, fits⟩
  · left
    exact ⟨error, after, by simp only [writeChar, refused], breaks, sent.fits,
      .inl sent.written⟩
  · by_cases ends : c = '\n'
    · rcases placed.flush_cases with ⟨_, broken, _⟩ | ⟨_, after, sent, works, empty, flushed⟩ |
        ⟨_, error, after, sent, breaks, flushed⟩
      · rw [works] at broken
        cases broken
      · right
        refine ⟨unbroken, after, by simp only [writeChar, taken, if_pos ends, flushed],
          sent.written.trans written, ?_, works, fun _ => empty⟩
        exact Nat.le_trans sent.buffer fits
      · left
        exact ⟨error, after, by simp only [writeChar, taken, if_pos ends, flushed], breaks,
          Nat.le_trans (Nat.le_trans sent.buffer fits) (Nat.le_max_right _ _),
          .inr ⟨unbroken, sent.written.trans written⟩⟩
    · right
      exact ⟨unbroken, placed, by simp only [writeChar, taken, if_neg ends], written, fits, works,
        fun is => absurd is ends⟩

theorem takeLine_frame (terminal : StreamTerminal) :
    ∃ input, terminal.takeLine.2 = { terminal with input } := by
  unfold takeLine
  split <;> exact ⟨_, rfl⟩

/-- The buffer is sent before a line is taken; if that fails, the input is left alone. -/
theorem readLine_outcome (terminal : StreamTerminal) :
    (∃ error after, terminal.flush = (.error error, after) ∧
      terminal.readLine = (.error error, after) ∧ after.broken = some error ∧ Sent terminal after) ∨
    (terminal.broken = none ∧ ∃ flushed, Sent terminal flushed ∧ flushed.buffer = #[] ∧
      terminal.readLine = flushed.takeLine) := by
  rcases terminal.flush_cases with ⟨error, broken, flushed⟩ |
    ⟨unbroken, after, sent, _, empty, flushed⟩ | ⟨_, error, after, sent, breaks, flushed⟩
  · exact .inl ⟨error, terminal, flushed, by simp only [readLine, flushed], broken,
      Sent.refl terminal⟩
  · exact .inr ⟨unbroken, after, sent, empty, by simp only [readLine, flushed]⟩
  · exact .inl ⟨error, after, flushed, by simp only [readLine, flushed], breaks, sent⟩

/-! ## Any calls -/

theorem exchange_write (terminal : StreamTerminal) (code : Int) :
    exchange terminal (.write code) =
      (.write code (terminal.writeChar (Utf8.charOfCode code)).1,
        (terminal.writeChar (Utf8.charOfCode code)).2) :=
  rfl

theorem exchange_read (terminal : StreamTerminal) :
    exchange terminal .read = (.read terminal.readLine.1, terminal.readLine.2) :=
  rfl

theorem exchange_flush (terminal : StreamTerminal) :
    exchange terminal .flush = (.flush terminal.flush.1, terminal.flush.2) :=
  rfl

/-- What a call makes of a terminal: it adds its bytes, which it does only while nothing has failed,
    or it fails, the terminal is broken, and nothing is added. The buffer grows no further than
    there is room. -/
inductive Moved (before : StreamTerminal) (bytes : List UInt8) :
    Option ChannelError → StreamTerminal → Prop
  | added {error? : Option ChannelError} {after : StreamTerminal}
      (unbroken : before.broken = none) (written : after.written = before.written ++ bytes)
      (fits : after.buffer.size ≤ max before.buffer.size capacity) : Moved before bytes error? after
  | refused {error : ChannelError} {after : StreamTerminal} (broken : after.broken = some error)
      (written : after.written = before.written)
      (fits : after.buffer.size ≤ max before.buffer.size capacity) :
      Moved before bytes (some error) after

/-- Sending alone adds nothing. -/
theorem Sent.moved {before after : StreamTerminal} (sent : Sent before after)
    (unbroken : before.broken = none) (error? : Option ChannelError) :
    Moved before [] error? after :=
  .added unbroken (by simpa using sent.written) sent.fits

theorem exchange_moved (terminal : StreamTerminal) (call : ChannelCall) :
    Moved terminal call.bytes (exchange terminal call).1.error? (exchange terminal call).2 := by
  cases call with
  | write code =>
    rcases terminal.writeChar_outcome (Utf8.charOfCode code) with
      ⟨error, after, refused, breaks, fits, same | ⟨unbroken, longer⟩⟩ |
      ⟨unbroken, after, taken, longer, fits, _⟩
    · rw [exchange_write, refused]
      exact .refused breaks same fits
    · rw [exchange_write, refused]
      exact .added unbroken longer fits
    · rw [exchange_write, taken]
      exact .added unbroken longer (Nat.le_trans fits (Nat.le_max_right _ _))
  | read =>
    rcases terminal.readLine_outcome with ⟨error, after, _, refused, breaks, sent⟩ |
      ⟨unbroken, flushed, sent, _, read⟩
    · rw [exchange_read, refused]
      exact .refused breaks sent.written sent.fits
    · obtain ⟨input, frame⟩ := flushed.takeLine_frame
      rw [exchange_read, read, frame]
      have same : ({ flushed with input } : StreamTerminal).written = flushed.written := rfl
      exact .added unbroken (by simp [ChannelCall.bytes, same, sent.written]) sent.fits
  | flush =>
    rcases terminal.flush_cases with ⟨error, broken, flushed⟩ |
      ⟨unbroken, after, sent, _, _, flushed⟩ | ⟨unbroken, error, after, sent, _, flushed⟩
    · rw [exchange_flush, flushed]
      exact .refused broken rfl (Nat.le_max_left _ _)
    · rw [exchange_flush, flushed]
      exact sent.moved unbroken _
    · rw [exchange_flush, flushed]
      exact sent.moved unbroken _

/-- What was written is a beginning of the output, and all of it as long as nothing has failed. -/
structure Delivered (output : List UInt8) (terminal : StreamTerminal) : Prop where
  ordered : terminal.written.toList <+: output
  whole : terminal.broken = none → terminal.written.toList = output
  fits : terminal.buffer.size ≤ capacity

theorem Delivered.exchange {output : List UInt8} {terminal : StreamTerminal}
    (delivered : terminal.Delivered output) (call : ChannelCall) :
    (Channel.exchange terminal call).2.Delivered (output ++ call.bytes) := by
  have moved := terminal.exchange_moved call
  generalize (Channel.exchange terminal call).1.error? = error?,
    (Channel.exchange terminal call).2 = after at moved ⊢
  have room : max terminal.buffer.size capacity = capacity := Nat.max_eq_right delivered.fits
  cases moved with
  | added unbroken written fits =>
    have longer : after.written.toList = output ++ call.bytes := by
      rw [written, Array.toList_appendList, delivered.whole unbroken]
    exact ⟨longer ▸ List.prefix_refl _, fun _ => longer, room ▸ fits⟩
  | refused broken written fits =>
    refine ⟨?_, fun works => absurd (works.symm.trans broken) nofun, room ▸ fits⟩
    rw [written]
    exact delivered.ordered.trans (List.prefix_append _ _)

theorem Delivered.history (calls : List ChannelCall) {output : List UInt8}
    {terminal : StreamTerminal} (delivered : terminal.Delivered output) :
    (Channel.history calls terminal).2.Delivered (output ++ calls.flatMap ChannelCall.bytes) := by
  induction calls generalizing output terminal with
  | nil => simpa [Channel.history] using delivered
  | cons call rest ih =>
    have further := ih (delivered.exchange call)
    rw [List.append_assoc] at further
    exact further

/-- As long as no character was refused, everything is in the sink or in the buffer, even if sending
    it has failed. -/
theorem written_history (calls : List ChannelCall) (terminal : StreamTerminal)
    (accepted : ∀ code answer, .write code answer ∈ (history calls terminal).1 →
      answer = .ok ()) :
    (history calls terminal).2.written.toList =
      terminal.written.toList ++ calls.flatMap ChannelCall.bytes := by
  induction calls generalizing terminal with
  | nil => simp [history]
  | cons call rest ih =>
    have now : (exchange terminal call).2.written.toList =
        terminal.written.toList ++ call.bytes := by
      have moved := terminal.exchange_moved call
      have taken : ∀ code, call = .write code → (exchange terminal call).1.error? = none := by
        rintro code rfl
        have answer := accepted code (terminal.writeChar (Utf8.charOfCode code)).1
          List.mem_cons_self
        rw [exchange_write, answer]
        rfl
      generalize (exchange terminal call).1.error? = error?, (exchange terminal call).2 = after
        at moved taken ⊢
      cases moved with
      | added _ written _ => rw [written, Array.toList_appendList]
      | refused _ written _ =>
        cases call with
        | write code => cases taken code rfl
        | read | flush => rw [written, ChannelCall.bytes, List.append_nil]
    have further := ih (exchange terminal call).2 fun code answer member =>
      accepted code answer (List.mem_cons_of_mem _ member)
    rw [now, List.append_assoc] at further
    exact further

theorem received_of_empty {terminal : StreamTerminal} (empty : terminal.buffer = #[]) :
    terminal.sink.received = terminal.written := by
  rw [written, empty, Array.append_empty]

/-- All of the output has arrived once it is sent by a terminal on which nothing has failed. -/
theorem Delivered.received {output : List UInt8} {terminal sent : StreamTerminal}
    (delivered : terminal.Delivered output) (unbroken : terminal.broken = none)
    (written : sent.written = terminal.written) (empty : sent.buffer = #[]) :
    sent.sink.received.toList = output := by
  rw [received_of_empty empty, written, delivered.whole unbroken]

theorem Delivered.after_flush {output : List UInt8} {terminal after : StreamTerminal}
    (delivered : terminal.Delivered output) (done : terminal.flush = (.ok (), after)) :
    after.buffer = #[] ∧ after.sink.received.toList = output := by
  rcases terminal.flush_cases with ⟨_, _, refused⟩ | ⟨unbroken, _, sent, _, empty, flushed⟩ |
    ⟨_, _, _, _, _, refused⟩
  · rw [refused] at done
    cases done
  · rw [flushed] at done
    cases done
    exact ⟨empty, delivered.received unbroken sent.written empty⟩
  · rw [refused] at done
    cases done

theorem Delivered.after_newline {output : List UInt8} {terminal after : StreamTerminal}
    (delivered : terminal.Delivered output) (done : terminal.writeChar '\n' = (.ok (), after)) :
    after.buffer = #[] ∧ after.sink.received.toList = output ++ [newline] := by
  rcases terminal.writeChar_outcome '\n' with ⟨_, _, refused, _⟩ |
    ⟨unbroken, _, taken, longer, _, _, ends⟩
  · rw [refused] at done
    cases done
  · rw [taken] at done
    cases done
    refine ⟨ends rfl, ?_⟩
    rw [received_of_empty (ends rfl), longer, Array.toList_appendList, delivered.whole unbroken]
    rfl

/-- Output is delivered in order and without gaps. Whatever is asked of a terminal on streams, and
    however much its sink takes before it fails, the sink has received a beginning of the output,
    and the buffer has never more in it than there is room for. As long as no character was refused,
    sink and buffer together hold the whole output. Once a newline is written, or a flush succeeds,
    the sink has all of it; and so it has before a line is taken from the input. -/
theorem output_in_order (input : List UInt8) (readFailure : Option String) (room : Option Nat)
    (calls : List ChannelCall) :
    let output := calls.flatMap ChannelCall.bytes
    let answers := (history calls (opened input readFailure (.empty room))).1
    let now := (history calls (opened input readFailure (.empty room))).2
    now.sink.received.toList <+: output ∧
    now.buffer.size ≤ capacity ∧
    ((∀ code answer, .write code answer ∈ answers → answer = .ok ()) →
      now.sink.received.toList ++ now.buffer.toList = output) ∧
    (∀ after, now.writeChar '\n' = (.ok (), after) →
      after.buffer = #[] ∧ after.sink.received.toList = output ++ [newline]) ∧
    (∀ after, now.flush = (.ok (), after) →
      after.buffer = #[] ∧ after.sink.received.toList = output) ∧
    ((∃ error after, now.flush = (.error error, after) ∧ now.readLine = (.error error, after) ∧
        after.input = now.input) ∨
      ∃ flushed : StreamTerminal, now.readLine = flushed.takeLine ∧ flushed.input = now.input ∧
        flushed.buffer = #[] ∧ flushed.sink.received.toList = output) := by
  intro output answers now
  have start : (opened input readFailure (.empty room)).written.toList = [] := by
    simp [opened, written, Sink.empty]
  have delivered : now.Delivered output := by
    have fresh : (opened input readFailure (.empty room)).Delivered [] :=
      ⟨start ▸ List.prefix_refl _, fun _ => start, Nat.zero_le _⟩
    simpa using fresh.history calls
  refine ⟨?_, delivered.fits, ?_, fun _ => delivered.after_newline,
    fun _ => delivered.after_flush, ?_⟩
  · apply List.IsPrefix.trans _ delivered.ordered
    rw [written, Array.toList_append]
    exact List.prefix_append _ _
  · intro accepted
    have all := written_history calls (opened input readFailure (.empty room)) accepted
    rw [start, List.nil_append, written, Array.toList_append] at all
    exact all
  · rcases now.readLine_outcome with ⟨error, after, failed, refused, _, sent⟩ |
      ⟨unbroken, flushed, sent, empty, read⟩
    · exact .inl ⟨error, after, failed, refused, sent.input⟩
    · exact .inr ⟨flushed, read, sent.input, empty,
        delivered.received unbroken sent.written empty⟩

end StreamTerminal

end WordMachine
