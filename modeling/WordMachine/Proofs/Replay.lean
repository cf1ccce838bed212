import Mathlib.Data.List.Forall2
import WordMachine.Proofs.ChannelCalls
import WordMachine.Proofs.Input
import WordMachine.Proofs.Scripts

/-!
The replay of a script. A read takes the first line off the script and hands it out, or fails if
the next channel refuses a character of the line (`readLine_cases`). So a script in front of a
channel that accepts all characters hands out its lines and then those of the channel
(`replays_prepared_lines`), and a line is lost exactly if its echo is refused
(`lines_kept_unless_echo_refused`).
-/

namespace WordMachine

namespace Script
open Channel

variable {τ : Type} [Channel τ]

/-- The characters that are echoed for some lines. -/
def transcript (echo : Bool) (lines : List (List UInt8)) : List Char :=
  if echo then lines.flatMap Utf8.decode else []

/-- The calls that reach the next channel. While there are lines, a read comes out as the characters
    of its echo. -/
def forwarded (echo : Bool) : List (List UInt8) → List ChannelCall → List ChannelCall
  | [], calls => calls
  | _, [] => []
  | line :: lines, .read :: calls =>
    (transcript echo [line]).map .put ++ forwarded echo lines calls
  | lines, call :: calls => call :: forwarded echo lines calls

theorem transcript_nil (echo : Bool) : transcript echo [] = [] := by
  cases echo <;> rfl

theorem transcript_cons (echo : Bool) (line : List UInt8) (lines : List (List UInt8)) :
    transcript echo (line :: lines) = transcript echo [line] ++ transcript echo lines := by
  cases echo with
  | false => rfl
  | true => simp [transcript]

theorem forwarded_reads (echo : Bool) (lines : List (List UInt8)) (n : Nat) :
    forwarded echo lines (List.replicate n .read) =
      (transcript echo (lines.take n)).map .put ++ List.replicate (n - lines.length) .read := by
  induction n generalizing lines with
  | zero => cases lines <;> simp [forwarded, transcript_nil]
  | succ n ih =>
    cases lines with
    | nil => simp [forwarded, transcript_nil]
    | cons line lines =>
      rw [List.replicate_succ, forwarded, ih, List.take_succ_cons,
        transcript_cons echo line (lines.take n),
        List.map_append, List.append_assoc, List.length_cons, Nat.add_sub_add_right]

theorem writeAll_cases (text : List Char) (next : τ) :
    Accepts text next ∧
      writeAll writeChar text next = (.ok (), (perform (text.map .put) next).2) ∨
    ¬ Accepts text next ∧
      ∃ error after, writeAll writeChar text next = (.error error, after) := by
  induction text generalizing next with
  | nil => exact .inl ⟨trivial, rfl⟩
  | cons c rest ih =>
    rcases written : writeChar next c with ⟨answer, after⟩
    simp only [writeAll, Accepts, List.map_cons, perform_put, written]
    cases answer with
    | error error => exact .inr ⟨fun accepts => absurd accepts.1 (by simp), error, after, rfl⟩
    | ok _ =>
      rcases ih after with ⟨accepts, done⟩ | ⟨refuses, error, last, done⟩
      · exact .inl ⟨⟨rfl, accepts⟩, done⟩
      · exact .inr ⟨fun accepts => refuses accepts.2, error, last, done⟩

/-- A read takes the first line off, also when the echo is refused and the read fails. -/
theorem readLine_cases (line : List UInt8) (rest : List (List UInt8)) (echo : Bool) (next : τ) :
    Channel.readLine (⟨⟨line :: rest, echo⟩, next⟩ : Scripted τ) =
        (.ok line, ⟨⟨rest, echo⟩, (perform ((transcript echo [line]).map .put) next).2⟩) ∧
      Accepts (transcript echo [line]) next ∨
    (∃ error after, Channel.readLine (⟨⟨line :: rest, echo⟩, next⟩ : Scripted τ) =
        (.error error, ⟨⟨rest, echo⟩, after⟩)) ∧
      ¬ Accepts (transcript echo [line]) next := by
  cases echo with
  | false => exact .inl ⟨rfl, trivial⟩
  | true =>
    have echoed : transcript true [line] = Utf8.decode line := List.append_nil _
    simp only [Channel.readLine, readLine, echoed, if_true]
    rcases writeAll_cases (Utf8.decode line) next
      with ⟨accepts, done⟩ | ⟨refuses, error, after, done⟩
    · exact .inl ⟨by rw [done], accepts⟩
    · exact .inr ⟨⟨error, after, by rw [done]⟩, refuses⟩

theorem perform_exhausted (echo : Bool) (calls : List ChannelCall) (next : τ) :
    perform calls (⟨⟨[], echo⟩, next⟩ : Scripted τ) =
      ((perform calls next).1, ⟨⟨[], echo⟩, (perform calls next).2⟩) :=
  perform_map (fun next => (⟨⟨[], echo⟩, next⟩ : Scripted τ))
    (fun _ call => by cases call <;> rfl) calls next

/-- The reads give the lines and then what the next channel answers. -/
theorem perform_scripted (lines : List (List UInt8)) (echo : Bool) {next : τ}
    (accepting : Accepting next) (calls : List ChannelCall) :
    perform calls (⟨⟨lines, echo⟩, next⟩ : Scripted τ) =
      ((lines.take (calls.count .read)).map .ok ++ (perform (forwarded echo lines calls) next).1,
        ⟨⟨lines.drop (calls.count .read), echo⟩,
        (perform (forwarded echo lines calls) next).2⟩) := by
  induction calls generalizing lines next with
  | nil => cases lines <;> rfl
  | cons call calls ih =>
    cases lines with
    | nil =>
      simp only [perform_exhausted, forwarded, List.take_nil, List.drop_nil, List.map_nil,
        List.nil_append]
    | cons line lines =>
      cases call with
      | write code =>
        rw [ChannelCall.count_write]
        exact ih (line :: lines) (accepting.after [.write code])
      | flush =>
        rw [ChannelCall.count_flush]
        exact ih (line :: lines) (accepting.after [.flush])
      | read =>
        -- The echo is accepted, so that the read gives its line and lets only the echo through.
        rcases readLine_cases line lines echo next with ⟨read, _⟩ | ⟨_, refuses⟩
        · rw [List.count_cons_self, List.take_succ_cons, List.drop_succ_cons, forwarded,
            perform_append, perform_puts, perform_read read, ih lines (accepting.after _)]
          rfl
        · exact absurd (accepting.accepts _) refuses

end Script

/-! ## The terminals of a machine -/

namespace Terminal
open Channel

theorem steady_flush {terminal : Terminal} (steady : terminal.Steady) :
    terminal.flush.2.Steady := by
  induction terminal with
  | null => exact steady
  | memory t => exact steady
  | stream t =>
    simp only [flush, StreamTerminal.flush_eq steady]
    exact ⟨steady.ends, steady.unbroken, rfl⟩
  | editor t => exact steady.elim
  | script s next ih => exact ⟨steady.1, ih steady.2⟩

theorem steady_exchange {terminal : Terminal} (steady : terminal.Steady) (call : ChannelCall) :
    (exchange terminal call).2.Steady := by
  cases call with
  | write code =>
    obtain ⟨after, done, works, _⟩ := writeChar_supplies steady (Utf8.charOfCode code)
    have written : Channel.writeChar terminal (Utf8.charOfCode code) = (.ok (), after) := done
    rwa [exchange, written]
  | flush => exact steady_flush steady
  | read =>
    obtain ⟨answer, after, done, works, _⟩ := readLine_supplies steady
    have read : Channel.readLine terminal = (answer, after) := done
    rwa [exchange, read]

theorem steady_perform (calls : List ChannelCall) {terminal : Terminal} (steady : terminal.Steady) :
    (perform calls terminal).2.Steady := by
  induction calls generalizing terminal with
  | nil => exact steady
  | cons call calls ih => exact ih (steady_exchange steady call)

/-- Unless a sink is bounded or a screen is used, no terminal refuses a character. -/
theorem Steady.accepting {terminal : Terminal} (steady : terminal.Steady) : Accepting terminal := by
  intro calls c
  obtain ⟨after, done, _⟩ := writeChar_supplies (steady_perform calls steady) c
  exact congrArg Prod.fst done

theorem perform_null (calls : List ChannelCall) :
    perform calls null = (List.replicate (calls.count .read) (.error .endOfInput), null) := by
  induction calls with
  | nil => rfl
  | cons call calls ih =>
    cases call with
    | write code =>
      rw [ChannelCall.count_write]
      exact ih
    | flush =>
      rw [ChannelCall.count_flush]
      exact ih
    | read =>
      have asked : Channel.readLine null = (.error .endOfInput, null) := rfl
      rw [List.count_cons_self, List.replicate_succ, perform_read asked, ih]

/-- A terminal behind a script is the next channel of the script. -/
theorem perform_script (calls : List ChannelCall) (s : Script) (next : Terminal) :
    perform calls (script s next) =
      let (answers, after) := perform calls (⟨s, next⟩ : Scripted Terminal)
      (answers, script after.script after.next) := by
  refine perform_map (fun terminal : Scripted Terminal => script terminal.script terminal.next)
    (fun terminal call => ?_) calls ⟨s, next⟩
  obtain ⟨⟨lines, echo⟩, next⟩ := terminal
  cases call with
  | read => cases lines <;> rfl
  | _ => rfl

end Terminal

namespace Script
open Channel

variable {τ : Type} [Channel τ]

/-- A text whose lines are not too long is replayed in front of any channel that accepts all
    characters, with other calls in between or without. The reads give the lines that the text
    stands for, each once and in order, and then what the next channel gives. What is left is what
    was not given. The next channel is written what is echoed for the lines that were given: the
    characters that they spell, or nothing. -/
theorem replays_prepared_lines {bytes : List UInt8} (echo : Bool) {next : τ}
    (short : ∀ line ∈ bytes.splitOn newline, line.length < 65536) (accepting : Accepting next) :
    let lines := prepared bytes
    parse bytes echo = .ok ⟨lines, echo⟩ ∧
      (∀ calls,
        let reads := calls.count .read
        let reached := perform (forwarded echo lines calls) next
        let replayed := perform calls (⟨⟨lines, echo⟩, next⟩ : Scripted τ)
        replayed =
            ((lines.take reads).map .ok ++ reached.1, ⟨⟨lines.drop reads, echo⟩, reached.2⟩) ∧
          replayed.2.script.remaining = lines.length - reads) ∧
      (∀ n,
        forwarded echo lines (List.replicate n .read) =
          (if echo then (lines.take n).flatMap Utf8.decode else []).map .put ++
            List.replicate (n - lines.length) .read) ∧
      (∀ line text, Utf8.decode line = text ↔ Utf8.Spells line text) ∧
      (∀ calls, perform calls Terminal.null =
        (List.replicate (calls.count .read) (.error .endOfInput), .null)) ∧
      ∀ calls script terminal, perform calls (Terminal.script script terminal) =
        let (answers, after) := perform calls (⟨script, terminal⟩ : Scripted Terminal)
        (answers, .script after.script after.next) := by
  intro lines
  refine ⟨by rw [parse_eq, if_pos short], fun calls => ?_, forwarded_reads echo lines,
    fun line text => Utf8.spells_iff.symm, Terminal.perform_null, Terminal.perform_script⟩
  have replayed := perform_scripted lines echo accepting calls
  exact ⟨replayed, by rw [replayed, remaining, List.length_drop]⟩

/-- A comment, a blank line, a byte that is no character, carriage returns and a last line without a
    newline, in front of one queued line. -/
theorem replays_prepared_lines_of_marked_text :
    let bytes : List UInt8 := [35, 99, 10, 10, 32, 255, 97, 13, 13, 10, 32, 98]
    let lines : List (List UInt8) := [[32, 255, 97, 10], [32, 98, 10]]
    let next : Terminal := .memory ⟨[[120, 10]], #[]⟩
    let replayed := perform [.read, .put '!', .read, .read, .read]
      (⟨⟨lines, true⟩, next⟩ : Scripted Terminal)
    (∀ line ∈ bytes.splitOn newline, line.length < 65536) ∧ next.Steady ∧
      parse bytes true = .ok ⟨lines, true⟩ ∧
      replayed.1 = [.ok [32, 255, 97, 10], .ok [32, 98, 10], .ok [120, 10], .error .endOfInput] ∧
      replayed.2.script.remaining = 0 ∧
      replayed.2.next = .memory ⟨[], #[32, 239, 191, 189, 97, 10, 33, 32, 98, 10]⟩ := by
  intro bytes lines next replayed
  have short : ∀ line ∈ bytes.splitOn newline, line.length < 65536 := by decide +kernel
  have steady : next.Steady := by
    intro line queued
    rw [List.mem_singleton.mp queued]
    exact List.cons_ne_nil 120 [10]
  have same : prepared bytes = lines := by decide +kernel
  obtain ⟨parsed, replays, -⟩ := replays_prepared_lines true short steady.accepting
  rw [same] at parsed replays
  obtain ⟨answered, left⟩ := replays [.read, .put '!', .read, .read, .read]
  refine ⟨short, steady, parsed, ?_, left, ?_⟩
  all_goals
    rw [show replayed = _ from answered]
    decide +kernel

/-! ## Lines that are lost -/

/-- The lines that the reads gave which found one in the script. -/
def handedOut (lines : List (List UInt8)) (answers : List (Except ChannelError (List UInt8))) :
    List (List UInt8) :=
  (answers.take lines.length).filterMap Except.toOption

/-- What a read gives that takes a line off. -/
def Gives (line : List UInt8) (answer : Except ChannelError (List UInt8)) : Prop :=
  answer = .ok line ∨ ∃ error, answer = .error error

/-- Each line goes with one answer, whatever the answer is. -/
theorem perform_lines (lines : List (List UInt8)) (echo : Bool) (next : τ)
    (calls : List ChannelCall) :
    ∃ answers after, perform calls (⟨⟨lines, echo⟩, next⟩ : Scripted τ) =
        (answers, ⟨⟨lines.drop (calls.count .read), echo⟩, after⟩) ∧
      List.Forall₂ Gives (lines.take (calls.count .read)) (answers.take lines.length) := by
  induction calls generalizing lines next with
  | nil => exact ⟨[], next, rfl, by simp⟩
  | cons call calls ih =>
    cases call with
    | write code =>
      rw [ChannelCall.count_write]
      exact ih lines (writeChar next (Utf8.charOfCode code)).2
    | flush =>
      rw [ChannelCall.count_flush]
      exact ih lines (Channel.flush next).2
    | read =>
      cases lines with
      | nil => exact ⟨_, _, by rw [perform_exhausted, List.drop_nil], by simp⟩
      | cons line lines =>
        have taken : ∃ answer left, Channel.readLine (⟨⟨line :: lines, echo⟩, next⟩ : Scripted τ) =
            (answer, ⟨⟨lines, echo⟩, left⟩) ∧ Gives line answer := by
          rcases readLine_cases line lines echo next with ⟨read, _⟩ | ⟨⟨error, left, read⟩, _⟩
          · exact ⟨_, _, read, .inl rfl⟩
          · exact ⟨_, _, read, .inr ⟨error, rfl⟩⟩
        obtain ⟨answer, left, read, gives⟩ := taken
        obtain ⟨answers, after, performed, each⟩ := ih lines left
        refine ⟨answer :: answers, after, ?_, ?_⟩
        · rw [perform_read read, performed, List.count_cons_self, List.drop_succ_cons]
        · rw [List.count_cons_self, List.take_succ_cons, List.length_cons, List.take_succ_cons]
          exact .cons gives each

theorem filterMap_eq_iff {lines : List (List UInt8)}
    {answers : List (Except ChannelError (List UInt8))} (each : List.Forall₂ Gives lines answers) :
    answers.filterMap Except.toOption = lines ↔ ∀ error, .error error ∉ answers := by
  induction each with
  | nil => simp
  | @cons line answer lines answers gives each ih =>
    rcases gives with rfl | ⟨error, rfl⟩
    · simpa [Except.toOption] using ih
    · have fewer : (answers.filterMap Except.toOption).length ≤ lines.length :=
        each.length_eq ▸ List.length_filterMap_le _ answers
      constructor
      · intro same
        have length := congrArg List.length same
        rw [List.filterMap_cons_none rfl, List.length_cons] at length
        omega
      · intro unfailed
        exact absurd List.mem_cons_self (unfailed error)

/-- The reads fail none of the lines exactly when the next channel accepts what is echoed. -/
theorem unfailed_iff (lines : List (List UInt8)) (echo : Bool) (next : τ) (n : Nat) :
    (∀ error, .error error ∉
      (perform (List.replicate n .read) (⟨⟨lines, echo⟩, next⟩ : Scripted τ)).1.take
        lines.length) ↔
      Accepts (transcript echo (lines.take n)) next := by
  induction n generalizing lines next with
  | zero => simp [perform, history, transcript_nil, Accepts]
  | succ n ih =>
    cases lines with
    | nil => simp [transcript_nil, Accepts]
    | cons line lines =>
      rw [List.replicate_succ, List.take_succ_cons, transcript_cons, accepts_append]
      rcases readLine_cases line lines echo next
        with ⟨read, accepts⟩ | ⟨⟨error, left, read⟩, refuses⟩
      · simp only [perform_read read, List.length_cons, List.take_succ_cons, ← ih]
        simp [accepts]
      · simp only [perform_read read, List.length_cons, List.take_succ_cons, refuses, false_and,
          iff_false]
        exact fun unfailed => unfailed error List.mem_cons_self

/-- An `in` instruction whose line cannot be echoed faults and leaves the machine as it is, but the
    script has lost the line. -/
theorem step_of_refused_echo {machine : Machine} (asking : machine.Asking) {line : List UInt8}
    (rest : List (List UInt8)) {echo : Bool} {next : τ}
    (refuses : ¬ Accepts (transcript echo [line]) next) :
    ∃ fault after, machine.step (some (⟨⟨line :: rest, echo⟩, next⟩ : Scripted τ)) =
      (.faulted fault, machine, some ⟨⟨rest, echo⟩, after⟩) := by
  obtain ⟨empty, instruction, index, following, halts, resolved⟩ := asking
  rcases readLine_cases line rest echo next with ⟨_, accepts⟩ | ⟨⟨error, after, read⟩, _⟩
  · exact absurd accepts refuses
  · rw [resolved.step_input, empty]
    simp only [Machine.takeInput, read]
    cases error with
    | endOfInput => exact ⟨_, after, rfl⟩
    | failure reason => exact ⟨_, after, rfl⟩

/-- Whatever is called, the lines that were handed out and the lines that are left are together the
    lines of the script if and only if no read failed that found a line. When only lines are read,
    it is the next channel that decides: it has to accept all that is echoed. A read that fails on a
    line has taken it off nevertheless, and so has an `in` instruction, which leaves the machine as
    it was. -/
theorem lines_kept_unless_echo_refused (lines : List (List UInt8)) (echo : Bool) (next : τ) :
    let terminal : Scripted τ := ⟨⟨lines, echo⟩, next⟩
    (∀ calls,
      let (answers, after) := perform calls terminal
      after.script = ⟨lines.drop (calls.count .read), echo⟩ ∧
        (handedOut lines answers ++ after.script.lines = lines ↔
          ∀ error, .error error ∉ answers.take lines.length)) ∧
    (∀ n,
      let (answers, after) := perform (List.replicate n .read) terminal
      handedOut lines answers ++ after.script.lines = lines ↔
        Accepts (transcript echo (lines.take n)) next) ∧
    ∀ line rest (machine : Machine), lines = line :: rest →
      ¬ Accepts (transcript echo [line]) next →
      (∃ error after, Channel.readLine terminal = (.error error, ⟨⟨rest, echo⟩, after⟩)) ∧
      (machine.Asking → ∃ fault after, machine.step (some terminal) =
        (.faulted fault, machine, some ⟨⟨rest, echo⟩, after⟩)) := by
  intro terminal
  have kept (calls : List ChannelCall) :
      (perform calls terminal).2.script = ⟨lines.drop (calls.count .read), echo⟩ ∧
        (handedOut lines (perform calls terminal).1 ++ (perform calls terminal).2.script.lines =
          lines ↔
          ∀ error, .error error ∉ (perform calls terminal).1.take lines.length) := by
    obtain ⟨answers, after, performed, each⟩ := perform_lines lines echo next calls
    rw [show perform calls terminal = _ from performed]
    refine ⟨rfl, Iff.trans ?_ (filterMap_eq_iff each)⟩
    -- The lines that are left stand behind those that were taken off, and cancel.
    conv_lhs => rhs; rw [← List.take_append_drop (calls.count .read) lines]
    exact List.append_left_inj _
  refine ⟨kept, fun n => (kept _).2.trans (unfailed_iff lines echo next n), ?_⟩
  rintro line rest machine rfl refuses
  refine ⟨?_, fun asking => step_of_refused_echo asking rest refuses⟩
  rcases readLine_cases line rest echo next with ⟨_, accepts⟩ | ⟨failed, _⟩
  · exact absurd accepts refuses
  · exact failed

/-- A sink with room for the first of two lines, and a machine that asks for the second. -/
theorem lines_kept_unless_echo_refused_at_short_sink :
    let look : List UInt8 := [108, 111, 111, 107, 10]
    let north : List UInt8 := [110, 111, 114, 116, 104, 10]
    let next : StreamTerminal := .opened [] none (.empty (some 5))
    let terminal : Scripted StreamTerminal := ⟨⟨[look, north], true⟩, next⟩
    let (answers, after) := perform [.read] terminal
    let (allAnswers, last) := perform [.read, .read] terminal
    let machine : Machine :=
      { Machine.initial with store := (Store.empty.put ⟨0, by decide⟩ 20).put ⟨1, by decide⟩ 32768 }
    handedOut [look, north] answers ++ after.script.lines = [look, north] ∧
      handedOut [look, north] allAnswers ++ last.script.lines ≠ [look, north] ∧
      last.script = ⟨[], true⟩ ∧ machine.Asking ∧
      ∃ fault left, machine.step (some (⟨⟨[north, look], true⟩, next⟩ : Scripted StreamTerminal)) =
        (.faulted fault, machine, some ⟨⟨[look], true⟩, left⟩) := by
  intro look north next terminal
  have asking : Machine.Asking { Machine.initial with
      store := (Store.empty.put ⟨0, by decide⟩ 20).put ⟨1, by decide⟩ 32768 } :=
    ⟨rfl, ⟨0, 20, #v[32768, 0, 0], 1⟩, 0, 2, false, by decide +kernel, by decide +kernel⟩
  obtain ⟨calls, reads, -⟩ := lines_kept_unless_echo_refused [look, north] true next
  obtain ⟨-, -, lost⟩ := lines_kept_unless_echo_refused [north, look] true next
  have first : Accepts (transcript true [look]) next := by decide +kernel
  have both : ¬ Accepts (transcript true [look, north]) next := by decide +kernel
  have longer : ¬ Accepts (transcript true [north]) next := by decide +kernel
  exact ⟨(reads 1).mpr first, fun kept =>
    both ((reads 2).mp kept), (calls [.read, .read]).1, asking,
    (lost north [look] _ rfl longer).2 asking⟩

/-- Nothing fits into the sink, and the first of two lines is gone. -/
theorem line_lost_to_refused_echo :
    let look : List UInt8 := [108, 111, 111, 107, 10]
    let north : List UInt8 := [110, 111, 114, 116, 104, 10]
    let before : Terminal := .script ⟨[look, north], true⟩
      (.stream (.opened [] none (.empty (some 0))))
    let (answer, after) := before.readLine
    parse (look ++ north) true = .ok ⟨[look, north], true⟩ ∧ answer = .error Sink.full ∧
      handedOut [look, north] [answer] = [] ∧ before.remaining = 2 ∧ after.remaining = 1 := by
  decide +kernel

end Script

end WordMachine
