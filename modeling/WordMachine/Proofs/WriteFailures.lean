import WordMachine.Proofs.Delivery
import WordMachine.Proofs.FaultConditions
import WordMachine.Proofs.Replay

/-!
What is said of a sink that refuses bytes. A terminal on streams answers a call that sends with the
sink's refusal exactly if it keeps one from then on, also behind scripts
(`Terminal.writeChar_tells`, `Terminal.readLine_tells`). The machine passes the refusal on as a
fault of the instruction that met it, and the kind of the fault goes by the instruction: an `out`
reports an output error, an `in` reports that the input was closed, whether the refused bytes were
held back before or echoed by a script (`refusal_told_by_instruction`).
-/

namespace WordMachine

/-- An answer is the sink's refusal exactly if that refusal is kept. -/
def Tells {α : Type} (answer : Except ChannelError α) (kept : Option ChannelError) : Prop :=
  (∃ result, answer = .ok result) ∧ kept = none ∨ answer = .error Sink.full ∧ kept = some Sink.full

theorem Sink.accepts_lt_iff {sink : Sink} {count : Nat} :
    sink.accepts count < count ↔ ∃ room, sink.room = some room ∧ room < count := by
  unfold accepts
  cases sink.room with
  | none => simp
  | some room =>
    simp only [Option.some.injEq, exists_eq_left']
    omega

/-! ## Terminals on streams -/

namespace StreamTerminal

/-- No failure is kept but a refusal of the sink. -/
def KeepsRefusal (terminal : StreamTerminal) : Prop :=
  terminal.broken = none ∨ terminal.broken = some Sink.full

theorem KeepsRefusal.of_tells {α : Type} {answer : Except ChannelError α}
    {terminal : StreamTerminal} (tells : Tells answer terminal.broken) : terminal.KeepsRefusal := by
  rcases tells with ⟨_, kept⟩ | ⟨_, kept⟩
  · exact .inl kept
  · exact .inr kept

theorem flush_tells {terminal : StreamTerminal} (keeps : terminal.KeepsRefusal) :
    Tells terminal.flush.1 terminal.flush.2.broken := by
  obtain ⟨input, readFailure, buffer, sink, broken⟩ := terminal
  rcases keeps with rfl | rfl
  · by_cases short : sink.accepts buffer.size < buffer.size
    · exact .inr (by simp [flush, Sink.write, if_pos short])
    · exact .inl (by simp [flush, Sink.write, if_neg short])
  · exact .inr ⟨rfl, rfl⟩

/-- What is held back, if anything, cannot be sent. -/
def Blocked (terminal : StreamTerminal) : Prop :=
  terminal.broken ≠ none ∨ ∃ room, terminal.sink.room = some room ∧ room < terminal.buffer.size

theorem flush_refused_iff {terminal : StreamTerminal} (keeps : terminal.KeepsRefusal) :
    terminal.flush.1 = .error Sink.full ↔ terminal.Blocked := by
  rw [Blocked, ← Sink.accepts_lt_iff]
  obtain ⟨input, readFailure, buffer, sink, broken⟩ := terminal
  rcases keeps with rfl | rfl
  · by_cases short : sink.accepts buffer.size < buffer.size
    · simp [flush, Sink.write, short]
    · simp [flush, Sink.write, short]
  · simp [flush]

theorem put_tells {terminal : StreamTerminal} (keeps : terminal.KeepsRefusal) (c : Char) :
    Tells (terminal.put c).1 (terminal.put c).2.broken := by
  unfold put
  split
  · rename_i error broken
    rcases keeps with unbroken | full
    · rw [unbroken] at broken
      cases broken
    · rw [full] at broken
      cases broken
      exact .inr ⟨rfl, full⟩
  · rename_i unbroken
    dsimp only
    split
    · have flushed := flush_tells keeps
      split
      · rename_i answered
        rw [answered] at flushed
        exact flushed
      · rename_i answered
        rw [answered] at flushed
        rcases flushed with ⟨_, works⟩ | ⟨refused, _⟩
        · exact .inl ⟨⟨(), rfl⟩, works⟩
        · cases refused
    · exact .inl ⟨⟨(), rfl⟩, unbroken⟩

theorem writeChar_tells {terminal : StreamTerminal} (keeps : terminal.KeepsRefusal) (c : Char) :
    Tells (terminal.writeChar c).1 (terminal.writeChar c).2.broken := by
  have placed := put_tells keeps c
  unfold writeChar
  split
  · rename_i answered
    rw [answered] at placed
    exact placed
  · rename_i answered
    rw [answered] at placed
    split
    · exact flush_tells (.of_tells placed)
    · exact placed

/-- A read that is refused was blocked. Once the buffer was sent, what comes of it is the input's
    affair. -/
theorem readLine_tells {terminal : StreamTerminal} (keeps : terminal.KeepsRefusal) :
    terminal.Blocked ∧ terminal.readLine.1 = .error Sink.full ∧
        terminal.readLine.2.broken = some Sink.full ∨
      ¬ terminal.Blocked ∧ terminal.readLine.2.broken = none := by
  have flushed := flush_tells keeps
  have refused_iff := flush_refused_iff keeps
  unfold readLine
  rcases answered : terminal.flush with ⟨_ | _, after⟩
  · rw [answered] at flushed refused_iff
    rcases flushed with ⟨⟨_, taken⟩, _⟩ | ⟨refused, kept⟩
    · cases taken
    · cases refused
      exact .inl ⟨refused_iff.mp rfl, rfl, kept⟩
  · rw [answered] at flushed refused_iff
    rcases flushed with ⟨_, works⟩ | ⟨refused, _⟩
    · obtain ⟨input, frame⟩ := after.takeLine_frame
      refine .inr ⟨fun blocked => absurd (refused_iff.mpr blocked) nofun, ?_⟩
      show after.takeLine.2.broken = none
      rw [frame]
      exact works
    · cases refused

end StreamTerminal

/-! ## Scripts in front -/

namespace Terminal

/-- Byte streams, behind any number of scripts. -/
def OnStreams : Terminal → Prop
  | stream terminal => terminal.KeepsRefusal
  | script _ next => next.OnStreams
  | _ => False

/-- The failure to send that is kept behind the scripts. -/
def refusal? : Terminal → Option ChannelError
  | stream terminal => terminal.broken
  | script _ next => next.refusal?
  | _ => none

theorem writeChar_tells {terminal : Terminal} (streams : terminal.OnStreams) (c : Char) :
    (terminal.writeChar c).2.OnStreams ∧
      Tells (terminal.writeChar c).1 (terminal.writeChar c).2.refusal? := by
  induction terminal with
  | stream terminal =>
    have tells := StreamTerminal.writeChar_tells streams c
    exact ⟨.of_tells tells, tells⟩
  | script _ next ih => exact ih streams
  | _ => exact streams.elim

theorem writeAll_tells {next : Terminal} (streams : next.OnStreams) (text : List Char) :
    (Script.writeAll writeChar text next).2.OnStreams ∧
      (Channel.Accepts text next ∧ (Script.writeAll writeChar text next).1 = .ok () ∨
        ¬ Channel.Accepts text next ∧ (Script.writeAll writeChar text next).1 = .error Sink.full ∧
          (Script.writeAll writeChar text next).2.refusal? = some Sink.full) := by
  induction text generalizing next with
  | nil => exact ⟨streams, .inl ⟨trivial, rfl⟩⟩
  | cons c rest ih =>
    obtain ⟨still, tells⟩ := writeChar_tells streams c
    have accepts : Channel.Accepts (c :: rest) next ↔
        (next.writeChar c).1 = .ok () ∧ Channel.Accepts rest (next.writeChar c).2 := .rfl
    rw [accepts, Script.writeAll]
    rcases written : next.writeChar c with ⟨answer, after⟩
    rw [written] at still tells
    rcases tells with ⟨⟨_, rfl⟩, _⟩ | ⟨rfl, kept⟩
    · simpa using ih still
    · refine ⟨still, .inr ⟨fun accepted => ?_, rfl, kept⟩⟩
      cases accepted.1

/-- A read has to send first, what is held back or the echo of its line, and cannot. -/
def Blocked : Terminal → Prop
  | stream terminal => terminal.Blocked
  | script ⟨[], _⟩ next => next.Blocked
  | script ⟨line :: _, echo⟩ next => ¬ Channel.Accepts (Script.transcript echo [line]) next
  | _ => False

/-- A read that is blocked fails, and the sink's refusal is kept. One that fails otherwise has sent
    what it had to. -/
theorem readLine_tells {terminal : Terminal} (streams : terminal.OnStreams) :
    terminal.readLine.2.OnStreams ∧
      (terminal.Blocked ∧ terminal.readLine.1 = .error Sink.full ∧
          terminal.readLine.2.refusal? = some Sink.full ∨
        ¬ terminal.Blocked ∧ ∀ error, terminal.readLine.1 = .error error →
          terminal.readLine.2.refusal? = none) := by
  induction terminal with
  | stream terminal =>
    rcases StreamTerminal.readLine_tells streams with ⟨blocked, refused, kept⟩ | ⟨free, works⟩
    · exact ⟨.inr kept, .inl ⟨blocked, refused, kept⟩⟩
    · exact ⟨.inl works, .inr ⟨free, fun _ _ => works⟩⟩
  | script s next ih =>
    obtain ⟨lines, echo⟩ := s
    cases lines with
    | nil => exact ih streams
    | cons line rest =>
      cases echo with
      | false =>
        exact ⟨streams, .inr ⟨fun refuses => refuses trivial, fun _ failed => by cases failed⟩⟩
      | true =>
        have echoed := writeAll_tells (show next.OnStreams from streams) (Utf8.decode line)
        have text : Script.transcript true [line] = Utf8.decode line := by simp [Script.transcript]
        rw [Blocked, text]
        simp only [readLine, Script.readLine, if_true]
        rcases written : Script.writeAll writeChar (Utf8.decode line) next with ⟨answer, after⟩
        rw [written] at echoed
        obtain ⟨still, ⟨accepts, taken⟩ | ⟨refuses, refused, kept⟩⟩ := echoed
        · cases taken
          exact ⟨still, .inr ⟨fun refuses => refuses accepts, fun _ failed => by cases failed⟩⟩
        · cases refused
          exact ⟨still, .inl ⟨refuses, rfl, kept⟩⟩
  | _ => exact streams.elim

end Terminal

/-! ## Instructions that meet a refusal -/

/-- A fault on account of bytes that the sink behind the terminal refused. -/
def Fault.OfSink (fault : Fault) (terminal : Terminal) : Prop :=
  terminal.refusal? = some Sink.full ∧
    (fault.cause = .outputFailed Sink.full ∨ fault.cause = .inputFailed Sink.full)

namespace Machine

/-- What an instruction can fault on with a terminal on streams. -/
inductive Hit (fault : Fault) (after : Terminal) : Prop
  | within (internal : Internal fault.cause) : Hit fault after
  | writing (out : fault.instruction.code = Opcode.out.code)
      (cause : fault.cause = .outputFailed Sink.full)
      (kept : after.refusal? = some Sink.full) : Hit fault after
  | sending (inp : fault.instruction.code = Opcode.inp.code)
      (cause : fault.cause = .inputFailed Sink.full)
      (kept : after.refusal? = some Sink.full) : Hit fault after
  | reading (inp : fault.instruction.code = Opcode.inp.code)
      (kind : fault.kind? = some .inputClosed) (other : ¬ fault.OfSink after) : Hit fault after

variable {terminal : Terminal}

theorem putOutput_hits (streams : terminal.OnStreams) (c : Char) :
    ∃ answer left, putOutput (some terminal) c = (answer, some left) ∧ left.OnStreams ∧
      ∀ cause, answer = .error cause →
        cause = .outputFailed Sink.full ∧ left.refusal? = some Sink.full := by
  obtain ⟨still, tells⟩ := Terminal.writeChar_tells streams c
  rcases written : terminal.writeChar c with ⟨answer, left⟩
  rw [written] at still tells
  have call : Channel.writeChar terminal c = (answer, left) := written
  rcases tells with ⟨⟨_, rfl⟩, _⟩ | ⟨rfl, kept⟩
  · exact ⟨.ok (), left, by simp only [putOutput, call], still, nofun⟩
  · refine ⟨.error (.outputFailed Sink.full), left, by simp only [putOutput, call], still,
      fun cause failed => ?_⟩
    exact ⟨(Except.error.inj failed).symm, kept⟩

theorem takeInput_hits (streams : terminal.OnStreams) (pending : List UInt8) :
    ∃ answer left, takeInput pending (some terminal) = (answer, some left) ∧ left.OnStreams ∧
      (pending = [] ∧ terminal.Blocked ∧ answer = .error (.inputFailed Sink.full) ∧
          left.refusal? = some Sink.full ∨
        ¬ (pending = [] ∧ terminal.Blocked) ∧ ∀ cause, answer = .error cause →
          cause.kind? = some .inputClosed ∧
            (left.refusal? = some Sink.full → cause ≠ .inputFailed Sink.full)) := by
  cases pending with
  | cons first rest =>
    refine ⟨.ok (first, rest), terminal, rfl, streams, .inr ⟨fun both => ?_, fun _ failed => ?_⟩⟩
    · cases both.1
    · cases failed
  | nil =>
    obtain ⟨still, tells⟩ := Terminal.readLine_tells streams
    rcases read : terminal.readLine with ⟨answer, left⟩
    rw [read] at still tells
    have call : Channel.readLine terminal = (answer, left) := read
    rcases tells with ⟨blocked, rfl, kept⟩ | ⟨free, unbroken⟩
    · refine ⟨.error (.inputFailed Sink.full), left, ?_, still, .inl ⟨rfl, blocked, rfl, kept⟩⟩
      simp only [takeInput, call, Sink.full]
    · have other : ¬ (([] : List UInt8) = [] ∧ terminal.Blocked) := fun both => free both.2
      cases answer with
      | ok line =>
        cases line with
        | cons first rest =>
          refine ⟨.ok (first, rest), left, by simp only [takeInput, call], still, .inr ⟨other, ?_⟩⟩
          intro cause failed
          cases failed
        | nil =>
          refine ⟨.error .inputEnded, left, by simp only [takeInput, call], still, .inr ⟨other, ?_⟩⟩
          intro cause failed
          cases failed
          exact ⟨rfl, fun _ is => by cases is⟩
      | error failure =>
        cases failure with
        | endOfInput =>
          refine ⟨.error .inputEnded, left, by simp only [takeInput, call], still, .inr ⟨other, ?_⟩⟩
          intro cause failed
          cases failed
          exact ⟨rfl, fun _ is => by cases is⟩
        | failure reason =>
          refine ⟨.error (.inputFailed (.failure reason)), left, by simp only [takeInput, call],
            still, .inr ⟨other, ?_⟩⟩
          intro cause failed
          cases failed
          refine ⟨rfl, fun kept => ?_⟩
          rw [show left.refusal? = none from unbroken _ rfl] at kept
          cases kept

/-- An instruction leaves a terminal on streams, and faults in one of four ways. -/
theorem step_hits (machine : Machine) (streams : terminal.OnStreams) :
    ∃ outcome after left, machine.step (some terminal) = (outcome, after, some left) ∧
      left.OnStreams ∧ ∀ fault, outcome = .faulted fault → Hit fault left := by
  rcases machine.faulted_or_resolved with ⟨fault, within, faulted⟩ |
    ⟨instruction, change, next, halts, resolved⟩
  · refine ⟨_, _, terminal, faulted _, streams, fun other told => ?_⟩
    cases told
    exact .within within
  · obtain ⟨op, reads, acts⟩ := resolved.acts
    have code := Opcode.code_of_ofWord? reads.operation
    have carriesOn : ∀ (event : StepEvent) fault,
      Outcome.completed halts event ≠ .faulted fault := by
      intro event fault
      cases halts <;> exact nofun
    cases change with
    | write c =>
      obtain ⟨answer, left, put, still, fails⟩ := putOutput_hits streams c
      have out : op = .out := by
        cases acts
        rfl
      have stepped := resolved.step_write (some terminal)
      rw [put] at stepped
      cases answer with
      | ok _ =>
        exact ⟨_, _, left, stepped, still, fun fault told => absurd told (carriesOn _ fault)⟩
      | error cause =>
        obtain ⟨is, kept⟩ := fails cause rfl
        refine ⟨_, _, left, stepped, still, fun fault told => ?_⟩
        cases told
        exact .writing (code.trans (congrArg Opcode.code out)) is kept
    | input index =>
      obtain ⟨answer, left, took, still, fails⟩ := takeInput_hits streams machine.pending
      have inp : op = .inp := by
        cases acts
        rfl
      have stepped := resolved.step_input (some terminal)
      rw [took] at stepped
      cases answer with
      | ok _ =>
        exact ⟨_, _, left, stepped, still, fun fault told => absurd told (carriesOn _ fault)⟩
      | error cause =>
        refine ⟨_, _, left, stepped, still, fun fault told => ?_⟩
        cases told
        have here := code.trans (congrArg Opcode.code inp)
        rcases fails with ⟨_, _, is, kept⟩ | ⟨_, others⟩
        · exact .sending here (Except.error.inj is) kept
        · obtain ⟨kind, other⟩ := others cause rfl
          refine .reading here kind ?_
          rintro ⟨kept, rfl | is⟩
          · cases kind
          · exact other kept is
    | _ =>
      have stepped := resolved.step_plain nofun nofun (some terminal)
      exact ⟨_, _, terminal, stepped, streams, fun fault told => absurd told (carriesOn _ fault)⟩

/-- A machine that asks for input meets a refusal just if the read is blocked. -/
theorem asking_refused_iff {machine : Machine} (asking : machine.Asking)
    (streams : terminal.OnStreams) :
    (∃ fault left, machine.step (some terminal) = (.faulted fault, machine, some left) ∧
      fault.OfSink left) ↔ terminal.Blocked := by
  obtain ⟨empty, instruction, index, next, halts, resolved⟩ := asking
  obtain ⟨answer, left, took, _, blocked | free⟩ := takeInput_hits streams machine.pending
  · obtain ⟨_, blocked, rfl, kept⟩ := blocked
    refine iff_of_true ⟨⟨instruction, .inputFailed Sink.full⟩, left, ?_, kept, .inr rfl⟩ blocked
    rw [resolved.step_input, took]
  · obtain ⟨notBoth, others⟩ := free
    refine iff_of_false ?_ fun blocked => notBoth ⟨empty, blocked⟩
    rintro ⟨fault, after, stepped, kept, cause⟩
    rw [resolved.step_input, took] at stepped
    cases answer with
    | ok _ => cases halts <;> cases stepped
    | error failure =>
      cases stepped
      obtain ⟨kind, other⟩ := others failure rfl
      rcases cause with rfl | is
      · cases kind
      · exact other kept is

end Machine

/-! ## Runs -/

namespace Session

variable {ω : Type} {notify : Notice → ω → ω}

/-- What single instructions keep holds of a run up to the instruction that ends it in a fault. -/
theorem Invariant.before_fault {τ : Type} [Channel τ] {holds : Session τ ω → Prop}
    (invariant : Invariant notify holds) (stops : Nat → Bool) (fuel done : Nat)
    {session after : Session τ ω} {fault : Fault} (before : holds session)
    (ran : session.runFrom notify stops fuel done = (some (.faulted fault), after)) :
    ∃ here, holds here ∧ (here.step notify).1 = .faulted fault ∧
      after.console = (here.step notify).2.console := by
  induction fuel generalizing done session with
  | zero => cases ran
  | succ fuel ih =>
    rcases session.runFrom_cases notify stops fuel done with ⟨_, stopped⟩ | ⟨_, here, _, resting⟩ |
      ⟨_, here, outcome, next, arrived, stepped, went⟩
    · rw [stopped] at ran
      cases ran
    · rw [resting] at ran
      cases ran
    · obtain ⟨resuming, debugger, rfl⟩ := arrive_frame arrived
      have ready := invariant.flags session.machine.stopRequested resuming debugger before
      rcases went with ⟨ending, asked, ends, last⟩ | ⟨_, more⟩
      · rw [last] at ran
        cases ran
        refine ⟨_, ready, ?_, ?_⟩
        · rw [stepped]
          cases outcome <;> cases ends
          rfl
        · rw [stepped]
          cases asked <;> rfl
      · have moved := invariant.step ready
        rw [stepped] at moved
        exact ih (done + 1) (invariant.requestStopIf _ moved) (more ▸ ran)

theorem step_eq_of {τ : Type} [Channel τ] {session : Session τ ω} {outcome : Outcome}
    {after : Machine}
    {remaining : Option τ} (stepped : session.machine.step session.console =
    (outcome, after, remaining)) :
    session.step notify =
      (outcome, ⟨after, remaining, session.debugger, notify outcome.notice session.observer⟩) := by
  rw [step, stepped]

theorem onStreams_invariant : Invariant notify fun session : Session Terminal ω =>
    ∃ terminal, session.console = some terminal ∧ terminal.OnStreams where
  step := by
    rintro session ⟨terminal, attached, streams⟩
    obtain ⟨outcome, after, left, stepped, still, _⟩ := session.machine.step_hits streams
    rw [← attached] at stepped
    rw [step_eq_of stepped]
    exact ⟨left, rfl, still⟩
  adjust _ _ _ _ _ _ _ holds := holds

/-- A sink that refuses bytes is reported by the instruction that meets it. If a run with a terminal
    on streams ends in a fault on account of the sink, then an `out` instruction faulted with an
    output error and the exit code 1, or an `in` instruction with closed input and the exit code 130
    of a run that was stopped; the refusal is the detail of both. There are no other output errors.
    An instruction that asks for input meets the refusal just if the sink has no room for what is
    held back, or refuses what a script echoes. -/
theorem refusal_told_by_instruction (notify : Notice → ω → ω) (stops : Nat → Bool) (fuel : Nat)
    (session : Session Terminal ω) (terminal : Terminal)
    (attached : session.console = some terminal) (streams : terminal.OnStreams) :
    (∀ (fault : Fault) (after : Session Terminal ω),
      session.run notify stops fuel = (some (.faulted fault), after) →
      ∃ last, after.console = some last ∧
        (fault.OfSink last →
          fault.cause.detail = "sink full" ∧
          (fault.instruction.code = Opcode.out.code ∧ fault.kind? = some .output ∧
              exitCode .faulted (some fault) = 1 ∨
            fault.instruction.code = Opcode.inp.code ∧ fault.kind? = some .inputClosed ∧
              exitCode .faulted (some fault) = 130)) ∧
        (fault.kind? = some .output → fault.OfSink last)) ∧
    (session.machine.Asking →
      ((∃ fault left, session.machine.step session.console =
      (.faulted fault, session.machine, some left) ∧
        fault.OfSink left) ↔ terminal.Blocked)) := by
  refine ⟨?_, fun asking => attached ▸ Machine.asking_refused_iff asking streams⟩
  intro fault after ran
  obtain ⟨here, ⟨before, standing, still⟩, faulted, remains⟩ :=
    onStreams_invariant.before_fault stops fuel 0 ⟨terminal, attached, streams⟩ ran
  obtain ⟨outcome, next, last, stepped, _, hits⟩ := here.machine.step_hits still
  rw [← standing] at stepped
  rw [step_eq_of stepped] at faulted remains
  refine ⟨last, remains, ?_⟩
  cases hits fault faulted with
  | within internal =>
    obtain ⟨kind, is, notInput, notOutput⟩ := internal
    refine ⟨?_, fun output => absurd (Option.some.inj (is.symm.trans output)) notOutput⟩
    rintro ⟨_, cause | cause⟩
    · rw [cause] at is
      exact absurd (Option.some.inj is).symm notOutput
    · rw [cause] at is
      exact absurd (Option.some.inj is).symm notInput
  | writing out cause kept =>
    obtain ⟨instruction, _⟩ := fault
    cases cause
    exact ⟨fun _ => ⟨rfl, .inl ⟨out, rfl, rfl⟩⟩, fun _ => ⟨kept, .inl rfl⟩⟩
  | sending inp cause kept =>
    obtain ⟨instruction, _⟩ := fault
    cases cause
    exact ⟨fun _ => ⟨rfl, .inr ⟨inp, rfl, rfl⟩⟩, nofun⟩
  | reading inp kind other =>
    refine ⟨fun refused => absurd refused other, fun output => ?_⟩
    rw [kind] at output
    cases output

/-- A newline that a full sink refuses, and a line of a script of which it takes one character. -/
theorem refusal_told_by_instruction_at_full_sink :
    let written : Machine :=
      { Machine.initial with store := (Store.empty.put ⟨0, by decide⟩ 19).put ⟨1, by decide⟩ 10 }
    let asked : Machine :=
      { Machine.initial with store := (Store.empty.put ⟨0, by decide⟩ 20).put ⟨1, by decide⟩ 32768 }
    let full : Terminal := .stream (.opened [] none (.empty (some 0)))
    let scripted : Terminal := .script ⟨[[103, 10]], true⟩
      (.stream (.opened [] none (.empty (some 1))))
    let run (machine : Machine) (terminal : Terminal) : Option Ending :=
      ((⟨machine, some terminal, none, ()⟩ : Session Terminal Unit).run (fun _ _ => ()) (fun _ =>
        false) 1).1
    (∃ fault, run written full = some (.faulted fault) ∧ fault.kind? = some .output ∧
      exitCode .faulted (some fault) = 1) ∧
    (∃ fault, run asked scripted = some (.faulted fault) ∧ fault.kind? = some .inputClosed ∧
      exitCode .faulted (some fault) = 130) ∧
    ∃ fault left, asked.step (some scripted) = (.faulted fault, asked, some left) ∧
      fault.OfSink left := by
  intro written asked full scripted run
  let session (machine : Machine) (terminal : Terminal) : Session Terminal Unit :=
    ⟨machine, some terminal, none, ()⟩
  let after (machine : Machine) (terminal : Terminal) : Session Terminal Unit :=
    ((session machine terminal).run (fun _ _ => ()) (fun _ => false) 1).2
  refine ⟨?_, ?_, ?_⟩
  · have ended : run written full =
        some (.faulted ⟨⟨0, 19, #v[10, 0, 0], 1⟩, .outputFailed Sink.full⟩) := by decide +kernel
    have kept : (after written full).console.bind Terminal.refusal? = some Sink.full := by
      decide +kernel
    obtain ⟨told, _⟩ := refusal_told_by_instruction (fun _ _ => ()) (fun _ => false) 1
      (session written full) full rfl (.inl rfl)
    obtain ⟨last, remains, reports, _⟩ := told _ (after written full) (Prod.ext ended rfl)
    rw [remains] at kept
    obtain ⟨_, ⟨_, kind, code⟩ | ⟨inp, _⟩⟩ := reports ⟨kept, .inl rfl⟩
    · exact ⟨_, ended, kind, code⟩
    · exact absurd inp (by decide)
  · have ended : run asked scripted =
        some (.faulted ⟨⟨0, 20, #v[32768, 0, 0], 1⟩, .inputFailed Sink.full⟩) := by decide +kernel
    have kept : (after asked scripted).console.bind Terminal.refusal? = some Sink.full := by
      decide +kernel
    obtain ⟨told, _⟩ := refusal_told_by_instruction (fun _ _ => ()) (fun _ => false) 1
      (session asked scripted) scripted rfl (.inl rfl)
    obtain ⟨last, remains, reports, _⟩ := told _ (after asked scripted) (Prod.ext ended rfl)
    rw [remains] at kept
    obtain ⟨_, ⟨out, _⟩ | ⟨_, kind, code⟩⟩ := reports ⟨kept, .inr rfl⟩
    · exact absurd out (by decide)
    · exact ⟨_, ended, kind, code⟩
  · have asking : asked.Asking :=
      ⟨rfl, ⟨0, 20, #v[32768, 0, 0], 1⟩, 0, 2, false, by decide +kernel, by decide +kernel⟩
    have refuses : ¬ Channel.Accepts (Script.transcript true [[103, 10]])
        (Terminal.stream (.opened [] none (.empty (some 1)))) := by decide +kernel
    obtain ⟨_, blocked⟩ := refusal_told_by_instruction (fun _ _ => ()) (fun _ => false) 1
      (session asked scripted) scripted rfl (.inl rfl)
    exact (blocked asking).mpr refuses

/-- A character that was held back, refused when the program asks for input: the sink's refusal goes
    by as closed input. -/
theorem refusal_passed_as_closed_input :
    let store := (((Store.empty.put ⟨0, by decide⟩ 19).put ⟨1, by decide⟩ 65).put ⟨2, by decide⟩
      20).put
      ⟨3, by decide⟩ 32768
    let terminal : Terminal := .stream (.opened [] none (.empty (some 0)))
    let session : Session Terminal Unit := ⟨{ Machine.initial with store }, some terminal, none, ()⟩
    let fault : Fault := ⟨⟨2, 20, #v[32768, 0, 0], 1⟩, .inputFailed Sink.full⟩
    let (ending, after) := session.run (fun _ _ => ()) (fun _ => false) 2
    ending = some (.faulted fault) ∧ after.console.bind Terminal.refusal? = some Sink.full ∧
      fault.kind? = some .inputClosed ∧ fault.kind? ≠ some .output ∧
      exitCode .faulted (some fault) = 130 := by
  decide +kernel

end Session

end WordMachine
