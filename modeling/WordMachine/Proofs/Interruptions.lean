import WordMachine.Proofs.Resuming
import WordMachine.Proofs.Runs

/-!
Interrupted runs. Breakpoints and stop requests end a run early, but whoever runs the
machine again each time sees what plain single steps would have done. A run is a stretch
of plain steps (`runFrom_stretch`), stretches join (`Stretch.trans`), and so all the runs
together follow the plain steps, never rest at a breakpoint twice and come to the end that
the plain steps come to (`drive_transparent`).
-/

namespace WordMachine

namespace Machine

variable {τ : Type} [Channel τ]

theorem steps_add (m n : Nat) (machine : Machine) (console : Option τ) :
    machine.steps (m + n) console =
      ((machine.steps m console).1 ++
          ((machine.steps m console).2.1.steps n (machine.steps m console).2.2).1,
        ((machine.steps m console).2.1.steps n (machine.steps m console).2.2).2) := by
  induction m generalizing machine console with
  | zero => simp [steps]
  | succ m ih => simp only [Nat.succ_add, steps, ih, List.cons_append]

theorem Agree.eq_withFlags {left right : Machine} (agree : left.Agree right) :
    left = { right with stopRequested := left.stopRequested, resuming := left.resuming } := by
  obtain ⟨pc, registers, stack, store, pending, stopRequested, resuming, count⟩ := left
  obtain ⟨rfl, rfl, rfl, rfl, rfl, rfl⟩ := agree
  rfl

theorem Agree.trans {left middle right : Machine} (first : left.Agree middle)
    (second : middle.Agree right) : left.Agree right :=
  ⟨first.pc.trans second.pc, first.registers.trans second.registers, first.stack.trans second.stack,
    first.store.trans second.store, first.pending.trans second.pending,
    first.count.trans second.count⟩

/-- Machines that agree do the same. -/
theorem Agree.steps {left right : Machine} (agree : left.Agree right) (n : Nat)
    (console : Option τ) : (left.steps n console).1 = (right.steps n console).1 ∧
      (left.steps n console).2.2 = (right.steps n console).2.2 ∧
      (left.steps n console).2.1.Agree (right.steps n console).2.1 := by
  rw [agree.eq_withFlags, steps_withFlags]
  exact ⟨rfl, rfl, agree_withFlags _ _ _⟩

end Machine

/-- Whether a run that ended so can be resumed: it was stopped, or is at a breakpoint. -/
def Ending.isPause : Ending → Bool
  | stopped | breakpoint => true
  | halted | faulted _ => false

/-- The end of the program, if a run ended with it. -/
def Ending.final? (ending : Ending) : Option Ending :=
  if ending.isPause then none else some ending

theorem Outcome.isPause_of_ending? {outcome : Outcome} {ending : Ending}
    (ends : outcome.ending? = some ending) : ending.isPause = false := by
  cases outcome with
  | continued event => cases ends
  | halted event | faulted fault =>
    cases ends
    rfl

namespace Session

variable {τ ω : Type} [Channel τ]

/-! ## Stretches of plain steps -/

/-- From one session `n` single steps lead to the other, without a debugger and without stop
    requests: to the same machine up to the flags of runs, the same terminal, and an observer that
    was told of these steps in order and of nothing else. At most the last of them ended the
    program, in the way given. -/
structure Stretch (notify : Notice → ω → ω) (before : Session τ ω) (n : Nat)
    (ending : Option Ending) (after : Session τ ω) : Prop where
  machine : after.machine.Agree (before.machine.steps n before.console).2.1
  console : after.console = (before.machine.steps n before.console).2.2
  observer : after.observer = (before.machine.steps n before.console).1.foldl
    (fun observer outcome => notify outcome.notice observer) before.observer
  continues : ∀ outcome ∈ (before.machine.steps n before.console).1.dropLast, outcome.ending? = none
  ends : (before.machine.steps n before.console).1.findSome? Outcome.ending? = ending

/-- Sessions that differ only in the flags of runs and the debugger. -/
theorem stretch_zero {notify : Notice → ω → ω} {before after : Session τ ω}
    (machine : after.machine.Agree before.machine) (console : after.console = before.console)
    (observer : after.observer = before.observer) : Stretch notify before 0 none after :=
  ⟨machine, console, observer, by simp [Machine.steps], rfl⟩

theorem Stretch.trans {notify : Notice → ω → ω} {before middle after : Session τ ω} {m n : Nat}
    {ending : Option Ending} (first : Stretch notify before m none middle)
    (second : Stretch notify middle n ending after) :
    Stretch notify before (m + n) ending after := by
  obtain ⟨outcomes, remaining, machines⟩ := first.machine.steps n middle.console
  rw [first.console] at outcomes remaining machines
  have joined := before.machine.steps_add m n before.console
  have quiet : ∀ outcome ∈ (before.machine.steps m before.console).1, outcome.ending? = none :=
    List.findSome?_eq_none_iff.mp first.ends
  refine ⟨?_, ?_, ?_, ?_, ?_⟩
  · rw [joined]
    exact second.machine.trans (by rw [first.console]; exact machines)
  · rw [joined, second.console, first.console]
    exact remaining
  · rw [joined, second.observer, first.console, outcomes, List.foldl_append, first.observer]
  · intro outcome member
    rw [joined, ← outcomes, ← first.console] at member
    by_cases empty : (middle.machine.steps n middle.console).1 = []
    · rw [empty, List.append_nil] at member
      exact quiet outcome (List.dropLast_subset _ member)
    · rw [List.dropLast_append_of_ne_nil empty, List.mem_append] at member
      rcases member with early | late
      · exact quiet outcome early
      · exact second.continues outcome late
  · rw [joined, ← outcomes, ← first.console, List.findSome?_append, first.ends, second.ends]
    rfl

theorem step_stretch {notify : Notice → ω → ω} {before after : Session τ ω} {outcome : Outcome}
    (stepped : before.step notify = (outcome, after)) :
    Stretch notify before 1 outcome.ending? after := by
  obtain ⟨machine, console, debugger, observer⟩ := before
  rcases done : machine.step console with ⟨told, moved, remaining⟩
  simp only [step, done, Prod.mk.injEq] at stepped
  obtain ⟨rfl, rfl⟩ := stepped
  refine ⟨?_, ?_, ?_, ?_, ?_⟩
  all_goals simp only [Machine.steps, done]
  · exact ⟨rfl, rfl, rfl, rfl, rfl, rfl⟩
  · rfl
  · simp
  · cases told <;> rfl

/-- A stop request that arrives later makes no difference. -/
theorem Stretch.requestStopIf {notify : Notice → ω → ω} {before after : Session τ ω} {n : Nat}
    {ending : Option Ending} (stretch : Stretch notify before n ending after) (asked : Bool) :
    Stretch notify before n ending (after.requestStopIf asked) := by
  cases asked with
  | false => exact stretch
  | true =>
    exact ⟨(Machine.agree_withFlags _ _ _).trans stretch.machine, stretch.console, stretch.observer,
      stretch.continues, stretch.ends⟩

omit [Channel τ] in
theorem resuming_requestStopIf (session : Session τ ω) (asked : Bool) :
    (session.requestStopIf asked).machine.resuming = session.machine.resuming := by
  cases asked <;> rfl

theorem arrive_stretch (notify : Notice → ω → ω) {session here : Session τ ω} {stop : Bool}
    (arrived : session.arrive = (stop, here)) : Stretch notify session 0 none here := by
  obtain ⟨_, _, rfl⟩ := arrive_frame arrived
  exact stretch_zero (Machine.agree_withFlags _ _ _) rfl rfl

omit [Channel τ] in
/-- A run that stops at a breakpoint was not resuming from one, and is marked to do so. -/
theorem arrive_flags {session here : Session τ ω} (arrived : session.arrive = (true, here)) :
    session.machine.resuming = false ∧ here.machine.resuming = true ∧
      here.machine.stopRequested = session.machine.stopRequested := by
  rcases session.arrive_cases with ⟨_, same⟩ | ⟨_, _, _, passed⟩ | ⟨_, _, fresh, asked⟩
  · rw [same] at arrived
    cases arrived
  · rw [passed] at arrived
    cases arrived
  · rw [asked] at arrived
    obtain ⟨stop, rfl⟩ := Prod.mk.inj arrived
    exact ⟨fresh, stop, rfl⟩

/-! ## Single runs -/

/-- What a run of `n` instructions that can be resumed leaves behind. Without any instruction it
    only took back the stop request it found, or it arrived at a breakpoint it was not resuming
    from. -/
def Paused (before : Machine) (n : Nat) (after : Machine) : Ending → Prop
  | .stopped => after.stopRequested = false ∧
      (n = 0 → before.stopRequested = true ∧ after.resuming = before.resuming)
  | .breakpoint => after.stopRequested = false ∧ after.resuming = true ∧
      (n = 0 → before.stopRequested = false ∧ before.resuming = false)
  | .halted | .faulted _ => True

theorem Paused.afterStep {before middle after : Machine} {n : Nat} {ending : Ending}
    (paused : Paused middle n after ending) : Paused before (n + 1) after ending := by
  cases ending with
  | stopped => exact ⟨paused.1, fun zero => absurd zero (Nat.succ_ne_zero n)⟩
  | breakpoint => exact ⟨paused.1, paused.2.1, fun zero => absurd zero (Nat.succ_ne_zero n)⟩
  | halted | faulted fault => trivial

/-- A run is a stretch of plain steps, with as many of them as it has rounds if it is not over. -/
theorem runFrom_stretch (notify : Notice → ω → ω) (stops : Nat → Bool) (fuel done : Nat)
    (session : Session τ ω) {returned : Option Ending} {after : Session τ ω}
    (ran : session.runFrom notify stops fuel done = (returned, after)) :
    ∃ n, Stretch notify session n (returned.bind Ending.final?) after ∧
      (returned = none → n = fuel) ∧
      ∀ ending, returned = some ending → Paused session.machine n after.machine ending := by
  induction fuel generalizing done session with
  | zero =>
    cases ran
    exact ⟨0, stretch_zero ⟨rfl, rfl, rfl, rfl, rfl, rfl⟩ rfl rfl, fun _ => rfl, nofun⟩
  | succ fuel ih =>
    rcases session.runFrom_cases notify stops fuel done with ⟨requested, stopped⟩ |
      ⟨fresh, here, arrived, resting⟩ | ⟨_, here, outcome, next, arrived, stepped, went⟩
    · rw [stopped] at ran
      cases ran
      refine ⟨0, stretch_zero (Machine.agree_withFlags _ _ _) rfl rfl, nofun, ?_⟩
      rintro _ ⟨⟩
      exact ⟨rfl, fun _ => ⟨requested, rfl⟩⟩
    · rw [resting] at ran
      cases ran
      obtain ⟨notResuming, marked, kept⟩ := arrive_flags arrived
      refine ⟨0, arrive_stretch notify arrived, nofun, ?_⟩
      rintro _ ⟨⟩
      exact ⟨kept.trans fresh, marked, fun _ => ⟨fresh, notResuming⟩⟩
    · have moved := (arrive_stretch notify arrived).trans (step_stretch stepped)
      rcases went with ⟨ending, asked, ends, last⟩ | ⟨goesOn, more⟩
      · rw [last] at ran
        cases ran
        have final := Outcome.isPause_of_ending? ends
        refine ⟨0 + 1, ?_, nofun, ?_⟩
        · have same : (some ending).bind Ending.final? = outcome.ending? := by
            simp [ends, Ending.final?, final]
          rw [same]
          exact moved.requestStopIf asked
        · rintro _ ⟨⟩
          cases ending with
          | stopped | breakpoint => cases final
          | halted | faulted fault => trivial
      · rw [more] at ran
        rw [goesOn] at moved
        obtain ⟨n, rest, unfinished, paused⟩ := ih (done + 1) _ ran
        refine ⟨0 + 1 + n, (moved.requestStopIf _).trans rest, ?_, ?_⟩
        · intro still
          rw [unfinished still]
          omega
        · intro ending is
          rw [show 0 + 1 + n = n + 1 by omega]
          exact (paused ending is).afterStep

/-! ## One run after the other -/

/-- When stop requests arrive around one run: whether one comes before it, and after which of its
    instructions others come. -/
structure Requests where
  before : Bool
  stops : Nat → Bool

/-- Runs the machine again and again, as long as the run before can be resumed: how each run ended,
    if it did, and the session it left. -/
def drive (notify : Notice → ω → ω) (fuel : Nat) :
    List Requests → Session τ ω → List (Option Ending × Session τ ω)
  | [], _ => []
  | requests :: rest, session =>
    let returned := (session.requestStopIf requests.before).run notify requests.stops fuel
    returned :: if returned.1.any Ending.isPause then drive notify fuel rest returned.2 else []

/-- The first run of a drive pauses, and the others follow; or it ends the program; or it is not
    over. -/
theorem drive_cases (notify : Notice → ω → ω) (fuel : Nat) (requests : Requests)
    (rest : List Requests) (session : Session τ ω) :
    (∃ n ending after, ending.isPause = true ∧ Stretch notify session n none after ∧
      Paused (session.requestStopIf requests.before).machine n after.machine ending ∧
      session.drive notify fuel (requests :: rest) =
        (some ending, after) :: after.drive notify fuel rest) ∨
    (∃ n ending after, ending.isPause = false ∧ Stretch notify session n (some ending) after ∧
      session.drive notify fuel (requests :: rest) = [(some ending, after)]) ∨
    ∃ after, Stretch notify session fuel none after ∧
      session.drive notify fuel (requests :: rest) = [(none, after)] := by
  rcases ran : (session.requestStopIf requests.before).run notify requests.stops fuel with
    ⟨returned, after⟩
  obtain ⟨n, stretch, unfinished, paused⟩ := runFrom_stretch notify requests.stops fuel 0 _ ran
  have same : Stretch notify session 0 none (session.requestStopIf requests.before) :=
    (stretch_zero ⟨rfl, rfl, rfl, rfl, rfl, rfl⟩ rfl rfl).requestStopIf _
  have whole := same.trans stretch
  rw [Nat.zero_add] at whole
  cases returned with
  | none =>
    rw [unfinished rfl] at whole
    exact .inr (.inr ⟨after, whole, by simp [drive, ran]⟩)
  | some ending =>
    cases pauses : ending.isPause with
    | true =>
      have goesOn : (some ending).bind Ending.final? = none := by simp [Ending.final?, pauses]
      rw [goesOn] at whole
      exact .inl ⟨n, ending, after, pauses, whole, paused ending rfl, by simp [drive, ran, pauses]⟩
    | false =>
      have final : (some ending).bind Ending.final? = some ending := by simp [Ending.final?, pauses]
      rw [final] at whole
      exact .inr (.inl ⟨n, ending, after, pauses, whole, by simp [drive, ran, pauses]⟩)

/-- Every run of a drive leaves what plain steps from its beginning lead to. Once the machine is
    marked to resume, it is not at a breakpoint again before it has carried out an instruction. -/
theorem drive_stretch (notify : Notice → ω → ω) (fuel : Nat) (visits : List Requests)
    (session : Session τ ω) {returned : Option Ending × Session τ ω}
    (member : returned ∈ session.drive notify fuel visits) :
    ∃ n, Stretch notify session n (returned.1.bind Ending.final?) returned.2 ∧
      (session.machine.resuming = true → returned.1 = some .breakpoint → 0 < n) := by
  induction visits generalizing session with
  | nil => cases member
  | cons requests rest ih =>
    have kept := session.resuming_requestStopIf requests.before
    rcases session.drive_cases notify fuel requests rest with
      ⟨n, ending, after, pauses, stretch, paused, driven⟩ |
        ⟨n, ending, after, final, stretch, driven⟩ |
      ⟨after, stretch, driven⟩
    · -- A pause without an instruction is not at a breakpoint, and keeps the mark.
      have moves : session.machine.resuming = true → n = 0 →
          ending ≠ .breakpoint ∧ after.machine.resuming = true := by
        intro resuming zero
        cases ending with
        | breakpoint =>
          have fresh := (paused.2.2 zero).2
          rw [kept, resuming] at fresh
          cases fresh
        | stopped => exact ⟨nofun, (paused.2 zero).2.trans (kept.trans resuming)⟩
        | halted | faulted fault => cases pauses
      rw [driven] at member
      rcases List.mem_cons.mp member with rfl | later
      · refine ⟨n, by simpa [Ending.final?, pauses] using stretch, ?_⟩
        rintro resuming ⟨⟩
        exact Nat.pos_of_ne_zero fun zero => (moves resuming zero).1 rfl
      · obtain ⟨m, further, marked⟩ := ih after later
        refine ⟨n + m, stretch.trans further, ?_⟩
        intro resuming atBreakpoint
        by_cases zero : n = 0
        · have := marked (moves resuming zero).2 atBreakpoint
          omega
        · omega
    · rw [driven, List.mem_singleton] at member
      subst member
      refine ⟨n, by simpa [Ending.final?, final] using stretch, ?_⟩
      rintro _ ⟨⟩
      cases final
    · rw [driven, List.mem_singleton] at member
      subst member
      exact ⟨fuel, stretch, nofun⟩

/-- Each run of a drive goes on where the ones before it left off, and between two breakpoints an
    instruction is carried out. -/
theorem drive_pairwise (notify : Notice → ω → ω) (fuel : Nat) (visits : List Requests)
    (session : Session τ ω) :
    (session.drive notify fuel visits).Pairwise fun earlier later =>
      ∃ n, Stretch notify earlier.2 n (later.1.bind Ending.final?) later.2 ∧
        (earlier.1 = some .breakpoint → later.1 = some .breakpoint → 0 < n) := by
  induction visits generalizing session with
  | nil => exact List.Pairwise.nil
  | cons requests rest ih =>
    rcases session.drive_cases notify fuel requests rest with
      ⟨n, ending, after, _, _, paused, driven⟩ | ⟨_, _, _, _, _, driven⟩ | ⟨_, _, driven⟩
    · rw [driven]
      refine List.Pairwise.cons ?_ (ih after)
      intro later member
      obtain ⟨m, further, marked⟩ := drive_stretch notify fuel rest after member
      refine ⟨m, further, ?_⟩
      rintro ⟨⟩
      exact marked paused.2.1
    · rw [driven]
      exact List.pairwise_singleton _ _
    · rw [driven]
      exact List.pairwise_singleton _ _

/-! ## The end of the program -/

/-- How many runs may pause before an instruction is carried out: one for a stop request, and one
    at a breakpoint unless it is the one resumed from. -/
def pauses (machine : Machine) : Nat :=
  machine.stopRequested.toNat + (!machine.resuming).toNat

theorem Paused.pauses_lt {before after : Machine} {n : Nat} {ending : Ending}
    (isPause : ending.isPause = true) (paused : Paused before n after ending) :
    pauses after < pauses before + 2 * n := by
  have rest := Bool.toNat_le (!after.resuming)
  by_cases zero : n = 0
  · cases ending with
    | stopped =>
      obtain ⟨taken, found⟩ := paused
      obtain ⟨requested, kept⟩ := found zero
      simp only [pauses, taken, requested, kept, zero, Bool.toNat_false, Bool.toNat_true]
      omega
    | breakpoint =>
      obtain ⟨taken, marked, found⟩ := paused
      obtain ⟨fresh, notResuming⟩ := found zero
      simp [pauses, taken, marked, fresh, notResuming, zero]
    | halted | faulted fault => cases isPause
  · have taken : after.stopRequested = false := by
      cases ending with
      | stopped | breakpoint => exact paused.1
      | halted | faulted fault => cases isPause
    simp only [pauses, taken, Bool.toNat_false]
    omega

omit [Channel τ] in
theorem pauses_requestStopIf_le (session : Session τ ω) (asked : Bool) :
    pauses (session.requestStopIf asked).machine ≤ pauses session.machine + asked.toNat := by
  cases asked with
  | false => exact Nat.le_refl _
  | true =>
    simp only [pauses, requestStopIf, Machine.requestStop, if_true, Bool.toNat_true]
    omega

/-- Once plain steps have ended the program, further ones are not looked at. -/
theorem ends_of_le {machine : Machine} {console : Option τ} {m n : Nat} {ending : Ending}
    (ends : (machine.steps m console).1.findSome? Outcome.ending? = some ending) (le : m ≤ n) :
    (machine.steps n console).1.findSome? Outcome.ending? = some ending := by
  obtain ⟨k, rfl⟩ := Nat.exists_eq_add_of_le le
  rw [Machine.steps_add, List.findSome?_append, ends]
  rfl

/-- What plain steps come to after a stretch of them. -/
theorem Stretch.ends_after {notify : Notice → ω → ω} {before after : Session τ ω} {m n : Nat}
    {ending : Ending} (stretch : Stretch notify before m none after)
    (ends : (before.machine.steps n before.console).1.findSome? Outcome.ending? = some ending) :
    m < n ∧
      (after.machine.steps (n - m) after.console).1.findSome? Outcome.ending? = some ending := by
  have early : m < n := by
    apply Nat.lt_of_not_le
    intro late
    have ended := ends_of_le ends late
    rw [stretch.ends] at ended
    cases ended
  refine ⟨early, ?_⟩
  obtain ⟨outcomes, _, _⟩ := stretch.machine.steps (n - m) after.console
  have joined : m + (n - m) = n := by omega
  rw [← joined, Machine.steps_add, List.findSome?_append, stretch.ends, ← stretch.console,
    ← outcomes] at ends
  exact ends

/-- If plain steps end the program, so does a drive, after at most two runs for each of them and
    one for each stop request that comes before a run. -/
theorem drive_ends (notify : Notice → ω → ω) (fuel : Nat) (visits : List Requests)
    (session : Session τ ω) {n : Nat} {ending : Ending}
    (ends : (session.machine.steps n session.console).1.findSome? Outcome.ending? = some ending)
    (enough : n ≤ fuel)
    (often : pauses session.machine + visits.countP Requests.before + 2 * n < visits.length) :
    ∃ last, (session.drive notify fuel visits).getLast? = some (some ending, last) := by
  induction visits generalizing session n with
  | nil => cases often
  | cons requests rest ih =>
    rcases session.drive_cases notify fuel requests rest with
      ⟨m, _, after, isPause, stretch, paused, driven⟩ | ⟨m, other, after, _, stretch, driven⟩ |
      ⟨after, stretch, driven⟩
    · obtain ⟨early, remaining⟩ := stretch.ends_after ends
      have fewer := paused.pauses_lt isPause
      have more := session.pauses_requestStopIf_le requests.before
      have counted : (requests :: rest).countP Requests.before =
          rest.countP Requests.before + requests.before.toNat := by
        rw [List.countP_cons]
        cases requests.before <;> rfl
      rw [counted, List.length_cons] at often
      obtain ⟨last, is⟩ := ih after remaining (by omega) (by omega)
      exact ⟨last, by rw [driven, List.getLast?_cons, is]; rfl⟩
    · have same : ending = other := by
        rcases Nat.le_total m n with le | le
        · have both := ends_of_le stretch.ends le
          rw [ends] at both
          exact Option.some.inj both
        · have both := ends_of_le ends le
          rw [stretch.ends] at both
          exact (Option.some.inj both).symm
      exact ⟨after, by rw [driven, same]; rfl⟩
    · -- A run that uses up its fuel is past the end.
      have := (stretch.ends_after ends).1
      omega

/-- Debugging and stopping are transparent. Whatever the machine, the breakpoints and the stop
    requests, whoever runs the machine again after each breakpoint and each stop finds it, its
    terminal and its observer after every run as a number of plain steps would leave them; the run
    is the last, and ends the program, exactly if these steps do, and in the same way. Each run goes
    on where earlier ones left off, and between two breakpoints an instruction is carried out. If
    the program ends at all, it does so after at most two runs for each of its instructions and one
    for each stop request between runs, two more apart. -/
theorem drive_transparent (notify : Notice → ω → ω) (fuel : Nat) (visits : List Requests)
    (session : Session τ ω) :
    (∀ returned ∈ session.drive notify fuel visits,
      ∃ n, Stretch notify session n (returned.1.bind Ending.final?) returned.2) ∧
    ((session.drive notify fuel visits).Pairwise fun earlier later =>
      ∃ n, Stretch notify earlier.2 n (later.1.bind Ending.final?) later.2 ∧
        (earlier.1 = some .breakpoint → later.1 = some .breakpoint → 0 < n)) ∧
    ∀ n ending,
      (session.machine.steps n session.console).1.findSome? Outcome.ending? = some ending →
      n ≤ fuel → visits.countP Requests.before + 2 * n + 2 < visits.length →
        ∃ last, (session.drive notify fuel visits).getLast? = some (some ending, last) := by
  refine ⟨?_, drive_pairwise notify fuel visits session, ?_⟩
  · intro returned member
    obtain ⟨n, stretch, _⟩ := drive_stretch notify fuel visits session member
    exact ⟨n, stretch⟩
  · intro n ending ends enough often
    have requested := Bool.toNat_le session.machine.stopRequested
    have fresh := Bool.toNat_le (!session.machine.resuming)
    apply drive_ends notify fuel visits session ends enough
    rw [pauses]
    omega

/-- Two instructions with a breakpoint at each, the second one's on a condition, and a stop request
    right after the first run stopped at its breakpoint. -/
theorem drive_transparent_stop_at_breakpoint :
    let machine : Machine := { Machine.initial with store := Store.empty.put ⟨0, by decide⟩ 21 }
    let debugger : Debugger := ⟨[⟨0, none, 0⟩, ⟨1, some ⟨.hitCount, .less, 5⟩, 0⟩], none⟩
    let session : Session MemoryTerminal (List Notice) := ⟨machine, some .empty, some debugger, []⟩
    let never : Nat → Bool := fun _ => false
    let visits : List Requests :=
      [⟨false, never⟩, ⟨true, never⟩] ++ List.replicate 6 ⟨false, never⟩
    ∃ first second third last,
      session.drive List.cons 2 visits = [(some .breakpoint, first), (some .stopped, second),
        (some .breakpoint, third), (some .halted, last)] ∧
      (∃ n, Stretch List.cons session n none first) ∧
      (∃ n, Stretch List.cons first n none third ∧ 0 < n) ∧
      (session.machine.steps 2 session.console).1.findSome? Outcome.ending? = some .halted ∧
      ∃ after, (session.drive List.cons 2 visits).getLast? = some (some .halted, after) := by
  intro machine debugger session never visits
  obtain ⟨first, second, third, last, driven⟩ : ∃ first second third last,
      session.drive List.cons 2 visits = [(some .breakpoint, first), (some .stopped, second),
        (some .breakpoint, third), (some .halted, last)] := ⟨_, _, _, _, rfl⟩
  have ends : (session.machine.steps 2 session.console).1.findSome? Outcome.ending? =
      some .halted := rfl
  obtain ⟨each, pairs, reaches⟩ := drive_transparent List.cons 2 visits session
  have found : ∃ n, Stretch List.cons session n none first :=
    each (some .breakpoint, first) (by simp [driven])
  rw [driven] at pairs
  obtain ⟨n, further, moved⟩ := List.rel_of_pairwise_cons pairs
    (show (some .breakpoint, third) ∈ _ by simp)
  exact ⟨first, second, third, last, driven, found, ⟨n, further, moved rfl rfl⟩, ends,
    reaches 2 .halted ends (by decide) (by decide)⟩

end Session

end WordMachine
