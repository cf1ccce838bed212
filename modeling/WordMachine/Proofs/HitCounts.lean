import Mathlib.Data.List.Induction
import WordMachine.Proofs.Breakpoints
import WordMachine.Proofs.Interruptions

/-!
Arrivals at breakpoints. A run that arrives at a breakpoint counts the arrival and then either
attempts the instruction there or ends; if it ends, the run that resumes attempts the
instruction without counting again. So however runs are stopped and resumed, the hits of a
breakpoint are the attempts at its instruction, and one more while a run rests there, and a
condition on the hits stops exactly the arrivals that it names (`hits_count_arrivals`).
-/

namespace WordMachine

/-- What a run does at an address: it attempts the instruction there, or it ends there at a
    breakpoint. -/
inductive Visit where
  | attempted (address : UInt64)
  | rested (address : UInt64)
deriving DecidableEq, Repr

/-- The address of the instruction that observers are told about. -/
def Notice.address : Notice → UInt32
  | stepped event => event.instruction.address
  | faulted fault => fault.pc

namespace Visit

/-- Notes the instructions that are attempted, the latest first, those that fault too. -/
def note (notice : Notice) (history : List Visit) : List Visit :=
  .attempted notice.address.toUInt64 :: history

/-- Notes that a run ended at a breakpoint. -/
def rest (machine : Machine) (history : List Visit) : List Visit :=
  .rested machine.pc.toUInt64 :: history

/-- Whether a run ended at a breakpoint at this address and nothing was attempted since. -/
def restsAt (address : UInt64) (history : List Visit) : Bool :=
  decide (history.head? = some (.rested address))

/-- The arrivals at an address in order, each with whether the run ended there. An attempt right
    after a rest at the same address belongs to the arrival before. -/
def arrivals (address : UInt64) : List Visit → List Bool
  | [] => []
  | .rested place :: earlier =>
    if place = address then arrivals address earlier ++ [true] else arrivals address earlier
  | .attempted place :: earlier =>
    if place = address ∧ restsAt address earlier = false then arrivals address earlier ++ [false]
    else arrivals address earlier

/-- What a run does that arrives at an address without resuming. -/
def ofArrival (stop : Bool) (address : UInt64) : Visit :=
  if stop then .rested address else .attempted address

theorem arrivals_ofArrival {history : List Visit} (moving : ∀ place, restsAt place history = false)
    (stop : Bool) (place address : UInt64) :
    arrivals address (ofArrival stop place :: history) =
      if place = address then arrivals address history ++ [stop] else arrivals address history := by
  cases stop with
  | true => rfl
  | false => simp [ofArrival, arrivals, moving]

/-- Resuming is no arrival. -/
theorem arrivals_resumed {history : List Visit} {place : UInt64}
    (resting : restsAt place history = true)
    (address : UInt64) : arrivals address (.attempted place :: history) =
      arrivals address history := by
  rw [arrivals, if_neg]
  rintro ⟨rfl, moving⟩
  rw [resting] at moving
  cases moving

end Visit

/-! ## Debuggers -/

namespace Debugger

/-- The debugger with breakpoints set one after the other. Those past memory are refused. -/
def setAll (debugger : Debugger) (settings : List (UInt64 × Option Condition)) : Debugger :=
  settings.foldl (fun debugger setting =>
    (debugger.set? setting.1 setting.2).getD debugger) debugger

theorem find?_insert_self (breakpoint : Breakpoint) (breakpoints : List Breakpoint) :
    (insert breakpoint breakpoints).find? (·.address == breakpoint.address) = some breakpoint := by
  induction breakpoints with
  | nil => simp [insert]
  | cons head rest ih =>
    rw [insert]
    split
    · simp
    · split
      · simp
      · rename_i different
        rw [List.find?_cons_of_neg (by simpa using Ne.symm different), ih]

theorem find?_insert_of_ne {breakpoint : Breakpoint} {address : UInt64}
    (elsewhere : breakpoint.address ≠ address) (breakpoints : List Breakpoint) :
    (insert breakpoint breakpoints).find? (·.address == address) =
      breakpoints.find? (·.address == address) := by
  induction breakpoints with
  | nil => simp [insert, elsewhere]
  | cons head rest ih =>
    rw [insert]
    split
    · rw [List.find?_cons_of_neg (by simpa using elsewhere)]
    · split
      · rename_i same
        have other : head.address ≠ address := same ▸ elsewhere
        rw [List.find?_cons_of_neg (by simpa using elsewhere),
          List.find?_cons_of_neg (by simpa using other)]
      · rw [List.find?_cons, List.find?_cons, ih]

theorem setAll_append (debugger : Debugger) (settings : List (UInt64 × Option Condition))
    (address : UInt64) (condition : Option Condition) :
    debugger.setAll (settings ++ [(address, condition)]) =
      ((debugger.setAll settings).set? address condition).getD (debugger.setAll settings) := by
  simp [setAll]

/-- A breakpoint that was set has a condition that it was set with, and no hits. -/
theorem find?_setAll (debugger : Debugger) {settings : List (UInt64 × Option Condition)}
    {address : UInt64} (inside : address.toNat < addressSpace)
    (set : address ∈ settings.map Prod.fst) :
    ∃ condition, (address, condition) ∈ settings ∧
      (debugger.setAll settings).find? address = some ⟨address, condition, 0⟩ := by
  induction settings using List.reverseRecOn with
  | nil => cases set
  | append_singleton earlier last ih =>
    obtain ⟨place, condition⟩ := last
    rw [setAll_append]
    by_cases here : place = address
    · subst here
      refine ⟨condition, by simp, ?_⟩
      rw [set?, if_pos inside]
      exact find?_insert_self ⟨place, condition, 0⟩ _
    · have before : address ∈ earlier.map Prod.fst := by
        simpa [Ne.symm here] using set
      obtain ⟨condition, among, found⟩ := ih before
      refine ⟨condition, List.mem_append_left _ among, ?_⟩
      rw [set?]
      split
      · exact (find?_insert_of_ne here _).trans found
      · exact found

/-- An arrival is counted at the breakpoint there and nowhere else. -/
theorem find?_arrive_eq (debugger : Debugger) (machine : Machine) (address : UInt64) :
    (debugger.arrive machine).2.find? address =
      (debugger.find? address).map (count machine.pc.toUInt64) := by
  have counted :
      (debugger.breakpoints.map (count machine.pc.toUInt64)).find? (·.address == address) =
        (debugger.find? address).map (count machine.pc.toUInt64) := by
    simp only [List.find?_map, Function.comp_def, address_count, find?]
  simp only [arrive]
  split
  · rename_i absent
    cases found : debugger.find? address with
    | none => rfl
    | some breakpoint =>
      have elsewhere : breakpoint.address ≠ machine.pc.toUInt64 := by
        intro here
        have same : breakpoint.address = address := by simpa using List.find?_some found
        rw [← here, same, found] at absent
        cases absent
      simp [count, elsewhere]
  · split
    · exact counted
    · exact counted

/-- A run that arrives at a breakpoint stops if its condition holds of the hits with this one. -/
theorem arrive_stops {debugger : Debugger} {machine : Machine} {breakpoint : Breakpoint}
    (found : debugger.find? machine.pc.toUInt64 = some breakpoint) :
    (debugger.arrive machine).1 = (count machine.pc.toUInt64 breakpoint).fires machine := by
  simp only [arrive, found]
  split
  · rename_i fires
    exact fires.symm
  · rename_i passes
    exact (Bool.eq_false_iff.mpr passes).symm

end Debugger

/-! ## Tallies -/

/-- The hits of a breakpoint are the arrivals there. An arrival ends in an attempt at the
    instruction unless a run still rests there. A condition on the hits says of each arrival
    whether the run ended. -/
structure Tally (address : UInt64) (condition : Option Condition) (debugger : Debugger)
    (history : List Visit) : Prop where
  hits : debugger.find? address =
    some ⟨address, condition, UInt64.ofNat (Visit.arrivals address history).length⟩
  attempts : (Visit.arrivals address history).length =
    history.count (.attempted address) + (Visit.restsAt address history).toNat
  ordinals : ∀ comparison value, condition = some ⟨.hitCount, comparison, value⟩ →
    Visit.arrivals address history =
      (List.range (Visit.arrivals address history).length).map fun before =>
        comparison.holds (UInt64.ofNat (before + 1)) value

section
variable {address : UInt64} {condition : Option Condition} {debugger : Debugger}
    {history : List Visit}

theorem tally_nil (found : debugger.find? address = some ⟨address, condition, 0⟩) :
    Tally address condition debugger [] :=
  ⟨found, rfl, fun _ _ _ => rfl⟩

theorem Tally.resumed (tally : Tally address condition debugger history) {place : UInt64}
    (resting : Visit.restsAt place history = true) :
    Tally address condition debugger (.attempted place :: history) := by
  have same := Visit.arrivals_resumed resting address
  refine ⟨by rw [same]; exact tally.hits, ?_, by rw [same]; exact tally.ordinals⟩
  rw [same, tally.attempts]
  have head : history.head? = some (.rested place) := by simpa [Visit.restsAt] using resting
  by_cases here : place = address
  · simp [Visit.restsAt, head, here]
  · simp [Visit.restsAt, head, here]

/-- The breakpoint where a run arrives counts one more, and the run ends there if the condition
    holds of that number. -/
theorem Tally.arrived_here {machine : Machine}
    (tally : Tally machine.pc.toUInt64 condition debugger history)
    (moving : ∀ place, Visit.restsAt place history = false) :
    Tally machine.pc.toUInt64 condition (debugger.arrive machine).2
      (.ofArrival (debugger.arrive machine).1 machine.pc.toUInt64 :: history) := by
  have arrivals := Visit.arrivals_ofArrival moving (debugger.arrive machine).1 machine.pc.toUInt64
    machine.pc.toUInt64
  rw [if_pos rfl] at arrivals
  have counted : Debugger.count machine.pc.toUInt64 ⟨machine.pc.toUInt64, condition,
        UInt64.ofNat (Visit.arrivals machine.pc.toUInt64 history).length⟩ =
      ⟨machine.pc.toUInt64, condition,
        UInt64.ofNat ((Visit.arrivals machine.pc.toUInt64 history).length + 1)⟩ := by
    simp [Debugger.count]
  constructor
  · rw [debugger.find?_arrive_eq, tally.hits, Option.map_some, counted, arrivals,
      List.length_append]
    rfl
  · rw [arrivals, List.length_append, tally.attempts, moving]
    cases (debugger.arrive machine).1 <;> simp [Visit.ofArrival, Visit.restsAt]
  · rintro comparison value rfl
    have stops := Debugger.arrive_stops tally.hits
    rw [counted] at stops
    rw [arrivals, List.length_append, List.length_singleton, List.range_succ, List.map_append,
      ← tally.ordinals comparison value rfl, stops]
    rfl

theorem Tally.arrived_elsewhere (tally : Tally address condition debugger history)
    (moving : ∀ place, Visit.restsAt place history = false) {machine : Machine}
    (elsewhere : machine.pc.toUInt64 ≠ address) :
    Tally address condition (debugger.arrive machine).2
      (.ofArrival (debugger.arrive machine).1 machine.pc.toUInt64 :: history) := by
  have same := Visit.arrivals_ofArrival moving (debugger.arrive machine).1 machine.pc.toUInt64
    address
  rw [if_neg elsewhere] at same
  constructor
  · rw [debugger.find?_arrive_eq, tally.hits, Option.map_some, same, Debugger.count,
      if_neg (Ne.symm elsewhere)]
  · rw [same, tally.attempts, moving]
    cases (debugger.arrive machine).1 <;> simp [Visit.ofArrival, Visit.restsAt, elsewhere]
  · rw [same]
    exact tally.ordinals

theorem Tally.arrived (tally : Tally address condition debugger history)
    (moving : ∀ place, Visit.restsAt place history = false) (machine : Machine) :
    Tally address condition (debugger.arrive machine).2
      (.ofArrival (debugger.arrive machine).1 machine.pc.toUInt64 :: history) := by
  by_cases here : machine.pc.toUInt64 = address
  · subst here
    exact tally.arrived_here moving
  · exact tally.arrived_elsewhere moving here

end

/-! ## Runs -/

namespace Session

variable {τ : Type}

/-- Carries out a call and keeps the history. -/
def call [Channel τ] (session : Session τ (List Visit)) (asked : RunCall) :
    Session τ (List Visit) :=
  noteRest Visit.rest (session.carryOut Visit.note asked)

/-- A breakpoint is tallied, and the mark for resuming shows that a run rests. -/
structure Tallied (address : UInt64) (condition : Option Condition)
    (session : Session τ (List Visit)) : Prop where
  tally : ∃ debugger, session.debugger = some debugger ∧
    Tally address condition debugger session.observer
  resting : session.machine.resuming = true →
    Visit.restsAt session.machine.pc.toUInt64 session.observer = true
  moving : session.machine.resuming = false → ∀ place, Visit.restsAt place session.observer = false

variable {address : UInt64} {condition : Option Condition}

theorem Tallied.withStop {session : Session τ (List Visit)}
    (tallied : session.Tallied address condition) (stopRequested : Bool) :
    { session with machine := { session.machine with stopRequested } }.Tallied address condition :=
  ⟨tallied.tally, tallied.resting, tallied.moving⟩

theorem Tallied.requestStopIf {session : Session τ (List Visit)}
    (tallied : session.Tallied address condition) (asked : Bool) :
    (session.requestStopIf asked).Tallied address condition := by
  cases asked with
  | false => exact tallied
  | true => exact tallied.withStop true

/-- A run that ends at a breakpoint rests there. -/
theorem Tallied.rest {session here : Session τ (List Visit)}
    (tallied : session.Tallied address condition) (arrived : session.arrive = (true, here)) :
    (noteRest Visit.rest (some .breakpoint, here)).Tallied address condition := by
  obtain ⟨debugger, is, tally⟩ := tallied.tally
  rcases session.arrive_cases with ⟨detached, _⟩ | ⟨_, _, _, passed⟩ |
    ⟨other, other_is, notResuming, asked⟩
  · rw [is] at detached
    cases detached
  · rw [passed] at arrived
    cases arrived
  · obtain rfl : debugger = other := Option.some.inj (is.symm.trans other_is)
    have counted := tally.arrived (tallied.moving notResuming) session.machine
    rw [asked] at arrived
    obtain ⟨stops, rfl⟩ := Prod.mk.inj arrived
    rw [stops] at counted
    refine ⟨⟨_, rfl, counted⟩, fun _ => by simp [noteRest, Visit.rest, Visit.restsAt], ?_⟩
    intro resumed
    exact absurd (stops.symm.trans resumed) Bool.noConfusion

variable [Channel τ]

/-- An instruction that is attempted is noted, whatever comes of it. -/
theorem step_attempted {session after : Session τ (List Visit)} {outcome : Outcome}
    (stepped : session.step Visit.note = (outcome, after)) :
    after.debugger = session.debugger ∧ after.machine.resuming = session.machine.resuming ∧
      after.observer = .attempted session.machine.pc.toUInt64 :: session.observer := by
  obtain ⟨machine, console, debugger, history⟩ := session
  have kept := machine.resuming_step console
  rcases machine.step_cases console with ⟨_, _, _, done, _⟩ |
    ⟨instruction, _, _, halts, _, _, read, _, _, done⟩
  · simp only [step, done] at stepped
    cases stepped
    have place : (machine.instructionAt machine.pc).address = machine.pc :=
      machine.address_instructionAt machine.pc
    refine ⟨rfl, rfl, ?_⟩
    simp only [Visit.note, Outcome.notice, Notice.address, Fault.pc, place]
  · rw [done] at kept
    simp only [step, done] at stepped
    cases stepped
    obtain ⟨_, decoded⟩ := Machine.decode_eq_ok read
    refine ⟨rfl, kept, ?_⟩
    cases halts <;> simp [Visit.note, Outcome.notice, Notice.address, Machine.eventOf,
      decoded.address_eq]

/-- A run that goes on attempts the instruction where it arrived or from where it resumes. -/
theorem Tallied.attempt {session here next : Session τ (List Visit)} {outcome : Outcome}
    (tallied : session.Tallied address condition) (arrived : session.arrive = (false, here))
    (stepped : here.step Visit.note = (outcome, next)) : next.Tallied address condition := by
  obtain ⟨debugger, is, tally⟩ := tallied.tally
  obtain ⟨debuggers, kept, history⟩ := step_attempted stepped
  have attempted (place : UInt64) : Visit.restsAt place next.observer = false := by
    simp [Visit.restsAt, history]
  rcases session.arrive_cases with ⟨detached, _⟩ | ⟨_, _, resuming, passed⟩ |
    ⟨other, other_is, notResuming, asked⟩
  · rw [is] at detached
    cases detached
  · rw [passed] at arrived
    cases arrived
    refine ⟨⟨debugger, debuggers.trans is, ?_⟩, fun resumed => ?_, fun _ => attempted⟩
    · rw [history]
      exact tally.resumed (tallied.resting resuming)
    · exact absurd (kept.symm.trans resumed) Bool.noConfusion
  · obtain rfl : debugger = other := Option.some.inj (is.symm.trans other_is)
    have counted := tally.arrived (tallied.moving notResuming) session.machine
    rw [asked] at arrived
    obtain ⟨passes, rfl⟩ := Prod.mk.inj arrived
    rw [passes] at counted
    refine ⟨⟨_, debuggers, ?_⟩, fun resumed => ?_, fun _ => attempted⟩
    · rw [history]
      exact counted
    · exact absurd (passes.symm.trans (kept.symm.trans resumed)) Bool.noConfusion

/-- A run keeps the tally, with a note at its end if it ends at a breakpoint. -/
theorem runFrom_tallied (stops : Nat → Bool) (fuel done : Nat) {session : Session τ (List Visit)}
    (tallied : session.Tallied address condition) :
    (noteRest Visit.rest (session.runFrom Visit.note stops fuel done)).Tallied address
      condition := by
  induction fuel generalizing done session with
  | zero => exact tallied
  | succ fuel ih =>
    rcases session.runFrom_cases Visit.note stops fuel done with ⟨_, stopped⟩ |
      ⟨_, here, arrived, resting⟩ | ⟨_, here, outcome, next, arrived, stepped, went⟩
    · rw [stopped]
      exact tallied.withStop false
    · rw [resting]
      exact tallied.rest arrived
    · have attempted := tallied.attempt arrived stepped
      rcases went with ⟨ending, asked, ends, last⟩ | ⟨_, more⟩
      · rw [last]
        have final : ending ≠ .breakpoint := by
          rintro rfl
          cases Outcome.isPause_of_ending? ends
        cases ending with
        | breakpoint => exact absurd rfl final
        | halted | stopped | faulted => exact attempted.requestStopIf asked
      · rw [more]
        exact ih (done + 1) (attempted.requestStopIf _)

theorem calls_tallied (calls : List RunCall) {session : Session τ (List Visit)}
    (tallied : session.Tallied address condition) :
    (calls.foldl call session).Tallied address condition := by
  induction calls generalizing session with
  | nil => exact tallied
  | cons first rest ih =>
    cases first with
    | run stops fuel => exact ih (runFrom_tallied stops fuel 0 tallied)
    | stop => exact ih (tallied.withStop true)

omit [Channel τ] in
theorem loaded_tallied (machine : Machine) (words : List UInt16) (console : Option τ)
    {debugger : Debugger} (found : debugger.find? address = some ⟨address, condition, 0⟩) :
    Tallied address condition ⟨(machine.load words).2, console, some debugger, []⟩ := by
  have unmarked : (machine.load words).2.resuming = false := by
    rw [Machine.load]
    cases machine.reset.store.load words <;> rfl
  refine ⟨⟨debugger, rfl, tally_nil found⟩, fun resuming => ?_, fun _ _ => rfl⟩
  exact absurd (unmarked.symm.trans resuming) Bool.noConfusion

/-- Arrivals are counted exactly once. Set breakpoints on a machine that was just loaded, and run it
    and ask for stops in any order. Then the hits of each of these breakpoints are the attempts at
    its instruction since, those that faulted included, and one more while a run rests there. So
    the hits are the arrivals, and if the condition of the breakpoint is on the hits, then the
    arrivals at which a run ended are those whose number meets it. -/
theorem hits_count_arrivals {machine : Machine} {words : List UInt16} {console : Option τ}
    {old : Debugger} {settings : List (UInt64 × Option Condition)} {calls : List RunCall}
    {now : Session τ (List Visit)}
    (called : calls.foldl call ⟨(machine.load words).2, console, some (old.setAll settings), []⟩ =
      now)
    {address : UInt64} (inside : address.toNat < addressSpace)
    (set : address ∈ settings.map Prod.fst) :
    ∃ condition debugger, (address, condition) ∈ settings ∧
      (old.setAll settings).find? address = some ⟨address, condition, 0⟩ ∧
      now.debugger = some debugger ∧
      debugger.find? address = some ⟨address, condition, UInt64.ofNat
        (now.observer.count (.attempted address) + (Visit.restsAt address now.observer).toNat)⟩ ∧
      (Visit.arrivals address now.observer).length =
        now.observer.count (.attempted address) + (Visit.restsAt address now.observer).toNat ∧
      ∀ comparison value, condition = some ⟨.hitCount, comparison, value⟩ →
        Visit.arrivals address now.observer =
          (List.range (Visit.arrivals address now.observer).length).map fun before =>
            comparison.holds (UInt64.ofNat (before + 1)) value := by
  obtain ⟨condition, among, found⟩ := old.find?_setAll inside set
  have tallied := calls_tallied calls (loaded_tallied machine words console found)
  rw [called] at tallied
  obtain ⟨debugger, is, tally⟩ := tallied.tally
  refine ⟨condition, debugger, among, found, is, ?_, tally.attempts, tally.ordinals⟩
  rw [tally.hits, tally.attempts]

/-- A jump to itself with a breakpoint on the second hit. The first run is stopped before it arrives
    a second time, the next one ends at the breakpoint, a stop comes before the one that resumes,
    and that one is stopped after it attempted the instruction once more. -/
theorem hits_count_arrivals_at_jump :
    ∃ now : Session MemoryTerminal (List Visit),
      [.run (· == 1) 9, .run (fun _ => false) 9, .stop, .run (fun _ => false) 9,
          .run (· == 2) 9].foldl
        call ⟨(Machine.initial.load [6, 0]).2, none,
          some (Debugger.empty.setAll [(0, some ⟨.hitCount, .equal, 2⟩)]), []⟩ = now ∧
      now.observer = [.attempted 0, .attempted 0, .rested 0, .attempted 0] ∧
      Visit.arrivals 0 now.observer = [false, true, false] ∧
      ∃ debugger, now.debugger = some debugger ∧
        debugger.find? 0 = some ⟨0, some ⟨.hitCount, .equal, 2⟩, 3⟩ := by
  have loaded : (Machine.initial.load [6, 0]).2 = { Machine.initial with
      store := (Store.empty.put ⟨0, by decide⟩ 6).put ⟨1, by decide⟩ 0 } :=
    congrArg Session.machine (load_pair 6 0 (none : Option MemoryTerminal))
  obtain ⟨now, called, history⟩ : ∃ now : Session MemoryTerminal (List Visit),
      [.run (· == 1) 9, .run (fun _ => false) 9, .stop, .run (fun _ => false) 9,
          .run (· == 2) 9].foldl
        call ⟨(Machine.initial.load [6, 0]).2, none,
          some (Debugger.empty.setAll [(0, some ⟨.hitCount, .equal, 2⟩)]), []⟩ = now ∧
      now.observer = [.attempted 0, .attempted 0, .rested 0, .attempted 0] := by
    refine ⟨_, rfl, ?_⟩
    rw [loaded]
    decide +kernel
  have inside : (0 : UInt64).toNat < addressSpace := by decide
  obtain ⟨condition, debugger, among, _, is, found, _⟩ :=
    hits_count_arrivals called inside (by decide)
  obtain rfl : condition = some ⟨.hitCount, .equal, 2⟩ := by simpa using among
  refine ⟨now, called, history, by rw [history]; decide, debugger, is, ?_⟩
  rw [found, history]
  decide

end Session

end WordMachine
