import WordMachine.Debug.Backtrace
import WordMachine.Proofs.EventChain
import WordMachine.Proofs.FaultConditions
import WordMachine.Proofs.Returns

/-!
What backtraces say of returns. A backtrace has the words on the stack, the top first
(`Machine.getElem?_backtrace_eq_some_iff`), and marks those that point just past a call
(`Machine.callBefore?_eq_some_iff`). A call puts such a word on the stack, and the word stays until
the stack gets shorter than the call left it (`Session.Advanced.return_kept`). So every return
address that is still on the stack is marked, unless the program has overwritten its call
(`backtrace_marks_live_calls`).
-/

namespace WordMachine

/-! ## Frames -/

namespace Machine

/-- A word is marked with the call that stands two words before the place it points to. -/
theorem callBefore?_eq_some_iff {machine : Machine} {value site : UInt16} :
    machine.callBefore? value = some site ↔
      value.toNat = site.toNat + 2 ∧ machine.word? site.toUInt64 = some Opcode.call.code := by
  have two : (2 : UInt16).toNat = 2 := rfl
  have bound := site.toNat_lt
  unfold callBefore?
  split
  · rename_i large
    have above : 2 ≤ value.toNat := UInt16.le_iff_toNat_le.mp large
    have before : (value - 2).toNat = value.toNat - 2 := by
      rw [UInt16.toNat_sub_of_le _ _ large, two]
    have here : value.toNat = site.toNat + 2 ↔ value - 2 = site := by
      rw [← UInt16.toNat_inj, before]
      omega
    rw [here]
    split
    · rename_i found
      constructor
      · intro same
        obtain rfl := Option.some.inj same
        exact ⟨rfl, found⟩
      · rintro ⟨rfl, _⟩
        rfl
    · rename_i other
      constructor
      · intro same
        cases same
      · rintro ⟨rfl, found⟩
        exact absurd found other
  · rename_i small
    have below : value.toNat < 2 := Nat.lt_of_not_le fun large =>
      small (UInt16.le_iff_toNat_le.mpr large)
    constructor
    · intro same
      cases same
    · rintro ⟨value, _⟩
      omega

theorem getElem?_framesFrom (machine : Machine) (depth : Nat) (words : List UInt16) (i : Nat) :
    (framesFrom machine depth words)[i]? =
      words[i]?.map fun value => ⟨depth + i, value, machine.callBefore? value⟩ := by
  induction words generalizing depth i with
  | nil => rfl
  | cons value rest ih =>
    cases i with
    | zero => rfl
    | succ i =>
      rw [framesFrom, List.getElem?_cons_succ, ih, List.getElem?_cons_succ, Nat.add_assoc,
        Nat.add_comm 1 i]

theorem length_framesFrom (machine : Machine) (depth : Nat) (words : List UInt16) :
    (framesFrom machine depth words).length = words.length := by
  induction words generalizing depth with
  | nil => rfl
  | cons value rest ih => rw [framesFrom, List.length_cons, ih, List.length_cons]

theorem length_backtrace (machine : Machine) (limit : Nat) :
    (machine.backtrace limit).length = min limit machine.stack.depth := by
  rw [backtrace, length_framesFrom, Stack.topmost, List.length_take, List.length_reverse]
  rfl

/-- The frame at a place is that of the word at this place under the top. -/
theorem getElem?_backtrace_eq_some_iff {machine : Machine} {limit i : Nat} {frame : Frame} :
    (machine.backtrace limit)[i]? = some frame ↔
      i < limit ∧ ∃ value, machine.stack.toList.reverse[i]? = some value ∧
        frame = ⟨i, value, machine.callBefore? value⟩ := by
  rw [backtrace, getElem?_framesFrom, Nat.zero_add, Stack.topmost, List.getElem?_take]
  split
  · rename_i few
    rw [Option.map_eq_some_iff]
    constructor
    · rintro ⟨value, here, rfl⟩
      exact ⟨few, value, here, rfl⟩
    · rintro ⟨_, value, here, rfl⟩
      exact ⟨value, here, rfl⟩
  · rename_i many
    exact iff_of_false nofun fun ⟨few, _⟩ => many few

/-! ## Calls -/

/-- An event of a call tells what was put on the stack. -/
theorem stack_of_call_event {τ : Type} [Channel τ] {machine : Machine} {console : Option τ}
    {event : StepEvent} (told : (machine.step console).1.notice = .stepped event)
    (call : event.instruction.code = Opcode.call.code) :
    ∃ word, (machine.step console).2.1.stack = machine.stack.push word ∧
      word.toNat = event.instruction.address.toNat + 2 := by
  rcases machine.step_cases console with ⟨_, _, _, faulted, _⟩ |
    ⟨instruction, _, next, halts, performed, _, read, _, _, stepped⟩
  · rw [faulted] at told
    cases told
  · have same : event.instruction = instruction := by
      rw [stepped] at told
      cases halts <;> rw [← Notice.stepped.inj told] <;> rfl
    have executed : ∀ fault, (machine.step console).1 ≠ .faulted fault := by
      intro fault faulted
      rw [faulted] at told
      cases told
    have reads : machine.Reads .call instruction := by
      refine ⟨read, ?_⟩
      rw [← same, call, Opcode.ofWord?_code]
    rw [same, reads.decoded.address_eq]
    exact reads.stack_of_call executed

end Machine

/-! ## Return addresses that stay -/

/-- Later on, the stack never gets shorter than the event left it. -/
def Outlasted (events : List StepEvent) (i : Nat) (inside : i < events.length) : Prop :=
  ∀ j (later : j < events.length), i ≤ j → events[i].depth ≤ events[j].depth

instance (events : List StepEvent) (i : Nat) (inside : i < events.length) :
    Decidable (Outlasted events i inside) :=
  inferInstanceAs (Decidable (∀ j, (_ : j < events.length) → i ≤ j → _))

namespace Session

variable {τ ω : Type} [Channel τ]

/-- What a call put on the stack stays at its place while nothing is taken off that is below. -/
theorem Advanced.return_kept {notify : Notice → ω → ω} {before after : Session τ ω}
    {events : List StepEvent} {fault : Option Fault}
    (advanced : Advanced notify before (notices events fault) after) {i : Nat}
    (inside : i < events.length)
    (call : events[i].instruction.code = Opcode.call.code) (outlasted : Outlasted events i inside) :
    ∃ below word, below ++ [word] <+: after.machine.stack.toList ∧
      below.length + 1 = events[i].depth ∧
      word.toNat = events[i].instruction.address.toNat + 2 := by
  have chain := advanced.chain
  obtain ⟨word, pushed, value⟩ := Machine.stack_of_call_event (advanced.stepped inside) call
  rw [← Machine.steps_succ] at pushed
  have depth := (chain.recorded i inside).depth
  have contents : (before.machine.steps (i + 1) before.console).2.1.stack.toList =
      (before.machine.steps i before.console).2.1.stack.toList ++ [word] := by
    rw [pushed, Stack.toList_push]
  have rest : i + 1 + (events.length - (i + 1)) = events.length := by omega
  -- From the call on, the stack is at least as deep as the call left it.
  have deep : ∀ k ≤ events.length - (i + 1),
      events[i].depth ≤ (before.machine.steps (i + 1 + k) before.console).2.1.stack.depth := by
    intro k few
    cases k with
    | zero => exact Nat.le_of_eq depth
    | succ k =>
      have later := (chain.recorded (i + 1 + k) (by omega)).depth
      rw [← Nat.add_assoc, ← later]
      exact outlasted (i + 1 + k) (by omega) (by omega)
  have kept : (before.machine.steps (i + 1) before.console).2.1.stack.toList <+:
      (before.machine.steps events.length before.console).2.1.stack.toList := by
    rw [← rest, Machine.final_of_steps_add (i + 1)]
    refine Machine.steps_bottom _ (List.prefix_refl _) fun k few => ?_
    rw [← Machine.final_of_steps_add, Stack.length_toList, ← depth]
    exact deep k few
  rw [contents, ← chain.reached.stack] at kept
  refine ⟨_, word, kept, ?_, value⟩
  rw [depth, ← Stack.length_toList, contents, List.length_append, List.length_singleton]

end Session

theorem foldl_transcribe (told before : List Notice) :
    told.foldl (fun told notice => transcribe notice told) before = before ++ told := by
  induction told generalizing before with
  | nil => simp
  | cons notice rest ih =>
    rw [List.foldl_cons, ih, transcribe, List.append_assoc, List.singleton_append]

theorem emitted_notices (events : List StepEvent) (fault : Option Fault) :
    emitted (notices events fault) = events := by
  cases fault <;> simp [emitted, notices, List.filterMap_map, Function.comp_def, Notice.event?]

/-! ## Marks -/

/-- The last word of a prefix, counted from the other end. -/
theorem getElem?_reverse_of_prefix {below words : List UInt16} {word : UInt16}
    (kept : below ++ [word] <+: words) :
    ∃ place, place + (below.length + 1) = words.length ∧ words.reverse[place]? = some word := by
  obtain ⟨above, rfl⟩ := kept
  refine ⟨above.length, ?_, ?_⟩
  · simp only [List.length_append, List.length_singleton]
    omega
  · rw [List.reverse_append, List.getElem?_append_right (Nat.le_of_eq above.length_reverse),
      List.length_reverse, Nat.sub_self, List.reverse_append]
    rfl

namespace Machine

/-- A word that a call put on the stack is marked with the call, where the call still stands. -/
theorem callBefore?_of_call {machine : Machine} {word : UInt16} {address : UInt32}
    (value : word.toNat = address.toNat + 2)
    (stands : machine.word? address.toUInt64 = some Opcode.call.code) :
    ∃ site, machine.callBefore? word = some site ∧ site.toNat = address.toNat := by
  have bound := word.toNat_lt
  have same : address.toUInt16.toNat = address.toNat := by
    rw [UInt32.toNat_toUInt16, Nat.mod_eq_of_lt (by omega)]
  have wide : address.toUInt16.toUInt64 = address.toUInt64 := by
    rw [← UInt64.toNat_inj, UInt16.toNat_toUInt64, UInt32.toNat_toUInt64, same]
  refine ⟨address.toUInt16, callBefore?_eq_some_iff.mpr ⟨?_, ?_⟩, same⟩
  · rw [same, value]
  · rw [wide, stands]

end Machine

/-- The frame of a word that a call put on the stack, once the stack never got shorter since and
    where the call still stands. -/
theorem Session.Advanced.call_marked {τ ω : Type} [Channel τ] {notify : Notice → ω → ω}
    {before after : Session τ ω} {events : List StepEvent} {fault : Option Fault}
    (advanced : Advanced notify before (notices events fault) after) {i : Nat}
    (inside : i < events.length)
    (call : events[i].instruction.code = Opcode.call.code) (outlasted : Outlasted events i inside)
    (stands : after.machine.word? events[i].instruction.address.toUInt64 = some Opcode.call.code) :
    ∃ place, place + events[i].depth = after.machine.stack.depth ∧
      ∀ limit, place < limit → ∃ frame, (after.machine.backtrace limit)[place]? = some frame ∧
        frame.value.toNat = events[i].instruction.address.toNat + 2 ∧
        ∃ site, frame.callSite = some site ∧
          site.toNat = events[i].instruction.address.toNat := by
  obtain ⟨below, word, kept, level, value⟩ := advanced.return_kept inside call outlasted
  obtain ⟨place, deep, here⟩ := getElem?_reverse_of_prefix kept
  obtain ⟨site, marked, same⟩ := Machine.callBefore?_of_call value stands
  refine ⟨place, by rw [← level, deep, Stack.length_toList], fun limit few => ?_⟩
  exact ⟨⟨place, word, after.machine.callBefore? word⟩,
    Machine.getElem?_backtrace_eq_some_iff.mpr ⟨few, word, here, rfl⟩, value, site, marked, same⟩

/-- Backtraces recognise every live return address. However a machine is driven, by single steps and
    runs, with any breakpoints and stops, a backtrace has the words on top of its stack, the top
    first and numbered from 0, as many as there are up to the limit. A call that was carried out put
    the address behind it on the stack; if the stack never got shorter since, and the call still
    stands in memory, then the frame with this word is marked with the address of the call. And a
    frame is marked with an address only if there is a call and the word points just past it. -/
theorem backtrace_marks_live_calls {τ : Type} [Channel τ] (machine : Machine) (console : Option τ)
    (debugger : Option Debugger) (demands : List Session.Demand) (limit : Nat) :
    let session : Session τ (List Notice) := ⟨machine, console, debugger, []⟩
    let after := (session.meetAll transcribe demands).2
    let events := emitted after.observer
    let frames := after.machine.backtrace limit
    frames.length = min limit after.machine.stack.depth ∧
      (∀ (i : Nat) (frame : Frame), frames[i]? = some frame →
        frame.depth = i ∧ after.machine.stack.toList.reverse[i]? = some frame.value) ∧
      (∀ i (inside : i < events.length), events[i].instruction.code = Opcode.call.code →
        Outlasted events i inside →
        after.machine.word? events[i].instruction.address.toUInt64 = some Opcode.call.code →
        ∃ place, place + events[i].depth = after.machine.stack.depth ∧
          (place < limit → ∃ frame, frames[place]? = some frame ∧
            frame.value.toNat = events[i].instruction.address.toNat + 2 ∧
            ∃ site, frame.callSite = some site ∧
              site.toNat = events[i].instruction.address.toNat)) ∧
      ∀ frame ∈ frames, ∀ site, frame.callSite = some site ↔
        frame.value.toNat = site.toNat + 2 ∧
          after.machine.word? site.toUInt64 = some Opcode.call.code := by
  intro session after events frames
  refine ⟨Machine.length_backtrace _ _, ?_, ?_, ?_⟩
  · intro i frame found
    obtain ⟨_, value, here, rfl⟩ := Machine.getElem?_backtrace_eq_some_iff.mp found
    exact ⟨rfl, here⟩
  · obtain ⟨told, advanced⟩ := session.meetAll_advanced transcribe demands
    have heard : events = told := by
      rw [← emitted_notices told (session.meetAll transcribe demands).1]
      refine congrArg emitted (advanced.observer.trans ?_)
      rw [foldl_transcribe, List.nil_append]
    rw [heard]
    intro i inside call outlasted stands
    obtain ⟨place, deep, marked⟩ := advanced.call_marked inside call outlasted stands
    exact ⟨place, deep, marked limit⟩
  · intro frame member site
    obtain ⟨i, found⟩ := List.mem_iff_getElem?.mp member
    obtain ⟨_, value, _, rfl⟩ := Machine.getElem?_backtrace_eq_some_iff.mp found
    exact Machine.callBefore?_eq_some_iff

/-- A routine that pushes a word and calls another one, which overwrites the call of the first. -/
theorem backtrace_marks_live_calls_nested :
    let machine : Machine :=
      { Machine.initial with
        store := [(0, 17), (1, 4), (4, 2), (5, 9), (6, 17), (7, 10), (10, 16), (11, 0),
          (12, 21)].foldl
          (fun store word => store.put word.1 word.2) .empty }
    let session : Session MemoryTerminal (List Notice) := ⟨machine, none, none, []⟩
    let after := (session.meetAll transcribe [.step, .drive (.run (fun _ => false) 2), .step]).2
    let events := emitted after.observer
    let frames := after.machine.backtrace 3
    (events.map fun event => (event.instruction.address, event.instruction.code, event.depth)) =
        [(0, 17, 1), (4, 2, 2), (6, 17, 3), (10, 16, 3)] ∧
      frames = [⟨0, 8, some 6⟩, ⟨1, 9, none⟩, ⟨2, 2, none⟩] ∧
      ∃ frame, frames[0]? = some frame ∧ frame.value.toNat = 6 + 2 ∧
        ∃ site, frame.callSite = some site ∧ site.toNat = 6 := by
  intro machine session after events frames
  refine ⟨by decide +kernel, by decide +kernel, ?_⟩
  obtain ⟨inside, call, outlasted, address, stands, level⟩ : ∃ inside : 2 < events.length,
      events[2].instruction.code = Opcode.call.code ∧ Outlasted events 2 inside ∧
        events[2].instruction.address.toNat = 6 ∧
        after.machine.word? events[2].instruction.address.toUInt64 = some Opcode.call.code ∧
        after.machine.stack.depth = 0 + events[2].depth := by decide +kernel
  -- With the machine known, elaboration would run it.
  clear_value machine
  obtain ⟨_, _, marked, _⟩ := backtrace_marks_live_calls machine (none : Option MemoryTerminal) none
    [.step, .drive (.run (fun _ => false) 2), .step] 3
  obtain ⟨place, deep, found⟩ := marked 2 inside call outlasted stands
  obtain rfl : place = 0 := Nat.add_right_cancel (deep.trans level)
  obtain ⟨frame, here, value, site, is, same⟩ := found (by decide)
  exact ⟨frame, here, value.trans (congrArg (· + 2) address), site, is, same.trans address⟩

end WordMachine
