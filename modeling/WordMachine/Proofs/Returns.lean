import WordMachine.Proofs.Channels
import WordMachine.Proofs.Interruptions
import WordMachine.Terminal.Memory

/-!
Calls and returns. Data and return addresses share one stack, but every instruction leaves
the stack as it is, puts a word on top or takes one off (`stack_step`). So the words at the
bottom stay for as long as the stack does not get shorter than they are (`steps_bottom`), and
a return that finds the stack as deep as a call left it goes on behind that call
(`returns_behind_call`).
-/

namespace WordMachine

namespace Stack

theorem toList_push (stack : Stack) (word : UInt16) :
    (stack.push word).toList = stack.toList ++ [word] := by
  simp [toList, push]

theorem toList_drop (stack : Stack) : stack.drop.toList = stack.toList.dropLast := by
  simp [toList, drop]

theorem toList_of_top? {stack : Stack} {word : UInt16} (top : stack.top? = some word) :
    stack.toList = stack.drop.toList ++ [word] := by
  have last : stack.toList.getLast? = some word := by simpa [toList, top?] using top
  rw [toList_drop, List.dropLast_append_getLast? word last]

theorem length_toList (stack : Stack) : stack.toList.length = stack.depth := rfl

theorem toList_injective {left right : Stack} (same : left.toList = right.toList) : left = right :=
  congrArg ofList same

theorem top?_push (stack : Stack) (word : UInt16) : (stack.push word).top? = some word := by
  simp [top?, push]

theorem drop_push (stack : Stack) (word : UInt16) : (stack.push word).drop = stack := by
  simp [drop, push]

end Stack

namespace Machine

/-- The operation of the instruction at the program counter, if it can be read. -/
def operation? (machine : Machine) : Option Opcode :=
  match machine.decode machine.pc with
  | .ok instruction => Opcode.ofWord? instruction.code
  | .error _ => none

theorem operation?_eq_some {machine : Machine} {op : Opcode}
    (found : machine.operation? = some op) :
    ∃ instruction, machine.Reads op instruction := by
  rw [operation?] at found
  split at found
  · rename_i instruction read
    exact ⟨instruction, read, found⟩
  · cases found

variable {τ : Type} [Channel τ]

/-! ## The bottom of the stack -/

theorem Performed.stack_cases {machine after : Machine} {change : Change}
    (performed : Performed machine change after) :
    after.stack = machine.stack ∨ (∃ word, after.stack = machine.stack.push word) ∨
      after.stack = machine.stack.drop := by
  cases performed with
  | input => exact .inl rfl
  | plain =>
    cases change with
    | push word => exact .inr (.inl ⟨word, rfl⟩)
    | drop | popTo => exact .inr (.inr rfl)
    | none | setRegister | store | write | input => exact .inl rfl

/-- A step leaves the stack as it is, puts one word on it or takes one off. -/
theorem stack_step (machine : Machine) (console : Option τ) :
    (machine.step console).2.1.stack = machine.stack ∨
      (∃ word, (machine.step console).2.1.stack = machine.stack.push word) ∨
      (machine.step console).2.1.stack = machine.stack.drop := by
  rcases machine.step_cases console with ⟨_, _, _, faulted, _⟩ |
    ⟨_, _, _, _, _, _, _, _, performed, done⟩
  · rw [faulted]
    exact .inl rfl
  · rw [done]
    exact performed.stack_cases

/-- A step keeps the words at the bottom, unless it takes off the last one of them. -/
theorem step_bottom {machine : Machine} {console : Option τ} {bottom : List UInt16}
    (below : bottom <+: machine.stack.toList)
    (deep : bottom.length ≤ (machine.step console).2.1.stack.depth) :
    bottom <+: (machine.step console).2.1.stack.toList := by
  rcases machine.stack_step console with same | ⟨word, pushed⟩ | dropped
  · rw [same]
    exact below
  · rw [pushed, Stack.toList_push]
    exact below.trans (List.prefix_append _ _)
  · rw [← Stack.length_toList] at deep
    rw [dropped, Stack.toList_drop] at deep ⊢
    exact List.prefix_of_prefix_length_le below (List.dropLast_prefix _) deep

/-- The words at the bottom stay as long as the stack does not get shorter than they are. -/
theorem steps_bottom (n : Nat) {machine : Machine} {console : Option τ} {bottom : List UInt16}
    (below : bottom <+: machine.stack.toList)
    (deep : ∀ k ≤ n, bottom.length ≤ (machine.steps k console).2.1.stack.depth) :
    bottom <+: (machine.steps n console).2.1.stack.toList := by
  induction n generalizing machine console with
  | zero => exact below
  | succ n ih =>
    have first : bottom <+: (machine.step console).2.1.stack.toList :=
      step_bottom below (deep 1 (Nat.succ_le_succ (Nat.zero_le n)))
    exact ih first fun k few => deep (k + 1) (Nat.succ_le_succ few)

/-! ## Calling and returning -/

/-- A call that is carried out puts the address behind it on the stack. -/
theorem Reads.stack_of_call {machine : Machine} {instruction : Instruction}
    (reads : machine.Reads .call instruction) {console : Option τ}
    (executed : ∀ fault, (machine.step console).1 ≠ .faulted fault) :
    ∃ word, (machine.step console).2.1.stack = machine.stack.push word ∧
      word.toNat = machine.pc.toNat + 2 := by
  obtain ⟨op, other, action, after, remaining, found, acts, carried, stepped⟩ :=
    step_carriedOut executed
  obtain ⟨rfl, rfl⟩ := found.unique reads
  rw [stepped]
  cases acts with
  | compute roles => cases roles
  | call value inside =>
    cases carried
    refine ⟨other.following.toUInt16, rfl, ?_⟩
    have small : other.following.toNat < 2 ^ 16 := Nat.lt_trans inside (by decide)
    rw [UInt32.toNat_toUInt16, Nat.mod_eq_of_lt small]
    exact reads.toNat_following

theorem stack_of_call {machine : Machine} {console : Option τ}
    (calls : machine.operation? = some .call) (executed : (machine.step console).1.ending? = none) :
    ∃ word, (machine.step console).2.1.stack = machine.stack.push word ∧
      word.toNat = machine.pc.toNat + 2 := by
  obtain ⟨instruction, reads⟩ := operation?_eq_some calls
  refine reads.stack_of_call fun fault faulted => ?_
  rw [faulted] at executed
  cases executed

/-- A return goes on at the address on top of the stack, which it takes off. -/
theorem step_of_ret {machine : Machine} {stack : Stack} {word : UInt16} (console : Option τ)
    (returns : machine.operation? = some .ret) (top : machine.stack = stack.push word) :
    (machine.step console).1.ending? = none ∧
      (machine.step console).2.1.pc.toNat = word.toNat ∧
      (machine.step console).2.1.stack = stack := by
  obtain ⟨instruction, read, known⟩ := operation?_eq_some returns
  have resolved : machine.resolve instruction = .ok ⟨.drop, word.toUInt32, false⟩ := by
    simp only [resolve, known, actionOf, top, Stack.top?_push]
  have moved := Resolved.step_plain ⟨read, resolved⟩ (by rintro _ ⟨⟩) (by rintro _ ⟨⟩) console
  rw [moved]
  refine ⟨rfl, UInt16.toNat_toUInt32 word, ?_⟩
  change machine.stack.drop = stack
  rw [top, Stack.drop_push]

/-- Calls and returns match. Whatever is carried out after a call, the program's changes to itself
    included, if the stack always stays at least as deep as the call left it, then a return that
    finds it just as deep is carried out, goes on behind the call and leaves the stack as it was
    before the call. -/
theorem returns_behind_call {machine : Machine} {console : Option τ} {n : Nat}
    (calls : machine.operation? = some .call) (executed : (machine.step console).1.ending? = none)
    (deep : ∀ k, 0 < k → k ≤ n →
      machine.stack.depth + 1 ≤ (machine.steps k console).2.1.stack.depth)
    (returns : (machine.steps n console).2.1.operation? = some .ret)
    (level : (machine.steps n console).2.1.stack.depth = machine.stack.depth + 1) :
    ((machine.steps n console).2.1.step (machine.steps n console).2.2).1.ending? = none ∧
      (machine.steps (n + 1) console).2.1.pc.toNat = machine.pc.toNat + 2 ∧
      (machine.steps (n + 1) console).2.1.stack = machine.stack := by
  obtain ⟨word, pushed, behind⟩ := stack_of_call calls executed
  have called : (machine.step console).2.1.stack.depth = machine.stack.depth + 1 := by
    rw [pushed, ← Stack.length_toList, Stack.toList_push, List.length_append, Stack.length_toList]
    rfl
  cases n with
  | zero => exact absurd level (Nat.ne_of_lt (Nat.lt_succ_self _))
  | succ n =>
    have kept : (machine.step console).2.1.stack.toList <+:
        (machine.steps (n + 1) console).2.1.stack.toList := by
      refine steps_bottom n (List.prefix_refl _) fun k few => ?_
      rw [Stack.length_toList, called]
      exact deep (k + 1) (Nat.succ_pos k) (Nat.succ_le_succ few)
    have found : (machine.steps (n + 1) console).2.1.stack = machine.stack.push word := by
      rw [← pushed]
      apply Stack.toList_injective
      refine (kept.eq_of_length ?_).symm
      rw [Stack.length_toList, Stack.length_toList, called, level]
    obtain ⟨goesOn, pc, stack⟩ := step_of_ret (machine.steps (n + 1) console).2.2 returns found
    have last : (machine.steps (n + 1 + 1) console).2.1 =
        ((machine.steps (n + 1) console).2.1.step (machine.steps (n + 1) console).2.2).2.1 := by
      rw [steps_add]
      rfl
    rw [last]
    exact ⟨goesOn, pc.trans behind, stack⟩

/-- A routine that calls another and writes its own return, called with a word on the stack. -/
theorem returns_behind_call_rewritten :
    let machine : Machine :=
      { Machine.initial with
        stack := .ofList [9]
        store := [(0, 17), (1, 6), (6, 2), (7, 7), (8, 17), (9, 16), (10, 16), (11, 15), (12, 18),
            (13, 3), (14, 32768), (15, 21), (16, 18)].foldl
          (fun store word => store.put word.1 word.2) .empty }
    let console : Option MemoryTerminal := none
    machine.operation? = some .call ∧ (machine.steps 6 console).2.1.operation? = some .ret ∧
    ([1, 2, 3, 4, 5, 6].map fun k => (machine.steps k console).2.1.stack.toList) =
      [[9, 2], [9, 2, 7], [9, 2, 7, 10], [9, 2, 7], [9, 2, 7], [9, 2]] ∧
    (machine.steps (6 + 1) console).2.1.pc.toNat = machine.pc.toNat + 2 ∧
    (machine.steps (6 + 1) console).2.1.stack = machine.stack := by
  intro machine console
  have contents : ([1, 2, 3, 4, 5, 6].map fun k => (machine.steps k console).2.1.stack.toList) =
      [[9, 2], [9, 2, 7], [9, 2, 7, 10], [9, 2, 7], [9, 2, 7], [9, 2]] := by decide +kernel
  have deep : ∀ k ∈ [1, 2, 3, 4, 5, 6], 2 ≤ (machine.steps k console).2.1.stack.depth := by
    decide +kernel
  have level : (machine.steps 6 console).2.1.stack.depth = 2 := by decide +kernel
  have calls : machine.operation? = some .call := by decide +kernel
  have returns : (machine.steps 6 console).2.1.operation? = some .ret := by decide +kernel
  have executed : (machine.step console).1.ending? = none := by decide +kernel
  have shallow : machine.stack.depth = 1 := rfl
  clear_value machine console
  have kept : ∀ k, 0 < k → k ≤ 6 → machine.stack.depth + 1 ≤
    (machine.steps k console).2.1.stack.depth := by
    intro k positive few
    rw [shallow]
    exact deep k (by simp; omega)
  obtain ⟨_, pc, stack⟩ := returns_behind_call calls executed kept returns
    (level.trans (by rw [shallow]))
  exact ⟨calls, returns, contents, pc, stack⟩

end Machine

end WordMachine
