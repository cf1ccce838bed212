import Mathlib.Data.Finset.Lattice.Fold
import Mathlib.Data.Fintype.Basic
import Mathlib.Order.Lattice.Nat
import WordMachine.Proofs.Memory

/-!
Memory as its users see it. A plain memory has a word in every cell, clears all of its cells
whenever it is cleared, and knows which of them were used since. The store, which clears only
the words below its extent, represents a plain memory, and every call on both gives the same
reply and keeps it so (`Represents.perform`). So no sequence of calls can tell the two apart
(`store_refines_plain`).
-/

namespace WordMachine

/-- What a store can be asked for. -/
inductive StoreCall where
  | read (address : UInt32)
  | write (address : UInt32) (word : UInt16)
  | load (words : List UInt16)
  | reset

/-- What comes of a call. Only a read answers with a word. -/
abbrev StoreReply := Except Cause (Option UInt16)

namespace Store

/-- Carries out a call. A call that fails gives no new memory, so the one before it stays. -/
def perform (store : Store) : StoreCall → StoreReply × Store
  | .read address => ((store.read address).map some, store)
  | .write address word =>
    match store.write address word with
    | .ok after => (.ok none, after)
    | .error cause => (.error cause, store)
  | .load words =>
    match store.load words with
    | .ok after => (.ok none, after)
    | .error cause => (.error cause, store)
  | .reset => (.ok none, store.reset)

def performAll : List StoreCall → Store → List StoreReply × Store
  | [], store => ([], store)
  | call :: rest, store =>
    let (reply, store) := store.perform call
    let (replies, store) := performAll rest store
    (reply :: replies, store)

end Store

/-- A word for every cell, and the cells that were written or loaded since all of them were last
    cleared. -/
structure PlainMemory where
  cells : Fin addressSpace → UInt16
  used : Finset (Fin addressSpace)

namespace PlainMemory

def cleared : PlainMemory := ⟨fun _ => 0, ∅⟩

/-- One past the highest cell in use, and 0 if none is. -/
def extent (memory : PlainMemory) : Nat :=
  memory.used.sup fun cell => cell.val + 1

def perform (memory : PlainMemory) : StoreCall → StoreReply × PlainMemory
  | .read address =>
    if inside : address.toNat < addressSpace then
      (.ok (some (memory.cells ⟨address.toNat, inside⟩)), memory)
    else (.error (.readOutside address), memory)
  | .write address word =>
    if inside : address.toNat < addressSpace then
      (.ok none, ⟨Function.update memory.cells ⟨address.toNat, inside⟩ word,
        insert ⟨address.toNat, inside⟩ memory.used⟩)
    else (.error (.writeOutside address), memory)
  | .load words =>
    -- All cells are overwritten, those past the words with zero.
    if words.length ≤ addressSpace then
      (.ok none, ⟨fun cell => (words[cell.val]?).getD 0,
        Finset.univ.filter fun cell => cell.val < words.length⟩)
    else (.error (.tooManyWords words.length), memory)
  | .reset => (.ok none, cleared)

def performAll : List StoreCall → PlainMemory → List StoreReply × PlainMemory
  | [], memory => ([], memory)
  | call :: rest, memory =>
    let (reply, memory) := memory.perform call
    let (replies, memory) := performAll rest memory
    (reply :: replies, memory)

theorem extent_insert (cells : Fin addressSpace → UInt16) (cell : Fin addressSpace)
    (used : Finset (Fin addressSpace)) :
    extent ⟨cells, insert cell used⟩ = max (extent ⟨cells, used⟩) (cell.val + 1) := by
  simp only [extent, Finset.sup_insert]
  exact max_comm _ _

theorem extent_below (cells : Fin addressSpace → UInt16) {n : Nat} (fits : n ≤ addressSpace) :
    extent ⟨cells, Finset.univ.filter fun cell => cell.val < n⟩ = n := by
  apply le_antisymm
  · apply Finset.sup_le
    intro cell member
    have low : cell.val < n := (Finset.mem_filter.mp member).2
    omega
  · cases n with
    | zero => exact Nat.zero_le _
    | succ last =>
      have member : (⟨last, by omega⟩ : Fin addressSpace) ∈
          Finset.univ.filter fun cell : Fin addressSpace => cell.val < last + 1 := by
        simp
      exact Finset.le_sup (f := fun cell : Fin addressSpace => cell.val + 1) member

end PlainMemory

namespace Store

/-- The store holds the words of a plain memory, and its extent is the plain memory's. -/
structure Represents (store : Store) (memory : PlainMemory) : Prop where
  wellFormed : store.WellFormed
  cells : ∀ cell, store.get cell = memory.cells cell
  extent : store.extent = memory.extent

theorem empty_represents : empty.Represents .cleared :=
  ⟨empty_wellFormed, get_empty, rfl⟩

theorem Represents.put {store : Store} {memory : PlainMemory} (represents : store.Represents memory)
    (cell : Fin addressSpace) (word : UInt16) :
    (store.put cell word).Represents
      ⟨Function.update memory.cells cell word, insert cell memory.used⟩ := by
  refine ⟨put_wellFormed represents.wellFormed cell word, ?_, ?_⟩
  · intro other
    rw [get_put, represents.cells]
    by_cases same : cell = other
    · subst same
      simp
    · rw [if_neg same]
      exact (Function.update_of_ne (Ne.symm same) word memory.cells).symm
  · rw [extent_put, represents.extent, PlainMemory.extent_insert]
    rfl

/-- Whatever was there before, a memory that was loaded represents the words and zeros after
    them. -/
theorem represents_of_load {store loaded : Store} {words : List UInt16}
    (wellFormed : store.WellFormed) (accepted : store.load words = .ok loaded) :
    loaded.Represents ⟨fun cell => (words[cell.val]?).getD 0,
      Finset.univ.filter fun cell => cell.val < words.length⟩ := by
  obtain ⟨extent, fits⟩ := extent_of_load accepted
  refine ⟨load_wellFormed wellFormed accepted, get_of_load wellFormed accepted, ?_⟩
  rw [extent, PlainMemory.extent_below _ fits]

/-- A call is answered like that of the plain memory, which the store still represents after it. -/
theorem Represents.perform {store : Store} {memory : PlainMemory}
    (represents : store.Represents memory) (call : StoreCall) :
    (store.perform call).1 = (memory.perform call).1 ∧
      (store.perform call).2.Represents (memory.perform call).2 := by
  cases call with
  | read address =>
    by_cases inside : address.toNat < addressSpace
    · simp only [Store.perform, PlainMemory.perform, read, cell?, dif_pos inside, Except.map,
        represents.cells, true_and]
      exact represents
    · simp only [Store.perform, PlainMemory.perform, read, cell?, dif_neg inside, Except.map,
        true_and]
      exact represents
  | write address word =>
    by_cases inside : address.toNat < addressSpace
    · simp only [Store.perform, PlainMemory.perform, write, cell?, dif_pos inside, true_and]
      exact represents.put _ word
    · simp only [Store.perform, PlainMemory.perform, write, cell?, dif_neg inside, true_and]
      exact represents
  | load words =>
    by_cases fits : words.length ≤ addressSpace
    · have accepted := load_eq_ok store fits
      simp only [Store.perform, PlainMemory.perform, accepted, if_pos fits, true_and]
      exact represents_of_load represents.wellFormed accepted
    · simp only [Store.perform, PlainMemory.perform, load, if_neg fits, true_and]
      exact represents
  | reset =>
    refine ⟨rfl, ?_⟩
    simp only [Store.perform, PlainMemory.perform, reset_eq_empty represents.wellFormed]
    exact empty_represents

theorem Represents.performAll (calls : List StoreCall) {store : Store} {memory : PlainMemory}
    (represents : store.Represents memory) :
    (store.performAll calls).1 = (memory.performAll calls).1 ∧
      (store.performAll calls).2.Represents (memory.performAll calls).2 := by
  induction calls generalizing store memory with
  | nil => exact ⟨rfl, represents⟩
  | cons call rest ih =>
    obtain ⟨reply, moved⟩ := represents.perform call
    obtain ⟨replies, final⟩ := ih moved
    simp only [Store.performAll, PlainMemory.performAll, reply, replies, true_and]
    exact final

/-- The words in use are the cells below the extent, in order. -/
theorem words_eq_take {store : Store} (wellFormed : store.WellFormed) :
    store.words = (List.ofFn store.get).take store.extent := by
  have inside := wellFormed.extent_le
  apply List.ext_getElem
  · rw [length_words wellFormed, List.length_take, List.length_ofFn, Nat.min_eq_left inside]
  · intro i low _
    rw [List.getElem_take, List.getElem_ofFn]
    simp only [words, between, get, Array.getElem_toList, Array.getElem_extract, Nat.zero_add]
    rfl

theorem perform_of_failed {store : Store} {call : StoreCall} {cause : Cause}
    (failed : (store.perform call).1 = .error cause) : (store.perform call).2 = store := by
  cases call with
  | read address => rfl
  | write address word =>
    rw [Store.perform] at failed ⊢
    split at failed
    · cases failed
    · rfl
  | load words =>
    rw [Store.perform] at failed ⊢
    split at failed
    · cases failed
    · rfl
  | reset => cases failed

/-- Memory refines the plain one. Whatever calls are made, every reply is that of a memory that
    clears all of its cells; the extent is one past the highest cell in use, and every word from
    there on is zero; the words in use are the cells below it, and loading them into a memory after
    any other calls gives this memory again; and a call that fails changes nothing. -/
theorem store_refines_plain (calls : List StoreCall) :
    let replies := (empty.performAll calls).1
    let store := (empty.performAll calls).2
    let memory := (PlainMemory.cleared.performAll calls).2
    replies = (PlainMemory.cleared.performAll calls).1 ∧
    (∀ cell, store.get cell = memory.cells cell) ∧
    store.extent = memory.extent ∧
    (∀ cell : Fin addressSpace, store.extent ≤ cell.val → store.get cell = 0) ∧
    store.words = (List.ofFn store.get).take store.extent ∧
    (∀ others, (empty.performAll others).2.load store.words = .ok store) ∧
    ∀ call cause, (store.perform call).1 = .error cause → (store.perform call).2 = store := by
  intro replies store memory
  obtain ⟨same, represents⟩ := empty_represents.performAll calls
  refine ⟨same, represents.cells, represents.extent, represents.wellFormed.zero_beyond,
    words_eq_take represents.wellFormed, ?_, fun _ _ failed => perform_of_failed failed⟩
  intro others
  obtain ⟨_, other⟩ := empty_represents.performAll others
  exact load_words represents.wellFormed other.wellFormed

end Store

end WordMachine
