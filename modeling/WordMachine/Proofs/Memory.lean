import WordMachine.Debug.Debugger
import WordMachine.Store

/-!
Memory whose words beyond the extent are all zero. Clearing such a memory gives
the empty one (`reset_eq_empty`), although only the words below the extent are
touched, so that what is loaded into it does not depend on what it held
(`load_eq_load_empty`), and its words in use are all that has to be kept of it
(`load_words`).
-/

namespace WordMachine.Store

/-- The extent lies within memory, and every word from it on is zero. -/
structure WellFormed (store : Store) : Prop where
  extent_le : store.extent ≤ addressSpace
  zero_beyond : ∀ cell : Fin addressSpace, store.extent ≤ cell.val → store.get cell = 0

/-- Memories with the same words and the same extent are the same. -/
theorem ext_get {left right : Store} (words : ∀ cell, left.get cell = right.get cell)
    (extents : left.extent = right.extent) : left = right := by
  cases left with
  | mk leftCells leftExtent =>
    cases right with
    | mk rightCells rightExtent =>
      have cells : leftCells = rightCells := by
        apply Vector.ext
        intro i inside
        exact words ⟨i, inside⟩
      subst cells
      exact congrArg _ extents

/-! ## Single words -/

theorem get_empty (cell : Fin addressSpace) : empty.get cell = 0 := by
  simp [get, empty]

theorem get_put (store : Store) (cell other : Fin addressSpace) (word : UInt16) :
    (store.put cell word).get other = if cell = other then word else store.get other := by
  simp only [get, put, Fin.getElem_fin]
  rw [Vector.getElem_set]
  simp only [Fin.ext_iff]

theorem extent_put (store : Store) (cell : Fin addressSpace) (word : UInt16) :
    (store.put cell word).extent = max store.extent (cell.val + 1) := rfl

theorem read_put (store : Store) (cell : Fin addressSpace) (word : UInt16) {address : UInt32}
    (inside : address.toNat < addressSpace) :
    (store.put cell word).read address =
      if cell.val = address.toNat then .ok word else store.read address := by
  simp only [read, cell?, dif_pos inside, get_put, apply_ite Except.ok, Fin.ext_iff]

theorem empty_wellFormed : empty.WellFormed :=
  ⟨Nat.zero_le _, fun cell _ => get_empty cell⟩

theorem put_wellFormed {store : Store} (wellFormed : store.WellFormed) (cell : Fin addressSpace)
    (word : UInt16) : (store.put cell word).WellFormed := by
  refine ⟨?_, ?_⟩
  · have inside := cell.isLt
    have before := wellFormed.extent_le
    rw [extent_put]
    omega
  · intro other beyond
    rw [extent_put] at beyond
    have different : cell ≠ other := by
      rintro rfl
      omega
    rw [get_put, if_neg different]
    exact wellFormed.zero_beyond other (by omega)

theorem storeWords_wellFormed (words : List UInt16) {store : Store} (wellFormed : store.WellFormed)
    (address : UInt64) : (Machine.storeWords store address words).WellFormed := by
  induction words generalizing store address with
  | nil => exact wellFormed
  | cons word rest ih =>
    rw [Machine.storeWords]
    split
    · exact ih (put_wellFormed wellFormed _ word) _
    · exact wellFormed

/-! ## Clearing and loading -/

theorem getElem_clearBelow (n : Nat) (cells : Vector UInt16 addressSpace) (i : Nat)
    (inside : i < addressSpace) : (clearBelow cells n)[i] = if i < n then 0 else cells[i] := by
  induction n generalizing cells with
  | zero => simp [clearBelow]
  | succ n ih =>
    rw [clearBelow, ih, Vector.getElem_setIfInBounds]
    by_cases last : n = i
    · subst last
      simp
    · have bounds : i < n + 1 ↔ i < n := by omega
      simp only [last, bounds, if_false]

theorem fill_cons (cells : Vector UInt16 addressSpace) {n : Nat} (inside : n < addressSpace)
    (word : UInt16) (rest : List UInt16) :
    fill cells n (word :: rest) = fill (cells.set n word inside) (n + 1) rest := by
  rw [fill, Vector.setIfInBounds, Vector.set]
  simp [Array.setIfInBounds, inside]

/-- Words put from a place on stand there; what is before and after them stays. -/
theorem getElem_fill (words : List UInt16) (cells : Vector UInt16 addressSpace) (n i : Nat)
    (inside : i < addressSpace) :
    (fill cells n words)[i] = if n ≤ i then (words[i - n]?).getD cells[i] else cells[i] := by
  induction words generalizing cells n with
  | nil => simp [fill]
  | cons word rest ih =>
    rw [fill, ih, Vector.getElem_setIfInBounds]
    by_cases here : n = i
    · subst here
      have notLater : ¬ n + 1 ≤ n := by omega
      simp [notLater]
    · by_cases later : n + 1 ≤ i
      · have place : i - n = i - (n + 1) + 1 := by omega
        have after : n ≤ i := by omega
        simp only [here, later, after, place, if_true, if_false, List.getElem?_cons_succ]
      · have before : ¬ n ≤ i := by omega
        simp only [here, later, before, if_false]

/-- Clearing the words in use clears all of memory. -/
theorem reset_eq_empty {store : Store} (wellFormed : store.WellFormed) : store.reset = empty := by
  apply ext_get
  · intro cell
    rw [get_empty]
    change (clearBelow store.cells store.extent)[cell.val] = 0
    rw [getElem_clearBelow]
    by_cases used : cell.val < store.extent
    · rw [if_pos used]
    · rw [if_neg used]
      exact wellFormed.zero_beyond cell (by omega)
  · rfl

/-- What is loaded does not depend on what was there before. -/
theorem load_eq_load_empty {store : Store} (wellFormed : store.WellFormed) (words : List UInt16) :
    store.load words = empty.load words := by
  rw [load, load, reset_eq_empty wellFormed, reset_eq_empty empty_wellFormed]

theorem load_eq_ok (store : Store) {words : List UInt16} (fits : words.length ≤ addressSpace) :
    store.load words = .ok ⟨fill store.reset.cells 0 words, words.length⟩ := by
  rw [load, if_pos fits]

/-- The word in each cell of a memory that was loaded. -/
theorem get_of_load {store loaded : Store} {words : List UInt16} (wellFormed : store.WellFormed)
    (accepted : store.load words = .ok loaded) (cell : Fin addressSpace) :
    loaded.get cell = (words[cell.val]?).getD 0 := by
  rw [load_eq_load_empty wellFormed, load] at accepted
  split at accepted
  · cases accepted
    change (fill empty.reset.cells 0 words)[cell.val] = _
    rw [getElem_fill, reset_eq_empty empty_wellFormed, if_pos (Nat.zero_le _), Nat.sub_zero]
    exact congrArg _ (get_empty cell)
  · cases accepted

theorem extent_of_load {store loaded : Store} {words : List UInt16}
    (accepted : store.load words = .ok loaded) :
    loaded.extent = words.length ∧ words.length ≤ addressSpace := by
  rw [load] at accepted
  split at accepted
  · rename_i fits
    cases accepted
    exact ⟨rfl, fits⟩
  · cases accepted

theorem load_wellFormed {store loaded : Store} {words : List UInt16} (wellFormed : store.WellFormed)
    (accepted : store.load words = .ok loaded) : loaded.WellFormed := by
  obtain ⟨extent, fits⟩ := extent_of_load accepted
  refine ⟨extent ▸ fits, ?_⟩
  intro cell beyond
  rw [get_of_load wellFormed accepted, List.getElem?_eq_none (by omega), Option.getD_none]

/-! ## The words in use -/

theorem length_words {store : Store} (wellFormed : store.WellFormed) :
    store.words.length = store.extent := by
  have inside := wellFormed.extent_le
  simp [words, between, Nat.min_eq_left inside]

theorem getElem?_words {store : Store} (wellFormed : store.WellFormed) (cell : Fin addressSpace) :
    (store.words[cell.val]?).getD 0 = store.get cell := by
  by_cases used : cell.val < store.extent
  · have inside : cell.val < store.words.length := by rw [length_words wellFormed]; exact used
    rw [List.getElem?_eq_getElem inside, Option.getD_some]
    simp [words, between, get]
  · have outside : store.words.length ≤ cell.val := by rw [length_words wellFormed]; omega
    rw [List.getElem?_eq_none outside, Option.getD_none]
    exact (wellFormed.zero_beyond cell (by omega)).symm

/-- The words in use, loaded into any memory, give the memory they were taken from. -/
theorem load_words {store other : Store} (wellFormed : store.WellFormed)
    (otherWellFormed : other.WellFormed) : other.load store.words = .ok store := by
  have fits : store.words.length ≤ addressSpace := by
    rw [length_words wellFormed]
    exact wellFormed.extent_le
  have accepted := load_eq_ok other fits
  rw [accepted]
  apply congrArg
  apply ext_get
  · intro cell
    rw [get_of_load otherWellFormed accepted, getElem?_words wellFormed]
  · exact length_words wellFormed

end WordMachine.Store
