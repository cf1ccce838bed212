import Mathlib.Algebra.Group.Int.Defs
import Mathlib.Algebra.Group.Nat.Defs
import Mathlib.Data.List.FinRange
import Mathlib.Data.List.Infix
import WordMachine.Proofs.Memory

/-!
Slices of memory. A slice should give the words of an address range, cut at the end of memory
(`Store.wordsIn`). What it gives is cut at the sum of the address and the count as they are added in
32 bits: the count loses its high bits first, and a sum that wraps ends before the slice begins
(`Store.slice?_eq`). So it gives the words asked for exactly when the sum is that of the true
numbers, or lies past the end of memory as the true one does
(`Store.slice_exact_unless_narrowed`).
-/

namespace WordMachine

namespace Store

/-! ## The words of a range -/

/-- The words at the addresses from `start` on that lie before `stop`, in order. -/
def wordsIn (store : Store) (start stop : Nat) : List UInt16 :=
  ((List.finRange addressSpace).filter fun cell => start ≤ cell.val ∧ cell.val < stop).map store.get

theorem map_filter_finRange {α : Type} (n start stop : Nat) (f : Fin n → α) :
    ((List.finRange n).filter fun i => start ≤ i.val ∧ i.val < stop).map f =
      ((List.ofFn f).take stop).drop start := by
  induction n generalizing start stop with
  | zero => simp
  | succ n ih =>
    have later := fun start stop => ih start stop fun i => f i.succ
    rw [List.finRange_succ, List.ofFn_succ]
    cases stop with
    | zero => simp
    | succ stop =>
      cases start with
      | zero => simpa [List.filter_cons, List.filter_map, Function.comp_def] using later 0 stop
      | succ start =>
        simpa [List.filter_cons, List.filter_map, Function.comp_def] using later start stop

theorem toList_extract_eq {α : Type} {n : Nat} (cells : Vector α n) (start stop : Nat) :
    (cells.toArray.extract start (min stop n)).toList =
      ((List.finRange n).filter fun i => start ≤ i.val ∧ i.val < stop).map fun i => cells[i] := by
  have all : List.ofFn (fun i : Fin n => cells[i]) = cells.toList := by
    apply List.ext_getElem <;> simp
  have same : cells.toList.take (min stop n) = cells.toList.take stop := by
    rw [List.take_eq_take_iff, Vector.length_toList]
    omega
  rw [map_filter_finRange, all, ← same, List.drop_take, Array.toList_extract]
  rfl

theorem between_eq_wordsIn (store : Store) (start stop : Nat) :
    store.between start (min stop addressSpace) = store.wordsIn start stop :=
  toList_extract_eq store.cells start stop

theorem length_wordsIn (store : Store) (start stop : Nat) :
    (store.wordsIn start stop).length = min stop addressSpace - start := by
  rw [← between_eq_wordsIn, between, Array.length_toList, Array.size_extract, Vector.size_toArray]
  omega

theorem wordsIn_eq_nil (store : Store) {start stop : Nat}
    (outside : stop ≤ start ∨ addressSpace ≤ start) : store.wordsIn start stop = [] := by
  rw [← List.length_eq_zero_iff, length_wordsIn]
  omega

/-- Ranges that end past the end of memory have the same words. -/
theorem wordsIn_past_end (store : Store) {start stop other : Nat} (past : addressSpace ≤ stop)
    (otherPast : addressSpace ≤ other) : store.wordsIn start stop = store.wordsIn start other := by
  rw [← between_eq_wordsIn, ← between_eq_wordsIn, Nat.min_eq_right past, Nat.min_eq_right otherPast]

theorem wordsIn_eq_cons (store : Store) {start stop : Nat} (before : start < stop)
    (inside : start < addressSpace) :
    store.wordsIn start stop = store.get ⟨start, inside⟩ :: store.wordsIn (start + 1) stop := by
  have more : min stop addressSpace - start = min stop addressSpace - (start + 1) + 1 := by omega
  have here : start < store.cells.toArray.toList.length := by simpa using inside
  rw [← between_eq_wordsIn, ← between_eq_wordsIn, between, between, Array.toList_extract,
    Array.toList_extract, List.extract_eq_take_drop, List.extract_eq_take_drop, more,
    List.drop_eq_getElem_cons here, List.take_succ_cons]
  rfl

theorem wordsIn_prefix (store : Store) (start : Nat) {stop other : Nat} (before : stop ≤ other) :
    store.wordsIn start stop <+: store.wordsIn start other := by
  rw [wordsIn, wordsIn, map_filter_finRange, map_filter_finRange]
  exact List.IsPrefix.drop (List.take_prefix_take_left before) start

/-! ## Slices -/

/-- A slice ends at a sum that is formed in 32 bits from what these leave of the count. -/
theorem slice?_eq (store : Store) (address : UInt32) (count : Int) :
    store.slice? address count =
      if address.toNat < addressSpace ∧ 2 ^ 32 ≤ address.toNat + count.toNat % 2 ^ 32 then none
      else some (store.wordsIn address.toNat (address.toNat + count.toNat % 2 ^ 32)) := by
  have bound := address.toNat_lt
  rw [slice?]
  split
  · rename_i nothing
    have unwrapped : ¬ (address.toNat < addressSpace ∧
        2 ^ 32 ≤ address.toNat + count.toNat % 2 ^ 32) := by omega
    rw [if_neg unwrapped, wordsIn_eq_nil store (by omega)]
  · rename_i asked
    obtain ⟨outside, _⟩ := not_or.mp asked
    have inside := Nat.lt_of_not_le outside
    have narrowed : count.toNat.toUInt32.toNat = count.toNat % 2 ^ 32 := UInt32.toNat_ofNat'
    simp only [UInt32.toNat_add, narrowed]
    by_cases wraps : 2 ^ 32 ≤ address.toNat + count.toNat % 2 ^ 32
    · have early : min ((address.toNat + count.toNat % 2 ^ 32) % 2 ^ 32) addressSpace <
        address.toNat := by
        omega
      rw [if_pos early, if_pos ⟨inside, wraps⟩]
    · have onward : ¬ min (address.toNat + count.toNat % 2 ^ 32) addressSpace < address.toNat := by
        omega
      rw [Nat.mod_eq_of_lt (Nat.lt_of_not_le wraps), if_neg onward, if_neg fun both => wraps both.2,
        between_eq_wordsIn]

theorem slice?_prefix {store : Store} {address : UInt32} {count : Int} {words : List UInt16}
    (given : store.slice? address count = some words) :
    words <+: store.wordsIn address.toNat (address.toNat + count.toNat) := by
  rw [slice?_eq] at given
  split at given
  · cases given
  · rw [← Option.some.inj given]
    exact store.wordsIn_prefix _ (Nat.add_le_add_left (Nat.mod_le _ _) _)

theorem slice?_eq_none_iff {store : Store} {address : UInt32} {count : Int} :
    store.slice? address count = none ↔
      address.toNat < addressSpace ∧ 2 ^ 32 ≤ address.toNat + count.toNat % 2 ^ 32 := by
  rw [slice?_eq]
  split <;> simp_all

/-- The end of a slice does as well as the true sum: the slice starts past the end of memory, or the
    sum does not wrap and is the true one, or it lies past the end of memory as the true one
    does. -/
def Exact (start : Nat) (count : Int) : Prop :=
  addressSpace ≤ start ∨ start + count.toNat % 2 ^ 32 < 2 ^ 32 ∧
    (count.toNat < 2 ^ 32 ∨ addressSpace ≤ start + count.toNat % 2 ^ 32)

theorem slice?_eq_wordsIn_iff {store : Store} {address : UInt32} {count : Int} :
    store.slice? address count =
        some (store.wordsIn address.toNat (address.toNat + count.toNat)) ↔
      Exact address.toNat count := by
  rw [slice?_eq, Exact]
  by_cases outside : addressSpace ≤ address.toNat
  · have inside : ¬ address.toNat < addressSpace := Nat.not_lt_of_le outside
    simp [outside, inside, wordsIn_eq_nil store (.inr outside)]
  have inside := Nat.lt_of_not_le outside
  by_cases wraps : 2 ^ 32 ≤ address.toNat + count.toNat % 2 ^ 32
  · rw [if_pos ⟨inside, wraps⟩]
    constructor
    · nofun
    · omega
  rw [if_neg fun both => wraps both.2]
  constructor
  · intro same
    -- Slices of different lengths are different, and so are the ends of ranges within memory.
    have lengths := congrArg List.length (Option.some.inj same)
    rw [length_wordsIn, length_wordsIn] at lengths
    omega
  · rintro (past | ⟨_, small | past⟩)
    · exact absurd past outside
    · rw [Nat.mod_eq_of_lt small]
    · have further := Nat.mod_le count.toNat (2 ^ 32)
      exact congrArg some (wordsIn_past_end store past (by omega))

/-- The words in use are those of one slice. -/
theorem slice?_words {store : Store} (within : store.extent ≤ addressSpace) :
    store.slice? 0 store.extent = some store.words := by
  have small : store.extent < 2 ^ 32 := Nat.lt_of_le_of_lt within (by decide)
  have exact : Exact (0 : UInt32).toNat store.extent := by
    refine .inr ⟨?_, .inl small⟩
    rw [UInt32.toNat_zero, Int.toNat_natCast]
    omega
  rw [slice?_eq_wordsIn_iff.mpr exact, ← between_eq_wordsIn, UInt32.toNat_zero, Int.toNat_natCast,
    Nat.zero_add, Nat.min_eq_left within]
  rfl

end Store

namespace Machine

open Store (Exact)

/-- Addresses past the end of memory are refused before they are narrowed. -/
theorem readMemory?_cases (machine : Machine) (address : UInt64) (count : Int) :
    addressSpace ≤ address.toNat ∧ machine.readMemory? address count = some [] ∨
      address.toNat < addressSpace ∧ address.toUInt32.toNat = address.toNat ∧
        machine.readMemory? address count = machine.store.slice? address.toUInt32 count := by
  by_cases outside : addressSpace ≤ address.toNat
  · exact .inl ⟨outside, if_pos outside⟩
  · have inside : address.toNat < 32768 := Nat.lt_of_not_le outside
    refine .inr ⟨inside, ?_, if_neg outside⟩
    rw [UInt64.toNat_toUInt32]
    omega

theorem readMemory?_eq_wordsIn_iff {machine : Machine} {address : UInt64} {count : Int} :
    machine.readMemory? address count =
        some (machine.store.wordsIn address.toNat (address.toNat + count.toNat)) ↔
      Exact address.toNat count := by
  rcases machine.readMemory?_cases address count with ⟨outside, nothing⟩ | ⟨_, kept, slice⟩
  · rw [nothing, Store.wordsIn_eq_nil _ (.inr outside)]
    exact ⟨fun _ => .inl outside, fun _ => rfl⟩
  · rw [slice, ← kept]
    exact Store.slice?_eq_wordsIn_iff

theorem readMemory?_prefix {machine : Machine} {address : UInt64} {count : Int}
    {words : List UInt16} (given : machine.readMemory? address count = some words) :
    words <+: machine.store.wordsIn address.toNat (address.toNat + count.toNat) := by
  rcases machine.readMemory?_cases address count with ⟨_, nothing⟩ | ⟨_, kept, slice⟩
  · rw [nothing] at given
    cases given
    exact List.nil_prefix
  · rw [slice] at given
    rw [← kept]
    exact Store.slice?_prefix given

theorem readMemory?_eq_none_iff {machine : Machine} {address : UInt64} {count : Int} :
    machine.readMemory? address count = none ↔
      address.toNat < addressSpace ∧ 2 ^ 32 ≤ address.toNat + count.toNat % 2 ^ 32 := by
  rcases machine.readMemory?_cases address count with ⟨outside, nothing⟩ | ⟨_, kept, slice⟩
  · rw [nothing]
    exact ⟨nofun, fun both => absurd both.1 (Nat.not_lt_of_le outside)⟩
  · rw [slice, ← kept]
    exact Store.slice?_eq_none_iff

/-- The word that a condition looks at is a slice of one. -/
theorem readMemory?_one (machine : Machine) (address : UInt64) :
    machine.readMemory? address 1 = some (machine.word? address).toList := by
  by_cases inside : address.toNat < addressSpace
  · have one : (1 : Int).toNat = 1 := rfl
    have exact : Exact address.toNat 1 := by
      have small : address.toNat < 2 ^ 15 := inside
      refine .inr ⟨?_, .inl (by decide)⟩
      rw [one]
      omega
    rw [readMemory?_eq_wordsIn_iff.mpr exact, one, word?, dif_pos inside,
      Store.wordsIn_eq_cons _ (Nat.lt_add_one _) inside,
      Store.wordsIn_eq_nil _ (.inl (Nat.le_refl _))]
    rfl
  · rw [readMemory?, if_pos (Nat.le_of_not_lt inside), word?, dif_neg inside]
    rfl

end Machine

namespace Store

/-- A slice gives the words at the addresses from the first one on up to the sum of address and
    count or the end of memory, if and only if that sum is formed without harm in 32 bits. Otherwise
    it gives the first of these words only, or there is no answer, which happens exactly when the
    sum wraps. The same holds when memory is read for a debugger. In particular every slice is right
    whose count is below 2^32 - 2^15, also the one that gives the words in use and those of a single
    word. -/
theorem slice_exact_unless_narrowed (store : Store) (machine : Machine) (count : Int) :
    (∀ address : UInt32,
      let asked := store.wordsIn address.toNat (address.toNat + count.toNat)
      (store.slice? address count = some asked ↔ Exact address.toNat count) ∧
      (∀ words, store.slice? address count = some words → words <+: asked) ∧
      (store.slice? address count = none ↔
        address.toNat < addressSpace ∧ 2 ^ 32 ≤ address.toNat + count.toNat % 2 ^ 32)) ∧
    (∀ address : UInt64,
      let asked := machine.store.wordsIn address.toNat (address.toNat + count.toNat)
      (machine.readMemory? address count = some asked ↔ Exact address.toNat count) ∧
      (∀ words, machine.readMemory? address count = some words → words <+: asked) ∧
      (machine.readMemory? address count = none ↔
        address.toNat < addressSpace ∧ 2 ^ 32 ≤ address.toNat + count.toNat % 2 ^ 32) ∧
      machine.readMemory? address 1 = some (machine.word? address).toList) ∧
    (count < 2 ^ 32 - 2 ^ 15 → ∀ start, Exact start count) ∧
    (store.extent ≤ addressSpace → store.slice? 0 store.extent = some store.words) := by
  refine ⟨fun address => ⟨slice?_eq_wordsIn_iff, fun words => slice?_prefix, slice?_eq_none_iff⟩,
    fun address => ⟨Machine.readMemory?_eq_wordsIn_iff, fun words => Machine.readMemory?_prefix,
      Machine.readMemory?_eq_none_iff, machine.readMemory?_one address⟩,
    fun small start => ?_, slice?_words⟩
  have few : count.toNat < 2 ^ 32 - 2 ^ 15 := by omega
  have size : addressSpace = 2 ^ 15 := rfl
  rw [Exact, Nat.mod_eq_of_lt (by omega)]
  omega

theorem wordsIn_last_two (stop : Nat) (past : addressSpace ≤ stop) :
    (empty.put ⟨32767, by decide⟩ 5).wordsIn 32766 stop = [0, 5] := by
  have further : 32767 < stop := past
  rw [wordsIn_eq_cons _ (Nat.lt_of_succ_lt further) (by decide),
    wordsIn_eq_cons _ further (by decide),
    wordsIn_eq_nil _ (.inr (by decide)), get_put, get_put, if_pos rfl, if_neg (by decide),
    get_empty]

/-- A count of more than 32 bits that loses nothing by them, because the slice ends with memory
    anyway, one of which nothing is left, and the words in use of a memory that is used to its
    end. -/
theorem slice_exact_at_last_word :
    let store := Store.empty.put ⟨32767, by decide⟩ 5
    store.slice? 32767 8589934593 = some [5] ∧ store.slice? 32766 4294967296 ≠ none ∧
      (∀ words, store.slice? 32766 4294967296 = some words → words <+: [0, 5]) ∧
      Exact 32767 4294934527 ∧ store.slice? 0 store.extent = some store.words := by
  intro store
  obtain ⟨long, -, -, used⟩ := slice_exact_unless_narrowed store .initial 8589934593
  obtain ⟨short, -⟩ := slice_exact_unless_narrowed store .initial 4294967296
  obtain ⟨-, -, most, -⟩ := slice_exact_unless_narrowed store .initial 4294934527
  obtain ⟨exact, -, -⟩ := long 32767
  obtain ⟨-, fewer, unanswered⟩ := short 32766
  have last : store.wordsIn 32767 (32767 + 8589934593) = [5] := by
    rw [wordsIn_eq_cons store (by decide) (by decide), wordsIn_eq_nil store (.inr (by decide)),
      get_put, if_pos rfl]
  refine ⟨?_, ?_, ?_, most (by decide) 32767, used (by decide)⟩
  · rw [← last]
    exact exact.mpr (.inr ⟨by decide, .inr (by decide)⟩)
  · rw [ne_eq, unanswered]
    decide
  · rw [← wordsIn_last_two (32766 + 4294967296) (by decide)]
    exact fewer

/-- A sum that wraps has no answer, and one that comes back to the address gives nothing, although
    the words are there. -/
theorem slice_narrowed :
    let store := Store.empty.put ⟨32767, by decide⟩ 5
    let machine := { Machine.initial with store }
    store.slice? 32766 4294967295 = none ∧ store.slice? 32766 4294967296 = some [] ∧
      machine.readMemory? 32766 4294967295 = none ∧ machine.readMemory? 32766 4294967296 = some [] ∧
      store.wordsIn 32766 (32766 + 4294967295) = [0, 5] ∧
      store.wordsIn 32766 (32766 + 4294967296) = [0, 5] := by
  intro store machine
  refine ⟨slice?_eq_none_iff.mpr (by decide), ?_, Machine.readMemory?_eq_none_iff.mpr (by decide),
    ?_, wordsIn_last_two _ (by decide), wordsIn_last_two _ (by decide)⟩
  · rw [slice?_eq, if_neg (by decide), wordsIn_eq_nil _ (.inl (by decide))]
  · rcases machine.readMemory?_cases 32766 4294967296 with ⟨_, nothing⟩ | ⟨_, _, slice⟩
    · exact nothing
    · rw [slice, slice?_eq, if_neg (by decide), wordsIn_eq_nil _ (.inl (by decide))]

end Store

end WordMachine
