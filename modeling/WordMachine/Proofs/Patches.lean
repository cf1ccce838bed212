import Mathlib.Data.List.Forall2
import Mathlib.Data.List.TakeDrop
import Mathlib.Data.List.TakeWhile
import WordMachine.Debug.Assignment
import WordMachine.Proofs.Memory

/-!
Patches. A text is a patch if it is an address, the first `=`, and words between commas that end
within memory (`Patch.Written`), and exactly these texts are read (`Patch.parse_eq_ok_iff`). Words
put into memory stand at consecutive addresses up to the end of memory, and nothing else changes
(`Machine.get_storeWords`, `Machine.extent_storeWords`). The bound that is checked when a patch is
read is the end of memory, so that a patch is always put there whole (`Patch.applied_whole`).
-/

namespace WordMachine

/-! ## Cutting texts -/

namespace Text

theorem cutAt?_eq_some_iff {separator : Char} {cs before after : List Char} :
    cutAt? separator cs = some (before, after) ↔
      separator ∉ before ∧ cs = before ++ separator :: after := by
  rw [cutAt?, List.span_eq_takeWhile_dropWhile]
  constructor
  · intro cut
    split at cut
    · rename_i front found rest split
      cases cut
      obtain ⟨rfl, dropped⟩ := Prod.mk.inj split
      have whole := List.takeWhile_append_dropWhile (p := fun c => decide (c ≠ separator)) (l := cs)
      have here : found = separator := by
        have stops := List.head?_dropWhile_not (fun c => decide (c ≠ separator)) cs
        rw [dropped] at stops
        simpa using stops
      refine ⟨fun inside => ?_, ?_⟩
      · have other := List.mem_takeWhile_imp inside
        simp at other
      · rw [dropped, here] at whole
        exact whole.symm
    · cases cut
  · rintro ⟨absent, rfl⟩
    have passes : ∀ c ∈ before, decide (c ≠ separator) = true := by
      intro c inside
      have different : c ≠ separator := fun same => absent (same ▸ inside)
      simpa using different
    rw [List.takeWhile_append_of_pos passes, List.dropWhile_append_of_pos passes]
    simp

theorem splitAt_eq_splitOn (separator : Char) (cs : List Char) :
    splitAt separator cs = cs.splitOn separator := by
  induction cs with
  | nil => simp [splitAt]
  | cons c rest ih =>
    rw [splitAt, ih, List.splitOn_cons_eq_if_modifyHead]
    by_cases here : c = separator
    · simp [here]
    · obtain ⟨piece, pieces, split⟩ := List.exists_cons_of_ne_nil
        (List.splitOn_ne_nil separator rest)
      simp [here, split]

theorem absent_of_mem_splitAt {separator : Char} {cs piece : List Char}
    (member : piece ∈ splitAt separator cs) : separator ∉ piece := by
  induction cs generalizing piece with
  | nil => simp_all [splitAt]
  | cons c rest ih =>
    rw [splitAt] at member
    split at member
    · rcases List.mem_cons.mp member with rfl | later
      · exact List.not_mem_nil
      · exact ih later
    · rename_i other
      split at member
      · rename_i first more split
        rw [split] at ih
        rcases List.mem_cons.mp member with rfl | later
        · have free := ih List.mem_cons_self
          simp [free, Ne.symm other]
        · exact ih (List.mem_cons_of_mem first later)
      · rw [List.mem_singleton.mp member]
        simpa using Ne.symm other

/-- The pieces of a text are those between its separators. -/
theorem splitAt_eq_iff {separator : Char} {cs : List Char} {pieces : List (List Char)} :
    splitAt separator cs = pieces ↔
      pieces ≠ [] ∧ (∀ piece ∈ pieces, separator ∉ piece) ∧
        cs = [separator].intercalate pieces := by
  constructor
  · rintro rfl
    refine ⟨?_, fun piece => absent_of_mem_splitAt, ?_⟩
    · rw [splitAt_eq_splitOn]
      exact List.splitOn_ne_nil separator cs
    · rw [splitAt_eq_splitOn, List.intercalate_splitOn]
  · rintro ⟨present, free, rfl⟩
    rw [splitAt_eq_splitOn]
    exact List.splitOn_intercalate separator free present

end Text

/-- A list is read whole or not at all. -/
theorem mapM_eq_ok_iff {α β ε : Type} {read : α → Except ε β} {sources : List α}
    {results : List β} :
    sources.mapM read = .ok results ↔
      List.Forall₂ (fun source result => read source = .ok result) sources results := by
  induction sources generalizing results with
  | nil => cases results <;> simp [pure, Except.pure]
  | cons source rest ih =>
    rw [List.mapM_cons]
    constructor
    · intro done
      cases first : read source with
      | error error =>
        rw [first] at done
        cases done
      | ok result =>
        cases others : rest.mapM read with
        | error error =>
          rw [first, others] at done
          cases done
        | ok more =>
          rw [first, others] at done
          cases done
          exact .cons first (ih.mp others)
    · rintro (_ | ⟨first, others⟩)
      rw [first, ih.mpr others]
      rfl

namespace Patch

/-! ## Reading patches -/

theorem parseWord_eq_ok_iff {text : String} {field : List Char} {word : UInt16} :
    parseWord text field = .ok word ↔ Numeral.readChars field = .number word.toUInt64 := by
  constructor
  · intro read
    rw [parseWord] at read
    split at read
    · rename_i n number
      split at read
      · rename_i small
        cases read
        have low : n.toNat ≤ 65535 := UInt64.le_iff_toNat_le.mp small
        have same : n.toUInt16.toUInt64 = n := by
          apply UInt64.toNat_inj.mp
          simp only [UInt16.toNat_toUInt64, UInt64.toNat_toUInt16]
          omega
        rw [number, same]
      · cases read
    · cases read
  · intro number
    have small : word.toUInt64 ≤ 0xFFFF := by
      have bound := word.toNat_lt
      apply UInt64.le_iff_toNat_le.mpr
      simp only [UInt16.toNat_toUInt64, UInt64.reduceToNat]
      omega
    simp only [parseWord, number, if_pos small, UInt16.toUInt16_toUInt64]

theorem mapM_parseWord_eq_ok_iff (text : String) {fields : List (List Char)} {words : List UInt16} :
    fields.mapM (parseWord text) = .ok words ↔
      List.Forall₂ (fun field word => Numeral.readChars field = .number word.toUInt64)
        fields words := by
  simp only [mapM_eq_ok_iff, parseWord_eq_ok_iff]

/-- A text that is a patch, what stands before its first `=`, and the fields behind it. -/
structure Written (cs before : List Char) (fields : List (List Char)) (patch : Patch) : Prop where
  parts : cs = before ++ '=' :: [','].intercalate fields
  first : '=' ∉ before
  present : fields ≠ []
  separate : ∀ field ∈ fields, ',' ∉ field
  address : Numeral.readChars before = .number patch.address
  inside : patch.address.toNat < 32768
  words : List.Forall₂ (fun field word => Numeral.readChars field = .number word.toUInt64) fields
    patch.words
  fits : patch.address.toNat + patch.words.length ≤ 32768

theorem parse_of_written {text : String} {before : List Char} {fields : List (List Char)}
    {patch : Patch} (written : Written text.toList before fields patch) :
    parse text = .ok patch := by
  have cut := Text.cutAt?_eq_some_iff.mpr ⟨written.first, written.parts⟩
  have split := Text.splitAt_eq_iff.mpr ⟨written.present, written.separate, rfl⟩
  have words := (mapM_parseWord_eq_ok_iff text).mpr written.words
  simp only [parse, cut, written.address, split, words, if_pos written.inside]
  exact if_pos written.fits

theorem written_of_parse {text : String} {patch : Patch} (read : parse text = .ok patch) :
    ∃ before fields, Written text.toList before fields patch := by
  rw [parse] at read
  split at read
  · cases read
  · rename_i before after cut
    obtain ⟨first, parts⟩ := Text.cutAt?_eq_some_iff.mp cut
    split at read
    · rename_i address number
      split at read
      · rename_i inside
        cases words : (Text.splitAt ',' after).mapM (parseWord text) with
        | error error =>
          rw [words] at read
          cases read
        | ok list =>
          simp only [words, bind, Except.bind] at read
          split at read
          · rename_i fits
            cases read
            obtain ⟨present, separate, joined⟩ :=
              Text.splitAt_eq_iff.mp (rfl : Text.splitAt ',' after = Text.splitAt ',' after)
            exact ⟨before, Text.splitAt ',' after, joined ▸ parts, first, present, separate, number,
              inside, (mapM_parseWord_eq_ok_iff text).mp words, fits⟩
          · cases read
      · cases read
    · cases read

theorem parse_eq_ok_iff {text : String} {patch : Patch} :
    parse text = .ok patch ↔ ∃ before fields, Written text.toList before fields patch := by
  constructor
  · exact written_of_parse
  · rintro ⟨before, fields, written⟩
    exact parse_of_written written

end Patch

/-! ## Words put into memory -/

namespace Machine

/-- The sum of addresses does not wrap within memory. -/
theorem toNat_add_one {address : UInt64} (inside : address.toNat < addressSpace) :
    (address + 1).toNat = address.toNat + 1 := by
  have small : address.toNat < 32768 := inside
  rw [UInt64.toNat_add, UInt64.toNat_one]
  omega

theorem get_storeWords (words : List UInt16) (store : Store) (address : UInt64)
    (cell : Fin addressSpace) :
    (storeWords store address words).get cell =
      if address.toNat ≤ cell.val then (words[cell.val - address.toNat]?).getD (store.get cell)
      else store.get cell := by
  induction words generalizing store address with
  | nil => simp [storeWords]
  | cons word rest ih =>
    rw [storeWords]
    split
    · rename_i inside
      rw [ih, toNat_add_one inside, Store.get_put]
      by_cases here : address.toNat = cell.val
      · have notLater : ¬ address.toNat + 1 ≤ cell.val := by omega
        have same : (⟨address.toNat, inside⟩ : Fin addressSpace) = cell := Fin.ext here
        rw [if_neg notLater, if_pos same, if_pos (Nat.le_of_eq here), here, Nat.sub_self]
        rfl
      · have other : ¬ (⟨address.toNat, inside⟩ : Fin addressSpace) = cell :=
          fun same => here (Fin.ext_iff.mp same)
        rw [if_neg other]
        by_cases later : address.toNat + 1 ≤ cell.val
        · have place : cell.val - address.toNat = cell.val - (address.toNat + 1) + 1 := by omega
          have after : address.toNat ≤ cell.val := by omega
          rw [if_pos later, if_pos after, place, List.getElem?_cons_succ]
        · have before : ¬ address.toNat ≤ cell.val := by omega
          rw [if_neg later, if_neg before]
    · rename_i outside
      have before : ¬ address.toNat ≤ cell.val := by
        have := cell.isLt
        omega
      rw [if_neg before]

theorem extent_storeWords (words : List UInt16) (store : Store) (address : UInt64) :
    (storeWords store address words).extent =
      if 0 < words.length ∧ address.toNat < addressSpace then
        max store.extent (min (address.toNat + words.length) addressSpace)
      else store.extent := by
  induction words generalizing store address with
  | nil => simp [storeWords]
  | cons word rest ih =>
    rw [storeWords]
    split
    · rename_i inside
      have grown : (store.put ⟨address.toNat, inside⟩ word).extent =
          max store.extent (address.toNat + 1) := rfl
      have used : 0 < rest.length + 1 ∧ address.toNat < addressSpace := ⟨Nat.succ_pos _, inside⟩
      rw [ih, toNat_add_one inside, grown, List.length_cons, if_pos used]
      split <;> omega
    · rename_i outside
      rw [if_neg fun used => outside used.2]

end Machine

namespace Patch

/-- A patch is put into memory whole. Exactly the texts that are written as patches are read. The
    words of a patch that was read then stand one after the other from its address on, every other
    word is as before, and the extent covers them. Words put at any other address are stored as far
    as their addresses lie within memory, and no address wraps. -/
theorem applied_whole :
    (∀ (text : String) (patch : Patch),
      parse text = .ok patch ↔ ∃ before fields, Written text.toList before fields patch) ∧
    (∀ (text : String) (patch : Patch) (machine : Machine), parse text = .ok patch →
      let after := (machine.writeMemory patch.address patch.words).store
      (∀ (i : Nat) (listed : i < patch.words.length),
        ∃ cell : Fin addressSpace, cell.val = patch.address.toNat + i ∧
          after.get cell = patch.words[i]) ∧
      (∀ cell : Fin addressSpace, cell.val < patch.address.toNat ∨
        patch.address.toNat + patch.words.length ≤ cell.val →
          after.get cell = machine.store.get cell) ∧
      after.extent = max machine.store.extent (patch.address.toNat + patch.words.length)) ∧
    ∀ (machine : Machine) (address : UInt64) (words : List UInt16),
      let after := machine.writeMemory address words
      after = { machine with store := after.store } ∧
      (∀ cell : Fin addressSpace, after.store.get cell =
        if address.toNat ≤ cell.val then
          (words[cell.val - address.toNat]?).getD (machine.store.get cell)
        else machine.store.get cell) ∧
      after.store.extent =
        if 0 < words.length ∧ address.toNat < addressSpace then
          max machine.store.extent (min (address.toNat + words.length) addressSpace)
        else machine.store.extent := by
  refine ⟨fun text patch => parse_eq_ok_iff, fun text patch machine read => ?_,
    fun machine address words => ⟨rfl, Machine.get_storeWords words machine.store address,
      Machine.extent_storeWords words machine.store address⟩⟩
  obtain ⟨before, fields, written⟩ := written_of_parse read
  have fits : patch.address.toNat + patch.words.length ≤ addressSpace := written.fits
  have words := Machine.get_storeWords patch.words machine.store patch.address
  refine ⟨fun i listed => ?_, fun cell outside => ?_, ?_⟩
  · refine ⟨⟨patch.address.toNat + i, by omega⟩, rfl, ?_⟩
    have place : patch.address.toNat + i - patch.address.toNat = i := by omega
    rw [Machine.writeMemory, words, if_pos (Nat.le_add_right _ _), place,
      List.getElem?_eq_getElem listed, Option.getD_some]
  · rw [Machine.writeMemory, words]
    split
    · rw [List.getElem?_eq_none (by omega), Option.getD_none]
    · rfl
  · have positive : 0 < patch.words.length := by
      rw [← written.words.length_eq]
      exact List.length_pos_iff.mpr written.present
    rw [Machine.writeMemory, Machine.extent_storeWords, if_pos ⟨positive, by omega⟩,
      Nat.min_eq_left fits]

/-- A patch up to the last word of memory, one that would end behind it, and the same words put
    there. -/
theorem applied_whole_at_last_word :
    let patch : Patch := ⟨32766, [21, 65535]⟩
    let after := (Machine.initial.writeMemory 32766 [21, 65535]).store
    parse " $7ffe=21, 0xFFFF" = .ok patch ∧ parse "$7FFF=1,2" = .error (.pastEnd "$7FFF=1,2") ∧
      after.get ⟨32767, by decide⟩ = 65535 ∧ after.extent = 32768 ∧
      (Machine.initial.writeMemory 32767 [1, 2]).store.get ⟨0, by decide⟩ = 0 := by
  intro patch after
  obtain ⟨read, stored, any⟩ := applied_whole
  have written : Written " $7ffe=21, 0xFFFF".toList " $7ffe".toList ["21".toList, " 0xFFFF".toList]
      patch :=
    ⟨by decide, by decide, by decide, by decide, by decide, by decide,
      .cons (by decide) (.cons (by decide) .nil), by decide⟩
  have accepted := (read _ patch).mpr ⟨_, _, written⟩
  obtain ⟨words, -, extent⟩ := stored _ patch Machine.initial accepted
  obtain ⟨cell, place, word⟩ := words 1 (by decide)
  have last : cell = ⟨32767, by decide⟩ := Fin.ext place
  obtain ⟨-, cells, -⟩ := any Machine.initial 32767 [1, 2]
  refine ⟨accepted, by decide +kernel, last ▸ word, extent, ?_⟩
  rw [cells]
  exact Store.get_empty _

end Patch

end WordMachine
