import Mathlib.Data.List.DropRight
import WordMachine.Proofs.Characters
import WordMachine.Proofs.Spelling
import WordMachine.Proofs.Streams

/-!
What a script text stands for: its lines, cut at the newlines, without the carriage returns at
their ends, apart from blank lines and comments (`Script.prepared`). Reading a script gives these
lines unless one of them is too long (`Script.parse_eq`).
-/

namespace WordMachine.Script

/-- A line that is left out: it is blank, or the first character that is not white space is `#`. -/
def LeftOut (line : List UInt8) : Prop :=
  ∃ text, Utf8.Spells line text ∧
    (Text.Blank text ∨ ∃ blank rest, Text.Blank blank ∧ text = blank ++ '#' :: rest)

theorem isCommand_eq_false_iff {line : List UInt8} : isCommand line = false ↔ LeftOut line := by
  constructor
  · intro idle
    refine ⟨_, Utf8.spells_decode line, ?_⟩
    obtain ⟨blank, white, whole⟩ := Text.exists_trimStart (Utf8.decode line)
    rw [isCommand] at idle
    split at idle
    · rename_i nothing
      rw [nothing, List.append_nil] at whole
      exact .inl (whole ▸ white)
    · rename_i c rest visible
      have mark : c = '#' := by simpa using idle
      rw [visible, mark] at whole
      exact .inr ⟨blank, rest, white, whole⟩
  · rintro ⟨text, spells, idle⟩
    rw [isCommand, Utf8.spells_iff.mp spells]
    rcases idle with white | ⟨blank, rest, white, rfl⟩
    · have nothing : Text.trimStart text = [] := by
        have trimmed := Text.trimStart_blank_append white []
        rwa [List.append_nil] at trimmed
      rw [nothing]
    · rw [Text.trimStart_blank_append white]
      rfl

instance LeftOut.decidable (line : List UInt8) : Decidable (LeftOut line) :=
  decidable_of_iff (isCommand line = false) isCommand_eq_false_iff

/-- The lines that a script text stands for, each with a newline. -/
def prepared (bytes : List UInt8) : List (List UInt8) :=
  (((bytes.splitOn newline).map fun line => line.rdropWhile (· = 13)).filter fun line =>
    ¬ LeftOut line).map (· ++ [newline])

/-- The pieces between newlines are the lines, except that an empty one may follow the last
    newline. -/
theorem modifyHead_splitOn (line : Array UInt8) (bytes : List UInt8) :
    ∃ last, (last = [] ∨ last = [[]]) ∧
      (bytes.splitOn newline).modifyHead (line.toList ++ ·) =
        (splitInto #[] line bytes).toList ++ last := by
  induction bytes generalizing line with
  | nil =>
    rw [List.splitOn_nil, splitInto]
    split
    · rename_i empty
      refine ⟨[[]], .inr rfl, ?_⟩
      simp [Array.isEmpty_iff.mp empty]
    · exact ⟨[], .inl rfl, by simp⟩
  | cons b rest ih =>
    obtain ⟨piece, more, split⟩ := List.exists_cons_of_ne_nil (List.splitOn_ne_nil newline rest)
    rw [split] at ih
    rw [List.splitOn_cons_eq_if_modifyHead, splitInto, split]
    by_cases ends : b = newline
    · obtain ⟨last, empty, pieces⟩ := ih #[]
      refine ⟨last, empty, ?_⟩
      rw [if_pos (beq_iff_eq.mpr ends), if_pos ends, splitInto_toList, List.append_assoc, ← pieces]
      simp
    · obtain ⟨last, empty, pieces⟩ := ih (line.push b)
      refine ⟨last, empty, ?_⟩
      rw [if_neg (by simpa using ends), if_neg ends, ← pieces]
      simp

theorem splitOn_newline (bytes : List UInt8) :
    ∃ last, (last = [] ∨ last = [[]]) ∧ bytes.splitOn newline = split bytes ++ last := by
  obtain ⟨piece, more, pieces⟩ := List.exists_cons_of_ne_nil (List.splitOn_ne_nil newline bytes)
  obtain ⟨last, empty, lines⟩ := modifyHead_splitOn #[] bytes
  refine ⟨last, empty, ?_⟩
  rw [split, ← lines, pieces]
  rfl

theorem leftOut_nil : LeftOut [] :=
  ⟨[], .nothing, .inl (List.forall_mem_nil _)⟩

theorem commands?_eq (bytes : List UInt8) :
    commands? bytes =
      if ∀ line ∈ bytes.splitOn newline, line.length < lineLimit then some (prepared bytes)
      else none := by
  obtain ⟨last, empty, pieces⟩ := splitOn_newline bytes
  have short : (split bytes).all (·.length < lineLimit) = true ↔
      ∀ line ∈ bytes.splitOn newline, line.length < lineLimit := by
    rw [pieces, List.all_eq_true]
    rcases empty with rfl | rfl <;> simp [or_imp, forall_and]
  have kept : prepared bytes =
      (((split bytes).map stripReturns).filter isCommand).map (· ++ [newline]) := by
    have same : (fun line => decide (¬ LeftOut line)) = isCommand := by
      funext line
      simp [← isCommand_eq_false_iff]
    rw [prepared, pieces, same]
    rcases empty with rfl | rfl
    · rw [List.append_nil]
      rfl
    · -- The empty piece is a blank line.
      have blank : isCommand [] = false := isCommand_eq_false_iff.mpr leftOut_nil
      rw [List.map_append, List.filter_append, List.map_singleton, List.rdropWhile_nil,
        List.filter_cons_of_neg (by simp [blank]), List.filter_nil, List.append_nil]
      rfl
  rw [commands?, kept]
  simp only [short]

theorem parse_eq (bytes : List UInt8) (echo : Bool) :
    parse bytes echo =
      if ∀ line ∈ bytes.splitOn newline, line.length < lineLimit then .ok ⟨prepared bytes, echo⟩
      else .error tooLong := by
  rw [parse, commands?_eq]
  split <;> simp_all

end WordMachine.Script
