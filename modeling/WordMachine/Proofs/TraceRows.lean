import Mathlib.Data.List.Nodup
import WordMachine.Proofs.EventChain
import WordMachine.Proofs.FaultConditions
import WordMachine.Proofs.Numerals
import WordMachine.Proofs.Patches

/-!
What a stored step says. The listing of an instruction ends its mnemonic at the first space and an
operand at the first comma, and operands of the three kinds begin differently, so that an
instruction read whole can be told from its listing (`Instruction.text_injective`), as registers
can from theirs (`Registers.text_injective`). Two events with the same row are the same event
(`row_determines_event`).
-/

namespace WordMachine

/-! ## Texts put together -/

namespace Text

/-- What stands before a sign that is used once is told from what stands behind it. -/
theorem parts_of_sign {sign : Char} {before after before' after' : List Char}
    (free : sign ∉ before) (free' : sign ∉ before')
    (same : before ++ sign :: after = before' ++ sign :: after') :
    before = before' ∧ after = after' := by
  have cut : cutAt? sign (before ++ sign :: after) = some (before, after) :=
    cutAt?_eq_some_iff.mpr ⟨free, rfl⟩
  have cut' : cutAt? sign (before ++ sign :: after) = some (before', after') :=
    cutAt?_eq_some_iff.mpr ⟨free', same⟩
  exact Prod.mk.inj (Option.some.inj (cut.symm.trans cut'))

/-- As many texts are told from what they make up with separators between them, if the first
    character of the separator is in none of them. -/
theorem intercalate_injective {sign : Char} {more : List Char} {left right : List (List Char)}
    (free : ∀ piece ∈ left, sign ∉ piece) (free' : ∀ piece ∈ right, sign ∉ piece)
    (lengths : left.length = right.length)
    (same : (sign :: more).intercalate left = (sign :: more).intercalate right) : left = right := by
  induction left generalizing right with
  | nil => exact (List.eq_nil_of_length_eq_zero lengths.symm).symm
  | cons first rest ih =>
    obtain ⟨first', rest', rfl⟩ := List.exists_cons_of_length_eq_add_one lengths.symm
    have ends : rest.length = rest'.length := Nat.succ.inj lengths
    cases rest with
    | nil =>
      obtain rfl := List.eq_nil_of_length_eq_zero ends.symm
      simpa using same
    | cons second rest =>
      obtain ⟨second', rest', rfl⟩ := List.exists_cons_of_length_eq_add_one ends.symm
      rw [List.intercalate_cons_cons, List.intercalate_cons_cons, List.append_assoc,
        List.append_assoc]
        at same
      obtain ⟨rfl, behind⟩ := parts_of_sign (free first List.mem_cons_self)
        (free' first' List.mem_cons_self) same
      have others := ih (fun piece member => free piece (List.mem_cons_of_mem _ member))
        (fun piece member => free' piece (List.mem_cons_of_mem _ member)) ends
        (List.append_cancel_left behind)
      rw [others]

end Text

namespace Numeral

theorem toList_toString (n : Nat) : (toString n).toList = Nat.toDigits 10 n :=
  Nat.toList_repr

theorem digits_toString (n : Nat) : Digits 10 (toString n).toList := by
  rw [toList_toString]
  exact (digits_toDigits (by decide) (by decide) n).1

theorem toString_injective {m n : Nat} (same : (toString m).toList = (toString n).toList) :
    m = n := by
  rw [toList_toString, toList_toString] at same
  have decimal := digits_toDigits (show 1 < 10 by decide) (by decide)
  rw [← (decimal m).2, same, (decimal n).2]

theorem hex_injective {width m n : Nat} (same : hex width m = hex width n) : m = n := by
  have denotes := denotes_hex width m
  rw [same] at denotes
  exact denotes.unique (denotes_hex width n)

/-- A character that is no digit of the base is in no number. -/
theorem Digits.free {base : Nat} {cs : List Char} (digits : Digits base cs) {c : Char}
    (other : base ≤ digitValue c) : c ∉ cs := fun inside =>
  absurd (digits.2 c inside) (Nat.not_lt.mpr other)

end Numeral

/-! ## Operands -/

namespace Operand

/-- The word of an operand. -/
def word : Operand → UInt16
  | literal word => word
  | register index => registerBase + UInt16.ofNat index.val
  | invalid word => word

theorem word_ofWord (word : UInt16) : (ofWord word).word = word := by
  unfold ofWord
  split
  · rfl
  · split
    · show registerBase + UInt16.ofNat (word - registerBase).toNat = word
      rw [UInt16.ofNat_toNat]
      grind
    · rfl

theorem ofWord_injective : Function.Injective ofWord :=
  Function.LeftInverse.injective word_ofWord

/-- What stands before the number in the text of an operand. -/
def mark : Operand → List Char
  | literal _ => []
  | register _ => ['R']
  | invalid _ => ['?']

/-- The number in the text of an operand. -/
def number : Operand → Nat
  | literal word | invalid word => word.toNat
  | register index => index.val

theorem toList_text (operand : Operand) :
    operand.text.toList = operand.mark ++ (toString operand.number).toList := by
  cases operand <;> simp [text, mark, number, Registers.name]

theorem not_digit_of_mem_mark (operand : Operand) :
    ∀ c ∈ operand.mark, 10 ≤ Numeral.digitValue c := by
  cases operand with
  | literal => exact fun c inside => absurd inside List.not_mem_nil
  | register => exact List.forall_mem_singleton.mpr (by decide)
  | invalid => exact List.forall_mem_singleton.mpr (by decide)

/-- The mark ends at the first digit. -/
theorem takeWhile_text (operand : Operand) :
    operand.text.toList.takeWhile (fun c => decide (10 ≤ Numeral.digitValue c)) = operand.mark := by
  rw [toList_text, List.takeWhile_append_of_pos fun c inside =>
    decide_eq_true (operand.not_digit_of_mem_mark c inside)]
  have digits := (Numeral.digits_toString operand.number).2
  rw [List.takeWhile_eq_nil_iff.mpr, List.append_nil]
  intro inside
  simpa using digits _ (List.getElem_mem inside)

theorem text_injective : Function.Injective text := by
  intro operand other same
  have marks : operand.mark = other.mark := by
    rw [← operand.takeWhile_text, ← other.takeWhile_text, same]
  have numbers : operand.number = other.number := by
    have written := congrArg String.toList same
    rw [toList_text, toList_text, marks] at written
    exact Numeral.toString_injective (List.append_cancel_left written)
  cases operand <;> cases other <;> simp_all [mark, number, UInt16.toNat_inj, Fin.ext_iff]

/-- A character that is neither a digit nor the sign of a register or of no operand. -/
theorem free_text {sign : Char} (other : 10 ≤ Numeral.digitValue sign) (plain : sign ∉ ['R', '?'])
    (operand : Operand) : sign ∉ operand.text.toList := by
  rw [toList_text, List.mem_append]
  rintro (inside | inside)
  · refine plain ?_
    cases operand <;> simp_all [mark]
  · exact (Numeral.digits_toString operand.number).free other inside

end Operand

/-! ## Instructions -/

theorem Opcode.mem_all (op : Opcode) : op ∈ all := by
  cases op <;> decide

theorem Opcode.mnemonic_injective : Function.Injective mnemonic := fun op other same =>
  List.inj_on_of_nodup_map (show (all.map mnemonic).Nodup by decide) op.mem_all other.mem_all same

theorem Opcode.free_mnemonic (op : Opcode) : ' ' ∉ op.mnemonic.toList := by
  cases op <;> decide

namespace Instruction

/-- An instruction with the operands that its operation takes, the others zero. -/
structure Whole (instruction : Instruction) (op : Opcode) : Prop where
  operation : Opcode.ofWord? instruction.code = some op
  fetched : instruction.fetched = op.arity
  unused : ∀ i (inside : i < 3), op.arity ≤ i → instruction.operands[i] = 0

theorem StandsIn.whole {instruction : Instruction} {op : Opcode} {store : Store}
    (stands : instruction.StandsIn op store) : instruction.Whole op :=
  ⟨stands.operation, stands.fetched, stands.unused⟩

variable {instruction other : Instruction} {op op' : Opcode}

theorem length_operandTexts (whole : instruction.Whole op) :
    instruction.operandTexts.length = op.arity := by
  have room : op.arity ≤ 3 := by cases op <;> decide
  simp [operandTexts, whole.fetched, room]

/-- What follows the mnemonic in a listing. -/
def listed : List String → List Char
  | [] => []
  | texts => ' ' :: [',', ' '].intercalate (texts.map String.toList)

theorem toList_text (whole : instruction.Whole op) :
    instruction.text.toList = op.mnemonic.toList ++ listed instruction.operandTexts := by
  have name : Opcode.nameOf instruction.code = op.mnemonic := by
    rw [Opcode.nameOf, whole.operation]
  unfold text
  cases instruction.operandTexts with
  | nil => simp [name, listed]
  | cons => simp [name, listed, String.toList_intercalate]

/-- The mnemonic ends at the first space, if any. -/
theorem mnemonic_of_text (whole : instruction.Whole op) :
    instruction.text.toList.takeWhile (· ≠ ' ') = op.mnemonic.toList := by
  rw [toList_text whole, List.takeWhile_append_of_pos]
  · cases instruction.operandTexts <;> simp [listed]
  · intro c inside
    exact decide_eq_true fun same => op.free_mnemonic (same ▸ inside)

theorem free_operandTexts (instruction : Instruction) :
    ∀ piece ∈ instruction.operandTexts.map String.toList, ',' ∉ piece := by
  intro piece member
  obtain ⟨text, shown, rfl⟩ := List.mem_map.mp member
  obtain ⟨word, _, rfl⟩ := List.mem_map.mp shown
  exact Operand.free_text (by decide) (by decide) _

theorem listed_injective (lengths : instruction.operandTexts.length = other.operandTexts.length)
    (same : listed instruction.operandTexts = listed other.operandTexts) :
    instruction.operandTexts = other.operandTexts := by
  have free := instruction.free_operandTexts
  have free' := other.free_operandTexts
  generalize instruction.operandTexts = texts at *
  generalize other.operandTexts = texts' at *
  cases texts with
  | nil => exact (List.eq_nil_of_length_eq_zero lengths.symm).symm
  | cons text rest =>
    obtain ⟨text', rest', rfl⟩ := List.exists_cons_of_length_eq_add_one lengths.symm
    have joined := (List.cons.inj same).2
    have lists := Text.intercalate_injective free free' (by simpa using lengths) joined
    exact List.map_injective_iff.mpr (fun _ _ => String.toList_inj.mp) lists

/-- Instructions read whole whose listings are the same have the same code and the same operands. -/
theorem text_injective (whole : instruction.Whole op) (whole' : other.Whole op')
    (same : instruction.text = other.text) :
    instruction.code = other.code ∧ instruction.operands = other.operands ∧
      instruction.fetched = other.fetched := by
  obtain rfl : op = op' := by
    apply Opcode.mnemonic_injective
    rw [← String.toList_inj, ← mnemonic_of_text whole, ← mnemonic_of_text whole', same]
  have codes : instruction.code = other.code := by
    rw [Opcode.code_of_ofWord? whole.operation, Opcode.code_of_ofWord? whole'.operation]
  have counts : instruction.fetched = other.fetched := by
    rw [whole.fetched, whole'.fetched]
  have texts : instruction.operandTexts = other.operandTexts := by
    refine listed_injective ?_ ?_
    · rw [length_operandTexts whole, length_operandTexts whole']
    · have written := congrArg String.toList same
      rw [toList_text whole, toList_text whole'] at written
      exact List.append_cancel_left written
  have words : instruction.operands.toList.take op.arity = other.operands.toList.take op.arity := by
    have shown := Operand.text_injective.comp Operand.ofWord_injective
    apply List.map_injective_iff.mpr shown
    simpa [operandTexts, whole.fetched, whole'.fetched, Function.comp_def] using texts
  refine ⟨codes, Vector.ext fun i inside => ?_, counts⟩
  by_cases used : i < op.arity
  · have here := congrArg (·[i]?) words
    simpa [used, inside] using here
  · rw [whole.unused i inside (Nat.le_of_not_lt used),
      whole'.unused i inside (Nat.le_of_not_lt used)]

end Instruction

/-! ## Registers -/

namespace Registers

theorem toList_entry (registers : Registers) (index : Fin registerCount) :
    (registers.entry index).toList =
      'R' :: (toString index.val).toList ++
        '=' :: (Numeral.hex 4 (registers.get index).toNat).toList := by
  simp [entry, name]

theorem free_entry (registers : Registers) (index : Fin registerCount) :
    ' ' ∉ (registers.entry index).toList := by
  have number := (Numeral.digits_toString index.val).free
    (show 10 ≤ Numeral.digitValue ' ' by decide)
  have word : ' ' ∉ (Numeral.hex 4 (registers.get index).toNat).toList := by
    rw [Numeral.hex, String.toList_ofList]
    have digits := (Numeral.digits_hexDigits 4 (registers.get index).toNat).1
    exact (Numeral.digits_toUpper digits).1.free (by decide)
  rw [toList_entry, List.cons_append, List.mem_cons, List.mem_append, List.mem_cons, not_or, not_or,
    not_or]
  exact ⟨by decide, number, by decide, word⟩

theorem text_injective : Function.Injective text := by
  intro registers other same
  have written := congrArg String.toList same
  rw [text, text, String.toList_intercalate, String.toList_intercalate, List.map_map, List.map_map]
    at written
  have free : ∀ (bank : Registers),
      ∀ piece ∈ (List.finRange registerCount).map (String.toList ∘ bank.entry), ' ' ∉ piece := by
    intro bank piece member
    obtain ⟨index, _, rfl⟩ := List.mem_map.mp member
    exact bank.free_entry index
  have entries := Text.intercalate_injective (free registers) (free other) (by simp) written
  have words : ∀ index, registers.get index = other.get index := by
    intro index
    have entry := List.map_inj_left.mp entries index (List.mem_finRange index)
    rw [Function.comp_apply, Function.comp_apply, toList_entry, toList_entry] at entry
    have hex := (List.cons.inj (List.append_cancel_left entry)).2
    exact UInt16.toNat_inj.mp (Numeral.hex_injective (String.toList_inj.mp hex))
  cases registers
  cases other
  exact congrArg Registers.mk (Vector.ext fun i inside => words ⟨i, inside⟩)

end Registers

/-! ## Rows -/

/-- A stored step determines the event that it was made from. Instructions are read whole; of these,
    two with the same listing have the same code and operands, as two banks of registers with the
    same listing have the same words. Two events whose rows agree, the name of the operation left
    aside, are the same event. -/
theorem row_determines_event :
    (∀ (machine : Machine) (address : UInt32) (instruction : Instruction),
      machine.decode address = .ok instruction → ∃ op, instruction.Whole op) ∧
    (∀ (instruction other : Instruction) (op op' : Opcode), instruction.Whole op → other.Whole op' →
      instruction.text = other.text →
        instruction.code = other.code ∧ instruction.operands = other.operands ∧
          instruction.fetched = other.fetched) ∧
    Function.Injective Registers.text ∧
    ∀ (event other : StepEvent) (op op' : Opcode),
      event.instruction.Whole op → other.instruction.Whole op' →
      (TraceRow.ofEvent event).sequence = (TraceRow.ofEvent other).sequence →
      (TraceRow.ofEvent event).pc = (TraceRow.ofEvent other).pc →
      (TraceRow.ofEvent event).instruction = (TraceRow.ofEvent other).instruction →
      (TraceRow.ofEvent event).next = (TraceRow.ofEvent other).next →
      (TraceRow.ofEvent event).registers = (TraceRow.ofEvent other).registers →
      (TraceRow.ofEvent event).depth = (TraceRow.ofEvent other).depth → event = other := by
  refine ⟨fun machine address instruction read => ?_, fun _ _ _ _ => Instruction.text_injective,
    Registers.text_injective, ?_⟩
  · obtain ⟨-, op, stands⟩ := Machine.decode_standsIn read
    exact ⟨op, stands.whole⟩
  · intro event other op op' whole whole' sequence pc listing next registers depth
    obtain ⟨code, operands, fetched⟩ := Instruction.text_injective whole whole' listing
    have banks := Registers.text_injective registers
    obtain ⟨_, ⟨_, _, _, _⟩, _, _, _⟩ := event
    obtain ⟨_, ⟨_, _, _, _⟩, _, _, _⟩ := other
    simp_all [TraceRow.ofEvent]

/-- Two listings with the same operands the other way round, and an event of a machine that holds a
    word which is no operand. -/
theorem row_determines_event_at_lookalikes :
    Instruction.text ⟨0, 7, #v[7, 32775, 0], 2⟩ ≠ Instruction.text ⟨0, 7, #v[32775, 7, 0], 2⟩ ∧
      (Machine.initial.load [4, 32775, 7, 65000]).2.eventOf ⟨0, 4, #v[32775, 7, 65000], 3⟩ =
        ⟨0, ⟨0, 4, #v[32775, 7, 65000], 3⟩, 0, .zero, 0⟩ := by
  obtain ⟨-, listings, -, rows⟩ := row_determines_event
  constructor
  · intro same
    have alike := listings _ _ .jt .jt ⟨rfl, rfl, by decide⟩ ⟨rfl, rfl, by decide⟩ same
    exact absurd alike.2.1 (by decide)
  · exact rows _ _ .eq .eq ⟨rfl, rfl, by decide⟩ ⟨rfl, rfl, by decide⟩ rfl rfl rfl rfl rfl rfl

end WordMachine
