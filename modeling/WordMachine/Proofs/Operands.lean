import WordMachine.Machine.Step

/-!
Operands and their roles. A role admits some operand words and not others (`Role.Admits`), which
is said here by numbers alone. The values and registers that operations take their operands for
are there exactly for the words that the roles admit (`valueOf_of_admits`, `targetOf_of_admits`),
and every operation looks at its operands left to right, before it does anything else: the first
one that its role does not admit decides (`actionOf_guards`).
-/

namespace WordMachine

/-- The words that may stand in a role: literals and registers where the operand is read, registers
    alone where it is written. -/
def Role.Admits : Role → UInt16 → Prop
  | .source, word => word.toNat ≤ 32775
  | .destination, word => 32768 ≤ word.toNat ∧ word.toNat ≤ 32775

instance Role.decidableAdmits (role : Role) (word : UInt16) : Decidable (role.Admits word) :=
  match role with
  | .source => inferInstanceAs (Decidable (_ ≤ _))
  | .destination => inferInstanceAs (Decidable (_ ∧ _))

/-- An operand word in a role that does not admit it. -/
def isMisfit (place : Role × UInt16) : Bool :=
  ¬ place.1.Admits place.2

/-- What is said against an operand word: that it is no operand at all, or that it is a literal. -/
def objection (word : UInt16) : Cause :=
  if 32775 < word.toNat then .operandOutOfRange word else .literalDestination word

theorem kind?_objection (word : UInt16) :
    (objection word).kind? =
      some (if 32775 < word.toNat then .operandOutOfRange else .invalidRegisterIndex) := by
  rw [objection]
  split <;> rfl

/-! ## What operand words denote -/

theorem le_maxLiteral_iff (word : UInt16) : word ≤ maxLiteral ↔ word.toNat < addressSpace := by
  have bound : maxLiteral.toNat = 32767 := rfl
  rw [UInt16.le_iff_toNat_le, bound]
  exact Nat.lt_succ_iff.symm

namespace Operand

theorem ofWord_literal {word : UInt16} (low : word.toNat < 32768) :
    ofWord word = .literal word := by
  rw [ofWord, if_pos ((le_maxLiteral_iff word).mpr low)]

theorem toNat_sub_registerBase {word : UInt16} (high : 32768 ≤ word.toNat) :
    (word - registerBase).toNat = word.toNat - 32768 := by
  have base : registerBase.toNat = 32768 := rfl
  have above : registerBase ≤ word := UInt16.le_iff_toNat_le.mpr (base ▸ high)
  rw [UInt16.toNat_sub_of_le _ _ above, base]

theorem ofWord_register {word : UInt16} (low : 32768 ≤ word.toNat) (high : word.toNat ≤ 32775) :
    ∃ index : Fin registerCount, ofWord word = .register index ∧
      word.toNat = 32768 + index.val := by
  have notLiteral : ¬ word ≤ maxLiteral := by
    rw [le_maxLiteral_iff]
    exact Nat.not_lt.mpr low
  have place := toNat_sub_registerBase low
  have named : (word - registerBase).toNat < registerCount := by
    rw [place]
    exact Nat.lt_of_le_of_lt (Nat.sub_le_sub_right high 32768) (by decide)
  refine ⟨⟨_, named⟩, by rw [ofWord, if_neg notLiteral, dif_pos named], ?_⟩
  change word.toNat = 32768 + (word - registerBase).toNat
  omega

theorem ofWord_invalid {word : UInt16} (high : 32775 < word.toNat) :
    ofWord word = .invalid word := by
  have notLiteral : ¬ word ≤ maxLiteral := by
    rw [le_maxLiteral_iff]
    exact Nat.not_lt.mpr (Nat.le_of_lt (Nat.lt_trans (by decide) high))
  have unnamed : ¬ (word - registerBase).toNat < registerCount := by
    rw [toNat_sub_registerBase (by omega)]
    have count : registerCount = 8 := rfl
    omega
  rw [ofWord, if_neg notLiteral, dif_neg unnamed]

end Operand

namespace Machine

theorem valueOf_of_admits (machine : Machine) {word : UInt16} (admits : Role.source.Admits word) :
    ∃ value, machine.valueOf word = .ok value := by
  by_cases low : word.toNat < 32768
  · exact ⟨word, by rw [valueOf, Operand.ofWord_literal low]; rfl⟩
  · obtain ⟨index, is, _⟩ := Operand.ofWord_register (Nat.not_lt.mp low) admits
    exact ⟨machine.registers.get index, by rw [valueOf, is]; rfl⟩

theorem valueOf_of_misfit (machine : Machine) {word : UInt16} (misfit : ¬ Role.source.Admits word) :
    machine.valueOf word = .error (objection word) := by
  have high : 32775 < word.toNat := Nat.not_le.mp misfit
  rw [valueOf, Operand.ofWord_invalid high, objection, if_pos high]
  rfl

theorem targetOf_of_admits {word : UInt16} (admits : Role.destination.Admits word) :
    ∃ index, targetOf word = .ok index := by
  obtain ⟨index, is, _⟩ := Operand.ofWord_register admits.1 admits.2
  exact ⟨index, by rw [targetOf, is]; rfl⟩

theorem targetOf_of_misfit {word : UInt16} (misfit : ¬ Role.destination.Admits word) :
    targetOf word = .error (objection word) := by
  by_cases low : word.toNat < 32768
  · have within : ¬ 32775 < word.toNat := by omega
    rw [targetOf, Operand.ofWord_literal low, objection, if_neg within]
    rfl
  · have high : 32775 < word.toNat :=
      Nat.not_le.mp fun small => misfit ⟨Nat.not_lt.mp low, small⟩
    rw [targetOf, Operand.ofWord_invalid high, objection, if_pos high]
    rfl

theorem toNat_of_targetOf {word : UInt16} {index : Fin registerCount}
    (target : targetOf word = .ok index) :
    word.toNat = 32768 + index.val := by
  by_cases admits : Role.destination.Admits word
  · obtain ⟨other, is, place⟩ := Operand.ofWord_register admits.1 admits.2
    rw [targetOf, is] at target
    cases target
    exact place
  · rw [targetOf_of_misfit admits] at target
    cases target

/-! ## Checking from left to right -/

/-- The first operand that its role does not admit is the reason of a failure. -/
def Guards {α : Type} (places : List (Role × UInt16)) (answer : Except Cause α) : Prop :=
  ∀ role word, places.find? isMisfit = some (role, word) → answer = .error (objection word)

theorem guards_nil {α : Type} (answer : Except Cause α) : Guards [] answer := by
  intro role word found
  cases found

theorem Guards.value {α : Type} {machine : Machine} {word : UInt16} {places : List (Role × UInt16)}
    {next : UInt16 → Except Cause α} (after : ∀ value, Guards places (next value)) :
    Guards ((.source, word) :: places) (machine.valueOf word >>= next) := by
  intro role first found
  by_cases admits : Role.source.Admits word
  · obtain ⟨value, is⟩ := machine.valueOf_of_admits admits
    rw [List.find?_cons_of_neg (by simpa [isMisfit] using admits)] at found
    rw [is]
    exact after value role first found
  · rw [List.find?_cons_of_pos (by simpa [isMisfit] using admits)] at found
    cases found
    rw [machine.valueOf_of_misfit admits]
    rfl

theorem Guards.target {α : Type} {word : UInt16} {places : List (Role × UInt16)}
    {next : Fin registerCount → Except Cause α} (after : ∀ index, Guards places (next index)) :
    Guards ((.destination, word) :: places) (targetOf word >>= next) := by
  intro role first found
  by_cases admits : Role.destination.Admits word
  · obtain ⟨index, is⟩ := targetOf_of_admits admits
    rw [List.find?_cons_of_neg (by simpa [isMisfit] using admits)] at found
    rw [is]
    exact after index role first found
  · rw [List.find?_cons_of_pos (by simpa [isMisfit] using admits)] at found
    cases found
    rw [targetOf_of_misfit admits]
    rfl

theorem actionOf_guards (machine : Machine) (address following : UInt32) (op : Opcode)
    (a b c : UInt16) :
    Guards (op.roles.zip [a, b, c]) (machine.actionOf address following op a b c) := by
  cases op with
  | halt | noop | ret => exact guards_nil _
  | push | jmp | call | out => exact .value fun _ => guards_nil _
  | pop | inp => exact .target fun _ => guards_nil _
  | jt | jf | wmem => exact .value fun _ => .value fun _ => guards_nil _
  | set | not | rmem => exact .target fun _ => .value fun _ => guards_nil _
  | eq | gt | add | mult | mod | and | or =>
    exact .target fun _ => .value fun _ => .value fun _ => guards_nil _

end Machine

end WordMachine
