import Mathlib.Data.List.Basic
import WordMachine.Proofs.Characters
import WordMachine.Text.Numeral

/-!
Numerals. What a text denotes is said by `Denotes`, one rule for each form, with the positions of
the digits as their values. Reading gives exactly the numbers denoted that have 64 bits. A text of
decimal digits alone is read in decimal even if the number is too large, because the same digits
stand for no smaller number in base sixteen (`numberOf_le`), so the second attempt fails as well
(`read_exactly_numerals`).
-/

namespace WordMachine.Numeral

/-- Where a character stands among the digits from `0` to `f`, in either case. It is sixteen for
    every other character. -/
def digitValue (c : Char) : Nat :=
  "0123456789abcdef".toList.idxOf c.toLower

/-- One or more digits of a base, which is ten or sixteen. -/
def Digits (base : Nat) (cs : List Char) : Prop :=
  cs ≠ [] ∧ ∀ c ∈ cs, digitValue c < base

instance Digits.decidable (base : Nat) (cs : List Char) : Decidable (Digits base cs) :=
  decidable_of_iff (cs ≠ [] ∧ cs.all fun c => digitValue c < base) (by simp [Digits])

/-- What further digits make of a number. -/
def continued (base value : Nat) (digits : List Char) : Nat :=
  digits.foldl (fun number c => base * number + digitValue c) value

/-- The number that digits of a base stand for. -/
def numberOf (base : Nat) (digits : List Char) : Nat :=
  continued base 0 digits

/-- The numbers that texts denote. -/
inductive Denotes : List Char → Nat → Prop where
  | dollar {digits} (hex : Digits 16 digits) : Denotes ('$' :: digits) (numberOf 16 digits)
  | zeroX {mark digits} (marked : mark = 'x' ∨ mark = 'X') (hex : Digits 16 digits) :
    Denotes ('0' :: mark :: digits) (numberOf 16 digits)
  | hash {digits} (decimal : Digits 10 digits) : Denotes ('#' :: digits) (numberOf 10 digits)
  | decimal {digits} (decimal : Digits 10 digits) : Denotes digits (numberOf 10 digits)
  | letters {digits} (hex : Digits 16 digits) (letter : ∃ c ∈ digits, c.isAlpha) :
    Denotes digits (numberOf 16 digits)

/-! ## Digits -/

theorem digitValue_of_not_ascii {c : Char} (high : 128 ≤ c.toNat) : digitValue c = 16 := by
  have kept : c.toLower = c := by
    refine dif_neg ?_
    rintro ⟨-, upTo⟩
    have bound : c.toNat ≤ 90 := UInt32.le_iff_toNat_le.mp upTo
    omega
  rw [digitValue, kept]
  apply List.idxOf_eq_length
  intro inside
  have small : ∀ d ∈ "0123456789abcdef".toList, d.toNat < 128 :=
    Text.forall_mem_of_all (by decide)
  have below := small c inside
  omega

theorem digit?_of_not_ascii {c : Char} (high : 128 ≤ c.toNat) : digit? c = none := by
  have above : ∀ d : Char, d.toNat < 128 → ¬ c ≤ d := by
    intro d low upTo
    have bound : c.toNat ≤ d.toNat := UInt32.le_iff_toNat_le.mp upTo
    omega
  simp [digit?, above '9' (by decide), above 'z' (by decide), above 'Z' (by decide)]

/-- The digits below sixteen are read as what they are worth, and no other character is read as
    such a digit. -/
theorem digit?_cases (c : Char) :
    (digit? c = some (digitValue c) ∧ digitValue c < 16) ∨
      (digitValue c = 16 ∧ ∀ d < 16, digit? c ≠ some d) := by
  by_cases ascii : c.toNat < 128
  · revert c
    exact Text.forall_ascii (by decide +kernel)
  · have high := Nat.le_of_not_lt ascii
    right
    exact ⟨digitValue_of_not_ascii high, fun d _ => by simp [digit?_of_not_ascii high]⟩

theorem digit?_of_lt {c : Char} (digit : digitValue c < 16) : digit? c = some (digitValue c) := by
  rcases digit?_cases c with ⟨read, -⟩ | ⟨larger, -⟩
  · exact read
  · omega

theorem digitValue_of_digit? {c : Char} {d : Nat} (read : digit? c = some d) (small : d < 16) :
    digitValue c = d := by
  rcases digit?_cases c with ⟨same, -⟩ | ⟨-, larger⟩
  · exact Option.some.inj (same.symm.trans read)
  · exact absurd read (larger d small)

theorem mem_of_digitValue {c : Char} (hex : digitValue c < 16) :
    c ∈ "0123456789abcdefABCDEF".toList := by
  have ascii : c.toNat < 128 := by
    by_contra high
    have larger := digitValue_of_not_ascii (Nat.le_of_not_lt high)
    omega
  have checked : ∀ c : Char, c.toNat < 128 → digitValue c < 16 →
      c ∈ "0123456789abcdefABCDEF".toList :=
    Text.forall_ascii (by decide +kernel)
  exact checked c ascii hex

theorem isAlpha_of_digitValue {c : Char} (hex : digitValue c < 16) :
    c.isAlpha = true ↔ 10 ≤ digitValue c := by
  have checked : ∀ c ∈ "0123456789abcdefABCDEF".toList,
      (c.isAlpha = true ↔ 10 ≤ digitValue c) := Text.forall_mem_of_all (by decide +kernel)
  exact checked c (mem_of_digitValue hex)

theorem digitValue_toUpper {c : Char} (hex : digitValue c < 16) :
    digitValue c.toUpper = digitValue c := by
  have checked : ∀ c ∈ "0123456789abcdefABCDEF".toList,
      digitValue c.toUpper = digitValue c := Text.forall_mem_of_all (by decide +kernel)
  exact checked c (mem_of_digitValue hex)

/-! ## Digit strings -/

theorem Digits.mono {base larger : Nat} {cs : List Char} (digits : Digits base cs)
    (le : base ≤ larger) : Digits larger cs :=
  ⟨digits.1, fun c inside => Nat.lt_of_lt_of_le (digits.2 c inside) le⟩

theorem continued_cons (base value : Nat) (c : Char) (rest : List Char) :
    continued base value (c :: rest) = continued base (base * value + digitValue c) rest := rfl

theorem continued_append (base value : Nat) (front rest : List Char) :
    continued base value (front ++ rest) = continued base (continued base value front) rest := by
  simp [continued]

theorem le_continued {base : Nat} (positive : 0 < base) (value : Nat) (cs : List Char) :
    value ≤ continued base value cs := by
  induction cs generalizing value with
  | nil => exact Nat.le_refl value
  | cons c rest ih =>
    have grown : value ≤ base * value := Nat.le_mul_of_pos_left value positive
    calc
      value ≤ base * value + digitValue c := by omega
      _ ≤ continued base value (c :: rest) := ih _

theorem continued_le {base larger value other : Nat} (bases : base ≤ larger)
    (values : value ≤ other) (cs : List Char) :
    continued base value cs ≤ continued larger other cs := by
  induction cs generalizing value other with
  | nil => exact values
  | cons c rest ih =>
    have products := Nat.mul_le_mul bases values
    exact ih (Nat.add_le_add_right products _)

/-- The same digits stand for no smaller number in a larger base. -/
theorem numberOf_le {base larger : Nat} (bases : base ≤ larger) (cs : List Char) :
    numberOf base cs ≤ numberOf larger cs :=
  continued_le bases (Nat.le_refl 0) cs

/-! ## Reading digits -/

section
variable {base : Nat}

theorem readFrom_of_digits (bound : base ≤ 16) {cs : List Char} {value : Nat}
    (digits : ∀ c ∈ cs, digitValue c < base) (small : value < UInt64.size) :
    readFrom base value cs =
      if continued base value cs < UInt64.size then .number (continued base value cs).toUInt64
      else .tooLarge := by
  induction cs generalizing value with
  | nil => rw [readFrom, continued, List.foldl_nil, if_pos small]
  | cons c rest ih =>
    obtain ⟨first, others⟩ := List.forall_mem_cons.mp digits
    have read := digit?_of_lt (Nat.lt_of_lt_of_le first bound)
    simp only [readFrom, read, if_pos first]
    by_cases next : base * value + digitValue c < UInt64.size
    · rw [if_pos next, ih others next, continued_cons]
    · -- Reading stops here; the digits that are left would only make the number larger.
      have passed := le_continued (Nat.zero_lt_of_lt first) (base * value + digitValue c) rest
      rw [if_neg next, if_neg]
      rw [continued_cons]
      omega

theorem digits_of_readFrom (bound : base ≤ 16) {cs : List Char} {value : Nat} {n : UInt64}
    (read : readFrom base value cs = .number n) : ∀ c ∈ cs, digitValue c < base := by
  induction cs generalizing value with
  | nil => simp
  | cons c rest ih =>
    rw [readFrom] at read
    split at read
    · cases read
    · rename_i d digit
      split at read
      · rename_i small
        have same := digitValue_of_digit? digit (Nat.lt_of_lt_of_le small bound)
        split at read
        · exact List.forall_mem_cons.mpr ⟨same ▸ small, ih read⟩
        · cases read
      · cases read

theorem readDigits_of_digits (bound : base ≤ 16) {cs : List Char} (digits : Digits base cs) :
    readDigits base cs =
      if numberOf base cs < UInt64.size then .number (numberOf base cs).toUInt64
      else .tooLarge := by
  obtain ⟨present, inside⟩ := digits
  cases cs with
  | nil => contradiction
  | cons c rest => exact readFrom_of_digits bound inside (by decide)

theorem digits_of_readDigits (bound : base ≤ 16) {cs : List Char} {n : UInt64}
    (read : readDigits base cs = .number n) : Digits base cs := by
  cases cs with
  | nil => cases read
  | cons c rest => exact ⟨by simp, digits_of_readFrom bound read⟩

theorem readDigits_eq_number (bound : base ≤ 16) {cs : List Char} {n : UInt64}
    (read : readDigits base cs = .number n) : numberOf base cs = n.toNat := by
  rw [readDigits_of_digits bound (digits_of_readDigits bound read)] at read
  split at read
  · rename_i small
    cases read
    exact (UInt64.toNat_ofNat_of_lt' small).symm
  · cases read

end

/-! ## Forms of numerals -/

/-- Without a mark in front, digits are read in decimal first. -/
theorem readTrimmed_of_digits {cs : List Char} (digits : Digits 16 cs) :
    readTrimmed cs =
      match readDigits 10 cs with
      | .number n => .number n
      | _ => readDigits 16 cs := by
  obtain ⟨-, inside⟩ := digits
  unfold readTrimmed
  split
  · exact absurd (inside '$' (by simp)) (by decide)
  · exact absurd (inside 'x' (by simp)) (by decide)
  · exact absurd (inside 'X' (by simp)) (by decide)
  · exact absurd (inside '#' (by simp)) (by decide)
  · rfl

theorem readTrimmed_of_decimal {cs : List Char} (decimal : Digits 10 cs) :
    readTrimmed cs =
      if numberOf 10 cs < UInt64.size then .number (numberOf 10 cs).toUInt64 else .tooLarge := by
  have hex : Digits 16 cs := decimal.mono (by decide)
  rw [readTrimmed_of_digits hex, readDigits_of_digits (by decide) decimal]
  by_cases small : numberOf 10 cs < UInt64.size
  · simp only [if_pos small]
  · -- The attempt in base sixteen meets the same digits and a number that is no smaller.
    have larger := numberOf_le (show 10 ≤ 16 by decide) cs
    have large : ¬ numberOf 16 cs < UInt64.size := by omega
    simp only [if_neg small, readDigits_of_digits (Nat.le_refl 16) hex, if_neg large]

theorem readTrimmed_of_letters {cs : List Char} (hex : Digits 16 cs)
    (letter : ∃ c ∈ cs, c.isAlpha) : readTrimmed cs = readDigits 16 cs := by
  rw [readTrimmed_of_digits hex]
  cases decimal : readDigits 10 cs with
  | number n =>
    obtain ⟨c, inside, alpha⟩ := letter
    have low := (digits_of_readDigits (by decide) decimal).2 c inside
    have high := (isAlpha_of_digitValue (hex.2 c inside)).mp alpha
    omega
  | malformed => rfl
  | tooLarge => rfl

theorem readTrimmed_of_denotes {cs : List Char} {m : Nat} (denotes : Denotes cs m) :
    readTrimmed cs = if m < UInt64.size then .number m.toUInt64 else .tooLarge := by
  cases denotes with
  | dollar hex => exact readDigits_of_digits (Nat.le_refl 16) hex
  | zeroX marked hex =>
    rcases marked with rfl | rfl
    · exact readDigits_of_digits (Nat.le_refl 16) hex
    · exact readDigits_of_digits (Nat.le_refl 16) hex
  | hash decimal => exact readDigits_of_digits (by decide) decimal
  | decimal decimal => exact readTrimmed_of_decimal decimal
  | letters hex letter =>
    rw [readTrimmed_of_letters hex letter, readDigits_of_digits (Nat.le_refl 16) hex]

/-- Digits that are read in base sixteen only are not all decimal: decimal ones that are too large
    in base ten are so in base sixteen too. -/
theorem letter_of_readDigits {cs : List Char} {n : UInt64}
    (fails : ∀ m, readDigits 10 cs ≠ .number m) (read : readDigits 16 cs = .number n) :
    ∃ c ∈ cs, c.isAlpha := by
  have hex := digits_of_readDigits (Nat.le_refl 16) read
  by_contra noLetter
  have decimal : Digits 10 cs := by
    refine ⟨hex.1, fun c inside => ?_⟩
    by_contra high
    have letter := (isAlpha_of_digitValue (hex.2 c inside)).mpr (Nat.le_of_not_lt high)
    exact noLetter ⟨c, inside, letter⟩
  have value := readDigits_eq_number (Nat.le_refl 16) read
  have smaller := numberOf_le (show 10 ≤ 16 by decide) cs
  have bound := n.toNat_lt_size
  apply fails (numberOf 10 cs).toUInt64
  rw [readDigits_of_digits (by decide) decimal, if_pos (by omega)]

theorem denotes_of_readTrimmed {cs : List Char} {n : UInt64} (read : readTrimmed cs = .number n) :
    Denotes cs n.toNat := by
  have sixteen : ∀ {digits}, readDigits 16 digits = .number n →
      Digits 16 digits ∧ numberOf 16 digits = n.toNat := fun read =>
    ⟨digits_of_readDigits (Nat.le_refl 16) read, readDigits_eq_number (Nat.le_refl 16) read⟩
  have ten : ∀ {digits}, readDigits 10 digits = .number n →
      Digits 10 digits ∧ numberOf 10 digits = n.toNat := fun read =>
    ⟨digits_of_readDigits (by decide) read, readDigits_eq_number (by decide) read⟩
  unfold readTrimmed at read
  split at read
  · obtain ⟨hex, same⟩ := sixteen read
    exact same ▸ .dollar hex
  · obtain ⟨hex, same⟩ := sixteen read
    exact same ▸ .zeroX (.inl rfl) hex
  · obtain ⟨hex, same⟩ := sixteen read
    exact same ▸ .zeroX (.inr rfl) hex
  · obtain ⟨decimal, same⟩ := ten read
    exact same ▸ .hash decimal
  · split at read
    · rename_i first
      cases read
      obtain ⟨decimal, same⟩ := ten first
      exact same ▸ .decimal decimal
    · rename_i fails
      obtain ⟨hex, same⟩ := sixteen read
      exact same ▸ .letters hex (letter_of_readDigits fails read)

theorem readTrimmed_eq_number_iff {cs : List Char} {n : UInt64} :
    readTrimmed cs = .number n ↔ Denotes cs n.toNat := by
  constructor
  · exact denotes_of_readTrimmed
  · intro denotes
    rw [readTrimmed_of_denotes denotes, if_pos n.toNat_lt_size]
    exact congrArg Reading.number (UInt64.ofNat_toNat)

/-- Digits without a mark in front denote a number by one of two rules, which exclude each other. -/
theorem Denotes.of_digits {cs : List Char} {m : Nat} (denotes : Denotes cs m) (hex : Digits 16 cs) :
    m = numberOf (if cs.any Char.isAlpha then 16 else 10) cs := by
  obtain ⟨-, inside⟩ := hex
  cases denotes with
  | dollar => exact absurd (inside '$' (by simp)) (by decide)
  | zeroX marked =>
    rcases marked with rfl | rfl
    · exact absurd (inside 'x' (by simp)) (by decide)
    · exact absurd (inside 'X' (by simp)) (by decide)
  | hash => exact absurd (inside '#' (by simp)) (by decide)
  | decimal decimal =>
    rw [if_neg]
    intro lettered
    obtain ⟨c, member, alpha⟩ := List.any_eq_true.mp lettered
    have high := (isAlpha_of_digitValue (inside c member)).mp alpha
    have low := decimal.2 c member
    omega
  | letters hex letter => rw [if_pos (List.any_eq_true.mpr letter)]

/-- Whatever its size, a text denotes one number at most. -/
theorem Denotes.unique {cs : List Char} {m other : Nat} (denotes : Denotes cs m)
    (another : Denotes cs other) : m = other := by
  by_cases hex : Digits 16 cs
  · rw [denotes.of_digits hex, another.of_digits hex]
  · -- Otherwise the text begins with a mark, which tells the rule.
    cases denotes with
    | decimal decimal => exact absurd (decimal.mono (by decide)) hex
    | letters letters => exact absurd letters hex
    | dollar digits =>
      cases another with
      | dollar => rfl
      | decimal decimal => exact absurd (decimal.mono (by decide)) hex
      | letters letters => exact absurd letters hex
    | hash digits =>
      cases another with
      | hash => rfl
      | decimal decimal => exact absurd (decimal.mono (by decide)) hex
      | letters letters => exact absurd letters hex
    | zeroX digits =>
      cases another with
      | zeroX => rfl
      | decimal decimal => exact absurd (decimal.mono (by decide)) hex
      | letters letters => exact absurd letters hex

/-- The characters that numerals are made of: digits, and marks of their base. -/
def alphabet : List Char := "0123456789abcdefABCDEF$#xX".toList

theorem mem_alphabet_of_digit {c : Char} (hex : digitValue c < 16) : c ∈ alphabet := by
  have within : "0123456789abcdefABCDEF".toList ⊆ alphabet := by decide
  exact within (mem_of_digitValue hex)

theorem Denotes.within_alphabet {cs : List Char} {m : Nat} (denotes : Denotes cs m) :
    cs ⊆ alphabet := by
  have digits : ∀ {base digits}, Digits base digits → base ≤ 16 → digits ⊆ alphabet :=
    fun digits bound c inside =>
      mem_alphabet_of_digit (Nat.lt_of_lt_of_le (digits.2 c inside) bound)
  cases denotes with
  | dollar hex => exact List.cons_subset.mpr ⟨by decide, digits hex (Nat.le_refl 16)⟩
  | zeroX marked hex =>
    have rest := digits hex (Nat.le_refl 16)
    rcases marked with rfl | rfl
    · exact List.cons_subset.mpr ⟨by decide, List.cons_subset.mpr ⟨by decide, rest⟩⟩
    · exact List.cons_subset.mpr ⟨by decide, List.cons_subset.mpr ⟨by decide, rest⟩⟩
  | hash decimal => exact List.cons_subset.mpr ⟨by decide, digits decimal (by decide)⟩
  | decimal decimal => exact digits decimal (by decide)
  | letters hex => exact digits hex (Nat.le_refl 16)

theorem Denotes.bare {cs : List Char} {m : Nat} (denotes : Denotes cs m) : Text.Bare cs := by
  have plain : ∀ c ∈ alphabet, Text.isBlank c = false :=
    Text.forall_mem_of_all (by decide +kernel)
  exact Text.bare_of_no_blank fun c inside => plain c (denotes.within_alphabet inside)

theorem readChars_eq_number_iff {cs : List Char} {n : UInt64} :
    readChars cs = .number n ↔ Denotes (Text.trim cs) n.toNat :=
  readTrimmed_eq_number_iff

theorem read_of_denotes {text : String} {n : UInt64} (denotes : Denotes text.toList n.toNat) :
    read text = .number n := by
  rw [read, readChars_eq_number_iff, Text.trim_of_bare denotes.bare]
  exact denotes

/-! ## Written numbers -/

theorem digitValue_digitChar : ∀ d < 16, digitValue (Nat.digitChar d) = d := by
  decide

theorem digits_toDigits {base : Nat} (low : 1 < base) (bound : base ≤ 16) (n : Nat) :
    Digits base (Nat.toDigits base n) ∧ numberOf base (Nat.toDigits base n) = n := by
  induction n using Nat.strongRecOn with
  | ind n ih =>
    rw [Nat.toDigits_eq_if low]
    split
    · rename_i single
      have value := digitValue_digitChar n (Nat.lt_of_lt_of_le single bound)
      refine ⟨⟨by simp, by simpa [value] using single⟩, ?_⟩
      simp [numberOf, continued, value]
    · rename_i several
      have last := Nat.mod_lt n (Nat.zero_lt_of_lt low)
      have value := digitValue_digitChar (n % base) (Nat.lt_of_lt_of_le last bound)
      have front : n / base < n := Nat.div_lt_self (by omega) low
      obtain ⟨⟨-, digits⟩, number⟩ := ih (n / base) front
      refine ⟨⟨by simp, ?_⟩, ?_⟩
      · intro c inside
        rcases List.mem_append.mp inside with before | final
        · exact digits c before
        · rw [List.mem_singleton.mp final, value]
          exact last
      · rw [numberOf, continued_append, ← numberOf, number]
        simp only [continued, List.foldl_cons, List.foldl_nil, value]
        exact Nat.div_add_mod n base

/-- Zeros in front and the case of the letters make no difference. -/
theorem digits_hexDigits (width n : Nat) :
    Digits 16 (hexDigits width n) ∧ numberOf 16 (hexDigits width n) = n := by
  obtain ⟨⟨present, digits⟩, number⟩ := digits_toDigits (show 1 < 16 by decide) (Nat.le_refl 16) n
  have zeros : ∀ count, continued 16 0 (List.replicate count '0') = 0 := by
    intro count
    induction count with
    | zero => rfl
    | succ count ih => exact ih
  rw [hexDigits, padLeft]
  refine ⟨⟨by simp [present], ?_⟩, ?_⟩
  · intro c inside
    rcases List.mem_append.mp inside with padding | rest
    · rw [List.eq_of_mem_replicate padding]
      decide
    · exact digits c rest
  · rw [numberOf, continued_append, zeros, ← numberOf, number]

theorem digits_toUpper {cs : List Char} (hex : Digits 16 cs) :
    Digits 16 (cs.map Char.toUpper) ∧ numberOf 16 (cs.map Char.toUpper) = numberOf 16 cs := by
  obtain ⟨present, digits⟩ := hex
  refine ⟨⟨by simp [present], ?_⟩, ?_⟩
  · intro c inside
    obtain ⟨d, member, rfl⟩ := List.mem_map.mp inside
    rw [digitValue_toUpper (digits d member)]
    exact digits d member
  · rw [numberOf, continued, List.foldl_map]
    apply List.foldl_ext
    intro number c member
    rw [digitValue_toUpper (digits c member)]

theorem denotes_hex (width n : Nat) : Denotes ('$' :: (hex width n).toList) n := by
  obtain ⟨digits, number⟩ := digits_hexDigits width n
  obtain ⟨upper, same⟩ := digits_toUpper digits
  rw [hex, String.toList_ofList]
  have denotes := Denotes.dollar upper
  rwa [same, number] at denotes

theorem denotes_hexLower (width n : Nat) : Denotes ('0' :: 'x' :: (hexLower width n).toList) n := by
  obtain ⟨digits, number⟩ := digits_hexDigits width n
  rw [hexLower, String.toList_ofList]
  have denotes := Denotes.zeroX (.inl rfl) digits
  rwa [number] at denotes

/-- Reading gives the numbers that texts denote, as far as they have 64 bits. Digits alone are read
    in decimal whatever number they stand for, each text denotes one number at most, and every
    64-bit number is read back from its four written forms. -/
theorem read_exactly_numerals :
    (∀ (text : String) (n : UInt64),
      read text = .number n ↔ Denotes (Text.trim text.toList) n.toNat) ∧
    (∀ text : String, Digits 10 (Text.trim text.toList) →
      let m := numberOf 10 (Text.trim text.toList)
      read text = if m < UInt64.size then .number m.toUInt64 else .tooLarge) ∧
    (∀ cs m other, Denotes cs m → Denotes cs other → m = other) ∧
    ∀ n : UInt64, read ("$" ++ hex 1 n.toNat) = .number n ∧
      read ("0x" ++ hexLower 1 n.toNat) = .number n ∧
      read ("#" ++ toString n.toNat) = .number n ∧ read (toString n.toNat) = .number n := by
  refine ⟨fun text n => readChars_eq_number_iff, fun text decimal => readTrimmed_of_decimal decimal,
    fun cs m other => Denotes.unique, fun n => ?_⟩
  obtain ⟨digits, number⟩ := digits_toDigits (show 1 < 10 by decide) (by decide) n.toNat
  have written : (toString n.toNat).toList = Nat.toDigits 10 n.toNat := Nat.toList_repr
  refine ⟨?_, ?_, ?_, ?_⟩
  · apply read_of_denotes
    rw [String.toList_append]
    exact denotes_hex 1 n.toNat
  · apply read_of_denotes
    rw [String.toList_append]
    exact denotes_hexLower 1 n.toNat
  · apply read_of_denotes
    rw [String.toList_append, written]
    have denotes := Denotes.hash digits
    rwa [number] at denotes
  · apply read_of_denotes
    rw [written]
    have denotes := Denotes.decimal digits
    rwa [number] at denotes

/-- The largest number behind a zero and white space, the next number, whose digits stand for a
    number of 80 bits in base sixteen, and a text that does not denote what it would in that
    base. -/
theorem read_exactly_numerals_at_limit :
    read "\t018446744073709551615 " = .number 18446744073709551615 ∧
      read "18446744073709551616" = .tooLarge ∧ ¬ Denotes "10".toList 16 := by
  obtain ⟨-, decimal, unique, -⟩ := read_exactly_numerals
  refine ⟨decimal "\t018446744073709551615 " (by decide),
    decimal "18446744073709551616" (by decide), fun hex => ?_⟩
  have ten : Denotes "10".toList 10 := .decimal (by decide)
  exact absurd (unique _ _ _ hex ten) (by decide)

end WordMachine.Numeral
