import WordMachine.Text.Utf8

/-!
What bytes spell. `Utf8.Spells` says it without a scanner: the bytes of a character spell it, and
a byte at which no character's bytes begin spells U+FFFD. The bytes of characters are the sequences
of a table (`Sequence`), and the scanner finds a character exactly where one of them stands
(`first_of_sequence`, `first_cases`). So every byte string spells one text, which is the one
that decoding gives (`spells_iff`).
-/

namespace WordMachine.Utf8

/-- The texts that byte strings spell. -/
inductive Spells : List UInt8 → List Char → Prop where
  | nothing : Spells [] []
  | char {c rest cs} (more : Spells rest cs) : Spells (encode c ++ rest) (c :: cs)
  | stray {b rest cs} (noChar : ∀ c after, b :: rest ≠ encode c ++ after) (more : Spells rest cs) :
    Spells (b :: rest) (replacement :: cs)

/-! ## The bytes of a character -/

/-- The byte sequences that stand for a code. None is overlong, and none stands for a surrogate or a
    code past U+10FFFF. -/
inductive Sequence : List UInt8 → Nat → Prop where
  | one {a} (ascii : a.toNat < 128) : Sequence [a] a.toNat
  | two {a b} (lead : 194 ≤ a.toNat ∧ a.toNat ≤ 223) (tail : isTail b = true) :
    Sequence [a, b] (a.toNat % 32 * 64 + tailBits b)
  | three {a b c} (lead : 224 ≤ a.toNat ∧ a.toNat ≤ 239) (second : isSecond a b = true)
    (tail : isTail c = true) :
    Sequence [a, b, c] ((a.toNat % 16 * 64 + tailBits b) * 64 + tailBits c)
  | four {a b c d} (lead : 240 ≤ a.toNat ∧ a.toNat ≤ 244) (second : isSecond a b = true)
    (third : isTail c = true) (tail : isTail d = true) :
    Sequence [a, b, c, d]
      (((a.toNat % 8 * 64 + tailBits b) * 64 + tailBits c) * 64 + tailBits d)

theorem isTail_iff {b : UInt8} : isTail b = true ↔ 128 ≤ b.toNat ∧ b.toNat ≤ 191 := by
  simp [isTail, UInt8.le_iff_toNat_le]

theorem isSecond_iff {lead b : UInt8} : isSecond lead b = true ↔
    (128 ≤ b.toNat ∧ b.toNat ≤ 191) ∧ (lead.toNat = 224 → 160 ≤ b.toNat) ∧
      (lead.toNat = 237 → b.toNat ≤ 159) ∧ (lead.toNat = 240 → 144 ≤ b.toNat) ∧
      (lead.toNat = 244 → b.toNat ≤ 143) := by
  simp only [isSecond, secondBounds, Bool.and_eq_true, decide_eq_true_iff, UInt8.le_iff_toNat_le,
    ← UInt8.toNat_inj, UInt8.reduceToNat]
  repeat' split
  all_goals
    simp only [UInt8.reduceToNat]
    omega

theorem encode_eq (c : Char) : encode c =
    if c.toNat ≤ 127 then [UInt8.ofNat c.toNat]
    else if c.toNat ≤ 2047 then
      [UInt8.ofNat (c.toNat / 64 % 32 + 192), UInt8.ofNat (c.toNat % 64 + 128)]
    else if c.toNat ≤ 65535 then
      [UInt8.ofNat (c.toNat / 4096 % 16 + 224), UInt8.ofNat (c.toNat / 64 % 64 + 128),
        UInt8.ofNat (c.toNat % 64 + 128)]
    else
      [UInt8.ofNat (c.toNat / 262144 % 8 + 240), UInt8.ofNat (c.toNat / 4096 % 64 + 128),
        UInt8.ofNat (c.toNat / 64 % 64 + 128), UInt8.ofNat (c.toNat % 64 + 128)] := rfl

/-- What a character is written as stands for it. -/
theorem sequence_encode (c : Char) : Sequence (encode c) c.toNat := by
  have valid : c.toNat < 55296 ∨ 57343 < c.toNat ∧ c.toNat < 1114112 := c.valid
  rw [encode_eq]
  generalize c.toNat = code at valid
  split
  · have stands := Sequence.one (a := UInt8.ofNat code) (by rw [UInt8.toNat_ofNat']; omega)
    have same : (UInt8.ofNat code).toNat = code := by rw [UInt8.toNat_ofNat']; omega
    rwa [same] at stands
  split
  · have stands := Sequence.two (a := UInt8.ofNat (code / 64 % 32 + 192))
      (b := UInt8.ofNat (code % 64 + 128)) (by rw [UInt8.toNat_ofNat']; omega)
      (by rw [isTail_iff, UInt8.toNat_ofNat']; omega)
    simp only [tailBits, UInt8.toNat_ofNat'] at stands
    have same : (code / 64 % 32 + 192) % 2 ^ 8 % 32 * 64 + (code % 64 + 128) % 2 ^ 8 % 64 =
      code := by
      omega
    rwa [same] at stands
  split
  · have stands := Sequence.three (a := UInt8.ofNat (code / 4096 % 16 + 224))
      (b := UInt8.ofNat (code / 64 % 64 + 128)) (c := UInt8.ofNat (code % 64 + 128))
      (by rw [UInt8.toNat_ofNat']; omega)
      (by rw [isSecond_iff, UInt8.toNat_ofNat', UInt8.toNat_ofNat']; omega)
      (by rw [isTail_iff, UInt8.toNat_ofNat']; omega)
    simp only [tailBits, UInt8.toNat_ofNat'] at stands
    have same :
        ((code / 4096 % 16 + 224) % 2 ^ 8 % 16 * 64 + (code / 64 % 64 + 128) % 2 ^ 8 % 64) * 64 +
        (code % 64 + 128) % 2 ^ 8 % 64 = code := by omega
    rwa [same] at stands
  · have stands := Sequence.four (a := UInt8.ofNat (code / 262144 % 8 + 240))
      (b := UInt8.ofNat (code / 4096 % 64 + 128)) (c := UInt8.ofNat (code / 64 % 64 + 128))
      (d := UInt8.ofNat (code % 64 + 128))
      (by rw [UInt8.toNat_ofNat']; omega)
      (by rw [isSecond_iff, UInt8.toNat_ofNat', UInt8.toNat_ofNat']; omega)
      (by rw [isTail_iff, UInt8.toNat_ofNat']; omega)
      (by rw [isTail_iff, UInt8.toNat_ofNat']; omega)
    simp only [tailBits, UInt8.toNat_ofNat'] at stands
    have same :
        (((code / 262144 % 8 + 240) % 2 ^ 8 % 8 * 64 + (code / 4096 % 64 + 128) % 2 ^ 8 % 64) * 64 +
          (code / 64 % 64 + 128) % 2 ^ 8 % 64) * 64 + (code % 64 + 128) % 2 ^ 8 % 64 = code := by
      omega
    rwa [same] at stands

theorem ofNat_eq_of_toNat {n : Nat} {b : UInt8} (same : n = b.toNat) : UInt8.ofNat n = b := by
  rw [same, UInt8.ofNat_toNat]

theorem toNat_eq_of_tail {b : UInt8} (tail : 128 ≤ b.toNat ∧ b.toNat ≤ 191) :
    b.toNat = tailBits b + 128 ∧ tailBits b < 64 := by
  simp only [tailBits]
  omega

/-- A sequence is what the character is written as whose code it stands for. -/
theorem Sequence.encode_ofNat {bytes : List UInt8} {code : Nat} (stands : Sequence bytes code) :
    encode (Char.ofNat code) = bytes := by
  have isCode {code : Nat} (valid : code.isValidChar) : (Char.ofNat code).toNat = code := by
    rw [Char.ofNat, dif_pos valid]
    rfl
  rw [encode_eq]
  cases stands with
  | one ascii =>
    rw [isCode (.inl (by omega)), if_pos (by omega), UInt8.ofNat_toNat]
  | @two a b lead tail =>
    obtain ⟨second, bits⟩ := toNat_eq_of_tail (isTail_iff.mp tail)
    rw [isCode (.inl (by omega)), if_neg (by omega), if_pos (by omega),
      ofNat_eq_of_toNat (b := a) (by omega), ofNat_eq_of_toNat (b := b) (by omega)]
  | @three a b c lead second tail =>
    obtain ⟨within, bounds⟩ := isSecond_iff.mp second
    obtain ⟨second, bits⟩ := toNat_eq_of_tail within
    obtain ⟨third, bits'⟩ := toNat_eq_of_tail (isTail_iff.mp tail)
    have valid : ((a.toNat % 16 * 64 + tailBits b) * 64 + tailBits c).isValidChar := by
      rw [Nat.isValidChar]
      omega
    rw [isCode valid, if_neg (by omega), if_neg (by omega), if_pos (by omega),
      ofNat_eq_of_toNat (b := a) (by omega), ofNat_eq_of_toNat (b := b) (by omega),
      ofNat_eq_of_toNat (b := c) (by omega)]
  | @four a b c d lead second third tail =>
    obtain ⟨within, bounds⟩ := isSecond_iff.mp second
    obtain ⟨second, bits⟩ := toNat_eq_of_tail within
    obtain ⟨third, bits'⟩ := toNat_eq_of_tail (isTail_iff.mp third)
    obtain ⟨fourth, bits''⟩ := toNat_eq_of_tail (isTail_iff.mp tail)
    have valid :
        (((a.toNat % 8 * 64 + tailBits b) * 64 + tailBits c) * 64 + tailBits d).isValidChar := by
      rw [Nat.isValidChar]
      omega
    rw [isCode valid, if_neg (by omega), if_neg (by omega), if_neg (by omega),
      ofNat_eq_of_toNat (b := a) (by omega), ofNat_eq_of_toNat (b := b) (by omega),
      ofNat_eq_of_toNat (b := c) (by omega), ofNat_eq_of_toNat (b := d) (by omega)]

/-! ## Scanning -/

theorem first_of_sequence {lead : UInt8} {tail after : List UInt8} {code : Nat}
    (stands : Sequence (lead :: tail) code) :
    first lead (tail ++ after) = (.char (Char.ofNat code), after) := by
  cases stands with
  | one ascii => simp [first, UInt8.lt_iff_toNat_lt, ascii]
  | two bounds second =>
    have high : ¬ lead.toNat < 128 := by omega
    simp [first, UInt8.lt_iff_toNat_lt, UInt8.le_iff_toNat_le, high, bounds, second]
  | three bounds second tail =>
    have high : ¬ lead.toNat < 128 := by omega
    have noTwo : ¬ lead.toNat ≤ 223 := by omega
    simp [first, UInt8.lt_iff_toNat_lt, UInt8.le_iff_toNat_le, high, noTwo, bounds, second, tail]
  | four bounds second third tail =>
    have high : ¬ lead.toNat < 128 := by omega
    have noTwo : ¬ lead.toNat ≤ 223 := by omega
    have noThree : ¬ lead.toNat ≤ 239 := by omega
    simp [first, UInt8.lt_iff_toNat_lt, UInt8.le_iff_toNat_le, high, noTwo, noThree, bounds, second,
      third, tail]

/-- The scanner goes over one byte as a stray one, or a sequence stands in front. -/
theorem first_cases (lead : UInt8) (rest : List UInt8) :
    first lead rest = (.stray lead, rest) ∨
      ∃ tail code after, Sequence (lead :: tail) code ∧ rest = tail ++ after := by
  unfold first
  split
  · rename_i ascii
    exact .inr ⟨[], _, rest, .one (UInt8.lt_iff_toNat_lt.mp ascii), rfl⟩
  split
  · rename_i bounds
    simp only [Bool.and_eq_true, decide_eq_true_eq, UInt8.le_iff_toNat_le] at bounds
    split
    · split
      · rename_i b more tail
        exact .inr ⟨[b], _, more, .two bounds tail, rfl⟩
      · exact .inl rfl
    · exact .inl rfl
  split
  · rename_i bounds
    simp only [Bool.and_eq_true, decide_eq_true_eq, UInt8.le_iff_toNat_le] at bounds
    split
    · split
      · rename_i b c more tails
        obtain ⟨second, tail⟩ := Bool.and_eq_true_iff.mp tails
        exact .inr ⟨[b, c], _, more, .three bounds second tail, rfl⟩
      · exact .inl rfl
    · exact .inl rfl
  split
  · rename_i bounds
    simp only [Bool.and_eq_true, decide_eq_true_eq, UInt8.le_iff_toNat_le] at bounds
    split
    · split
      · rename_i b c d more tails
        obtain ⟨seconds, tail⟩ := Bool.and_eq_true_iff.mp tails
        obtain ⟨second, third⟩ := Bool.and_eq_true_iff.mp seconds
        exact .inr ⟨[b, c, d], _, more, .four bounds second third tail, rfl⟩
      · exact .inl rfl
    · exact .inl rfl
  · exact .inl rfl

theorem first_encode (c : Char) : ∃ lead tail, encode c = lead :: tail ∧
    ∀ after, first lead (tail ++ after) = (.char c, after) := by
  have sequence := sequence_encode c
  cases bytes : encode c with
  | nil =>
    rw [bytes] at sequence
    cases sequence
  | cons lead tail =>
    rw [bytes] at sequence
    refine ⟨lead, tail, rfl, fun after => ?_⟩
    rw [first_of_sequence sequence, Char.ofNat_toNat]

theorem length_first_lt (lead : UInt8) (rest : List UInt8) :
    (first lead rest).2.length < (lead :: rest).length :=
  Nat.lt_succ_of_le (length_first_le lead rest)

theorem scanInto_toList (bytes : List UInt8) (out : Array Glyph) :
    (scanInto out bytes).toList = out.toList ++ scan bytes := by
  induction size : bytes.length using Nat.strongRecOn generalizing bytes out with
  | ind n ih =>
    cases bytes with
    | nil => simp [scan, scanInto]
    | cons lead rest =>
      have shorter : (first lead rest).2.length < n := size ▸ length_first_lt lead rest
      have later := fun out => ih _ shorter (first lead rest).2 out rfl
      have whole : scan (lead :: rest) = (first lead rest).1 :: scan (first lead rest).2 := by
        rw [scan, scanInto, later]
        rfl
      rw [scanInto, later, whole]
      simp

theorem decode_nil : decode [] = [] := by
  simp [decode, scan, scanInto]

theorem decode_cons (lead : UInt8) (rest : List UInt8) :
    decode (lead :: rest) = (first lead rest).1.toChar :: decode (first lead rest).2 := by
  have step : scan (lead :: rest) = (first lead rest).1 :: scan (first lead rest).2 := by
    rw [scan, scanInto, scanInto_toList]
    rfl
  rw [decode, step]
  rfl

theorem spells_decode (bytes : List UInt8) : Spells bytes (decode bytes) := by
  induction size : bytes.length using Nat.strongRecOn generalizing bytes with
  | ind n ih =>
    cases bytes with
    | nil =>
      rw [decode_nil]
      exact .nothing
    | cons lead rest =>
      have shorter : (first lead rest).2.length < n := size ▸ length_first_lt lead rest
      have later := ih _ shorter (first lead rest).2 rfl
      rw [decode_cons]
      rcases first_cases lead rest with stray | ⟨tail, code, after, stands, rfl⟩
      · rw [stray] at later ⊢
        refine .stray (fun c after whole => ?_) later
        obtain ⟨front, tail, bytes, found⟩ := first_encode c
        rw [bytes, List.cons_append] at whole
        obtain ⟨rfl, rfl⟩ := List.cons.inj whole
        rw [found] at stray
        cases stray
      · rw [first_of_sequence stands] at later ⊢
        have whole : lead :: (tail ++ after) = encode (Char.ofNat code) ++ after := by
          rw [stands.encode_ofNat]
          rfl
        rw [whole]
        exact .char later

theorem Spells.decode_eq {bytes : List UInt8} {cs : List Char} (spells : Spells bytes cs) :
    decode bytes = cs := by
  induction spells with
  | nothing => exact decode_nil
  | @char c rest cs more ih =>
    obtain ⟨lead, tail, bytes, found⟩ := first_encode c
    rw [bytes, List.cons_append, decode_cons, found, ih]
    rfl
  | @stray b rest cs noChar more ih =>
    rw [decode_cons]
    rcases first_cases b rest with stray | ⟨tail, code, after, stands, rfl⟩
    · rw [stray, ih]
      rfl
    · refine absurd ?_ (noChar (Char.ofNat code) after)
      rw [stands.encode_ofNat]
      rfl

/-- Every byte string spells one text, which is the one that decoding gives. -/
theorem spells_iff {bytes : List UInt8} {cs : List Char} : Spells bytes cs ↔ decode bytes = cs := by
  constructor
  · exact Spells.decode_eq
  · rintro rfl
    exact spells_decode bytes

end WordMachine.Utf8
