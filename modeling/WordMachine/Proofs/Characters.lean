import Mathlib.Data.List.TakeWhile
import WordMachine.Text.Blank
import WordMachine.Text.UpperCase

/-!
White space and upper case. A text is what `trim` leaves of it between two blank pieces
(`exists_trim`), and what is left neither begins nor ends with white space, which makes it the only
such piece (`trim_of_parts`). So white space added at either end changes nothing
(`trim_blank_append`, `trim_append_blank`). Besides the ASCII letters only two characters have an
upper-case character in ASCII (`upperChar_cases`). So a text that is in ASCII after it was turned to
upper case twice did not change the second time (`upper_upper`).
-/

namespace WordMachine.Text

/-- What is checked of 128 codes holds of all ASCII characters. -/
theorem forall_ascii {property : Char → Prop}
    (checked : ∀ code < 128, property (Char.ofNat code)) (c : Char) (ascii : c.toNat < 128) :
    property c := by
  have holds := checked c.toNat ascii
  rwa [Char.ofNat_toNat] at holds

/-- What is checked of each character in a list. Deciding a statement about all characters of a
    list may go through all characters there are. -/
theorem forall_mem_of_all {property : Char → Prop} [DecidablePred property] {cs : List Char}
    (checked : (cs.all fun c => property c) = true) : ∀ c ∈ cs, property c := by
  intro c inside
  exact of_decide_eq_true (List.all_eq_true.mp checked c inside)

/-- White space throughout. -/
def Blank (cs : List Char) : Prop := ∀ c ∈ cs, isBlank c = true

/-- No white space at either end. -/
def Bare (cs : List Char) : Prop :=
  (∀ c, cs.head? = some c → isBlank c = false) ∧ ∀ c, cs.getLast? = some c → isBlank c = false

theorem bare_of_no_blank {cs : List Char} (plain : ∀ c ∈ cs, isBlank c = false) : Bare cs := by
  refine ⟨fun c first => ?_, fun c last => ?_⟩
  · exact plain c (List.mem_of_mem_head? first)
  · exact plain c (List.mem_of_getLast? last)

theorem trimStart_blank_append {blank : List Char} (white : Blank blank) (cs : List Char) :
    trimStart (blank ++ cs) = trimStart cs := by
  simp only [trimStart]
  exact List.dropWhile_append_of_pos white

theorem trimStart_of_head {cs : List Char} (first : ∀ c, cs.head? = some c → isBlank c = false) :
    trimStart cs = cs := by
  cases cs with
  | nil => rfl
  | cons c rest => simp [trimStart, first c rfl]

theorem trimEnd_append_blank {blank : List Char} (white : Blank blank) (cs : List Char) :
    trimEnd (cs ++ blank) = trimEnd cs := by
  have turned : Blank blank.reverse := fun c inside => white c (List.mem_reverse.mp inside)
  simp only [trimEnd, List.reverse_append]
  rw [List.dropWhile_append_of_pos turned]

theorem trimEnd_of_last {cs : List Char} (last : ∀ c, cs.getLast? = some c → isBlank c = false) :
    trimEnd cs = cs := by
  have turned : ∀ c, cs.reverse.head? = some c → isBlank c = false := by
    intro c first
    rw [List.head?_reverse] at first
    exact last c first
  have kept := trimStart_of_head turned
  rw [trimStart] at kept
  rw [trimEnd, kept, List.reverse_reverse]

/-! ## What is left of a text -/

theorem exists_trimStart (cs : List Char) : ∃ blank, Blank blank ∧ cs = blank ++ trimStart cs := by
  refine ⟨cs.takeWhile isBlank, fun c inside => List.mem_takeWhile_imp inside, ?_⟩
  exact List.takeWhile_append_dropWhile.symm

theorem exists_trimEnd (cs : List Char) : ∃ blank, Blank blank ∧ cs = trimEnd cs ++ blank := by
  obtain ⟨blank, white, turned⟩ := exists_trimStart cs.reverse
  refine ⟨blank.reverse, fun c inside => white c (List.mem_reverse.mp inside), ?_⟩
  have back := congrArg List.reverse turned
  simpa [trimStart, trimEnd] using back

theorem head_trimStart (cs : List Char) (c : Char) (first : (trimStart cs).head? = some c) :
    isBlank c = false := by
  have stopped := List.head?_dropWhile_not isBlank cs
  rw [trimStart] at first
  simpa [first] using stopped

theorem getLast_trimEnd (cs : List Char) (c : Char) (last : (trimEnd cs).getLast? = some c) :
    isBlank c = false := by
  rw [trimEnd, List.getLast?_reverse] at last
  exact head_trimStart _ c last

theorem bare_trim (cs : List Char) : Bare (trim cs) := by
  constructor
  · intro c first
    obtain ⟨blank, -, parts⟩ := exists_trimEnd (trimStart cs)
    have head : (trimStart cs).head? = some c := by
      rw [parts, List.head?_append, ← trim, first]
      rfl
    exact head_trimStart cs c head
  · exact getLast_trimEnd (trimStart cs)

/-- A text is what is left of it between two blank pieces. -/
theorem exists_trim (cs : List Char) :
    ∃ before after, Blank before ∧ Blank after ∧ cs = before ++ trim cs ++ after := by
  obtain ⟨before, whiteBefore, start⟩ := exists_trimStart cs
  obtain ⟨after, whiteAfter, stop⟩ := exists_trimEnd (trimStart cs)
  refine ⟨before, after, whiteBefore, whiteAfter, ?_⟩
  rw [trim, List.append_assoc, ← stop, ← start]

/-- What is left of a text is the only piece of it that is bare and has nothing but white space
    around it. -/
theorem trim_of_parts {before cs after : List Char} (whiteBefore : Blank before) (bare : Bare cs)
    (whiteAfter : Blank after) : trim (before ++ cs ++ after) = cs := by
  rw [trim, List.append_assoc, trimStart_blank_append whiteBefore]
  cases cs with
  | nil =>
    have gone := trimStart_blank_append whiteAfter []
    rw [List.append_nil] at gone
    rw [List.nil_append, gone]
    rfl
  | cons c rest =>
    have kept : trimStart (c :: rest ++ after) = c :: rest ++ after := trimStart_of_head bare.1
    rw [kept, trimEnd_append_blank whiteAfter, trimEnd_of_last bare.2]

theorem trim_of_bare {cs : List Char} (bare : Bare cs) : trim cs = cs := by
  have empty : Blank [] := nofun
  simpa using trim_of_parts empty bare empty

theorem trim_trim (cs : List Char) : trim (trim cs) = trim cs :=
  trim_of_bare (bare_trim cs)

theorem trim_blank_append {blank : List Char} (white : Blank blank) (cs : List Char) :
    trim (blank ++ cs) = trim cs := by
  rw [trim, trimStart_blank_append white, trim]

theorem trim_append_blank {blank : List Char} (white : Blank blank) (cs : List Char) :
    trim (cs ++ blank) = trim cs := by
  obtain ⟨before, after, whiteBefore, whiteAfter, parts⟩ := exists_trim cs
  have joined : cs ++ blank = before ++ trim cs ++ (after ++ blank) := by
    conv => lhs; rw [parts]
    simp only [List.append_assoc]
  rw [joined]
  exact trim_of_parts whiteBefore (bare_trim cs) (List.forall_mem_append.mpr ⟨whiteAfter, white⟩)

/-- White space is taken off at the two ends only, if there is anything else between them. -/
theorem trim_around {middle : List Char} (bare : Bare middle) (nonempty : middle ≠ [])
    (left right : List Char) :
    trim (left ++ middle ++ right) = trimStart left ++ middle ++ trimEnd right := by
  obtain ⟨before, whiteBefore, start⟩ := exists_trimStart left
  obtain ⟨after, whiteAfter, stop⟩ := exists_trimEnd right
  have parts : left ++ middle ++ right =
      before ++ (trimStart left ++ middle ++ trimEnd right) ++ after := by
    conv => lhs; rw [start, stop]
    simp only [List.append_assoc]
  rw [parts]
  apply trim_of_parts whiteBefore _ whiteAfter
  constructor
  · intro c first
    simp only [List.head?_append, Option.or_eq_some_iff, Option.or_eq_none_iff,
      List.head?_eq_none_iff] at first
    rcases first with (before | ⟨-, within⟩) | ⟨⟨-, nowhere⟩, -⟩
    · exact head_trimStart left c before
    · exact bare.1 c within
    · contradiction
  · intro c last
    simp only [List.getLast?_append, Option.or_eq_some_iff, List.getLast?_eq_none_iff] at last
    rcases last with behind | ⟨-, within | ⟨nowhere, -⟩⟩
    · exact getLast_trimEnd right c behind
    · exact bare.2 c within
    · contradiction

theorem trim_trimStart (cs : List Char) : trim (trimStart cs) = trim cs := by
  obtain ⟨before, white, parts⟩ := exists_trimStart cs
  conv => rhs; rw [parts, trim_blank_append white]

theorem trim_trimEnd (cs : List Char) : trim (trimEnd cs) = trim cs := by
  obtain ⟨after, white, parts⟩ := exists_trimEnd cs
  conv => rhs; rw [parts, trim_append_blank white]

/-! ## Upper case -/

/-- The codes of white space beyond ASCII, of the two letters beyond ASCII that have an upper-case
    character in it, and of no character. -/
def heldOut : List (Nat × Nat) :=
  [(0x85, 0x85), (0xA0, 0xA0), (0x131, 0x131), (0x17F, 0x17F), (0x1680, 0x1680), (0x2000, 0x200A),
    (0x2028, 0x2029), (0x202F, 0x202F), (0x205F, 0x205F), (0x3000, 0x3000), (0xD800, 0xDFFF)]

/-- A code beyond ASCII that is not held out. -/
def Settled (code : Nat) : Prop :=
  0x7F < code ∧ code < 0x110000 ∧ ∀ held ∈ heldOut, code < held.1 ∨ held.2 < code

/-- Seen from its ends, what a run leads to lies beyond ASCII, and wholly before or behind what is
    held out. -/
def CaseRun.Settles (run : CaseRun) : Prop :=
  0x7F < run.low + run.shift ∧ run.high + run.shift < 0x110000 ∧
    ∀ held ∈ heldOut, run.high + run.shift < (held.1 : Int) ∨ (held.2 : Int) < run.low + run.shift

instance CaseRun.decidableSettles (run : CaseRun) : Decidable run.Settles :=
  inferInstanceAs (Decidable (_ ∧ _))

theorem caseRuns_settle : ∀ run ∈ caseRuns, 128 ≤ run.high →
    run = ⟨0x131, 0x131, 1, -232⟩ ∨ run = ⟨0x17F, 0x17F, 1, -300⟩ ∨ run.Settles := by
  have checked : ∀ run ∈ caseRuns, 128 ≤ run.high →
      (run.low = 0x131 ∧ run.high = 0x131 ∧ run.stride = 1 ∧ run.shift = -232) ∨
      (run.low = 0x17F ∧ run.high = 0x17F ∧ run.stride = 1 ∧ run.shift = -300) ∨ run.Settles := by
    decide +kernel
  intro run listed high
  rcases checked run listed high with
    ⟨low, top, stride, shift⟩ | ⟨low, top, stride, shift⟩ | settles
  · cases run
    simp_all
  · cases run
    simp_all
  · exact .inr (.inr settles)

theorem CaseRun.Settles.settled {run : CaseRun} (settles : run.Settles) {code : Nat}
    (above : run.low ≤ code) (below : code ≤ run.high) : Settled (code + run.shift).toNat := by
  obtain ⟨low, high, outside⟩ := settles
  refine ⟨by omega, by omega, fun held listed => ?_⟩
  rcases outside held listed with before | behind
  · exact .inl (by omega)
  · exact .inr (by omega)

theorem Settled.toNat_ofNat {code : Nat} (settled : Settled code) :
    (Char.ofNat code).toNat = code := by
  obtain ⟨-, bound, outside⟩ := settled
  have valid : code.isValidChar := by
    rcases outside (0xD800, 0xDFFF) (by decide) with before | behind
    · exact .inl before
    · exact .inr ⟨behind, bound⟩
  rw [Char.ofNat, dif_pos valid]
  rfl

theorem isBlank_of_settled {c : Char} (settled : Settled c.toNat) : isBlank c = false := by
  obtain ⟨low, -, outside⟩ := settled
  simp [heldOut] at outside
  by_contra white
  simp [isBlank, Char.le_def, UInt32.le_iff_toNat_le, ← Char.toNat_inj] at white
  omega

/-- Beyond ASCII, only the dotless i and the long s have upper-case characters in ASCII. Every other
    character there is its own upper-case character or has a settled one. -/
theorem upperChar_cases (c : Char) :
    (c.toNat < 128 ∧ upperChar c = c.toUpper) ∨ (c = '\u0131' ∧ upperChar c = 'I') ∨
      (c = '\u017F' ∧ upperChar c = 'S') ∨ upperChar c = c ∨ Settled (upperChar c).toNat := by
  rw [upperChar]
  split
  · rename_i ascii
    exact .inl ⟨UInt32.lt_iff_toNat_lt.mp ascii, rfl⟩
  · rename_i beyond
    have high : 128 ≤ c.toNat := Nat.le_of_not_lt fun low => beyond (UInt32.lt_iff_toNat_lt.mpr low)
    split
    · rename_i run found
      have covered := List.find?_some found
      simp only [CaseRun.covers, Bool.and_eq_true, decide_eq_true_eq] at covered
      obtain ⟨⟨above, below⟩, -⟩ := covered
      rcases caseRuns_settle run (List.mem_of_find?_eq_some found) (by omega) with
        rfl | rfl | settles
      · have code : c = '\u0131' := Char.toNat_inj.mp (Nat.le_antisymm below above)
        subst code
        exact .inr (.inl ⟨rfl, by decide⟩)
      · have code : c = '\u017F' := Char.toNat_inj.mp (Nat.le_antisymm below above)
        subst code
        exact .inr (.inr (.inl ⟨rfl, by decide⟩))
      · have settled := settles.settled above below
        refine .inr (.inr (.inr (.inr ?_)))
        rwa [settled.toNat_ofNat]
    · exact .inr (.inr (.inr (.inl rfl)))

theorem isBlank_upperChar {c : Char} (plain : isBlank c = false) :
    isBlank (upperChar c) = false := by
  rcases upperChar_cases c with ⟨ascii, upper⟩ | ⟨-, upper⟩ | ⟨-, upper⟩ | upper | settled
  · have checked : ∀ c : Char, c.toNat < 128 → isBlank c = false → isBlank c.toUpper = false :=
      forall_ascii (by decide +kernel)
    rw [upper]
    exact checked c ascii plain
  · rw [upper]
    decide
  · rw [upper]
    decide
  · rwa [upper]
  · exact isBlank_of_settled settled

/-- A character that is in ASCII after it was turned to upper case twice did not change the second
    time. -/
theorem upperChar_upperChar {c : Char} (ascii : (upperChar (upperChar c)).toNat < 128) :
    upperChar (upperChar c) = upperChar c := by
  rcases upperChar_cases c with ⟨low, upper⟩ | ⟨-, upper⟩ | ⟨-, upper⟩ | upper | settled
  · have checked : ∀ c : Char, c.toNat < 128 → upperChar c.toUpper = c.toUpper :=
      forall_ascii (by decide +kernel)
    rw [upper]
    exact checked c low
  · rw [upper]
    decide
  · rw [upper]
    decide
  · rw [upper, upper]
  · have outside := settled.2.2
    rcases upperChar_cases (upperChar c) with ⟨low, -⟩ | ⟨same, -⟩ | ⟨same, -⟩ | same | again
    · have high := settled.1
      omega
    · rw [same] at outside
      exact absurd (outside (0x131, 0x131) (by decide)) (by decide)
    · rw [same] at outside
      exact absurd (outside (0x17F, 0x17F) (by decide)) (by decide)
    · exact same
    · have high := again.1
      omega

theorem upper_upper {cs : List Char} (ascii : ∀ c ∈ upper (upper cs), c.toNat < 128) :
    upper (upper cs) = upper cs := by
  have same : ∀ d ∈ upper cs, upperChar d = d := by
    intro d inside
    obtain ⟨c, -, rfl⟩ := List.mem_map.mp inside
    exact upperChar_upperChar (ascii _ (List.mem_map.mpr ⟨_, inside, rfl⟩))
  conv => rhs; rw [← List.map_id (upper cs)]
  exact List.map_congr_left same

theorem bare_upper {cs : List Char} (bare : Bare cs) : Bare (upper cs) := by
  constructor
  · intro d first
    rw [upper, List.head?_map, Option.map_eq_some_iff] at first
    obtain ⟨c, head, rfl⟩ := first
    exact isBlank_upperChar (bare.1 c head)
  · intro d last
    rw [upper, List.getLast?_map, Option.map_eq_some_iff] at last
    obtain ⟨c, final, rfl⟩ := last
    exact isBlank_upperChar (bare.2 c final)

/-- The codes of white space. -/
def blankCodes : List Nat :=
  List.range' 0x9 5 ++ [0x20, 0x85, 0xA0, 0x1680] ++ List.range' 0x2000 11 ++
    [0x2028, 0x2029, 0x202F, 0x205F, 0x3000]

theorem mem_blankCodes {c : Char} (white : isBlank c = true) : c.toNat ∈ blankCodes := by
  simp [isBlank, Char.le_def, UInt32.le_iff_toNat_le, ← Char.toNat_inj] at white
  simp only [blankCodes, List.mem_append, List.mem_range'_1, List.mem_cons, List.not_mem_nil,
    or_false]
  omega

theorem upperChar_of_blank {c : Char} (white : isBlank c = true) : upperChar c = c := by
  have checked : ∀ code ∈ blankCodes, upperChar (Char.ofNat code) = Char.ofNat code := by
    decide +kernel
  have same := checked c.toNat (mem_blankCodes white)
  rwa [Char.ofNat_toNat] at same

theorem upper_of_blank {blank : List Char} (white : Blank blank) : upper blank = blank := by
  conv => rhs; rw [← List.map_id blank]
  exact List.map_congr_left fun c inside => upperChar_of_blank (white c inside)

/-- White space is the same before and after a text is turned to upper case. -/
theorem trim_upper (cs : List Char) : trim (upper cs) = upper (trim cs) := by
  obtain ⟨before, after, whiteBefore, whiteAfter, parts⟩ := exists_trim cs
  have raised : upper cs = before ++ upper (trim cs) ++ after := by
    conv => lhs; rw [parts]
    rw [upper, List.map_append, List.map_append, ← upper, ← upper, ← upper,
      upper_of_blank whiteBefore, upper_of_blank whiteAfter]
  rw [raised, trim_of_parts whiteBefore (bare_upper (bare_trim cs)) whiteAfter]

end WordMachine.Text
