import WordMachine.Debug.Condition
import WordMachine.Proofs.Numerals

/-!
Conditions as texts. A condition is what stands before an operator, the operator, and what stands
behind it (`Condition.Written`). Neither a name of something to look at nor a numeral contains a
character that occurs in an operator, so the search finds the one operator of a condition, at the
one place where it stands, whatever the order of the search (`Condition.split?_around`). Hence
exactly the conditions are read, in one way each (`Condition.parse_exactly_written`), and what is
read back from the text of a condition is that condition (`Condition.parse_undoes_text`).
-/

namespace WordMachine

/-! ## What stands before the operator -/

namespace Subject

/-- The registers that a condition can name. -/
def registerNames : List String := ["R0", "R1", "R2", "R3", "R4", "R5", "R6", "R7", "PC", "SP"]

/-- The texts that name something to look at. -/
inductive Named : List Char → Subject → Prop where
  | register {cs} (known : String.ofList (Text.upper cs) ∈ registerNames) :
    Named cs (.register (String.ofList (Text.upper cs)))
  | hitCount {cs} (letters : cs.map Char.toLower = "hitcount".toList) : Named cs .hitCount
  | memory {inner address} (read : Numeral.readChars inner = .number address)
    (inside : address.toNat < 32768) : Named ('[' :: (inner ++ [']'])) (.memory address)

theorem bracketed?_eq_some_iff {cs inner : List Char} :
    bracketed? cs = some inner ↔ cs = '[' :: (inner ++ [']']) := by
  unfold bracketed?
  split
  · rename_i rest
    constructor
    · intro cut
      split at cut
      · rename_i last
        cases cut
        rw [List.dropLast_append_getLast? ']' last]
      · cases cut
    · intro whole
      have same : rest = inner ++ [']'] := List.tail_eq_of_cons_eq whole
      simp [same]
  · rename_i other
    constructor
    · nofun
    · intro whole
      exact absurd whole (other _)

theorem foldChar_eq_toLower {c : Char}
    (letter : Text.foldChar c ∈ "hitcount".toList ∨ c.toLower ∈ "hitcount".toList) :
    Text.foldChar c = c.toLower := by
  rw [Text.foldChar] at letter ⊢
  by_cases long : c = '\u017F'
  · subst c
    exact absurd letter (by decide)
  · by_cases kelvin : c = '\u212A'
    · subst c
      exact absurd letter (by decide)
    · rw [if_neg long, if_neg kelvin]

/-- The letters of `hitcount` have no forms beyond ASCII. -/
theorem sameLetters_hitCount_iff {cs : List Char} :
    Text.sameLetters cs "hitcount".toList = true ↔ cs.map Char.toLower = "hitcount".toList := by
  have plain : "hitcount".toList.map Text.foldChar = "hitcount".toList := by decide
  rw [Text.sameLetters, plain, beq_iff_eq]
  constructor
  · intro folded
    rw [← folded]
    apply List.map_congr_left
    intro c inside
    refine (foldChar_eq_toLower (.inl ?_)).symm
    rw [← folded]
    exact List.mem_map_of_mem inside
  · intro lower
    rw [← lower]
    apply List.map_congr_left
    intro c inside
    refine foldChar_eq_toLower (.inr ?_)
    rw [← lower]
    exact List.mem_map_of_mem inside

theorem length_registerName : ∀ name ∈ registerNames, name.toList.length = 2 := by
  decide

theorem ascii_registerName {name : String} (listed : name ∈ registerNames) :
    ∀ c ∈ name.toList, c.toNat < 128 := by
  have checked : ∀ name ∈ registerNames,
      (name.toList.all fun c => c.toNat < 128) = true := by decide
  exact Text.forall_mem_of_all (checked name listed)

theorem name_mem_registerNames : ∀ index, Registers.name index ∈ registerNames := by
  decide

theorem known_of_mem : ∀ name ∈ registerNames,
    (Registers.named? name).isSome ∨ name = "PC" ∨ name = "SP" := by
  decide +kernel

/-- A name is turned to upper case twice on its way to the table of registers. It is there exactly
    if it is a register's name the first time. -/
theorem known_iff {cs : List Char} (bare : Text.Bare cs) {name : String}
    (raised : name = String.ofList (Text.upper cs)) :
    ((Registers.named? name).isSome ∨ name = "PC" ∨ name = "SP") ↔ name ∈ registerNames := by
  constructor
  · rintro (found | counter | pointer)
    · obtain ⟨index, named⟩ := Option.isSome_iff_exists.mp found
      have same := List.find?_some named
      rw [beq_iff_eq, raised, String.toList_ofList,
        Text.trim_of_bare (Text.bare_upper bare)] at same
      have listed := name_mem_registerNames index
      have ascii : ∀ c ∈ Text.upper (Text.upper cs), c.toNat < 128 := by
        rw [← same]
        exact ascii_registerName listed
      rwa [raised, ← Text.upper_upper ascii, ← same, String.ofList_toList]
    · rw [counter]
      decide
    · rw [pointer]
      decide
  · exact known_of_mem _

theorem parse_of_named {cs : List Char} {subject : Subject} (bare : Text.Bare cs)
    (named : Named cs subject) : parse cs = .ok subject := by
  cases named with
  | register known =>
    have unbracketed : bracketed? cs = none := by
      rw [Option.eq_none_iff_forall_ne_some]
      intro inner cut
      have plain : ∀ name ∈ registerNames, '[' ∉ name.toList := by decide
      apply plain _ known
      rw [bracketed?_eq_some_iff.mp cut, String.toList_ofList]
      exact List.mem_cons_self
    have letters : Text.sameLetters cs "hitcount".toList = false := by
      rw [Bool.eq_false_iff, ne_eq, sameLetters_hitCount_iff]
      intro lower
      have long := congrArg List.length lower
      have short := length_registerName _ known
      simp [Text.upper] at long short
      omega
    have found := (known_iff bare rfl).mpr known
    simp only [parse, unbracketed, letters, Bool.false_eq_true, if_false]
    exact if_pos found
  | hitCount lower =>
    have unbracketed : bracketed? cs = none := by
      rw [Option.eq_none_iff_forall_ne_some]
      intro inner cut
      rw [bracketed?_eq_some_iff.mp cut] at lower
      cases lower
    simp only [parse, unbracketed, sameLetters_hitCount_iff.mpr lower, if_true]
  | @memory inner address read inside =>
    have cut : bracketed? ('[' :: (inner ++ [']'])) = some inner := bracketed?_eq_some_iff.mpr rfl
    simp only [parse, cut, read, if_pos inside]

theorem named_of_parse {cs : List Char} {subject : Subject} (bare : Text.Bare cs)
    (read : parse cs = .ok subject) : Named cs subject := by
  unfold parse at read
  split at read
  · rename_i inner cut
    split at read
    · rename_i address number
      split at read
      · rename_i inside
        cases read
        rw [bracketed?_eq_some_iff.mp cut]
        exact .memory number inside
      · cases read
    · cases read
  · split at read
    · rename_i letters
      cases read
      exact .hitCount (sameLetters_hitCount_iff.mp letters)
    · dsimp only at read
      split at read
      · rename_i known
        cases read
        exact .register ((known_iff bare rfl).mp known)
      · cases read

end Subject

/-! ## Characters of operators -/

/-- The characters that operators are made of. -/
def Comparison.characters : List Char := ['=', '!', '<', '>']

/-- No character of an operator. -/
def FreeOfSigns (cs : List Char) : Prop := ∀ c ∈ cs, c ∉ Comparison.characters

theorem Comparison.isBlank_character : ∀ c ∈ characters, Text.isBlank c = false :=
  Text.forall_mem_of_all (by decide)

theorem freeOfSigns_of_trim {cs : List Char} (free : FreeOfSigns (Text.trim cs)) :
    FreeOfSigns cs := by
  obtain ⟨before, after, whiteBefore, whiteAfter, parts⟩ := Text.exists_trim cs
  have blank : ∀ {c}, Text.isBlank c = true → c ∉ Comparison.characters := by
    intro c white sign
    rw [Comparison.isBlank_character c sign] at white
    cases white
  intro c inside
  rw [parts] at inside
  rcases List.mem_append.mp inside with front | last
  · rcases List.mem_append.mp front with first | middle
    · exact blank (whiteBefore c first)
    · exact free c middle
  · exact blank (whiteAfter c last)

theorem freeOfSigns_of_number {cs : List Char} {n : UInt64}
    (read : Numeral.readChars cs = .number n) : FreeOfSigns cs := by
  have apart : ∀ c ∈ Numeral.alphabet, c ∉ Comparison.characters :=
    Text.forall_mem_of_all (by decide)
  apply freeOfSigns_of_trim
  intro c inside
  exact apart c ((Numeral.readChars_eq_number_iff.mp read).within_alphabet inside)

theorem Subject.Named.freeOfSigns {cs : List Char} {subject : Subject} (named : Named cs subject) :
    FreeOfSigns cs := by
  cases named with
  | register known =>
    have checked : ∀ name ∈ registerNames,
        (Comparison.characters.all fun c => Text.upperChar c ∉ name.toList) = true := by decide
    intro c inside sign
    apply Text.forall_mem_of_all (checked _ known) c sign
    rw [String.toList_ofList]
    exact List.mem_map_of_mem inside
  | hitCount lower =>
    have apart : ∀ c ∈ Comparison.characters, c.toLower ∉ "hitcount".toList :=
      Text.forall_mem_of_all (by decide)
    intro c inside sign
    apply apart c sign
    rw [← lower]
    exact List.mem_map_of_mem inside
  | memory read =>
    have brackets : ∀ c ∈ ['[', ']'], c ∉ Comparison.characters :=
      Text.forall_mem_of_all (by decide)
    intro c inside
    rcases List.mem_cons.mp inside with rfl | rest
    · exact brackets _ (by simp)
    · rcases List.mem_append.mp rest with within | last
      · exact freeOfSigns_of_number read c within
      · exact brackets c (by simp_all)

/-! ## The search for the operator -/

namespace Condition

theorem cut?_append {first : Char} {more front : List Char} (absent : first ∉ front)
    (rest : List Char) :
    cut? (first :: more) (front ++ rest) =
      (cut? (first :: more) rest).map fun parts => (front ++ parts.1, parts.2) := by
  induction front with
  | nil => simp
  | cons c front ih =>
    obtain ⟨differs, later⟩ := not_or.mp (mt List.mem_cons.mpr absent)
    have notHere : (first :: more).isPrefixOf (c :: (front ++ rest)) = false := by
      simp [List.isPrefixOf, differs]
    rw [List.cons_append, cut?, notHere, ih later, Option.map_map]
    rfl

theorem cut?_of_absent {first : Char} {more cs : List Char} (absent : first ∉ cs) :
    cut? (first :: more) cs = none := by
  have found : cut? (first :: more) (cs ++ []) = none := by
    rw [cut?_append absent]
    rfl
  rwa [List.append_nil] at found

theorem cut?_sound {sign cs left right : List Char} (cut : cut? sign cs = some (left, right)) :
    cs = left ++ sign ++ right := by
  induction cs generalizing left with
  | nil =>
    rw [cut?] at cut
    split at cut
    · rename_i empty
      cases cut
      rw [List.isEmpty_iff.mp empty]
      rfl
    · cases cut
  | cons c rest ih =>
    rw [cut?] at cut
    split at cut
    · rename_i here
      cases cut
      obtain ⟨behind, whole⟩ := List.isPrefixOf_iff_prefix.mp here
      rw [← whole, List.drop_left]
      rfl
    · obtain ⟨parts, found, same⟩ := Option.map_eq_some_iff.mp cut
      cases same
      rw [ih found]
      rfl

/-- What the search gives makes up the text it was given. -/
theorem split?_sound {cs left right : List Char} {comparison : Comparison}
    (split : split? cs = some (comparison, left, right)) :
    cs = left ++ comparison.sign ++ right := by
  obtain ⟨candidate, -, found⟩ := List.exists_of_findSome?_eq_some split
  obtain ⟨parts, cut, same⟩ := Option.map_eq_some_iff.mp found
  cases same
  exact cut?_sound cut

/-- An operator at the front is found there. None of those that are looked for before it begins
    inside it, as long as no `=` follows. -/
theorem split?_front {right : List Char} (free : FreeOfSigns right) (comparison : Comparison) :
    split? (comparison.sign ++ right) = some (comparison, [], right) := by
  have absent : ∀ c ∈ Comparison.characters, ∀ more, cut? (c :: more) right = none :=
    fun c sign more => cut?_of_absent fun inside => free c inside sign
  simp only [Comparison.characters, List.forall_mem_cons] at absent
  obtain ⟨equals, bang, below, above, -⟩ := absent
  have noEquals : List.isPrefixOf ['='] right = false := by
    cases right with
    | nil => rfl
    | cons c rest =>
      have differs : c ≠ '=' := fun same => free c List.mem_cons_self (same ▸ by decide)
      simp [List.isPrefixOf, differs.symm]
  cases comparison <;>
    simp only [split?, Comparison.searchOrder, List.findSome?_cons, Comparison.sign,
      List.cons_append, List.nil_append] <;>
    simp [cut?, List.isPrefixOf, noEquals, equals, bang, below, above]

/-- A text without characters of operators moves what is found behind it. -/
theorem split?_append {left : List Char} (free : FreeOfSigns left) (rest : List Char) :
    split? (left ++ rest) =
      (split? rest).map fun parts => (parts.1, left ++ parts.2.1, parts.2.2) := by
  have absent : ∀ c ∈ Comparison.characters, c ∉ left := fun c sign inside => free c inside sign
  have moved : ∀ candidate : Comparison, cut? candidate.sign (left ++ rest) =
      (cut? candidate.sign rest).map fun parts => (left ++ parts.1, parts.2) := by
    intro candidate
    cases candidate <;> exact cut?_append (absent _ (by decide)) rest
  rw [split?, split?, List.map_findSome?]
  congr
  funext candidate
  simp [moved, Function.comp_def]

/-- Between texts without characters of operators, the search finds the operator that stands
    there. -/
theorem split?_around {left right : List Char} (freeLeft : FreeOfSigns left)
    (freeRight : FreeOfSigns right) (comparison : Comparison) :
    split? (left ++ comparison.sign ++ right) = some (comparison, left, right) := by
  rw [List.append_assoc, split?_append freeLeft, split?_front freeRight]
  simp

/-! ## Reading conditions -/

/-- A text that is a condition, and what stands before and behind its operator. -/
structure Written (cs left right : List Char) (condition : Condition) : Prop where
  parts : cs = left ++ condition.comparison.sign ++ right
  subject : Subject.Named (Text.trim left) condition.subject
  value : Numeral.readChars right = .number condition.value

theorem Written.split {cs left right : List Char} {condition : Condition}
    (written : Written cs left right condition) :
    split? cs = some (condition.comparison, left, right) := by
  rw [written.parts]
  exact split?_around (freeOfSigns_of_trim written.subject.freeOfSigns)
    (freeOfSigns_of_number written.value) condition.comparison

theorem Written.unique {cs left right left' right' : List Char} {condition condition' : Condition}
    (written : Written cs left right condition) (again : Written cs left' right' condition') :
    left = left' ∧ right = right' ∧ condition = condition' := by
  have same := written.split.symm.trans again.split
  cases condition with
  | mk subject comparison value =>
  cases condition' with
  | mk subject' comparison' value' =>
    cases same
    have subjects := (Subject.parse_of_named (Text.bare_trim left) written.subject).symm.trans
      (Subject.parse_of_named (Text.bare_trim left) again.subject)
    have values := written.value.symm.trans again.value
    cases subjects
    cases values
    exact ⟨rfl, rfl, rfl⟩

theorem bare_sign (comparison : Comparison) : Text.Bare comparison.sign := by
  apply Text.bare_of_no_blank
  apply Text.forall_mem_of_all
  cases comparison <;> decide

theorem sign_ne_nil (comparison : Comparison) : comparison.sign ≠ [] := by
  cases comparison <;> decide

theorem parse_of_written {text : String} {left right : List Char} {condition : Condition}
    (written : Written text.toList left right condition) : parse text = .ok condition := by
  have trimmed : Text.trim text.toList =
      Text.trimStart left ++ condition.comparison.sign ++ Text.trimEnd right := by
    rw [written.parts]
    exact Text.trim_around (bare_sign _) (sign_ne_nil _) left right
  have inner : Written (Text.trim text.toList) (Text.trimStart left) (Text.trimEnd right)
      condition := by
    refine ⟨trimmed, ?_, ?_⟩
    · rw [Text.trim_trimStart]
      exact written.subject
    · rw [Numeral.readChars, Text.trim_trimEnd]
      exact written.value
  have nonempty : (Text.trim text.toList).isEmpty = false := by
    simp [trimmed, sign_ne_nil]
  have value : Numeral.readChars (Text.trim (Text.trimEnd right)) = .number condition.value := by
    rw [Numeral.readChars, Text.trim_trim]
    exact inner.value
  have subject := Subject.parse_of_named (Text.bare_trim _) inner.subject
  simp only [parse, parseTrimmed, nonempty, inner.split, value, subject]
  rfl

theorem written_of_parse {text : String} {condition : Condition}
    (read : parse text = .ok condition) :
    ∃ left right, Written text.toList left right condition := by
  obtain ⟨before, after, whiteBefore, whiteAfter, parts⟩ := Text.exists_trim text.toList
  rw [parse, parseTrimmed] at read
  split at read
  · cases read
  · split at read
    · cases read
    · rename_i comparison left right found
      dsimp only at read
      split at read
      · rename_i value number
        cases subject : Subject.parse (Text.trim left) with
        | error error =>
          rw [subject] at read
          cases read
        | ok subject =>
          rw [subject] at read
          cases read
          -- White space at the ends of the whole text belongs to the two sides.
          refine ⟨before ++ left, right ++ after, ?_, ?_, ?_⟩
          · conv => lhs; rw [parts, split?_sound found]
            simp only [List.append_assoc]
          · rw [Text.trim_blank_append whiteBefore]
            exact Subject.named_of_parse (Text.bare_trim left) subject
          · rw [Numeral.readChars, Text.trim_append_blank whiteAfter]
            rw [Numeral.readChars, Text.trim_trim] at number
            exact number
      · cases read

theorem parse_eq_ok_iff {text : String} {condition : Condition} :
    parse text = .ok condition ↔ ∃ left right, Written text.toList left right condition := by
  constructor
  · exact written_of_parse
  · rintro ⟨left, right, written⟩
    exact parse_of_written written

/-- Exactly the conditions are read, each in one way. A text is read as a condition if and only if
    it is made up of a left side that names the subject, the operator and a numeral of the value,
    and there is no other such way to cut it. Every piece that the reader takes out of a text is
    there: what the search gives makes up the text, and a text that begins and ends with brackets
    has an inside. -/
theorem parse_exactly_written :
    (∀ text condition,
      parse text = .ok condition ↔ ∃ left right, Written text.toList left right condition) ∧
    (∀ cs left right condition left' right' condition', Written cs left right condition →
      Written cs left' right' condition' →
      left = left' ∧ right = right' ∧ condition = condition') ∧
    (∀ cs comparison left right, split? cs = some (comparison, left, right) →
      cs = left ++ comparison.sign ++ right) ∧
    ∀ cs, cs.head? = some '[' → cs.getLast? = some ']' →
      ∃ inner, cs = '[' :: (inner ++ [']']) ∧ Subject.bracketed? cs = some inner := by
  refine ⟨fun text condition => parse_eq_ok_iff, ?_, ?_, ?_⟩
  · intro cs left right condition left' right' condition' written again
    exact written.unique again
  · intro cs comparison left right found
    exact split?_sound found
  · intro cs first last
    obtain ⟨rest, rfl⟩ := List.head?_eq_some_iff.mp first
    cases rest with
    | nil => cases last
    | cons c more =>
      rw [List.getLast?_cons_cons] at last
      have whole := List.dropLast_append_getLast? ']' last
      refine ⟨(c :: more).dropLast, by rw [whole], ?_⟩
      rw [Subject.bracketed?_eq_some_iff, whole]

/-- The long s is a lower-case form of `S`, and `<=` is not taken for `<`. There is nothing between
    the brackets of the shortest text in brackets. -/
theorem parse_exactly_written_long_s :
    parse " \u017Fp<=$fF " = .ok ⟨.register "SP", .lessEqual, 255⟩ ∧
      ¬ Written " \u017Fp<=$fF ".toList " \u017Fp".toList "=$fF ".toList
        ⟨.register "SP", .less, 255⟩ ∧
      Subject.bracketed? "[]".toList = some [] := by
  obtain ⟨read, unique, -, inside⟩ := parse_exactly_written
  have name : String.ofList (Text.upper (Text.trim " \u017Fp".toList)) = "SP" := by decide +kernel
  have named : Subject.Named (Text.trim " \u017Fp".toList) (.register "SP") := by
    rw [← name]
    exact .register (by rw [name]; decide)
  have written : Written " \u017Fp<=$fF ".toList " \u017Fp".toList "$fF ".toList
      ⟨.register "SP", .lessEqual, 255⟩ := ⟨by decide, named, by decide⟩
  refine ⟨(read _ _).mpr ⟨_, _, written⟩, fun other => ?_, ?_⟩
  · obtain ⟨-, rights, -⟩ := unique _ _ _ _ _ _ _ written other
    exact absurd rights (by decide)
  · obtain ⟨inner, whole, cut⟩ := inside "[]".toList rfl rfl
    have empty : inner = [] := by simpa using whole.symm
    rw [cut, empty]

/-! ## Writing conditions -/

end Condition

namespace Subject

/-- The subjects that texts can name. -/
def Nameable : Subject → Prop
  | register name => name ∈ registerNames
  | memory address => address.toNat < 32768
  | hitCount => True
  | nothing => False

theorem Named.nameable {cs : List Char} {subject : Subject} (named : Named cs subject) :
    subject.Nameable := by
  cases named with
  | register known => exact known
  | hitCount => trivial
  | memory _ inside => exact inside

theorem named_text {subject : Subject} (nameable : subject.Nameable) :
    Named (Text.trim subject.text.toList) subject := by
  cases subject with
  | register name =>
    have kept : ∀ name ∈ registerNames,
        String.ofList (Text.upper (Text.trim name.toList)) = name := by decide +kernel
    have same := kept name nameable
    have known : String.ofList (Text.upper (Text.trim name.toList)) ∈ registerNames := by
      rw [same]
      exact nameable
    have named := Named.register known
    rwa [same] at named
  | memory address =>
    have written : (text (.memory address)).toList =
        '[' :: '$' :: (Numeral.hex 4 address.toNat).toList ++ [']'] := by
      simp [text]
    have bare : Text.Bare (text (.memory address)).toList := by
      rw [written]
      constructor
      · rintro _ ⟨⟩
        decide
      · intro c last
        rw [List.getLast?_concat] at last
        cases last
        decide
    have denotes := Numeral.denotes_hex 4 address.toNat
    have read :
        Numeral.readChars ('$' :: (Numeral.hex 4 address.toNat).toList) = .number address := by
      rw [Numeral.readChars_eq_number_iff, Text.trim_of_bare denotes.bare]
      exact denotes
    rw [Text.trim_of_bare bare, written]
    exact .memory read nameable
  | hitCount => exact .hitCount (by decide)
  | nothing => exact nameable.elim

end Subject

namespace Condition

theorem written_text {condition : Condition} (nameable : condition.subject.Nameable) :
    ∃ left right, Written condition.text.toList left right condition := by
  have denotes := Numeral.denotes_hex 1 condition.value.toNat
  refine ⟨condition.subject.text.toList,
    '$' :: (Numeral.hex 1 condition.value.toNat).toList, ?_, Subject.named_text nameable, ?_⟩
  · simp [text]
  · rw [Numeral.readChars_eq_number_iff, Text.trim_of_bare denotes.bare]
    exact denotes

/-- Reading undoes writing. A condition whose subject can be named is read back from its text, and
    no other conditions are read from any text, so that writing what was read and reading it again
    changes nothing. -/
theorem parse_undoes_text :
    (∀ condition : Condition, condition.subject.Nameable → parse condition.text = .ok condition) ∧
    ∀ text condition, parse text = .ok condition →
      condition.subject.Nameable ∧ parse condition.text = parse text := by
  have back : ∀ condition : Condition, condition.subject.Nameable →
      parse condition.text = .ok condition := fun condition nameable =>
    parse_eq_ok_iff.mpr (written_text nameable)
  refine ⟨back, fun text condition read => ?_⟩
  obtain ⟨left, right, written⟩ := parse_eq_ok_iff.mp read
  have nameable := written.subject.nameable
  exact ⟨nameable, (back condition nameable).trans read.symm⟩

/-- The last address and the largest number, and a text that is not the one written for what it is
    read as. -/
theorem parse_undoes_text_at_limits :
    parse (text ⟨.memory 32767, .greaterEqual, 18446744073709551615⟩) =
        .ok ⟨.memory 32767, .greaterEqual, 18446744073709551615⟩ ∧
      parse "HitCount != #07" = .ok ⟨.hitCount, .notEqual, 7⟩ ∧
      parse (text ⟨.hitCount, .notEqual, 7⟩) = parse "HitCount != #07" := by
  obtain ⟨back, again⟩ := parse_undoes_text
  have read : parse "HitCount != #07" = .ok ⟨.hitCount, .notEqual, 7⟩ := by decide +kernel
  refine ⟨back _ ?_, read, (again _ _ read).2⟩
  show (32767 : UInt64).toNat < 32768
  decide

end Condition

end WordMachine
