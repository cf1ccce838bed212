import WordMachine.Proofs.Reachable

/-!
Program files. An image of `n` bytes has `(n + 1) / 2` words, and it is read exactly if these fit
into memory (`decode_eq_ok`, `decode_eq_error`). So the reader takes no program that memory would
refuse. Loading a file therefore either gives the machine that the same words give when they are
the first thing ever loaded, or leaves the machine as it is
(`loadFile_anew_or_unchanged`).
-/

namespace WordMachine

namespace Program

/-- The words of an image, whatever their number. -/
def wordsOf : List UInt8 → List UInt16
  | low :: high :: rest => word low high :: wordsOf rest
  | [low] => [word low 0]
  | [] => []

theorem length_wordsOf (bytes : List UInt8) : (wordsOf bytes).length = (bytes.length + 1) / 2 := by
  fun_induction wordsOf bytes with
  | case1 low high rest ih =>
    simp only [List.length_cons, ih]
    omega
  | case2 low => simp
  | case3 => simp

/-- The words fit into memory exactly if there are no more than twice as many bytes. -/
theorem wordsOf_fits_iff (bytes : List UInt8) :
    (wordsOf bytes).length ≤ addressSpace ↔ bytes.length ≤ 2 * addressSpace := by
  rw [length_wordsOf]
  omega

/-- Words are read behind those read before as long as all of them fit. One word too many is
    noticed as soon as it is read. -/
theorem decodeInto_none (out : Array UInt16) (count : Nat) (bytes : List UInt8)
    (before : count ≤ addressSpace) :
    decodeInto none out count bytes =
      if count + (wordsOf bytes).length ≤ addressSpace then .ok (out.toList ++ wordsOf bytes)
      else .error (.tooLong (addressSpace + 1)) := by
  induction bytes using wordsOf.induct generalizing out count with
  | case1 low high rest ih =>
    rw [decodeInto, wordsOf, List.length_cons]
    by_cases more : count < addressSpace
    · have shifted : count + 1 + (wordsOf rest).length = count + ((wordsOf rest).length + 1) := by
        omega
      rw [if_pos more, ih _ _ more, shifted, Array.toList_push, List.append_assoc]
      rfl
    · have full : count = addressSpace := by omega
      rw [if_neg more, if_neg (by omega), full]
  | case2 low =>
    have shape : decodeInto none out count [low] =
        if count < addressSpace then .ok (out.push (word low 0)).toList
        else .error (.tooLong (count + 1)) := rfl
    rw [shape, wordsOf, List.length_singleton]
    by_cases more : count < addressSpace
    · rw [if_pos more, if_pos (by omega), Array.toList_push]
    · have full : count = addressSpace := by omega
      rw [if_neg more, if_neg (by omega), full]
  | case3 =>
    have shape : decodeInto none out count [] = .ok out.toList := rfl
    rw [shape, wordsOf, List.length_nil, List.append_nil, Nat.add_zero, if_pos before]

theorem decode_eq_ok {bytes : List UInt8} (fits : bytes.length ≤ 2 * addressSpace) :
    decode bytes none = .ok (wordsOf bytes) := by
  have words := (wordsOf_fits_iff bytes).mpr fits
  rw [decode, decodeInto_none #[] 0 bytes (Nat.zero_le _), if_pos (by omega)]
  rfl

theorem decode_eq_error {bytes : List UInt8} (long : 2 * addressSpace < bytes.length) :
    decode bytes none = .error (.tooLong (addressSpace + 1)) := by
  have words := mt (wordsOf_fits_iff bytes).mp (Nat.not_le_of_lt long)
  rw [decode, decodeInto_none #[] 0 bytes (Nat.zero_le _), if_neg (by omega)]

/-- Otherwise an odd byte is lost, and the words before it count if the error means that the data
    are at an end. If not, the error is reported, unless there was one word too many before it. -/
theorem decodeInto_some {failure : SourceError} (out : Array UInt16) (count : Nat)
    (bytes : List UInt8) (lost : failure.meansEarlyEnd = true → bytes.length % 2 = 0) :
    decodeInto (some failure) out count bytes =
      if failure.meansEnd then decodeInto none out count (bytes.take (2 * (bytes.length / 2)))
      else .error (if bytes.length / 2 ≤ addressSpace - count then .failed failure.reason
        else .tooLong (max count addressSpace + 1)) := by
  induction bytes using wordsOf.induct generalizing out count with
  | case1 low high rest ih =>
    have half : (low :: high :: rest).length / 2 = rest.length / 2 + 1 := by
      simp only [List.length_cons]
      omega
    have whole : (low :: high :: rest).take (2 * (rest.length / 2 + 1)) =
        low :: high :: rest.take (2 * (rest.length / 2)) := rfl
    have parity : failure.meansEarlyEnd = true → rest.length % 2 = 0 := by
      intro early
      have even := lost early
      simp only [List.length_cons] at even
      omega
    rw [half, whole, decodeInto, decodeInto]
    by_cases more : count < addressSpace
    · have same : rest.length / 2 ≤ addressSpace - (count + 1) ↔
          rest.length / 2 + 1 ≤ addressSpace - count := by omega
      have limit : max (count + 1) addressSpace = max count addressSpace := by omega
      simp only [if_pos more, ih _ _ parity, same, limit]
    · have beyond : ¬ rest.length / 2 + 1 ≤ addressSpace - count := by omega
      have limit : max count addressSpace = count := by omega
      rw [if_neg more, if_neg more, if_neg beyond, limit, ite_self]
  | case2 low =>
    have late : failure.meansEarlyEnd = false := by
      cases early : failure.meansEarlyEnd with
      | false => rfl
      | true => cases lost early
    simp [decodeInto, finish, late]
  | case3 => simp [decodeInto, finish]

/-- A source that breaks off with an error which says nothing about an end of the data gives no
    program, however few of its bytes arrived. -/
theorem decode_other (bytes : List UInt8) (reason : String) :
    ∃ error, decode bytes (some (.other reason)) = .error error :=
  ⟨_, decodeInto_some #[] 0 bytes nofun⟩

end Program

/-! ## Files -/

/-- A file holds a program exactly if it can be read and is not too long. -/
theorem Disk.program_cases (disk : Disk) (path : String) :
    (∃ bytes, disk.read path = .ok bytes ∧ bytes.length ≤ 2 * addressSpace ∧
      disk.program path = .ok (Program.wordsOf bytes)) ∨
    ((∀ bytes, disk.read path = .ok bytes → 2 * addressSpace < bytes.length) ∧
      ∃ error, disk.program path = .error error) := by
  rw [program, source]
  cases content : disk.read path with
  | ok bytes =>
    by_cases fits : bytes.length ≤ 2 * addressSpace
    · left
      exact ⟨bytes, rfl, fits, by simp only [Option.map_none, Program.decode_eq_ok fits]⟩
    · right
      have long := Nat.lt_of_not_le fits
      refine ⟨?_, .rejected path (.tooLong (addressSpace + 1)),
        by simp only [Option.map_none, Program.decode_eq_error long]⟩
      rintro _ ⟨⟩
      exact long
  | error error =>
    right
    refine ⟨nofun, ?_⟩
    cases action : error.action with
    | opening => exact ⟨.unopened error, by simp only [action]⟩
    | reading =>
      obtain ⟨broken, decoded⟩ := Program.decode_other [] error.message
      exact ⟨.rejected path broken, by simp only [action, Option.map_some, decoded]⟩

namespace Machine

/-- Loading does not depend on what ran before. -/
theorem load_eq_load_initial {machine : Machine} (wellFormed : machine.WellFormed)
    (words : List UInt16) : machine.load words = initial.load words := by
  rw [load, load, reset_eq_initial wellFormed, reset_eq_initial initial_wellFormed]

theorem load_accepts (machine : Machine) {words : List UInt16}
    (fits : words.length ≤ addressSpace) :
    ∃ loaded, machine.load words = (.ok (), loaded) := by
  rw [load, Store.load_eq_ok machine.reset.store fits]
  exact ⟨_, rfl⟩

/-- Loading a program file forgets everything, or fails without a trace. Whatever was done with a
    machine, a file of no more than 65536 bytes is loaded and makes it the machine that its words
    give when they are loaded into a new one. In every other case, when the file is longer, missing
    or not readable, the file is what is reported and the machine stays as it is. Memory is never
    what refuses a program, and a source that breaks off gives none. -/
theorem loadFile_anew_or_unchanged {machine : Machine} (reachable : Reachable machine) (disk : Disk)
    (path : String) :
    ((∃ bytes loaded, disk.read path = .ok bytes ∧ bytes.length ≤ 65536 ∧
        machine.loadFile disk path = (.ok (), loaded) ∧
        initial.load (Program.wordsOf bytes) = (.ok (), loaded)) ∨
      ((∀ bytes, disk.read path = .ok bytes → 65536 < bytes.length) ∧
        ∃ error, machine.loadFile disk path = (.error (.file error), machine))) ∧
    ∀ bytes reason, ∃ error, Program.decode bytes (some (.other reason)) = .error error := by
  refine ⟨?_, Program.decode_other⟩
  rcases disk.program_cases path with ⟨bytes, content, fits, program⟩ | ⟨long, error, program⟩
  · left
    obtain ⟨loaded, accepted⟩ := initial.load_accepts ((Program.wordsOf_fits_iff bytes).mpr fits)
    refine ⟨bytes, loaded, content, fits, ?_, accepted⟩
    simp only [loadFile, program, load_eq_load_initial reachable.wellFormed, accepted]
  · right
    exact ⟨long, error, by rw [loadFile, program]⟩

/-- After a program that has written over itself, a file with an odd byte at its end, one that is a
    byte too long, and one that is missing. -/
theorem loadFile_after_self_modification :
    let machine := ((initial.load [16, 3, 17, 0, 32766]).2.step (some MemoryTerminal.empty)).2.1
    let disk : Disk := ⟨[], [([], .directory), (["odd"], .file (.bytes [9, 1, 21])),
      (["long"], .file (.bytes (List.replicate 65537 0)))]⟩
    machine.loadFile disk "odd" = (.ok (), (initial.load [265, 21]).2) ∧
      (∃ error, machine.loadFile disk "long" = (.error (.file error), machine)) ∧
      ∃ error, machine.loadFile disk "missing" = (.error (.file error), machine) := by
  intro machine disk
  have reachable : Reachable machine :=
    .tail (.single (.load .initial _)) (.step _ (some MemoryTerminal.empty))
  have odd : disk.read "odd" = .ok [9, 1, 21] := rfl
  have long : disk.read "long" = .ok (List.replicate 65537 0) := rfl
  have missing : disk.read "missing" = .error ⟨.opening, "missing", .missing⟩ := rfl
  refine ⟨?_, ?_, ?_⟩
  · rcases (loadFile_anew_or_unchanged reachable disk "odd").1 with
      ⟨bytes, loaded, content, _, done, same⟩ | ⟨rest, _⟩
    · cases odd.symm.trans content
      rw [done, show [265, 21] = Program.wordsOf [9, 1, 21] from rfl, same]
    · exact absurd (rest _ odd) (by decide)
  · rcases (loadFile_anew_or_unchanged reachable disk "long").1 with
      ⟨bytes, loaded, content, fits, _⟩ | ⟨_, refused⟩
    · cases long.symm.trans content
      rw [List.length_replicate] at fits
      exact absurd fits (by decide)
    · exact refused
  · rcases (loadFile_anew_or_unchanged reachable disk "missing").1 with
      ⟨bytes, loaded, content, _⟩ | ⟨_, refused⟩
    · cases missing.symm.trans content
    · exact refused

end Machine

end WordMachine
