import WordMachine.CommandLine.World

/-!
What is done before a run. A disk changes at two places at most: bytes are added to the file of the
log, and tables without a row are made where there was room for them (`Disk.Readied`). So a path
that leads to a standard stream has always led there (`Disk.Readied.find`). Around the disk, files
that are the standard input take it with them when they are read, and on the standard output there
are only lines of the log (`World.Prepared`).
-/

namespace WordMachine

namespace Disk

/-! ## Places -/

theorem lookup_without {place other : Place} (different : other ≠ place)
    (entries : List (Place × Entry)) :
    (entries.filter fun e => e.1 ≠ place).lookup other = entries.lookup other := by
  induction entries with
  | nil => rfl
  | cons first rest ih =>
    rcases first with ⟨own, entry⟩
    by_cases dropped : own = place
    · have passed : (other == own) = false := beq_false_of_ne (dropped ▸ different)
      rw [List.filter_cons_of_neg (by simpa using dropped), List.lookup_cons, passed]
      exact ih
    · rw [List.filter_cons_of_pos (by simpa using dropped), List.lookup_cons, List.lookup_cons, ih]

/-- What is put at a place is found there, and everything else where it was. -/
theorem lookup_put (disk : Disk) (place : Place) (entry : Entry) (other : Place) :
    (disk.put place entry).entryAt? other =
      if other = place then some entry else disk.entryAt? other := by
  rw [entryAt?, put, List.lookup_cons]
  by_cases here : other = place
  · simp [here]
  · have skipped : (other == place) = false := beq_false_of_ne here
    rw [skipped, if_neg here]
    exact lookup_without here disk.entries

/-- A plain file holds its bytes, and an absent one holds none. -/
def Holds (disk : Disk) (place : Place) (content : List UInt8) : Prop :=
  disk.entryAt? place = none ∧ content = [] ∨ disk.entryAt? place = some (.file (.bytes content))

/-- There is a file of at most one byte, or room for one. -/
def Vacant (disk : Disk) (place : Place) : Prop :=
  ∃ content, disk.Holds place content ∧ content.length ≤ 1

/-- Bytes are added to a plain file or to nothing. Whatever else is at the place stays. -/
theorem append_cases (disk : Disk) (place : Place) (bytes : List UInt8) :
    (∃ content, disk.Holds place content ∧
      disk.append place bytes = disk.put place (.file (.bytes (content ++ bytes)))) ∨
    (∀ content, ¬ disk.Holds place content) ∧ disk.append place bytes = disk := by
  unfold append
  split
  · rename_i absent
    exact .inl ⟨[], .inl ⟨absent, rfl⟩, rfl⟩
  · rename_i content here
    exact .inl ⟨content, .inr here, rfl⟩
  · rename_i entry other here
    refine .inr ⟨?_, rfl⟩
    rintro content (⟨absent, _⟩ | plain)
    · cases absent.symm.trans here
    · exact other content (Option.some.inj (here.symm.trans plain))

/-! ## Making tables -/

theorem runs?_cases {entry : Entry} {runs : Array RunRecord} (read : runs? entry = some runs) :
    entry = .file (.tables runs) ∨
      (∃ content, entry = .file (.bytes content) ∧ content.length ≤ 1) ∧ runs = #[] := by
  unfold runs? at read
  split at read
  · cases read
    exact .inl rfl
  · cases read
    exact .inr ⟨⟨[], rfl, by decide⟩, rfl⟩
  · cases read
    exact .inr ⟨⟨_, rfl, by simp⟩, rfl⟩
  · cases read

/-- Opening makes at most the file that is asked for, and makes it empty. -/
theorem openEntry_cases {disk opened : Disk} {access : Access} {place : Place} {entry : Entry}
    (found : disk.openEntry access place = some (entry, opened)) :
    (disk.entryAt? place = some entry ∧ opened = disk) ∨
      (disk.entryAt? place = none ∧ entry = .file (.bytes []) ∧
        opened = disk.put place (.file (.bytes []))) := by
  unfold openEntry at found
  split at found
  · rename_i here
    split at found <;> cases found
    exact .inl ⟨here, rfl⟩
  · rename_i here
    cases found
    exact .inl ⟨here, rfl⟩
  · rename_i absent
    split at found <;> cases found
    exact .inr ⟨absent, rfl, rfl⟩

theorem openTablesAt_ok {disk after : Disk} {address : Address} {place : Place} {tables : Tables}
    (opens : disk.openTablesAt address place = (.ok tables, after)) :
    ∃ entry opened, disk.openEntry address.access place = some (entry, opened) ∧
      runs? entry = some tables.runs ∧ tables.place = some place ∧
      after = opened.put place (.file (.tables tables.runs)) := by
  unfold openTablesAt at opens
  split at opens
  · cases opens
  · rename_i entry opened found
    split at opens
    · cases opens
    · split at opens
      · split at opens
        · rename_i runs read
          cases opens
          exact ⟨entry, opened, found, read, rfl, rfl⟩
        · cases opens
      · cases opens

/-- Tables that can be opened were there before, or there was room for them and they are empty. -/
theorem openTablesAt_cases {disk after : Disk} {address : Address} {place : Place} {tables : Tables}
    (opens : disk.openTablesAt address place = (.ok tables, after)) :
    tables.place = some place ∧ after.home = disk.home ∧
      (∀ other, after.entryAt? other =
        if other = place then some (.file (.tables tables.runs)) else disk.entryAt? other) ∧
      (disk.entryAt? place = some (.file (.tables tables.runs)) ∨
        disk.Vacant place ∧ tables.runs = #[]) := by
  obtain ⟨entry, opened, found, read, its, rfl⟩ := openTablesAt_ok opens
  have file := openEntry_cases found
  refine ⟨its, ?_, fun other => ?_, ?_⟩
  · rcases file with ⟨_, rfl⟩ | ⟨_, _, rfl⟩ <;> rfl
  · rw [lookup_put]
    by_cases here : other = place
    · rw [if_pos here, if_pos here]
    · rw [if_neg here, if_neg here]
      rcases file with ⟨_, rfl⟩ | ⟨_, _, rfl⟩
      · rfl
      · rw [lookup_put, if_neg here]
  · rcases file with ⟨there, _⟩ | ⟨absent, rfl, _⟩
    · rcases runs?_cases read with rfl | ⟨⟨content, rfl, short⟩, empty⟩
      · exact .inl there
      · exact .inr ⟨⟨content, .inr there, short⟩, empty⟩
    · exact .inr ⟨⟨[], .inl ⟨absent, rfl⟩, Nat.zero_le 1⟩, (Option.some.inj read).symm⟩

/-- Nothing changed but that bytes were added to the file of a log, which may have been made for
    them, and that tables without any row were made where there was room for them. -/
structure Readied (log tables : Option Place) (before after : Disk) : Prop where
  home : after.home = before.home
  entries : ∀ place, after.entryAt? place = before.entryAt? place ∨
    (tables = some place ∧ before.Vacant place ∧
      after.entryAt? place = some (.file (.tables #[]))) ∨
    log = some place ∧ ∃ content more, before.Holds place content ∧
      after.entryAt? place = some (.file (.bytes (content ++ more)))

namespace Readied

variable {log tables : Option Place} {before after later : Disk}

theorem refl (log tables : Option Place) (disk : Disk) : Readied log tables disk disk :=
  ⟨rfl, fun _ => .inl rfl⟩

/-- What a plain file holds now is what it held before and what was added. -/
theorem holds (readied : Readied log tables before after) {place : Place} {content : List UInt8}
    (now : after.Holds place content) :
    ∃ old more, before.Holds place old ∧ content = old ++ more := by
  rcases readied.entries place with kept | ⟨_, _, made⟩ | ⟨_, old, more, held, added⟩
  · exact ⟨content, [], by rwa [Holds, ← kept], (List.append_nil content).symm⟩
  · rcases now with ⟨absent, _⟩ | plain
    · cases absent.symm.trans made
    · cases plain.symm.trans made
  · rcases now with ⟨absent, _⟩ | plain
    · cases absent.symm.trans added
    · cases plain.symm.trans added
      exact ⟨old, more, held, rfl⟩

/-- Whatever is neither a plain file nor tables stays. -/
theorem entryAt?_iff (readied : Readied log tables before after) (place : Place) (entry : Entry)
    (notBytes : ∀ content, entry ≠ .file (.bytes content))
    (notTables : ∀ runs, entry ≠ .file (.tables runs)) :
    after.entryAt? place = some entry ↔ before.entryAt? place = some entry := by
  have unheld (content : List UInt8) (held : before.Holds place content) :
      before.entryAt? place ≠ some entry := by
    intro there
    rcases held with ⟨absent, _⟩ | plain
    · cases absent.symm.trans there
    · exact notBytes content (Option.some.inj (there.symm.trans plain))
  rcases readied.entries place with kept | ⟨_, ⟨content, held, _⟩, made⟩ |
    ⟨_, old, more, held, added⟩
  · rw [kept]
  · rw [made]
    exact iff_of_false (fun is => notTables _ (Option.some.inj is).symm) (unheld content held)
  · rw [added]
    exact iff_of_false (fun is => notBytes _ (Option.some.inj is).symm) (unheld old held)

/-- A path that leads somewhere has led there before, as all directories are old. -/
theorem follow (readied : Readied log tables before after) {place found : Place}
    {pieces : List String} (leads : after.follow place pieces = .ok found) :
    before.follow place pieces = .ok found := by
  induction pieces generalizing place with
  | nil => exact leads
  | cons piece rest ih =>
    rw [Disk.follow] at leads ⊢
    split at leads
    · cases leads
    · cases leads
    · rename_i here
      rw [(readied.entryAt?_iff place .directory nofun nofun).mp here]
      simp only at leads ⊢
      split at leads
      · rename_i stays
        rw [if_pos stays]
        exact ih leads
      · rename_i moves
        rw [if_neg moves]
        split at leads
        · rename_i up
          rw [if_pos up]
          exact ih leads
        · rename_i down
          rw [if_neg down]
          split at leads
          · cases leads
          · rename_i short
            rw [if_neg short]
            exact ih leads

/-- A path that leads to a standard stream has always led there. -/
theorem find (readied : Readied log tables before after) {path : String}
    (leads : after.find path = .ok (.file .input)) : before.find path = .ok (.file .input) := by
  have root : after.start path = before.start path := by rw [start, start, readied.home]
  rw [Disk.find, resolve, resolvePieces, root] at leads
  rw [Disk.find, resolve, resolvePieces]
  cases fault : fault? path with
  | some error =>
    rw [fault] at leads
    cases leads
  | none =>
    rw [fault] at leads
    simp only at leads ⊢
    cases led : after.follow (before.start path) (Path.pieces path) with
    | error error =>
      rw [led] at leads
      cases leads
    | ok place =>
      rw [led] at leads
      rw [readied.follow led]
      simp only [bind, Except.bind] at leads ⊢
      split at leads
      · cases leads
      · rename_i here
        cases leads
        rw [(readied.entryAt?_iff place (.file .input) nofun nofun).mp here]
        rfl

theorem append (readied : Readied log tables before after) {place : Place}
    (logs : log = some place) (bytes : List UInt8) :
    Readied log tables before (after.append place bytes) := by
  rcases after.append_cases place bytes with ⟨content, holding, added⟩ | ⟨_, kept⟩
  · rw [added]
    refine ⟨readied.home, fun other => ?_⟩
    rw [lookup_put]
    by_cases here : other = place
    · obtain ⟨old, more, held, rfl⟩ := readied.holds holding
      refine .inr (.inr ⟨here ▸ logs, old, more ++ bytes, here ▸ held, ?_⟩)
      rw [if_pos here, List.append_assoc]
    · rw [if_neg here]
      exact readied.entries other
  · rw [kept]
    exact readied

theorem openTables (readied : Readied log none before after) {address : Address} {place : Place}
    {opened : Tables} (opens : after.openTablesAt address place = (.ok opened, later)) :
    Readied log (some place) before later := by
  obtain ⟨_, home, found, which⟩ := openTablesAt_cases opens
  refine ⟨home.trans readied.home, fun other => ?_⟩
  rw [found]
  by_cases here : other = place
  · subst here
    rw [if_pos rfl]
    rcases which with there | ⟨⟨content, holding, short⟩, empty⟩
    · rcases readied.entries other with kept | ⟨⟨⟩, _⟩ | ⟨_, _, _, _, added⟩
      · exact .inl (there.symm.trans kept)
      · cases there.symm.trans added
    · obtain ⟨old, more, held, rfl⟩ := readied.holds holding
      rw [List.length_append] at short
      exact .inr (.inl ⟨rfl, ⟨old, held, by omega⟩, by rw [empty]⟩)
  · rw [if_neg here]
    rcases readied.entries other with kept | ⟨⟨⟩, _⟩ | added
    · exact .inl kept
    · exact .inr (.inr added)

theorem put (readied : Readied log tables before after) {place : Place} {entry : Entry}
    (there : after.entryAt? place = some entry) :
    Readied log tables before (after.put place entry) := by
  refine ⟨readied.home, fun other => ?_⟩
  have same : (after.put place entry).entryAt? other = after.entryAt? other := by
    rw [lookup_put]
    by_cases here : other = place
    · rw [if_pos here, here, there]
    · rw [if_neg here]
  rw [same]
  exact readied.entries other

end Readied

end Disk

namespace World

/-! ## What is told before a run -/

/-- Lines of a log as they are written one after the other. -/
def written (print : List LogLine → LogLine → List UInt8) (told : List LogLine) :
    List LogLine → List UInt8
  | [] => []
  | line :: rest => print told line ++ written print (told ++ [line]) rest

theorem written_snoc (print : List LogLine → LogLine → List UInt8) (told lines : List LogLine)
    (line : LogLine) :
    written print told (lines ++ [line]) = written print told lines ++
      print (told ++ lines) line := by
  induction lines generalizing told with
  | nil => simp [written]
  | cons first rest ih => simp [written, ih]

/-- Whether lines of the log appear on the standard output. -/
def showsLog (world : World) (log : Option Place) : Bool :=
  match log.bind world.disk.entryAt? with
  | some (.file .output) => true
  | _ => false

theorem showsLog_iff (world : World) (place : Place) :
    world.showsLog (some place) = true ↔ world.disk.entryAt? place = some (.file .output) := by
  rw [showsLog, Option.bind_some]
  split
  · rename_i shown
    exact iff_of_true rfl shown
  · rename_i other
    exact iff_of_false nofun other

theorem isInput_iff (world : World) (path : String) :
    world.isInput path = true ↔ world.disk.find path = .ok (.file .input) := by
  rw [isInput]
  split
  · rename_i found
    exact iff_of_true rfl found
  · rename_i other
    exact iff_of_false nofun other

/-- What may have happened to a world before a run: files at these paths were read, lines of the log
    were written, and tables were made. -/
structure Prepared (paths : List String) (log tables : Option Place) (before after : World) :
    Prop where
  disk : Disk.Readied log tables before.disk after.disk
  print : after.print = before.print
  stdin : after.stdin = before.stdin ∨
    after.stdin = [] ∧ ∃ path ∈ paths, before.isInput path = true
  told : ∃ lines, after.log = before.log ++ lines ∧ after.stdout = before.stdout ++
    if before.showsLog log then written before.print before.log lines else []

namespace Prepared

variable {paths : List String} {tables : Option Place} {before after later : World}

theorem refl (paths : List String) (log tables : Option Place) (world : World) :
    Prepared paths log tables world world :=
  ⟨.refl log tables world.disk, rfl, .inl rfl, [], by simp, by simp [written]⟩

theorem afterReading {log : Option Place} (prepared : Prepared paths log tables before after)
    {path : String} (reads : path ∈ paths) :
    Prepared paths log tables before (after.afterReading path) := by
  unfold World.afterReading
  split
  · rename_i found
    have always := prepared.disk.find ((after.isInput_iff path).mp found)
    exact { prepared with stdin := .inr ⟨rfl, path, reads, (before.isInput_iff path).mpr always⟩ }
  · exact prepared

theorem tell {log : LogTarget} (prepared : Prepared paths log.place tables before after)
    (line : LogLine) : Prepared paths log.place tables before (after.tell log line) := by
  unfold World.tell
  split
  · exact prepared
  · obtain ⟨lines, told, shown⟩ := prepared.told
    have more : after.log ++ [line] = before.log ++ (lines ++ [line]) := by
      rw [told, List.append_assoc]
    cases target : log.place with
    | none =>
      rw [target] at prepared shown
      exact { prepared with told := ⟨lines ++ [line], more, shown⟩ }
    | some place =>
      rw [target] at prepared shown
      have same := prepared.disk.entryAt?_iff place (.file .output) nofun nofun
      simp only [World.append]
      split
      · rename_i output
        have shows := (before.showsLog_iff place).mpr (same.mp output)
        refine { prepared with told := ⟨lines ++ [line], more, ?_⟩ }
        rw [shown, if_pos shows, if_pos shows, written_snoc, prepared.print, told,
          List.append_assoc]
      · rename_i other
        have hides : ¬ before.showsLog (some place) = true :=
          fun shows => other (same.mpr ((before.showsLog_iff place).mp shows))
        rw [if_neg hides] at shown
        exact { prepared with
          disk := prepared.disk.append rfl _
          told := ⟨lines ++ [line], more, by rw [if_neg hides]; exact shown⟩ }

theorem tellAll {log : LogTarget} (prepared : Prepared paths log.place tables before after)
    (lines : List LogLine) :
    Prepared paths log.place tables before (after.tellAll log lines) := by
  induction lines generalizing after with
  | nil => exact prepared
  | cons line rest ih => exact ih (prepared.tell line)

end Prepared

end World

end WordMachine
