import CompileDb.Proofs.Database.Documents

/-!
# How loading a database ends

Whatever a load starts from, it reads one file, its target. `Ends` has a constructor for each way in which reading a
file can end, with the condition under which it does; `result_loadFile_eq_iff` says that there are no others and that
each ends under its condition. The two other ways to load a database come down to this one, or fail at the place they
start from (`load_ends_by_target`). A file that the system does not let read is no fault of the database, and loading
it ends with what the system says (`load_of_unreadable`).
-/

namespace CompileDb.Database

variable {disk : Disk} {path : Path}

/-- How the loading of a file ends. -/
inductive Ends (disk : Disk) (path : Path) : Except Failure Database → Prop
  /-- Nothing is there. -/
  | missing (absent : disk.look path = .absent) : Ends disk path (.error (.fault (.notFound path .file)))
  /-- Something is there that is no file. -/
  | irregular (present : disk.look path ≠ .absent) (noFile : ∀ contents, disk.look path ≠ .file contents) :
    Ends disk path (.error (.fault (.notAFile path)))
  /-- The file cannot be read. -/
  | unreadable {reason : Text} (found : disk.look path = .file (.refused reason)) :
    Ends disk path (.error (.unreadable path reason))
  /-- The file is no compilation database. -/
  | malformed {bytes : List UInt8} {cause : Malformed} (found : disk.look path = .file (.bytes bytes))
    (isMalformed : IsMalformed path bytes cause) : Ends disk path (.error (.fault (.malformed cause)))
  /-- The file states entries. -/
  | loaded {bytes : List UInt8} {entries : List Entry} (found : disk.look path = .file (.bytes bytes))
    (states : StatesEntries bytes entries) : Ends disk path (.ok ⟨entries.map Recipe.ofEntry⟩)

section Ends

variable {place : Path}

/-- A load misses a file exactly where nothing is. -/
theorem ends_notFound_iff {sought : Sought} : Ends disk path (.error (.fault (.notFound place sought))) ↔
    disk.look path = .absent ∧ place = path ∧ sought = .file := by
  constructor
  · rintro ⟨absent⟩
    exact ⟨absent, rfl, rfl⟩
  · rintro ⟨absent, rfl, rfl⟩
    exact .missing absent

/-- A load complains of no file exactly where something else is. -/
theorem ends_notAFile_iff : Ends disk path (.error (.fault (.notAFile place))) ↔
    disk.look path ≠ .absent ∧ (∀ contents, disk.look path ≠ .file contents) ∧ place = path := by
  constructor
  · intro ends
    cases ends with
    | irregular present noFile => exact ⟨present, noFile, rfl⟩
  · rintro ⟨present, noFile, rfl⟩
    exact .irregular present noFile

/-- A load finds a fault in the contents exactly where the bytes have it. -/
theorem ends_malformed_iff {cause : Malformed} : Ends disk path (.error (.fault (.malformed cause))) ↔
    ∃ bytes, disk.look path = .file (.bytes bytes) ∧ IsMalformed path bytes cause := by
  constructor
  · intro ends
    cases ends with
    | malformed found isMalformed => exact ⟨_, found, isMalformed⟩
  · rintro ⟨bytes, found, isMalformed⟩
    exact .malformed found isMalformed

/-- A load meets a refused read exactly where the file refuses it. -/
theorem ends_unreadable_iff {reason : Text} : Ends disk path (.error (.unreadable place reason)) ↔
    disk.look path = .file (.refused reason) ∧ place = path := by
  constructor
  · intro ends
    cases ends with
    | unreadable found => exact ⟨found, rfl⟩
  · rintro ⟨found, rfl⟩
    exact .unreadable found

theorem not_ends_notADirectory : ¬ Ends disk path (.error (.fault (.notADirectory place))) := nofun

/-- A load gives a database exactly where a file states entries. -/
theorem ends_ok_iff {d : Database} : Ends disk path (.ok d) ↔ ∃ bytes entries, disk.look path = .file (.bytes bytes) ∧
    StatesEntries bytes entries ∧ d.recipes = entries.map Recipe.ofEntry := by
  constructor
  · intro ends
    cases ends with
    | loaded found states => exact ⟨_, _, found, states, rfl⟩
  · obtain ⟨recipes⟩ := d
    rintro ⟨bytes, entries, found, states, rfl⟩
    exact .loaded found states

end Ends

/-- A path can be looked at, and no file there is too much for its reader. -/
structure IsInReach (disk : Disk) (path : Path) : Prop where
  seen : disk.look path ≠ .outOfReach
  unexceeded : ∀ bytes excess, disk.look path = .file (.bytes bytes) → ¬ Exceeds bytes excess

/-- Every load of a path within reach ends in one of these ways. -/
theorem ends_loadFile (inReach : IsInReach disk path) : Ends disk path (loadFile disk path).result := by
  cases found : disk.look path with
  | outOfReach => exact absurd found inReach.seen
  | absent =>
    rw [loadFile, found]
    exact .missing found
  | directory | special _ =>
    rw [loadFile, found]
    exact .irregular (by simp [found]) (by simp [found])
  | file contents =>
    have yields := entriesOf_eq_iff.1 (rfl : entriesOf path contents = _)
    rw [result_loadFile_of_file found]
    generalize entriesOf path contents = stated at yields
    cases yields with
    | entries states => exact .loaded found states
    | malformed isMalformed => exact .malformed found isMalformed
    | excessive exceeds => exact absurd exceeds (inReach.unexceeded _ _ found)
    | unreadable reason => exact .unreadable found

/-- **A file is loaded in the way that holds of it.** -/
theorem result_loadFile_eq_iff (inReach : IsInReach disk path) {result : Except Failure Database} :
    (loadFile disk path).result = result ↔ Ends disk path result := by
  constructor
  · rintro rfl
    exact ends_loadFile inReach
  · intro ends
    cases ends with
    | missing absent =>
      rw [loadFile, absent]
      rfl
    | irregular present noFile =>
      cases found : disk.look path with
      | outOfReach => exact absurd found inReach.seen
      | absent => exact absurd found present
      | file contents => exact absurd found (noFile contents)
      | directory | special _ =>
        rw [loadFile, found]
        rfl
    | unreadable found =>
      rw [result_loadFile_of_file found]
      rfl
    | malformed found isMalformed =>
      rw [result_loadFile_of_file found, entriesOf_eq_iff.2 (.malformed isMalformed)]
      rfl
    | loaded found states =>
      rw [result_loadFile_of_file found, entriesOf_eq_iff.2 (.entries states)]
      rfl

/-- A file is loaded unless something is wrong with it. -/
theorem exists_result_loadFile_iff (inReach : IsInReach disk path) :
    (∃ d, (loadFile disk path).result = .ok d) ↔
      ∃ bytes, disk.look path = .file (.bytes bytes) ∧ ∀ cause, ¬ IsMalformed path bytes cause := by
  constructor
  · rintro ⟨d, loaded⟩
    obtain ⟨bytes, entries, found, states, -⟩ := ends_ok_iff.1 ((result_loadFile_eq_iff inReach).1 loaded)
    exact ⟨bytes, found, fun _ => states.not_isMalformed⟩
  · rintro ⟨bytes, found, wellFormed⟩
    have ends := ends_loadFile inReach
    generalize (loadFile disk path).result = result at ends
    cases ends with
    | missing absent => simp [absent] at found
    | irregular present noFile => exact absurd found (noFile (.bytes bytes))
    | unreadable found' => cases Item.file.inj (found.symm.trans found')
    | malformed found' isMalformed =>
      obtain rfl := Contents.bytes.inj (Item.file.inj (found.symm.trans found'))
      exact absurd isMalformed (wellFormed _)
    | loaded found' states => exact ⟨_, rfl⟩

/-- Loading from anywhere is loading the file it leads to. -/
theorem load_eq_loadFile (seen : disk.look path ≠ .outOfReach) :
    load disk path = loadFile disk (Source.anywhere.target disk path) := by
  unfold load Source.target
  cases found : disk.look path with
  | outOfReach => exact absurd found seen
  | _ => simp

/-- On a directory only the file loader differs from the other two. -/
theorem loadDirectory_of_directory (isDirectory : disk.look path = .directory) :
    loadDirectory disk path = load disk path ∧ (loadFile disk path).result = .error (.fault (.notAFile path)) := by
  constructor
  · rw [loadDirectory, load, isDirectory]
  · rw [loadFile, isDirectory]
    rfl

theorem result_loadDirectory_of_absent (absent : disk.look path = .absent) :
    (loadDirectory disk path).result = .error (.fault (.notFound path .directory)) := by
  rw [loadDirectory, absent]
  rfl

/-- Something that is no directory is refused by the directory loader. -/
theorem result_loadDirectory_of_elsewhere (seen : disk.look path ≠ .outOfReach) (present : disk.look path ≠ .absent)
    (elsewhere : disk.look path ≠ .directory) :
    (loadDirectory disk path).result = .error (.fault (.notADirectory path)) := by
  cases found : disk.look path with
  | outOfReach => exact absurd found seen
  | absent => exact absurd found present
  | directory => exact absurd found elsewhere
  | file _ | special _ =>
    rw [loadDirectory, found]
    rfl

theorem loadFile_of_elsewhere (seen : disk.look path ≠ .outOfReach) (elsewhere : disk.look path ≠ .directory) :
    loadFile disk path = load disk path := by
  rw [load_eq_loadFile seen, Source.target, if_neg elsewhere]

/-- **A load ends as its target says.** It reports the target when nothing is there, when it is no file, when it cannot
be read and when it is no compilation database, and only then; otherwise the database has the recipes of the entries,
one by one. It never asks for a directory. A load from a directory or from a file agrees with it wherever it finds
one; elsewhere it fails at the path that it was given. -/
theorem load_ends_by_target (seen : disk.look path ≠ .outOfReach)
    (inReach : IsInReach disk (Source.anywhere.target disk path)) :
    let target := Source.anywhere.target disk path
    (∀ place sought, (load disk path).result = .error (.fault (.notFound place sought)) ↔
      disk.look target = .absent ∧ place = target ∧ sought = .file) ∧
    (∀ place, (load disk path).result = .error (.fault (.notAFile place)) ↔
      disk.look target ≠ .absent ∧ (∀ contents, disk.look target ≠ .file contents) ∧ place = target) ∧
    (∀ place reason, (load disk path).result = .error (.unreadable place reason) ↔
      disk.look target = .file (.refused reason) ∧ place = target) ∧
    (∀ cause, (load disk path).result = .error (.fault (.malformed cause)) ↔
      ∃ bytes, disk.look target = .file (.bytes bytes) ∧ IsMalformed target bytes cause) ∧
    (∀ place, (load disk path).result ≠ .error (.fault (.notADirectory place))) ∧
    (∀ d, (load disk path).result = .ok d ↔ ∃ bytes entries, disk.look target = .file (.bytes bytes) ∧
      StatesEntries bytes entries ∧ d.recipes = entries.map Recipe.ofEntry) ∧
    ((∃ d, (load disk path).result = .ok d) ↔
      ∃ bytes, disk.look target = .file (.bytes bytes) ∧ ∀ cause, ¬ IsMalformed target bytes cause) ∧
    (disk.look path = .directory → loadDirectory disk path = load disk path ∧
      (loadFile disk path).result = .error (.fault (.notAFile path))) ∧
    (disk.look path = .absent → (loadDirectory disk path).result = .error (.fault (.notFound path .directory))) ∧
    (disk.look path ≠ .absent → disk.look path ≠ .directory →
      (loadDirectory disk path).result = .error (.fault (.notADirectory path))) ∧
    (disk.look path ≠ .directory → loadFile disk path = load disk path) := by
  intro target
  have ends : ∀ result, (load disk path).result = result ↔ Ends disk target result := by
    intro result
    rw [load_eq_loadFile seen, result_loadFile_eq_iff inReach]
  have found := exists_result_loadFile_iff inReach
  rw [← load_eq_loadFile seen] at found
  refine ⟨fun _ _ => ?_, fun _ => ?_, fun _ _ => ?_, fun _ => ?_, fun _ => ?_, fun _ => ?_, found,
    loadDirectory_of_directory, result_loadDirectory_of_absent, result_loadDirectory_of_elsewhere seen,
    loadFile_of_elsewhere seen⟩
  · rw [ends, ends_notFound_iff]
  · rw [ends, ends_notAFile_iff]
  · rw [ends, ends_unreadable_iff]
  · rw [ends, ends_malformed_iff]
  · rw [Ne, ends]
    exact not_ends_notADirectory
  · rw [ends, ends_ok_iff]

/-- A build directory whose database is a device, cannot be read, or is no list; and a device for a build directory. -/
theorem load_ends_by_target_samples :
    let place : Path := .ofText "b/compile_commands.json"
    let disk : Item → Disk := fun item =>
      ⟨fun path => if path = .ofText "b" then .directory else if path = place then item else .absent⟩
    (∀ item, (disk item).look (.ofText "b") ≠ .outOfReach) ∧
      IsInReach (disk (.special (.bytes []))) place ∧ IsInReach (disk (.file (.refused "closed"))) place ∧
      IsInReach (disk (.file (.bytes [0x33]))) place ∧
      (load (disk (.special (.bytes []))) (.ofText "b")).result = .error (.fault (.notAFile place)) ∧
      (loadDirectory (disk (.special (.bytes []))) place).result = .error (.fault (.notADirectory place)) ∧
      (load (disk (.file (.refused "closed"))) (.ofText "b")).result = .error (.unreadable place "closed") ∧
      (load (disk (.file (.bytes [0x33]))) (.ofText "b")).result =
        .error (.fault (.malformed (.misshapen .notAList))) := by
  intro place disk
  have look : ∀ item path, (disk item).look path =
      if path = .ofText "b" then .directory else if path = place then item else .absent := fun _ _ => rfl
  have build : ∀ item, (disk item).look (.ofText "b") = .directory := by
    intro item
    rw [look, if_pos rfl]
  have data : ∀ item, (disk item).look place = item := by
    intro item
    rw [look, if_neg (by decide), if_pos rfl]
  have seen : ∀ item, (disk item).look (.ofText "b") ≠ .outOfReach := by
    intro item
    rw [build]
    exact Item.noConfusion
  have below : ∀ item, Source.anywhere.target (disk item) (.ofText "b") = place := by
    intro item
    rw [Source.target, if_pos (build item)]
    rfl
  have itself : Source.anywhere.target (disk (.special (.bytes []))) place = place := by
    rw [Source.target, data]
    rfl
  have special : IsInReach (disk (.special (.bytes []))) place := ⟨by simp [data], by simp [data]⟩
  have refused : IsInReach (disk (.file (.refused "closed"))) place := ⟨by simp [data], by simp [data]⟩
  have written : [0x33] = Text.Utf8.encode ['3'] := by rfl
  have read : documentOf ['3'] = .ok (.number (.integer 3)) := by rfl
  have three : IsInReach (disk (.file (.bytes [0x33]))) place := by
    refine ⟨by simp [data], ?_⟩
    rintro bytes excess found ⟨text, written', exceeds⟩
    obtain rfl := Contents.bytes.inj (Item.file.inj ((data _).symm.trans found))
    have same := (Text.Utf8.decode_eq_ok_iff.2 written).symm.trans (Text.Utf8.decode_eq_ok_iff.2 written')
    rw [← Except.ok.inj same, read] at exceeds
    cases exceeds
  have device := load_ends_by_target (seen (.special (.bytes []))) (by rwa [below])
  have elsewhere := load_ends_by_target (show (disk (.special (.bytes []))).look place ≠ _ by simp [data])
    (itself.symm ▸ special)
  have closed := load_ends_by_target (seen (.file (.refused "closed"))) (by rwa [below])
  have number := load_ends_by_target (seen (.file (.bytes [0x33]))) (by rwa [below])
  rw [below] at device closed number
  obtain ⟨-, irregular, -⟩ := device
  obtain ⟨-, -, -, -, -, -, -, -, -, misplaced, -⟩ := elsewhere
  obtain ⟨-, -, unreadable, -⟩ := closed
  obtain ⟨-, -, -, malformed, -⟩ := number
  refine ⟨seen, special, refused, three, (irregular place).2 ⟨by simp [data], by simp [data], rfl⟩,
    misplaced (by simp [data]) (by simp [data]), (unreadable place _).2 ⟨data _, rfl⟩, ?_⟩
  exact (malformed _).2 ⟨[0x33], data _, .misshapen written read rfl⟩

/-- A file is there and cannot be read: no database is made of it, and none of the faults of a database is told. -/
theorem load_of_unreadable :
    let path : Path := .ofText "/proc/self/mem"
    let disk : Disk := ⟨fun _ => .file (.refused "[Errno 5] Input/output error")⟩
    disk.look path = .file (.refused "[Errno 5] Input/output error") ∧
      (∀ d, (load disk path).result ≠ .ok d) ∧ ∀ fault, (load disk path).result ≠ .error (.fault fault) := by
  intro path disk
  have failed : (load disk path).result = .error (.unreadable path "[Errno 5] Input/output error") := rfl
  rw [failed]
  exact ⟨rfl, nofun, nofun⟩

end CompileDb.Database
