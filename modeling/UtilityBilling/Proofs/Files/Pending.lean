/-
# One file from its start to its name

A file is started in a directory, which is made if it is missing, and stays a draft until it
gets its name. Starting it makes directories at most, and refuses exactly the texts that are
no file names. Giving it its name replaces what stood there in one step; if that fails
nothing is seen of it. A file that has its name can be read under its path.
-/

import UtilityBilling.Proofs.Files.Places

namespace UtilityBilling.Files

open UtilityBilling.Text (Bytes)

/-- A text cannot be a file name if it is empty, one dot or two, or holds a slash of either
kind. -/
theorem isFileName_eq_false_iff {name : String} :
    isFileName name = false ↔
      name = "" ∨ name = "." ∨ name = ".." ∨ '/' ∈ name.toList ∨ '\\' ∈ name.toList := by
  simp only [isFileName, Bool.and_eq_false_iff, bne_eq_false_iff_eq, Bool.not_eq_false',
    List.contains_eq_mem, decide_eq_true_eq]
  grind

/-! ## Directories and paths -/

namespace Volume

variable {volume before after : Volume}

/-- Directories stay directories. -/
def KeepsDirectories (before after : Volume) : Prop :=
  ∀ place, before.entryAt place = some .directory → after.entryAt place = some .directory

theorem Grows.keepsDirectories (grows : before.Grows after) : before.KeepsDirectories after := by
  intro place stood
  rcases grows.entry place with same | ⟨_, made⟩
  · exact same.trans stood
  · exact made

theorem KeepsDirectories.of_entries (same : after.entries = before.entries) :
    before.KeepsDirectories after :=
  fun place stood => (entryAt_of_entries same place).trans stood

theorem KeepsDirectories.trans {between : Volume} (first : before.KeepsDirectories between)
    (later : between.KeepsDirectories after) : before.KeepsDirectories after :=
  fun place stood => later place (first place stood)

theorem Spares.keepsDirectories (spares : before.Spares none after) :
    before.KeepsDirectories after := by
  intro place stood
  rcases spares.entry place with same | ⟨nothing, _⟩ | ⟨never, _⟩
  · exact same.trans stood
  · rw [stood] at nothing
    cases nothing
  · cases never

/-- A file that comes where no directory stands leaves all directories. -/
theorem keepsDirectories_put {place : Place} (inside : place ≠ [])
    (free : before.entryAt place ≠ some .directory) (same : after.entries = before.entries)
    (content : Bytes) : before.KeepsDirectories (after.put place (.file content)) := by
  intro other stood
  rw [entryAt_put after inside, if_neg (by rintro rfl; exact free stood)]
  exact (entryAt_of_entries same other).trans stood

/-- A way through directories stays open, as long as what it leads to stays. -/
theorem KeepsDirectories.follow (keeps : before.KeepsDirectories after) {asDirectory : Bool}
    {place : Place} {rest : List Part} {entry : Entry}
    (found : before.follow asDirectory place rest = .ok ⟨destination place rest, some entry⟩)
    (stays : after.entryAt (destination place rest) = some entry) :
    after.follow asDirectory place rest = .ok ⟨destination place rest, some entry⟩ := by
  induction rest generalizing place with
  | nil =>
      rw [destination] at stays
      rw [Volume.follow, stays]
      rfl
  | cons part rest ih =>
      cases part with
      | up => exact ih found stays
      | name own =>
          unfold Volume.follow at found ⊢
          split at found
          case isTrue => cases found
          case isFalse short =>
            rw [if_neg short]
            simp only at found ⊢
            split at found
            case h_1 stood =>
              simp only [keeps _ stood]
              exact ih found stays
            case h_2 content stood =>
              split at found
              case isTrue last =>
                obtain rfl : rest = [] := List.isEmpty_iff.mp (Bool.and_eq_true _ _ ▸ last).1
                obtain rfl : Entry.file content = entry :=
                  Option.some.inj (Spot.mk.inj (Except.ok.inj found)).2
                simp only [show after.entryAt (place ++ [own]) = _ from stays]
                exact if_pos last
              case isFalse => cases found
            case h_3 => split at found <;> simp at found

/-- What a path leads to is found again, as long as it stays. -/
theorem KeepsDirectories.find (keeps : before.KeepsDirectories after) {path : String}
    {entry : Entry} (found : before.find path = .ok ⟨placeOf path, some entry⟩)
    (stays : after.entryAt (placeOf path) = some entry) :
    after.find path = .ok ⟨placeOf path, some entry⟩ := by
  unfold Volume.find at found ⊢
  split at found
  case isTrue => cases found
  case isFalse filled =>
    split at found
    case isTrue => cases found
    case isFalse clean =>
      rw [if_neg filled, if_neg clean]
      exact keeps.follow found stays

end Volume

open Volume

variable {volume before after opened : Volume} {directory name : String} {place : Place}

/-- A directory is found exactly if its path can be followed to it. -/
theorem directoryPlace_eq_ok_iff :
    directoryPlace volume directory = .ok place ↔
      place = placeOf directory ∧ '\x00' ∉ directory.toList ∧
        volume.follow (endsAsDirectory directory) [] (parts directory) =
          .ok ⟨placeOf directory, some .directory⟩ := by
  by_cases empty : directory = ""
  · subst empty
    rw [directoryPlace, if_pos rfl]
    constructor
    · intro here
      cases here
      exact ⟨rfl, by decide, rfl⟩
    · rintro ⟨rfl, _, _⟩
      rfl
  · rw [directoryPlace, if_neg empty, find, if_neg empty]
    by_cases nul : '\x00' ∈ directory.toList
    · simp [nul]
    · rw [if_neg (by simpa using nul)]
      constructor
      · intro found
        split at found
        case h_1 stands =>
          cases found
          obtain ⟨rfl, _⟩ := Spot.mk.inj (eq_of_follow stands)
          exact ⟨rfl, nul, stands⟩
        all_goals cases found
      · rintro ⟨rfl, _, stands⟩
        rw [stands]

theorem placeOf_of_directoryPlace (found : directoryPlace volume directory = .ok place) :
    place = placeOf directory :=
  (directoryPlace_eq_ok_iff.mp found).1

theorem Volume.KeepsDirectories.directoryPlace (keeps : before.KeepsDirectories after)
    (found : directoryPlace before directory = .ok place) :
    Files.directoryPlace after directory = .ok place := by
  obtain ⟨here, noNul, stands⟩ := directoryPlace_eq_ok_iff.mp found
  have stays := keeps _ (Spot.mk.inj (eq_of_follow stands)).2.symm
  exact directoryPlace_eq_ok_iff.mpr ⟨here, noNul, keeps.follow stands stays⟩

/-- A directory that is there is left alone. -/
theorem ensureDirectory_of_directory (stands : volume.at? directory = some .directory) :
    ensureDirectory volume directory = (.ok (), volume) := by
  rw [ensureDirectory, stands]

theorem directoryPlace_of_directory (stands : volume.at? directory = some .directory) :
    directoryPlace volume directory = .ok (placeOf directory) := by
  have filled : directory ≠ "" := by
    rintro rfl
    cases stands
  unfold at? at stands
  split at stands
  case h_1 spot found =>
    obtain rfl := eq_of_find found
    simp only at stands
    rw [stands] at found
    rw [directoryPlace, if_neg filled, found]
  case h_2 => cases stands

theorem grows_ensureDirectory (volume : Volume) (directory : String) :
    volume.Grows (ensureDirectory volume directory).2 := by
  have grows := volume.grows_makeDirectories directory
  unfold ensureDirectory
  split
  case h_1 => exact .refl volume
  case h_2 => exact .refl volume
  case h_3 => split <;> simp_all

theorem mem_joinName {c : Char} (inside : c ∈ (joinName directory name).toList) :
    c ∈ directory.toList ∨ c = '/' ∨ c ∈ name.toList := by
  unfold joinName at inside
  split at inside
  · exact .inr (.inr inside)
  · rw [String.toList_append, List.mem_append] at inside
    exact inside.imp_right .inr
  · simp only [String.toList_append, List.mem_append, slash_toList, List.mem_singleton] at inside
    exact or_assoc.mp inside

/-- What is below a directory is found under the directory's path and its name. -/
theorem find_joinName (found : directoryPlace volume directory = .ok place)
    (isName : isFileName name = true) (noNul : '\x00' ∉ name.toList)
    (short : name.utf8ByteSize ≤ maxNameBytes)
    (noDirectory : volume.entryAt (place ++ [name]) ≠ some .directory) :
    volume.find (joinName directory name) =
      .ok ⟨place ++ [name], volume.entryAt (place ++ [name])⟩ := by
  have isPartName := isPartName_of_isFileName isName
  obtain ⟨rfl, noNulAbove, stands⟩ := directoryPlace_eq_ok_iff.mp found
  have filled : joinName directory name ≠ "" := by
    intro empty
    have parted := parts_joinName directory isPartName
    rw [empty] at parted
    simp [show parts "" = [] from rfl] at parted
  have clean : ¬ (joinName directory name).toList.contains '\x00' = true := by
    rw [List.contains_eq_mem, decide_eq_true_eq]
    intro inside
    rcases mem_joinName inside with above | slash | own
    · exact noNulAbove above
    · cases slash
    · exact noNul own
  rw [find, if_neg filled, if_neg clean, endsAsDirectory_joinName directory isPartName,
    parts_joinName directory isPartName, follow_append false stands, follow,
    if_neg (Nat.not_lt.mpr short), ← placeOf]
  cases here : volume.entryAt (placeOf directory ++ [name]) with
  | none => simp [here]
  | some entry =>
      cases entry with
      | directory => exact absurd here noDirectory
      | file content => simp [here]

/-- A file below a directory can be read under its path. -/
theorem read_joinName (found : directoryPlace volume directory = .ok place)
    (isName : isFileName name = true) (noNul : '\x00' ∉ name.toList)
    (short : name.utf8ByteSize ≤ maxNameBytes) {content : Bytes}
    (holds : volume.fileAt (place ++ [name]) = some content) :
    volume.read (joinName directory name) = .ok content := by
  rw [fileAt_eq_some_iff] at holds
  rw [Volume.read, find_joinName found isName noNul short (by simp [holds]), holds]

/-- What is read under a path is the file at its place. -/
theorem fileAt_of_read {path : String} {content : Bytes} (read : volume.read path = .ok content) :
    volume.fileAt (placeOf path) = some content := by
  unfold Volume.read at read
  split at read
  case h_1 => cases read
  case h_2 found =>
    obtain ⟨_, stands⟩ := Spot.mk.inj (eq_of_find found)
    cases read
    exact (fileAt_eq_some_iff ..).mpr stands.symm
  case h_3 => cases read
  case h_4 => cases read

theorem placeOf_joinName (directory : String) (isName : isFileName name = true) :
    placeOf (joinName directory name) = placeOf directory ++ [name] := by
  rw [placeOf, parts_joinName directory (isPartName_of_isFileName isName), destination_concat]
  rfl

/-! ## Starting a file -/

/-- A file is started in its directory, which is not read-only, as a draft with a new number. -/
theorem started_of_beginFile {file : PendingFile}
    (begun : beginFile volume directory name = (.ok file, opened)) :
    isFileName name = true ∧
      directoryPlace (ensureDirectory volume directory).2 directory = .ok (placeOf directory) ∧
      (ensureDirectory volume directory).2.isReadOnly (placeOf directory) = false ∧
      file = ⟨volume.nextDraft, directory, name, 0⟩ ∧
      opened = ((ensureDirectory volume directory).2.openDraft (placeOf directory)).2 := by
  unfold beginFile at begun
  split at begun
  case isTrue => cases begun
  case isFalse isName =>
    refine ⟨by simpa using isName, ?_⟩
    have grows := grows_ensureDirectory volume directory
    split at begun
    case h_1 => cases begun
    case h_2 made ensured =>
      rw [ensured] at grows ⊢
      split at begun
      case h_1 => cases begun
      case h_2 place found =>
        obtain rfl := placeOf_of_directoryPlace found
        split at begun
        case isTrue => cases begun
        case isFalse writable =>
          cases begun
          exact ⟨found, eq_false_of_ne_true writable, by rw [grows.nextDraft], rfl⟩

/-- Where a file is not started, at most the directory is made. -/
theorem refused_cases {error : OutputError}
    (refused : beginFile volume directory name = (.error error, after)) :
    after = volume ∨ after = (ensureDirectory volume directory).2 := by
  unfold beginFile at refused
  split at refused
  case isTrue => exact .inl (Prod.mk.inj refused).2.symm
  case isFalse =>
    right
    split at refused
    case h_1 ensured =>
      rw [ensured]
      exact (Prod.mk.inj refused).2.symm
    case h_2 ensured =>
      rw [ensured]
      split at refused
      case h_1 => exact (Prod.mk.inj refused).2.symm
      case h_2 =>
        split at refused
        case isTrue => exact (Prod.mk.inj refused).2.symm
        case isFalse => cases refused

/-- A file that is not started leaves directories behind at most. -/
theorem grows_of_refused {error : OutputError}
    (refused : beginFile volume directory name = (.error error, after)) : volume.Grows after := by
  rcases refused_cases refused with rfl | rfl
  · exact .refl after
  · exact grows_ensureDirectory volume directory

/-- Starting a file fails for its name exactly if the name is no file name, and then nothing
at all has changed. -/
theorem beginFile_eq_fileName_iff {given : String} :
    (∃ after, beginFile volume directory name = (.error (.fileName given), after)) ↔
      given = name ∧ isFileName name = false := by
  constructor
  · rintro ⟨after, refused⟩
    unfold beginFile at refused
    split at refused
    case isTrue noName =>
      cases refused
      exact ⟨rfl, by simpa using noName⟩
    case isFalse =>
      exfalso
      split at refused
      case h_1 error made ensured =>
        cases refused
        unfold ensureDirectory at ensured
        split at ensured
        · cases ensured
        · cases ensured
        · split at ensured <;> cases ensured
      case h_2 =>
        split at refused
        · cases refused
        · split at refused <;> cases refused
  · rintro ⟨rfl, noName⟩
    exact ⟨volume, by rw [beginFile, noName]; rfl⟩

theorem beginFile_of_noName (volume : Volume) (directory : String)
    (noName : isFileName name = false) :
    beginFile volume directory name = (.error (.fileName name), volume) := by
  rw [beginFile, noName]
  rfl

/-- In a directory that is there and not read-only every file can be started. -/
theorem beginFile_of_directory (stands : volume.at? directory = some .directory)
    (writable : volume.isReadOnly (placeOf directory) = false) (isName : isFileName name = true) :
    beginFile volume directory name =
      (.ok ⟨volume.nextDraft, directory, name, 0⟩,
        (volume.openDraft (placeOf directory)).2) := by
  rw [beginFile, isName, ensureDirectory_of_directory stands]
  simp only [Bool.not_true, Bool.false_eq_true, if_false, directoryPlace_of_directory stands,
    writable]
  rfl

/-- In a directory that is read-only no file can be started. -/
theorem beginFile_of_readOnly (stands : volume.at? directory = some .directory)
    (readOnly : volume.isReadOnly (placeOf directory) = true) (isName : isFileName name = true) :
    beginFile volume directory name =
      (.error (.system (.deniedAt volume.draftPath)), volume) := by
  rw [beginFile, isName, ensureDirectory_of_directory stands]
  simp only [Bool.not_true, Bool.false_eq_true, if_false, directoryPlace_of_directory stands,
    readOnly, if_true]

/-! ## Writing and naming a file -/

/-- A name can be given at a place below a directory if it is no longer than names can be,
holds no zero character, the directory is not read-only, and no directory stands there. -/
structure Volume.CanName (volume : Volume) (place : Place) (name : String) : Prop where
  noNul : '\x00' ∉ name.toList
  short : name.utf8ByteSize ≤ maxNameBytes
  writable : volume.isReadOnly place = false
  above : volume.entryAt place = some .directory
  free : volume.entryAt (place ++ [name]) ≠ some .directory

/-- A draft gets its name if the name can be given; otherwise it is dropped, and nothing else
happens. -/
theorem nameDraft_cases {number : Nat} {draft : Draft} (volume : Volume) (name : String)
    (found : volume.draft? number = some draft) :
    (volume.CanName draft.directory name ∧
        volume.nameDraft number name =
          (.ok (), (volume.dropDraft number).put (draft.directory ++ [name])
            (.file draft.content))) ∨
      (¬ volume.CanName draft.directory name ∧
        ∃ error, volume.nameDraft number name = (.error error, volume.dropDraft number)) := by
  unfold nameDraft
  simp only [found]
  split
  case isTrue nul => exact .inr ⟨fun can => can.noNul (by simpa using nul), _, rfl⟩
  case isFalse noNul =>
    split
    case isTrue long => exact .inr ⟨fun can => Nat.not_le.mpr long can.short, _, rfl⟩
    case isFalse short =>
      split
      case isTrue readOnly =>
        exact .inr ⟨fun can => Bool.false_ne_true (can.writable.symm.trans readOnly), _, rfl⟩
      case isFalse writable =>
        split
        case h_1 stands => exact .inr ⟨fun can => can.free stands, _, rfl⟩
        case h_2 above free =>
          exact .inl ⟨⟨by simpa using noNul, Nat.not_lt.mp short,
            eq_false_of_ne_true writable, above, free⟩, rfl⟩
        case h_3 => exact .inr ⟨fun can => by simp_all [can.above], _, rfl⟩

namespace PendingFile

/-- A chunk is appended whole if there is room for it; otherwise some of it is taken. -/
theorem append_cases (file : PendingFile) (volume : Volume) (chunk : Bytes) :
    (volume.HasRoom file.draft chunk.length ∧
        file.append volume chunk =
          (.ok (file.write volume chunk).1, volume.extendDraft file.draft chunk)) ∨
      (¬ volume.HasRoom file.draft chunk.length ∧
        ∃ error, (volume.offer file.draft chunk).1 <+: chunk ∧
          file.append volume chunk = (.error (.system error),
            volume.extendDraft file.draft (volume.offer file.draft chunk).1)) := by
  unfold append
  rcases volume.offer_cases file.draft chunk with
    ⟨hasRoom, offered⟩ | ⟨noRoom, taken, error, part, offered⟩
  · rw [offered]
    exact .inl ⟨hasRoom, rfl⟩
  · rw [offered]
    exact .inr ⟨noRoom, error, part, rfl⟩

theorem appendAll_singleton (file : PendingFile) (volume : Volume) (chunk : Bytes) :
    file.appendAll volume [chunk] = file.append volume chunk := by
  unfold appendAll
  rcases file.append volume chunk with ⟨_ | _, _⟩ <;> rfl

/-- Chunks that are appended one after the other all come into the draft, in order, if there is
room for them; otherwise what comes into the draft is some part of them. -/
theorem appendAll_cases (file : PendingFile) (volume : Volume) (chunks : List Bytes) :
    (∃ written, file.appendAll volume chunks =
        (.ok { file with written := written }, volume.extendDraft file.draft chunks.flatten)) ∨
      (¬ volume.HasRoom file.draft chunks.flatten.length ∧
        ∃ error part, file.appendAll volume chunks =
          (.error (.system error), volume.extendDraft file.draft part)) := by
  induction chunks generalizing file volume with
  | nil => exact .inl ⟨file.written, by rw [List.flatten_nil, extendDraft_nil]; rfl⟩
  | cons chunk chunks ih =>
      rw [List.flatten_cons, List.length_append, extendDraft_append]
      unfold appendAll
      rcases file.append_cases volume chunk with ⟨_, appended⟩ | ⟨noRoom, error, _, stuck⟩
      case inl =>
        simp only [appended]
        refine (ih _ (volume.extendDraft file.draft chunk)).imp_right ?_
        rintro ⟨noRoom, error, part, stuck⟩
        refine ⟨fun hasRoom => noRoom fun room error draft faulty found => ?_, error,
          chunk ++ part, by rw [extendDraft_append]; exact stuck⟩
        -- What was there before the chunk is shorter by just the chunk.
        rw [show (file.write volume chunk).1.draft = file.draft from rfl,
          draft?_extendDraft] at found
        obtain ⟨before, isBefore, rfl⟩ := Option.map_eq_some_iff.mp found
        have room := hasRoom room error before faulty isBefore
        simp only [List.length_append]
        omega
      case inr =>
        refine .inr ⟨fun hasRoom => noRoom fun room error draft faulty found => ?_, error,
          (volume.offer file.draft chunk).1, by simp only [stuck]⟩
        have room := hasRoom room error draft faulty found
        omega

/-- A file gets its name if its draft can be brought to the disk and the name can be given;
otherwise its draft is dropped, and nothing else happens. -/
theorem commit_cases (file : PendingFile) {draft : Draft} (volume : Volume)
    (found : volume.draft? file.draft = some draft) :
    (volume.syncError? file.draft = none ∧ volume.CanName draft.directory file.name ∧
        file.commit volume = (.ok file.target, (volume.dropDraft file.draft).put
          (draft.directory ++ [file.name]) (.file draft.content))) ∨
      (¬ (volume.syncError? file.draft = none ∧ volume.CanName draft.directory file.name) ∧
        ∃ error, file.commit volume = (.error (.system error), volume.dropDraft file.draft)) := by
  unfold commit
  cases synced : volume.syncError? file.draft with
  | some error =>
      right
      refine ⟨fun both => ?_, error, rfl⟩
      cases both.1
  | none =>
      rcases nameDraft_cases volume file.name found with ⟨can, named⟩ | ⟨cannot, error, refused⟩
      · exact .inl ⟨rfl, can, by rw [named]⟩
      · exact .inr ⟨fun both => cannot both.2, error, by rw [refused]⟩

end PendingFile

/-- The system takes a draft of so many bytes and brings it to the disk. -/
structure Volume.Takes (volume : Volume) (number length : Nat) : Prop where
  room : ∀ room error, volume.faults.lookup number = some (.full room error) → length ≤ room
  synced : volume.syncError? number = none

/-- A draft that is new has all the room that the system gives it. -/
theorem Volume.Takes.hasRoom (numbered : volume.Numbered) {length : Nat}
    (takes : volume.Takes volume.nextDraft length) (place : Place) :
    (volume.withDraft place []).HasRoom volume.nextDraft length := by
  intro room error draft faulty found
  rw [draft?_withDraft numbered] at found
  cases found
  exact takes.room room error faulty

namespace PendingFile

/-- Chunks come into a new draft as they come into any. -/
theorem appendAll_withDraft_cases (file : PendingFile) (numbered : volume.Numbered)
    (own : file.draft = volume.nextDraft) (place : Place) (chunks : List Bytes) :
    (∃ written, file.appendAll (volume.withDraft place []) chunks =
        (.ok { file with written := written }, volume.withDraft place chunks.flatten)) ∨
      (¬ volume.Takes file.draft chunks.flatten.length ∧
        ∃ error part, file.appendAll (volume.withDraft place []) chunks =
          (.error (.system error), volume.withDraft place part)) := by
  have extended (part : Bytes) : (volume.withDraft place []).extendDraft file.draft part =
      volume.withDraft place part := own ▸ extendDraft_withDraft numbered place [] part
  rcases file.appendAll_cases (volume.withDraft place []) chunks with
    ⟨written, appended⟩ | ⟨noRoom, error, part, stuck⟩
  · exact .inl ⟨written, by rw [appended, extended]⟩
  · refine .inr ⟨fun takes => noRoom ?_, error, part, by rw [stuck, extended]⟩
    rw [own] at takes ⊢
    exact takes.hasRoom numbered place

/-- A new draft gets its name, or nothing is left of it but that its number has passed. -/
theorem commit_withDraft_cases (file : PendingFile) (numbered : volume.Numbered)
    (own : file.draft = volume.nextDraft) (place : Place) (content : Bytes) :
    (volume.syncError? file.draft = none ∧ volume.CanName place file.name ∧
        file.commit (volume.withDraft place content) = (.ok file.target,
          volume.passNumber.put (place ++ [file.name]) (.file content))) ∨
      (¬ (volume.syncError? file.draft = none ∧ volume.CanName place file.name) ∧
        ∃ error, file.commit (volume.withDraft place content) =
          (.error (.system error), volume.passNumber)) := by
  have found : (volume.withDraft place content).draft? file.draft =
      some ⟨volume.nextDraft, place, content⟩ := own ▸ draft?_withDraft numbered place content
  have dropped : (volume.withDraft place content).dropDraft file.draft = volume.passNumber :=
    own ▸ dropDraft_withDraft numbered place content
  rcases file.commit_cases (volume.withDraft place content) found with
    ⟨synced, can, named⟩ | ⟨cannot, error, refused⟩
  · rw [dropped] at named
    exact .inl ⟨synced, ⟨can.noNul, can.short, can.writable, can.above, can.free⟩, named⟩
  · rw [dropped] at refused
    refine .inr ⟨fun both => cannot ⟨both.1, ?_⟩, error, refused⟩
    exact ⟨both.2.noNul, both.2.short, both.2.writable, both.2.above, both.2.free⟩

end PendingFile

/-- A file that is written in one go stands below its directory with its content, or nothing is
left of it but that directories may have been made. -/
theorem writeFile_cases (numbered : volume.Numbered) (directory name : String)
    (content : Bytes) :
    let made := (ensureDirectory volume directory).2
    (directoryPlace made directory = .ok (placeOf directory) ∧
        made.CanName (placeOf directory) name ∧
        writeFile volume directory name content =
          (.ok (joinName directory name),
            made.passNumber.put (placeOf directory ++ [name]) (.file content))) ∨
      ∃ error after, writeFile volume directory name content = (.error error, after) ∧
        (after = volume ∨ after = made ∨ after = made.passNumber) := by
  intro made
  have grows : volume.Grows made := grows_ensureDirectory volume directory
  have madeNumbered := grows.numbered numbered
  unfold writeFile
  cases begun : beginFile volume directory name with
  | mk result opened =>
      cases result with
      | error error => exact .inr ⟨error, opened, rfl, (refused_cases begun).imp_right .inl⟩
      | ok file =>
          obtain ⟨_, found, _, rfl, rfl⟩ := started_of_beginFile begun
          rw [openDraft_volume, ← grows.nextDraft]
          let file : PendingFile := ⟨made.nextDraft, directory, name, 0⟩
          have dropped := dropDraft_withDraft madeNumbered (placeOf directory)
          simp only [← PendingFile.appendAll_singleton]
          rcases file.appendAll_withDraft_cases madeNumbered rfl (placeOf directory) [content] with
            ⟨written, appended⟩ | ⟨_, error, part, stuck⟩
          case inr =>
            rw [stuck]
            exact .inr ⟨_, _, rfl, .inr (.inr (dropped part))⟩
          case inl =>
            rw [appended, List.flatten_singleton]
            rcases PendingFile.commit_withDraft_cases { file with written := written }
              madeNumbered rfl (placeOf directory) content with
              ⟨_, can, named⟩ | ⟨_, error, refused⟩
            · exact .inl ⟨found, can, named⟩
            · exact .inr ⟨_, _, refused, .inr (.inr rfl)⟩

/-- A file that is not written changes no other file. -/
theorem fileAt_of_writeFile_failed (numbered : volume.Numbered) {content : Bytes}
    {error : OutputError}
    (failed : writeFile volume directory name content = (.error error, after)) (other : Place) :
    after.fileAt other = volume.fileAt other := by
  have grown : (ensureDirectory volume directory).2.fileAt other = volume.fileAt other :=
    (grows_ensureDirectory volume directory).fileAt other
  rcases writeFile_cases numbered directory name content with
    ⟨_, _, wrote⟩ | ⟨_, left, left_eq, made⟩
  · rw [failed] at wrote
    cases wrote
  · rw [failed] at left_eq
    obtain rfl : after = left := (Prod.mk.inj left_eq).2
    rcases made with rfl | rfl | rfl
    · rfl
    · exact grown
    · exact (fileAt_of_entryAt (entryAt_of_entries rfl other)).trans grown

/-- Writing a file in one go leaves no draft, whatever becomes of it. -/
theorem numbered_writeFile (numbered : volume.Numbered) (directory name : String)
    (content : Bytes) : (writeFile volume directory name content).2.Numbered := by
  have madeNumbered := (grows_ensureDirectory volume directory).numbered numbered
  have passed := fun draft member => Nat.lt_succ_of_lt (madeNumbered draft member)
  rcases writeFile_cases numbered directory name content with
    ⟨_, _, wrote⟩ | ⟨error, after, failed, rfl | rfl | rfl⟩
  · rw [wrote]
    exact passed
  · rw [failed]
    exact numbered
  · rw [failed]
    exact madeNumbered
  · rw [failed]
    exact passed

end UtilityBilling.Files
