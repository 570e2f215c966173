/-
# Writing and removing a session file

A session that is written to its file is what the next reading finds there, unless the file
cannot be read; a file that is removed holds no session any more. Both are told for operations
that go well, where it is as good as success that there is no file.
-/

import UtilityBilling.Proofs.Files.Pending
import UtilityBilling.Proofs.Session.Reading
import UtilityBilling.Proofs.Session.StoredText
import UtilityBilling.Proofs.Text.Utf8

namespace UtilityBilling.Session

open UtilityBilling.Files
open UtilityBilling.Files.Volume
open UtilityBilling.Text (Bytes bytesOf quoted)

/-- An operation on the session file goes well if it succeeds or there is no file. -/
def wentWell {α : Type} : Except SystemError α → Bool
  | .ok _ => true
  | .error error => error == .notFound

theorem wentWell_error_iff {α : Type} {error : SystemError} :
    wentWell (.error error : Except SystemError α) = true ↔ error = .notFound :=
  beq_iff_eq

variable {volume after : Volume} {path name : String} {content : Bytes}

/-- A file below a directory is found under its path, unless the path holds a zero character or
can only mean a directory. -/
theorem find_eq_of_holds (named : fileName? path = some name)
    (above : directoryPlace volume (directoryOf path) = .ok (placeOf (directoryOf path)))
    (short : name.utf8ByteSize ≤ maxNameBytes)
    (holds : volume.entryAt (placeOf (directoryOf path) ++ [name]) = some (.file content)) :
    volume.find path =
      if path.toList.contains '\x00' then .error .nulInName
      else if endsAsDirectory path then .error .notDirectory
      else .ok ⟨placeOf (directoryOf path) ++ [name], some (.file content)⟩ := by
  have filled : path ≠ "" := by
    rintro rfl
    cases named
  obtain ⟨_, _, stands⟩ := directoryPlace_eq_ok_iff.mp above
  unfold Volume.find
  rw [if_neg filled]
  by_cases nul : path.toList.contains '\x00' = true
  · rw [if_pos nul, if_pos nul]
  · rw [if_neg nul, if_neg nul, parts_eq_of_fileName? named,
      follow_append (endsAsDirectory path) stands, Volume.follow, if_neg (Nat.not_lt.mpr short),
      ← placeOf]
    simp only [holds]
    cases endsAsDirectory path <;> rfl

/-- What a file that was written in one go has left. -/
structure Written (after : Volume) (path name : String) (content : Bytes) : Prop where
  above : directoryPlace after (directoryOf path) = .ok (placeOf (directoryOf path))
  noNul : '\x00' ∉ name.toList
  short : name.utf8ByteSize ≤ maxNameBytes
  holds : after.entryAt (placeOf (directoryOf path) ++ [name]) = some (.file content)

theorem written_of_writeFile {target : String} (numbered : volume.Numbered)
    (wrote : writeFile volume (directoryOf path) name content = (.ok target, after)) :
    Written after path name content := by
  rcases writeFile_cases numbered (directoryOf path) name content with
    ⟨above, can, written⟩ | ⟨error, _, failed, _⟩
  case inr =>
    rw [failed] at wrote
    cases wrote
  obtain rfl : _ = after := (Prod.mk.inj (written.symm.trans wrote)).2
  clear written wrote
  generalize (ensureDirectory volume (directoryOf path)).2 = made at above can
  have inside : placeOf (directoryOf path) ++ [name] ≠ [] := by simp
  have keeps : made.KeepsDirectories
      (made.passNumber.put (placeOf (directoryOf path) ++ [name]) (.file content)) :=
    keepsDirectories_put inside can.free rfl content
  refine ⟨keeps.directoryPlace above, can.noNul, can.short, ?_⟩
  rw [entryAt_put _ inside, if_pos rfl]

/-- A file that is written is found under its path, or there is a reason not to find it. -/
theorem find_of_writeFile {target : String} (named : fileName? path = some name)
    (numbered : volume.Numbered)
    (wrote : writeFile volume (directoryOf path) name content = (.ok target, after)) :
    (∃ place, after.find path = .ok ⟨place, some (.file content)⟩) ∨
      ∃ error, after.find path = .error error ∧ error ≠ .notFound := by
  have written := written_of_writeFile numbered wrote
  rw [find_eq_of_holds named written.above written.short written.holds]
  split
  case isTrue => exact .inr ⟨.nulInName, rfl, by decide⟩
  case isFalse =>
    split
    case isTrue => exact .inr ⟨.notDirectory, rfl, by decide⟩
    case isFalse => exact .inl ⟨_, rfl⟩

/-- A file that is written under a path that can mean a file is found there. -/
theorem exists_find_of_written (named : fileName? path = some name)
    (written : Written after path name content) (plain : endsAsDirectory path = false) :
    ∃ place, after.find path = .ok ⟨place, some (.file content)⟩ := by
  have noNul : ¬ path.toList.contains '\x00' = true := by
    rw [List.contains_eq_mem, decide_eq_true_eq]
    intro inside
    rcases mem_directoryOf_or_name named (by decide) (by decide) inside with above | own
    · exact (directoryPlace_eq_ok_iff.mp written.above).2.1 above
    · exact written.noNul own
  rw [find_eq_of_holds named written.above written.short written.holds, if_neg noNul, plain]
  exact ⟨_, rfl⟩

/-- A session whose text is found under a path is read there. -/
theorem readStored_of_text {session : Stored} {place : Place}
    (clock : session.savedAt.IsClockTime)
    (found : after.find path = .ok ⟨place, some (.file (bytesOf session.text))⟩) :
    (readStored after path).1 = some session := by
  have parsed := Stored.parse?_text clock
  generalize session.text = text at parsed found
  have read : after.readText path = .ok text := by
    rw [Volume.readText, Volume.read, found]
    simp only [Text.string?_bytesOf]
  rw [readStored, read]
  simp only [parsed]

/-- A session that is written is read back, unless the file cannot be read. -/
theorem readStored_of_writeFile {session : Stored} {target : String}
    (clock : session.savedAt.IsClockTime) (named : fileName? path = some name)
    (numbered : volume.Numbered)
    (wrote : writeFile volume (directoryOf path) name (bytesOf session.text) =
      (.ok target, after)) :
    (readStored after path).1 = some session ∨
      ((readStored after path).1 = none ∧ wentWell (after.readText path) = false) := by
  rcases find_of_writeFile named numbered wrote with ⟨place, found⟩ | ⟨error, failed, other⟩
  · exact .inl (readStored_of_text clock found)
  · right
    have unread : after.readText path = .error error := by
      rw [Volume.readText, Volume.read, failed]
    constructor
    · rw [readStored, unread]
      split <;> simp_all
    · rw [unread, ← Bool.not_eq_true, wentWell_error_iff]
      exact other

theorem volume_writeStored {session : Stored} {target : String}
    (named : fileName? path = some name)
    (wrote : writeFile volume (directoryOf path) name (bytesOf session.text) =
      (.ok target, after)) :
    (writeStored volume path session).1 = after := by
  rw [writeStored, named]
  simp only [wrote]

/-- What is logged of a session that could not be saved: an error that names the path. -/
inductive SavingFailed (path : String) : Log.Record → Prop where
  | noFileName :
      SavingFailed path (Log.error ("Session path " ++ quoted path ++ " has no file name"))
  | notWritten (error : OutputError) :
      SavingFailed path
        (Log.error ("Failed to write session to " ++ quoted path ++ ": " ++ error.message))

/-- A session is saved without a word, and is read again under its path if that can mean a file;
or one error is logged, and all files are as they were. -/
theorem writeStored_cases {session : Stored} (clock : session.savedAt.IsClockTime)
    (numbered : volume.Numbered) (path : String) :
    let saved := writeStored volume path session
    (saved.2 = [] ∧
        (endsAsDirectory path = false → (readStored saved.1 path).1 = some session)) ∨
      ∃ record, saved.2 = [record] ∧ SavingFailed path record ∧
        ∀ place, saved.1.fileAt place = volume.fileAt place := by
  intro saved
  cases named : fileName? path with
  | none =>
      have unnamed : saved =
          (volume, [Log.error ("Session path " ++ quoted path ++ " has no file name")]) := by
        simp only [saved, writeStored, named]
      rw [unnamed]
      exact .inr ⟨_, rfl, .noFileName, fun _ => rfl⟩
  | some name =>
      cases wrote : writeFile volume (directoryOf path) name (bytesOf session.text) with
      | mk result after =>
          cases result with
          | ok target =>
              have success : saved = (after, []) := by
                simp only [saved, writeStored, named, wrote]
              rw [success]
              refine .inl ⟨rfl, fun plain => ?_⟩
              have written := written_of_writeFile numbered wrote
              obtain ⟨place, found⟩ := exists_find_of_written named written plain
              exact readStored_of_text clock found
          | error error =>
              have failure : saved = (after,
                  [Log.error ("Failed to write session to " ++ quoted path ++ ": " ++
                    error.message)]) := by
                simp only [saved, writeStored, named, wrote]
              rw [failure]
              exact .inr ⟨_, rfl, .notWritten error,
                fun place => fileAt_of_writeFile_failed numbered wrote place⟩

/-- Writing a session keeps the numbers of drafts apart, whatever becomes of it. -/
theorem numbered_writeStored (numbered : volume.Numbered) (path : String) (session : Stored) :
    (writeStored volume path session).1.Numbered := by
  rw [writeStored]
  split
  case h_1 => exact numbered
  case h_2 name _ =>
    have written :=
      numbered_writeFile numbered (directoryOf path) name (bytesOf session.text)
    split
    case h_1 ok => rwa [ok] at written
    case h_2 failed => rwa [failed] at written

theorem numbered_put (store : FileStore) (numbered : volume.Numbered) (now : Instant)
    (token : String) : (store.put volume now token).2.1.Numbered :=
  numbered_writeStored numbered store.path ⟨store.baseUrl, token, now⟩

theorem read_of_removeFile (missing : volume.removeFile path = (.error .notFound, after)) :
    volume.read path = .error .notFound := by
  unfold removeFile at missing
  rw [Volume.read]
  split at missing
  case h_1 =>
    cases missing
    rfl
  case h_2 => split at missing <;> cases missing
  case h_3 => split at missing <;> cases missing
  case h_4 => rfl

/-- No session is read where the file has been removed or was not there. -/
theorem readStored_of_removeFile (well : wentWell (volume.removeFile path).1 = true) :
    (readStored (volume.removeFile path).2 path).1 = none := by
  rcases volume.removeFile_cases path with ⟨content, holds, _, removed⟩ | ⟨error, kept⟩
  · rw [removed]
    apply fst_readStored_of_fileAt
    rw [fileAt, entryAt_erase volume (ne_nil_of_fileAt holds), if_pos rfl]
  · have nothing : volume.readText path = .error .notFound := by
      rw [kept, wentWell_error_iff] at well
      rw [well] at kept
      rw [Volume.readText, read_of_removeFile kept]
    rw [kept, readStored, nothing]

end UtilityBilling.Session
