/-
# Reading a session file

What is read of a session depends on what the path of its file leads to, and on nothing else.
A session is shown to the backend that it belongs to, and to no other.
-/

import UtilityBilling.Proofs.Files.Places
import UtilityBilling.Session.FileStore

namespace UtilityBilling.Session

open UtilityBilling.Files
open UtilityBilling.Text (Bytes)

variable {volume before after : Volume} {path : String}

theorem find_of_read {content : Bytes} (read : volume.read path = .ok content) :
    volume.find path = .ok ⟨placeOf path, some (.file content)⟩ := by
  unfold Volume.read at read
  split at read
  case h_1 => cases read
  case h_2 found =>
    cases read
    obtain ⟨rfl, _⟩ := Volume.Spot.mk.inj (Volume.eq_of_find found)
    exact found
  case h_3 => cases read
  case h_4 => cases read

/-- What a path leads to is all that reading a session takes notice of. -/
theorem readStored_of_find (same : after.find path = before.find path) :
    readStored after path = readStored before path := by
  unfold readStored Volume.readText Volume.read
  rw [same]

/-- A session that is read stands in a file. -/
theorem exists_find_of_readStored {session : Stored} {log : List Log.Record}
    (read : readStored volume path = (some session, log)) :
    ∃ content, volume.find path = .ok ⟨placeOf path, some (.file content)⟩ := by
  unfold readStored Volume.readText at read
  cases there : volume.read path with
  | ok content => exact ⟨content, find_of_read there⟩
  | error error =>
      rw [there] at read
      cases error <;> cases read

theorem fst_readStored_of_fileAt (gone : volume.fileAt (placeOf path) = none) :
    (readStored volume path).1 = none := by
  cases read : readStored volume path with
  | mk session? log =>
      cases session? with
      | none => rfl
      | some session =>
          obtain ⟨content, found⟩ := exists_find_of_readStored read
          have holds := (Volume.Spot.mk.inj (Volume.eq_of_find found)).2.symm
          rw [Volume.fileAt, holds] at gone
          cases gone

theorem session_load (volume : Volume) (path baseUrl : String) :
    (FileStore.load volume path baseUrl).1 =
      ⟨path, baseUrl,
        (readStored volume path).1.filter fun session => session.baseUrl == baseUrl⟩ :=
  rfl

theorem load_of_readStored {session : Stored} (read : (readStored volume path).1 = some session) :
    (FileStore.load volume path session.baseUrl).1 = ⟨path, session.baseUrl, some session⟩ := by
  rw [session_load, read]
  simp

theorem load_of_nothing (nothing : (readStored volume path).1 = none) (baseUrl : String) :
    (FileStore.load volume path baseUrl).1 = ⟨path, baseUrl, none⟩ := by
  rw [session_load, nothing]
  rfl

/-- Where the file is gone no backend finds a session. -/
theorem token_load_of_fileAt (gone : volume.fileAt (placeOf path) = none) (baseUrl : String) :
    (FileStore.load volume path baseUrl).1.token = none := by
  rw [load_of_nothing (fst_readStored_of_fileAt gone)]
  rfl

/-- A session that is shown to one backend is shown to no other. -/
theorem token_load_of_other {here elsewhere token : String} (apart : here ≠ elsewhere)
    (holds : (FileStore.load volume path elsewhere).1.token = some token) :
    (FileStore.load volume path here).1.token = none := by
  rw [session_load, FileStore.token] at holds ⊢
  cases read : (readStored volume path).1 with
  | none => rfl
  | some session =>
      rw [read] at holds
      by_cases own : session.baseUrl = elsewhere
      · simp [Option.filter, own, Ne.symm apart]
      · simp [Option.filter, own] at holds

end UtilityBilling.Session
