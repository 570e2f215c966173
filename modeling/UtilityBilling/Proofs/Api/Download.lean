/-
# Downloads are all or nothing

A download sends one request and saves the body of its answer. It succeeds only with the
whole body of a success, under a name that is a file name, and then the file holds exactly
this body. Whatever goes wrong before leaves every file as it was, an earlier file of the
same name included, and no draft behind.
-/

import UtilityBilling.Proofs.Api.SessionFile
import UtilityBilling.Proofs.Files.Pending

namespace UtilityBilling.Api

open UtilityBilling.Files
open UtilityBilling.Files.Volume
open UtilityBilling.Text (Bytes)
open UtilityBilling.Url (Address)

variable {volume : Volume} {directory name : String} {answer : Answer}

/-- What is left of a volume when a file comes under a name of a directory. -/
def saved (volume : Volume) (directory name : String) (content : Bytes) : Volume :=
  volume.passNumber.put (placeOf directory ++ [name]) (.file content)

/-- A body is saved whole, or nothing but the directory is made. In a directory that is there
it is saved unless there is a reason not to. -/
theorem saveBody_cases (numbered : volume.Numbered) (directory name : String)
    (answer : Answer) :
    let made := (ensureDirectory volume directory).2
    (isFileName name = true ∧ answer.isComplete = true ∧
        directoryPlace made directory = .ok (placeOf directory) ∧
        made.CanName (placeOf directory) name ∧
        saveBody volume directory name answer =
          (.ok (joinName directory name), saved made directory name answer.bytes)) ∨
      ∃ error after, saveBody volume directory name answer = (.error error, after) ∧
        (after = volume ∨ after = made ∨ after = made.passNumber) ∧
        (volume.at? directory = some .directory →
          ¬ (isFileName name = true ∧ answer.isComplete = true ∧
            volume.CanName (placeOf directory) name ∧
            volume.Takes volume.nextDraft answer.bytes.length)) := by
  intro made
  have grows : volume.Grows made := grows_ensureDirectory volume directory
  have madeNumbered := grows.numbered numbered
  have same (stands : volume.at? directory = some .directory) : made = volume :=
    congrArg Prod.snd (ensureDirectory_of_directory stands)
  unfold saveBody
  cases begun : beginFile volume directory name with
  | mk result opened =>
      cases result with
      | error error =>
          refine .inr ⟨_, _, rfl, (refused_cases begun).imp_right .inl, ?_⟩
          rintro stands ⟨isName, _, can, _⟩
          rw [beginFile_of_directory stands can.writable isName] at begun
          cases begun
      | ok file =>
          obtain ⟨isName, found, _, rfl, rfl⟩ := started_of_beginFile begun
          rw [openDraft_volume, ← grows.nextDraft]
          let file : PendingFile := ⟨made.nextDraft, directory, name, 0⟩
          have dropped := dropDraft_withDraft madeNumbered (placeOf directory)
          dsimp only
          rcases file.appendAll_withDraft_cases madeNumbered rfl (placeOf directory)
            answer.chunks with ⟨written, appended⟩ | ⟨noRoom, error, part, stuck⟩
          case inr =>
            rw [stuck]
            refine .inr ⟨_, _, rfl, .inr (.inr (dropped part)), ?_⟩
            rintro stands ⟨_, _, _, takes⟩
            rw [← same stands] at takes
            exact noRoom takes
          case inl =>
            rw [appended, ← Answer.bytes]
            cases cut : answer.cut? with
            | some reason =>
                refine .inr ⟨_, _, rfl, .inr (.inr (dropped _)), ?_⟩
                rintro _ ⟨_, complete, _⟩
                rw [Answer.isComplete, cut] at complete
                cases complete
            | none =>
                dsimp only
                rcases PendingFile.commit_withDraft_cases { file with written := written }
                    madeNumbered rfl (placeOf directory) answer.bytes with
                  ⟨_, can, named⟩ | ⟨cannot, error, refused⟩
                · rw [named]
                  exact .inl ⟨isName, by rw [Answer.isComplete, cut]; rfl, found, can, rfl⟩
                · rw [refused]
                  refine .inr ⟨storageError (.system error), made.passNumber, rfl,
                    .inr (.inr rfl), ?_⟩
                  rintro stands ⟨_, _, can, takes⟩
                  rw [← same stands] at can takes
                  exact cannot ⟨takes.synced, can⟩

-- A disk that is full after one byte stops the second chunk: the earlier file stays.
example :
    let out : List (Place × Entry) := [(["out"], .directory), (["out", "a"], .file [1])]
    let volume : Volume := { entries := out, faults := [(0, .full 1 (.noSpaceAt "out/.x"))] }
    saveBody volume "out" "a" { status := .ok, chunks := [[2], [3, 4]] } =
      (.error ⟨.storage, "io error: No space left on device (os error 28) at path \"out/.x\""⟩,
        { volume with nextDraft := 1 }) := by
  rfl

/-- What is there of a file once it is saved. -/
structure Holds (before : Volume) (directory name : String) (content : Bytes) (path : String)
    (after : Volume) : Prop where
  isName : isFileName name = true
  joined : path = joinName directory name
  /-- The file stands right below the directory. -/
  below : placeOf path = placeOf directory ++ [name]
  read : after.read path = .ok content
  /-- Nothing else has changed, but that the directory may have been made. -/
  others : ∀ place, place ≠ placeOf path →
    after.entryAt place = before.entryAt place ∨
      (before.at? directory ≠ some .directory ∧ before.entryAt place = none ∧
        after.entryAt place = some .directory)
  drafts : after.drafts = before.drafts

/-- A body that is saved can be read. -/
theorem holds_saved (isName : isFileName name = true)
    (found : directoryPlace (ensureDirectory volume directory).2 directory =
      .ok (placeOf directory))
    (can : (ensureDirectory volume directory).2.CanName (placeOf directory) name)
    (content : Bytes) :
    Holds volume directory name content (joinName directory name)
      (saved (ensureDirectory volume directory).2 directory name content) := by
  have grows := grows_ensureDirectory volume directory
  have inside : placeOf directory ++ [name] ≠ [] := by simp
  have below := placeOf_joinName directory isName
  have keeps : (ensureDirectory volume directory).2.KeepsDirectories
      (saved (ensureDirectory volume directory).2 directory name content) :=
    keepsDirectories_put inside can.free rfl content
  constructor
  case isName => exact isName
  case joined => rfl
  case below => exact below
  case read =>
    apply read_joinName (keeps.directoryPlace found) isName can.noNul can.short
    rw [saved, fileAt_put _ inside, if_pos rfl]
  case others =>
    intro place apart
    rw [below] at apart
    rw [saved, entryAt_put _ inside, if_neg apart]
    by_cases stands : volume.at? directory = some .directory
    · rw [ensureDirectory_of_directory stands]
      exact .inl rfl
    · exact (grows.entry place).imp_right fun made => ⟨stands, made⟩
  case drafts => exact grows.drafts

/-- Where a body is not saved, at most a directory is made. -/
theorem spares_of_made {after : Volume}
    (cases : after = volume ∨ after = (ensureDirectory volume directory).2 ∨
      after = (ensureDirectory volume directory).2.passNumber) : volume.Spares none after := by
  have grows := (grows_ensureDirectory volume directory).spares none
  rcases cases with rfl | rfl | rfl
  · exact .refl none after
  · exact grows
  · exact grows.trans (.of_entries rfl rfl (Nat.le_succ _) rfl)

/-- Saving a body leaves all directories, those that are read-only among them, and every file
but its own. -/
theorem saveBody_keeps (numbered : volume.Numbered) (directory name : String) (answer : Answer) :
    volume.KeepsDirectories (saveBody volume directory name answer).2 ∧
      (saveBody volume directory name answer).2.readOnly = volume.readOnly ∧
      (saveBody volume directory name answer).2.Numbered ∧
      ∀ place, place ≠ placeOf directory ++ [name] →
        (saveBody volume directory name answer).2.fileAt place = volume.fileAt place := by
  have grows := grows_ensureDirectory volume directory
  have inside : placeOf directory ++ [name] ≠ [] := by simp
  rcases saveBody_cases numbered directory name answer with
    ⟨_, _, _, can, succeeds⟩ | ⟨_, after, fails, cases, _⟩
  · rw [succeeds]
    refine ⟨grows.keepsDirectories.trans (keepsDirectories_put inside can.free rfl _),
      grows.readOnly, ?_, ?_⟩
    · intro draft member
      exact Nat.lt_succ_of_lt (grows.numbered numbered draft member)
    · intro place apart
      rw [saved, fileAt_put _ inside, if_neg apart]
      exact grows.fileAt place
  · rw [fails]
    have spares := spares_of_made cases
    exact ⟨spares.keepsDirectories, spares.readOnly, spares.numbered numbered, fun place _ =>
      spares.fileAt_of_none place⟩

/-- The reply to the request for a link ends the session: it is the backend's refusal, and the
session has not ended before. -/
def EndsSession (settings : Settings) (line : Line) (state : State) (link : String) : Prop :=
  state.latchClosed = false ∧ ∃ url, settings.resolveLink link = .ok url ∧
    RefusedByBackend settings url (exchange line state (authorized settings state (.getFile url))).1

/-- What a download that fails leaves. -/
structure Unsaved (settings : Settings) (line : Line) (before : State) (link directory : String)
    (after : State) : Prop where
  /-- Every file stays as it is and no draft is left; at most directories are made. -/
  files : ¬ EndsSession settings line before link → before.volume.Spares none after.volume
  /-- Where the directory is there nothing is made. -/
  calm : ¬ EndsSession settings line before link →
    before.volume.at? directory = some .directory → after.volume.entries = before.volume.entries
  /-- The end of the session takes the session file, where there is one, and no other file. -/
  ended : EndsSession settings line before link →
    before.volume.Spares before.sessionPlace? after.volume

variable {settings : Settings} {line : Line} {before after state : State} {link : String}
  {url : Address}

theorem Unsaved.of_volume (same : after.volume = before.volume) (directory : String) :
    Unsaved settings line before link directory after where
  files _ := by
    rw [same]
    exact .refl none before.volume
  calm _ _ := congrArg Volume.entries same
  ended _ := by
    rw [same]
    exact .refl _ before.volume

theorem download_of_unresolved {error : Error}
    (unresolved : settings.resolveLink link = .error error) :
    download settings line state link directory name = (.error error, state) := by
  rw [download, unresolved]

/-- What an answer brings is saved. -/
theorem download_of_sent (resolves : settings.resolveLink link = .ok url)
    (sent : send settings line state (.getFile url) = (.ok answer, after)) :
    download settings line state link directory name =
      ((saveBody after.volume directory name answer).1,
        { after with volume := (saveBody after.volume directory name answer).2 }) := by
  rw [download, resolves]
  simp only [sent]

/-- What fails on the line fails as a whole. -/
theorem download_of_failed {error : Error} (resolves : settings.resolveLink link = .ok url)
    (failed : send settings line state (.getFile url) = (.error error, after)) :
    download settings line state link directory name = (.error error, after) := by
  rw [download, resolves]
  simp only [failed]

theorem not_refused_of_isSuccess (success : answer.status.isSuccess = true) :
    ¬ RefusedByBackend settings url (.ok answer) := by
  rintro ⟨_, ⟨⟩, unauthorized, _⟩
  rw [unauthorized] at success
  revert success
  decide

/-- A body that is not saved leaves every file. -/
theorem Unsaved.of_made (other : ¬ EndsSession settings line before link)
    (cases : after.volume = before.volume ∨
      after.volume = (ensureDirectory before.volume directory).2 ∨
      after.volume = (ensureDirectory before.volume directory).2.passNumber) :
    Unsaved settings line before link directory after where
  files _ := spares_of_made cases
  calm _ stands := by
    rw [ensureDirectory_of_directory stands] at cases
    rcases cases with same | same | same
    · rw [same]
    · rw [same]
    · rw [same]
      rfl
  ended ends := absurd ends other

/-- The backend's refusal leaves every file but the session file. -/
theorem Unsaved.of_refused {exchanged : State} (resolves : settings.resolveLink link = .ok url)
    (refused : RefusedByBackend settings url
      (exchange line before (authorized settings before (.getFile url))).1)
    (volume : exchanged.volume = before.volume) (standing : exchanged.standing = before.standing)
    (directory : String) :
    Unsaved settings line before link directory exchanged.expireSession := by
  have latch : exchanged.latchClosed = before.latchClosed :=
    congrArg Standing.latchClosed standing
  cases closed : before.latchClosed with
  | true =>
      apply Unsaved.of_volume
      rw [State.volume_expireSession, if_pos (latch.trans closed), volume]
  | false =>
      have ends : EndsSession settings line before link := ⟨closed, url, resolves, refused⟩
      constructor
      case files => exact fun other => absurd ends other
      case calm => exact fun other => absurd ends other
      case ended =>
        intro _
        have spares := exchanged.spares_expireSession
        rwa [volume, sessionPlace?_of_standing standing] at spares

/-- A download that fails leaves every file. -/
theorem download_unsaved {error : Error} (numbered : state.volume.Numbered)
    (failed : download settings line state link directory name = (.error error, after)) :
    Unsaved settings line state link directory after := by
  cases resolves : settings.resolveLink link with
  | error error =>
      rw [download_of_unresolved resolves] at failed
      cases failed
      exact .of_volume rfl directory
  | ok url =>
      rcases send_cases settings line state (.getFile url) with
        ⟨refused, ended⟩ | ⟨other, ⟨error, unsent, failing, kept⟩ | ⟨answer, _, _, sent⟩⟩
      · rw [download_of_failed resolves ended] at failed
        cases failed
        exact .of_refused resolves refused (volume_exchange ..) (standing_exchange ..) directory
      · rw [download_of_failed resolves failing] at failed
        cases failed
        exact .of_volume kept directory
      · have calm : ¬ EndsSession settings line state link := by
          rintro ⟨_, target, resolved, refused⟩
          cases resolves.symm.trans resolved
          exact other refused
        rw [download_of_sent resolves sent, volume_exchange] at failed
        rcases saveBody_cases numbered directory name answer with
          ⟨_, _, _, _, saved⟩ | ⟨_, left, lost, cases, _⟩
        · rw [saved] at failed
          cases failed
        · rw [lost] at failed
          cases failed
          exact .of_made calm (by simpa using cases)

/-- What a download saves is the whole body of a success. -/
theorem download_saved {path : String} (numbered : state.volume.Numbered)
    (succeeded : download settings line state link directory name = (.ok path, after)) :
    ∃ url answer, settings.resolveLink link = .ok url ∧
      line state.sent (authorized settings state (.getFile url)) = .ok answer ∧
      answer.status.isSuccess = true ∧ answer.isComplete = true ∧
      Holds state.volume directory name answer.bytes path after.volume := by
  cases resolves : settings.resolveLink link with
  | error error =>
      rw [download_of_unresolved resolves] at succeeded
      cases succeeded
  | ok url =>
      rcases send_cases settings line state (.getFile url) with
        ⟨_, ended⟩ | ⟨_, ⟨error, unsent, failing, _⟩ | ⟨answer, answered, success, sent⟩⟩
      · rw [download_of_failed resolves ended] at succeeded
        cases succeeded
      · rw [download_of_failed resolves failing] at succeeded
        cases succeeded
      · rw [download_of_sent resolves sent, volume_exchange] at succeeded
        rcases saveBody_cases numbered directory name answer with
          ⟨isName, complete, found, can, saved⟩ | ⟨_, left, lost, _⟩
        · rw [saved] at succeeded
          cases succeeded
          refine ⟨url, answer, rfl, ?_, success, complete, holds_saved isName found can _⟩
          exact line_of_exchange answered
        · rw [lost] at succeeded
          cases succeeded

/-- A download is all or nothing. -/
structure AllOrNothing (settings : Settings) (line : Line) (state : State)
    (link directory name : String) : Prop where
  /-- It succeeds only with a success whose body came to its end, under a file name; then the
  file right below the directory holds exactly that body, and no other file has changed. -/
  saved : ∀ path after, download settings line state link directory name = (.ok path, after) →
    ∃ url answer, settings.resolveLink link = .ok url ∧
      line state.sent (authorized settings state (.getFile url)) = .ok answer ∧
      answer.status.isSuccess = true ∧ answer.isComplete = true ∧
      Holds state.volume directory name answer.bytes path after.volume
  /-- If it fails every file is as it was. -/
  unsaved : ∀ error after,
    download settings line state link directory name = (.error error, after) →
    Unsaved settings line state link directory after
  /-- It does succeed with such a body, if the directory is there, the name can be given and the
  system takes so many bytes. -/
  saves : ∀ url answer, settings.resolveLink link = .ok url →
    (exchange line state (authorized settings state (.getFile url))).1 = .ok answer →
    answer.status.isSuccess = true → answer.isComplete = true → isFileName name = true →
    state.volume.at? directory = some .directory →
    state.volume.CanName (placeOf directory) name →
    state.volume.Takes state.volume.nextDraft answer.bytes.length →
    (download settings line state link directory name).1 = .ok (joinName directory name)

/-- Every download is all or nothing. -/
theorem download_allOrNothing (numbered : state.volume.Numbered) (settings : Settings)
    (line : Line) (link directory name : String) :
    AllOrNothing settings line state link directory name where
  saved _ _ := download_saved numbered
  unsaved _ _ := download_unsaved numbered
  saves := by
    intro url answer resolves answered success complete isName stands can takes
    have sent : send settings line state (.getFile url) =
        (.ok answer, (exchange line state (authorized settings state (.getFile url))).2) := by
      rw [send]
      simp only [answered]
      rw [receive_of_not_refused _ (not_refused_of_isSuccess success), if_pos success]
    rw [download_of_sent resolves sent, volume_exchange]
    rcases saveBody_cases numbered directory name answer with
      ⟨_, _, _, _, saved⟩ | ⟨_, _, _, _, hindered⟩
    · rw [saved]
    · exact absurd ⟨isName, complete, can, takes⟩ (hindered stands)

end UtilityBilling.Api
