/-
# What following a task leaves of files

A command that follows a task asks for its status any number of times and saves its file in
the end. Asking touches no file but the session file, and saving is all or nothing, so that
whatever the backend answers, in whatever pieces, no part of a file is ever left.
-/

import UtilityBilling.Proofs.Api.Download
import UtilityBilling.Proofs.Task.World
import UtilityBilling.Console.Follow

namespace UtilityBilling.Console

open UtilityBilling.Files
open UtilityBilling.Api (Line State Answer)

/-- What a command leaves of the files that were there before it. -/
structure Leaves (line : Line) (directory? : Option String) (before : State)
    (result : CommandResult) (after : State) : Prop where
  /-- No draft is left. -/
  drafts : after.volume.drafts = before.volume.drafts
  /-- Each place has the file that it had, or lost the session file, or holds the whole body of
  a success; that only in the directory for downloads, and only if nothing failed. -/
  file : ∀ place, after.volume.fileAt place = before.volume.fileAt place ∨
    (before.sessionPlace? = some place ∧ after.volume.fileAt place = none) ∨
    ∃ directory name answer, directory? = some directory ∧ isFileName name = true ∧
      place = placeOf directory ++ [name] ∧ result = .ok () ∧
      (∃ sent request, line sent request = .ok answer) ∧
      answer.status.isSuccess = true ∧ answer.isComplete = true ∧
      after.volume.fileAt place = some answer.bytes

section Lemmas

variable {line : Line} {directory? : Option String} {before between after : State}
  {result : CommandResult}

theorem Leaves.of_spares (spares : before.volume.Spares before.sessionPlace? after.volume) :
    Leaves line directory? before result after where
  drafts := spares.drafts
  file place := (spares.fileAt place).imp_right .inl

theorem Leaves.after_spares (spares : before.Spares between)
    (leaves : Leaves line directory? between result after) :
    Leaves line directory? before result after where
  drafts := leaves.drafts.trans spares.volume.drafts
  file place := by
    rcases leaves.file place with same | ⟨isSession, gone⟩ | saved
    · rw [same]
      exact (spares.volume.fileAt place).imp_right .inl
    · exact .inr (.inl ⟨spares.session ▸ isSession, gone⟩)
    · exact .inr (.inr saved)

variable (client : Client)

/-- Each question about a task leaves every file but the session file. -/
theorem keeps_statusSource (settings : Api.Settings) (line : Line) (before : State) :
    (statusSource settings line).Keeps before.Spares := by
  intro world taskId spares
  have asked := Api.spares_taskStatus settings line { world with log := [] } taskId
  unfold statusSource
  generalize Api.taskStatus settings line { world with log := [] } taskId = answered at asked ⊢
  obtain ⟨result, after⟩ := answered
  exact spares.trans (.of_log asked)

/-- Following a task leaves every file but the session file. -/
theorem spares_follow (taskId : String) (options : PollOptions) :
    client.state.Spares (client.follow taskId options).2.state := by
  have keeps := keeps_statusSource client.settings client.line client.state
  have served : (client.pollRun taskId options).Serves
      (statusSource client.settings client.line) client.state.Spares := by
    unfold Client.pollRun
    apply Task.Timeline.Serves.advance keeps
    apply Task.Timeline.Serves.poll keeps
    exact ⟨rfl, .refl _ _, rfl⟩
  unfold Client.follow
  generalize client.pollRun taskId options = run at served ⊢
  exact ⟨served.world.volume, served.world.session⟩

/-- What a download that fails leaves, whatever the command makes of it. -/
theorem Leaves.of_unsaved {settings : Api.Settings} {link directory : String}
    (unsaved : Api.Unsaved settings line before link directory after) :
    Leaves line directory? before result after := by
  by_cases ends : Api.EndsSession settings line before link
  · exact .of_spares (unsaved.ended ends)
  · exact .of_spares ((unsaved.files ends).weaken _)

/-- What a download that succeeds leaves. -/
theorem Leaves.of_holds {directory name path : String} {answer : Answer}
    (holds : Api.Holds before.volume directory name answer.bytes path after.volume)
    (answered : ∃ sent request, line sent request = .ok answer)
    (success : answer.status.isSuccess = true) (complete : answer.isComplete = true) :
    Leaves line (some directory) before (.ok ()) after where
  drafts := holds.drafts
  file place := by
    by_cases here : place = placeOf path
    · subst here
      right; right
      exact ⟨directory, name, answer, rfl, holds.isName, holds.below, rfl, answered, success,
        complete, fileAt_of_read holds.read⟩
    · left
      rcases holds.others place here with same | ⟨_, nothing, made⟩
      · exact Volume.fileAt_of_entryAt same
      · simp [Volume.fileAt, nothing, made]

/-- Saving a file leaves all of it or nothing. -/
theorem leaves_save (numbered : client.state.volume.Numbered) (link directory name : String) :
    Leaves client.line (some directory) client.state (client.save link directory name).1
      (client.save link directory name).2.state := by
  have grows := grows_ensureDirectory client.state.volume directory
  unfold Client.save
  cases ensured : ensureDirectory client.state.volume directory with
  | mk result made =>
      rw [ensured] at grows
      cases result with
      | error error => exact .of_spares (grows.spares _)
      | ok _ =>
          have prepared : client.state.Spares { client.state with volume := made } :=
            ⟨grows.spares _, rfl⟩
          apply Leaves.after_spares prepared
          dsimp only
          cases downloaded : Api.download client.settings client.line
            { client.state with volume := made } link directory name with
          | mk result after =>
              cases result with
              | error error =>
                  exact .of_unsaved (Api.download_unsaved (grows.numbered numbered) downloaded)
              | ok path =>
                  obtain ⟨_, answer, _, answered, success, complete, holds⟩ :=
                    Api.download_saved (grows.numbered numbered) downloaded
                  exact .of_holds holds ⟨_, _, answered⟩ success complete

@[simp]
theorem state_showResult (result : Option Json.Value) :
    (client.showResult result).state = client.state := by
  cases result <;> rfl

@[simp]
theorem line_showResult (result : Option Json.Value) :
    (client.showResult result).line = client.line := by
  cases result <;> rfl

theorem line_follow (taskId : String) (options : PollOptions) :
    (client.follow taskId options).2.line = client.line := by
  unfold Client.follow
  generalize client.pollRun taskId options = run
  rfl

/-- What is shown of a finished task touches no file. -/
theorem leaves_finish (numbered : client.state.volume.Numbered) (outcome : Task.Outcome)
    (options : PollOptions) :
    Leaves client.line options.downloadDirectory client.state (client.finish outcome options).1
      (client.finish outcome options).2.state := by
  have idle (result : CommandResult) :
      Leaves client.line options.downloadDirectory client.state result client.state :=
    .of_spares (.refl _ _)
  unfold Client.finish
  generalize shows :
    (client.say ("Task " ++ outcome.taskId ++ " finished.")).showResult outcome.result = shown
  have state : shown.state = client.state := by rw [← shows, state_showResult]; rfl
  have line : shown.line = client.line := by rw [← shows, line_showResult]; rfl
  dsimp only
  split
  case h_1 => exact state ▸ idle _
  case h_2 => exact state ▸ idle _
  case h_3 link directory _ given =>
    have saved := leaves_save shown (state ▸ numbered) link directory
      (Task.downloadName link outcome.taskId)
    rwa [state, line, ← given] at saved

theorem leaves_task (numbered : client.state.volume.Numbered) (taskId : String)
    (options : PollOptions) :
    Leaves client.line options.downloadDirectory client.state (client.task taskId options).1
      (client.task taskId options).2.state := by
  have spares := spares_follow client taskId options
  have line := line_follow client taskId options
  unfold Client.task
  generalize client.follow taskId options = followed at spares line ⊢
  obtain ⟨result, after⟩ := followed
  cases result with
  | error error => exact .of_spares spares.volume
  | ok outcome =>
      apply Leaves.after_spares spares
      rw [← line]
      exact leaves_finish after (spares.volume.numbered numbered) outcome options

theorem leaves_run (numbered : client.state.volume.Numbered) (endpoint : String)
    (parameters : List (String × String)) (options : PollOptions) :
    Leaves client.line options.downloadDirectory client.state
      (client.run endpoint parameters options).1
      (client.run endpoint parameters options).2.state := by
  have spares := Api.spares_postJson client.settings client.line client.state Json.readValue
    endpoint (Task.jobBody parameters).compact
  unfold Client.run
  dsimp only
  generalize Api.postJson client.settings client.line client.state Json.readValue endpoint
    (Task.jobBody parameters).compact = posted at spares ⊢
  obtain ⟨result, after⟩ := posted
  cases result with
  | error error => exact .of_spares spares.volume
  | ok answer =>
      dsimp only
      split
      case h_1 => exact .of_spares spares.volume
      case h_2 taskId _ =>
        apply Leaves.after_spares spares
        have numbered := spares.volume.numbered numbered
        exact leaves_task ((client.adopt after).say ("Started task " ++ taskId)) numbered taskId
          options

end Lemmas

namespace BrokenOff

/-- The address of a file of the backend. -/
def file (name : String) : Url.Address where
  scheme := "http".toList
  host := some (.domain "backend.example".toList)
  path := .segments [name.toList]

/-- A backend that sends two pieces of every file, and breaks off all but one of them. -/
def line : Line := fun _ request =>
  .ok
    { status := .ok
      chunks := [[2], [3, 4]]
      cut? := if request.url = file "whole.csv" then none else some .closed }

/-- A client with an earlier file in its directory for downloads. -/
def client : Client where
  settings := { baseUrl := file "api" }
  line := line
  sessionFile := "session.ron"
  state :=
    { credentials := .memory (some "secret")
      volume := { entries := [(["out"], .directory), (["out", "a.csv"], .file [1])] } }

/-- Where downloads go. -/
def options : PollOptions where
  intervalSeconds := 1
  maxAttempts := 1
  downloadDirectory := some "out"

end BrokenOff

end UtilityBilling.Console
