/-
# Task status

The answer of the status endpoint about a server job. The job's own word decides
whether it is done, failed or still pending; case and surrounding blanks do not
matter, and a word outside the vocabulary counts as pending and deserves a warning.
-/

import UtilityBilling.Json.Record

namespace UtilityBilling.Task

open UtilityBilling.Json (Value Shape Read)
open UtilityBilling.Number (Binary64)
open UtilityBilling.Text

/-- The stage of a server job. -/
inductive Stage where
  | pending
  | done
  | failed
  deriving DecidableEq, Repr

/-- The words for a job that is done. -/
def doneWords : List String := ["done", "success", "succeeded", "completed", "finished"]

/-- The words for a job that failed. -/
def failedWords : List String := ["failure", "failed", "error", "revoked"]

/-- The words for a job that is still pending. -/
def pendingWords : List String :=
  ["pending", "processing", "queued", "started", "running", "progress"]

/-- A status word in the form in which it is compared. -/
def normalWord (word : String) : String :=
  asciiLower (trim word)

/-- The stage that a status word names. -/
def Stage.ofWord (word : String) : Stage :=
  let normal := normalWord word
  if doneWords.contains normal then .done
  else if failedWords.contains normal then .failed
  else .pending

/-- Whether a status word belongs to the vocabulary. -/
def isKnownWord (word : String) : Bool :=
  let normal := normalWord word
  doneWords.contains normal || failedWords.contains normal || pendingWords.contains normal

/-- The warning about a status word outside the vocabulary. -/
def unknownWordWarning? (word : String) : Option String :=
  if isKnownWord word then none
  else some ("Unknown task status " ++ quoted (normalWord word) ++ "; treating as pending")

/-- One answer of the status endpoint. -/
structure Status where
  word : String
  result : Option Value := none
  downloadUrl : Option String := none
  error : Option String := none
  /-- The percentage done, where the job reports it. -/
  progress : Option Binary64 := none
  deriving Repr, Inhabited

/-- The stage of a job. -/
def Status.stage (status : Status) : Stage :=
  .ofWord status.word

/-- The error text in a value of any type: a blank text and `null` are none, and
what is no text shows as JSON. -/
def errorText : Option Value → Option String
  | none => none
  | some .null => none
  | some (.text text) => if trim text = "" then none else some text
  | some other => some other.compact

/-- A status under construction. -/
structure StatusDraft where
  word : Option String := none
  result : Option (Option Value) := none
  downloadUrl : Option (Option String) := none
  error : Option (Option String) := none
  progress : Option (Option Binary64) := none

/-- The fields of a status. -/
def statusShape : Shape StatusDraft where
  name := "TaskStatus"
  fields :=
    [ { name := "status"
        keys := ["status", "state"]
        required := true
        isGiven := fun draft => draft.word.isSome
        read := fun _ rest =>
          (Json.readText rest).map fun (word, r) =>
            ((fun draft => { draft with word := some word }), r) },
      { name := "result"
        keys := ["result"]
        required := false
        isGiven := fun draft => draft.result.isSome
        read := fun depth rest =>
          (Json.readOptional (Json.readValue depth) rest).map fun (result, r) =>
            ((fun draft => { draft with result := some result }), r) },
      { name := "download_url"
        keys := ["download_url"]
        required := false
        isGiven := fun draft => draft.downloadUrl.isSome
        read := fun _ rest =>
          (Json.readOptional Json.readText rest).map fun (url, r) =>
            ((fun draft => { draft with downloadUrl := some url }), r) },
      { name := "error"
        keys := ["error"]
        required := false
        isGiven := fun draft => draft.error.isSome
        read := fun depth rest =>
          (Json.readOptional (Json.readValue depth) rest).map fun (error, r) =>
            ((fun draft => { draft with error := some (errorText error) }), r) },
      { name := "progress"
        keys := ["progress"]
        required := false
        isGiven := fun draft => draft.progress.isSome
        read := fun _ rest =>
          (Json.readOptional Json.readFloat rest).map fun (progress, r) =>
            ((fun draft => { draft with progress := some progress }), r) } ]

/-- Reads a status. -/
def readStatus (depth : Nat) (rest : Bytes) : Read Status :=
  (Json.readRecord statusShape {} depth rest).map fun (draft, r) =>
    ({ word := draft.word.getD ""
       result := draft.result.getD none
       downloadUrl := draft.downloadUrl.getD none
       error := draft.error.getD none
       progress := draft.progress.getD none }, r)

/-- The progress report of a pending job: it goes back to the start of its line. -/
def Status.report (status : Status) : String :=
  match status.progress with
  | some progress =>
    "\r" ++ status.word ++ " " ++
      String.ofList (Number.padLeft 5 (progress.fixed 1)) ++ "%"
  | none => "\r" ++ status.word ++ "..."

/-- What a finished job hands back. -/
structure Outcome where
  taskId : String
  result : Option Value
  downloadUrl : Option String
  deriving Repr, Inhabited

end UtilityBilling.Task
