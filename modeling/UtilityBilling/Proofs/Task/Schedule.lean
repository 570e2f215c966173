/-
# The schedule of a poll

A poll asks, waits for the answer, looks at it, rests, and asks again. When nobody takes over
from it, its source and the settings of its poller decide everything that can be seen of it:
which questions are asked and when, which answers are reported, and how and when it ends.
The answers of a source to the questions about one task form an endless row; each of them
comes after a delay of its own.
-/

import UtilityBilling.Task.Timeline

namespace UtilityBilling.Task

/-- What a poll comes to by an answer, if the answer ends it by itself: it does so when it is
an error, or when its word says that the task is done or has failed. -/
def conclusion? (taskId : String) : Api.Result Status → Option PollResult
  | .error error => some (.error (.api error))
  | .ok status =>
    let word := Text.asciiLower (Text.trim status.word)
    if word ∈ doneWords then some (.ok ⟨taskId, status.result, status.downloadUrl⟩)
    else if word ∈ failedWords then
      some (.error (.failed (status.error.getD genericFailure)))
    else none

/-- The status in an answer that is still pending. -/
def pending? : Api.Result Status → Option Status
  | .error _ => none
  | .ok status =>
    let word := Text.asciiLower (Text.trim status.word)
    if word ∈ doneWords ∨ word ∈ failedWords then none else some status

/-- The stage of a status by its word. -/
theorem stage_eq (status : Status) :
    status.stage =
      let word := Text.asciiLower (Text.trim status.word)
      if word ∈ doneWords then .done else if word ∈ failedWords then .failed else .pending := by
  simp only [Status.stage, Stage.ofWord, normalWord, List.contains_iff_mem]

variable {taskId : String} {answer : Api.Result Status}

/-- An answer that does not end a poll is pending. -/
theorem exists_pending (goesOn : conclusion? taskId answer = none) :
    ∃ status, pending? answer = some status := by
  cases answer with
  | error error => cases goesOn
  | ok status =>
      refine ⟨status, ?_⟩
      simp only [conclusion?] at goesOn
      simp only [pending?]
      split at goesOn
      case isTrue => cases goesOn
      case isFalse undone =>
        split at goesOn
        case isTrue => cases goesOn
        case isFalse unfailed => exact if_neg (not_or.mpr ⟨undone, unfailed⟩)

/-- An answer that ends a poll is not pending. -/
theorem pending?_eq_none {result : PollResult} (ends : conclusion? taskId answer = some result) :
    pending? answer = none := by
  cases answer with
  | error error => rfl
  | ok status =>
      simp only [conclusion?] at ends
      simp only [pending?]
      split at ends
      case isTrue done => exact if_pos (.inl done)
      case isFalse =>
        split at ends
        case isTrue failed => exact if_pos (.inr failed)
        case isFalse => cases ends

/-- An answer that ends a poll does so at every check. -/
theorem judge_of_conclusion {result : PollResult}
    (ends : conclusion? taskId answer = some result) (attempts allowed : UInt32) :
    judge taskId attempts allowed answer = .resolved result := by
  cases answer with
  | error error =>
      cases ends
      rfl
  | ok status =>
      have stage := stage_eq status
      simp only [conclusion?] at ends
      simp only at stage
      simp only [judge, stage]
      split at ends
      case isTrue done =>
        cases ends
        rw [if_pos done]
      case isFalse undone =>
        rw [if_neg undone]
        split at ends
        case isTrue failed =>
          cases ends
          rw [if_pos failed]
        case isFalse => cases ends

/-- A pending answer ends a poll only at its last check. -/
theorem judge_of_pending {status : Status} (pending : pending? answer = some status)
    (taskId : String) (attempts allowed : UInt32) :
    judge taskId attempts allowed answer =
      if allowed ≤ attempts then .giveUp status else .goOn status := by
  cases answer with
  | error error => cases pending
  | ok other =>
      have stage := stage_eq other
      simp only [pending?] at pending
      simp only at stage
      split at pending
      case isTrue => cases pending
      case isFalse goesOn =>
        cases pending
        obtain ⟨undone, unfailed⟩ := not_or.mp goesOn
        simp only [judge, stage, if_neg undone, if_neg unfailed]

/-- A poll that is not cancelled reports the answers that are pending. -/
theorem reported?_eq {poll : Poll} (uncancelled : poll.cancelled = false) (allowed : UInt32)
    (answer : Api.Result Status) :
    reported? poll allowed answer = if poll.reports then pending? answer else none := by
  simp only [reported?, uncancelled, Bool.not_false, Bool.and_true]
  split
  case isFalse => rfl
  case isTrue =>
    cases ends : conclusion? poll.taskId answer with
    | some result => rw [judge_of_conclusion ends, pending?_eq_none ends]
    | none =>
        obtain ⟨status, pending⟩ := exists_pending ends
        rw [judge_of_pending pending, pending]
        by_cases spent : allowed ≤ poll.attempts
        · rw [if_pos spent]
        · rw [if_neg spent]

/-- A poll makes as many checks as its poller is told, but at least one. -/
theorem Poller.toNat_allowed (poller : Poller) :
    poller.allowed.toNat = max poller.maxAttempts.toNat 1 := by
  change (if poller.maxAttempts ≤ 1 then 1 else poller.maxAttempts).toNat = _
  split
  case isTrue few =>
    rw [UInt32.le_iff_toNat_le] at few
    exact (Nat.max_eq_right few).symm
  case isFalse many =>
    rw [UInt32.le_iff_toNat_le] at many
    exact (Nat.max_eq_left (Nat.le_of_not_le many)).symm

namespace Timeline

variable {σ : Type}

/-- The state of the endpoint before it answers a question about a task, when it was asked
about nothing else. -/
def worldAt (run : Timeline σ) (taskId : String) : Nat → σ
  | 0 => run.world
  | index + 1 => (run.source (worldAt run taskId index) taskId).2

/-- The answer to a question about a task. -/
def replyAt (run : Timeline σ) (taskId : String) (index : Nat) : Reply :=
  (run.source (run.worldAt taskId index) taskId).1

/-- How long the first answers take together. -/
def delays (run : Timeline σ) (taskId : String) : Nat → Nat
  | 0 => 0
  | count + 1 => delays run taskId count + (run.replyAt taskId count).delay

/-- How long a poll takes that makes some checks: all answers come, and between any two of
them is a rest. -/
def duration (run : Timeline σ) (taskId : String) (checks : Nat) : Nat :=
  run.delays taskId checks + (checks - 1) * run.poller.interval

/-- When a question is asked: all answers before it have come, and as many rests are over. -/
def askTime (run : Timeline σ) (taskId : String) (index : Nat) : Nat :=
  run.poller.clock + run.delays taskId index + index * run.poller.interval

/-- When a question is answered. -/
def answerTime (run : Timeline σ) (taskId : String) (index : Nat) : Nat :=
  run.poller.clock + run.delays taskId (index + 1) + index * run.poller.interval

/-- A poll takes until its last answer. -/
theorem answerTime_eq_duration (run : Timeline σ) (taskId : String) (index : Nat) :
    run.answerTime taskId index = run.poller.clock + run.duration taskId (index + 1) := by
  simp only [answerTime, duration, Nat.add_sub_cancel]
  omega

theorem answerTime_eq (run : Timeline σ) (taskId : String) (index : Nat) :
    run.answerTime taskId index =
      run.askTime taskId index + (run.replyAt taskId index).delay := by
  simp only [answerTime, askTime, delays]
  omega

theorem askTime_succ (run : Timeline σ) (taskId : String) (index : Nat) :
    run.askTime taskId (index + 1) = run.answerTime taskId index + run.poller.interval := by
  simp only [answerTime, askTime, Nat.succ_mul]
  omega

@[simp]
theorem askTime_zero (run : Timeline σ) (taskId : String) :
    run.askTime taskId 0 = run.poller.clock := by
  simp [askTime, delays]

theorem clock_le_askTime (run : Timeline σ) (taskId : String) (index : Nat) :
    run.poller.clock ≤ run.askTime taskId index := by
  simp only [askTime]
  omega

theorem askTime_le_answerTime (run : Timeline σ) (taskId : String) (index : Nat) :
    run.askTime taskId index ≤ run.answerTime taskId index := by
  rw [answerTime_eq]
  omega

theorem clock_le_answerTime (run : Timeline σ) (taskId : String) (index : Nat) :
    run.poller.clock ≤ run.answerTime taskId index :=
  Nat.le_trans (run.clock_le_askTime taskId index) (run.askTime_le_answerTime taskId index)

/-- Later answers come later. -/
theorem answerTime_mono (run : Timeline σ) (taskId : String) {index later : Nat}
    (notLater : index ≤ later) : run.answerTime taskId index ≤ run.answerTime taskId later := by
  induction notLater with
  | refl => exact Nat.le_refl _
  | @step middle _ ih =>
      refine Nat.le_trans ih ?_
      change run.answerTime taskId middle ≤ run.answerTime taskId (middle + 1)
      have asked := run.askTime_le_answerTime taskId (middle + 1)
      rw [askTime_succ] at asked
      omega

/-- The number of the poll that starts next. -/
def nextNumber (run : Timeline σ) : Nat :=
  run.poller.last + 1

/-- What is reported of an answer, and when. -/
def reportOf (run : Timeline σ) (taskId : String) (reports : Bool) (index : Nat) :
    List (Nat × Sight) :=
  if reports then
    (pending? (run.replyAt taskId index).result).toList.map fun status =>
      (run.answerTime taskId index, .pending run.nextNumber status)
  else []

/-- What is seen of a question and its answer. -/
def checkSights (run : Timeline σ) (taskId : String) (reports : Bool) (index : Nat) :
    List (Nat × Sight) :=
  (run.askTime taskId index, .checked taskId) :: run.reportOf taskId reports index

/-- What is seen of the first questions and their answers. -/
def checksSights (run : Timeline σ) (taskId : String) (reports : Bool) (count : Nat) :
    List (Nat × Sight) :=
  (List.range count).flatMap (run.checkSights taskId reports)

@[simp]
theorem checksSights_succ (run : Timeline σ) (taskId : String) (reports : Bool) (count : Nat) :
    run.checksSights taskId reports (count + 1) =
      run.checksSights taskId reports count ++ run.checkSights taskId reports count := by
  simp [checksSights, List.range_succ]

end Timeline

end UtilityBilling.Task
