/-
# How often a poll asks

A poll counts its questions in thirty-two bits. It asks again only while it has asked less
often than its poller allows, so the count is always the number of its questions, never
passes what is allowed, and never wraps around.
-/

import UtilityBilling.Proofs.Task.Schedule
import UtilityBilling.Proofs.Task.Turns

namespace UtilityBilling.Task

/-- Whether a poll has a question ahead of it. -/
def PollStage.hasCheckAhead : PollStage → Bool
  | .numbered | .ready | .resting _ => true
  | .checking | .ended _ => false

/-- Whether an entry is a question of a poll. -/
def Entry.isQuestionOf (number : Nat) : Entry → Bool
  | .asked asking => asking == number
  | _ => false

namespace Course

variable {course : Course} {number : Nat}

/-- How many questions a poll has asked. -/
def questions (course : Course) (number : Nat) : Nat :=
  course.past.countP (Entry.isQuestionOf number)

/-- What is not about a poll is no question of it. -/
theorem countP_isQuestionOf_eq_zero {entries : List Entry}
    (foreign : ∀ entry ∈ entries, entry.number ≠ number) :
    entries.countP (Entry.isQuestionOf number) = 0 := by
  rw [List.countP_eq_zero]
  intro entry member isQuestion
  have other := foreign entry member
  cases entry with
  | asked asking => exact other (beq_iff_eq.mp isQuestion)
  | _ => cases isQuestion

/-- A poll's count of its questions is right, and within what is allowed. -/
structure Counts (course : Course) (poll : Poll) : Prop where
  attempts : poll.attempts.toNat = course.questions poll.number
  within : poll.attempts.toNat ≤ course.poller.allowed.toNat
  ahead : poll.stage.hasCheckAhead = true →
    poll.attempts.toNat < course.poller.allowed.toNat

/-- Every poll counts right, and so did a poll that holds an answer when it took it. -/
structure Counted (course : Course) : Prop where
  orderly : course.Orderly
  polls : ∀ poll ∈ course.poller.polls, course.Counts poll
  held : ∀ held ∈ course.held, ∀ poll ∈ course.poller.polls,
    poll.number = held.poll.number → held.poll.attempts = poll.attempts
  unasked : ∀ number, course.poller.last < number → course.questions number = 0

theorem questions_of_append {after : Course} {new : List Entry}
    (past : after.past = new ++ course.past) (number : Nat) :
    after.questions number = new.countP (Entry.isQuestionOf number) + course.questions number := by
  rw [questions, past, List.countP_append]
  rfl

/-- The end of a poll is no question. -/
theorem questions_proceed (course : Course) (poller : Poller) (seen : List Entry) :
    (course.proceed number poller seen).questions number =
      seen.countP (Entry.isQuestionOf number) + course.questions number := by
  have ended : ((poller.ending? number).toList.map (Entry.resolved number)).countP
      (Entry.isQuestionOf number) = 0 := by
    rw [List.countP_eq_zero]
    intro entry member isQuestion
    obtain ⟨result, _, rfl⟩ := List.mem_map.mp member
    cases isQuestion
  rw [questions, proceed, List.countP_append, List.countP_append, ended, Nat.zero_add]
  rfl

namespace Counts

variable {poll later : Poll} {after : Course}

/-- A step that asks nothing leaves a count right. -/
theorem kept (counts : course.Counts poll)
    (maxAttempts : after.poller.maxAttempts = course.poller.maxAttempts)
    (number : later.number = poll.number) (attempts : later.attempts = poll.attempts)
    (questions : after.questions poll.number = course.questions poll.number)
    (ahead : later.stage.hasCheckAhead = true →
      poll.attempts.toNat < course.poller.allowed.toNat) : after.Counts later := by
  have allowed : after.poller.allowed = course.poller.allowed := by
    rw [Poller.allowed, maxAttempts]
    rfl
  constructor
  · rw [attempts, number, questions]
    exact counts.attempts
  · rw [attempts, allowed]
    exact counts.within
  · rw [attempts, allowed]
    exact ahead

end Counts

/-- The poll of a number is changed as the polls of that number are. -/
theorem eq_of_modify (orderly : course.Orderly) {poll later : Poll} {change : Poll → Poll}
    (member : poll ∈ course.poller.polls)
    (changed : later ∈ (course.poller.modify poll.number change).polls)
    (own : later.number = poll.number) : later = change poll := by
  obtain ⟨old, oldMember, rfl⟩ := List.mem_map.mp changed
  split at own
  case isTrue same =>
    rw [if_pos same, orderly.poller.eq_of_number oldMember member same]
  case isFalse apart => exact absurd own apart

/-- By an answer a poll ends, or it goes on to another check that it is allowed. -/
theorem exists_stage_answer (poller : Poller) (poll : Poll) (result : Api.Result Status) :
    ∃ stage : PollStage,
      (poller.answer poll result).polls =
        (poller.modify poll.number fun poll => { poll with stage := stage }).polls ∧
      (stage.hasCheckAhead = true → poll.attempts.toNat < poller.allowed.toNat) ∧
      ∀ due, stage = .resting due → poller.clock ≤ due := by
  unfold Poller.answer
  split
  case isTrue => exact ⟨.ended (.error .superseded), rfl, by rintro ⟨⟩, by rintro due ⟨⟩⟩
  case isFalse =>
    simp only
    cases ends : conclusion? poll.taskId result with
    | some ending =>
        rw [judge_of_conclusion ends]
        exact ⟨.ended ending, rfl, by rintro ⟨⟩, by rintro due ⟨⟩⟩
    | none =>
        obtain ⟨status, pending⟩ := exists_pending ends
        rw [judge_of_pending pending]
        by_cases spent : poller.allowed ≤ poll.attempts
        · rw [if_pos spent]
          exact ⟨.ended (.error (.timedOut poll.attempts)), rfl, by rintro ⟨⟩, by rintro due ⟨⟩⟩
        · rw [if_neg spent]
          refine ⟨.resting (poller.clock + poller.interval), rfl, fun _ => ?_, ?_⟩
          · rw [← UInt32.lt_iff_toNat_lt]
            exact UInt32.not_le.mp spent
          · rintro due ⟨⟩
            exact Nat.le_add_right _ _

variable {poll later : Poll}

/-- A poll that ends by a step of its own has asked nothing. -/
theorem counts_surrender (counted : course.Counted) (member : poll ∈ course.poller.polls)
    {result : PollResult}
    (isAfter : later ∈ (course.proceed poll.number
      (course.poller.resolve poll.number result) []).poller.polls)
    (own : later.number = poll.number) :
    (course.proceed poll.number (course.poller.resolve poll.number result) []).Counts later := by
  have changed := eq_of_modify counted.orderly member isAfter own
  subst changed
  refine (counted.polls poll member).kept rfl rfl rfl ?_ (by rintro ⟨⟩)
  rw [questions_proceed]
  simp

/-- A poll that looks at the answer that it holds has asked nothing. -/
theorem counts_weigh (counted : course.Counted) (member : poll ∈ course.poller.polls)
    {held : Held} (isHeld : held ∈ course.held) (same : held.poll.number = poll.number)
    (isAfter : later ∈ (course.weigh held).poller.polls) (own : later.number = poll.number) :
    (course.weigh held).Counts later := by
  obtain ⟨stage, polls, ahead, _⟩ := exists_stage_answer course.poller held.poll held.result
  change later ∈ (course.poller.answer held.poll held.result).polls at isAfter
  rw [polls, same] at isAfter
  have changed := eq_of_modify counted.orderly member isAfter own
  subst changed
  have attempts := counted.held held isHeld poll member same.symm
  rw [attempts] at ahead
  refine (counted.polls poll member).kept
    (course.poller.advances_answer held.poll held.result).maxAttempts rfl rfl ?_ ahead
  change (course.proceed held.poll.number _ _).questions poll.number = _
  rw [same, questions_proceed]
  have reports : ((reported? held.poll course.poller.allowed held.result).toList.map
      (Entry.reported poll.number)).countP (Entry.isQuestionOf poll.number) = 0 := by
    rw [List.countP_eq_zero]
    intro entry isReport isQuestion
    obtain ⟨status, _, rfl⟩ := List.mem_map.mp isReport
    cases isQuestion
  rw [reports, Nat.zero_add]

/-- A poll that asks counts its question. -/
theorem counts_check (counted : course.Counted) (member : poll ∈ course.poller.polls)
    (ready : poll.stage = .ready) {seen : List Entry}
    (isSeen : seen = if poll.cancelled then [] else [.asked poll.number])
    (isAfter : later ∈ (course.proceed poll.number (course.poller.check poll) seen).poller.polls)
    (own : later.number = poll.number) :
    (course.proceed poll.number (course.poller.check poll) seen).Counts later := by
  have counts := counted.polls poll member
  subst isSeen
  change later ∈ (course.poller.check poll).polls at isAfter
  unfold Poller.check at isAfter ⊢
  cases cancelled : poll.cancelled with
  | true =>
      rw [cancelled] at isAfter
      exact counts_surrender counted member isAfter own
  | false =>
      rw [cancelled] at isAfter
      have changed := eq_of_modify counted.orderly member isAfter own
      subst changed
      have fewer := counts.ahead (by rw [ready]; rfl)
      have bound := course.poller.allowed.toNat_lt
      have one_more : (poll.attempts + 1).toNat = poll.attempts.toNat + 1 := by
        rw [UInt32.toNat_add]
        simp
        omega
      constructor
      · change (poll.attempts + 1).toNat = _
        rw [one_more, counts.attempts]
        change _ = Course.questions _ poll.number
        rw [questions_proceed]
        simp [Entry.isQuestionOf, Nat.add_comm]
      · change (poll.attempts + 1).toNat ≤ course.poller.allowed.toNat
        rw [one_more]
        exact fewer
      · rintro ⟨⟩

/-- After its own step a poll counts right. -/
theorem counts_turn (counted : course.Counted) (member : poll ∈ course.poller.polls)
    (isAfter : later ∈ (course.turn poll).poller.polls) (own : later.number = poll.number) :
    (course.turn poll).Counts later := by
  have counts := counted.polls poll member
  have unchanged : later ∈ course.poller.polls → course.Counts later := counted.polls later
  unfold turn at isAfter ⊢
  split at isAfter
  case h_1 held found =>
    obtain ⟨isHeld, same⟩ := held_of_held? found
    exact counts_weigh counted member isHeld same isAfter own
  case h_2 =>
    split at isAfter
    case h_1 numbered =>
      obtain ⟨registered, isRegistered, rfl⟩ := List.mem_map.mp isAfter
      split at own
      case isFalse apart => exact absurd own apart
      case isTrue same =>
        rw [if_pos same]
        obtain ⟨old, isOld, spared⟩ := Poller.exists_before_cancel isRegistered
        have isPoll := counted.orderly.poller.eq_of_number isOld member (spared.number.trans same)
        subst isPoll
        refine counts.kept course.poller.maxAttempts_cancel same spared.attempts.symm ?_
          fun _ => counts.ahead (by rw [numbered]; rfl)
        rfl
    case h_2 ready => exact counts_check counted member ready rfl isAfter own
    case h_3 =>
      split at isAfter
      case isTrue cancelled =>
        rw [if_pos cancelled]
        exact counts_surrender counted member isAfter own
      case isFalse uncancelled =>
        rw [if_neg uncancelled]
        exact unchanged isAfter
    case h_4 due resting =>
      split at isAfter
      case isFalse early =>
        rw [if_neg early]
        exact unchanged isAfter
      case isTrue rested =>
        rw [if_pos rested]
        change later ∈ (course.poller.wake poll).polls at isAfter
        unfold Poller.wake at isAfter ⊢
        cases cancelled : poll.cancelled with
        | true =>
            rw [cancelled] at isAfter
            exact counts_surrender counted member isAfter own
        | false =>
            rw [cancelled] at isAfter
            have changed := eq_of_modify counted.orderly member isAfter own
            subst changed
            refine counts.kept rfl rfl rfl ?_ fun _ => counts.ahead (by rw [resting]; rfl)
            rw [questions_proceed]
            simp
    case h_5 =>
      have apart := (List.mem_filter.mp isAfter).2
      rw [own] at apart
      simp at apart

/-- After its answer has come a poll counts right. -/
theorem counts_take (counted : course.Counted) (member : poll ∈ course.poller.polls)
    {result : Api.Result Status} (isAfter : later ∈ (course.take poll result).poller.polls)
    (own : later.number = poll.number) : (course.take poll result).Counts later := by
  unfold take at isAfter ⊢
  split at isAfter
  case h_1 =>
    split at isAfter
    case isTrue cancelled =>
      rw [if_pos cancelled]
      exact counts_surrender counted member isAfter own
    case isFalse uncancelled =>
      rw [if_neg uncancelled]
      obtain ⟨attempts, within, ahead⟩ := counted.polls later isAfter
      exact ⟨attempts, within, ahead⟩
  case h_2 => exact counted.polls later isAfter

namespace Counted

theorem start (interval : Nat) (maxAttempts : UInt32) : Counted (.start interval maxAttempts) where
  orderly := .start interval maxAttempts
  polls := by simp [Course.start]
  held := by simp [Course.start]
  unasked := by simp [Course.start, questions]

/-- At least one check is allowed. -/
theorem allowed_pos (poller : Poller) : 0 < poller.allowed.toNat := by
  rw [poller.toNat_allowed]
  exact Nat.lt_of_lt_of_le Nat.one_pos (Nat.le_max_right _ _)

/-- The poll to whom an event belongs counts right after it. -/
theorem owner_step (counted : course.Counted) (event : Event)
    (isAfter : later ∈ (course.step event).poller.polls)
    (own : course.owner? event = some later.number) : (course.step event).Counts later := by
  cases event with
  | enter taskId reports =>
      rcases List.mem_append.mp isAfter with old | new
      · have numbered := counted.orderly.poller.numbered later old
        rw [← Option.some.inj own] at numbered
        exact absurd numbered (Nat.not_succ_le_self _)
      · rw [List.mem_singleton.mp new]
        have unasked := counted.unasked (course.poller.last + 1) (Nat.lt_succ_self _)
        exact ⟨unasked.symm, Nat.zero_le _, fun _ => allowed_pos course.poller⟩
  | turn number =>
      simp only [Course.step] at isAfter ⊢
      split at isAfter
      case h_1 poll found =>
        obtain ⟨member, same⟩ := Poller.mem_of_poll? found
        exact counts_turn counted member isAfter ((Option.some.inj own).symm.trans same.symm)
      case h_2 => exact counted.polls later isAfter
  | answer number result =>
      simp only [Course.step] at isAfter ⊢
      split at isAfter
      case h_1 poll found =>
        obtain ⟨member, same⟩ := Poller.mem_of_poll? found
        exact counts_take counted member isAfter ((Option.some.inj own).symm.trans same.symm)
      case h_2 => exact counted.polls later isAfter
  | cancel => cases own
  | abandon number =>
      have apart := (List.mem_filter.mp isAfter).2
      rw [← Option.some.inj own] at apart
      simp at apart
  | wait milliseconds => cases own

/-- The answer that the owner of an event holds after it was taken at the count that the
poll still has. -/
theorem held_step (counted : course.Counted) (event : Event) {held : Held}
    (isHeld : held ∈ (course.step event).held)
    (isAfter : later ∈ (course.step event).poller.polls)
    (same : later.number = held.poll.number)
    (own : course.owner? event = some held.poll.number) :
    held.poll.attempts = later.attempts := by
  have before : held ∈ course.held → later ∈ course.poller.polls →
      held.poll.attempts = later.attempts :=
    fun old isPoll => counted.held held old later isPoll same
  cases event with
  | enter taskId reports =>
      have known := counted.orderly.known held isHeld
      rw [← Option.some.inj own] at known
      exact absurd known (Nat.not_succ_le_self _)
  | turn number =>
      revert isHeld isAfter
      simp only [Course.step]
      split
      case h_1 poll found =>
        intro isHeld _
        have apart := Orderly.not_held_turn isHeld
        rw [(Poller.mem_of_poll? found).2] at apart
        exact absurd (Option.some.inj own).symm apart
      case h_2 => exact before
  | answer number result =>
      revert isHeld isAfter
      simp only [Course.step]
      split
      case h_2 => exact before
      case h_1 poll found =>
        obtain ⟨member, isNumber⟩ := Poller.mem_of_poll? found
        unfold take
        split
        case h_2 => exact before
        case h_1 none_held =>
          split
          case isTrue =>
            intro isHeld _
            have apart := not_held_of_held? none_held isHeld
            rw [isNumber] at apart
            exact absurd (Option.some.inj own).symm apart
          case isFalse uncancelled =>
            intro isHeld isAfter
            rcases List.mem_append.mp isHeld with old | new
            · exact before old isAfter
            · rw [List.mem_singleton.mp new] at same ⊢
              rw [counted.orderly.poller.eq_of_number isAfter member same]
  | cancel => cases own
  | abandon number =>
      exact absurd (Option.some.inj own).symm (mem_heldByOthers.mp isHeld).2
  | wait milliseconds => cases own

/-- Every event keeps the counts right. -/
theorem step (counted : course.Counted) (event : Event) : (course.step event).Counted := by
  have spares := spares_step course event
  have orderly := counted.orderly.step event
  obtain ⟨new, past, ownEntries⟩ := spares.past
  have others : ∀ number, course.owner? event ≠ some number →
      (course.step event).questions number = course.questions number := by
    intro number other
    rw [questions_of_append past, countP_isQuestionOf_eq_zero, Nat.zero_add]
    intro entry member same
    exact other ((ownEntries entry member).trans (congrArg some same))
  refine ⟨orderly, fun later isAfter => ?_, fun held isHeld later isAfter same => ?_,
    fun number beyond => ?_⟩
  · by_cases own : course.owner? event = some later.number
    case neg =>
      obtain ⟨old, isOld, spared⟩ := spares.polls later isAfter own
      have counts := counted.polls old isOld
      refine counts.kept spares.maxAttempts spared.number.symm spared.attempts.symm ?_ ?_
      · rw [spared.number]
        exact others later.number own
      · rw [← spared.stage]
        exact counts.ahead
    case pos => exact counted.owner_step event isAfter own
  · by_cases own : course.owner? event = some held.poll.number
    case neg =>
      obtain ⟨old, isOld, spared⟩ := spares.polls later isAfter (by rw [same]; exact own)
      rw [← spared.attempts]
      exact counted.held held (spares.held held isHeld own) old isOld (spared.number.trans same)
    case pos => exact counted.held_step event isHeld isAfter same own
  · have unknown : course.poller.last < number := Nat.lt_of_le_of_lt spares.last beyond
    have unasked := counted.unasked number unknown
    have notFound : course.poller.poll? number = none := by
      rw [Poller.poll?, List.find?_eq_none]
      intro poll member
      have numbered := counted.orderly.poller.numbered poll member
      simp
      omega
    by_cases own : course.owner? event = some number
    case neg => rw [others number own, unasked]
    case pos =>
      cases event with
      | enter taskId reports => exact absurd (Option.some.inj own) (Nat.ne_of_lt beyond)
      | turn turning =>
          cases own
          simp only [Course.step, notFound]
          exact unasked
      | answer answered result =>
          cases own
          simp only [Course.step, notFound]
          exact unasked
      | abandon gone => exact unasked
      | cancel => cases own
      | wait milliseconds => cases own

/-- Every poll counts its questions right in every course. -/
theorem run (interval : Nat) (maxAttempts : UInt32) (events : List Event) :
    ((Course.start interval maxAttempts).run events).Counted :=
  List.foldlRecOn (motive := Counted) events Course.step (.start interval maxAttempts)
    fun _ counted event _ => counted.step event

end Counted

end Course

end UtilityBilling.Task
