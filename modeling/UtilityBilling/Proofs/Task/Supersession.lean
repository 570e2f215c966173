/-
# One poll at a time

A poll that is taken over may go on for a while: it still has to see that it was cancelled.
Nevertheless at most one registered poll is not cancelled at any moment, and it is the one
that the poller knows. A poll that is cancelled while it waits asks no more, reports no more,
and can only end as superseded.
-/

import UtilityBilling.Proofs.Task.Turns

namespace UtilityBilling.Task

namespace Course

variable {course : Course} {number : Nat}

/-- A poll is registered and has not ended, and it holds no answer. -/
def Waits (course : Course) (number : Nat) : Prop :=
  (∃ poll ∈ course.poller.polls, poll.number = number ∧ poll.stage.isUnderWay = true) ∧
    ∀ held ∈ course.held, held.poll.number ≠ number

/-- An event cancels whatever poll is live: it is a cancellation, or a poll registers. -/
def Supersedes (course : Course) (event : Event) : Prop :=
  event = .cancel ∨
    ∃ poll ∈ course.poller.polls, poll.stage = .numbered ∧ event = .turn poll.number

/-- A poll that waits is cancelled, or it has ended as superseded, or it is gone. -/
structure Doomed (course : Course) (number : Nat) : Prop where
  known : number ≤ course.poller.last
  polls : ∀ poll ∈ course.poller.polls, poll.number = number →
    poll.stage = .ended (.error .superseded) ∨
      poll.stage.isUnderWay = true ∧ poll.cancelled = true
  held : ∀ held ∈ course.held, held.poll.number ≠ number

/-- The end of a poll as superseded. -/
def surrender (course : Course) (number : Nat) : Course :=
  course.proceed number (course.poller.resolve number (.error .superseded)) []

theorem past_surrender {poll : Poll} (found : course.poller.poll? number = some poll) :
    (course.surrender number).past = .resolved number (.error .superseded) :: course.past := by
  simp [surrender, proceed, found]

/-- A cancelled poll that waits ends as superseded when it takes its turn. -/
theorem turn_of_cancelled {poll : Poll} (none_held : course.held? poll.number = none)
    (underWay : poll.stage.isUnderWay = true) (cancelled : poll.cancelled = true) :
    course.turn poll = course.surrender poll.number := by
  unfold turn
  rw [none_held]
  cases stage : poll.stage with
  | numbered => rw [stage] at underWay; cases underWay
  | ready => simp [surrender, Poller.check, cancelled]
  | checking => simp [surrender, cancelled]
  | resting due => simp [surrender, Poller.wake, cancelled]
  | ended result => rw [stage] at underWay; cases underWay

/-- A cancelled poll ends as superseded when its answer comes. -/
theorem take_of_cancelled {poll : Poll} (none_held : course.held? poll.number = none)
    (checking : poll.stage = .checking) (cancelled : poll.cancelled = true)
    (result : Api.Result Status) : course.take poll result = course.surrender poll.number := by
  simp [take, checking, none_held, cancelled, surrender]

namespace Doomed

theorem held?_eq_none (doomed : course.Doomed number) : course.held? number = none := by
  rw [held?, List.find?_eq_none]
  intro held member
  simpa using doomed.held held member

/-- What a poll that is doomed can still be seen to do: it ends as superseded, and is
forgotten. -/
def Allows (number : Nat) (entry : Entry) : Prop :=
  entry.number = number →
    entry = .resolved number (.error .superseded) ∨ entry = .released number

/-- After an event a poll is still doomed, and was not seen to do anything else. -/
def Stays (before : Course) (number : Nat) (after : Course) : Prop :=
  after.Doomed number ∧
    ∃ new, after.past = new ++ before.past ∧ ∀ entry ∈ new, Allows number entry

theorem stays_refl (doomed : course.Doomed number) : Stays course number course :=
  ⟨doomed, [], rfl, by simp⟩

theorem surrender (doomed : course.Doomed number) {poll : Poll}
    (found : course.poller.poll? number = some poll) :
    Stays course number (course.surrender number) := by
  refine ⟨⟨doomed.known, fun other member same => ?_, doomed.held⟩,
    [.resolved number (.error .superseded)], past_surrender found, by simp [Allows]⟩
  obtain ⟨before, _, rfl⟩ := List.mem_map.mp member
  split at same
  case isTrue own => rw [if_pos own]; exact .inl rfl
  case isFalse apart => exact absurd same apart

theorem turn (doomed : course.Doomed number) {poll : Poll}
    (found : course.poller.poll? number = some poll) :
    Stays course number (course.turn poll) := by
  obtain ⟨member, same⟩ := Poller.mem_of_poll? found
  have none_held := doomed.held?_eq_none
  rw [← same] at none_held
  rcases doomed.polls poll member same with ended | ⟨underWay, cancelled⟩
  · unfold Course.turn
    rw [none_held, ended]
    refine ⟨⟨doomed.known, fun other left own => ?_, doomed.held⟩, [.released poll.number], rfl,
      by simp [Allows, Entry.number]⟩
    have apart := (List.mem_filter.mp left).2
    rw [own, same] at apart
    simp at apart
  · rw [turn_of_cancelled none_held underWay cancelled, same]
    exact doomed.surrender found

theorem take (doomed : course.Doomed number) {poll : Poll}
    (found : course.poller.poll? number = some poll) (result : Api.Result Status) :
    Stays course number (course.take poll result) := by
  obtain ⟨member, same⟩ := Poller.mem_of_poll? found
  have none_held := doomed.held?_eq_none
  rw [← same] at none_held
  by_cases checking : poll.stage = .checking
  · rcases doomed.polls poll member same with ended | ⟨_, cancelled⟩
    · rw [ended] at checking
      cases checking
    · rw [take_of_cancelled none_held checking cancelled, same]
      exact doomed.surrender found
  · unfold Course.take
    split
    · contradiction
    · exact doomed.stays_refl

/-- A poll that is doomed stays so, whatever happens. -/
theorem step (doomed : course.Doomed number) (event : Event) :
    Stays course number (course.step event) := by
  have spares := spares_step course event
  by_cases own : course.owner? event = some number
  case pos =>
    cases event with
    | enter taskId reports =>
        have known := doomed.known
        rw [← Option.some.inj own] at known
        exact absurd known (Nat.not_succ_le_self _)
    | turn turning =>
        cases own
        simp only [Course.step]
        split
        case h_1 poll found => exact doomed.turn found
        case h_2 => exact doomed.stays_refl
    | answer answered result =>
        cases own
        simp only [Course.step]
        split
        case h_1 poll found => exact doomed.take found result
        case h_2 => exact doomed.stays_refl
    | cancel => cases own
    | abandon gone =>
        cases own
        refine ⟨⟨doomed.known, fun poll member same => ?_, fun held member => ?_⟩, [], rfl, by simp⟩
        · have apart := (List.mem_filter.mp member).2
          rw [same] at apart
          simp at apart
        · exact (mem_heldByOthers.mp member).2
    | wait milliseconds => cases own
  case neg =>
    obtain ⟨new, past, others⟩ := spares.past
    refine ⟨⟨Nat.le_trans doomed.known spares.last, fun poll member same => ?_,
      fun held member same => ?_⟩, new, past, fun entry member same => ?_⟩
    · obtain ⟨old, oldMember, spared⟩ := spares.polls poll member (by rw [same]; exact own)
      rw [← spared.stage]
      exact (doomed.polls old oldMember (spared.number.trans same)).imp_right
        (And.imp_right spared.cancelled)
    · exact doomed.held held (spares.held held member (by rw [same]; exact own)) same
    · exact absurd ((others entry member).trans (congrArg some same)) own

theorem run (doomed : course.Doomed number) (events : List Event) :
    Stays course number (course.run events) := by
  induction events generalizing course with
  | nil => exact doomed.stays_refl
  | cons event rest ih =>
      obtain ⟨still, new, past, allowed⟩ := doomed.step event
      obtain ⟨atLast, more, morePast, moreAllowed⟩ := ih still
      refine ⟨atLast, more ++ new, ?_, ?_⟩
      · change ((course.step event).run rest).past = _
        rw [morePast, past, List.append_assoc]
      · intro entry member
        rcases List.mem_append.mp member with late | early
        · exact moreAllowed entry late
        · exact allowed entry early

/-- A poll that waits is doomed by what supersedes it. -/
theorem of_supersedes (orderly : course.Orderly) (few : course.poller.last < UInt64.size)
    {event : Event} (waits : course.Waits number) (supersedes : course.Supersedes event) :
    Stays course number (course.step event) := by
  obtain ⟨⟨poll, member, same, underWay⟩, holdsNone⟩ := waits
  have spares := spares_step course event
  have foreign : course.owner? event ≠ some number := by
    rintro own
    rcases supersedes with rfl | ⟨newer, isNewer, numbered, rfl⟩
    · cases own
    · have newerIsPoll : newer = poll :=
        orderly.poller.eq_of_number isNewer member ((Option.some.inj own).trans same.symm)
      rw [← newerIsPoll, numbered] at underWay
      cases underWay
  have dead : ∀ other ∈ (course.step event).poller.polls, other.number = number →
      other.isLive = false := by
    intro other otherMember otherSame
    rcases supersedes with rfl | ⟨newer, isNewer, numbered, rfl⟩
    · exact orderly.poller.not_isLive_cancel few otherMember
    · rw [orderly.step_register isNewer numbered] at otherMember
      apply orderly.poller.not_isLive_register few otherMember
      intro isNewer
      exact foreign (congrArg some (isNewer.symm.trans otherSame))
  obtain ⟨new, past, others⟩ := spares.past
  refine ⟨⟨?_, fun other otherMember otherSame => .inr ?_, fun held isHeld heldSame => ?_⟩,
    new, past, fun entry isNew entrySame => ?_⟩
  · rw [← same]
    exact Nat.le_trans (orderly.poller.numbered poll member) spares.last
  · obtain ⟨old, oldMember, spared⟩ :=
      spares.polls other otherMember (by rw [otherSame]; exact foreign)
    have isPoll : old = poll :=
      orderly.poller.eq_of_number oldMember member (by rw [spared.number, otherSame, same])
    have stillUnderWay : other.stage.isUnderWay = true := by
      rw [← spared.stage, isPoll]
      exact underWay
    refine ⟨stillUnderWay, ?_⟩
    have notLive := dead other otherMember otherSame
    rw [Poll.isLive, PollStage.isRegistered_of_isUnderWay stillUnderWay] at notLive
    simpa using notLive
  · exact holdsNone held (spares.held held isHeld (by rw [heldSame]; exact foreign)) heldSame
  · exact absurd ((others entry isNew).trans (congrArg some entrySame)) foreign

/-- A poll that is doomed and has not ended ends as superseded by its next step, and by its
answer. -/
theorem next (doomed : course.Doomed number) {poll : Poll}
    (found : course.poller.poll? number = some poll) :
    poll.stage = .ended (.error .superseded) ∨
      (course.step (.turn number)).past = .resolved number (.error .superseded) :: course.past ∧
        ∀ result, poll.stage = .checking →
          (course.step (.answer number result)).past =
            .resolved number (.error .superseded) :: course.past := by
  obtain ⟨member, same⟩ := Poller.mem_of_poll? found
  have none_held := doomed.held?_eq_none
  rw [← same] at none_held
  refine (doomed.polls poll member same).imp_right ?_
  rintro ⟨underWay, cancelled⟩
  constructor
  · simp only [Course.step, found]
    rw [turn_of_cancelled none_held underWay cancelled, same]
    exact past_surrender found
  · intro result checking
    simp only [Course.step, found]
    rw [take_of_cancelled none_held checking cancelled, same]
    exact past_surrender found

end Doomed

theorem last_turn (course : Course) (poll : Poll) :
    (course.turn poll).poller.last = course.poller.last := by
  unfold turn
  split
  case h_1 held _ => exact (course.poller.advances_answer held.poll held.result).last
  case h_2 =>
    split
    · exact course.poller.last_cancel
    · exact (course.poller.advances_check poll).last
    · split <;> rfl
    · split
      · exact (course.poller.advances_wake poll).last
      · rfl
    · rfl

theorem last_take (course : Course) (poll : Poll) (result : Api.Result Status) :
    (course.take poll result).poller.last = course.poller.last := by
  unfold take
  split
  · split <;> rfl
  · rfl

/-- A poller counts the polls that are started. -/
theorem last_run (course : Course) (events : List Event) :
    (course.run events).poller.last = course.poller.last + events.countP Event.isEnter := by
  induction events generalizing course with
  | nil => rfl
  | cons event rest ih =>
      have counted : (course.step event).poller.last =
          course.poller.last + if event.isEnter then 1 else 0 := by
        cases event with
        | turn number =>
            simp only [step]
            split
            · exact course.last_turn _
            · rfl
        | answer number result =>
            simp only [step]
            split
            · exact course.last_take _ result
            · rfl
        | cancel => exact course.poller.last_cancel
        | _ => rfl
      rw [List.countP_cons, Nat.add_comm (rest.countP _), ← Nat.add_assoc, ← counted]
      exact ih _

/-- What the poller knows it forgets only by a cancellation, by the registration of a poll,
or when that very poll is released. -/
theorem current_step (orderly : course.Orderly) (few : course.poller.last < UInt64.size)
    (event : Event) :
    (course.step event).poller.current = course.poller.current ∨
      event = .cancel ∨
      (∃ newer, event = .turn newer ∧
        (course.step event).past = .registered newer :: course.past) ∨
      ∃ held, course.poller.current = some held ∧ event = .turn held.number ∧
        (course.step event).past = .released held.number :: course.past := by
  cases event with
  | enter taskId reports => exact .inl rfl
  | cancel => exact .inr (.inl rfl)
  | abandon number => exact .inl rfl
  | wait milliseconds => exact .inl rfl
  | answer number result =>
      left
      simp only [step]
      split
      · unfold take
        split
        · split <;> rfl
        · rfl
      · rfl
  | turn number =>
      simp only [step]
      split
      case h_2 => exact .inl rfl
      case h_1 poll found =>
        obtain ⟨member, rfl⟩ := Poller.mem_of_poll? found
        unfold turn
        split
        case h_1 held _ =>
          exact .inl (course.poller.advances_answer held.poll held.result).current
        case h_2 =>
          split
          case h_1 => exact .inr (.inr (.inl ⟨poll.number, rfl, rfl⟩))
          case h_2 => exact .inl (course.poller.advances_check poll).current
          case h_3 => left; split <;> rfl
          case h_4 =>
            left
            split
            · exact (course.poller.advances_wake poll).current
            · rfl
          case h_5 result ended =>
            rcases orderly.poller.current_release member result with same | ⟨_, own⟩
            · exact .inl same
            · exact .inr (.inr (.inr ⟨poll.registration, own few, rfl, rfl⟩))

end Course

/-- In every course of a poller at most one registered poll is not
cancelled, and it is the one that the poller knows; only a cancellation, a registration or
the release of that very poll makes the poller forget it, so that a cancellation leaves no
poll live, and a registration only the new one. A poll that waits, for an answer or for its
next check, or that is about to ask, ends as superseded once it is cancelled or another poll
registers: whatever happens then, it asks no more, reports no more, and has no other end,
which comes with its next step or its answer, even if the answer or the end of its rest was
due. This holds as long as the words of the poller have not come round again; what happens
after the poll was superseded may start any number of polls. -/
theorem one_poll_at_a_time (interval : Nat) (maxAttempts : UInt32) (events : List Event)
    (few : events.countP Event.isEnter < UInt64.size) :
    let course := (Course.start interval maxAttempts).run events
    let poller := course.poller
    poller.live.length ≤ 1 ∧
      (∀ poll ∈ poller.live, poller.current = some poll.registration) ∧
      (∀ event, (course.step event).poller.current = poller.current ∨
        event = .cancel ∨
        (∃ newer, event = .turn newer ∧
          (course.step event).past = .registered newer :: course.past) ∨
        ∃ held, poller.current = some held ∧ event = .turn held.number ∧
          (course.step event).past = .released held.number :: course.past) ∧
      (course.step .cancel).poller.live = [] ∧
      (∀ poll ∈ poller.polls, poll.stage = .numbered →
        (course.step (.turn poll.number)).poller.live = [{ poll with stage := .ready }]) ∧
      ∀ number event, course.Waits number → course.Supersedes event → ∀ more,
        let after := (course.step event).run more
        (∃ new, after.past = new ++ course.past ∧
          ∀ entry ∈ new, entry.number = number →
            entry = .resolved number (.error .superseded) ∨ entry = .released number) ∧
        ∀ poll, after.poller.poll? number = some poll →
          poll.stage = .ended (.error .superseded) ∨
            (after.step (.turn number)).past =
                .resolved number (.error .superseded) :: after.past ∧
              ∀ result, poll.stage = .checking →
                (after.step (.answer number result)).past =
                  .resolved number (.error .superseded) :: after.past := by
  intro course poller
  have orderly : course.Orderly := Course.Orderly.run interval maxAttempts events
  have notRound : poller.last < UInt64.size := by
    rw [Course.last_run]
    simpa [Course.start] using few
  refine ⟨orderly.poller.length_live_le_one notRound, ?_, Course.current_step orderly notRound,
    ?_, ?_, ?_⟩
  · intro poll member
    obtain ⟨present, live⟩ := List.mem_filter.mp member
    exact orderly.poller.alone notRound poll present live
  · refine List.filter_eq_nil_iff.mpr fun poll member => ?_
    rw [orderly.poller.not_isLive_cancel notRound member]
    exact Bool.false_ne_true
  · intro poll member numbered
    rw [orderly.step_register member numbered]
    exact orderly.poller.live_register notRound member numbered
  · intro number event waits supersedes more after
    obtain ⟨doomed, first, firstPast, firstAllowed⟩ :=
      Course.Doomed.of_supersedes orderly notRound waits supersedes
    obtain ⟨still, rest, restPast, restAllowed⟩ := doomed.run more
    refine ⟨⟨rest ++ first, ?_, ?_⟩, fun poll found => still.next found⟩
    · change ((course.step event).run more).past = _
      rw [restPast, firstPast, List.append_assoc]
    · intro entry member
      rcases List.mem_append.mp member with late | early
      · exact restAllowed entry late
      · exact firstAllowed entry early

namespace TakenOver

/-- A poll has asked and waits for its answer when another one takes its number. -/
def events : List Event := [.enter "first" true, .turn 1, .turn 1, .enter "second" true]

/-- The course up to there. -/
def course : Course := (Course.start 2000 150).run events

/-- An answer that would end a poll. -/
def answer : Api.Result Status := .ok { word := "done" }

end TakenOver

/-- The second poll registers while the answer to the first is on the way: the first ends as
superseded although its answer says that the task is done. -/
theorem one_poll_at_a_time_taken_over :
    let starts := TakenOver.events.countP Event.isEnter
    let course := TakenOver.course
    let after := course.step (.turn 2)
    starts < UInt64.size ∧ course.Waits 1 ∧ course.Supersedes (.turn 2) ∧
      course.poller.current = some ⟨1, 1⟩ ∧ after.poller.current = some ⟨2, 2⟩ ∧
      (after.step (.answer 1 TakenOver.answer)).past =
        .resolved 1 (.error .superseded) :: after.past := by
  intro starts course after
  have few : starts < UInt64.size := by decide
  have waits : course.Waits 1 := by
    refine ⟨⟨_, List.mem_cons_self, rfl, rfl⟩, fun held member => ?_⟩
    cases member
  have supersedes : course.Supersedes (.turn 2) :=
    .inr ⟨_, List.mem_cons_of_mem _ List.mem_cons_self, rfl, rfl⟩
  obtain ⟨_, _, _, _, _, superseded⟩ := one_poll_at_a_time 2000 150 TakenOver.events few
  obtain ⟨_, ending⟩ := superseded 1 (.turn 2) waits supersedes []
  have ended := (ending _ rfl).resolve_left (by rintro ⟨⟩)
  exact ⟨few, waits, supersedes, rfl, rfl, ended.2 TakenOver.answer rfl⟩

end UtilityBilling.Task
