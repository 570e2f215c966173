/-
# What an event does to the polls

An event of a course concerns one poll at most: the others stay where they are, keep the
answers that they hold, and are not seen; a cancellation is all that can befall them. From
this, and from what the single actions do, the order among the polls is kept by every course.
-/

import UtilityBilling.Proofs.Task.Order

namespace UtilityBilling.Task

/-- What the doing of others leaves of a poll: at most it is cancelled. -/
structure Poll.Spared (before after : Poll) : Prop where
  number : before.number = after.number
  stage : before.stage = after.stage
  attempts : before.attempts = after.attempts
  cancelled : before.cancelled = true → after.cancelled = true

theorem Poll.Spared.refl (poll : Poll) : poll.Spared poll := ⟨rfl, rfl, rfl, id⟩

/-- A cancellation spares all polls. -/
theorem Poller.exists_before_cancel {poller : Poller} {poll : Poll}
    (member : poll ∈ poller.cancel.polls) : ∃ old ∈ poller.polls, old.Spared poll := by
  rw [Poller.polls_cancel] at member
  obtain ⟨old, oldMember, rfl⟩ := List.mem_map.mp member
  split
  · exact ⟨old, oldMember, rfl, rfl, rfl, fun _ => rfl⟩
  · exact ⟨old, oldMember, .refl old⟩

theorem Poller.exists_after_cancel {poller : Poller} {poll : Poll} (member : poll ∈ poller.polls) :
    ∃ later ∈ poller.cancel.polls, poll.Spared later := by
  rw [Poller.polls_cancel]
  refine ⟨_, List.mem_map_of_mem member, ?_⟩
  split
  · exact ⟨rfl, rfl, rfl, fun _ => rfl⟩
  · exact .refl poll

namespace Course

variable {course : Course} {number : Nat}

/-- The poll whose doing an event is. -/
def owner? (course : Course) : Event → Option Nat
  | .enter _ _ => some (course.poller.last + 1)
  | .turn number | .answer number _ | .abandon number => some number
  | .cancel | .wait _ => none

/-- The polls that an event does not belong to stay at their stages, keep what they hold and
are not seen; at most they are cancelled. -/
structure Spares (before : Course) (number? : Option Nat) (after : Course) : Prop where
  maxAttempts : after.poller.maxAttempts = before.poller.maxAttempts
  last : before.poller.last ≤ after.poller.last
  polls : ∀ poll ∈ after.poller.polls, number? ≠ some poll.number →
    ∃ old ∈ before.poller.polls, old.Spared poll
  stays : ∀ poll ∈ before.poller.polls, number? ≠ some poll.number →
    ∃ later ∈ after.poller.polls, poll.Spared later
  held : ∀ held ∈ after.held, number? ≠ some held.poll.number → held ∈ before.held
  past : ∃ new, after.past = new ++ before.past ∧ ∀ entry ∈ new, number? = some entry.number

namespace Spares

theorem refl (course : Course) (number? : Option Nat) : course.Spares number? course where
  maxAttempts := rfl
  last := Nat.le_refl _
  polls := fun poll member _ => ⟨poll, member, .refl poll⟩
  stays := fun poll member _ => ⟨poll, member, .refl poll⟩
  held := fun _ member _ => member
  past := ⟨[], rfl, by simp⟩

/-- A step of a poll under way spares the others. -/
theorem proceed (course : Course) {after : Poller}
    (advances : course.poller.Advances number after) {seen : List Entry}
    (own : ∀ entry ∈ seen, entry.number = number) :
    course.Spares (some number) (course.proceed number after seen) := by
  obtain ⟨_, last, _, maxAttempts, change, keeps, polls⟩ := advances
  constructor
  · exact maxAttempts
  · exact Nat.le_of_eq last.symm
  · intro poll member other
    change poll ∈ after.polls at member
    rw [polls] at member
    obtain ⟨old, oldMember, rfl⟩ := List.mem_map.mp member
    split at other
    case isTrue same => exact absurd (congrArg some ((keeps.number old).trans same).symm) other
    case isFalse apart =>
      rw [if_neg apart]
      exact ⟨old, oldMember, .refl old⟩
  · intro poll member other
    have apart : poll.number ≠ number := fun same => other (congrArg some same.symm)
    refine ⟨poll, ?_, .refl poll⟩
    change poll ∈ after.polls
    rw [polls]
    exact List.mem_map.mpr ⟨poll, member, if_neg apart⟩
  · exact fun _ member _ => member
  · refine ⟨(after.ending? number).toList.map (.resolved number) ++ seen, ?_, ?_⟩
    · exact (List.append_assoc _ _ _).symm
    · intro entry member
      rcases List.mem_append.mp member with ended | seen
      · obtain ⟨result, _, rfl⟩ := List.mem_map.mp ended
        rfl
      · exact congrArg some (own entry seen).symm

theorem weigh (course : Course) (held : Held) :
    course.Spares (some held.poll.number) (course.weigh held) := by
  let reported := reported? held.poll course.poller.allowed held.result
  have own : ∀ entry ∈ reported.toList.map (Entry.reported held.poll.number),
      entry.number = held.poll.number := by
    simp [Entry.number]
  have spares := proceed course (course.poller.advances_answer held.poll held.result) own
  exact ⟨spares.maxAttempts, spares.last, spares.polls, spares.stays,
    fun _ member _ => List.mem_of_mem_filter member, spares.past⟩

/-- A poll that registers spares the others. -/
theorem register (course : Course) (newer : Poll) :
    course.Spares (some newer.number)
      { course with
        poller := course.poller.register newer
        past := .registered newer.number :: course.past } := by
  constructor
  · exact course.poller.maxAttempts_cancel
  · exact Nat.le_of_eq (course.poller.last_cancel).symm
  · intro poll member other
    obtain ⟨cancelled, old, rfl⟩ := List.mem_map.mp member
    split at other
    case isTrue same => exact absurd (congrArg some same.symm) other
    case isFalse apart =>
      rw [if_neg apart]
      exact Poller.exists_before_cancel old
  · intro poll member other
    obtain ⟨later, isLater, spared⟩ := Poller.exists_after_cancel member
    have apart : later.number ≠ newer.number := fun same =>
      other (congrArg some (spared.number.trans same).symm)
    exact ⟨later, List.mem_map.mpr ⟨later, isLater, if_neg apart⟩, spared⟩
  · exact fun _ member _ => member
  · exact ⟨[.registered newer.number], rfl, by simp [Entry.number]⟩

/-- A poll that goes spares the others. -/
theorem leave (course : Course) (number : Nat) {after : Course}
    (maxAttempts : after.poller.maxAttempts = course.poller.maxAttempts)
    (last : after.poller.last = course.poller.last)
    (polls : after.poller.polls = course.poller.polls.filter fun poll => poll.number != number)
    (held : ∀ held ∈ after.held, held ∈ course.held)
    (past : ∃ new, after.past = new ++ course.past ∧ ∀ entry ∈ new, entry.number = number) :
    course.Spares (some number) after := by
  constructor
  · exact maxAttempts
  · exact Nat.le_of_eq last.symm
  · intro poll member _
    rw [polls] at member
    exact ⟨poll, List.mem_of_mem_filter member, .refl poll⟩
  · intro poll member other
    have apart : poll.number ≠ number := fun same => other (congrArg some same.symm)
    refine ⟨poll, ?_, .refl poll⟩
    rw [polls]
    exact List.mem_filter.mpr ⟨member, by simpa using apart⟩
  · exact fun one member _ => held one member
  · obtain ⟨new, grown, own⟩ := past
    exact ⟨new, grown, fun entry member => congrArg some (own entry member).symm⟩

theorem turn (course : Course) (poll : Poll) :
    course.Spares (some poll.number) (course.turn poll) := by
  unfold Course.turn
  split
  case h_1 held found =>
    have same : held.poll.number = poll.number := by simpa using List.find?_some found
    rw [← same]
    exact weigh course held
  case h_2 =>
    split
    · exact register course poll
    · refine proceed course (course.poller.advances_check poll) ?_
      split <;> simp [Entry.number]
    · split
      · exact proceed course (course.poller.advances_resolve poll.number _) (by simp)
      · exact refl course _
    · split
      · exact proceed course (course.poller.advances_wake poll) (by simp)
      · exact refl course _
    · exact leave course poll.number rfl rfl rfl (fun _ => id)
        ⟨[.released poll.number], rfl, by simp [Entry.number]⟩

theorem take (course : Course) (poll : Poll) (result : Api.Result Status) :
    course.Spares (some poll.number) (course.take poll result) := by
  unfold Course.take
  split
  · split
    · exact proceed course (course.poller.advances_resolve poll.number _) (by simp)
    · have spares := refl course (some poll.number)
      refine ⟨spares.maxAttempts, spares.last, spares.polls, spares.stays,
        fun held member other => ?_, spares.past⟩
      rcases List.mem_append.mp member with old | new
      · exact old
      · rw [List.mem_singleton.mp new] at other
        exact absurd rfl other
  · exact refl course _

end Spares

/-- An event concerns one poll at most. -/
theorem spares_step (course : Course) (event : Event) :
    course.Spares (course.owner? event) (course.step event) := by
  cases event with
  | enter taskId reports =>
      refine ⟨rfl, Nat.le_succ _, fun poll member other => ?_,
        fun poll member _ => ⟨poll, List.mem_append_left _ member, .refl poll⟩,
        fun _ member _ => member, ⟨[], rfl, by simp⟩⟩
      rcases List.mem_append.mp member with old | new
      · exact ⟨poll, old, .refl poll⟩
      · rw [List.mem_singleton.mp new] at other
        exact absurd rfl other
  | turn number =>
      simp only [step, owner?]
      split
      case h_1 poll found =>
        rw [← (Poller.mem_of_poll? found).2]
        exact Spares.turn course poll
      case h_2 => exact Spares.refl course _
  | answer number result =>
      simp only [step, owner?]
      split
      case h_1 poll found =>
        rw [← (Poller.mem_of_poll? found).2]
        exact Spares.take course poll result
      case h_2 => exact Spares.refl course _
  | cancel =>
      exact ⟨course.poller.maxAttempts_cancel, Nat.le_of_eq (course.poller.last_cancel).symm,
        fun _ member _ => Poller.exists_before_cancel member,
        fun _ member _ => Poller.exists_after_cancel member,
        fun _ member _ => member, ⟨[], rfl, by simp⟩⟩
  | abandon number =>
      exact Spares.leave course number rfl rfl rfl (fun _ => List.mem_of_mem_filter)
        ⟨[], rfl, by simp⟩
  | wait milliseconds =>
      have unchanged := Spares.refl course none
      exact ⟨unchanged.maxAttempts, unchanged.last, unchanged.polls, unchanged.stays,
        unchanged.held, unchanged.past⟩

/-- How many checks are allowed does not change. -/
theorem maxAttempts_run (course : Course) (events : List Event) :
    (course.run events).poller.maxAttempts = course.poller.maxAttempts := by
  induction events generalizing course with
  | nil => rfl
  | cons event rest ih =>
      exact (ih (course.step event)).trans (course.spares_step event).maxAttempts

theorem held_of_held? {held : Held} (found : course.held? number = some held) :
    held ∈ course.held ∧ held.poll.number = number :=
  ⟨List.mem_of_find?_eq_some found, by simpa using List.find?_some found⟩

theorem not_held_of_held? (found : course.held? number = none) {held : Held}
    (member : held ∈ course.held) : held.poll.number ≠ number := by
  simpa using List.find?_eq_none.mp found held member

theorem mem_heldByOthers {held : Held} :
    held ∈ course.heldByOthers number ↔ held ∈ course.held ∧ held.poll.number ≠ number := by
  simp [heldByOthers]

/-- The poller is in order, and a poll that holds an answer is still waiting for it. -/
structure Orderly (course : Course) : Prop where
  poller : course.poller.Orderly
  known : ∀ held ∈ course.held, held.poll.number ≤ course.poller.last
  waits : ∀ held ∈ course.held, ∀ poll ∈ course.poller.polls,
    poll.number = held.poll.number → poll.stage = .checking

namespace Orderly

theorem start (interval : Nat) (maxAttempts : UInt32) :
    Orderly (.start interval maxAttempts) :=
  ⟨.start interval maxAttempts, by simp [Course.start], by simp [Course.start]⟩

/-- The poller stays in order. -/
theorem poller_turn (orderly : course.Orderly) {poll : Poll}
    (member : poll ∈ course.poller.polls) : (course.turn poll).poller.Orderly := by
  have inOrder := orderly.poller
  unfold turn
  split
  case h_1 held found =>
    obtain ⟨isHeld, same⟩ := held_of_held? found
    have waits := orderly.waits held isHeld poll member same.symm
    have advances := course.poller.advances_answer held.poll held.result
    rw [same] at advances
    exact inOrder.advance member (by rw [waits]; rfl) advances
  case h_2 =>
    split
    case h_1 => exact inOrder.register member
    case h_2 ready =>
      exact inOrder.advance member (by rw [ready]; rfl) (course.poller.advances_check poll)
    case h_3 checking =>
      split
      · exact inOrder.advance member (by rw [checking]; rfl)
          (course.poller.advances_resolve poll.number _)
      · exact inOrder
    case h_4 due resting =>
      split
      · exact inOrder.advance member (by rw [resting]; rfl) (course.poller.advances_wake poll)
      · exact inOrder
    case h_5 result ended => exact inOrder.release member result

/-- The poller stays in order by every event. -/
theorem poller_step (orderly : course.Orderly) (event : Event) :
    (course.step event).poller.Orderly := by
  have inOrder := orderly.poller
  cases event with
  | enter taskId reports => exact inOrder.enter taskId reports
  | turn number =>
      simp only [step]
      split
      case h_1 poll found => exact orderly.poller_turn (Poller.mem_of_poll? found).1
      case h_2 => exact inOrder
  | answer number result =>
      simp only [step]
      split
      case h_1 poll found =>
        unfold take
        split
        case h_1 checking _ =>
          split
          · exact inOrder.advance (Poller.mem_of_poll? found).1 (by rw [checking]; rfl)
              (course.poller.advances_resolve poll.number _)
          · exact inOrder
        case h_2 => exact inOrder
      case h_2 => exact inOrder
  | cancel => exact inOrder.cancel
  | abandon number => exact inOrder.drop rfl rfl rfl (.inl rfl)
  | wait milliseconds => exact inOrder.congr rfl rfl rfl rfl

/-- A poll that takes its turn holds no answer afterwards. -/
theorem not_held_turn {poll : Poll} {held : Held} (member : held ∈ (course.turn poll).held) :
    held.poll.number ≠ poll.number := by
  unfold turn at member
  split at member
  case h_1 old found =>
    rw [← (held_of_held? found).2]
    exact (mem_heldByOthers.mp member).2
  case h_2 none_held =>
    apply not_held_of_held? none_held
    revert member
    split <;> (try split) <;> exact id

/-- Every event keeps a course in order. -/
theorem step (orderly : course.Orderly) (event : Event) : (course.step event).Orderly := by
  have spares := spares_step course event
  suffices kept : ∀ held ∈ (course.step event).held,
      held.poll.number ≤ (course.step event).poller.last ∧
        ∀ poll ∈ (course.step event).poller.polls, poll.number = held.poll.number →
          poll.stage = .checking by
    exact ⟨orderly.poller_step event, fun held member => (kept held member).1,
      fun held member => (kept held member).2⟩
  intro held member
  have unchanged : held ∈ course.held → held.poll.number ≤ course.poller.last ∧
      ∀ poll ∈ course.poller.polls, poll.number = held.poll.number → poll.stage = .checking :=
    fun old => ⟨orderly.known held old, orderly.waits held old⟩
  by_cases other : course.owner? event = some held.poll.number
  case neg =>
    have old := spares.held held member other
    refine ⟨Nat.le_trans (orderly.known held old) spares.last, fun poll isPoll same => ?_⟩
    obtain ⟨before, oldPoll, spared⟩ := spares.polls poll isPoll (by rw [same]; exact other)
    rw [← spared.stage]
    exact orderly.waits held old before oldPoll (spared.number.trans same)
  case pos =>
    cases event with
    | enter taskId reports =>
        have known := orderly.known held member
        rw [← Option.some.inj other] at known
        exact absurd known (Nat.not_succ_le_self _)
    | turn number =>
        simp only [Course.step] at member ⊢
        split at member
        case h_1 poll found =>
          have apart := not_held_turn member
          rw [(Poller.mem_of_poll? found).2] at apart
          exact absurd (Option.some.inj other).symm apart
        case h_2 => exact unchanged member
    | answer number result =>
        simp only [Course.step] at member ⊢
        split at member
        case h_2 => exact unchanged member
        case h_1 poll found =>
          obtain ⟨isPoll, same⟩ := Poller.mem_of_poll? found
          unfold take at member ⊢
          split at member
          case h_2 => exact unchanged member
          case h_1 checking none_held =>
            split at member
            case isTrue =>
              have apart := not_held_of_held? none_held member
              rw [same] at apart
              exact absurd (Option.some.inj other).symm apart
            case isFalse uncancelled =>
              rw [if_neg uncancelled]
              refine ⟨?_, fun one isOne number => ?_⟩
              · rw [← Option.some.inj other, ← same]
                exact orderly.poller.numbered poll isPoll
              · rw [← Option.some.inj other, ← same] at number
                rw [orderly.poller.eq_of_number isOne isPoll number, checking]
    | cancel => cases other
    | abandon number =>
        exact absurd (Option.some.inj other).symm (mem_heldByOthers.mp member).2
    | wait milliseconds => cases other

/-- A poll that has its word registers when it takes its turn. -/
theorem step_register (orderly : course.Orderly) {poll : Poll}
    (member : poll ∈ course.poller.polls) (numbered : poll.stage = .numbered) :
    course.step (.turn poll.number) =
      { course with
        poller := course.poller.register poll
        past := .registered poll.number :: course.past } := by
  have none_held : course.held? poll.number = none := by
    rw [held?, List.find?_eq_none]
    intro held isHeld
    rw [beq_iff_eq]
    intro same
    have waits := orderly.waits held isHeld poll member same.symm
    rw [numbered] at waits
    cases waits
  simp only [Course.step, orderly.poller.poll?_eq member]
  unfold turn
  rw [none_held, numbered]

/-- Every course is in order. -/
theorem run (interval : Nat) (maxAttempts : UInt32) (events : List Event) :
    ((Course.start interval maxAttempts).run events).Orderly :=
  List.foldlRecOn (motive := Orderly) events Course.step (.start interval maxAttempts)
    fun _ orderly event _ => orderly.step event

end Orderly

end Course

end UtilityBilling.Task
