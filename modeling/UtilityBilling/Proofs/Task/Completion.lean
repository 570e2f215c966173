/-
# A poll to its end

A poll that is let go on stops only where it waits, for its answer or for the end of its rest.
When nothing can go on the clock moves to the moment at which something is due, and the poll
comes to a later phase. So in the end it is gone, and what was seen of it is its schedule.
-/

import UtilityBilling.Proofs.Task.Checks
import UtilityBilling.Proofs.Task.ErrorText
import UtilityBilling.Proofs.Task.Phases

namespace UtilityBilling.Task

variable {σ : Type}

namespace Plan

variable {plan : Plan σ} {now : Timeline σ} {index : Nat}

/-- The poll cannot go on now. -/
def Quiet (plan : Plan σ) (now : Timeline σ) : Prop :=
  (now.poller.poll? plan.run.nextNumber).bind now.stepPoll = none

/-- The run has just one poll, unless it is gone. -/
theorem exists_single {phase : Phase} (atPhase : plan.At phase now) (present : phase ≠ .gone) :
    ∃ poll, now.poller.polls = [poll] ∧ poll.number = plan.run.nextNumber ∧
      (plan.scene phase).poll? = some poll := by
  have polls := atPhase.shows.polls
  cases phase with
  | gone => exact absurd rfl present
  | _ => exact ⟨_, polls, rfl, rfl⟩

theorem polls_gone (atPhase : plan.At .gone now) : now.poller.polls = [] :=
  atPhase.shows.polls

/-- In every phase but two the poll can go on, or it is gone. -/
theorem step_cases (sound : plan.Sound) {phase : Phase} (atPhase : plan.At phase now) :
    (∃ after, (now.poller.poll? plan.run.nextNumber).bind now.stepPoll = some after ∧
      plan.Later phase after) ∨
    plan.Quiet now ∧
      (phase = .gone ∨ (∃ index, phase = .awaiting index) ∨
        ∃ index, phase = .resting index ∧ now.poller.clock < plan.askTime index) := by
  obtain ⟨within, looks⟩ := atPhase
  have found : ∀ {poll : Poll}, now.poller.polls = [poll] →
      poll.number = plan.run.nextNumber →
      (now.poller.poll? plan.run.nextNumber).bind now.stepPoll = now.stepPoll poll := by
    intro poll single same
    rw [← same, Poller.poll?_single single]
    rfl
  unfold Quiet
  cases phase with
  | entered =>
      rw [found looks.polls rfl]
      exact .inl (step_entered sound looks)
  | asking index =>
      rw [found looks.polls rfl]
      exact .inl (step_asking sound within looks)
  | awaiting index =>
      rw [found looks.polls rfl]
      exact .inr ⟨rfl, .inr (.inl ⟨index, rfl⟩)⟩
  | resting index =>
      rw [found looks.polls rfl]
      by_cases rested : plan.askTime index ≤ now.poller.clock
      · exact .inl (step_resting within looks rested)
      · refine .inr ⟨if_neg ?_, .inr (.inr ⟨index, rfl, Nat.lt_of_not_le rested⟩)⟩
        simpa [poll] using rested
  | ended =>
      rw [found looks.polls rfl]
      exact .inl (step_ended looks)
  | gone =>
      refine .inr ⟨?_, .inl rfl⟩
      rw [Poller.poll?, looks.polls]
      rfl

theorem eq_gone_of_rank {phase : Phase} (done : plan.rank phase = 0) : phase = .gone := by
  cases phase with
  | gone => rfl
  | _ => simp [rank] at done

/-- A poll that is let go on comes to a later phase, in which it cannot go on. -/
theorem runPoll_quiet (sound : plan.Sound) {phase : Phase} (atPhase : plan.At phase now)
    {fuel : Nat} (enough : plan.rank phase ≤ fuel) :
    plan.Quiet (Timeline.runPoll fuel plan.run.nextNumber now) ∧
      ∃ next, plan.At next (Timeline.runPoll fuel plan.run.nextNumber now) ∧
        plan.rank next ≤ plan.rank phase := by
  induction fuel generalizing phase now with
  | zero =>
      have gone := eq_gone_of_rank (Nat.le_zero.mp enough)
      subst gone
      rcases step_cases sound atPhase with ⟨_, _, next, _, less⟩ | ⟨quiet, _⟩
      · exact absurd less (Nat.not_lt_zero _)
      · exact ⟨quiet, .gone, atPhase, Nat.le_refl _⟩
  | succ fuel ih =>
      rw [Timeline.runPoll]
      rcases step_cases sound atPhase with ⟨after, stepped, next, atNext, less⟩ | ⟨quiet, _⟩
      · simp only [stepped]
        obtain ⟨quiet, last, atLast, notMore⟩ := ih atNext (by omega)
        exact ⟨quiet, last, atLast, by omega⟩
      · have stopped := quiet
        unfold Quiet at stopped
        simp only [stopped]
        exact ⟨quiet, phase, atPhase, Nat.le_refl _⟩

/-- The steps of a poll are enough for every phase. -/
theorem rank_lt_stepsOf (sound : plan.Sound) {phase : Phase} (atPhase : plan.At phase now) :
    plan.rank phase < now.stepsOf := by
  have within := sound.within
  rw [Timeline.stepsOf, allowed_eq atPhase.shows]
  cases phase <;> simp only [rank] <;> omega

/-- When all polls are let go on, the poll comes to a later phase, unless it cannot go on. -/
theorem settle_quiet (sound : plan.Sound) {phase : Phase} (atPhase : plan.At phase now) :
    plan.Quiet now.settle ∧
      ∃ next, plan.At next now.settle ∧ plan.rank next ≤ plan.rank phase ∧
        (¬ plan.Quiet now → plan.rank next < plan.rank phase) := by
  by_cases gone : phase = .gone
  case pos =>
    subst gone
    have settled : now.settle = now := by
      rw [Timeline.settle, polls_gone atPhase]
      rfl
    have quiet : plan.Quiet now := by
      rw [Quiet, Poller.poll?, polls_gone atPhase]
      rfl
    rw [settled]
    exact ⟨quiet, .gone, atPhase, Nat.le_refl _, fun restless => absurd quiet restless⟩
  case neg =>
    obtain ⟨poll, single, same, _⟩ := exists_single atPhase gone
    have settled : now.settle = Timeline.runPoll now.stepsOf plan.run.nextNumber now := by
      rw [Timeline.settle, single, ← same]
      rfl
    have enough := rank_lt_stepsOf sound atPhase
    rw [settled]
    rcases step_cases sound atPhase with ⟨after, stepped, next, atNext, less⟩ | ⟨stopped, _⟩
    · obtain ⟨fuel, isFuel⟩ := Nat.exists_eq_add_of_lt enough
      rw [isFuel, Timeline.runPoll]
      simp only [stepped]
      have enoughLeft : plan.rank next ≤ plan.rank phase + fuel := by omega
      obtain ⟨quiet, last, atLast, notMore⟩ := runPoll_quiet sound atNext enoughLeft
      exact ⟨quiet, last, atLast, by omega, fun _ => by omega⟩
    · obtain ⟨quiet, last, atLast, notMore⟩ := runPoll_quiet sound atPhase (Nat.le_of_lt enough)
      exact ⟨quiet, last, atLast, notMore, fun restless => absurd stopped restless⟩

/-- Only what the clock shows depends on the time. -/
theorem at_withClock {phase : Phase} (atPhase : plan.At phase now) {time : Nat}
    (fits : (plan.scene phase).clock time) (notBefore : plan.run.poller.clock ≤ time) :
    plan.At phase (now.withClock time) :=
  ⟨atPhase.within, atPhase.shows.source, atPhase.shows.interval, atPhase.shows.maxAttempts,
    atPhase.shows.world, atPhase.shows.polls, atPhase.shows.arrivals, atPhase.shows.current,
    atPhase.shows.seen, fits, notBefore⟩

/-- When its time has come, the answer that a poll waits for is taken. -/
theorem deliver_awaiting (sound : plan.Sound) (atPhase : plan.At (.awaiting index) now) :
    plan.At (plan.afterAnswer index) (now.withClock (plan.answerTime index)).deliver := by
  obtain ⟨within, looks⟩ := atPhase
  have found : (now.withClock (plan.answerTime index)).poller.poll? plan.run.nextNumber =
      some (plan.poll (index + 1) .checking) := Poller.poll?_single looks.polls
  have arrivals : (now.withClock (plan.answerTime index)).arrivals =
      [⟨plan.run.nextNumber, plan.answerTime index, plan.reply index⟩] := looks.arrivals
  rw [Timeline.deliver_single arrivals (Nat.le_refl _) found]
  apply take_deciding sound within
  exact ⟨looks.source, looks.interval, looks.maxAttempts, looks.world, looks.polls, rfl,
    looks.current, looks.seen, rfl, plan.run.clock_le_answerTime plan.taskId index⟩

/-- When the clock moves to the next moment at which something is due, the poll comes to a
later phase. That moment is not after the last answer. -/
theorem pass_time (sound : plan.Sound) {phase : Phase} (atPhase : plan.At phase now)
    (quiet : plan.Quiet now) (present : phase ≠ .gone) :
    ∃ due, now.nextDue = some due ∧ due ≤ plan.answerTime plan.final ∧
      plan.Quiet (now.withClock due).deliver.settle ∧
      plan.Later phase (now.withClock due).deliver.settle := by
  rcases step_cases sound atPhase with ⟨after, stepped, _⟩ | ⟨_, gone | waits | rests⟩
  · unfold Quiet at quiet
    rw [quiet] at stepped
    cases stepped
  · exact absurd gone present
  · obtain ⟨index, rfl⟩ := waits
    have polls : now.poller.polls = [plan.poll (index + 1) .checking] := atPhase.shows.polls
    have arrivals : now.arrivals =
      [⟨plan.run.nextNumber, plan.answerTime index, plan.reply index⟩] := atPhase.shows.arrivals
    refine ⟨plan.answerTime index, ?_, plan.run.answerTime_mono plan.taskId atPhase.within, ?_⟩
    · rw [Timeline.nextDue, polls, arrivals]
      rfl
    · have answered := deliver_awaiting sound atPhase
      obtain ⟨settled, next, atNext, notMore, _⟩ := settle_quiet sound answered
      refine ⟨settled, next, atNext, Nat.lt_of_le_of_lt notMore ?_⟩
      exact rank_afterAnswer atPhase.within
  · obtain ⟨index, rfl, _⟩ := rests
    have polls : now.poller.polls = [plan.poll index (.resting (plan.askTime index))] :=
      atPhase.shows.polls
    have arrivals : now.arrivals = [] := atPhase.shows.arrivals
    refine ⟨plan.askTime index, ?_, ?_, ?_⟩
    · rw [Timeline.nextDue, polls, arrivals]
      rfl
    · exact Nat.le_trans (plan.run.askTime_le_answerTime plan.taskId index)
        (plan.run.answerTime_mono plan.taskId atPhase.within)
    · have delivered : (now.withClock (plan.askTime index)).deliver =
          now.withClock (plan.askTime index) := Timeline.deliver_none arrivals
      have rested := at_withClock atPhase (Nat.le_refl (plan.askTime index))
        (plan.run.clock_le_askTime plan.taskId index)
      rw [delivered]
      obtain ⟨settled, next, atNext, _, less⟩ := settle_quiet sound rested
      refine ⟨settled, next, atNext, less fun stuck => ?_⟩
      obtain ⟨after, stepped, _⟩ := step_resting rested.within rested.shows (Nat.le_refl _)
      have found : (now.withClock (plan.askTime index)).poller.poll? plan.run.nextNumber =
          some (plan.poll index (.resting (plan.askTime index))) := Poller.poll?_single polls
      unfold Quiet at stuck
      rw [found, Option.bind_some, stepped] at stuck
      cases stuck

/-- The clock that moves on past the last answer finds the poll gone. -/
theorem advanceFor_gone (sound : plan.Sound) {phase : Phase} (atPhase : plan.At phase now)
    (quiet : plan.Quiet now) {fuel finish : Nat} (enough : plan.rank phase ≤ fuel)
    (long : plan.answerTime plan.final ≤ finish) :
    plan.At .gone (Timeline.advanceFor fuel finish now) := by
  have late := Nat.le_trans (plan.run.clock_le_answerTime plan.taskId plan.final) long
  induction fuel generalizing phase now with
  | zero =>
      have gone := eq_gone_of_rank (Nat.le_zero.mp enough)
      subst gone
      exact at_withClock atPhase trivial late
  | succ fuel ih =>
      rw [Timeline.advanceFor]
      by_cases gone : phase = .gone
      case pos =>
        subst gone
        have nothing : now.nextDue = none := by
          have arrivals : now.arrivals = [] := atPhase.shows.arrivals
          rw [Timeline.nextDue, polls_gone atPhase, arrivals]
          rfl
        simp only [nothing]
        exact at_withClock atPhase trivial late
      case neg =>
        obtain ⟨due, isNext, inTime, stillQuiet, next, atNext, less⟩ :=
          pass_time sound atPhase quiet gone
        simp only [isNext]
        rw [if_pos (Nat.le_trans inTime long)]
        exact ih atNext stillQuiet (by omega)

end Plan

/-- A poll that is started makes some checks and comes to a result: when its time is over,
just the schedule of these checks was seen, and then the end of the poll, at the moment of the
last answer; the source was asked no more often, and nothing is left under way. -/
def Timeline.Resolves (run : Timeline σ) (taskId : String) (reports : Bool) (checks : Nat)
    (result : PollResult) : Prop :=
  ∀ milliseconds, run.duration taskId checks ≤ milliseconds →
    let after := (run.poll taskId reports).advance milliseconds
    after.seen = run.seen ++ run.checksSights taskId reports checks ++
        [(run.poller.clock + run.duration taskId checks, .ended run.nextNumber result)] ∧
      after.world = run.worldAt taskId checks ∧ after.Idle

/-- A poll comes to the end that its plan says. -/
theorem Plan.Sound.resolves {plan : Plan σ} (sound : plan.Sound) :
    plan.run.Resolves plan.taskId plan.reports (plan.final + 1) plan.result := by
  intro milliseconds long after
  let entered : Timeline σ :=
    { plan.run with poller := plan.run.poller.enter plan.taskId plan.reports }
  have atStart : plan.At .entered entered := by
    refine ⟨trivial, rfl, rfl, rfl, rfl, ?_, sound.idle.arrivals, rfl,
      (List.append_nil _).symm, rfl, Nat.le_refl _⟩
    change plan.run.poller.polls ++ _ = _
    rw [sound.idle.polls]
    rfl
  obtain ⟨quiet, next, atNext, _⟩ := Plan.settle_quiet sound atStart
  have finish : plan.answerTime plan.final =
      plan.run.poller.clock + plan.run.duration plan.taskId (plan.final + 1) :=
    plan.run.answerTime_eq_duration plan.taskId plan.final
  have gone : plan.At .gone after := by
    change plan.At .gone (entered.settle.advance milliseconds)
    rw [Timeline.advance]
    apply Plan.advanceFor_gone sound atNext quiet
    · have enough := Plan.rank_lt_stepsOf sound atNext
      rw [Nat.mul_succ]
      omega
    · have notBefore := atNext.shows.notBefore
      omega
  have looks := gone.shows
  refine ⟨?_, looks.world, looks.polls, looks.arrivals, ?_⟩
  · rw [looks.seen, ← finish, List.append_assoc]
    rfl
  · rw [looks.current]
    rintro number ⟨⟩

/-- A poll that nobody takes over from. On an idle poller, whatever the source answers and
however long each answer takes, a poll makes one check after another, at least one and at
most as many as its poller allows, up to the first answer that is an error or whose word says
that the task is done or has failed. It ends with that answer, and otherwise with its last
check, as timed out; it reports just the pending answers, each when it comes; it ends after
the time of its answers and of the rests between its checks. The message of a failed task is
the error text of the status where there is one, and never blank. In every course of polls
the count of checks is right and never wraps around. -/
theorem poll_runs_to_its_end (run : Timeline σ) (idle : run.Idle) (taskId : String)
    (reports : Bool) :
    let answer := fun index => (run.replyAt taskId index).result
    let allowed := run.poller.allowed
    allowed.toNat = max run.poller.maxAttempts.toNat 1 ∧
      (∀ last result, last < allowed.toNat →
        (∀ index < last, conclusion? taskId (answer index) = none) →
        conclusion? taskId (answer last) = some result →
          run.Resolves taskId reports (last + 1) result) ∧
      ((∀ index < allowed.toNat, conclusion? taskId (answer index) = none) →
        run.Resolves taskId reports allowed.toNat (.error (.timedOut allowed))) ∧
      (∀ bytes status message, Json.decode readStatus bytes = .ok status →
        conclusion? taskId (.ok status) = some (.error (.failed message)) →
          Text.trim message ≠ "" ∧
            (status.error = some message ∨
              status.error = none ∧ message = genericFailure)) ∧
      ∀ events,
        let course := (Course.start run.poller.interval run.poller.maxAttempts).run events
        ∀ poll ∈ course.poller.polls,
          poll.attempts.toNat = course.questions poll.number ∧
            course.questions poll.number ≤ allowed.toNat ∧
            (poll.stage = .ready → poll.attempts.toNat + 1 < UInt32.size) := by
  intro answer allowed
  refine ⟨run.poller.toNat_allowed, ?_, ?_, ?_, ?_⟩
  · intro last result within goesOn ends
    have sound : Plan.Sound ⟨run, taskId, reports, last, result⟩ :=
      ⟨idle, within, goesOn, .inl ends⟩
    exact sound.resolves
  · intro goesOn
    have positive : 0 < allowed.toNat := Course.Counted.allowed_pos run.poller
    obtain ⟨last, all⟩ := Nat.exists_eq_add_one.mpr positive
    have within : last < allowed.toNat := by omega
    have sound : Plan.Sound ⟨run, taskId, reports, last, .error (.timedOut allowed)⟩ :=
      ⟨idle, within, fun index before => goesOn index (Nat.lt_trans before within),
        .inr ⟨goesOn last within, all.symm, rfl⟩⟩
    rw [all]
    exact sound.resolves
  · intro bytes status message read failed
    exact failed_message read failed
  · intro events course poll member
    obtain ⟨attempts, within, ahead⟩ :=
      (Course.Counted.run run.poller.interval run.poller.maxAttempts events).polls poll member
    have same : course.poller.allowed = allowed := by
      rw [Poller.allowed, Course.maxAttempts_run]
      rfl
    rw [same] at within ahead
    refine ⟨attempts, attempts ▸ within, fun ready => ?_⟩
    have fewer := ahead (by rw [ready]; rfl)
    have bound := allowed.toNat_lt
    exact Nat.lt_of_le_of_lt fewer bound

namespace Second

/-- The first answer takes a moment and is pending; the second one comes at once. -/
def answers : List Reply :=
  [{ delay := 1, result := .ok { word := "queued" } }, { result := .ok { word := " Done " } }]

/-- An idle poller with these answers to come. -/
def run : Timeline (List Reply) where
  poller := { interval := 2, maxAttempts := 3 }
  source := scripted
  world := answers

end Second

/-- A task that is done at the second check: the poll asks twice, reports the answer between,
and ends with the second answer, after the time of the first and of one rest. -/
theorem poll_runs_to_its_end_second :
    Second.run.Idle ∧
      let after := (Second.run.poll "7" true).advance 3
      after.seen =
          [(0, .checked "7"), (1, .pending 1 { word := "queued" }), (3, .checked "7"),
            (3, .ended 1 (.ok ⟨"7", none, none⟩))] ∧
        after.Idle := by
  have idle : Second.run.Idle := ⟨rfl, rfl, by rintro _ ⟨⟩⟩
  obtain ⟨_, ends, _⟩ := poll_runs_to_its_end Second.run idle "7" true
  have goesOn : ∀ index < 1, conclusion? "7" (Second.run.replyAt "7" index).result = none := by
    intro index first
    rw [Nat.lt_one_iff.mp first]
    rfl
  have done : conclusion? "7" (Second.run.replyAt "7" 1).result = some (.ok ⟨"7", none, none⟩) :=
    rfl
  obtain ⟨seen, _, nothing⟩ := ends 1 _ (by decide) goesOn done 3 (by decide)
  exact ⟨idle, seen, nothing⟩

end UtilityBilling.Task
