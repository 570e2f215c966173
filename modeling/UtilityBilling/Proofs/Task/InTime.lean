/-
# Runs in time

A run in time lets every poll go on until it waits or is gone, and then moves its clock to the
next moment at which something is due. Every poll has work ahead of it only for so long, and
each step is one of a course. So a run comes to rest as often as it has to, its clock never goes
back, and all that it does, from its start on, is what some course does: what holds of every
course holds of every run in time.
-/

import UtilityBilling.Proofs.Task.Tracking

namespace UtilityBilling.Task

variable {σ : Type}

namespace Timeline

variable {run after : Timeline σ} {course : Course} {poll : Poll}

/-! ## Going on -/

/-- A poll that takes its answer has less to do. -/
theorem work_take_lt (orderly : run.poller.Orderly) (member : poll ∈ run.poller.polls)
    (checking : poll.stage = .checking) (reply : Reply) :
    (run.take poll reply).poller.work < run.poller.work := by
  have noted : (run.poller.noting reply.log).Orderly := orderly.congr rfl rfl rfl rfl
  rw [take_eq]
  exact Poller.work_answer_lt noted member checking reply.result

theorem clock_take (run : Timeline σ) (poll : Poll) (reply : Reply) :
    (run.take poll reply).poller.clock = run.poller.clock := by
  rw [take_eq]
  exact Poller.clock_answer _ poll reply.result

/-- A step of a poll takes no time. -/
theorem clock_stepPoll (stepped : run.stepPoll poll = some after) :
    after.poller.clock = run.poller.clock := by
  have checked : (run.poller.check poll).clock = run.poller.clock := run.poller.clock_check poll
  unfold stepPoll at stepped
  split at stepped
  case h_1 =>
    cases stepped
    exact run.poller.clock_cancel
  case h_2 =>
    simp only at stepped
    split at stepped
    · cases stepped
      exact checked
    · split at stepped
      · cases stepped
        exact checked
      · split at stepped
        · cases stepped
          exact (clock_take _ _ _).trans checked
        · cases stepped
          exact checked
  case h_3 =>
    split at stepped
    · cases stepped
      rfl
    · cases stepped
  case h_4 =>
    split at stepped
    · cases stepped
      exact run.poller.clock_wake poll
    · cases stepped
  case h_5 =>
    cases stepped
    rfl

namespace Tracks

/-- A poll that asks has less to do, also when it takes its answer at once. -/
theorem stepPoll_ready (tracks : run.Tracks course []) (member : poll ∈ run.poller.polls)
    (ready : poll.stage = .ready) (uncancelled : poll.cancelled = false)
    (stepped : run.stepPoll poll = some after) :
    after.Comes course [] ∧ after.poller.work < run.poller.work := by
  let asking : Poll := { poll with stage := .checking, attempts := poll.attempts + 1 }
  let reply := (run.source run.world poll.taskId).1
  let arrival : Arrival := ⟨poll.number, (run.asked poll).poller.clock + reply.delay, reply⟩
  have found : (run.asked poll).poller.poll? poll.number = some asking := by
    have checked : run.poller.check poll = run.poller.modify poll.number fun poll =>
        { poll with stage := .checking, attempts := poll.attempts + 1 } := by
      simp [Poller.check, uncancelled]
    change (run.poller.check poll).poll? poll.number = _
    rw [checked, Poller.poll?_modify, tracks.orderly.poll?_eq member]
    · rfl
    · exact fun _ => rfl
  have less : (run.asked poll).poller.work < run.poller.work := by
    refine Poller.work_check_lt tracks.orderly member ready ?_
    have present : poll ∈ course.poller.polls := tracks.polls ▸ member
    have ahead := (tracks.counted.polls poll present).ahead (by rw [ready]; rfl)
    rwa [tracks.follows.poller.allowed] at ahead
  have comes : (run.asked poll).Comes course [arrival] :=
    tracks.ask member ready uncancelled rfl
  have waits : asking ∈ (run.asked poll).poller.polls := List.mem_of_find?_eq_some found
  rw [stepPoll_of_ready ready uncancelled found, Option.some.injEq] at stepped
  subst stepped
  split
  case isTrue =>
    refine ⟨comes.trans fun still => still.take waits rfl reply, Nat.lt_trans ?_ less⟩
    obtain ⟨_, still⟩ := comes
    exact work_take_lt still.orderly waits rfl reply
  case isFalse =>
    exact ⟨comes.trans fun still => (still.send (Nat.le_add_right _ _)).comes, less⟩

/-- A cancelled poll under way ends, and no answer is on its way for it any more. -/
theorem stepPoll_of_cancelled (tracks : run.Tracks course []) (member : poll ∈ run.poller.polls)
    (underWay : poll.stage.isUnderWay = true) (cancelled : poll.cancelled = true) :
    run.stepPoll poll = some { run with
      poller := run.poller.resolve poll.number (.error .superseded)
      arrivals := run.arrivals.filter fun arrival => arrival.number != poll.number } := by
  have unexpected : poll.stage ≠ .checking →
      run.arrivals.filter (fun arrival => arrival.number != poll.number) = run.arrivals := by
    intro waitsNot
    rw [List.filter_eq_self]
    intro arrival isArrival
    simpa using tracks.unexpected member waitsNot arrival isArrival
  unfold Timeline.stepPoll
  cases stage : poll.stage with
  | numbered => rw [stage] at underWay; cases underWay
  | ready => simp [cancelled, Poller.check, unexpected (by rw [stage]; rintro ⟨⟩)]
  | checking => simp [cancelled]
  | resting due => simp [cancelled, Poller.wake, unexpected (by rw [stage]; rintro ⟨⟩)]
  | ended result => rw [stage] at underWay; cases underWay

/-- A step that a poll can take is made of events, and leaves less work. -/
theorem stepPoll (tracks : run.Tracks course []) (member : poll ∈ run.poller.polls)
    (stepped : run.stepPoll poll = some after) :
    after.Comes course [] ∧ after.poller.work < run.poller.work := by
  have orderly := tracks.orderly
  by_cases givesUp : poll.stage.isUnderWay = true ∧ poll.cancelled = true
  case pos =>
    obtain ⟨underWay, cancelled⟩ := givesUp
    rw [tracks.stepPoll_of_cancelled member underWay cancelled, Option.some.injEq] at stepped
    subst stepped
    refine ⟨tracks.giveUp member underWay cancelled List.filter_sublist ?_,
      Poller.work_resolve_lt orderly member underWay _⟩
    intro arrival isLeft
    simpa using (List.mem_filter.mp isLeft).2
  case neg =>
    have uncancelled : poll.stage.isUnderWay = true → poll.cancelled = false := by
      simpa using givesUp
    cases stage : poll.stage with
    | numbered =>
        simp only [Timeline.stepPoll, stage, Option.some.injEq] at stepped
        subst stepped
        exact ⟨tracks.register member stage, Poller.work_register_lt orderly member stage⟩
    | ready => exact tracks.stepPoll_ready member stage (uncancelled (by rw [stage]; rfl)) stepped
    | checking =>
        have waits := uncancelled (by rw [stage]; rfl)
        simp [Timeline.stepPoll, stage, waits] at stepped
    | resting time =>
        have goesOn := uncancelled (by rw [stage]; rfl)
        by_cases rested : time ≤ run.poller.clock
        · simp only [Timeline.stepPoll, stage, goesOn, Bool.false_or, rested, decide_true,
            if_true, Option.some.injEq] at stepped
          subst stepped
          exact ⟨tracks.wake member stage goesOn rested,
            Poller.work_wake_lt orderly member stage⟩
        · simp [Timeline.stepPoll, stage, goesOn, rested] at stepped
    | ended result =>
        simp only [Timeline.stepPoll, stage, Option.some.injEq] at stepped
        subst stepped
        exact ⟨tracks.release member stage, Poller.work_release_lt member result⟩

end Tracks

/-- A run has come on without a wait. It has less work ahead of it, or it has stayed as it was,
and for that there was a reason. -/
structure Goes (run : Timeline σ) (course : Course) (after : Timeline σ)
    (reason : Timeline σ → Prop) : Prop where
  comes : after.Comes course []
  clock : after.poller.clock = run.poller.clock
  work : after.poller.work < run.poller.work ∨ after = run ∧ reason run

namespace Goes

variable {middle : Timeline σ} {reason other : Timeline σ → Prop}

theorem notMore (goes : Goes run course after reason) :
    after.poller.work ≤ run.poller.work := by
  rcases goes.work with less | ⟨same, _⟩
  · exact Nat.le_of_lt less
  · exact Nat.le_of_eq (by rw [same])

theorem trans (goes : Goes run course middle reason)
    (onward : ∀ {next : Course}, middle.Tracks next [] → Goes middle next after other) :
    Goes run course after fun run => reason run ∧ other run := by
  obtain ⟨events, still⟩ := goes.comes
  have further := onward still
  refine ⟨goes.comes.trans fun tracks => (onward tracks).comes,
    further.clock.trans goes.clock, ?_⟩
  rcases goes.work with less | ⟨same, stays⟩
  · exact .inl (Nat.lt_of_le_of_lt further.notMore less)
  · subst same
    exact further.work.imp_right fun ⟨same, remains⟩ => ⟨same, stays, remains⟩

theorem mono (goes : Goes run course after reason) (implies : reason run → other run) :
    Goes run course after other :=
  ⟨goes.comes, goes.clock, goes.work.imp_right (And.imp_right implies)⟩

end Goes

/-- A poll that is let go on stops where it cannot. -/
theorem goes_runPoll (tracks : run.Tracks course []) (fuel number : Nat) :
    Goes run course (runPoll fuel number run) fun run =>
      0 < fuel → (run.poller.poll? number).bind run.stepPoll = none := by
  induction fuel generalizing run course with
  | zero => exact ⟨tracks.comes, rfl, .inr ⟨rfl, fun some => absurd some (Nat.lt_irrefl 0)⟩⟩
  | succ fuel ih =>
      unfold runPoll
      cases stepped : (run.poller.poll? number).bind run.stepPoll with
      | none => exact ⟨tracks.comes, rfl, .inr ⟨rfl, fun _ => stepped⟩⟩
      | some after =>
          obtain ⟨poll, found, step⟩ := Option.bind_eq_some_iff.mp stepped
          obtain ⟨comes, less⟩ := tracks.stepPoll (Poller.mem_of_poll? found).1 step
          have ⟨_, still⟩ := comes
          refine ⟨comes.trans fun next => (ih next).comes,
            (ih still).clock.trans (clock_stepPoll step), .inl ?_⟩
          exact Nat.lt_of_le_of_lt (ih still).notMore less

/-- Polls that are let go on one after the other. -/
theorem goes_runPolls (tracks : run.Tracks course []) (numbers : List Nat) :
    Goes run course (numbers.foldl (fun run number => runPoll run.stepsOf number run) run)
      fun run => ∀ number ∈ numbers, (run.poller.poll? number).bind run.stepPoll = none := by
  induction numbers generalizing run course with
  | nil => exact ⟨tracks.comes, rfl, .inr ⟨rfl, by simp⟩⟩
  | cons number rest ih =>
      refine ((goes_runPoll tracks run.stepsOf number).trans ih).mono ?_
      rintro ⟨first, others⟩
      exact List.forall_mem_cons.mpr ⟨first (Nat.succ_pos _), others⟩

/-- No poll can go on. -/
def Stuck (run : Timeline σ) : Prop :=
  ∀ poll ∈ run.poller.polls, run.stepPoll poll = none

/-- When all polls are let go on, something is done, unless no poll can go on. -/
theorem goes_settle (tracks : run.Tracks course []) : Goes run course run.settle Stuck := by
  refine (goes_runPolls tracks _).mono fun stuck poll member => ?_
  have stays := stuck poll.number (List.mem_reverse.mpr (List.mem_map_of_mem member))
  rwa [tracks.orderly.poll?_eq member] at stays

/-- Whether an answer is due. -/
def isDue (run : Timeline σ) (arrival : Arrival) : Bool :=
  arrival.due ≤ run.poller.clock

/-- Takes an answer that has come. -/
def receive (run : Timeline σ) (arrival : Arrival) : Timeline σ :=
  match run.poller.poll? arrival.number with
  | some poll => run.take poll arrival.reply
  | none => run

theorem deliver_eq (run : Timeline σ) :
    run.deliver = (run.arrivals.filter run.isDue).foldl receive
      { run with arrivals := run.arrivals.filter fun arrival => !run.isDue arrival } := by
  rw [deliver, List.partition_eq_filter_filter]
  rfl

/-- Answers that are taken one after the other. -/
theorem goes_receive {due : List Arrival} (tracks : run.Tracks course due) :
    Goes run course (due.foldl receive run) fun _ => due = [] := by
  induction due generalizing run course with
  | nil => exact ⟨tracks.comes, rfl, .inr ⟨rfl, rfl⟩⟩
  | cons arrival rest ih =>
      obtain ⟨poll, isPoll, same, checking⟩ := tracks.expects.waits arrival.number (by simp)
      rw [tracks.polls] at isPoll
      have received : run.receive arrival = run.take poll arrival.reply := by
        simp only [receive, ← same, tracks.orderly.poll?_eq isPoll]
      have comes := tracks.take isPoll same arrival.reply
      have less := work_take_lt tracks.orderly isPoll checking arrival.reply
      have ⟨_, still⟩ := comes
      rw [List.foldl_cons, received]
      refine ⟨comes.trans fun next => (ih next).comes,
        (ih still).clock.trans (clock_take run poll arrival.reply), .inl ?_⟩
      exact Nat.lt_of_le_of_lt (ih still).notMore less

/-- When the answers that are due come something is done, unless none is due. -/
theorem goes_deliver (tracks : run.Tracks course []) :
    Goes run course run.deliver fun run =>
      ∀ arrival ∈ run.arrivals, run.poller.clock < arrival.due := by
  let due := run.arrivals.filter run.isDue
  let later := run.arrivals.filter fun arrival => !run.isDue arrival
  have order : ((due ++ later).map Arrival.number).Perm (run.arrivals.map Arrival.number) :=
    (List.filter_append_perm run.isDue run.arrivals).map _
  have split : Tracks { run with arrivals := later } course due := by
    refine ⟨⟨tracks.follows.poller, tracks.follows.held, tracks.follows.marks⟩, tracks.counted,
      ⟨order.nodup_iff.mpr tracks.expects.distinct,
        fun number expected => tracks.expects.waits number (order.subset expected)⟩, ?_,
      tracks.resting⟩
    exact fun arrival isLater => tracks.coming arrival (List.mem_of_mem_filter isLater)
  have goes := goes_receive split
  rw [← deliver_eq] at goes
  refine ⟨goes.comes, goes.clock, goes.work.imp_right ?_⟩
  rintro ⟨same, noneDue⟩
  have notDue : ∀ arrival ∈ run.arrivals, run.isDue arrival = false := by
    intro arrival member
    simpa using List.filter_eq_nil_iff.mp noneDue arrival member
  have allLater : later = run.arrivals := by
    rw [List.filter_eq_self]
    intro arrival member
    simp [notDue arrival member]
  refine ⟨by rw [same, allLater], fun arrival member => ?_⟩
  simpa [isDue] using notDue arrival member

/-! ## Time -/

/-- Something is due at a time. -/
def Due (run : Timeline σ) (time : Nat) : Prop :=
  (∃ arrival ∈ run.arrivals, arrival.due = time) ∨
    ∃ poll ∈ run.poller.polls, poll.stage = .resting time

theorem due_iff_mem {time : Nat} :
    run.Due time ↔
      time ∈ run.arrivals.map Arrival.due ++ run.poller.polls.filterMap restEnd? := by
  have rests : ∀ poll : Poll, restEnd? poll = some time ↔ poll.stage = .resting time := by
    intro poll
    unfold restEnd?
    cases poll.stage <;> simp
  simp only [Due, List.mem_append, List.mem_map, List.mem_filterMap, rests]

theorem not_due_of_nextDue (none : run.nextDue = none) (time : Nat) : ¬ run.Due time := by
  rw [due_iff_mem, List.min?_eq_none_iff.mp none]
  simp

theorem due_of_nextDue {time : Nat} (next : run.nextDue = some time) :
    run.Due time ∧ ∀ other, run.Due other → time ≤ other := by
  obtain ⟨member, least⟩ := List.min?_eq_some_iff.mp next
  exact ⟨due_iff_mem.mpr member, fun other due => least other (due_iff_mem.mp due)⟩

theorem Tracks.clock_le (tracks : run.Tracks course []) {time : Nat} (due : run.Due time) :
    run.poller.clock ≤ time := by
  rcases due with ⟨arrival, member, rfl⟩ | ⟨poll, member, rests⟩
  · exact tracks.coming arrival member
  · exact tracks.resting poll member time rests

/-- Time passes, though not beyond what is due. -/
theorem Tracks.withClock (tracks : run.Tracks course []) {time : Nat}
    (notBefore : run.poller.clock ≤ time) (notBeyond : ∀ due, run.Due due → time ≤ due) :
    (run.withClock time).Comes course [] := by
  let passes : Event := .wait (time - run.poller.clock)
  refine ⟨[passes], ⟨?_, tracks.follows.held, tracks.follows.marks⟩,
    tracks.counted.step passes, ⟨tracks.expects.distinct, tracks.expects.waits⟩, ?_, ?_⟩
  · obtain ⟨log, same⟩ := tracks.follows.poller
    have passed : run.poller.clock + (time - run.poller.clock) = time := by omega
    refine ⟨log, ?_⟩
    simp only [Course.run, List.foldl_cons, List.foldl_nil, passes, Course.step, same, passed]
    rfl
  · exact fun arrival member => notBeyond _ (.inl ⟨arrival, member, rfl⟩)
  · exact fun poll member due rests => notBeyond due (.inr ⟨poll, member, rests⟩)

/-- When the clock has come to a time at which something is due, something is done. -/
theorem work_settle_lt (tracks : run.Tracks course []) (due : run.Due run.poller.clock) :
    run.deliver.settle.poller.work < run.poller.work := by
  refine ((goes_deliver tracks).trans goes_settle).work.resolve_right ?_
  rintro ⟨_, noneCome, stuck⟩
  rcases due with ⟨arrival, member, now⟩ | ⟨poll, member, rests⟩
  · exact absurd (noneCome arrival member) (Nat.not_lt_of_le (Nat.le_of_eq now))
  · have stays := stuck poll member
    simp [stepPoll, rests] at stays

/-- A run has come to a time by a course, and nothing is due before that time is over. -/
structure ComesTo (run : Timeline σ) (course : Course) (time : Nat) : Prop where
  comes : run.Comes course []
  clock : run.poller.clock = time
  noneDue : ∀ due, run.Due due → time < due

theorem Tracks.comesTo (tracks : run.Tracks course []) {time : Nat}
    (notBefore : run.poller.clock ≤ time) (noneDue : ∀ due, run.Due due → time < due) :
    (run.withClock time).ComesTo course time :=
  ⟨tracks.withClock notBefore fun due isDue => Nat.le_of_lt (noneDue due isDue), rfl, noneDue⟩

theorem Comes.comesTo {middle : Timeline σ} {time : Nat} (comes : middle.Comes course [])
    (onward : ∀ {next : Course}, middle.Tracks next [] → after.ComesTo next time) :
    after.ComesTo course time := by
  have ⟨_, still⟩ := comes
  exact ⟨comes.trans fun tracks => (onward tracks).comes, (onward still).clock,
    (onward still).noneDue⟩

/-- Without work ahead nothing is due. -/
theorem Tracks.not_due (tracks : run.Tracks course []) (done : run.poller.work = 0) (time : Nat) :
    ¬ run.Due time := by
  have gone : run.poller.polls = [] := eq_nil_of_totalWork done
  rintro (⟨arrival, member, _⟩ | ⟨poll, member, _⟩)
  · obtain ⟨poll, isPoll, _⟩ :=
      tracks.expects.waits arrival.number (List.mem_map_of_mem member)
    rw [tracks.polls, gone] at isPoll
    cases isPoll
  · rw [gone] at member
    cases member

/-- A run whose clock is moved on for as many times as there is work comes to the end. -/
theorem comesTo_advanceFor (tracks : run.Tracks course []) {fuel finish : Nat}
    (enough : run.poller.work ≤ fuel) (notBefore : run.poller.clock ≤ finish) :
    (advanceFor fuel finish run).ComesTo course finish := by
  induction fuel generalizing run course with
  | zero =>
      exact tracks.comesTo notBefore fun due isDue =>
        absurd isDue (tracks.not_due (Nat.le_zero.mp enough) due)
  | succ fuel ih =>
      unfold advanceFor
      cases next : run.nextDue with
      | none =>
          exact tracks.comesTo notBefore fun due isDue =>
            absurd isDue (not_due_of_nextDue next due)
      | some time =>
          obtain ⟨due, least⟩ := due_of_nextDue next
          by_cases within : time ≤ finish
          · let moved := run.withClock time
            have later : moved.Comes course [] := tracks.withClock (tracks.clock_le due) least
            have ⟨_, atTime⟩ := later
            have less : moved.deliver.settle.poller.work < run.poller.work :=
              work_settle_lt atTime due
            have clock : moved.deliver.settle.poller.clock = time :=
              ((goes_deliver atTime).trans goes_settle).clock
            have comes : moved.deliver.settle.Comes course [] :=
              later.trans fun still => ((goes_deliver still).trans goes_settle).comes
            simp only [within, if_true]
            exact comes.comesTo fun still =>
              ih still (Nat.le_of_lt_succ (Nat.lt_of_lt_of_le less enough))
                (Nat.le_trans (Nat.le_of_eq clock) within)
          · simp only [within, if_false]
            exact tracks.comesTo notBefore fun other otherDue =>
              Nat.lt_of_lt_of_le (Nat.lt_of_not_le within) (least other otherDue)

/-- The work ahead of a poller is done before the moves of its clock are used up. -/
theorem work_le (run : Timeline σ) :
    run.poller.work ≤ 2 * run.stepsOf * (run.poller.polls.length + 1) := by
  refine Nat.le_trans (totalWork_le _ _) (Nat.mul_le_mul ?_ (Nat.le_succ _))
  unfold stepsOf
  omega

/-- However long a run goes on, its clock comes to the end of that time, and nothing is due any
more. -/
theorem comesTo_advance (tracks : run.Tracks course []) (milliseconds : Nat) :
    (run.advance milliseconds).ComesTo course (run.poller.clock + milliseconds) :=
  comesTo_advanceFor tracks run.work_le (Nat.le_add_right _ _)

/-! ## Users -/

/-- What the user of a poller can do. -/
inductive Act where
  | poll (taskId : String) (reports : Bool)
  | cancel
  | abandon (number : Nat)
  | advance (milliseconds : Nat)

/-- The run after its user has done something. -/
def act (run : Timeline σ) : Act → Timeline σ
  | .poll taskId reports => run.poll taskId reports
  | .cancel => run.cancel
  | .abandon number => run.abandon number
  | .advance milliseconds => run.advance milliseconds

/-- A run at its start. -/
def fresh (source : Source σ) (world : σ) (interval : Nat) (maxAttempts : UInt32) :
    Timeline σ where
  poller := { interval := interval, maxAttempts := maxAttempts }
  source := source
  world := world

theorem Tracks.fresh (source : Source σ) (world : σ) (interval : Nat) (maxAttempts : UInt32) :
    (fresh source world interval maxAttempts).Tracks (.start interval maxAttempts) [] :=
  ⟨⟨.refl _, rfl, rfl⟩, .start interval maxAttempts, ⟨List.nodup_nil, by rintro _ ⟨⟩⟩,
    by rintro _ ⟨⟩, by rintro _ ⟨⟩⟩

theorem Tracks.enter (tracks : run.Tracks course []) (taskId : String) (reports : Bool) :
    Comes { run with poller := run.poller.enter taskId reports } course [] := by
  have numbered := tracks.counted.orderly.poller.numbered
  let enters : Event := .enter taskId reports
  have spares : course.Spares (some (course.poller.last + 1)) (course.run [enters]) :=
    course.spares_step enters
  have follows : Follows { run with poller := run.poller.enter taskId reports }
      (course.run [enters]) :=
    ⟨tracks.follows.poller.enter taskId reports, tracks.follows.held, tracks.follows.marks⟩
  refine tracks.move follows spares rfl (.refl _) (fun _ => id) ?_ ?_
  · intro arrival member fresh
    obtain ⟨poll, isPoll, same, _⟩ :=
      tracks.expects.waits arrival.number (List.mem_map_of_mem member)
    have known := numbered poll isPoll
    rw [same, ← Option.some.inj fresh] at known
    exact Nat.not_succ_le_self _ known
  · intro poll member own due rests
    rcases List.mem_append.mp member with old | new
    · exact tracks.resting poll old due rests
    · rw [List.mem_singleton.mp new] at rests
      cases rests

theorem Tracks.cancel (tracks : run.Tracks course []) :
    Comes { run with poller := run.poller.cancel } course [] := by
  have spares : course.Spares none (course.run [.cancel]) := course.spares_step .cancel
  have follows : Follows { run with poller := run.poller.cancel } (course.run [.cancel]) :=
    ⟨tracks.follows.poller.cancel, tracks.follows.held, tracks.follows.marks⟩
  exact tracks.move follows spares run.poller.clock_cancel (.refl _) (fun _ => id) (by simp)
    (by simp)

theorem Tracks.abandon (tracks : run.Tracks course []) (number : Nat) :
    (run.abandon number).Comes course [] := by
  let gone : Event := .abandon number
  have spares : course.Spares (some number) (course.run [gone]) := course.spares_step gone
  have noneHeld : course.heldByOthers number = [] := by
    rw [Course.heldByOthers, tracks.follows.held]
    rfl
  have alike : (run.poller.abandon number).Alike (course.poller.abandon number) := by
    obtain ⟨log, same⟩ := tracks.follows.poller
    exact ⟨log, by rw [same]; rfl⟩
  have follows : (run.abandon number).Follows (course.run [gone]) :=
    ⟨alike, noneHeld, tracks.follows.marks⟩
  refine tracks.move follows spares rfl List.filter_sublist
    (fun _ => List.mem_of_mem_filter) ?_ ?_
  · intro arrival member own
    have apart := (List.mem_filter.mp member).2
    rw [Option.some.inj own] at apart
    simp at apart
  · intro poll member own
    have apart := (List.mem_filter.mp member).2
    rw [Option.some.inj own] at apart
    simp at apart

/-- What a user does is made of events. -/
theorem comes_act (tracks : run.Tracks course []) (act : Act) :
    (run.act act).Comes course [] := by
  cases act with
  | poll taskId reports =>
      exact (tracks.enter taskId reports).trans fun still => (goes_settle still).comes
  | cancel => exact tracks.cancel.trans fun still => (goes_settle still).comes
  | abandon number => exact tracks.abandon number
  | advance milliseconds => exact (comesTo_advance tracks milliseconds).comes

/-- Whatever a user does, and however often, is made of events. -/
theorem comes_acts (tracks : run.Tracks course []) (acts : List Act) :
    (acts.foldl act run).Comes course [] := by
  induction acts generalizing run course with
  | nil => exact tracks.comes
  | cons first rest ih => exact (comes_act tracks first).trans ih

/-- Runs in time are courses. Whatever the endpoint answers and the user does, there is a
course in which the poller comes to the same state, apart from its log, and which shows the
same. -/
theorem exists_course (source : Source σ) (world : σ) (interval : Nat) (maxAttempts : UInt32)
    (acts : List Act) :
    ∃ events, (acts.foldl act (fresh source world interval maxAttempts)).Follows
      ((Course.start interval maxAttempts).run events) := by
  obtain ⟨events, tracks⟩ := comes_acts (.fresh source world interval maxAttempts) acts
  exact ⟨events, tracks.follows⟩

/-- In a run in time with fewer polls than words no more than one poll is registered and not
cancelled. -/
theorem length_live_le_one (source : Source σ) (world : σ) (interval : Nat)
    (maxAttempts : UInt32) (acts : List Act) :
    let poller := (acts.foldl act (fresh source world interval maxAttempts)).poller
    poller.last < UInt64.size → poller.live.length ≤ 1 := by
  intro poller few
  obtain ⟨events, tracks⟩ := comes_acts (.fresh source world interval maxAttempts) acts
  exact tracks.orderly.length_live_le_one few

/-- After time has passed in a run nothing that was due is left undone. -/
theorem lt_due_of_advance (source : Source σ) (world : σ) (interval : Nat)
    (maxAttempts : UInt32) (acts : List Act) (milliseconds : Nat) :
    let run := acts.foldl act (fresh source world interval maxAttempts)
    (run.advance milliseconds).poller.clock = run.poller.clock + milliseconds ∧
      ∀ time, (run.advance milliseconds).Due time →
        run.poller.clock + milliseconds < time := by
  intro run
  obtain ⟨events, tracks⟩ := comes_acts (.fresh source world interval maxAttempts) acts
  have later := comesTo_advance tracks milliseconds
  exact ⟨later.clock, later.noneDue⟩

end Timeline

end UtilityBilling.Task
