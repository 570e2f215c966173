/-
# The steps of a run in time

A run in time and a course are two ways in which a poller goes on. A run keeps the answers that
are on their way and knows when they are due; a course leaves it open when they come. Still each
single step of a run, that a poll registers, asks, takes an answer, wakes up, or is forgotten, is
one event of a course, or two: a poll takes its answer, and then looks at it.
-/

import UtilityBilling.Proofs.Task.Phases
import UtilityBilling.Proofs.Task.Supersession
import UtilityBilling.Proofs.Task.Work

namespace UtilityBilling.Task

variable {σ : Type}

/-! ## Runs and courses side by side -/

/-- What can be seen of a run in time as well as of a course. A run tells about which task a
question is, and a course from which poll. -/
inductive Mark where
  | question
  | report (number : Nat) (status : Status)
  | farewell (number : Nat)

def Sight.mark : Sight → Mark
  | .checked _ => .question
  | .pending number status => .report number status
  | .ended number _ => .farewell number

def Entry.mark? : Entry → Option Mark
  | .asked _ => some .question
  | .reported number status => some (.report number status)
  | .released number => some (.farewell number)
  | .registered _ | .resolved _ _ => none

/-- What can be seen of a run, the latest last. -/
def Timeline.marks (run : Timeline σ) : List Mark :=
  run.seen.map fun sight => sight.2.mark

theorem Timeline.marks_see (run : Timeline σ) (sight : Sight) :
    (run.see sight).marks = run.marks ++ [sight.mark] := by
  simp [marks, see]

/-- What can be seen of a course, the latest last. -/
def Course.marks (course : Course) : List Mark :=
  (course.past.filterMap Entry.mark?).reverse

/-- The end of a poll is seen when it is forgotten. -/
theorem Course.marks_proceed (course : Course) (number : Nat) (poller : Poller)
    (seen : List Entry) :
    (course.proceed number poller seen).marks =
      course.marks ++ (seen.filterMap Entry.mark?).reverse := by
  have unseen : ((poller.ending? number).toList.map (Entry.resolved number)).filterMap
      Entry.mark? = [] := by
    cases poller.ending? number <;> rfl
  simp only [marks, proceed, List.filterMap_append, unseen, List.nil_append, List.reverse_append]

/-- A poll that looks at its answer as soon as it has come does by that what taking an answer
does; if it is cancelled, it does so without a look. -/
theorem Course.exists_run_answer (course : Course) (free : course.held = []) {poll : Poll}
    (found : course.poller.poll? poll.number = some poll) (checking : poll.stage = .checking)
    (result : Api.Result Status) :
    ∃ events, course.run events =
      course.proceed poll.number (course.poller.answer poll result)
        ((reported? poll course.poller.allowed result).toList.map (.reported poll.number)) := by
  have none_held : course.held? poll.number = none := by
    rw [held?, free]
    rfl
  cases cancelled : poll.cancelled with
  | true =>
      refine ⟨[.answer poll.number result], ?_⟩
      simp [run, step, found, take, checking, none_held, cancelled, Poller.answer, reported?]
  | false =>
      refine ⟨[.answer poll.number result, .turn poll.number], ?_⟩
      have taken : course.step (.answer poll.number result) =
          { course with held := [⟨poll, result⟩] } := by
        simp [step, found, take, checking, none_held, cancelled, free]
      have looked : { course with held := [⟨poll, result⟩] }.step (.turn poll.number) =
          { course with held := [⟨poll, result⟩] }.weigh ⟨poll, result⟩ := by
        simp [step, found, turn, held?]
      simp only [run, List.foldl_cons, List.foldl_nil]
      rw [taken, looked]
      simp [weigh, heldByOthers, proceed, free]

/-- Two pollers are the same but for their logs. -/
def Poller.Alike (poller other : Poller) : Prop :=
  ∃ log, other = { poller with log := log }

namespace Poller.Alike

variable {poller other : Poller}

theorem refl (poller : Poller) : poller.Alike poller := ⟨poller.log, rfl⟩

theorem enter (alike : poller.Alike other) (taskId : String) (reports : Bool) :
    (poller.enter taskId reports).Alike (other.enter taskId reports) := by
  obtain ⟨log, rfl⟩ := alike
  exact ⟨log, rfl⟩

theorem cancel (alike : poller.Alike other) : poller.cancel.Alike other.cancel := by
  obtain ⟨log, rfl⟩ := alike
  cases current : poller.current with
  | none => exact ⟨log, by simp only [Poller.cancel, current]⟩
  | some number => exact ⟨log, by simp only [Poller.cancel, current]; rfl⟩

theorem modify (alike : poller.Alike other) (number : Nat) (change : Poll → Poll) :
    (poller.modify number change).Alike (other.modify number change) := by
  obtain ⟨log, rfl⟩ := alike
  exact ⟨log, rfl⟩

theorem register (alike : poller.Alike other) (poll : Poll) :
    (poller.register poll).Alike (other.register poll) := by
  obtain ⟨log, same⟩ := alike.cancel
  exact ⟨log, by rw [Poller.register, same]; rfl⟩

theorem check (alike : poller.Alike other) (poll : Poll) :
    (poller.check poll).Alike (other.check poll) := by
  unfold Poller.check
  split <;> exact alike.modify poll.number _

theorem wake (alike : poller.Alike other) (poll : Poll) :
    (poller.wake poll).Alike (other.wake poll) := by
  unfold Poller.wake
  split <;> exact alike.modify poll.number _

theorem answer (alike : poller.Alike other) (poll : Poll) (result : Api.Result Status) :
    (poller.answer poll result).Alike (other.answer poll result) := by
  obtain ⟨log, rfl⟩ := alike
  have allowed : Poller.allowed { poller with log := log } = poller.allowed := rfl
  cases cancelled : poll.cancelled with
  | true => exact ⟨log, by simp only [Poller.answer, cancelled]; rfl⟩
  | false =>
      refine ⟨log ++ (answerWarning? result).toList, ?_⟩
      cases judged : judge poll.taskId poll.attempts poller.allowed result <;>
        · simp only [Poller.answer, cancelled, allowed, judged]
          rfl

theorem release (alike : poller.Alike other) (poll : Poll) (result : PollResult) :
    (poller.release poll result).Alike (other.release poll result) := by
  obtain ⟨log, rfl⟩ := alike
  exact ⟨_, rfl⟩

theorem orderly (alike : poller.Alike other) (orderly : other.Orderly) : poller.Orderly := by
  obtain ⟨log, rfl⟩ := alike
  exact orderly.congr rfl rfl rfl rfl

theorem allowed (alike : poller.Alike other) : other.allowed = poller.allowed := by
  obtain ⟨log, rfl⟩ := alike
  rfl

theorem polls (alike : poller.Alike other) : other.polls = poller.polls := by
  obtain ⟨log, rfl⟩ := alike
  rfl

theorem clock (alike : poller.Alike other) : other.clock = poller.clock := by
  obtain ⟨log, rfl⟩ := alike
  rfl

end Poller.Alike

/-- The polls with some numbers wait for answers, each for one. -/
structure Poller.Expects (poller : Poller) (numbers : List Nat) : Prop where
  distinct : numbers.Nodup
  waits : ∀ number ∈ numbers,
    ∃ poll ∈ poller.polls, poll.number = number ∧ poll.stage = .checking

namespace Poller.Expects

variable {poller : Poller} {numbers : List Nat}

/-- A poll for which an answer is on its way waits for it. -/
theorem checking (expects : poller.Expects numbers) (orderly : poller.Orderly) {poll : Poll}
    (member : poll ∈ poller.polls) (expected : poll.number ∈ numbers) :
    poll.stage = .checking := by
  obtain ⟨other, isOther, same, checking⟩ := expects.waits poll.number expected
  rwa [← orderly.eq_of_number isOther member same]

/-- The doings of others leave a poll waiting. -/
theorem spared {course after : Course} (expects : course.poller.Expects numbers)
    {number? : Option Nat} (spares : course.Spares number? after) {fewer : List Nat}
    (sublist : fewer.Sublist numbers) (foreign : ∀ number ∈ fewer, number? ≠ some number) :
    after.poller.Expects fewer := by
  refine ⟨expects.distinct.sublist sublist, fun number member => ?_⟩
  obtain ⟨poll, isPoll, same, checking⟩ := expects.waits number (sublist.subset member)
  obtain ⟨later, isLater, spared⟩ := spares.stays poll isPoll (same ▸ foreign number member)
  exact ⟨later, isLater, spared.number.symm.trans same, spared.stage.symm.trans checking⟩

end Poller.Expects

/-- The stage that a change gives to a poll is that which the poll has afterwards. -/
theorem Poller.stage_of_modify {poller : Poller} {number : Nat} {change : Poll → Poll}
    {stage : PollStage} {poll : Poll} (member : poll ∈ (poller.modify number change).polls)
    (own : poll.number = number) (sets : ∀ poll, (change poll).stage = stage) :
    poll.stage = stage := by
  obtain ⟨old, _, rfl⟩ := List.mem_map.mp member
  split at own
  case isTrue same => rw [if_pos same]; exact sets old
  case isFalse apart => exact absurd own apart

/-! ## Runs along courses -/

namespace Timeline

/-- A run has come as far as a course: they differ in their logs only, where a run also notes
what the endpoint has to say, every answer that a poll has taken it has looked at, and they show
the same. -/
structure Follows (run : Timeline σ) (course : Course) : Prop where
  poller : run.poller.Alike course.poller
  held : course.held = []
  marks : run.marks = course.marks

/-- A run follows a course, some answers are about to be taken and others are on their way,
and nothing should have been done earlier. -/
structure Tracks (run : Timeline σ) (course : Course) (due : List Arrival) : Prop where
  follows : run.Follows course
  counted : course.Counted
  expects : course.poller.Expects ((due ++ run.arrivals).map Arrival.number)
  coming : ∀ arrival ∈ run.arrivals, run.poller.clock ≤ arrival.due
  resting : ∀ poll ∈ run.poller.polls, ∀ due, poll.stage = .resting due →
    run.poller.clock ≤ due

/-- A run can be reached from a course by more events. -/
def Comes (run : Timeline σ) (course : Course) (due : List Arrival) : Prop :=
  ∃ events, run.Tracks (course.run events) due

variable {run after : Timeline σ} {course : Course} {due : List Arrival}

theorem Tracks.comes (tracks : run.Tracks course due) : run.Comes course due := ⟨[], tracks⟩

theorem Comes.trans {later : List Arrival} (comes : run.Comes course due)
    (onward : ∀ {next : Course}, run.Tracks next due → after.Comes next later) :
    after.Comes course later := by
  obtain ⟨events, tracks⟩ := comes
  obtain ⟨more, still⟩ := onward tracks
  exact ⟨events ++ more, by rwa [Course.run, List.foldl_append]⟩

namespace Tracks

theorem polls (tracks : run.Tracks course due) : course.poller.polls = run.poller.polls :=
  tracks.follows.poller.polls

theorem orderly (tracks : run.Tracks course due) : run.poller.Orderly :=
  tracks.follows.poller.orderly tracks.counted.orderly.poller

theorem poll? (tracks : run.Tracks course due) (number : Nat) :
    course.poller.poll? number = run.poller.poll? number := by
  rw [Poller.poll?, tracks.polls]
  rfl

theorem held? (tracks : run.Tracks course due) (number : Nat) : course.held? number = none := by
  rw [Course.held?, tracks.follows.held]
  rfl

/-- By what one poll does a run comes on, if that is all that answers are no longer on their
way for and the poll does not rest until a time that is over. -/
theorem move (tracks : run.Tracks course due) {number? : Option Nat} {events : List Event}
    (follows : after.Follows (course.run events))
    (spares : course.Spares number? (course.run events))
    (clock : after.poller.clock = run.poller.clock)
    {later : List Arrival} (sublist : (later ++ after.arrivals).Sublist (due ++ run.arrivals))
    (coming : ∀ arrival ∈ after.arrivals, arrival ∈ run.arrivals)
    (foreign : ∀ arrival ∈ later ++ after.arrivals, number? ≠ some arrival.number)
    (own : ∀ poll ∈ after.poller.polls, number? = some poll.number →
      ∀ due, poll.stage = .resting due → run.poller.clock ≤ due) :
    after.Comes course later := by
  refine ⟨events, follows, ?_, ?_, ?_, ?_⟩
  · exact List.foldlRecOn (motive := Course.Counted) events Course.step tracks.counted
      fun _ counted event _ => counted.step event
  · refine tracks.expects.spared spares (sublist.map _) fun number member => ?_
    obtain ⟨arrival, isArrival, rfl⟩ := List.mem_map.mp member
    exact foreign arrival isArrival
  · intro arrival member
    rw [clock]
    exact tracks.coming arrival (coming arrival member)
  · intro poll member due rests
    rw [clock]
    by_cases isOwn : number? = some poll.number
    · exact own poll member isOwn due rests
    · have isAfter : poll ∈ (course.run events).poller.polls := by
        rw [follows.poller.polls]
        exact member
      obtain ⟨old, isOld, spared⟩ := spares.polls poll isAfter isOwn
      rw [tracks.polls] at isOld
      exact tracks.resting old isOld due (spared.stage.trans rests)

/-- A step of a poll under way, after which it does not rest until a time that is over. -/
theorem proceed (tracks : run.Tracks course due) {events : List Event} {number : Nat}
    {poller : Poller} {seen : List Entry}
    (isRun : course.run events = course.proceed number poller seen)
    (advances : course.poller.Advances number poller)
    (own : ∀ entry ∈ seen, entry.number = number)
    (alike : after.poller.Alike poller) (clock : after.poller.clock = run.poller.clock)
    (marks : after.marks = run.marks ++ (seen.filterMap Entry.mark?).reverse)
    {later : List Arrival} (sublist : (later ++ after.arrivals).Sublist (due ++ run.arrivals))
    (coming : ∀ arrival ∈ after.arrivals, arrival ∈ run.arrivals)
    (foreign : ∀ arrival ∈ later ++ after.arrivals, arrival.number ≠ number)
    (rests : ∀ poll ∈ after.poller.polls, poll.number = number →
      ∀ due, poll.stage = .resting due → run.poller.clock ≤ due) :
    after.Comes course later := by
  have spares : course.Spares (some number) (course.run events) := by
    rw [isRun]
    exact .proceed course advances own
  refine tracks.move ⟨?_, ?_, ?_⟩ spares clock sublist coming ?_ ?_
  · rw [isRun]
    exact alike
  · rw [isRun]
    exact tracks.follows.held
  · rw [isRun, Course.marks_proceed, ← tracks.follows.marks]
    exact marks
  · exact fun arrival member same => foreign arrival member (Option.some.inj same).symm
  · exact fun poll member same => rests poll member (Option.some.inj same).symm

variable {poll : Poll}

/-- A turn of a poll is one event. -/
theorem run_turn (tracks : run.Tracks course due) (member : poll ∈ run.poller.polls) :
    course.run [.turn poll.number] = course.turn poll := by
  have found : course.poller.poll? poll.number = some poll := by
    rw [tracks.poll?, tracks.orderly.poll?_eq member]
  simp only [Course.run, List.foldl_cons, List.foldl_nil, Course.step, found]

/-- No answer is on its way to a poll that does not wait for one. -/
theorem unexpected (tracks : run.Tracks course due) (member : poll ∈ run.poller.polls)
    (waitsNot : poll.stage ≠ .checking) : ∀ arrival ∈ due ++ run.arrivals,
      arrival.number ≠ poll.number := by
  intro arrival isArrival same
  apply waitsNot
  refine tracks.expects.checking tracks.counted.orderly.poller ?_ ?_
  · rw [tracks.polls]
    exact member
  · rw [← same]
    exact List.mem_map_of_mem isArrival

/-! ## Steps of polls -/

theorem register (tracks : run.Tracks course due) (member : poll ∈ run.poller.polls)
    (numbered : poll.stage = .numbered) :
    Comes { run with poller := run.poller.register poll } course due := by
  have isRun : course.run [.turn poll.number] = _ := tracks.run_turn member
  have turn : course.turn poll =
      { course with
        poller := course.poller.register poll
        past := .registered poll.number :: course.past } := by
    unfold Course.turn
    rw [tracks.held?, numbered]
  rw [turn] at isRun
  have unexpected := tracks.unexpected member (by rw [numbered]; rintro ⟨⟩)
  have spares : course.Spares (some poll.number) (course.run [.turn poll.number]) := by
    rw [isRun]
    exact .register course poll
  refine tracks.move ⟨?_, ?_, ?_⟩ spares ?_ (.refl _) (fun _ => id) ?_ ?_
  · rw [isRun]
    exact tracks.follows.poller.register poll
  · rw [isRun]
    exact tracks.follows.held
  · rw [isRun]
    exact tracks.follows.marks
  · exact run.poller.clock_cancel
  · exact fun arrival isArrival same =>
      unexpected arrival isArrival (Option.some.inj same).symm
  · intro later isLater own time rests
    change later ∈ (run.poller.cancel.modify poll.number fun poll =>
      { poll with stage := .ready }).polls at isLater
    have ready := Poller.stage_of_modify isLater (Option.some.inj own).symm fun _ => rfl
    rw [ready] at rests
    cases rests

/-- A poll that sees its cancellation ends, and the answer that was on its way for it is
dropped. -/
theorem giveUp (tracks : run.Tracks course []) (member : poll ∈ run.poller.polls)
    (underWay : poll.stage.isUnderWay = true) (cancelled : poll.cancelled = true)
    {arrivals : List Arrival} (sublist : arrivals.Sublist run.arrivals)
    (foreign : ∀ arrival ∈ arrivals, arrival.number ≠ poll.number) :
    Comes { run with
      poller := run.poller.resolve poll.number (.error .superseded), arrivals := arrivals }
      course [] := by
  have isRun : course.run [.turn poll.number] = _ := tracks.run_turn member
  rw [Course.turn_of_cancelled (tracks.held? _) underWay cancelled] at isRun
  refine tracks.proceed isRun (course.poller.advances_resolve poll.number _) (by simp)
    (tracks.follows.poller.modify poll.number _) (by rfl) (by simp [marks]) (by exact sublist)
    (fun _ isArrival => sublist.subset isArrival) (by exact foreign) ?_
  intro later isLater own time rests
  have ended := Poller.stage_of_modify isLater own fun _ => rfl
  rw [ended] at rests
  cases rests

/-- A poll asks, and there will be an answer to it. -/
theorem ask (tracks : run.Tracks course []) (member : poll ∈ run.poller.polls)
    (ready : poll.stage = .ready) (uncancelled : poll.cancelled = false) {arrival : Arrival}
    (answers : arrival.number = poll.number) : (run.asked poll).Comes course [arrival] := by
  have isRun : course.run [.turn poll.number] = _ := tracks.run_turn member
  have turn : course.turn poll =
      course.proceed poll.number (course.poller.check poll) [.asked poll.number] := by
    unfold Course.turn
    rw [tracks.held?, ready]
    simp [uncancelled]
  rw [turn] at isRun
  have unexpected := tracks.unexpected member (by rw [ready]; rintro ⟨⟩)
  have checked : run.poller.check poll = run.poller.modify poll.number fun poll =>
      { poll with stage := .checking, attempts := poll.attempts + 1 } := by
    simp [Poller.check, uncancelled]
  have asked : (run.asked poll).Comes course [] := by
    refine tracks.proceed isRun (course.poller.advances_check poll) (by simp [Entry.number])
      (tracks.follows.poller.check poll) ?_ ?_ (.refl _) (fun _ => id) unexpected ?_
    · exact run.poller.clock_check poll
    · simp [marks, Timeline.asked, Sight.mark, Entry.mark?]
    · intro later isLater own time rests
      change later ∈ (run.poller.check poll).polls at isLater
      rw [checked] at isLater
      have waits := Poller.stage_of_modify isLater own fun _ => rfl
      rw [waits] at rests
      cases rests
  refine asked.trans fun {next} still => ⟨[], still.follows, still.counted, ?_, still.coming,
    still.resting⟩
  obtain ⟨distinct, waits⟩ := still.expects
  have fresh : arrival.number ∉ run.arrivals.map Arrival.number := by
    rw [answers]
    intro expected
    obtain ⟨other, isOther, same⟩ := List.mem_map.mp expected
    exact unexpected other isOther same
  refine ⟨List.nodup_cons.mpr ⟨fresh, distinct⟩, fun number expected => ?_⟩
  rcases List.mem_cons.mp expected with rfl | old
  · change ∃ poll ∈ next.poller.polls, _
    rw [still.polls]
    change ∃ poll ∈ (run.poller.check _).polls, _
    rw [checked]
    exact ⟨_, List.mem_map_of_mem member, by simp [answers], by simp⟩
  · exact waits number old

/-- An answer that takes its time is on its way. -/
theorem send {arrival : Arrival} (tracks : run.Tracks course [arrival])
    (notBefore : run.poller.clock ≤ arrival.due) :
    Tracks { run with arrivals := run.arrivals ++ [arrival] } course [] := by
  have order : ((run.arrivals ++ [arrival]).map Arrival.number).Perm
      (([arrival] ++ run.arrivals).map Arrival.number) := List.perm_append_comm.map _
  refine ⟨⟨tracks.follows.poller, tracks.follows.held, tracks.follows.marks⟩, tracks.counted,
    ⟨order.nodup_iff.mpr tracks.expects.distinct,
      fun number expected => tracks.expects.waits number (order.subset expected)⟩, ?_,
    tracks.resting⟩
  intro other isOther
  rcases List.mem_append.mp isOther with old | new
  · exact tracks.coming other old
  · rw [List.mem_singleton.mp new]
    exact notBefore

/-- A poll takes its answer and looks at it at once; if it is cancelled, it does not look. -/
theorem take {arrival : Arrival} {rest : List Arrival}
    (tracks : run.Tracks course (arrival :: rest)) (member : poll ∈ run.poller.polls)
    (answered : poll.number = arrival.number) (reply : Reply) :
    (run.take poll reply).Comes course rest := by
  have present : poll ∈ course.poller.polls := by
    rw [tracks.polls]
    exact member
  have orderly := tracks.counted.orderly.poller
  have checking : poll.stage = .checking :=
    tracks.expects.checking orderly present (by simp [answered])
  obtain ⟨events, isRun⟩ := course.exists_run_answer tracks.follows.held
    (orderly.poll?_eq present) checking reply.result
  obtain ⟨stage, polls, _, notBefore⟩ :=
    Course.exists_stage_answer course.poller poll reply.result
  have others : ∀ other ∈ rest ++ run.arrivals, other.number ≠ poll.number := by
    intro other isOther same
    have apart := (List.nodup_cons.mp tracks.expects.distinct).1
    rw [← answered, ← same] at apart
    exact apart (List.mem_map_of_mem isOther)
  have noted : (run.poller.noting reply.log).Alike course.poller := tracks.follows.poller
  have alike := noted.answer poll reply.result
  rw [take_eq]
  refine tracks.proceed isRun (course.poller.advances_answer poll reply.result) ?_ alike ?_ ?_
    (List.sublist_cons_self _ _) (fun _ => id) others ?_
  · simp [Entry.number]
  · exact Poller.clock_answer _ poll reply.result
  · rw [tracks.follows.poller.allowed]
    cases reported? poll run.poller.allowed reply.result <;>
      simp [marks, Sight.mark, Entry.mark?]
  · intro later isLater own due rests
    rw [← alike.polls, polls] at isLater
    have staged := Poller.stage_of_modify isLater own fun _ => rfl
    rw [← tracks.follows.poller.clock]
    exact notBefore due (staged.symm.trans rests)

/-- A poll that has rested, or is cancelled, goes on. -/
theorem wake (tracks : run.Tracks course []) (member : poll ∈ run.poller.polls) {time : Nat}
    (resting : poll.stage = .resting time) (uncancelled : poll.cancelled = false)
    (rested : time ≤ run.poller.clock) :
    Comes { run with poller := run.poller.wake poll } course [] := by
  have isRun : course.run [.turn poll.number] = _ := tracks.run_turn member
  have turn : course.turn poll = course.proceed poll.number (course.poller.wake poll) [] := by
    unfold Course.turn
    rw [tracks.held?, resting]
    simp [tracks.follows.poller.clock, rested]
  rw [turn] at isRun
  have woken : run.poller.wake poll = run.poller.modify poll.number fun poll =>
      { poll with stage := .ready } := by
    simp [Poller.wake, uncancelled]
  refine tracks.proceed isRun (course.poller.advances_wake poll) (by simp)
    (tracks.follows.poller.wake poll) ?_ (by simp [marks]) (.refl _) (fun _ => id)
    (tracks.unexpected member (by rw [resting]; rintro ⟨⟩)) ?_
  · exact run.poller.clock_wake poll
  · intro later isLater own due rests
    change later ∈ (run.poller.wake poll).polls at isLater
    rw [woken] at isLater
    have ready := Poller.stage_of_modify isLater own fun _ => rfl
    rw [ready] at rests
    cases rests

/-- A poll that has ended is forgotten. -/
theorem release (tracks : run.Tracks course []) (member : poll ∈ run.poller.polls)
    {result : PollResult} (ended : poll.stage = .ended result) :
    (see { run with poller := run.poller.release poll result }
      (.ended poll.number result)).Comes course [] := by
  have isRun : course.run [.turn poll.number] = _ := tracks.run_turn member
  have turn : course.turn poll =
      { course with
        poller := course.poller.release poll result
        past := .released poll.number :: course.past } := by
    unfold Course.turn
    rw [tracks.held?, ended]
  rw [turn] at isRun
  have spares : course.Spares (some poll.number) (course.run [.turn poll.number]) := by
    rw [isRun]
    exact .leave course poll.number rfl rfl rfl (fun _ => id)
      ⟨[.released poll.number], rfl, by simp [Entry.number]⟩
  refine tracks.move ⟨?_, ?_, ?_⟩ spares (by rfl) (.refl _) (fun _ => id) ?_ ?_
  · rw [isRun]
    exact tracks.follows.poller.release poll result
  · rw [isRun]
    exact tracks.follows.held
  · rw [isRun, marks_see]
    change run.marks ++ [.farewell poll.number] = _
    rw [tracks.follows.marks]
    simp [Course.marks, Entry.mark?]
  · exact fun arrival isArrival same =>
      tracks.unexpected member (by rw [ended]; rintro ⟨⟩) arrival isArrival
        (Option.some.inj same).symm
  · intro later isLater own
    have apart := (List.mem_filter.mp isLater).2
    rw [Option.some.inj own] at apart
    simp at apart

end Tracks

end Timeline

end UtilityBilling.Task
