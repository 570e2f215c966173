/-
# When a table is searched

A table is searched for exactly those typed texts that no other one follows before their delay
is over, each when its delay is over, whatever else the user does and the source answers in
between. Nothing else changes what it is searched for. Time can always go on, so that every
search that is to come does come.
-/

import UtilityBilling.Proofs.Table.Delay

namespace UtilityBilling.Table

variable {α : Type}

/-- What the last of some loads, the latest first, searched for. -/
def searchedFor (initial : String) (issues : List Issue) : String :=
  (issues.head?.map fun issue => issue.load.query.search).getD initial

/-- A load for which no delay was over searches for the same as the load before it. -/
def SameSearch (initial : String) (issue : Issue) (earlier : List Issue) : Prop :=
  issue.delayed = false → issue.load.query.search = searchedFor initial earlier

/-- The query of a table searches for what its last load searched for. -/
structure Searched (initial : String) (watch : Watch α) : Prop where
  search : watch.course.binder.delays.search = searchedFor initial watch.issues
  lawful : Lawful (SameSearch initial) watch.issues

namespace Searched

variable {initial : String} {watch : Watch α}

/-- Loads that search for the same as before. -/
theorem append (searched : Searched initial watch) {more : List Issue}
    (same : ∀ issue ∈ more, issue.delayed = false ∧
      issue.load.query.search = watch.course.binder.delays.search) :
    watch.course.binder.delays.search = searchedFor initial (more ++ watch.issues) ∧
      Lawful (SameSearch initial) (more ++ watch.issues) := by
  induction more with
  | nil => exact ⟨searched.search, searched.lawful⟩
  | cons issue rest ih =>
      obtain ⟨first, others⟩ := List.forall_mem_cons.mp same
      obtain ⟨search, lawful⟩ := ih others
      exact ⟨first.2.symm, fun _ => first.2.trans search, lawful⟩

theorem step {delay : Nat} (searched : Searched initial watch)
    (running : watch.course.binder.Running) {event : Event α} (timely : watch.Timely delay event) :
    Searched initial (watch.step event) := by
  have moves := Watch.step_moves running timely
  generalize watch.step event = after at moves
  have kept (search : after.course.binder.delays.search = watch.course.binder.delays.search)
      (issues : after.issues = watch.issues) : Searched initial after :=
    ⟨by rw [search, issues, searched.search], issues ▸ searched.lawful⟩
  cases moves with
  | rests delays _ issues =>
      obtain ⟨more, issues, same⟩ := issues
      obtain ⟨search, lawful⟩ := searched.append same
      exact ⟨by rw [delays, issues, search], issues ▸ lawful⟩
  | types _ _ delays _ issues => exact kept (by rw [delays]) issues
  | waits _ _ _ _ delays _ issues => exact kept (by rw [delays]) issues
  | arms _ _ delays _ issues => exact kept (by rw [delays]) issues
  | rings _ _ delays _ issues => exact kept (by rw [delays]) issues
  | drops _ _ delays _ issues => exact kept (by rw [delays]) issues
  | settles _ _ delays _ search _ issues =>
      refine ⟨?_, ?_⟩
      · rw [delays, issues]
        exact search.symm
      · rw [issues]
        exact ⟨fun notDelayed => (nomatch notDelayed), searched.lawful⟩

/-- What a table is searched for changes only when a delay is over. -/
theorem run (endpoint : String) (config : Config) (extras : List Parameter)
    {events : List (Event α)}
    (prompt : (Watch.start endpoint config extras).Prompt config.searchDelay events) :
    Searched config.search ((Watch.start endpoint config extras).run events) := by
  have kept (watch : Watch α) (event : Event α) (timely : watch.Timely config.searchDelay event) :
      watch.course.binder.Running ∧ Searched config.search watch →
        (watch.step event).course.binder.Running ∧ Searched config.search (watch.step event) :=
    fun ⟨running, searched⟩ =>
      ⟨Watch.running_step running timely, searched.step running timely⟩
  exact (Watch.run_induction kept ⟨⟨rfl, rfl⟩, rfl, .nil⟩ prompt).2

end Searched

namespace Watch

variable {delay : Nat} {watch middle after : Watch α}

/-- One watch comes after another one without the user doing anything. -/
def Idles (delay : Nat) (watch after : Watch α) : Prop :=
  ∃ events : List (Event α), (∀ event ∈ events, ∀ action, event ≠ .act action) ∧
    watch.Prompt delay events ∧ watch.run events = after

theorem Idles.refl (delay : Nat) (watch : Watch α) : watch.Idles delay watch :=
  ⟨[], by simp, trivial, rfl⟩

theorem Idles.step {event : Event α} (quiet : ∀ action, event ≠ .act action)
    (timely : watch.Timely delay event) (idles : (watch.step event).Idles delay after) :
    watch.Idles delay after := by
  obtain ⟨events, others, prompt, run⟩ := idles
  exact ⟨event :: events, List.forall_mem_cons.mpr ⟨quiet, others⟩, ⟨timely, prompt⟩, run⟩

theorem Idles.trans (first : watch.Idles delay middle) (second : middle.Idles delay after) :
    watch.Idles delay after := by
  obtain ⟨events, quiet, prompt, rfl⟩ := first
  induction events generalizing watch with
  | nil => exact second
  | cons event rest ih =>
      obtain ⟨isQuiet, others⟩ := List.forall_mem_cons.mp quiet
      exact Idles.step isQuiet prompt.1 (ih others prompt.2 second)

/-- A driver that takes a message which is no typed text sets no alarm. -/
theorem drive_noText {message : Message α} (next : watch.course.binder.next? = some message)
    (noTexts : watch.course.binder.delays.texts = []) :
    (watch.step .drive).course.binder.delays.texts = [] ∧
      ((watch.step .drive).course.binder.delays.alarm = watch.course.binder.delays.alarm ∨
        (watch.step .drive).course.binder.delays.alarm = none) := by
  cases drive_moves 0 next with
  | rests delays _ _ => exact ⟨by rw [delays, noTexts], .inl (by rw [delays])⟩
  | types _ _ _ typed _ => exact absurd typed (List.cons_ne_self _ _).symm
  | waits _ _ _ _ delays _ _ => exact ⟨by rw [delays]; exact noTexts, .inl (by rw [delays])⟩
  | arms _ texts _ _ _ => rw [noTexts] at texts; cases texts
  | rings _ _ delays _ _ => exact ⟨by rw [delays]; exact noTexts, .inr (by rw [delays])⟩
  | settles _ _ delays _ _ _ _ => exact ⟨by rw [delays]; exact noTexts, .inl (by rw [delays])⟩
  | drops _ _ delays _ _ => exact ⟨by rw [delays]; exact noTexts, .inl (by rw [delays])⟩

/-- A driver that runs empties its queue, which takes no time and sets no alarm unless there are
typed texts. -/
theorem exists_drained (delay : Nat) (running : watch.course.binder.Running) :
    ∃ after, watch.Idles delay after ∧ after.course.binder.Running ∧
      after.course.binder.queue = [] ∧
      after.course.binder.clock = watch.course.binder.clock ∧
      (watch.course.binder.delays.texts = [] →
        after.course.binder.delays.alarm = watch.course.binder.delays.alarm ∨
          after.course.binder.delays.alarm = none) := by
  generalize size : watch.course.binder.queue.length = length
  induction length generalizing watch with
  | zero =>
      exact ⟨watch, .refl delay watch, running, List.eq_nil_of_length_eq_zero size, rfl,
        fun _ => .inl rfl⟩
  | succ length ih =>
      obtain ⟨message, rest, queue⟩ := List.exists_cons_of_length_eq_add_one size
      have next : watch.course.binder.next? = some message := by
        simp [Binder.next?, running.1, running.2, queue]
      have timely : watch.Timely delay .drive := trivial
      have runsOn := running_step running timely
      have taken := (Binder.takes_of_next next).queue
      have shorter : (watch.step .drive).course.binder.queue.length = length := by
        rw [taken, List.length_cons, Nat.add_right_cancel_iff] at size
        exact size
      obtain ⟨after, idles, runs, empty, clock, alarm⟩ := ih runsOn shorter
      refine ⟨after, .step (by simp) timely idles, runs, empty,
        clock.trans watch.course.binder.drive_clock, ?_⟩
      intro noTexts
      obtain ⟨still, first⟩ := drive_noText next noTexts
      rcases alarm still with kept | gone
      · rw [kept]
        exact first
      · exact .inr gone

/-- A table comes to rest without the user doing anything and without time passing. -/
theorem exists_rest (delay : Nat) (running : watch.course.binder.Running) :
    ∃ after, watch.Idles delay after ∧ after.course.binder.Running ∧
      after.course.binder.AtRest ∧ after.course.binder.clock = watch.course.binder.clock := by
  obtain ⟨drained, idles, runs, empty, clock, _⟩ := exists_drained delay running
  cases set : drained.course.binder.alarm with
  | none => exact ⟨drained, idles, runs, ⟨empty, by simp [set]⟩, clock⟩
  | some alarm =>
      by_cases elapsed : alarm.due ≤ drained.course.binder.clock
      case neg =>
        refine ⟨drained, idles, runs, ⟨empty, ?_⟩, clock⟩
        intro other isSet
        rw [set] at isSet
        cases isSet
        exact Nat.lt_of_not_le elapsed
      case pos =>
        have timely : drained.Timely delay .ring := by
          intro other isSet
          rw [set] at isSet
          cases isSet
          exact elapsed
        have rung : (drained.step .ring).course.binder =
            { drained.course.binder with
              alarm := none
              queue := [.delayElapsed alarm.ticket] } := by
          simp [step, Course.step, Binder.ring, set, Binder.post, runs.1, empty]
        have runsOn := running_step runs timely
        obtain ⟨after, more, stillRuns, nothing, sameClock, noAlarm⟩ :=
          exists_drained delay runsOn
        have off : after.course.binder.delays.alarm = none := by
          have texts : (drained.step .ring).course.binder.delays.texts = [] := by rw [rung]; rfl
          have offThen : (drained.step .ring).course.binder.delays.alarm = none := by
            rw [rung]; rfl
          rcases noAlarm texts with kept | gone
          · exact kept.trans offThen
          · exact gone
        refine ⟨after, idles.trans (.step (by simp) timely more), stillRuns, ⟨nothing, ?_⟩, ?_⟩
        · intro other isSet
          rw [Option.map_eq_none_iff.mp off] at isSet
          cases isSet
        · rw [sameClock, rung, ← clock]

/-- Time can go on at rest, up to the time at which the alarm is due. -/
theorem idles_wait (rest : watch.course.binder.AtRest) (milliseconds : Nat)
    (soon : ∀ alarm ∈ watch.course.binder.alarm,
      watch.course.binder.clock + milliseconds ≤ alarm.due) :
    watch.Idles delay (watch.step (.wait milliseconds)) := by
  have timely : watch.Timely delay (.wait milliseconds) := ⟨rest.1, soon⟩
  exact .step (by simp) timely (.refl delay _)

/-- A table comes to rest at any later time without the user doing anything. -/
theorem exists_later (delay : Nat) (running : watch.course.binder.Running) {time : Nat}
    (later : watch.course.binder.clock ≤ time) :
    ∃ after, watch.Idles delay after ∧ after.course.binder.clock = time ∧
      after.course.binder.AtRest := by
  -- Each round goes on to the time at which the alarm is due, which at rest lies ahead.
  induction left : time - watch.course.binder.clock using Nat.strongRecOn
    generalizing watch with
  | ind left ih =>
      obtain ⟨rest, idles, runs, atRest, clock⟩ := exists_rest delay running
      by_cases next : ∃ alarm, rest.course.binder.alarm = some alarm ∧ alarm.due ≤ time
      case pos =>
        obtain ⟨alarm, set, due⟩ := next
        have ahead := atRest.2 alarm set
        obtain ⟨milliseconds, reached⟩ := Nat.exists_eq_add_of_le (Nat.le_of_lt ahead)
        have waits : rest.Idles delay (rest.step (.wait milliseconds)) := by
          refine idles_wait atRest milliseconds fun other isSet => ?_
          rw [set] at isSet
          cases isSet
          exact Nat.le_of_eq reached.symm
        have clockThen : (rest.step (.wait milliseconds)).course.binder.clock = alarm.due :=
          reached.symm
        have runsOn : (rest.step (.wait milliseconds)).course.binder.Running := runs
        obtain ⟨after, more, sameTime, stillAtRest⟩ :=
          ih (time - alarm.due) (by omega) runsOn (clockThen ▸ due) (by rw [clockThen])
        exact ⟨after, idles.trans (waits.trans more), sameTime, stillAtRest⟩
      case neg =>
        have beyond : ∀ alarm, rest.course.binder.alarm = some alarm → time < alarm.due :=
          fun alarm set => Nat.lt_of_not_le fun due => next ⟨alarm, set, due⟩
        have reached : rest.course.binder.clock + (time - rest.course.binder.clock) = time :=
          Nat.add_sub_cancel' (clock ▸ later)
        refine ⟨_, idles.trans (idles_wait atRest (time - rest.course.binder.clock) ?_), reached,
          atRest.1, ?_⟩
        · intro alarm set
          rw [reached]
          exact Nat.le_of_lt (beyond alarm set)
        · intro alarm set
          exact Nat.lt_of_le_of_lt (Nat.le_of_eq reached) (beyond alarm set)

end Watch

/-- The keystrokes that last and whose delay is over by a time. -/
def dueBy (delay time : Nat) (typed : List Keystroke) : List Keystroke :=
  (lasting delay typed).filter fun keystroke => keystroke.time + delay ≤ time

namespace Delayed

variable {delay : Nat} {watch : Watch α}

/-- Up to now a table has been searched for the texts whose delay is over, but for the last if
the driver has still to come to it. -/
theorem exists_underway (delayed : Delayed delay watch) (positive : 0 < delay) :
    ∃ underway,
      watch.sought ++ underway =
        (dueBy delay watch.course.binder.clock watch.typed.reverse).map (Keystroke.sought delay) ∧
      underway.length ≤ 1 ∧
      (∀ search ∈ underway, search.time = watch.course.binder.clock) ∧
      (watch.course.binder.AtRest → underway = []) := by
  obtain ⟨taken, waiting, done, accounts⟩ := delayed.accounts
  have early : (lasting delay waiting).filter (fun keystroke =>
      keystroke.time + delay ≤ watch.course.binder.clock) = [] := by
    refine List.filter_eq_nil_iff.mpr fun keystroke member => ?_
    have isNow := accounts.now keystroke ((lasting_sublist delay waiting).subset member)
    rw [decide_eq_true_iff, isNow]
    omega
  have due : dueBy delay watch.course.binder.clock watch.typed.reverse =
      dueBy delay watch.course.binder.clock taken := by
    rw [dueBy, accounts.typed, lasting_append, List.filter_append, early, List.append_nil,
      List.filter_filter, dueBy]
    refine List.filter_congr fun keystroke _ => ?_
    simp only [Bool.and_eq_left_iff_imp, decide_eq_true_iff]
    intro elapsed other isWaiting
    rw [accounts.now other isWaiting]
    exact elapsed
  have past : done.filter (fun keystroke =>
      keystroke.time + delay ≤ watch.course.binder.clock) = done :=
    List.filter_eq_self.mpr fun keystroke member => by simpa using accounts.past keystroke member
  rw [due, dueBy, accounts.sought]
  cases accounts.phase with
  | calm all _ _ =>
      refine ⟨[], ?_, by simp, by simp, fun _ => rfl⟩
      rw [all, past, List.append_nil]
  | @armed last next alarm _ _ soon =>
      rw [next, List.filter_append, past, List.map_append]
      refine ⟨_, rfl, ?_, ?_, ?_⟩
      · rw [List.length_map]
        exact List.length_filter_le _ _
      · intro search member
        obtain ⟨keystroke, isLast, rfl⟩ := List.mem_map.mp member
        obtain ⟨only, elapsed⟩ := List.mem_filter.mp isLast
        rw [List.mem_singleton.mp only] at elapsed ⊢
        exact Nat.le_antisymm (decide_eq_true_iff.mp elapsed) soon
      · intro atRest
        obtain ⟨set, isSet, same⟩ := Option.map_eq_some_iff.mp alarm
        have ahead := atRest.2 set isSet
        rw [Prod.mk.injEq] at same
        rw [same.2] at ahead
        rw [List.filter_cons_of_neg (by simpa using ahead)]
        rfl
  | @rung last next _ tickets _ elapsed =>
      have isOver : last.time + delay ≤ watch.course.binder.clock := Nat.le_of_eq elapsed.symm
      rw [next, List.filter_append, past, List.map_append,
        List.filter_cons_of_pos (by simpa using isOver)]
      refine ⟨_, rfl, Nat.le_refl 1, ?_, ?_⟩
      · intro search member
        rw [List.mem_singleton.mp member]
        exact elapsed.symm
      · intro atRest
        have noTickets : watch.course.binder.delays.tickets = [] := by
          simp [Binder.delays, atRest.1]
        rw [noTickets] at tickets
        cases tickets

end Delayed

/-- A burst of keystrokes between others counts as its last one, when those before it were done
with and those after it came too late to replace it. -/
theorem lasting_between {delay : Nat} {earlier rest later : List Keystroke} {first last : Keystroke}
    (isLast : last = (first :: rest).getLast (List.cons_ne_nil _ _))
    (soon : (first :: rest).IsChain fun one next => next.time < one.time + delay)
    (before : ∀ one ∈ earlier, ∀ keystroke ∈ first :: rest, one.time + delay ≤ keystroke.time)
    (after : ∀ one ∈ later, last.time + delay ≤ one.time) :
    lasting delay (earlier ++ (first :: rest) ++ later) =
      lasting delay earlier ++ [last] ++ lasting delay later := by
  have inBurst : last ∈ first :: rest := isLast ▸ List.getLast_mem _
  have kept : (lasting delay earlier).filter (fun keystroke =>
      ∀ other ∈ first :: rest, keystroke.time + delay ≤ other.time) = lasting delay earlier := by
    refine List.filter_eq_self.mpr fun keystroke member => decide_eq_true ?_
    exact before keystroke ((lasting_sublist delay earlier).subset member)
  have stays : (lasting delay earlier ++ [last]).filter (fun keystroke =>
      ∀ other ∈ later, keystroke.time + delay ≤ other.time) = lasting delay earlier ++ [last] := by
    refine List.filter_eq_self.mpr fun keystroke member => decide_eq_true ?_
    intro other isLater
    have beyond := after other isLater
    rcases List.mem_append.mp member with isEarlier | only
    · have done := before keystroke ((lasting_sublist delay earlier).subset isEarlier) last inBurst
      omega
    · rw [List.mem_singleton.mp only]
      exact beyond
  rw [lasting_append, lasting_append, kept, lasting_burst soon, ← isLast, stays]

/-- A table is searched when the delay is over. However the user acts and the source answers
before the table is stopped, as long as no text is typed just when the delay of an earlier one
is over: the loads for which a delay was over are, one for one and in order, those of the texts
that no other one follows before their delay is over; each is issued at the very instant at
which the delay of its text is over, and asks for the first page of the search for that text.
No other load searches for anything else than the load before it. A row of texts, each typed
before the delay of the one before it is over, makes a single search, for the last of them. And
time goes on without the user, so that every delay comes to be over. -/
theorem searched_when_delay_is_over (endpoint : String) (config : Config)
    (extras : List Parameter) {events : List (Event α)} (positive : 0 < config.searchDelay)
    (prompt : (Watch.start endpoint config extras).Prompt config.searchDelay events) :
    let delay := config.searchDelay
    let watch := (Watch.start endpoint config extras).run events
    let binder := watch.course.binder
    let typed := watch.typed.reverse
    (watch.course = (Course.start endpoint config extras).run events ∧
      loads watch.course.past = watch.issues.map Issue.load) ∧
    (∃ underway,
      watch.sought ++ underway = (dueBy delay binder.clock typed).map (Keystroke.sought delay) ∧
      underway.length ≤ 1 ∧ (∀ search ∈ underway, search.time = binder.clock) ∧
      (binder.AtRest → underway = [])) ∧
    Lawful (SameSearch config.search) watch.issues ∧
    (∀ earlier first rest later, typed = earlier ++ (first :: rest) ++ later →
      ((first :: rest).IsChain fun one next => next.time < one.time + delay) →
      (∀ one ∈ earlier, ∀ keystroke ∈ first :: rest, one.time + delay ≤ keystroke.time) →
      let last := (first :: rest).getLast (List.cons_ne_nil _ _)
      (∀ one ∈ later, last.time + delay ≤ one.time) → last.time + delay ≤ binder.clock →
      binder.AtRest →
      watch.sought = (dueBy delay binder.clock earlier).map (Keystroke.sought delay) ++
        [⟨last.time + delay, last.text, 1⟩] ++
        (dueBy delay binder.clock later).map (Keystroke.sought delay)) ∧
    ∀ time, binder.clock ≤ time → ∃ after, watch.Idles delay after ∧
      after.course.binder.clock = time ∧ after.course.binder.AtRest := by
  intro delay watch binder typed
  have delayed : Delayed delay watch := Delayed.run endpoint config extras prompt
  obtain ⟨underway, sought, atMostOne, now, atRest⟩ := delayed.exists_underway positive
  refine ⟨⟨Watch.course_run _ _, Watch.loads_eq endpoint config extras events⟩,
    ⟨underway, sought, atMostOne, now, atRest⟩, (Searched.run endpoint config extras prompt).lawful,
    ?_, fun time later => Watch.exists_later delay delayed.running later⟩
  intro earlier first rest later order soon before last after elapsed rests
  have split := lasting_between rfl soon before after
  rw [atRest rests, List.append_nil] at sought
  have inTime : [last].filter (fun keystroke => keystroke.time + delay ≤ binder.clock) = [last] :=
    List.filter_cons_of_pos (decide_eq_true elapsed)
  rw [sought, show watch.typed.reverse = _ from order, dueBy, split, List.filter_append,
    List.filter_append, inTime, List.map_append, List.map_append]
  rfl

namespace Typing

/-- Two texts are typed, the second before the delay of the first is over; a page is turned and
another one comes in between. -/
def events : List (Event Nat) :=
  [.drive, .ask ⟨1⟩, .act (.search "a"), .drive, .wait 100, .answer ⟨1⟩ (.ok ⟨[10], 40⟩), .drive,
    .act (.search "ab"), .drive, .wait 300, .act (.page 1), .drive, .wait 100, .ring, .drive]

/-- What is watched of them. -/
def watch : Watch Nat := (Watch.start "/items" {} []).run events

end Typing

/-- A single search, for the second text, half a second after the start. -/
theorem searched_when_delay_is_over_typing :
    Typing.watch.typed.reverse = [⟨0, "a"⟩, ⟨100, "ab"⟩] ∧ Typing.watch.course.binder.clock = 500 ∧
      Typing.watch.sought = [⟨500, "ab", 1⟩] ∧
      Typing.watch.issues.map (fun issue => issue.load.query.page) = [1, 2, 1] := by
  have typed : Typing.watch.typed.reverse = [⟨0, "a"⟩, ⟨100, "ab"⟩] := by decide
  have clock : Typing.watch.course.binder.clock = 500 := by decide
  have rests : Typing.watch.course.binder.AtRest := ⟨by decide, by decide⟩
  have prompt : (Watch.start "/items" {} []).Prompt 400 Typing.events := by decide
  obtain ⟨_, _, _, bursts, _⟩ := searched_when_delay_is_over "/items" {} [] (by decide) prompt
  have one := bursts [] ⟨0, "a"⟩ [⟨100, "ab"⟩] [] typed (by simp) (by simp) (by simp)
    (Nat.le_of_eq clock.symm) rests
  exact ⟨typed, clock, one, by decide⟩

end UtilityBilling.Table
