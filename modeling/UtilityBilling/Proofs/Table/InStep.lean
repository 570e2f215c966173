/-
# Driver and table in step

The state of a table knows the load in flight, the driver holds a token, the fetches run on
their own and their answers wait in a queue. As long as the driver runs, the load in flight
is the one whose token the driver holds, and its fetch runs or its answer is queued, so that
the table cannot wait in vain. No other fetch runs with a token that is not cancelled, as
long as the numbers of loads do not come round again.
-/

import UtilityBilling.Proofs.Table.Answers
import UtilityBilling.Proofs.Table.Tokens

namespace UtilityBilling.Table

variable {α : Type}

/-! ## The load in flight -/

/-- The driver holds the token of the load in flight, and that load is not lost: its fetch
runs with a token that is not cancelled, or its answer is queued. -/
structure InStep (binder : Binder α) : Prop where
  holds : binder.Holds
  awaited : ∀ request, binder.state.inFlight = some request →
    (request, false) ∈ binder.tokens ∨ request ∈ binder.answers.map Prod.fst

namespace InStep

variable {course : Course α}

theorem start (endpoint : String) (config : Config) (extras : List Parameter) :
    InStep (Course.start (α := α) endpoint config extras).binder where
  holds := by intro request inFlight; cases inFlight
  awaited := by intro request inFlight; cases inFlight

/-- Every event keeps driver and table in step, unless the driver stops. -/
theorem step (inStep : InStep course.binder) (event : Event α)
    (running : (course.step event).binder.ended = false) :
    InStep (course.step event).binder := by
  have shifts := Course.step_shifts inStep.holds event
  generalize course.revokedBy event = revoked at shifts
  cases shifts with
  | ends ended => rw [ended] at running; cases running
  | rests inFlight held tokens answers =>
      constructor
      · rw [Binder.Holds, inFlight, held]
        exact inStep.holds
      · rw [inFlight, tokens, answers]
        exact inStep.awaited
  | @returns returned outcome inFlight held tokens answers =>
      constructor
      · rw [Binder.Holds, inFlight, held]
        exact inStep.holds
      · intro request waits
        rw [inFlight] at waits
        rw [tokens, answers, List.map_append, List.mem_append, List.mem_filter]
        by_cases same : request = returned
        · exact .inr (.inr (by simp [same]))
        · rcases inStep.awaited request waits with runs | queued
          · exact .inl ⟨runs, by simpa using same⟩
          · exact .inr (.inl queued)
  | @takes answered outcome inFlight held tokens answers =>
      by_cases own : course.binder.state.inFlight = some answered
      · rw [if_pos own] at inFlight
        constructor <;> (intro request waits; rw [inFlight] at waits; cases waits)
      · rw [if_neg own] at inFlight
        constructor
        · rw [Binder.Holds, inFlight, held]
          exact inStep.holds
        · intro request waits
          rw [inFlight] at waits
          rw [tokens]
          refine (inStep.awaited request waits).imp id fun queued => ?_
          rw [answers, List.map_cons, List.mem_cons] at queued
          refine queued.resolve_left fun same => own ?_
          rw [waits, same]
  | begins _ _ inFlight held tokens answers =>
      constructor
      · intro request waits
        rw [held, ← inFlight, waits]
      · intro request waits
        rw [inFlight] at waits
        cases waits
        rw [tokens]
        exact .inl (by simp)

/-- A driver that runs after an event ran before it. -/
theorem running_of_step {event : Event α} (running : (course.step event).binder.ended = false) :
    course.binder.ended = false := by
  rw [← Bool.not_eq_true]
  intro ended
  rw [Course.ended_step ended event] at running
  cases running

/-- Driver and table are in step in every course, as long as the driver runs. -/
theorem run (inStep : course.binder.ended = false → InStep course.binder)
    (events : List (Event α)) :
    (course.run events).binder.ended = false → InStep (course.run events).binder := by
  let holds (course : Course α) : Prop := course.binder.ended = false → InStep course.binder
  have kept (course : Course α) (before : holds course) (event : Event α)
      (_ : event ∈ events) : holds (course.step event) := by
    intro running
    exact (before (running_of_step running)).step event running
  exact List.foldlRecOn (motive := holds) events Course.step inStep kept

end InStep

/-! ## One live load -/

/-- As long as the numbers of loads do not come round again, the one fetch that runs with a
token that is not cancelled is that of the load in flight, and the driver holds no cancelled
token. -/
structure Exclusive (course : Course α) (revoked : List RequestId) : Prop where
  live : ∀ request, (request, false) ∈ course.binder.tokens →
    course.binder.state.inFlight = some request
  cancelled : ∀ request, (request, true) ∈ course.binder.tokens → request ∈ revoked
  lost : ∀ request ∈ revoked, course.binder.inFlight ≠ some request
  known : ∀ request ∈ revoked, ∃ load ∈ loads course.past, load.request = request

/-- An event adds to the history. -/
theorem Course.exists_past_step (course : Course α) (event : Event α) :
    ∃ more, (course.step event).past = more ++ course.past := by
  cases event with
  | drive => exact ⟨_, rfl⟩
  | ask request =>
      simp only [step]
      split
      · exact ⟨[_], rfl⟩
      · exact ⟨[], rfl⟩
  | answer request result =>
      simp only [step]
      split
      · exact ⟨[_], rfl⟩
      · exact ⟨[], rfl⟩
  | retire request =>
      simp only [step]
      split
      · exact ⟨[_], rfl⟩
      · exact ⟨[], rfl⟩
  | _ => exact ⟨[], rfl⟩

/-- A load that was issued stays issued. -/
theorem loads_sublist_step (course : Course α) (event : Event α) :
    (loads course.past).Sublist (loads (course.step event).past) := by
  obtain ⟨more, past⟩ := course.exists_past_step event
  rw [past, loads, loads, List.filterMap_append]
  exact List.sublist_append_right _ _

namespace Exclusive

variable {course : Course α} {revoked : List RequestId}

theorem start (endpoint : String) (config : Config) (extras : List Parameter) :
    Exclusive (Course.start (α := α) endpoint config extras) [] := by
  constructor <;> simp [Course.start, Binder.start, Binder.tokens]

/-- When a load begins, no other fetch keeps a token that is not cancelled. -/
theorem not_mem_replaced (exclusive : Exclusive course revoked) (request : RequestId) :
    (request, false) ∉ course.binder.replaced := by
  intro member
  unfold Binder.replaced at member
  split at member
  case h_1 previous inFlight =>
    rcases mem_cancelToken member with ⟨_, impossible⟩ | ⟨apart, kept⟩
    · cases impossible
    · have waits := exclusive.live request kept
      rw [inFlight, Option.some.injEq] at waits
      exact apart waits.symm
  case h_2 inFlight =>
    rw [exclusive.live request member] at inFlight
    cases inFlight

/-- When a load begins, the cancelled tokens are those cancelled before and that of the load
in flight. -/
theorem mem_of_replaced (exclusive : Exclusive course revoked) {request : RequestId}
    (member : (request, true) ∈ course.binder.replaced) :
    request ∈ course.binder.state.inFlight.toList ++ revoked := by
  unfold Binder.replaced at member
  split at member
  case h_1 previous inFlight =>
    rcases mem_cancelToken member with ⟨same, _⟩ | ⟨_, kept⟩
    · exact List.mem_append_left _ (by simp [inFlight, same])
    · exact List.mem_append_right _ (exclusive.cancelled request kept)
  case h_2 => exact List.mem_append_right _ (exclusive.cancelled request member)

/-- A load that has been begun is issued, and issuing it makes one load more. -/
theorem length_loads_lt {after : Course α} (numbered : Numbered course)
    (numberedAfter : Numbered after)
    (issued : after.binder.state.issued = course.binder.state.issued + 1)
    (more : (loads course.past).length ≤ (loads after.past).length) :
    (loads course.past).length < (loads after.past).length := by
  refine Nat.lt_of_le_of_ne more fun same => ?_
  rw [numbered.issued, numberedAfter.issued, same] at issued
  have values := congrArg UInt64.toNat issued
  rw [UInt64.toNat_add] at values
  have below := (UInt64.ofNat (loads after.past).length).toNat_lt
  simp only [UInt64.toNat_one] at values
  omega

/-- Every event keeps one load live. -/
theorem step (exclusive : Exclusive course revoked) (inStep : InStep course.binder)
    (numbered : Numbered course) (event : Event α)
    (running : (course.step event).binder.ended = false)
    (bounded : (loads (course.step event).past).length < UInt64.size) :
    Exclusive (course.step event) (course.revokedBy event ++ revoked) := by
  have more := loads_sublist_step course event
  have shifts := Course.step_shifts inStep.holds event
  have numberedAfter := numbered.step event
  generalize course.revokedBy event = fresh at shifts
  have knownStill : ∀ request ∈ revoked,
      ∃ load ∈ loads (course.step event).past, load.request = request := by
    intro request member
    obtain ⟨load, issued, belongs⟩ := exclusive.known request member
    exact ⟨load, more.subset issued, belongs⟩
  cases shifts with
  | ends ended => rw [ended] at running; cases running
  | rests inFlight held tokens answers =>
      constructor
      · rw [tokens, inFlight]; exact exclusive.live
      · rw [tokens]; exact exclusive.cancelled
      · rw [held]; exact exclusive.lost
      · exact knownStill
  | returns inFlight held tokens answers =>
      constructor
      · intro request member
        rw [tokens] at member
        rw [inFlight]
        exact exclusive.live request (List.mem_of_mem_filter member)
      · intro request member
        rw [tokens] at member
        exact exclusive.cancelled request (List.mem_of_mem_filter member)
      · rw [held]; exact exclusive.lost
      · exact knownStill
  | @takes answered outcome inFlight held tokens answers =>
      constructor
      · intro request member
        rw [tokens] at member
        have waits := exclusive.live request member
        -- The fetch of the load in flight runs, so that no answer to it can be queued.
        have other : request ≠ answered := by
          rintro rfl
          have once := numbered.once (Nat.lt_of_le_of_lt more.length_le bounded)
          have apart := (List.nodup_append.mp (List.nodup_append.mp once).2.1).2.2
          refine apart request ?_ request ?_ rfl
          · rw [answers]; exact List.mem_cons_self
          · exact course.binder.live_sublist.subset (Binder.mem_live_iff.mpr member)
        rw [inFlight, if_neg (by rw [waits]; simpa using other), waits]
      · rw [tokens]; exact exclusive.cancelled
      · rw [held]; exact exclusive.lost
      · exact knownStill
  | @begins begun number issued inFlight held tokens answers =>
      have grows := length_loads_lt numbered numberedAfter issued more.length_le
      have new : ∀ load ∈ loads course.past,
          load.request ≠ (⟨begun, course.binder.state.query⟩ : Load).request :=
        numbered.fresh number (by omega)
      have inFlightKnown : ∀ request, course.binder.state.inFlight = some request →
          ∃ load ∈ loads course.past, load.request = request := by
        intro request waits
        apply numbered.known
        refine List.mem_append_right _ ?_
        rcases inStep.awaited request waits with runs | queued
        · exact List.mem_append_right _
            (course.binder.live_sublist.subset (Binder.mem_live_iff.mpr runs))
        · exact List.mem_append_left _ queued
      have knownBefore : ∀ request ∈ course.binder.state.inFlight.toList ++ revoked,
          ∃ load ∈ loads course.past, load.request = request := by
        intro request member
        rcases List.mem_append.mp member with previous | earlier
        · exact inFlightKnown request (Option.mem_toList.mp previous)
        · exact exclusive.known request earlier
      constructor
      · intro request member
        rw [tokens, List.mem_append, List.mem_singleton, Prod.mk.injEq] at member
        rcases member with kept | ⟨rfl, _⟩
        · exact absurd kept (exclusive.not_mem_replaced request)
        · exact inFlight
      · intro request member
        rw [tokens, List.mem_append, List.mem_singleton, Prod.mk.injEq] at member
        rcases member with kept | ⟨_, impossible⟩
        · exact exclusive.mem_of_replaced kept
        · cases impossible
      · intro request member
        rw [held]
        rintro ⟨rfl⟩
        obtain ⟨load, known, belongs⟩ := knownBefore _ member
        exact new load known belongs
      · intro request member
        obtain ⟨load, known, belongs⟩ := knownBefore request member
        exact ⟨load, more.subset known, belongs⟩

/-- One load is live in every course, as long as the driver runs and the numbers of loads do
not come round again. -/
theorem run (numbered : Numbered course)
    (inStep : course.binder.ended = false → InStep course.binder)
    (exclusive : course.binder.ended = false → (loads course.past).length < UInt64.size →
      Exclusive course revoked)
    (events : List (Event α)) :
    let after := course.run events
    after.binder.ended = false → (loads after.past).length < UInt64.size →
      Exclusive after (course.revoked events ++ revoked) := by
  induction events generalizing course revoked with
  | nil => exact exclusive
  | cons event events ih =>
      intro after running bounded
      rw [Course.revoked, List.append_assoc]
      apply ih (numbered.step event) (InStep.run inStep [event]) ?_ running bounded
      intro running bounded
      have before := InStep.running_of_step running
      have fewer := (loads_sublist_step course event).length_le
      exact (exclusive before (Nat.lt_of_le_of_lt fewer bounded)).step (inStep before) numbered
        event running bounded

/-- At most one load is live. -/
theorem length_live_le_one (exclusive : Exclusive course revoked) (numbered : Numbered course)
    (bounded : (loads course.past).length < UInt64.size) : course.binder.live.length ≤ 1 := by
  have once := (List.nodup_append.mp (List.nodup_append.mp (numbered.once bounded)).2.1).2.1
  have nodup := once.sublist course.binder.live_sublist
  rw [← List.map_id course.binder.live] at nodup
  apply length_le_one_of_remembered nodup
  intro request member
  exact exclusive.live request (Binder.mem_live_iff.mp member)

end Exclusive

/-! ## Driver and table -/

namespace Binder

/-- The driver runs, and has not been told to stop. -/
def Running (binder : Binder α) : Prop :=
  binder.ended = false ∧ binder.stopping = false

theorem foldl_execute_running {binder : Binder α} (running : binder.Running)
    (effects : List Effect) : (effects.foldl execute binder).Running := by
  induction effects generalizing binder with
  | nil => exact running
  | cons effect rest ih =>
      apply ih
      cases effect with
      | load request query => exact running
      | delay ticket milliseconds => exact running
      | cancel request =>
          simp only [execute]
          split <;> exact running

/-- A driver that takes a message goes on running. -/
theorem drive_running {binder : Binder α} {message : Message α}
    (next : binder.next? = some message) : binder.drive.1.Running := by
  obtain ⟨ended, stopping, rest, _, drive⟩ := drive_of_next next
  let taking := { binder with queue := rest, state := (binder.state.update message).1 }
  have runs : taking.Running := ⟨ended, stopping⟩
  have executed := foldl_execute_running runs (binder.state.update message).2
  rw [drive]
  simp only [process]
  split
  · exact ⟨executed.1, executed.2⟩
  · exact executed

end Binder

namespace Course

variable {course : Course α}

/-- The course when the driver has gone through what is in its queue. -/
def drained (course : Course α) : Course α :=
  course.run (List.replicate course.binder.queue.length .drive)

/-- A driver that runs comes to the end of its queue. -/
theorem drained_idle (running : course.binder.Running) (inStep : InStep course.binder) :
    course.drained.binder.Running ∧ InStep course.drained.binder ∧
      course.drained.binder.queue = [] := by
  unfold drained
  generalize size : course.binder.queue.length = length
  induction length generalizing course with
  | zero => exact ⟨running, inStep, List.eq_nil_of_length_eq_zero size⟩
  | succ length ih =>
      obtain ⟨message, rest, queue⟩ := List.exists_cons_of_length_eq_add_one size
      have next : course.binder.next? = some message := by
        simp [Binder.next?, running.1, running.2, queue]
      have runsOn : (course.step .drive).binder.Running := Binder.drive_running next
      have taken := (Binder.takes_of_next next).queue
      have shorter : (course.step .drive).binder.queue.length = length := by
        rw [taken, List.length_cons, Nat.add_right_cancel_iff] at size
        exact size
      exact ih runsOn (inStep.step .drive runsOn.1) shorter

/-- A fetch that runs can be brought to have asked its source. -/
theorem exists_asked {request : RequestId} (runs : request ∈ course.binder.live) :
    ∃ fetch, (course.step (.ask request)).fetch? request Fetch.asked = some fetch := by
  apply Option.isSome_iff_exists.mp
  rw [fetch?, List.find?_isSome]
  obtain ⟨fetch, member, belongs⟩ := List.mem_map.mp runs
  have present := List.mem_of_mem_filter member
  simp only [step]
  split
  case h_1 =>
    refine ⟨{ fetch with asked := true }, ?_, by simp [belongs]⟩
    exact List.mem_map.mpr ⟨fetch, present, if_pos belongs⟩
  case h_2 none_left =>
    rw [fetch?, List.find?_eq_none] at none_left
    have asked := none_left fetch present
    exact ⟨fetch, present, by simpa [belongs] using asked⟩

/-- The answer to the load in flight ends the loading when the driver comes to it. -/
theorem inFlight_answered (running : course.binder.Running) (queue : course.binder.queue = [])
    {request : RequestId} (inFlight : course.binder.state.inFlight = some request)
    (runs : request ∈ course.binder.live) (result : Api.Result (Page α)) :
    (course.run [.ask request, .answer request result, .drive]).binder.state.inFlight = none := by
  obtain ⟨fetch, found⟩ := exists_asked runs
  have asked : (course.step (.ask request)).binder.Running ∧
      (course.step (.ask request)).binder.queue = [] ∧
      (course.step (.ask request)).binder.state = course.binder.state := by
    simp only [step]
    split <;> exact ⟨running, queue, rfl⟩
  change (((course.step (.ask request)).step (.answer request result)).step
    .drive).binder.state.inFlight = none
  generalize course.step (.ask request) = before at asked found
  obtain ⟨⟨ended, stopping⟩, empty, state⟩ := asked
  have posted : (before.step (.answer request result)).binder.next? =
      some (Binder.answerMessage request result) := by
    simp [step, found, Binder.answer, Binder.post, Binder.withoutFetch, Binder.next?, ended,
      stopping, empty]
  have kept : (before.step (.answer request result)).binder.state = course.binder.state := by
    simp only [step, found, Binder.answer, Binder.post_state]
    exact state
  have taken := (Binder.takes_of_next posted).state
  rw [kept] at taken
  have answered : (course.binder.state.update
      (Binder.answerMessage request result)).1.inFlight = none := by
    cases result with
    | ok page => simp [Binder.answerMessage, State.update, inFlight, State.showPage]
    | error error =>
        simp only [Binder.answerMessage, State.update, inFlight, if_true]
        exact State.take_inFlight _ (.error _)
  exact (congrArg State.inFlight taken).trans answered

/-- When the queue is empty, whatever the source answers to the load in flight ends the
loading. -/
theorem inFlight_settled (running : course.binder.Running) (inStep : InStep course.binder)
    {request : RequestId} (inFlight : course.drained.binder.state.inFlight = some request)
    (result : Api.Result (Page α)) :
    (course.drained.run
      [.ask request, .answer request result, .drive]).binder.state.inFlight = none := by
  obtain ⟨runsOn, stillInStep, queue⟩ := drained_idle running inStep
  have runs : request ∈ course.drained.binder.live := by
    rw [Binder.mem_live_iff]
    refine (stillInStep.awaited request inFlight).resolve_right ?_
    simp [Binder.answers, queue]
  exact inFlight_answered runsOn queue inFlight runs result

end Course

/-- Driver and table stay in step. As long as the driver runs, the load in flight is the
one whose token the driver holds, and its fetch runs with a token that is not cancelled or
its answer is queued; every cancellation that a message asks for finds the token of just the
load that it names; and unless the driver is told to stop the loading comes to its end
without the user, whatever the source answers. As long as the numbers of loads do not come
round again, at most one fetch runs with a token that is not cancelled, every fetch with a
cancelled token is one whose token the driver has cancelled, and no load whose token was
cancelled is in flight or held. -/
theorem driver_in_step (endpoint : String) (config : Config) (extras : List Parameter)
    (events : List (Event α)) :
    let start : Course α := .start endpoint config extras
    let course := start.run events
    let binder := course.binder
    binder.ended = false →
      (∀ request, binder.state.inFlight = some request →
        binder.inFlight = some request ∧
          (request ∈ binder.live ∨ request ∈ binder.answers.map Prod.fst)) ∧
      (∀ message queue,
        let update := binder.state.update message
        { binder with queue := queue, state := update.1 }.Finds update.2) ∧
      (binder.stopping = false → ∀ request result,
        course.drained.binder.state.inFlight = some request →
          (course.drained.run
            [.ask request, .answer request result, .drive]).binder.state.inFlight = none) ∧
      ((loads course.past).length < UInt64.size →
        binder.live.length ≤ 1 ∧
          (∀ request ∈ binder.live, binder.state.inFlight = some request) ∧
          (∀ fetch ∈ binder.fetches, fetch.cancelled = true →
            fetch.request ∈ start.revoked events) ∧
          ∀ request ∈ start.revoked events,
            binder.state.inFlight ≠ some request ∧ binder.inFlight ≠ some request) := by
  intro start course binder running
  have numbered : Numbered course := .run endpoint config extras events
  have inStep : InStep binder :=
    InStep.run (fun _ => .start endpoint config extras) events running
  refine ⟨?_, fun message queue => Course.finds_update inStep.holds message queue, ?_, ?_⟩
  · intro request inFlight
    refine ⟨inStep.holds request inFlight, ?_⟩
    rw [Binder.mem_live_iff]
    exact inStep.awaited request inFlight
  · intro going request result inFlight
    exact Course.inFlight_settled ⟨running, going⟩ inStep inFlight result
  · intro bounded
    have exclusive : Exclusive course (start.revoked events) := by
      have all := Exclusive.run (.start endpoint config extras)
        (fun _ => .start endpoint config extras)
        (fun _ _ => Exclusive.start (α := α) endpoint config extras) events running bounded
      rwa [List.append_nil] at all
    refine ⟨exclusive.length_live_le_one numbered bounded, ?_, ?_, ?_⟩
    · intro request member
      exact exclusive.live request (Binder.mem_live_iff.mp member)
    · intro fetch member cancelled
      apply exclusive.cancelled
      exact List.mem_map.mpr ⟨fetch, member, by rw [cancelled]⟩
    · intro request lost
      refine ⟨?_, exclusive.lost request lost⟩
      intro inFlight
      exact exclusive.lost request lost (inStep.holds request inFlight)

namespace Replaced

/-- A table about to be loaded. -/
def start : Course Nat := .start "/items" {} []

/-- The first load is replaced while its answer is on the way. -/
def events : List (Event Nat) :=
  [.drive, .ask ⟨1⟩, .act .refresh, .answer ⟨1⟩ (.ok ⟨[10], 1⟩), .drive]

/-- The course after these events. -/
def course : Course Nat := start.run events

end Replaced

/-- A load is replaced while its answer is on the way: the driver holds the token of the
second load, whose fetch runs, and has cancelled the first, whose answer is still queued. -/
theorem driver_in_step_replaced :
    let binder := Replaced.course.binder
    binder.ended = false ∧ binder.stopping = false ∧
      binder.state.inFlight = some ⟨2⟩ ∧ binder.inFlight = some ⟨2⟩ ∧
      binder.live = [⟨2⟩] ∧ Replaced.start.revoked Replaced.events = [⟨1⟩] ∧
      binder.answers.map Prod.fst = [⟨1⟩] ∧
      binder.state.inFlight ≠ some ⟨1⟩ ∧ binder.inFlight ≠ some ⟨1⟩ ∧
      (Replaced.course.drained.run
        [.ask ⟨2⟩, .answer ⟨2⟩ (.ok ⟨[20], 1⟩), .drive]).binder.state.inFlight = none := by
  intro binder
  have running : Replaced.course.binder.ended = false := by decide
  have going : Replaced.course.binder.stopping = false := by decide
  have few : (loads Replaced.course.past).length < UInt64.size := by decide
  have revoked : Replaced.start.revoked Replaced.events = [⟨1⟩] := by decide
  have waits : Replaced.course.drained.binder.state.inFlight = some ⟨2⟩ := by decide
  have live : Replaced.course.binder.live = [⟨2⟩] := by decide
  have queued : Replaced.course.binder.answers.map Prod.fst = [⟨1⟩] := by decide
  have inFlight : Replaced.course.binder.state.inFlight = some ⟨2⟩ := by decide
  obtain ⟨holds, _, settles, exclusive⟩ :=
    driver_in_step "/items" {} [] Replaced.events running
  have cancelled : (⟨1⟩ : RequestId) ∈ Replaced.start.revoked Replaced.events := by
    rw [revoked]
    exact List.mem_cons_self
  have lost := (exclusive few).2.2.2 ⟨1⟩ cancelled
  exact ⟨running, going, inFlight, (holds ⟨2⟩ inFlight).1, live, revoked, queued, lost.1, lost.2,
    settles going ⟨2⟩ (.ok ⟨[20], 1⟩) waits⟩

end UtilityBilling.Table
