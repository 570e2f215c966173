/-
# How a run of a table in time follows a course

A run of a table in time keeps the answers that are on their way and knows when they are due; a
course leaves it open when they come, and when an alarm goes off. So a run can follow a course
without agreeing with it about what time it is. What has to be known of the answers on their way
is that each of them belongs to a fetch of its own that has asked.
-/

import UtilityBilling.Proofs.Table.LoadCount
import UtilityBilling.Table.Timeline

namespace UtilityBilling.Table

variable {σ α : Type}

/-- An alarm without the time at which it is due. -/
def Alarm.untimed (alarm : Alarm) : Alarm :=
  { alarm with due := 0 }

namespace Binder

/-- Two binders are the same but for what time it is, the logs, and when the alarm is due. -/
def Alike (binder other : Binder α) : Prop :=
  ∃ clock log alarm, other = { binder with clock := clock, log := log, alarm := alarm } ∧
    alarm.map Alarm.untimed = binder.alarm.map Alarm.untimed

namespace Alike

variable {binder other : Binder α}

theorem refl (binder : Binder α) : binder.Alike binder :=
  ⟨binder.clock, binder.log, binder.alarm, rfl, rfl⟩

theorem state (alike : binder.Alike other) : other.state = binder.state := by
  obtain ⟨clock, log, alarm, rfl, _⟩ := alike
  rfl

theorem queue (alike : binder.Alike other) : other.queue = binder.queue := by
  obtain ⟨clock, log, alarm, rfl, _⟩ := alike
  rfl

theorem fetches (alike : binder.Alike other) : other.fetches = binder.fetches := by
  obtain ⟨clock, log, alarm, rfl, _⟩ := alike
  rfl

theorem ended (alike : binder.Alike other) : other.ended = binder.ended := by
  obtain ⟨clock, log, alarm, rfl, _⟩ := alike
  rfl

theorem stopping (alike : binder.Alike other) : other.stopping = binder.stopping := by
  obtain ⟨clock, log, alarm, rfl, _⟩ := alike
  rfl

theorem send (alike : binder.Alike other) (message : Message α) :
    (binder.send message).Alike (other.send message) := by
  obtain ⟨clock, log, alarm, rfl, same⟩ := alike
  unfold Binder.send
  split <;> exact ⟨_, _, _, rfl, same⟩

theorem stop (alike : binder.Alike other) : binder.stop.Alike other.stop := by
  obtain ⟨clock, log, alarm, rfl, same⟩ := alike
  exact ⟨_, _, _, rfl, same⟩

theorem withExtras (alike : binder.Alike other) (extras : List Parameter) :
    ({ binder with extras := extras } : Binder α).Alike { other with extras := extras } := by
  obtain ⟨clock, log, alarm, rfl, same⟩ := alike
  exact ⟨_, _, _, rfl, same⟩

theorem post (alike : binder.Alike other) (message : Message α) :
    (binder.post message).Alike (other.post message) := by
  obtain ⟨clock, log, alarm, rfl, same⟩ := alike
  unfold Binder.post
  split <;> exact ⟨_, _, _, rfl, same⟩

theorem withoutFetch (alike : binder.Alike other) (request : RequestId) :
    (binder.withoutFetch request).Alike (other.withoutFetch request) := by
  obtain ⟨clock, log, alarm, rfl, same⟩ := alike
  exact ⟨_, _, _, rfl, same⟩

theorem ask (alike : binder.Alike other) (request : RequestId) :
    (binder.ask request).Alike (other.ask request) := by
  obtain ⟨clock, log, alarm, rfl, same⟩ := alike
  exact ⟨_, _, _, rfl, same⟩

theorem retire (alike : binder.Alike other) (request : RequestId) :
    (binder.retire request).Alike (other.retire request) :=
  (alike.withoutFetch request).post _

theorem answer (alike : binder.Alike other) (request : RequestId)
    (result : Api.Result (Page α)) :
    (binder.answer request result).Alike (other.answer request result) := by
  obtain ⟨clock, log, alarm, same, sameAlarm⟩ :=
    (alike.withoutFetch request).post (answerMessage request result)
  refine ⟨clock, log ++ (answerWarning? other.endpoint result).toList, alarm, ?_, sameAlarm⟩
  rw [Binder.answer, same]
  rfl

theorem ring (alike : binder.Alike other) : binder.ring.Alike other.ring := by
  obtain ⟨clock, log, alarm, rfl, same⟩ := alike
  cases set : binder.alarm with
  | none =>
      rw [set, Option.map_none, Option.map_eq_none_iff] at same
      subst same
      simp only [Binder.ring, set]
      exact ⟨clock, log, none, rfl, by rw [set]⟩
  | some before =>
      rw [set, Option.map_some, Option.map_eq_some_iff] at same
      obtain ⟨after, rfl, untimed⟩ := same
      have ticket : after.untimed.ticket = before.untimed.ticket :=
        congrArg Alarm.ticket untimed
      change after.ticket = before.ticket at ticket
      have alike : ({ binder with alarm := none } : Binder α).Alike
          { binder with clock := clock, log := log, alarm := none } :=
        ⟨clock, log, none, rfl, rfl⟩
      simp only [Binder.ring, set, ticket]
      exact alike.post _

theorem execute (alike : binder.Alike other) (effect : Effect) :
    (binder.execute effect).Alike (other.execute effect) := by
  obtain ⟨clock, log, alarm, rfl, same⟩ := alike
  cases effect with
  | load request query => exact ⟨_, _, _, rfl, same⟩
  | delay ticket milliseconds => exact ⟨_, _, _, rfl, rfl⟩
  | cancel request =>
      simp only [Binder.execute]
      split <;> exact ⟨_, _, _, rfl, same⟩

theorem foldl_execute (alike : binder.Alike other) (effects : List Effect) :
    (effects.foldl Binder.execute binder).Alike (effects.foldl Binder.execute other) := by
  induction effects generalizing binder other with
  | nil => exact alike
  | cons effect rest ih => exact ih (alike.execute effect)

theorem process (alike : binder.Alike other) (message : Message α) :
    (binder.process message).1.Alike (other.process message).1 ∧
      (other.process message).2 = (binder.process message).2 := by
  have state := alike.state
  have update : ({ binder with state := (binder.state.update message).1 } : Binder α).Alike
      { other with state := (binder.state.update message).1 } := by
    obtain ⟨clock, log, alarm, rfl, same⟩ := alike
    exact ⟨_, _, _, rfl, same⟩
  have after := update.foldl_execute (binder.state.update message).2
  simp only [Binder.process, state]
  split
  · obtain ⟨clock, log, alarm, same, sameAlarm⟩ := after
    exact ⟨⟨clock, log, alarm, by simp only [same], sameAlarm⟩, rfl⟩
  · exact ⟨after, rfl⟩

theorem drive (alike : binder.Alike other) :
    binder.drive.1.Alike other.drive.1 ∧ other.drive.2 = binder.drive.2 := by
  have otherEnded := alike.ended
  have otherStopping := alike.stopping
  have otherQueue := alike.queue
  by_cases ended : binder.ended = true
  · rw [ended] at otherEnded
    simpa [Binder.drive, ended, otherEnded] using alike
  by_cases stopping : binder.stopping = true
  · rw [stopping] at otherStopping
    have driven : binder.drive = (binder.finish, none) := by
      simp [Binder.drive, ended, stopping]
    have otherDriven : other.drive = (other.finish, none) := by
      simp [Binder.drive, ended, otherEnded, otherStopping]
    rw [driven, otherDriven]
    obtain ⟨clock, log, alarm, rfl, same⟩ := alike
    exact ⟨⟨clock, log, none, rfl, rfl⟩, rfl⟩
  cases queue : binder.queue with
  | nil =>
      rw [queue] at otherQueue
      simpa [Binder.drive, ended, stopping, otherEnded, otherStopping, queue, otherQueue]
        using alike
  | cons message rest =>
      rw [queue] at otherQueue
      have taken : ({ binder with queue := rest } : Binder α).Alike
          { other with queue := rest } := by
        obtain ⟨clock, log, alarm, rfl, same⟩ := alike
        exact ⟨_, _, _, rfl, same⟩
      have driven : binder.drive = { binder with queue := rest }.process message := by
        simp [Binder.drive, ended, stopping, queue]
      have otherDriven : other.drive = { other with queue := rest }.process message := by
        simp [Binder.drive, otherEnded, otherStopping, ended, stopping, otherQueue]
      rw [driven, otherDriven]
      exact taken.process message

end Alike

/-- The loads with some numbers have been asked for, each once. -/
structure Expects (binder : Binder α) (requests : List RequestId) : Prop where
  distinct : requests.Nodup
  asked : ∀ request ∈ requests,
    ∃ fetch ∈ binder.fetches, fetch.request = request ∧ fetch.asked = true

/-- The fetches that have asked stay, apart from some. -/
theorem Expects.mono {binder after : Binder α} {requests fewer : List RequestId}
    (expects : binder.Expects requests) (sublist : fewer.Sublist requests)
    (stays : ∀ fetch ∈ binder.fetches, fetch.asked = true → fetch.request ∈ fewer →
      ∃ later ∈ after.fetches, later.request = fetch.request ∧ later.asked = true) :
    after.Expects fewer := by
  refine ⟨expects.distinct.sublist sublist, fun request member => ?_⟩
  obtain ⟨fetch, isFetch, rfl, asked⟩ := expects.asked request (sublist.subset member)
  exact stays fetch isFetch asked member

theorem exists_fetch_cancelFetch (request : RequestId) {fetches : List Fetch} {fetch : Fetch}
    (member : fetch ∈ fetches) :
    ∃ later ∈ cancelFetch request fetches,
      later.request = fetch.request ∧ later.asked = fetch.asked := by
  refine ⟨_, List.mem_map_of_mem member, ?_⟩
  split <;> exact ⟨rfl, rfl⟩

theorem exists_fetch_execute (effects : List Effect) {binder : Binder α} {fetch : Fetch}
    (member : fetch ∈ binder.fetches) :
    ∃ later ∈ (effects.foldl execute binder).fetches,
      later.request = fetch.request ∧ later.asked = fetch.asked := by
  induction effects generalizing binder fetch with
  | nil => exact ⟨fetch, member, rfl, rfl⟩
  | cons effect rest ih =>
      have first : ∃ later ∈ (binder.execute effect).fetches,
          later.request = fetch.request ∧ later.asked = fetch.asked := by
        cases effect with
        | load request query => exact ⟨fetch, List.mem_append_left _ member, rfl, rfl⟩
        | delay ticket milliseconds => exact ⟨fetch, member, rfl, rfl⟩
        | cancel request =>
            simp only [execute]
            split
            · exact exists_fetch_cancelFetch request member
            · exact ⟨fetch, member, rfl, rfl⟩
      obtain ⟨middle, isMiddle, request, asked⟩ := first
      obtain ⟨later, isLater, sameRequest, sameAsked⟩ := ih isMiddle
      exact ⟨later, isLater, sameRequest.trans request, sameAsked.trans asked⟩

/-- The driver leaves a fetch where it is; it can only cancel it. -/
theorem exists_fetch_drive {binder : Binder α} {fetch : Fetch}
    (member : fetch ∈ binder.fetches) :
    ∃ later ∈ binder.drive.1.fetches,
      later.request = fetch.request ∧ later.asked = fetch.asked := by
  cases next : binder.next? with
  | some message =>
      obtain ⟨_, _, rest, _, drive⟩ := drive_of_next next
      rw [drive]
      simp only [process]
      split <;> exact exists_fetch_execute _ member
  | none =>
      unfold next? at next
      by_cases ended : binder.ended
      · exact ⟨fetch, by simpa [drive, ended] using member, rfl, rfl⟩
      by_cases stopping : binder.stopping
      · simp only [drive, ended, stopping, finish, Bool.false_eq_true, if_true, if_false]
        split
        · exact exists_fetch_cancelFetch _ member
        · exact ⟨fetch, member, rfl, rfl⟩
      · have queue : binder.queue = [] := by simpa [ended, stopping] using next
        exact ⟨fetch, by simpa [drive, ended, stopping, queue] using member, rfl, rfl⟩

@[simp]
theorem fetches_post (binder : Binder α) (message : Message α) :
    (binder.post message).fetches = binder.fetches := by
  unfold post
  split <;> rfl

theorem fetches_answer (binder : Binder α) (request : RequestId) (result : Api.Result (Page α)) :
    (binder.answer request result).fetches =
      binder.fetches.filter fun fetch => fetch.request != request :=
  fetches_post (binder.withoutFetch request) (answerMessage request result)

theorem fetches_ring (binder : Binder α) : binder.ring.fetches = binder.fetches := by
  unfold ring
  split
  · exact fetches_post _ _
  · rfl

/-- An answer that is posted takes nothing from the other loads. -/
theorem Expects.post {binder : Binder α} {requests fewer : List RequestId} {request : RequestId}
    (expects : binder.Expects requests) (sublist : fewer.Sublist requests)
    (others : request ∉ fewer) (message : Message α) :
    ((binder.withoutFetch request).post message).Expects fewer := by
  refine expects.mono sublist fun fetch member asked expected => ⟨fetch, ?_, rfl, asked⟩
  have apart : fetch.request ≠ request := fun same => others (same ▸ expected)
  rw [fetches_post]
  exact List.mem_filter.mpr ⟨member, by simpa using apart⟩

end Binder

/-- A fetch that fulfils a condition is found, or another one of its load. -/
theorem Course.exists_fetch? {course : Course α} {fetch : Fetch} {condition : Fetch → Bool}
    (member : fetch ∈ course.binder.fetches) (holds : condition fetch = true) :
    ∃ found, course.fetch? fetch.request condition = some found := by
  rw [← Option.isSome_iff_exists, Course.fetch?, List.find?_isSome]
  exact ⟨fetch, member, by simp [holds]⟩

/-- What can be seen of an entry from outside. -/
def Entry.sight? : Entry α → Option (Sight α)
  | .asked _ parameters => some (.asked parameters)
  | .painted view => some (.painted view)
  | .issued _ | .answered _ _ | .retired _ | .taken _ _ => none

/-- What can be seen of a course from outside, the latest last. -/
def Course.seen (course : Course α) : List (Sight α) :=
  (course.past.filterMap Entry.sight?).reverse

/-- Of a step of the driver its frame is seen. -/
theorem Course.seen_drive (course : Course α) :
    (course.step .drive).seen = course.seen ++ course.binder.drive.2.toList.map .painted := by
  have issued : ∀ list : List Load,
      (list.map (Entry.issued (α := α))).filterMap Entry.sight? = [] := by
    simp [List.filterMap_eq_nil_iff, Entry.sight?]
  have taken : ∀ list : List (RequestId × Except LoadFailure (Page α)),
      (list.map fun answer => Entry.taken answer.1 answer.2).filterMap Entry.sight? = [] := by
    simp [List.filterMap_eq_nil_iff, Entry.sight?]
  have sights : course.binder.sights.filterMap Entry.sight? =
      course.binder.drive.2.toList.map .painted := by
    unfold Binder.sights
    rw [List.filterMap_append]
    split
    · rw [List.filterMap_append, issued, taken, List.append_nil, List.append_nil]
      cases course.binder.drive.2 <;> rfl
    · cases course.binder.drive.2 <;> rfl
  change ((course.binder.sights ++ course.past).filterMap Entry.sight?).reverse = _
  rw [List.filterMap_append, sights, List.reverse_append]
  cases course.binder.drive.2 <;> rfl

namespace Timeline

/-- A run has come as far as a course: but for the time they are the same, and they show the
same. -/
structure Follows (run : Timeline σ α) (course : Course α) : Prop where
  binder : run.binder.Alike course.binder
  seen : run.seen.map Prod.snd = course.seen

/-- A run follows a course, some answers are about to be taken and others are on their way, and
the numbers of loads do not come round again if the user does no more than so many things. -/
structure Tracks (run : Timeline σ α) (course : Course α) (due : List (Arrival α))
    (left : Nat) : Prop where
  follows : run.Follows course
  numbered : Numbered course
  room : (loads course.past).length + course.binder.ahead + left < UInt64.size
  expects : course.binder.Expects ((due ++ run.arrivals).map Arrival.request)

/-- A run can be reached from a course by more events. -/
def Comes (run : Timeline σ α) (course : Course α) (due : List (Arrival α)) (left : Nat) :
    Prop :=
  ∃ events, run.Tracks (course.run events) due left

variable {run after : Timeline σ α} {course : Course α} {due : List (Arrival α)} {left : Nat}

theorem Tracks.comes (tracks : run.Tracks course due left) : run.Comes course due left :=
  ⟨[], tracks⟩

theorem Comes.trans {later : List (Arrival α)} {fewer : Nat} (comes : run.Comes course due left)
    (onward : ∀ {next : Course α}, run.Tracks next due left → after.Comes next later fewer) :
    after.Comes course later fewer := by
  obtain ⟨events, tracks⟩ := comes
  obtain ⟨more, still⟩ := onward tracks
  exact ⟨events ++ more, by rwa [Course.run, List.foldl_append]⟩

namespace Tracks

/-- By an event that is no action a run comes on. -/
theorem next (tracks : run.Tracks course due left) {event : Event α}
    (quiet : event.isAct = false) (follows : after.Follows (course.step event))
    {later : List (Arrival α)}
    (expects : (course.step event).binder.Expects ((later ++ after.arrivals).map Arrival.request)) :
    after.Comes course later left := by
  refine ⟨[event], follows, tracks.numbered.step event, ?_, expects⟩
  have fewer := course.loads_step_le event
  have room := tracks.room
  rw [quiet] at fewer
  change (loads (course.step event).past).length + (course.step event).binder.ahead + left < _
  simp only [Bool.false_eq_true, if_false] at fewer
  omega

/-- As long as the numbers of loads do not come round again, no two fetches are for the same
load. -/
theorem distinct (tracks : run.Tracks course due left) :
    (run.binder.fetches.map Fetch.request).Nodup := by
  have once := tracks.numbered.once (by have room := tracks.room; omega)
  have carried : (course.binder.carried.map Prod.fst).Nodup :=
    once.sublist ((List.sublist_append_right _ _).trans (List.sublist_append_right _ _))
  rw [← tracks.follows.binder.fetches]
  simpa [Binder.carried, Function.comp_def] using carried

end Tracks

end Timeline

end UtilityBilling.Table
