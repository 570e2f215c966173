/-
# A table that is told to stop

The user may stop a table, or let go of it, while messages wait in the queue, loads are
under way, and a delayed search is set or has just gone off. From then on the driver takes
nothing from its queue any more, so that its next step is its last one. What goes on outside
the driver comes to its end without it: a fetch under way may still ask its source and post
its answer, which nobody takes. The invariant is what one event can do once the driver has
been told to stop.
-/

import UtilityBilling.Proofs.Table.InStep

namespace UtilityBilling.Table

variable {α : Type}

/-- An entry that is not about the driver, but about one of the loads under way. -/
def Entry.Outside (carried : List (RequestId × List Parameter)) : Entry α → Prop
  | .asked request parameters => (request, parameters) ∈ carried
  | .answered request _ => request ∈ carried.map Prod.fst
  | .retired request => request ∈ carried.map Prod.fst
  | .issued _ => False
  | .taken _ _ => False
  | .painted _ => False

/-- What can become of a table once its driver has been told to stop: its state stays, no
alarm is set, no load begins, and no cancelled load comes to life again. -/
structure Halts (stopped after : Course α) : Prop where
  stopping : after.binder.stopping = true
  state : after.binder.state = stopped.binder.state
  alarm : after.binder.alarm = stopped.binder.alarm ∨ after.binder.alarm = none
  carried : after.binder.carried.Sublist stopped.binder.carried
  live : after.binder.live.Sublist stopped.binder.live
  past : ∃ more, after.past = more ++ stopped.past ∧
    ∀ entry ∈ more, entry.Outside stopped.binder.carried
  /-- What the user does after the end goes nowhere. -/
  queue : stopped.binder.ended = true → after.binder.queue.Sublist stopped.binder.queue

namespace Binder

/-- A driver that was told to stop takes no message. -/
theorem next?_of_stopping {binder : Binder α} (stopping : binder.stopping = true) :
    binder.next? = none := by
  simp [next?, stopping]

/-- When a driver that was told to stop takes its next step, that is its end. -/
theorem drive_of_stopping {binder : Binder α} (ended : binder.ended = false)
    (stopping : binder.stopping = true) : binder.drive = (binder.finish, none) := by
  simp [drive, ended, stopping]

/-- At its end the driver cancels the token that it holds. -/
theorem tokens_finish (binder : Binder α) :
    binder.finish.tokens =
      match binder.inFlight with
      | some request => cancelToken request binder.tokens
      | none => binder.tokens := by
  simp only [finish, tokens]
  cases binder.inFlight with
  | none => rfl
  | some request => exact tokens_cancelFetch request binder.fetches

theorem carried_finish (binder : Binder α) : binder.finish.carried = binder.carried := by
  simp only [finish, carried]
  cases binder.inFlight <;> simp

/-- Cancelling a fetch brings none to life. -/
theorem live_cancelFetch_sublist (request : RequestId) (fetches : List Fetch) :
    (((cancelFetch request fetches).filter fun fetch => !fetch.cancelled).map
      Fetch.request).Sublist
        ((fetches.filter fun fetch => !fetch.cancelled).map Fetch.request) := by
  induction fetches with
  | nil => exact .refl _
  | cons fetch rest ih =>
      simp only [cancelFetch, List.map_cons] at ih ⊢
      by_cases belongs : fetch.request = request
      · rw [if_pos belongs, List.filter_cons_of_neg (by simp)]
        refine ih.trans (List.Sublist.map _ ?_)
        exact (List.sublist_cons_self _ _).filter _
      · rw [if_neg belongs]
        cases standing : fetch.cancelled with
        | true => simpa [standing] using ih
        | false => simpa [standing] using ih

theorem live_finish_sublist (binder : Binder α) : binder.finish.live.Sublist binder.live := by
  simp only [finish, live]
  cases binder.inFlight with
  | none => exact .refl _
  | some request => exact live_cancelFetch_sublist request binder.fetches

@[simp]
theorem live_ask (binder : Binder α) (request : RequestId) :
    (binder.ask request).live = binder.live := by
  simp only [live, ask, List.filter_map, List.map_map]
  have same : ((fun fetch : Fetch => !fetch.cancelled) ∘ fun fetch =>
      if fetch.request = request then { fetch with asked := true } else fetch) =
        fun fetch => !fetch.cancelled := by
    funext fetch
    simp only [Function.comp_apply]
    split <;> rfl
  rw [same]
  apply List.map_congr_left
  intro fetch _
  simp only [Function.comp_apply]
  split <;> rfl

@[simp]
theorem post_stopping (binder : Binder α) (message : Message α) :
    (binder.post message).stopping = binder.stopping := by
  unfold post
  split <;> rfl

@[simp]
theorem post_alarm (binder : Binder α) (message : Message α) :
    (binder.post message).alarm = binder.alarm := by
  unfold post
  split <;> rfl

@[simp]
theorem post_live (binder : Binder α) (message : Message α) :
    (binder.post message).live = binder.live := by
  unfold post
  split <;> rfl

theorem live_withoutFetch_sublist (binder : Binder α) (request : RequestId) :
    (binder.withoutFetch request).live.Sublist binder.live :=
  (List.filter_sublist.filter _).map _

end Binder

namespace Halts

variable {stopped course : Course α}

theorem refl (stopping : stopped.binder.stopping = true) : Halts stopped stopped where
  stopping := stopping
  state := rfl
  alarm := .inl rfl
  carried := .refl _
  live := .refl _
  past := ⟨[], rfl, by simp⟩
  queue := fun _ => .refl _

/-- What was outside the driver for the loads that are left is so for all. -/
theorem outside_mono {entry : Entry α} {some all : List (RequestId × List Parameter)}
    (fewer : some.Sublist all) (outside : entry.Outside some) : entry.Outside all := by
  cases entry with
  | asked request parameters => exact fewer.subset outside
  | answered request result => exact (fewer.map Prod.fst).subset outside
  | retired request => exact (fewer.map Prod.fst).subset outside
  | issued load => exact outside
  | taken request outcome => exact outside
  | painted view => exact outside

theorem trans {middle after : Course α} (first : Halts stopped middle)
    (second : Halts middle after) (ended : stopped.binder.ended = true →
      middle.binder.ended = true) : Halts stopped after where
  stopping := second.stopping
  state := second.state.trans first.state
  alarm := by
    rcases second.alarm with kept | gone
    · rw [kept]; exact first.alarm
    · exact .inr gone
  carried := second.carried.trans first.carried
  live := second.live.trans first.live
  past := by
    obtain ⟨early, past, outside⟩ := first.past
    obtain ⟨late, pastThen, outsideThen⟩ := second.past
    refine ⟨late ++ early, by rw [pastThen, past, List.append_assoc], ?_⟩
    intro entry member
    rcases List.mem_append.mp member with isLate | isEarly
    · exact outside_mono first.carried (outsideThen entry isLate)
    · exact outside entry isEarly
  queue := fun finished => (second.queue (ended finished)).trans (first.queue finished)

/-- A fetch that is over posts its outcome, which a driver that has ended does not get. -/
theorem posts (stopping : course.binder.stopping = true) (request : RequestId)
    (message : Message α) (log : List Log.Record) {entry : Entry α}
    (about : entry.Outside course.binder.carried) :
    Halts course
      { binder := { (course.binder.withoutFetch request).post message with log := log }
        past := entry :: course.past } where
  stopping := (Binder.post_stopping _ _).trans stopping
  state := Binder.post_state _ _
  alarm := .inl (Binder.post_alarm _ _)
  carried := by
    have left := (Binder.post_carried (course.binder.withoutFetch request) message).trans
      (Course.carried_withoutFetch course.binder request)
    exact left ▸ List.filter_sublist
  live := by
    have left := Binder.post_live (course.binder.withoutFetch request) message
    exact left ▸ course.binder.live_withoutFetch_sublist request
  past := ⟨[entry], rfl, by simpa using about⟩
  queue := by
    intro ended
    have same := Binder.post_queue (course.binder.withoutFetch request) message
    rw [show (course.binder.withoutFetch request).ended = true from ended] at same
    exact same ▸ .refl _

/-- What one event can do once the driver has been told to stop. -/
theorem of_step (stopping : course.binder.stopping = true) (event : Event α) :
    Halts course (course.step event) := by
  cases event with
  | act action =>
      simp only [Course.step, Binder.send]
      split
      · exact { refl stopping with }
      case isFalse running =>
        exact { refl stopping with queue := fun ended => absurd ended running }
  | stop => exact { refl stopping with stopping := rfl }
  | vary extras => exact { refl stopping with }
  | wait milliseconds => exact { refl stopping with }
  | drive =>
      have sights : course.binder.sights = [] := by
        have rests := Binder.rests_of_next (Binder.next?_of_stopping stopping)
        simp [Binder.sights, Binder.next?_of_stopping stopping, rests.painted]
      cases ended : course.binder.ended with
      | true =>
          have same : course.step .drive = course := by
            simp [Course.step, Binder.drive, ended, sights]
          rw [same]
          exact refl stopping
      | false =>
          have last : course.step .drive = { course with binder := course.binder.finish } := by
            simp [Course.step, Binder.drive_of_stopping ended stopping, sights]
          rw [last]
          exact
            { refl stopping with
              stopping := stopping
              state := rfl
              alarm := .inr rfl
              carried := course.binder.carried_finish ▸ .refl _
              live := course.binder.live_finish_sublist
              past := ⟨[], rfl, by simp⟩
              queue := fun _ => List.nil_sublist _ }
  | ask request =>
      simp only [Course.step]
      cases found : course.fetch? request fun fetch => !fetch.asked with
      | none => exact refl stopping
      | some fetch =>
          exact
            { refl stopping with
              carried := course.binder.carried_ask request ▸ .refl _
              live := course.binder.live_ask request ▸ .refl _
              past := ⟨[_], rfl, by
                simpa [Entry.Outside] using Course.mem_carried_of_fetch? found⟩ }
  | answer request result =>
      simp only [Course.step]
      cases found : course.fetch? request Fetch.asked with
      | none => exact refl stopping
      | some fetch =>
          have member : request ∈ course.binder.carried.map Prod.fst :=
            List.mem_map_of_mem (Course.mem_carried_of_fetch? found)
          exact posts stopping request _ _ member
  | retire request =>
      simp only [Course.step]
      cases found : course.fetch? request Fetch.cancelled with
      | none => exact refl stopping
      | some fetch =>
          have member : request ∈ course.binder.carried.map Prod.fst :=
            List.mem_map_of_mem (Course.mem_carried_of_fetch? found)
          exact posts stopping request _ _ member
  | ring =>
      simp only [Course.step, Binder.ring]
      split
      case h_2 => exact refl stopping
      case h_1 alarm set =>
        simp only [Binder.post]
        split
        · exact { refl stopping with alarm := .inr rfl }
        case isFalse running =>
          exact
            { refl stopping with
              alarm := .inr rfl
              queue := fun ended => absurd ended running }

/-- What any events can do once the driver has been told to stop. -/
theorem of_run (stopping : stopped.binder.stopping = true) (events : List (Event α)) :
    Halts stopped (stopped.run events) ∧
      (stopped.binder.ended = true → (stopped.run events).binder.ended = true) := by
  let holds (course : Course α) : Prop :=
    Halts stopped course ∧ (stopped.binder.ended = true → course.binder.ended = true)
  have kept (course : Course α) (before : holds course) (event : Event α)
      (_ : event ∈ events) : holds (course.step event) := by
    obtain ⟨halts, ended⟩ := before
    exact ⟨halts.trans (of_step halts.stopping event) ended,
      fun finished => Course.ended_step (ended finished) event⟩
  exact List.foldlRecOn (motive := holds) events Course.step ⟨refl stopping, id⟩ kept

end Halts

/-- At its end the driver has the token of the load in flight, and cancels it. -/
theorem revoked_at_end {course : Course α} (inStep : InStep course.binder)
    (ended : course.binder.ended = false) (stopping : course.binder.stopping = true)
    {request : RequestId} (inFlight : course.binder.state.inFlight = some request) :
    request ∈ course.revokedBy .drive ∧ request ∉ course.binder.finish.live := by
  have held := inStep.holds request inFlight
  constructor
  · simp [Course.revokedBy, Binder.revokes, Binder.next?_of_stopping stopping, stopping, ended,
      held]
  · rw [Binder.mem_live_iff, Binder.tokens_finish, held]
    intro member
    rcases mem_cancelToken member with ⟨_, impossible⟩ | ⟨other, _⟩
    · cases impossible
    · exact other rfl

/-- Where the only live load is the one in flight, none is left at the end. -/
theorem live_finish_eq_nil {course : Course α} {revoked : List RequestId}
    (exclusive : Exclusive course revoked) (inStep : InStep course.binder)
    (ended : course.binder.ended = false) (stopping : course.binder.stopping = true) :
    course.binder.finish.live = [] := by
  apply List.eq_nil_iff_forall_not_mem.mpr
  intro request member
  have before := course.binder.live_finish_sublist.subset member
  have inFlight := exclusive.live request (Binder.mem_live_iff.mp before)
  exact (revoked_at_end inStep ended stopping inFlight).2 member

/-- A stop is final. From the moment at which the driver of a table is told to stop,
whatever waits in its queue and whatever runs beside it, the driver takes no message and the
state of the table stays; no alarm is set, no load is issued, no answer taken and nothing
painted; and the source is asked only for loads that were under way at that moment. The next
step of the driver is its end: the token of the load in flight is cancelled, the alarm is off
and what waits in the queue is gone, all of it for good. As long as the numbers of loads do
not come round again, no load is left whose token is not cancelled. -/
theorem stop_is_final (endpoint : String) (config : Config) (extras : List Parameter)
    (before after : List (Event α)) :
    let stopped := ((Course.start endpoint config extras).run before).step .stop
    let course := stopped.run after
    course.binder.next? = none ∧ course.binder.state = stopped.binder.state ∧
      (course.binder.alarm = stopped.binder.alarm ∨ course.binder.alarm = none) ∧
      (∃ more, course.past = more ++ stopped.past ∧
        loads more = [] ∧ takenRequests more = [] ∧ views more = [] ∧
        ∀ request parameters, .asked request parameters ∈ more →
          (request, parameters) ∈ stopped.binder.carried) ∧
      (course.binder.ended = false → ∀ later,
        let finished := (course.step .drive).run later
        finished.binder.ended = true ∧ finished.binder.alarm = none ∧ finished.binder.queue = [] ∧
        (∀ request, course.binder.state.inFlight = some request →
          request ∈ course.revokedBy .drive ∧ request ∉ finished.binder.live) ∧
        ((loads course.past).length < UInt64.size → finished.binder.live = [])) := by
  intro stopped course
  have told : stopped.binder.stopping = true := rfl
  obtain ⟨halts, _⟩ := Halts.of_run told after
  obtain ⟨more, past, outside⟩ := halts.past
  have nothing {β : Type} (part : Entry α → Option β)
      (driver : ∀ entry carried, entry.Outside carried → part entry = none) :
      more.filterMap part = [] := by
    refine List.filterMap_eq_nil_iff.mpr fun entry member => ?_
    exact driver entry _ (outside entry member)
  refine ⟨Binder.next?_of_stopping halts.stopping, halts.state, halts.alarm,
    ⟨more, past, ?_, ?_, ?_, ?_⟩, ?_⟩
  · apply nothing
    intro entry carried isOutside
    cases entry with
    | issued load => exact isOutside.elim
    | _ => rfl
  · apply nothing
    intro entry carried isOutside
    cases entry with
    | taken request outcome => exact isOutside.elim
    | _ => rfl
  · apply nothing
    intro entry carried isOutside
    cases entry with
    | painted view => exact isOutside.elim
    | _ => rfl
  · intro request parameters member
    exact outside _ member
  · intro ended later finished
    have events : course =
        (Course.start endpoint config extras).run (before ++ .stop :: after) := by
      simp [course, stopped, Course.run]
    have inStep : InStep course.binder := by
      rw [events] at ended ⊢
      exact InStep.run (fun _ => .start endpoint config extras) _ ended
    have last : (course.step .drive).binder = course.binder.finish := by
      simp [Course.step, Binder.drive_of_stopping ended halts.stopping]
    have stillTold : (course.step .drive).binder.stopping = true := by
      rw [last]
      exact halts.stopping
    obtain ⟨rests, stays⟩ := Halts.of_run stillTold later
    have isOver : (course.step .drive).binder.ended = true := by rw [last]; rfl
    have fewer : finished.binder.live.Sublist course.binder.finish.live := last ▸ rests.live
    refine ⟨stays isOver, ?_, ?_, ?_, ?_⟩
    · have off : (course.step .drive).binder.alarm = none := by rw [last]; rfl
      rcases rests.alarm with kept | gone
      · exact kept.trans off
      · exact gone
    · have gone : (course.step .drive).binder.queue = [] := by rw [last]; rfl
      have left := rests.queue isOver
      rw [gone] at left
      exact List.sublist_nil.mp left
    · intro request inFlight
      obtain ⟨revoked, dead⟩ := revoked_at_end inStep ended halts.stopping inFlight
      exact ⟨revoked, fun alive => dead (fewer.subset alive)⟩
    · intro bounded
      obtain ⟨revoked, exclusive⟩ : ∃ revoked, Exclusive course revoked := by
        rw [events] at ended bounded ⊢
        exact ⟨_, Exclusive.run (.start endpoint config extras)
          (fun _ => .start endpoint config extras)
          (fun _ _ => .start endpoint config extras) _ ended bounded⟩
      rw [live_finish_eq_nil exclusive inStep ended halts.stopping] at fewer
      exact List.sublist_nil.mp fewer

namespace Dropped

/-- A page is on the way, a search is delayed, and the user asks for the page again. -/
def before : List (Event Nat) :=
  [.drive, .ask ⟨1⟩, .act (.search "a"), .drive, .act .refresh]

/-- The table when the user lets go of it. -/
def stopped : Course Nat := ((Course.start "/items" {} []).run before).step .stop

/-- The user has turned a page, and the delay of the search is over. -/
def course : Course Nat := stopped.run [.act (.page 1), .ring]

/-- The driver has ended, and the page has come. -/
def finished : Course Nat :=
  (course.step .drive).run [.act .refresh, .answer ⟨1⟩ (.ok ⟨[10], 1⟩), .drive]

end Dropped

/-- A table is let go of with a page on the way, a delayed search and a message in its queue:
the search goes off and the page comes, but no second page is asked for, nothing is painted,
and the token of the one load is cancelled. -/
theorem stop_is_final_dropped :
    Dropped.course.binder.queue.length = 3 ∧ Dropped.course.binder.ended = false ∧
      Dropped.course.binder.state.inFlight = some ⟨1⟩ ∧
      (loads Dropped.course.past).length < UInt64.size ∧
      Dropped.course.binder.next? = none ∧
      Dropped.finished.binder.ended = true ∧ Dropped.finished.binder.alarm = none ∧
      Dropped.finished.binder.queue = [] ∧
      ⟨1⟩ ∈ Dropped.course.revokedBy .drive ∧ Dropped.finished.binder.live = [] := by
  have running : Dropped.course.binder.ended = false := by decide
  have inFlight : Dropped.course.binder.state.inFlight = some ⟨1⟩ := by decide
  have few : (loads Dropped.course.past).length < UInt64.size := by decide
  obtain ⟨rests, _, _, _, ends⟩ :=
    stop_is_final "/items" {} [] Dropped.before [.act (.page 1), .ring]
  obtain ⟨ended, alarm, queue, revoked, live⟩ :=
    ends running [.act .refresh, .answer ⟨1⟩ (.ok ⟨[10], 1⟩), .drive]
  exact ⟨by decide, running, inFlight, few, rests, ended, alarm, queue,
    (revoked ⟨1⟩ inFlight).1, live few⟩

end UtilityBilling.Table
