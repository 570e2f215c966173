/-
# The answer to the load in flight

When the source answers the load in flight, the answer waits in the queue of the driver. From
there it has one of three fates: it still waits, or the driver has heard it out, or a newer
load was issued before. Which of them an event can bring about is told by the five ways in
which it can change a course. As long as no newer load is issued the answer is painted in one
frame, or not at all if it counts as a cancellation, and a driver that runs comes to it.
-/

import UtilityBilling.Proofs.Api.Call
import UtilityBilling.Proofs.Table.InStep

namespace UtilityBilling.Table

variable {α : Type}

/-- The body that shows the outcome of a load; nothing shows a cancellation. -/
def bodyOf? : Except LoadFailure (Page α) → Option (Body α)
  | .ok page => some (Body.ofItems page.items)
  | .error (.error message) => some (.failed message)
  | .error .cancelled => none

/-- The body that shows an answer of the source. -/
def bodyOf : Api.Result (Page α) → Body α
  | .ok page => Body.ofItems page.items
  | .error error => .failed error.message

/-- An answer is shown unless it counts as a cancellation. -/
theorem bodyOf?_outcomeOf {result : Api.Result (Page α)} (ordinary : Api.Ordinary result) :
    bodyOf? (outcomeOf result) = some (bodyOf result) := by
  cases result with
  | ok page => rfl
  | error error =>
      obtain ⟨standing, kept⟩ := Api.ordinary_error_iff.mp ordinary
      rw [outcomeOf, if_neg (not_or.mpr ⟨kept, standing⟩)]
      rfl

/-- What is painted of the outcome of a load has the body that shows it. -/
theorem body_take (state : State α) (outcome : Except LoadFailure (Page α)) :
    ((visible? outcome).map fun _ => (state.take outcome).settled.view).map View.body =
      bodyOf? outcome := by
  match outcome with
  | .ok page => rfl
  | .error (.error message) => rfl
  | .error .cancelled => rfl

/-- What has become of the outcome of a load that was in flight. -/
inductive Fate (before : Course α) (request : RequestId)
    (outcome : Except LoadFailure (Page α)) (course : Course α) : Prop where
  /-- It waits, or is lost with the queue; nothing was painted since. -/
  | waits (inFlight : course.binder.state.inFlight = some request)
      (issued : loads course.past = loads before.past)
      (painted : views course.past = views before.past)
      (gone : request ∉ course.binder.carried.map Prod.fst)
      (queued : ∀ other, (request, other) ∈ course.binder.answers → other = outcome)
  /-- The driver has heard it out, and painted what is to be seen of it. -/
  | heard (inFlight : course.binder.state.inFlight = none)
      (issued : loads course.past = loads before.past)
      (painted : ∃ frame? : Option (View α),
        views course.past = frame?.toList ++ views before.past ∧
          frame?.map View.body = bodyOf? outcome)
  | replaced (more : (loads before.past).length < (loads course.past).length)

namespace Fate

variable {before course : Course α} {request : RequestId}
  {outcome : Except LoadFailure (Page α)}

/-- An outcome that waits is heard out when the driver takes it. -/
theorem take {after : Course α} (issued : loads course.past = loads before.past)
    (shown : views course.past = views before.past)
    (state : after.binder.state = (course.binder.state.take outcome).settled)
    (past : after.past =
      ((visible? outcome).map fun _ =>
        (course.binder.state.take outcome).settled.view).toList.map .painted ++
      .taken request outcome :: course.past) : Fate before request outcome after := by
  have body := body_take course.binder.state outcome
  generalize (visible? outcome).map (fun _ => (course.binder.state.take outcome).settled.view) =
    frame? at past body
  apply Fate.heard
  · rw [state]
    exact State.take_inFlight _ _
  · rw [past, ← issued]
    cases frame? <;> rfl
  · refine ⟨frame?, ?_, body⟩
    rw [past, ← shown]
    cases frame? <;> rfl

/-- An event leaves an outcome that waits waiting, or hears it out, or issues a newer load. -/
theorem step_waits (clean : course.binder.state.dirty = false)
    (inFlight : course.binder.state.inFlight = some request)
    (issued : loads course.past = loads before.past)
    (painted : views course.past = views before.past)
    (gone : request ∉ course.binder.carried.map Prod.fst)
    (queued : ∀ other, (request, other) ∈ course.binder.answers → other = outcome)
    (event : Event α) : Fate before request outcome (course.step event) := by
  cases Course.step_changes clean event with
  | quiet state carried answers past =>
      refine .waits (state.inFlight.trans inFlight) ?_ ?_ (carried ▸ gone) ?_
      · rw [past, issued]
      · rw [past, painted]
      · exact fun other member => queued other (answers.subset member)
  | asks _ state carried answers past =>
      refine .waits (state ▸ inFlight) ?_ ?_ (carried ▸ gone) (answers ▸ queued)
      · rw [past]; exact issued
      · rw [past]; exact painted
  | @posts posted entry result origin member state carried answers past =>
      have apart : posted ≠ request := fun same => gone (same ▸ member)
      refine .waits (state ▸ inFlight) ?_ ?_ ?_ ?_
      · rw [past, ← issued]
        cases origin <;> rfl
      · rw [past, ← painted]
        cases origin <;> rfl
      · rw [carried]
        exact fun still => gone ((List.filter_sublist.map Prod.fst).subset still)
      · intro other waiting
        rcases answers with same | more
        · exact queued other (same ▸ waiting)
        · rw [more, List.mem_append, List.mem_singleton] at waiting
          refine waiting.elim (queued other) fun new => ?_
          exact absurd (congrArg Prod.fst new).symm apart
  | issues _ _ _ _ _ _ _ _ past =>
      apply Fate.replaced
      rw [past, ← issued]
      exact Nat.lt_succ_self _
  | @takes answered result shown hears carried answers past =>
      cases hears with
      | stale other state =>
          refine .waits (state ▸ inFlight) ?_ ?_ (carried ▸ gone) ?_
          · rw [past]; exact issued
          · rw [past]; exact painted
          · exact fun other member => queued other (answers ▸ List.mem_cons_of_mem _ member)
      | accepts own state =>
          obtain rfl : request = answered := Option.some.inj (inFlight.symm.trans own)
          obtain rfl : result = outcome := queued result (answers ▸ List.mem_cons_self)
          exact take issued painted state past

/-- After an outcome was heard out nothing more is painted until a newer load is issued. -/
theorem step_heard (clean : course.binder.state.dirty = false)
    (inFlight : course.binder.state.inFlight = none)
    (issued : loads course.past = loads before.past)
    (painted : ∃ frame? : Option (View α),
      views course.past = frame?.toList ++ views before.past ∧
        frame?.map View.body = bodyOf? outcome)
    (event : Event α) : Fate before request outcome (course.step event) := by
  cases Course.step_changes clean event with
  | quiet state _ _ past =>
      exact .heard (state.inFlight.trans inFlight) (by rw [past, issued]) (past ▸ painted)
  | asks _ state _ _ past =>
      refine .heard (state ▸ inFlight) ?_ ?_
      · rw [past]; exact issued
      · rw [past]; exact painted
  | posts origin _ state _ _ past =>
      refine .heard (state ▸ inFlight) ?_ ?_
      · rw [past, ← issued]
        cases origin <;> rfl
      · rw [past]
        cases origin <;> exact painted
  | issues _ _ _ _ _ _ _ _ past =>
      apply Fate.replaced
      rw [past, ← issued]
      exact Nat.lt_succ_self _
  | takes hears _ _ past =>
      cases hears with
      | stale _ state =>
          refine .heard (state ▸ inFlight) ?_ ?_
          · rw [past]; exact issued
          · rw [past]; exact painted
      | accepts own _ =>
          rw [inFlight] at own
          cases own

/-- Every event leaves the outcome to one of its fates. -/
theorem step (clean : course.binder.state.dirty = false)
    (fate : Fate before request outcome course) (event : Event α) :
    Fate before request outcome (course.step event) := by
  cases fate with
  | waits inFlight issued painted gone queued =>
      exact step_waits clean inFlight issued painted gone queued event
  | heard inFlight issued painted => exact step_heard clean inFlight issued painted event
  | replaced more =>
      exact .replaced (Nat.lt_of_lt_of_le more (loads_sublist_step course event).length_le)

theorem run (numbered : Numbered course) (fate : Fate before request outcome course)
    (events : List (Event α)) : Fate before request outcome (course.run events) := by
  let holds (course : Course α) : Prop :=
    Numbered course ∧ Fate before request outcome course
  have kept (course : Course α) (inTime : holds course) (event : Event α)
      (_ : event ∈ events) : holds (course.step event) :=
    ⟨inTime.1.step event, inTime.2.step inTime.1.clean event⟩
  exact (List.foldlRecOn (motive := holds) events Course.step ⟨numbered, fate⟩ kept).2

/-- The answer to the load in flight waits at first. -/
theorem of_answer (numbered : Numbered course)
    (bounded : (loads course.past).length < UInt64.size)
    (inFlight : course.binder.state.inFlight = some request) {fetch : Fetch}
    (asked : course.fetch? request Fetch.asked = some fetch)
    (result : Api.Result (Page α)) :
    Fate course request (outcomeOf result) (course.step (.answer request result)) := by
  have member : request ∈ course.binder.carried.map Prod.fst :=
    List.mem_map_of_mem (Course.mem_carried_of_fetch? asked)
  have apart := (List.nodup_append.mp (List.nodup_append.mp (numbered.once bounded)).2.1).2.2
  have answers : (course.binder.answer request result).answers = course.binder.answers ∨
      (course.binder.answer request result).answers =
        course.binder.answers ++ [(request, outcomeOf result)] :=
    Binder.answers_of_post (Binder.post_queue _ _) (answer?_answerMessage _ _)
  have carried : (course.binder.answer request result).carried =
      course.binder.carried.filter fun load => load.1 != request :=
    (Binder.post_carried _ _).trans (Course.carried_withoutFetch _ _)
  simp only [Course.step, asked]
  refine .waits ((Binder.post_state _ _).symm ▸ inFlight) rfl rfl ?_ ?_
  · simp [carried]
  · intro other waiting
    rcases answers with same | more
    · have queued : request ∈ course.binder.answers.map Prod.fst :=
        List.mem_map_of_mem (same ▸ waiting)
      exact absurd rfl (apart request queued request member)
    · rw [more, List.mem_append, List.mem_singleton] at waiting
      rcases waiting with old | new
      · exact absurd rfl (apart request (List.mem_map_of_mem old) request member)
      · exact congrArg Prod.snd new

/-- An outcome does not wait for a driver that runs and has nothing left in its queue. -/
theorem heard_of_idle (fate : Fate before request outcome course)
    (inStep : InStep course.binder) (queue : course.binder.queue = [])
    (issued : loads course.past = loads before.past) :
    course.binder.state.inFlight = none := by
  cases fate with
  | waits inFlight _ _ gone _ =>
      have queued : request ∉ course.binder.answers.map Prod.fst := by
        simp [Binder.answers, queue]
      have runs := (inStep.awaited request inFlight).resolve_right queued
      exact absurd (course.binder.live_sublist.subset (Binder.mem_live_iff.mpr runs)) gone
  | heard inFlight _ _ => exact inFlight
  | replaced more => exact absurd (issued ▸ more) (Nat.lt_irrefl _)

end Fate

/-- A table hears the answer of its source to the load in flight: as long as no newer load is
issued, the answer either waits, with nothing painted since, or was taken and painted, in one
frame with the body or not at all; and a driver that goes on takes it. -/
structure HearsOut (course : Course α) (request : RequestId) (result : Api.Result (Page α))
    (body? : Option (Body α)) : Prop where
  painted : ∀ later, let after := (course.step (.answer request result)).run later
    loads after.past = loads course.past →
      (after.binder.state.inFlight = some request ∧ views after.past = views course.past) ∨
        (after.binder.state.inFlight = none ∧
          ∃ frame? : Option (View α), views after.past = frame?.toList ++ views course.past ∧
            frame?.map View.body = body?)
  inTime : ∀ later, let after := (course.step (.answer request result)).run later
    after.binder.Running → loads after.drained.past = loads course.past →
      after.drained.binder.state.inFlight = none

/-- What a driver that goes on paints of the answer. -/
theorem HearsOut.drained {course : Course α} {request : RequestId}
    {result : Api.Result (Page α)} {body? : Option (Body α)}
    (hears : HearsOut course request result body?) (later : List (Event α)) :
    let after := (course.step (.answer request result)).run later
    after.binder.Running → loads after.drained.past = loads course.past →
      ∃ frame? : Option (View α), views after.drained.past = frame?.toList ++ views course.past ∧
        frame?.map View.body = body? := by
  intro after running issued
  have none : after.drained.binder.state.inFlight = none := hears.inTime later running issued
  have all := hears.painted (later ++ List.replicate after.binder.queue.length .drive)
  rw [Course.run, List.foldl_append] at all
  rcases all issued with ⟨waits, _⟩ | ⟨_, painted⟩
  · exact nomatch none.symm.trans waits
  · exact painted

/-- Every table hears the answer to its load in flight. -/
theorem hearsOut {endpoint : String} {config : Config} {extras : List Parameter}
    {events : List (Event α)} {request : RequestId} {fetch : Fetch} :
    let course := (Course.start endpoint config extras).run events
    (loads course.past).length < UInt64.size → course.binder.state.inFlight = some request →
      course.fetch? request Fetch.asked = some fetch →
        ∀ result, HearsOut course request result (bodyOf? (outcomeOf result)) := by
  intro course bounded inFlight asked result
  have numbered : Numbered course := .run endpoint config extras events
  have fate (later : List (Event α)) : Fate course request (outcomeOf result)
      ((course.step (.answer request result)).run later) :=
    (Fate.of_answer numbered bounded inFlight asked result).run (numbered.step _) later
  constructor
  · intro later after issued
    cases fate later with
    | waits inFlight _ painted _ _ => exact .inl ⟨inFlight, painted⟩
    | heard inFlight _ painted => exact .inr ⟨inFlight, painted⟩
    | replaced more => exact absurd (issued ▸ more) (Nat.lt_irrefl _)
  · intro later after running issued
    have inStep : InStep after.binder := by
      have whole : after = (Course.start endpoint config extras).run
          (events ++ .answer request result :: later) := by
        simp [after, course, Course.run]
      rw [whole] at running ⊢
      exact InStep.run (fun _ => .start endpoint config extras) _ running.1
    obtain ⟨_, inStepStill, queue⟩ := Course.drained_idle running inStep
    have drained : Fate course request (outcomeOf result) after.drained := by
      have all := fate (later ++ List.replicate after.binder.queue.length .drive)
      rwa [Course.run, List.foldl_append] at all
    exact drained.heard_of_idle inStepStill queue issued

end UtilityBilling.Table
