/-
# What an event can change

The functions of a binder are taken apart here once and for all. An effect changes at
most the fetches, the alarm and what the driver can cancel; a step of the driver takes
one message or none; and an event of a course does one of five things. Invariants of
courses are proved by these five cases.
-/

import UtilityBilling.Proofs.Table.Course

namespace UtilityBilling.Table

variable {α : Type}

/-! ## The driver's step -/

@[simp]
theorem loadsOf_nil : loadsOf [] = [] := rfl

theorem loadsOf_cons (effect : Effect) (rest : List Effect) :
    loadsOf (effect :: rest) = effect.load?.toList ++ loadsOf rest := by
  cases effect <;> rfl

/-- Beginning a load issues one, for the present query under the next identifier. -/
@[simp]
theorem loadsOf_beginLoad (state : State α) :
    loadsOf state.beginLoad.2 = [⟨⟨state.issued + 1⟩, state.query⟩] := by
  unfold State.beginLoad
  cases state.inFlight <;> rfl

@[simp]
theorem loadsOf_armSearch (state : State α) (text : String) :
    loadsOf (state.armSearch text).2 = [] := rfl

namespace Binder

/-- The loads under way, each with the parameters of its request. -/
def carried (binder : Binder α) : List (RequestId × List Parameter) :=
  binder.fetches.map fun fetch => (fetch.request, fetch.parameters)

/-- The answers that wait in the queue of the driver. -/
def answers (binder : Binder α) : List (RequestId × Except LoadFailure (Page α)) :=
  binder.queue.filterMap Message.answer?

/-- Cancelling a fetch changes neither what it asks for nor which load it belongs
to. -/
@[simp]
theorem map_cancelFetch (request : RequestId) (fetches : List Fetch) :
    (cancelFetch request fetches).map (fun fetch => (fetch.request, fetch.parameters)) =
      fetches.map fun fetch => (fetch.request, fetch.parameters) := by
  simp only [cancelFetch, List.map_map]
  apply List.map_congr_left
  intro fetch _
  simp only [Function.comp_apply]
  split <;> rfl

/-- Two binders that differ in nothing but their fetches, their alarm and what the
driver can cancel. -/
structure SameCourse (after before : Binder α) : Prop where
  state : after.state = before.state
  queue : after.queue = before.queue
  extras : after.extras = before.extras

theorem execute_sameCourse (binder : Binder α) (effect : Effect) :
    (binder.execute effect).SameCourse binder := by
  cases effect with
  | load request query => exact ⟨rfl, rfl, rfl⟩
  | delay ticket milliseconds => exact ⟨rfl, rfl, rfl⟩
  | cancel request =>
      simp only [execute]
      split <;> exact ⟨rfl, rfl, rfl⟩

theorem foldl_execute_sameCourse (binder : Binder α) (effects : List Effect) :
    (effects.foldl execute binder).SameCourse binder := by
  induction effects generalizing binder with
  | nil => exact ⟨rfl, rfl, rfl⟩
  | cons effect rest ih =>
      have first := binder.execute_sameCourse effect
      have later := ih (binder.execute effect)
      exact ⟨later.state.trans first.state, later.queue.trans first.queue,
        later.extras.trans first.extras⟩

/-- An effect adds the load that it issues to those under way. -/
theorem execute_carried (binder : Binder α) (effect : Effect) :
    (binder.execute effect).carried =
      binder.carried ++ effect.load?.toList.map fun load =>
        (load.request, load.query.parameters ++ binder.extras) := by
  cases effect with
  | load request query => simp [execute, carried, Effect.load?]
  | delay ticket milliseconds => simp [execute, carried, Effect.load?]
  | cancel request =>
      simp only [execute, Effect.load?, Option.toList_none, List.map_nil, List.append_nil]
      split <;> simp [carried]

theorem foldl_execute_carried (binder : Binder α) (effects : List Effect) :
    (effects.foldl execute binder).carried =
      binder.carried ++ (loadsOf effects).map fun load =>
        (load.request, load.query.parameters ++ binder.extras) := by
  induction effects generalizing binder with
  | nil => simp
  | cons effect rest ih =>
      rw [List.foldl_cons, ih, execute_carried, (binder.execute_sameCourse effect).extras,
        loadsOf_cons, List.map_append, List.append_assoc]

/-- What a step does in which the driver takes a message. -/
structure Takes (binder : Binder α) (message : Message α) : Prop where
  queue : binder.queue = message :: binder.drive.1.queue
  state : binder.drive.1.state = (binder.state.update message).1.settled
  carried : binder.drive.1.carried =
    binder.carried ++ (loadsOf (binder.state.update message).2).map fun load =>
      (load.request, load.query.parameters ++ binder.extras)
  painted : binder.drive.2 =
    if (binder.state.update message).1.dirty then
      some (binder.state.update message).1.settled.view
    else none

/-- What a step does in which the driver takes no message: it may end, and then its
queue is lost. -/
structure Rests (binder : Binder α) : Prop where
  queue : binder.drive.1.queue.Sublist binder.queue
  state : binder.drive.1.state = binder.state
  carried : binder.drive.1.carried = binder.carried
  painted : binder.drive.2 = none

/-- The mark of a changed body is off after every message. -/
theorem process_state (binder : Binder α) (message : Message α) :
    (binder.process message).1.state = (binder.state.update message).1.settled := by
  simp only [process]
  split
  · rfl
  case isFalse clean =>
    rw [State.settled_of_clean (Bool.not_eq_true _ ▸ clean)]
    exact (foldl_execute_sameCourse _ _).state

/-- A driver that takes a message runs, and deals with the first of its queue. -/
theorem drive_of_next {binder : Binder α} {message : Message α}
    (next : binder.next? = some message) :
    binder.ended = false ∧ binder.stopping = false ∧
      ∃ rest, binder.queue = message :: rest ∧
        binder.drive = { binder with queue := rest }.process message := by
  unfold next? at next
  split at next
  case isTrue => cases next
  case isFalse running =>
    obtain ⟨rest, queue⟩ := List.head?_eq_some_iff.mp next
    simp only [Bool.or_eq_true, not_or, Bool.not_eq_true] at running
    refine ⟨running.1, running.2, rest, queue, ?_⟩
    simp only [Binder.drive, running.1, running.2, queue]
    rfl

theorem takes_of_next {binder : Binder α} {message : Message α}
    (next : binder.next? = some message) : binder.Takes message := by
  obtain ⟨_, _, rest, queue, drive⟩ := drive_of_next next
  constructor
  · rw [drive, queue]
    simp only [process]
    split <;> simp [(foldl_execute_sameCourse _ _).queue]
  · rw [drive, process_state]
  · rw [drive]
    simp only [process]
    split <;> exact foldl_execute_carried _ _
  · rw [drive]
    simp only [process]
    split <;> simp_all

theorem rests_of_next {binder : Binder α} (next : binder.next? = none) :
    binder.Rests := by
  unfold Binder.next? at next
  by_cases ended : binder.ended
  · constructor <;> simp [drive, ended]
  by_cases stopping : binder.stopping
  · constructor
    · simp [drive, ended, stopping, finish]
    · simp [drive, ended, stopping, finish]
    · simp only [drive, ended, stopping, finish, carried]
      cases binder.inFlight <;> simp
    · simp [drive, ended, stopping]
  · have queue : binder.queue = [] := by simpa [ended, stopping] using next
    constructor <;> simp [drive, ended, stopping, queue]

theorem post_queue (binder : Binder α) (message : Message α) :
    (binder.post message).queue =
      if binder.ended then binder.queue else binder.queue ++ [message] := by
  unfold post
  split <;> rfl

theorem send_queue (binder : Binder α) (message : Message α) :
    (binder.send message).queue =
      if binder.ended then binder.queue else binder.queue ++ [message] := by
  unfold send
  split <;> rfl

@[simp]
theorem post_state (binder : Binder α) (message : Message α) :
    (binder.post message).state = binder.state := by
  unfold post
  split <;> rfl

@[simp]
theorem post_carried (binder : Binder α) (message : Message α) :
    (binder.post message).carried = binder.carried := by
  unfold post
  split <;> rfl

@[simp]
theorem carried_ask (binder : Binder α) (request : RequestId) :
    (binder.ask request).carried = binder.carried := by
  simp only [ask, carried, List.map_map]
  apply List.map_congr_left
  intro fetch _
  simp only [Function.comp_apply]
  split <;> rfl

/-- An answer is posted unless the driver has ended. -/
theorem answers_of_post {binder after : Binder α} {message : Message α}
    {answer : RequestId × Except LoadFailure (Page α)}
    (queue : after.queue = if binder.ended then binder.queue else binder.queue ++ [message])
    (answers : message.answer? = some answer) :
    after.answers = binder.answers ∨ after.answers = binder.answers ++ [answer] := by
  unfold Binder.answers
  rw [queue]
  split
  · exact .inl rfl
  · exact .inr (by simp [answers])

/-- A message that is no answer changes nothing about the answers in the queue. -/
theorem answers_of_noAnswer {binder after : Binder α} {message : Message α}
    (queue : after.queue = if binder.ended then binder.queue else binder.queue ++ [message])
    (noAnswer : message.answer? = none) : after.answers = binder.answers := by
  unfold Binder.answers
  rw [queue]
  split
  · rfl
  · simp [noAnswer]

end Binder

/-! ## What an event can change -/

/-- What an answer of the source comes to: an error of the kind that stands for a
cancellation or for a refused session counts as a cancellation. -/
def outcomeOf : Api.Result (Page α) → Except LoadFailure (Page α)
  | .ok page => .ok page
  | .error error =>
    if error.kind = .cancelled ∨ error.kind = .unauthorized then .error .cancelled
    else .error (.error error.message)

@[simp]
theorem answer?_answerMessage (request : RequestId) (result : Api.Result (Page α)) :
    (Binder.answerMessage request result).answer? = some (request, outcomeOf result) := by
  cases result with
  | ok page => rfl
  | error error =>
      simp only [Binder.answerMessage, Message.answer?, Binder.failureOf, Api.Error.isCancelled,
        Api.Error.isUnauthorized, Bool.or_eq_true, beq_iff_eq, outcomeOf]
      split <;> rfl

/-- Where the outcome of a load comes from: an answer of the source, or the end of a
cancelled fetch. -/
inductive Origin (request : RequestId) : Entry α → Except LoadFailure (Page α) → Prop where
  | answered (result : Api.Result (Page α)) :
      Origin request (.answered request result) (outcomeOf result)
  | retired : Origin request (.retired request) (.error .cancelled)

namespace Course

/-- What an answer does to the state of a course, and what is painted of it. -/
inductive Hears (before after : Course α) (request : RequestId)
    (outcome : Except LoadFailure (Page α)) : Option (View α) → Prop where
  /-- The answer comes too late. -/
  | stale (other : before.binder.state.inFlight ≠ some request)
      (state : after.binder.state = before.binder.state) : before.Hears after request outcome none
  /-- The answer belongs to the load in flight; it is painted unless it is a
  cancellation. -/
  | accepts (inFlight : before.binder.state.inFlight = some request)
      (state : after.binder.state = (before.binder.state.take outcome).settled) :
      before.Hears after request outcome
        ((visible? outcome).map fun _ => (before.binder.state.take outcome).settled.view)

/-- What an event changes about a course. -/
inductive Change (before after : Course α) : Prop where
  /-- Nothing that concerns loads; answers may be lost with the queue. -/
  | quiet (state : after.binder.state.Alike before.binder.state)
      (carried : after.binder.carried = before.binder.carried)
      (answers : after.binder.answers.Sublist before.binder.answers)
      (past : after.past = before.past)
  /-- A load under way is sent to the source. -/
  | asks {request : RequestId} {parameters : List Parameter}
      (member : (request, parameters) ∈ before.binder.carried)
      (state : after.binder.state = before.binder.state)
      (carried : after.binder.carried = before.binder.carried)
      (answers : after.binder.answers = before.binder.answers)
      (past : after.past = .asked request parameters :: before.past)
  /-- A load under way is over, and its outcome is posted. -/
  | posts {request : RequestId} {entry : Entry α} {outcome : Except LoadFailure (Page α)}
      (origin : Origin request entry outcome)
      (member : request ∈ before.binder.carried.map Prod.fst)
      (state : after.binder.state = before.binder.state)
      (carried : after.binder.carried =
        before.binder.carried.filter fun load => load.1 != request)
      (answers : after.binder.answers = before.binder.answers ∨
        after.binder.answers = before.binder.answers ++ [(request, outcome)])
      (past : after.past = entry :: before.past)
  /-- The driver issues a load. -/
  | issues {load : Load}
      (request : load.request = ⟨before.binder.state.issued + 1⟩)
      (total : load.query.totalCount = before.binder.state.query.totalCount)
      (issued : after.binder.state.issued = before.binder.state.issued + 1)
      (inFlight : after.binder.state.inFlight = some load.request)
      (query : after.binder.state.query = load.query)
      (clean : after.binder.state.dirty = false)
      (carried : after.binder.carried = before.binder.carried ++
        [(load.request, load.query.parameters ++ before.binder.extras)])
      (answers : after.binder.answers = before.binder.answers)
      (past : after.past = .issued load :: before.past)
  /-- The driver takes an answer from its queue and hears it out. -/
  | takes {request : RequestId} {outcome : Except LoadFailure (Page α)}
      {painted : Option (View α)} (hears : before.Hears after request outcome painted)
      (carried : after.binder.carried = before.binder.carried)
      (answers : before.binder.answers = (request, outcome) :: after.binder.answers)
      (past : after.past = painted.toList.map .painted ++ .taken request outcome :: before.past)

theorem mem_carried_of_fetch? {course : Course α} {request : RequestId}
    {condition : Fetch → Bool} {fetch : Fetch}
    (found : course.fetch? request condition = some fetch) :
    (request, fetch.parameters) ∈ course.binder.carried := by
  have holds := List.find?_some found
  have belongs : fetch.request = request := by
    simp only [Bool.and_eq_true, beq_iff_eq] at holds
    exact holds.1
  rw [← belongs]
  exact List.mem_map.mpr ⟨fetch, List.mem_of_find?_eq_some found, rfl⟩

/-- The loads that are left when one is over. -/
theorem carried_withoutFetch (binder : Binder α) (request : RequestId) :
    (binder.withoutFetch request).carried =
      binder.carried.filter fun load => load.1 != request := by
  simp [Binder.withoutFetch, Binder.carried, List.filter_map, Function.comp_def]

/-- Hearing an answer out leaves the mark of a changed body off. -/
theorem Hears.clean {before after : Course α} {request : RequestId}
    {outcome : Except LoadFailure (Page α)} {painted : Option (View α)}
    (hears : before.Hears after request outcome painted)
    (clean : before.binder.state.dirty = false) : after.binder.state.dirty = false := by
  cases hears with
  | stale _ state => rw [state, clean]
  | accepts _ state => rw [state]; rfl

/-- Hearing an answer out issues no load. -/
theorem Hears.issued {before after : Course α} {request : RequestId}
    {outcome : Except LoadFailure (Page α)} {painted : Option (View α)}
    (hears : before.Hears after request outcome painted) :
    after.binder.state.issued = before.binder.state.issued := by
  cases hears with
  | stale _ state => rw [state]
  | accepts _ state => rw [state]; exact State.take_issued _ _

/-- The answers in the queue, before and after the driver takes a message. -/
theorem drive_answers {course : Course α} {message : Message α}
    (takes : course.binder.Takes message) :
    course.binder.answers =
      message.answer?.toList ++ (course.step .drive).binder.answers := by
  rw [Binder.answers, takes.queue, List.filterMap_cons]
  cases message.answer? <;> rfl

/-- What is seen of the driver when it takes a message. -/
theorem drive_past {course : Course α} {message : Message α}
    (next : course.binder.next? = some message) :
    (course.step .drive).past =
      (if (course.binder.state.update message).1.dirty then
          some (course.binder.state.update message).1.settled.view
        else none).toList.map .painted ++
        ((loadsOf (course.binder.state.update message).2).reverse.map .issued ++
          message.answer?.toList.map fun answer => .taken answer.1 answer.2) ++
        course.past := by
  rw [← (Binder.takes_of_next next).painted]
  simp only [Course.step, Binder.sights, next]

/-- What a step of the driver changes in which it takes a message. -/
theorem drive_changes {course : Course α} (clean : course.binder.state.dirty = false)
    {message : Message α} (next : course.binder.next? = some message) :
    course.Change (course.step .drive) := by
  have takes := Binder.takes_of_next next
  have state := takes.state
  have carried := takes.carried
  have answers := drive_answers takes
  have past := drive_past next
  have responds := course.binder.state.update_responds message
  generalize course.binder.state.update message = update at responds state carried past
  cases responds with
  | @loads _ edited edits noAnswer =>
      have quiet : edited.beginLoad.1.dirty = false := edits.dirty.trans clean
      rw [State.settled_of_clean quiet] at state
      rw [if_neg (by simp [quiet]), loadsOf_beginLoad, noAnswer] at past
      rw [loadsOf_beginLoad] at carried
      rw [noAnswer] at answers
      have drive : (course.step .drive).binder.state = edited.beginLoad.1 := state
      have request : (⟨⟨edited.issued + 1⟩, edited.query⟩ : Load).request =
          ⟨course.binder.state.issued + 1⟩ := by rw [edits.issued]
      refine .issues request edits.total ?_ ?_ ?_ ?_ carried answers.symm past
      · rw [drive, ← edits.issued]; rfl
      · rw [drive]; rfl
      · rw [drive]; rfl
      · rw [drive]; exact quiet
  | arms text =>
      have quiet : (course.binder.state.armSearch text).1.dirty = false := clean
      rw [State.settled_of_clean quiet] at state
      rw [if_neg (by simp [quiet]), loadsOf_armSearch] at past
      rw [loadsOf_armSearch, List.map_nil, List.append_nil] at carried
      have drive : (course.step .drive).binder.state = (course.binder.state.armSearch text).1 :=
        state
      refine .quiet ?_ carried (answers ▸ .refl _) past
      rw [drive]
      exact ⟨rfl, rfl, rfl, rfl, rfl⟩
  | ignores stale =>
      rw [State.settled_of_clean clean] at state
      rw [if_neg (by simp [clean]), loadsOf_nil] at past
      rw [loadsOf_nil, List.map_nil, List.append_nil] at carried
      cases answer : message.answer? with
      | none =>
          rw [answer] at answers past
          exact .quiet (.of_eq state) carried (answers ▸ .refl _) past
      | some answered =>
          obtain ⟨request, outcome⟩ := answered
          rw [answer] at answers past
          exact .takes (.stale (stale request outcome answer) state) carried answers past
  | @takes _ request outcome answer inFlight =>
      rw [State.take_dirty clean, loadsOf_nil, answer] at past
      rw [loadsOf_nil, List.map_nil, List.append_nil] at carried
      rw [answer] at answers
      refine .takes (.accepts inFlight state) carried answers (past.trans ?_)
      cases visible? outcome <;> rfl

/-- Every event changes a course in one of the five ways. -/
theorem step_changes {course : Course α} (clean : course.binder.state.dirty = false)
    (event : Event α) : course.Change (course.step event) := by
  cases event with
  | act action =>
      have noAnswer : (action.message : Message α).answer? = none := by cases action <;> rfl
      have answers := Binder.answers_of_noAnswer (course.binder.send_queue _) noAnswer
      refine .quiet (.of_eq ?_) ?_ (answers ▸ .refl _) rfl
      all_goals simp only [step, Binder.send]; split <;> rfl
  | stop => exact .quiet (.refl _) rfl (.refl _) rfl
  | vary extras => exact .quiet (.refl _) rfl (.refl _) rfl
  | wait milliseconds => exact .quiet (.refl _) rfl (.refl _) rfl
  | drive =>
      cases next : course.binder.next? with
      | none =>
          have rests := Binder.rests_of_next next
          have sights : course.binder.sights = [] := by
            simp [Binder.sights, next, rests.painted]
          exact .quiet (.of_eq rests.state) rests.carried (rests.queue.filterMap _)
            (by simp [step, sights])
      | some message => exact drive_changes clean next
  | ask request =>
      simp only [step]
      cases found : course.fetch? request fun fetch => !fetch.asked with
      | none => exact .quiet (.refl _) rfl (.refl _) rfl
      | some fetch =>
          exact .asks (mem_carried_of_fetch? found) rfl (course.binder.carried_ask request) rfl rfl
  | answer request result =>
      simp only [step]
      cases found : course.fetch? request Fetch.asked with
      | none => exact .quiet (.refl _) rfl (.refl _) rfl
      | some fetch =>
          have member := mem_carried_of_fetch? found
          refine .posts (.answered result) (List.mem_map_of_mem member) ?_ ?_ ?_ rfl
          · exact Binder.post_state _ _
          · exact (Binder.post_carried _ _).trans (carried_withoutFetch _ _)
          · exact Binder.answers_of_post (Binder.post_queue _ _) (answer?_answerMessage _ _)
  | retire request =>
      simp only [step]
      cases found : course.fetch? request Fetch.cancelled with
      | none => exact .quiet (.refl _) rfl (.refl _) rfl
      | some fetch =>
          have member := mem_carried_of_fetch? found
          refine .posts .retired (List.mem_map_of_mem member) ?_ ?_ ?_ rfl
          · exact Binder.post_state _ _
          · exact (Binder.post_carried _ _).trans (carried_withoutFetch _ _)
          · exact Binder.answers_of_post (Binder.post_queue _ _) rfl
  | ring =>
      cases set : course.binder.alarm with
      | none =>
          have same : course.binder.ring = course.binder := by simp [Binder.ring, set]
          rw [step, same]
          exact .quiet (.refl _) rfl (.refl _) rfl
      | some alarm =>
          have posts : course.binder.ring =
              { course.binder with alarm := none }.post (.delayElapsed alarm.ticket) := by
            simp [Binder.ring, set]
          have answers : course.binder.ring.answers = course.binder.answers := by
            rw [posts]
            exact Binder.answers_of_noAnswer (Binder.post_queue _ _) rfl
          refine .quiet (.of_eq ?_) ?_ (answers ▸ .refl _) rfl
          · exact (congrArg Binder.state posts).trans (Binder.post_state _ _)
          · exact (congrArg Binder.carried posts).trans (Binder.post_carried _ _)

end Course

end UtilityBilling.Table
