/-
# How many loads a table issues

An answer never leads to another load. Everything else that the driver takes from its queue leads
to one load at most, or to an alarm that can lead to one; and apart from the first message, which
shows the table, it is there because the user has done something. So a table issues no more loads
than there were actions, and one at its start. The numbers of loads would come round again only
after as many actions.
-/

import UtilityBilling.Proofs.Table.Answers

namespace UtilityBilling.Table

variable {α : Type}

/-- Whether a message can lead to a load: it is no answer. -/
def Message.isRequest (message : Message α) : Bool :=
  message.answer?.isNone

/-- Whether an effect sets an alarm. -/
def Effect.isDelay : Effect → Bool
  | .delay _ _ => true
  | _ => false

/-- Whether an event is an action of the user. -/
def Event.isAct : Event α → Bool
  | .act _ => true
  | _ => false

/-- A message leads to one load at most, at once or later. -/
theorem length_loadsOf_update_le (state : State α) (message : Message α) :
    (loadsOf (state.update message).2).length + (state.update message).2.countP Effect.isDelay ≤
      if message.isRequest then 1 else 0 := by
  have responds := state.update_responds message
  generalize state.update message = update at responds
  cases responds with
  | @loads _ edited _ noAnswer =>
      have noDelay : edited.beginLoad.2.countP Effect.isDelay = 0 := by
        unfold State.beginLoad
        cases edited.inFlight <;> rfl
      rw [loadsOf_beginLoad, noDelay]
      simp [Message.isRequest, noAnswer]
  | arms text => exact Nat.le_refl _
  | ignores _ => simp
  | takes _ _ => simp

namespace Binder

/-- How many loads can still come of what waits: of the messages in the queue, and of the
alarm. -/
def ahead (binder : Binder α) : Nat :=
  binder.queue.countP Message.isRequest + binder.alarm.toList.length

theorem length_alarm_foldl_execute (binder : Binder α) (effects : List Effect) :
    (effects.foldl execute binder).alarm.toList.length ≤
      binder.alarm.toList.length + effects.countP Effect.isDelay := by
  induction effects generalizing binder with
  | nil => exact Nat.le_refl _
  | cons effect rest ih =>
      have first : (binder.execute effect).alarm.toList.length ≤
          binder.alarm.toList.length + if effect.isDelay then 1 else 0 := by
        cases effect with
        | load request query => exact Nat.le_refl _
        | cancel request => simp only [execute]; split <;> exact Nat.le_refl _
        | delay ticket milliseconds => simp [execute, Effect.isDelay]
      have later := ih (binder.execute effect)
      rw [List.foldl_cons, List.countP_cons]
      omega

/-- A message that is posted adds to what waits, if it can lead to a load. -/
theorem ahead_of_queue {binder after : Binder α} {message : Message α}
    (queue : after.queue = if binder.ended then binder.queue else binder.queue ++ [message])
    (alarm : after.alarm = binder.alarm) :
    after.ahead ≤ binder.ahead + if message.isRequest then 1 else 0 := by
  unfold ahead
  rw [queue, alarm]
  split
  · omega
  · rw [List.countP_append, List.countP_singleton]
    omega

end Binder

namespace Course

/-- When the driver takes no message, nothing is added to what waits. -/
theorem ahead_drive_le {course : Course α} (next : course.binder.next? = none) :
    (course.step .drive).binder.ahead ≤ course.binder.ahead := by
  have alarm : course.binder.drive.1.alarm.toList.length ≤
      course.binder.alarm.toList.length := by
    unfold Binder.next? at next
    by_cases ended : course.binder.ended
    · simp [Binder.drive, ended]
    by_cases stopping : course.binder.stopping
    · simp [Binder.drive, ended, stopping, Binder.finish]
    · have queue : course.binder.queue = [] := by simpa [ended, stopping] using next
      simp [Binder.drive, ended, stopping, queue]
  exact Nat.add_le_add ((Binder.rests_of_next next).queue.countP_le) alarm

/-- What the driver issues is seen. -/
theorem length_loads_drive {course : Course α} {message : Message α}
    (next : course.binder.next? = some message) :
    (loads (course.step .drive).past).length =
      (loadsOf (course.binder.state.update message).2).length + (loads course.past).length := by
  have unseen : (message.answer?.toList.map fun answer =>
      Entry.taken (α := α) answer.1 answer.2).filterMap Entry.load? = [] := by
    cases message.answer? <;> rfl
  have painted : ∀ view? : Option (View α),
      (view?.toList.map Entry.painted).filterMap Entry.load? = [] := by
    intro view?
    cases view? <;> rfl
  rw [drive_past next]
  simp only [loads, List.filterMap_append, painted, unseen, List.nil_append, List.append_nil,
    List.length_append]
  simp [List.filterMap_map, Function.comp_def, Entry.load?]

theorem loads_drive_le {course : Course α} {message : Message α}
    (next : course.binder.next? = some message) :
    (loads (course.step .drive).past).length + (course.step .drive).binder.ahead ≤
      (loads course.past).length + course.binder.ahead := by
  have update := length_loadsOf_update_le course.binder.state message
  obtain ⟨_, _, rest, queue, drive⟩ := Binder.drive_of_next next
  have taken : course.binder.drive.1.queue = rest := by
    have takes := (Binder.takes_of_next next).queue
    rw [queue] at takes
    exact (List.cons.inj takes).2.symm
  have alarm : course.binder.drive.1.alarm.toList.length ≤ course.binder.alarm.toList.length +
      (course.binder.state.update message).2.countP Effect.isDelay := by
    rw [drive]
    simp only [Binder.process]
    split <;> exact Binder.length_alarm_foldl_execute _ _
  rw [length_loads_drive next]
  change _ + (course.binder.drive.1.queue.countP _ + course.binder.drive.1.alarm.toList.length) ≤
    _ + (course.binder.queue.countP _ + _)
  rw [taken, queue, List.countP_cons]
  omega

/-- A message that is posted adds itself to what waits. -/
theorem ahead_post_le (binder : Binder α) (message : Message α) :
    (binder.post message).ahead ≤ binder.ahead + if message.isRequest then 1 else 0 :=
  Binder.ahead_of_queue (binder.post_queue message) (by unfold Binder.post; split <;> rfl)

/-- The answer to a load leads to no other load. -/
theorem ahead_post_answer_le (binder : Binder α) {message : Message α}
    {answer : RequestId × Except LoadFailure (Page α)} (answers : message.answer? = some answer) :
    (binder.post message).ahead ≤ binder.ahead := by
  simpa [Message.isRequest, answers] using ahead_post_le binder message

/-- Only an action of the user adds to the loads that a table issues sooner or later. -/
theorem loads_step_le (course : Course α) (event : Event α) :
    (loads (course.step event).past).length + (course.step event).binder.ahead ≤
      (loads course.past).length + course.binder.ahead + if event.isAct then 1 else 0 := by
  cases event with
  | act action =>
      have sent : (course.binder.send action.message).ahead ≤
          course.binder.ahead + if (action.message : Message α).isRequest then 1 else 0 :=
        Binder.ahead_of_queue (course.binder.send_queue _)
          (by unfold Binder.send; split <;> rfl)
      have request : (action.message : Message α).isRequest = true := by cases action <;> rfl
      rw [request] at sent
      exact Nat.add_le_add_left sent _
  | stop => exact Nat.le_refl _
  | vary extras => exact Nat.le_refl _
  | wait milliseconds => exact Nat.le_refl _
  | drive =>
      cases next : course.binder.next? with
      | some message => exact loads_drive_le next
      | none =>
          have rests := Binder.rests_of_next next
          have sights : course.binder.sights = [] := by
            simp [Binder.sights, next, rests.painted]
          have past : (course.step .drive).past = course.past := by simp [step, sights]
          rw [past]
          exact Nat.add_le_add_left (ahead_drive_le next) _
  | ask request =>
      simp only [step]
      split <;> exact Nat.le_refl _
  | answer request result =>
      simp only [step]
      split
      · exact Nat.add_le_add_left
          (ahead_post_answer_le (course.binder.withoutFetch request) (answer?_answerMessage _ _)) _
      · exact Nat.le_refl _
  | retire request =>
      simp only [step]
      split
      · exact Nat.add_le_add_left
          (ahead_post_answer_le (course.binder.withoutFetch request) rfl) _
      · exact Nat.le_refl _
  | ring =>
      refine Nat.add_le_add_left ?_ (loads course.past).length
      simp only [step, Binder.ring]
      split
      case h_1 alarm set =>
        have rings := ahead_post_le { course.binder with alarm := none }
          (.delayElapsed alarm.ticket)
        have waits : ({ course.binder with alarm := none } : Binder α).ahead + 1 =
            course.binder.ahead := by simp [Binder.ahead, set]
        exact Nat.le_trans rings (Nat.le_of_eq waits)
      case h_2 => exact Nat.le_refl _

/-- Loads are asked for. A table issues no more loads than the user has done things, and one
when it is shown for the first time. -/
theorem length_loads_le (endpoint : String) (config : Config) (extras : List Parameter)
    (events : List (Event α)) :
    (loads ((start endpoint config extras).run events).past).length ≤
      1 + events.countP Event.isAct := by
  have counted : ∀ (course : Course α) (events : List (Event α)),
      (loads (course.run events).past).length + (course.run events).binder.ahead ≤
        (loads course.past).length + course.binder.ahead + events.countP Event.isAct := by
    intro course events
    induction events generalizing course with
    | nil => exact Nat.le_refl _
    | cons event rest ih =>
        have first := course.loads_step_le event
        have later := ih (course.step event)
        rw [List.countP_cons]
        change (loads ((course.step event).run rest).past).length +
          ((course.step event).run rest).binder.ahead ≤ _
        omega
  have all := counted (start endpoint config extras) events
  have begins : (loads (start (α := α) endpoint config extras).past).length +
      (start (α := α) endpoint config extras).binder.ahead = 1 := rfl
  omega

end Course

end UtilityBilling.Table
