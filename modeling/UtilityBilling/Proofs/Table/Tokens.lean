/-
# The tokens of loads

Every load has a token by which its fetch can be told to end. The driver holds the token
of the load that it started last, until it cancels it; the state of the table knows a load
in flight. The two are not the same: when an answer comes the state forgets its load, and
the driver goes on holding the token. What an event can do to the two and to the fetches is
said here once, in five cases, as far as the driver holds the token of the load in flight.
-/

import UtilityBilling.Proofs.Table.Change

namespace UtilityBilling.Table

variable {α : Type}

namespace Binder

/-- The loads under way, each with whether its token is cancelled. -/
def tokens (binder : Binder α) : List (RequestId × Bool) :=
  binder.fetches.map fun fetch => (fetch.request, fetch.cancelled)

/-- The loads under way whose tokens are not cancelled. -/
def live (binder : Binder α) : List RequestId :=
  (binder.fetches.filter fun fetch => !fetch.cancelled).map Fetch.request

/-- The driver holds the token of the load in flight. -/
def Holds (binder : Binder α) : Prop :=
  ∀ request, binder.state.inFlight = some request → binder.inFlight = some request

/-- The load whose token an effect cancels. -/
def revoked? (binder : Binder α) : Effect → Option RequestId
  | .cancel request => if binder.inFlight = some request then some request else none
  | _ => none

/-- The loads whose tokens a row of effects cancels, the latest first. -/
def revokedBy (binder : Binder α) : List Effect → List RequestId
  | [] => []
  | effect :: rest =>
    (binder.execute effect).revokedBy rest ++ (binder.revoked? effect).toList

/-- The loads whose tokens the driver cancels in its next step, the latest first. -/
def revokes (binder : Binder α) : List RequestId :=
  match binder.next? with
  | some message =>
    { binder with state := (binder.state.update message).1 }.revokedBy
      (binder.state.update message).2
  | none => if binder.stopping && !binder.ended then binder.inFlight.toList else []

/-- Every cancellation among effects finds the driver with the token of just the load that
it names. -/
def Finds (binder : Binder α) : List Effect → Prop
  | [] => True
  | effect :: rest =>
    (∀ request, effect = .cancel request → binder.inFlight = some request) ∧
      (binder.execute effect).Finds rest

theorem mem_live_iff {binder : Binder α} {request : RequestId} :
    request ∈ binder.live ↔ (request, false) ∈ binder.tokens := by
  simp only [live, tokens, List.mem_map, List.mem_filter, Bool.not_eq_true', Prod.mk.injEq]
  constructor
  · rintro ⟨fetch, ⟨member, standing⟩, rfl⟩
    exact ⟨fetch, member, rfl, standing⟩
  · rintro ⟨fetch, member, rfl, standing⟩
    exact ⟨fetch, ⟨member, standing⟩, rfl⟩

/-- The live loads are among those under way, in the same order. -/
theorem live_sublist (binder : Binder α) :
    binder.live.Sublist (binder.carried.map Prod.fst) := by
  rw [carried, List.map_map]
  exact List.filter_sublist.map _

end Binder

namespace Course

/-- The loads whose tokens an event cancels, the latest first. -/
def revokedBy (course : Course α) : Event α → List RequestId
  | .drive => course.binder.revokes
  | _ => []

/-- The loads whose tokens are cancelled in a row of events, the latest first. -/
def revoked (course : Course α) : List (Event α) → List RequestId
  | [] => []
  | event :: events => (course.step event).revoked events ++ course.revokedBy event

end Course

/-- Tokens with that of one load cancelled. -/
def cancelToken (request : RequestId) (tokens : List (RequestId × Bool)) :
    List (RequestId × Bool) :=
  tokens.map fun token => if token.1 = request then (token.1, true) else token

theorem mem_cancelToken {request other : RequestId} {cancelled : Bool}
    {tokens : List (RequestId × Bool)}
    (member : (other, cancelled) ∈ cancelToken request tokens) :
    (other = request ∧ cancelled = true) ∨
      (other ≠ request ∧ (other, cancelled) ∈ tokens) := by
  obtain ⟨token, known, same⟩ := List.mem_map.mp member
  split at same
  case isTrue belongs =>
    cases same
    exact .inl ⟨belongs, rfl⟩
  case isFalse apart =>
    subst same
    exact .inr ⟨apart, known⟩

namespace Binder

@[simp]
theorem tokens_cancelFetch (request : RequestId) (fetches : List Fetch) :
    (cancelFetch request fetches).map (fun fetch => (fetch.request, fetch.cancelled)) =
      cancelToken request (fetches.map fun fetch => (fetch.request, fetch.cancelled)) := by
  simp only [cancelFetch, cancelToken, List.map_map]
  apply List.map_congr_left
  intro fetch _
  simp only [Function.comp_apply]
  split <;> rfl

/-- The tokens after the load in flight, if there is one, has been cancelled. -/
def replaced (binder : Binder α) : List (RequestId × Bool) :=
  match binder.state.inFlight with
  | some previous => cancelToken previous binder.tokens
  | none => binder.tokens

/-- What becomes of a driver by effects. -/
structure Executed (before after : Binder α) (effects : List Effect)
    (held : Option RequestId) (tokens : List (RequestId × Bool))
    (revoked : List RequestId) : Prop where
  inFlight : after.inFlight = held
  tokens : after.tokens = tokens
  revoked : before.revokedBy effects = revoked
  finds : before.Finds effects

/-- A driver that holds the token of the load in flight cancels just that one when a new
load begins, and then holds the token of the new one. -/
theorem executed_beginLoad {binder : Binder α} (holds : binder.Holds) {edited : State α}
    (inFlight : edited.inFlight = binder.state.inFlight) (queue : List (Message α)) :
    let begun := { binder with queue := queue, state := edited.beginLoad.1 }
    begun.Executed (edited.beginLoad.2.foldl execute begun) edited.beginLoad.2
      (some ⟨edited.issued + 1⟩) (binder.replaced ++ [(⟨edited.issued + 1⟩, false)])
      binder.state.inFlight.toList := by
  intro begun
  cases previous : binder.state.inFlight with
  | none =>
      have effects : edited.beginLoad.2 = [.load ⟨edited.issued + 1⟩ edited.query] := by
        simp [State.beginLoad, inFlight, previous]
      rw [effects]
      constructor
      · rfl
      · simp [execute, tokens, replaced, previous, begun]
      · rfl
      · simp [Finds]
  | some request =>
      have held : binder.inFlight = some request := holds request previous
      have effects : edited.beginLoad.2 =
          [.cancel request, .load ⟨edited.issued + 1⟩ edited.query] := by
        simp [State.beginLoad, inFlight, previous]
      rw [effects]
      constructor
      · rfl
      · simp [execute, tokens, replaced, previous, held, begun]
      · simp [revokedBy, revoked?, held, begun]
      · simp [Finds, held, begun]

end Binder

namespace Course

/-- What an event does to the load in flight, to the token that the driver holds, and to
the fetches, with the loads whose tokens are cancelled. -/
inductive Shift (before after : Binder α) : List RequestId → Prop where
  /-- The driver has stopped. -/
  | ends {revoked : List RequestId} (ended : after.ended = true) : Shift before after revoked
  | rests (inFlight : after.state.inFlight = before.state.inFlight)
      (held : after.inFlight = before.inFlight) (tokens : after.tokens = before.tokens)
      (answers : after.answers = before.answers) : Shift before after []
  /-- A fetch is over, and its outcome is posted. -/
  | returns {request : RequestId} {outcome : Except LoadFailure (Page α)}
      (inFlight : after.state.inFlight = before.state.inFlight)
      (held : after.inFlight = before.inFlight)
      (tokens : after.tokens = before.tokens.filter fun token => token.1 != request)
      (answers : after.answers = before.answers ++ [(request, outcome)]) :
      Shift before after []
  /-- The driver takes an answer. -/
  | takes {request : RequestId} {outcome : Except LoadFailure (Page α)}
      (inFlight : after.state.inFlight =
        if before.state.inFlight = some request then none else before.state.inFlight)
      (held : after.inFlight = before.inFlight) (tokens : after.tokens = before.tokens)
      (answers : before.answers = (request, outcome) :: after.answers) :
      Shift before after []
  /-- The driver begins a load, and cancels the one in flight. -/
  | begins {request : RequestId} (number : request = ⟨before.state.issued + 1⟩)
      (issued : after.state.issued = before.state.issued + 1)
      (inFlight : after.state.inFlight = some request) (held : after.inFlight = some request)
      (tokens : after.tokens = before.replaced ++ [(request, false)])
      (answers : after.answers = before.answers) :
      Shift before after before.state.inFlight.toList

/-- A driver that has stopped does not go on. -/
theorem ended_step {course : Course α} (ended : course.binder.ended = true) (event : Event α) :
    (course.step event).binder.ended = true := by
  cases event with
  | act action => simp [step, Binder.send, ended]
  | drive => simp [step, Binder.drive, ended]
  | ask request => simp only [step]; split <;> simp [Binder.ask, ended]
  | answer request result =>
      simp only [step]; split <;> simp [Binder.answer, Binder.post, Binder.withoutFetch, ended]
  | retire request =>
      simp only [step]; split <;> simp [Binder.retire, Binder.post, Binder.withoutFetch, ended]
  | ring =>
      simp only [step, Binder.ring]
      split <;> simp [Binder.post, ended]
  | _ => exact ended

/-- What effects leave of a driver stays when the mark of a changed body is taken off. -/
theorem tokens_drive {course : Course α} {message : Message α}
    (next : course.binder.next? = some message) :
    ∃ rest, course.binder.queue = message :: rest ∧
      let update := course.binder.state.update message
      let after := update.2.foldl Binder.execute
        { course.binder with queue := rest, state := update.1 }
      (course.step .drive).binder.inFlight = after.inFlight ∧
        (course.step .drive).binder.tokens = after.tokens := by
  obtain ⟨_, _, rest, queue, drive⟩ := Binder.drive_of_next next
  refine ⟨rest, queue, ?_⟩
  simp only [step, drive, Binder.process]
  split <;> exact ⟨rfl, rfl⟩

/-- Whatever a message asks for, its cancellation finds the token that it names. -/
theorem finds_update {binder : Binder α} (holds : binder.Holds) (message : Message α)
    (queue : List (Message α)) :
    let update := binder.state.update message
    { binder with queue := queue, state := update.1 }.Finds update.2 := by
  have responds := binder.state.update_responds message
  generalize binder.state.update message = update at responds
  cases responds with
  | loads edits _ => exact (Binder.executed_beginLoad holds edits.inFlight queue).finds
  | arms text => simp [State.armSearch, Binder.Finds]
  | ignores _ => trivial
  | takes _ _ => trivial

/-- What a step of the driver does to tokens in which it takes a message. -/
theorem drive_shifts {course : Course α} (holds : course.binder.Holds) {message : Message α}
    (next : course.binder.next? = some message) :
    Shift course.binder (course.step .drive).binder (course.revokedBy .drive) := by
  obtain ⟨rest, _, held, tokens⟩ := tokens_drive next
  have state : (course.step .drive).binder.state = _ := (Binder.takes_of_next next).state
  have answers := drive_answers (Binder.takes_of_next next)
  have revoked : course.revokedBy .drive =
      { course.binder with state := (course.binder.state.update message).1 }.revokedBy
        (course.binder.state.update message).2 := by
    simp only [revokedBy, Binder.revokes, next]
  rw [revoked]
  have responds := course.binder.state.update_responds message
  generalize course.binder.state.update message = update at responds held tokens state
  cases responds with
  | @loads _ edited edits noAnswer =>
      have executed := Binder.executed_beginLoad holds edits.inFlight rest
      have cancels := Binder.executed_beginLoad holds edits.inFlight course.binder.queue
      rw [noAnswer] at answers
      rw [cancels.revoked]
      rw [executed.inFlight] at held
      rw [executed.tokens] at tokens
      rw [edits.issued] at held tokens
      refine .begins rfl ?_ ?_ held tokens answers.symm
      · rw [state, ← edits.issued]; rfl
      · rw [state, ← edits.issued]; rfl
  | arms text =>
      exact .rests (by rw [state]; rfl) held tokens answers.symm
  | ignores stale =>
      cases answer : message.answer? with
      | none =>
          rw [answer] at answers
          exact .rests (by rw [state]; rfl) held tokens answers.symm
      | some answered =>
          rw [answer] at answers
          refine .takes ?_ held tokens answers
          rw [if_neg (stale _ _ answer), state]
          rfl
  | @takes _ request outcome answer inFlight =>
      rw [answer] at answers
      refine .takes ?_ held tokens answers
      rw [if_pos inFlight, state]
      exact State.take_inFlight _ _

/-- A fetch that ends posts its outcome. -/
theorem post_shifts {binder : Binder α} (running : binder.ended = false) {request : RequestId}
    {message : Message α} {outcome : Except LoadFailure (Page α)}
    (answer : message.answer? = some (request, outcome)) (log : List Log.Record) :
    Shift binder { (binder.withoutFetch request).post message with log := log } [] := by
  have post : (binder.withoutFetch request).post message =
      { binder.withoutFetch request with queue := binder.queue ++ [message] } := by
    simp [Binder.post, Binder.withoutFetch, running]
  have tokens : (binder.withoutFetch request).tokens =
      binder.tokens.filter fun token => token.1 != request := by
    simp only [Binder.tokens, Binder.withoutFetch, List.filter_map]
    rfl
  have answers : { binder with queue := binder.queue ++ [message] }.answers =
      binder.answers ++ [(request, outcome)] := by
    simp [Binder.answers, answer]
  rw [post]
  exact .returns rfl rfl tokens answers

/-- A message that is no answer leaves tokens and answers alone when it is posted. -/
theorem post_rests {binder : Binder α} (running : binder.ended = false) (alarm : Option Alarm)
    {message : Message α} (noAnswer : message.answer? = none) :
    Shift binder ({ binder with alarm := alarm }.post message) [] := by
  rw [Binder.post, if_neg (by simp [running])]
  have answers : { binder with queue := binder.queue ++ [message] }.answers = binder.answers := by
    simp [Binder.answers, noAnswer]
  exact .rests rfl rfl rfl answers

/-- Every event does one of the five things to tokens. -/
theorem step_shifts {course : Course α} (holds : course.binder.Holds) (event : Event α) :
    Shift course.binder (course.step event).binder (course.revokedBy event) := by
  cases ended : course.binder.ended with
  | true => exact .ends (ended_step ended event)
  | false =>
      have same : Shift course.binder course.binder [] := .rests rfl rfl rfl rfl
      cases event with
      | act action =>
          have noAnswer : (action.message : Message α).answer? = none := by cases action <;> rfl
          have sends : course.binder.send action.message = course.binder.post action.message := by
            simp [Binder.send, Binder.post, ended]
          simp only [step, sends]
          exact post_rests ended _ noAnswer
      | stop => exact .rests rfl rfl rfl rfl
      | vary extras => exact .rests rfl rfl rfl rfl
      | wait milliseconds => exact .rests rfl rfl rfl rfl
      | drive =>
          cases next : course.binder.next? with
          | some message => exact drive_shifts holds next
          | none =>
              cases stopping : course.binder.stopping with
              | true => exact .ends (by simp [step, Binder.drive, ended, stopping, Binder.finish])
              | false =>
                  have queue : course.binder.queue = [] := by
                    simpa [Binder.next?, ended, stopping] using next
                  have idle : (course.step .drive).binder = course.binder := by
                    simp [step, Binder.drive, ended, stopping, queue]
                  have revoked : course.revokedBy .drive = [] := by
                    simp [revokedBy, Binder.revokes, next, stopping]
                  rw [idle, revoked]
                  exact same
      | ask request =>
          simp only [step]
          split
          · refine .rests rfl rfl ?_ rfl
            simp only [Binder.ask, Binder.tokens, List.map_map]
            apply List.map_congr_left
            intro fetch _
            simp only [Function.comp_apply]
            split <;> rfl
          · exact same
      | answer request result =>
          simp only [step]
          split
          · exact post_shifts ended (answer?_answerMessage request result) _
          · exact same
      | retire request =>
          simp only [step]
          split
          · exact post_shifts ended rfl _
          · exact same
      | ring =>
          simp only [step, Binder.ring]
          split
          · exact post_rests ended none rfl
          · exact same

end Course

end UtilityBilling.Table
