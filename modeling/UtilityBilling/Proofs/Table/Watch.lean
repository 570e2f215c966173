/-
# A table watched in time

A course may let any time pass between its events. A prompt one lets time pass only while
nothing is left to do for the driver and the alarm; in a single instant everything may still
happen in any order. Who watches a table writes down which texts were typed and which loads
were issued, and when. What an event can do to a delayed search, and to what is written down,
is said here once, in seven cases.
-/

import UtilityBilling.Proofs.Table.InStep

namespace UtilityBilling.Table

variable {α : Type}

/-! ## What is written down -/

/-- A text that was typed, and when. -/
structure Keystroke where
  time : Nat
  text : String
  deriving DecidableEq, Repr

/-- A load that was issued, and when. -/
structure Issue where
  time : Nat
  /-- Whether the driver issued it because a delay was over. -/
  delayed : Bool
  load : Load
  deriving DecidableEq, Repr

def Message.text? : Message α → Option String
  | .searchTyped text => some text
  | _ => none

def Message.ticket? : Message α → Option Ticket
  | .delayElapsed ticket => some ticket
  | _ => none

/-- The text that an event is the typing of. -/
def Event.typed? (time : Nat) : Event α → Option Keystroke
  | .act (.search text) => some ⟨time, text⟩
  | _ => none

namespace Binder

/-- The loads that the driver issues in its next step, the latest first. -/
def issues (binder : Binder α) : List Issue :=
  match binder.next? with
  | some message =>
    (loadsOf (binder.state.update message).2).reverse.map fun load =>
      ⟨binder.clock, message.ticket?.isSome, load⟩
  | none => []

/-- Nothing is left to do now for the driver and the alarm. -/
def AtRest (binder : Binder α) : Prop :=
  binder.queue = [] ∧ ∀ alarm ∈ binder.alarm, binder.clock < alarm.due

end Binder

/-- The loads that the driver issues with an event, the latest first. -/
def Course.issuesBy (course : Course α) : Event α → List Issue
  | .drive => course.binder.issues
  | _ => []

/-- What is seen of the driver's step shows the loads that it issues. -/
theorem Binder.loads_sights (binder : Binder α) :
    loads binder.sights = binder.issues.map Issue.load := by
  have painted : (binder.drive.2.toList.map Entry.painted).filterMap Entry.load? = [] := by
    cases binder.drive.2 <;> rfl
  rw [sights, issues, loads, List.filterMap_append, painted, List.nil_append]
  cases binder.next? with
  | none => rfl
  | some message =>
      have issued (some : List Load) :
          (some.map (Entry.issued (α := α))).filterMap Entry.load? = some := by
        rw [List.filterMap_map]
        exact List.filterMap_some
      have taken : (message.answer?.toList.map fun answer =>
          Entry.taken answer.1 answer.2).filterMap Entry.load? = [] := by
        cases message.answer? <;> rfl
      simp [issued, taken, Function.comp_def]

/-- What an event adds to the loads of the history. -/
theorem Course.loads_step (course : Course α) (event : Event α) :
    loads (course.step event).past =
      (course.issuesBy event).map Issue.load ++ loads course.past := by
  cases event with
  | drive =>
      simp only [step, issuesBy, loads, List.filterMap_append]
      exact congrArg (· ++ _) course.binder.loads_sights
  | ask request =>
      simp only [step]
      split <;> rfl
  | answer request result =>
      simp only [step]
      split <;> rfl
  | retire request =>
      simp only [step]
      split <;> rfl
  | _ => rfl

/-- A course with the texts that were typed and the loads that were issued, the latest
first. -/
structure Watch (α : Type) where
  course : Course α
  typed : List Keystroke := []
  issues : List Issue := []

namespace Watch

def start (endpoint : String) (config : Config) (extras : List Parameter) : Watch α :=
  { course := .start endpoint config extras }

def step (watch : Watch α) (event : Event α) : Watch α :=
  { course := watch.course.step event
    typed := (event.typed? watch.course.binder.clock).toList ++ watch.typed
    issues := watch.course.issuesBy event ++ watch.issues }

def run (watch : Watch α) (events : List (Event α)) : Watch α :=
  events.foldl step watch

/-- An event comes in its time. The table is not stopped; time passes only at rest, and not
beyond the time at which the alarm is due; the alarm does not go off before; and no text is
typed at the very instant at which the delay of an earlier one is over. -/
def Timely (watch : Watch α) (delay : Nat) : Event α → Prop
  | .stop => False
  | .wait milliseconds =>
    watch.course.binder.queue = [] ∧
      ∀ alarm ∈ watch.course.binder.alarm, watch.course.binder.clock + milliseconds ≤ alarm.due
  | .ring => ∀ alarm ∈ watch.course.binder.alarm, alarm.due ≤ watch.course.binder.clock
  | .act (.search _) => ∀ earlier ∈ watch.typed,
      watch.course.binder.clock ≠ earlier.time + delay
  | _ => True

/-- All events of a row come in their time. -/
def Prompt (delay : Nat) (watch : Watch α) : List (Event α) → Prop
  | [] => True
  | event :: rest => watch.Timely delay event ∧ Prompt delay (watch.step event) rest

instance (watch : Watch α) (delay : Nat) : (event : Event α) → Decidable (watch.Timely delay event)
  | .stop => inferInstanceAs (Decidable False)
  | .wait milliseconds =>
    inferInstanceAs (Decidable (watch.course.binder.queue = [] ∧
      ∀ alarm ∈ watch.course.binder.alarm, watch.course.binder.clock + milliseconds ≤ alarm.due))
  | .ring =>
    inferInstanceAs (Decidable (∀ alarm ∈ watch.course.binder.alarm,
      alarm.due ≤ watch.course.binder.clock))
  | .act (.search _) =>
    inferInstanceAs (Decidable (∀ earlier ∈ watch.typed,
      watch.course.binder.clock ≠ earlier.time + delay))
  | .act (.limit _) => inferInstanceAs (Decidable True)
  | .act (.page _) => inferInstanceAs (Decidable True)
  | .act (.sort _) => inferInstanceAs (Decidable True)
  | .act .refresh => inferInstanceAs (Decidable True)
  | .vary _ => inferInstanceAs (Decidable True)
  | .drive => inferInstanceAs (Decidable True)
  | .ask _ => inferInstanceAs (Decidable True)
  | .answer _ _ => inferInstanceAs (Decidable True)
  | .retire _ => inferInstanceAs (Decidable True)

instance decidablePrompt (delay : Nat) :
    (watch : Watch α) → (events : List (Event α)) → Decidable (watch.Prompt delay events)
  | _, [] => inferInstanceAs (Decidable True)
  | watch, event :: rest =>
    have := decidablePrompt delay (watch.step event) rest
    inferInstanceAs (Decidable (watch.Timely delay event ∧ (watch.step event).Prompt delay rest))

/-- Watching changes nothing. -/
@[simp]
theorem course_run (watch : Watch α) (events : List (Event α)) :
    (watch.run events).course = watch.course.run events := by
  induction events generalizing watch with
  | nil => rfl
  | cons event rest ih => exact ih (watch.step event)

/-- What holds of a watch and is kept by every event in its time holds after a prompt row. -/
theorem run_induction {invariant : Watch α → Prop} {delay : Nat}
    (kept : ∀ watch event, watch.Timely delay event → invariant watch →
      invariant (watch.step event))
    {watch : Watch α} (holds : invariant watch) {events : List (Event α)}
    (prompt : watch.Prompt delay events) : invariant (watch.run events) := by
  induction events generalizing watch with
  | nil => exact holds
  | cons event rest ih => exact ih (kept watch event prompt.1 holds) prompt.2

/-- The loads that were written down are those of the history. -/
theorem loads_eq (endpoint : String) (config : Config) (extras : List Parameter)
    (events : List (Event α)) :
    let watch := (start endpoint config extras).run events
    loads watch.course.past = watch.issues.map Issue.load := by
  have all : ∀ (events : List (Event α)) (watch : Watch α),
      loads watch.course.past = watch.issues.map Issue.load →
        loads (watch.run events).course.past = (watch.run events).issues.map Issue.load := by
    intro events
    induction events with
    | nil => exact fun _ same => same
    | cons event rest ih =>
        intro watch same
        refine ih (watch.step event) ?_
        rw [step, watch.course.loads_step, List.map_append, same]
  exact all events _ rfl

end Watch

/-! ## Delayed searches -/

/-- What of a table decides about its delayed searches. -/
@[ext]
structure Delays where
  clock : Nat
  /-- How long a typed text waits. -/
  wait : Nat
  /-- The ticket of the alarm, and when it is due. -/
  alarm : Option (Ticket × Nat)
  /-- The typed texts in the queue. -/
  texts : List String
  /-- The tickets in the queue whose delays are over. -/
  tickets : List Ticket
  ticket : Ticket
  pending : String
  /-- What the table is searched for. -/
  search : String

namespace State

/-- A message that is neither a typed text nor the end of a delay leaves delayed searches
alone, and what the table is searched for. -/
structure KeepsSearch (state : State α) (update : State α × List Effect) : Prop where
  wait : update.1.searchDelay = state.searchDelay
  ticket : update.1.ticket = state.ticket
  pending : update.1.pendingSearch = state.pendingSearch
  search : update.1.query.search = state.query.search
  effects : ∀ effect ∈ update.2, ∀ ticket milliseconds, effect ≠ .delay ticket milliseconds
  loads : ∀ load ∈ loadsOf update.2, load.query.search = state.query.search

theorem no_delay_beginLoad (state : State α) :
    ∀ effect ∈ state.beginLoad.2, ∀ ticket milliseconds, effect ≠ .delay ticket milliseconds := by
  unfold beginLoad
  cases state.inFlight <;> simp

theorem keepsSearch_beginLoad {state edited : State α}
    (wait : edited.searchDelay = state.searchDelay)
    (ticket : edited.ticket = state.ticket) (pending : edited.pendingSearch = state.pendingSearch)
    (search : edited.query.search = state.query.search) :
    state.KeepsSearch edited.beginLoad where
  wait := wait
  ticket := ticket
  pending := pending
  search := search
  effects := edited.no_delay_beginLoad
  loads := by simpa using search

theorem keepsSearch_of_noLoad {state after : State α}
    (wait : after.searchDelay = state.searchDelay)
    (ticket : after.ticket = state.ticket) (pending : after.pendingSearch = state.pendingSearch)
    (search : after.query.search = state.query.search) : state.KeepsSearch (after, []) where
  wait := wait
  ticket := ticket
  pending := pending
  search := search
  effects := by simp
  loads := by simp

theorem update_keepsSearch (state : State α) {message : Message α} (noText : message.text? = none)
    (noTicket : message.ticket? = none) : state.KeepsSearch (state.update message) := by
  have idle : state.KeepsSearch (state, []) := keepsSearch_of_noLoad rfl rfl rfl rfl
  cases message with
  | attach => exact keepsSearch_beginLoad rfl rfl rfl rfl
  | refresh => exact keepsSearch_beginLoad rfl rfl rfl rfl
  | searchTyped text => cases noText
  | delayElapsed ticket => cases noTicket
  | limitChanged limit =>
      rw [update]
      split
      · exact idle
      · exact keepsSearch_beginLoad rfl rfl rfl rfl
  | pageMoved delta =>
      rw [update]
      split
      · exact keepsSearch_beginLoad rfl rfl rfl rfl
      · exact idle
  | sortClicked field =>
      refine keepsSearch_beginLoad rfl rfl rfl ?_
      unfold sortBy
      split <;> rfl
  | loaded request page =>
      rw [update]
      split
      · exact keepsSearch_of_noLoad rfl rfl rfl rfl
      · exact idle
  | loadFailed request failure =>
      rw [update]
      split
      · cases failure <;> exact keepsSearch_of_noLoad rfl rfl rfl rfl
      · exact idle
  | idle => exact idle

end State

namespace Binder

def delays (binder : Binder α) : Delays where
  clock := binder.clock
  wait := binder.state.searchDelay
  alarm := binder.alarm.map fun alarm => (alarm.ticket, alarm.due)
  texts := binder.queue.filterMap Message.text?
  tickets := binder.queue.filterMap Message.ticket?
  ticket := binder.state.ticket
  pending := binder.state.pendingSearch
  search := binder.state.query.search

/-- Carrying out effects takes no time. -/
theorem foldl_execute_clock (binder : Binder α) (effects : List Effect) :
    (effects.foldl execute binder).clock = binder.clock := by
  induction effects generalizing binder with
  | nil => rfl
  | cons effect rest ih =>
      refine (ih (binder.execute effect)).trans ?_
      cases effect with
      | cancel request => simp only [execute]; split <;> rfl
      | _ => rfl

theorem drive_clock (binder : Binder α) : binder.drive.1.clock = binder.clock := by
  unfold drive
  split
  · rfl
  split
  · rfl
  split
  · rfl
  case h_2 message rest _ =>
    have clock := foldl_execute_clock
      { binder with queue := rest, state := (binder.state.update message).1 }
      (binder.state.update message).2
    simp only [process]
    split <;> exact clock

/-- Only a delay sets an alarm. -/
theorem foldl_execute_alarm (binder : Binder α) {effects : List Effect}
    (noDelay : ∀ effect ∈ effects, ∀ ticket milliseconds, effect ≠ .delay ticket milliseconds) :
    (effects.foldl execute binder).alarm = binder.alarm := by
  induction effects generalizing binder with
  | nil => rfl
  | cons effect rest ih =>
      obtain ⟨first, others⟩ := List.forall_mem_cons.mp noDelay
      refine (ih (binder.execute effect) others).trans ?_
      cases effect with
      | cancel request => simp only [execute]; split <;> rfl
      | load request query => rfl
      | delay ticket milliseconds => exact absurd rfl (first ticket milliseconds)

/-- What a message leaves of delayed searches, as far as its effects set no alarm. -/
theorem delays_process (binder : Binder α) (rest : List (Message α)) (message : Message α)
    (noDelay : ∀ effect ∈ (binder.state.update message).2, ∀ ticket milliseconds,
      effect ≠ .delay ticket milliseconds) :
    ({ binder with queue := rest }.process message).1.delays =
      { binder.delays with
        texts := rest.filterMap Message.text?
        tickets := rest.filterMap Message.ticket?
        wait := (binder.state.update message).1.searchDelay
        ticket := (binder.state.update message).1.ticket
        pending := (binder.state.update message).1.pendingSearch
        search := (binder.state.update message).1.query.search } := by
  let taking := { binder with queue := rest, state := (binder.state.update message).1 }
  have clock := taking.foldl_execute_clock (binder.state.update message).2
  have alarm := taking.foldl_execute_alarm noDelay
  have same := taking.foldl_execute_sameCourse (binder.state.update message).2
  simp only [process]
  split <;> simp [delays, State.settled, taking, clock, alarm, same.queue, same.state]

/-- A typed text is kept under a new ticket, and sets the alarm anew. -/
theorem delays_process_text (binder : Binder α) (rest : List (Message α)) (text : String) :
    ({ binder with queue := rest }.process (.searchTyped text)).1.delays =
      { binder.delays with
        texts := rest.filterMap Message.text?
        tickets := rest.filterMap Message.ticket?
        ticket := ⟨binder.state.ticket.value + 1⟩
        pending := text
        alarm := some (⟨binder.state.ticket.value + 1⟩,
          binder.clock + binder.state.searchDelay) } := by
  simp only [process]
  split <;> rfl

/-- A message that is posted to a running driver waits in its queue. -/
theorem delays_post (binder : Binder α) (running : binder.ended = false) (message : Message α) :
    (binder.post message).delays =
      { binder.delays with
        texts := binder.delays.texts ++ message.text?.toList
        tickets := binder.delays.tickets ++ message.ticket?.toList } := by
  have posts : binder.post message = { binder with queue := binder.queue ++ [message] } := by
    simp [post, running]
  rw [posts]
  simp only [delays, List.filterMap_append]
  cases message <;> rfl

/-- The end of a fetch does not concern delayed searches. -/
theorem delays_post_answer {binder : Binder α} (running : binder.ended = false)
    (request : RequestId) {message : Message α} {answer : RequestId × Except LoadFailure (Page α)}
    (answers : message.answer? = some answer) :
    ((binder.withoutFetch request).post message).delays = binder.delays := by
  rw [(binder.withoutFetch request).delays_post running]
  have silent : message.text? = none ∧ message.ticket? = none := by
    cases message <;> first | exact ⟨rfl, rfl⟩ | cases answers
  simp [silent.1, silent.2, withoutFetch, delays]

theorem send_eq_post {binder : Binder α} (running : binder.ended = false) (message : Message α) :
    binder.send message = binder.post message := by
  simp [send, post, running]

end Binder

/-! ## What an event can do -/

namespace Watch

/-- What an event in its time does to delayed searches and to what is written down. -/
inductive Moves (delay : Nat) (before after : Watch α) : Prop where
  /-- Nothing that concerns delayed searches; a load may be issued, which keeps what the table
  is searched for. -/
  | rests (delays : after.course.binder.delays = before.course.binder.delays)
      (typed : after.typed = before.typed)
      (issues : ∃ more, after.issues = more ++ before.issues ∧ ∀ issue ∈ more,
        issue.delayed = false ∧ issue.load.query.search = before.course.binder.delays.search)
  /-- A text is typed. -/
  | types (text : String)
      (apart : ∀ earlier ∈ before.typed, before.course.binder.clock ≠ earlier.time + delay)
      (delays : after.course.binder.delays =
        { before.course.binder.delays with
          texts := before.course.binder.delays.texts ++ [text] })
      (typed : after.typed = ⟨before.course.binder.clock, text⟩ :: before.typed)
      (issues : after.issues = before.issues)
  | waits (milliseconds : Nat)
      (texts : before.course.binder.delays.texts = [])
      (tickets : before.course.binder.delays.tickets = [])
      (soon : ∀ ticket due, before.course.binder.delays.alarm = some (ticket, due) →
        before.course.binder.clock + milliseconds ≤ due)
      (delays : after.course.binder.delays =
        { before.course.binder.delays with
          clock := before.course.binder.clock + milliseconds })
      (typed : after.typed = before.typed) (issues : after.issues = before.issues)
  /-- The driver takes a typed text. -/
  | arms {text : String} {rest : List String} (ticket : Ticket)
      (texts : before.course.binder.delays.texts = text :: rest)
      (delays : after.course.binder.delays =
        { before.course.binder.delays with
          texts := rest
          ticket := ticket
          pending := text
          alarm := some (ticket, before.course.binder.clock + before.course.binder.delays.wait) })
      (typed : after.typed = before.typed) (issues : after.issues = before.issues)
  /-- The alarm goes off. -/
  | rings {ticket : Ticket} {due : Nat}
      (alarm : before.course.binder.delays.alarm = some (ticket, due))
      (elapsed : due ≤ before.course.binder.clock)
      (delays : after.course.binder.delays =
        { before.course.binder.delays with
          alarm := none
          tickets := before.course.binder.delays.tickets ++ [ticket] })
      (typed : after.typed = before.typed) (issues : after.issues = before.issues)
  /-- The driver takes the end of the last delay. -/
  | settles {rest : List Ticket} {load : Load} (ticket : Ticket)
      (tickets : before.course.binder.delays.tickets =
        before.course.binder.delays.ticket :: rest)
      (delays : after.course.binder.delays =
        { before.course.binder.delays with
          tickets := rest
          ticket := ticket
          pending := ""
          search := before.course.binder.delays.pending })
      (typed : after.typed = before.typed)
      (search : load.query.search = before.course.binder.delays.pending)
      (page : load.query.page = 1)
      (issues : after.issues = ⟨before.course.binder.clock, true, load⟩ :: before.issues)
  /-- The driver takes the end of an earlier delay. -/
  | drops {ticket : Ticket} {rest : List Ticket}
      (tickets : before.course.binder.delays.tickets = ticket :: rest)
      (stale : ticket ≠ before.course.binder.delays.ticket)
      (delays : after.course.binder.delays =
        { before.course.binder.delays with tickets := rest })
      (typed : after.typed = before.typed) (issues : after.issues = before.issues)

variable {watch : Watch α}

/-- What a step of the driver does to delayed searches in which it takes a message. -/
theorem drive_moves (delay : Nat) {message : Message α}
    (next : watch.course.binder.next? = some message) :
    watch.Moves delay (watch.step .drive) := by
  obtain ⟨_, _, rest, queue, drive⟩ := Binder.drive_of_next next
  have after : (watch.step .drive).course.binder =
      ({ watch.course.binder with queue := rest }.process message).1 := congrArg Prod.fst drive
  have issues : (watch.step .drive).issues =
      ((loadsOf (watch.course.binder.state.update message).2).reverse.map fun load =>
        ⟨watch.course.binder.clock, message.ticket?.isSome, load⟩) ++ watch.issues := by
    simp only [step, Course.issuesBy, Binder.issues, next]
  have typed : (watch.step .drive).typed = watch.typed := rfl
  have texts : watch.course.binder.delays.texts =
      message.text?.toList ++ rest.filterMap Message.text? := by
    simp only [Binder.delays, queue]
    cases message <;> rfl
  have tickets : watch.course.binder.delays.tickets =
      message.ticket?.toList ++ rest.filterMap Message.ticket? := by
    simp only [Binder.delays, queue]
    cases message <;> rfl
  cases noText : message.text? with
  | some text =>
      obtain rfl : message = .searchTyped text := by cases message <;> cases noText; rfl
      refine .arms ⟨watch.course.binder.state.ticket.value + 1⟩ texts ?_ typed issues
      rw [after, Binder.delays_process_text]
      exact Delays.ext rfl rfl rfl rfl tickets.symm rfl rfl rfl
  | none =>
      cases noTicket : message.ticket? with
      | some ticket =>
          obtain rfl : message = .delayElapsed ticket := by cases message <;> cases noTicket; rfl
          by_cases current : ticket = watch.course.binder.state.ticket
          · subst current
            have update : watch.course.binder.state.update
                (.delayElapsed watch.course.binder.state.ticket) =
                  watch.course.binder.state.settleSearch.beginLoad := if_pos rfl
            rw [update, loadsOf_beginLoad] at issues
            refine .settles ⟨watch.course.binder.state.ticket.value + 1⟩ tickets ?_ typed ?_ ?_
              issues
            · rw [after, Binder.delays_process _ _ _ (update ▸ State.no_delay_beginLoad _), update]
              exact Delays.ext rfl rfl rfl texts.symm rfl rfl rfl rfl
            · rfl
            · rfl
          · have update : watch.course.binder.state.update (.delayElapsed ticket) =
                (watch.course.binder.state, []) := if_neg current
            rw [update] at issues
            refine .drops tickets current ?_ typed issues
            rw [after, Binder.delays_process _ _ _ (by rw [update]; simp), update]
            exact Delays.ext rfl rfl rfl texts.symm rfl rfl rfl rfl
      | none =>
          have keeps := watch.course.binder.state.update_keepsSearch noText noTicket
          refine .rests ?_ typed ⟨_, issues, ?_⟩
          · rw [noText] at texts
            rw [noTicket] at tickets
            rw [after, Binder.delays_process _ _ _ keeps.effects]
            exact Delays.ext rfl keeps.wait rfl texts.symm tickets.symm keeps.ticket keeps.pending
              keeps.search
          · intro issue member
            obtain ⟨load, isLoad, rfl⟩ := List.mem_map.mp member
            exact ⟨by rw [noTicket]; rfl, keeps.loads load (List.mem_reverse.mp isLoad)⟩

/-- Every event in its time does one of the seven things to delayed searches. -/
theorem step_moves {delay : Nat} (running : watch.course.binder.Running) {event : Event α}
    (timely : watch.Timely delay event) : watch.Moves delay (watch.step event) := by
  have idle (after : Watch α) (delays : after.course.binder.delays = watch.course.binder.delays)
      (typed : after.typed = watch.typed) (issues : after.issues = watch.issues) :
      watch.Moves delay after := .rests delays typed ⟨[], issues, by simp⟩
  cases event with
  | act action =>
      have delays : (watch.step (.act action)).course.binder.delays = _ :=
        (congrArg Binder.delays (Binder.send_eq_post running.1 action.message)).trans
          (watch.course.binder.delays_post running.1 action.message)
      have silent : (action.message : Message α).ticket? = none := by cases action <;> rfl
      rw [silent, Option.toList_none, List.append_nil] at delays
      cases action with
      | search text => exact .types text timely delays rfl rfl
      | _ =>
          refine idle _ (delays.trans ?_) rfl rfl
          exact Delays.ext rfl rfl rfl (List.append_nil _) rfl rfl rfl rfl
  | stop => exact timely.elim
  | vary extras => exact idle _ rfl rfl rfl
  | wait milliseconds =>
      obtain ⟨queue, soon⟩ := timely
      refine .waits milliseconds ?_ ?_ ?_ rfl rfl rfl
      · simp [Binder.delays, queue]
      · simp [Binder.delays, queue]
      · intro ticket due set
        obtain ⟨alarm, isSet, same⟩ := Option.map_eq_some_iff.mp set
        cases same
        exact soon alarm isSet
  | drive =>
      cases next : watch.course.binder.next? with
      | some message => exact drive_moves delay next
      | none =>
          have queue : watch.course.binder.queue = [] := by
            simpa [Binder.next?, running.1, running.2] using next
          refine idle _ ?_ rfl ?_
          · simp [step, Course.step, Binder.drive, running.1, running.2, queue]
          · simp [step, Course.issuesBy, Binder.issues, next]
  | ask request =>
      refine idle _ ?_ rfl rfl
      simp only [step, Course.step]
      split <;> rfl
  | answer request result =>
      refine idle _ ?_ rfl rfl
      simp only [step, Course.step]
      split
      · exact Binder.delays_post_answer running.1 request (answer?_answerMessage request result)
      · rfl
  | retire request =>
      refine idle _ ?_ rfl rfl
      simp only [step, Course.step]
      split
      · exact Binder.delays_post_answer running.1 request rfl
      · rfl
  | ring =>
      cases set : watch.course.binder.alarm with
      | none => exact idle _ (by simp [step, Course.step, Binder.ring, set]) rfl rfl
      | some alarm =>
          have posted := Binder.delays_post { watch.course.binder with alarm := none } running.1
            (.delayElapsed alarm.ticket)
          have isSet : watch.course.binder.delays.alarm = some (alarm.ticket, alarm.due) := by
            simp [Binder.delays, set]
          refine .rings isSet (timely alarm set) ?_ rfl rfl
          simp only [step, Course.step, Binder.ring, set]
          exact posted.trans (Delays.ext rfl rfl rfl (List.append_nil _) rfl rfl rfl rfl)

/-- An event in its time lets the driver go on running. -/
theorem running_step {delay : Nat} (running : watch.course.binder.Running) {event : Event α}
    (timely : watch.Timely delay event) : (watch.step event).course.binder.Running := by
  have posted (binder : Binder α) (runs : binder.Running) (message : Message α) :
      (binder.post message).Running := by
    unfold Binder.post
    split <;> exact runs
  cases event with
  | act action =>
      have same : (watch.step (.act action)).course.binder =
          watch.course.binder.post action.message := Binder.send_eq_post running.1 _
      exact same ▸ posted _ running _
  | stop => exact timely.elim
  | drive =>
      cases next : watch.course.binder.next? with
      | some message => exact Binder.drive_running next
      | none =>
          have queue : watch.course.binder.queue = [] := by
            simpa [Binder.next?, running.1, running.2] using next
          have same : (watch.step .drive).course.binder = watch.course.binder := by
            simp [step, Course.step, Binder.drive, running.1, running.2, queue]
          exact same ▸ running
  | ask request =>
      simp only [step, Course.step]
      split <;> exact running
  | answer request result =>
      simp only [step, Course.step]
      split
      · exact posted (watch.course.binder.withoutFetch request) running _
      · exact running
  | retire request =>
      simp only [step, Course.step]
      split
      · exact posted (watch.course.binder.withoutFetch request) running _
      · exact running
  | ring =>
      simp only [step, Course.step, Binder.ring]
      split
      · exact posted { watch.course.binder with alarm := none } running _
      · exact running
  | _ => exact running

end Watch

end UtilityBilling.Table
