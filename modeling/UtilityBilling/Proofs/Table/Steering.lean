/-
# Answers do not steer a table

What a table asks for is decided by its user. Answers change the total, the body, its mark and
whether a load is in flight, and so which loads there are to cancel; but two rows of moves that
agree without their answers issue the same loads for the same queries and ask for the same
delays, however the answers are chosen and wherever they come in between. The two rows do not
keep step with each other; each of them keeps step with the row that is left when all answers
are taken out.
-/

import UtilityBilling.Proofs.Table.Turns

namespace UtilityBilling.Table

variable {α : Type}

/-- A query without the total, which is never sent. -/
def Query.asked (query : Query) : Query :=
  { query with totalCount := 0 }

/-- A load without the total of its query. -/
def Load.asked (load : Load) : Load :=
  { load with query := load.query.asked }

/-- An effect without the total of its query; a cancellation is left out. -/
def Effect.asked? : Effect → Option Effect
  | .load request query => some (.load request query.asked)
  | .cancel _ => none
  | .delay ticket milliseconds => some (.delay ticket milliseconds)

def Effect.delay? : Effect → Option (Ticket × Nat)
  | .delay ticket milliseconds => some (ticket, milliseconds)
  | _ => none

/-- A state without what answers can change: the total, the load in flight, the body and the
mark of a changed body. -/
def State.steered (state : State α) : State α :=
  { state with
    query := state.query.asked
    inFlight := none
    body := .pending
    dirty := false }

/-- The message of a move, if it is no answer. -/
def Move.request? : Move α → Option (Message α)
  | .give message => if message.answer?.isNone then some message else none
  | .look => none

/-- The delays that are asked for in some turns, in order. -/
def delaysIn (turns : List (Turn α)) : List (Ticket × Nat) :=
  (turns.flatMap Turn.effects).filterMap Effect.delay?

/-- The effects of some turns, in order, as far as answers cannot change them. -/
def askedIn (turns : List (Turn α)) : List Effect :=
  (turns.flatMap Turn.effects).filterMap Effect.asked?

/-- The loads are among the effects that answers cannot change. -/
theorem map_asked_issuedIn (turns : List (Turn α)) :
    (issuedIn turns).map Load.asked = loadsOf (askedIn turns) := by
  have effects : issuedIn turns = loadsOf (turns.flatMap Turn.effects) := by
    rw [loadsOf, List.filterMap_flatMap]
    rfl
  rw [effects, loadsOf, loadsOf, askedIn, List.map_filterMap, List.filterMap_filterMap]
  congr 1
  funext effect
  cases effect <;> rfl

theorem delaysIn_eq (turns : List (Turn α)) :
    delaysIn turns = (askedIn turns).filterMap Effect.delay? := by
  rw [delaysIn, askedIn, List.filterMap_filterMap]
  congr 1
  funext effect
  cases effect <;> rfl

namespace State

/-- Two results of a move agree in what answers cannot change. -/
structure Agree (one other : State α × List Effect) : Prop where
  state : one.1.steered = other.1.steered
  effects : one.2.filterMap Effect.asked? = other.2.filterMap Effect.asked?

variable {state other : State α}

theorem agree_idle (same : state.steered = other.steered) : Agree (state, []) (other, []) :=
  ⟨same, rfl⟩

/-- What is cancelled plays no part in the load that begins. -/
theorem agree_beginLoad (same : state.steered = other.steered) :
    Agree state.beginLoad other.beginLoad := by
  have asked (state : State α) : state.beginLoad.2.filterMap Effect.asked? =
      [.load ⟨state.steered.issued + 1⟩ state.steered.query] := by
    unfold beginLoad
    cases state.inFlight <;> rfl
  have issues (state : State α) : state.beginLoad.1.steered =
      { state.steered with issued := state.steered.issued + 1 } := rfl
  constructor
  · rw [issues, issues, same]
  · rw [asked, asked, same]

theorem asked_sortBy (query : Query) (field : String) :
    (sortBy query field).asked = sortBy query.asked field := by
  unfold sortBy
  have chosen : query.asked.sortField = query.sortField := rfl
  rw [chosen]
  split <;> rfl

/-- What a message does is decided by what answers cannot change. -/
theorem agree_update_steered (state : State α) {message : Message α}
    (request : message.answer? = none) :
    Agree (state.update message) (state.steered.update message) := by
  have again (state : State α) : state.steered = state.steered.steered := rfl
  cases message with
  | attach => exact agree_beginLoad (again state)
  | refresh => exact agree_beginLoad (again state)
  | searchTyped text => exact ⟨rfl, rfl⟩
  | delayElapsed ticket =>
      have current : state.steered.ticket = state.ticket := rfl
      simp only [update, current]
      split
      · exact agree_beginLoad rfl
      · exact agree_idle (again state)
  | limitChanged limit =>
      simp only [update]
      split
      · exact agree_idle (again state)
      · exact agree_beginLoad rfl
  | pageMoved delta =>
      have page : state.steered.query.page = state.query.page := rfl
      simp only [update, page]
      cases pageAt? state.query.page delta with
      | some page => exact agree_beginLoad rfl
      | none => exact agree_idle (again state)
  | sortClicked field =>
      refine agree_beginLoad ?_
      simp only [steered, asked_sortBy]
      rfl
  | loaded _ _ => cases request
  | loadFailed _ _ => cases request
  | idle => exact agree_idle (again state)

theorem agree_update {message : Message α} (request : message.answer? = none)
    (same : state.steered = other.steered) :
    Agree (state.update message) (other.update message) := by
  have one := agree_update_steered state request
  have two := agree_update_steered other request
  rw [← same] at two
  exact ⟨one.state.trans two.state.symm, one.effects.trans two.effects.symm⟩

/-- An answer, or a look at the mark, changes nothing else. -/
theorem agree_play_of_noRequest (state : State α) {move : Move α}
    (noRequest : move.request? = none) : Agree (state.play move) (state, []) := by
  cases move with
  | look => exact ⟨rfl, rfl⟩
  | give message =>
      change Agree (state.update message) _
      have responds := state.update_responds message
      generalize state.update message = update at responds
      cases responds with
      | loads _ noAnswer => simp [Move.request?, noAnswer] at noRequest
      | arms text => simp [Move.request?, Message.answer?] at noRequest
      | ignores _ => exact agree_idle rfl
      | @takes _ _ outcome _ _ =>
          refine ⟨?_, rfl⟩
          cases outcome with
          | ok page => rfl
          | error failure => cases failure <;> rfl

/-- A row of moves, as far as answers cannot change it, comes to the same as the row of its
messages that are no answers. -/
theorem agree_requests (moves : List (Move α)) (same : state.steered = other.steered) :
    let requests := (moves.filterMap Move.request?).map Move.give
    (state.after moves).steered = (other.after requests).steered ∧
      askedIn (state.turns moves) = askedIn (other.turns requests) := by
  induction moves generalizing state other with
  | nil => exact ⟨same, rfl⟩
  | cons move rest ih =>
      have first (effects : List Effect) (turns : List (Turn α)) :
          (effects ++ turns.flatMap Turn.effects).filterMap Effect.asked? =
            effects.filterMap Effect.asked? ++ askedIn turns := List.filterMap_append
      cases request : move.request? with
      | none =>
          have agree := agree_play_of_noRequest state request
          obtain ⟨after, asked⟩ := ih (agree.state.trans same)
          rw [List.filterMap_cons_none request]
          refine ⟨after, ?_⟩
          rw [turns, askedIn, List.flatMap_cons, first]
          exact (congrArg (· ++ _) agree.effects).trans asked
      | some message =>
          obtain ⟨given, noAnswer⟩ : move = .give message ∧ message.answer? = none := by
            cases move with
            | look => cases request
            | give given =>
                simp only [Move.request?] at request
                split at request
                case isTrue none => cases request; exact ⟨rfl, Option.isNone_iff_eq_none.mp none⟩
                case isFalse => cases request
          have agree := agree_update noAnswer same
          obtain ⟨after, asked⟩ := ih agree.state
          rw [List.filterMap_cons_some request, List.map_cons, given]
          refine ⟨after, ?_⟩
          rw [turns, turns, askedIn, askedIn, List.flatMap_cons, List.flatMap_cons, first, first]
          exact congrArg₂ (· ++ ·) agree.effects asked

end State

/-- Answers do not steer a table. Two rows of moves whose messages agree without their
answers issue the same loads in the same order, for queries that differ in the total at most,
and ask for the same delays, between the same loads; and the states that they end in differ in
nothing but the total, the load in flight, the body and the mark of a changed body. Of the
effects answers can change the cancellations only. -/
theorem answers_do_not_steer (config : Config) (one other : List (Move α))
    (same : one.filterMap Move.request? = other.filterMap Move.request?) :
    let start := State.ofConfig (α := α) config
    (issuedIn (start.turns one)).map Load.asked = (issuedIn (start.turns other)).map Load.asked ∧
      delaysIn (start.turns one) = delaysIn (start.turns other) ∧
      askedIn (start.turns one) = askedIn (start.turns other) ∧
      (start.after one).steered = (start.after other).steered := by
  intro start
  obtain ⟨afterOne, askedOne⟩ := State.agree_requests one (rfl : start.steered = start.steered)
  obtain ⟨afterOther, askedOther⟩ :=
    State.agree_requests other (rfl : start.steered = start.steered)
  rw [← same] at afterOther askedOther
  have asked : askedIn (start.turns one) = askedIn (start.turns other) :=
    askedOne.trans askedOther.symm
  refine ⟨?_, ?_, asked, afterOne.trans afterOther.symm⟩
  · rw [map_asked_issuedIn, map_asked_issuedIn, asked]
  · rw [delaysIn_eq, delaysIn_eq, asked]

/-- Whether a load is answered at once or fails late, the search is settled in the same way; only
one of the two rows has a load to cancel. -/
theorem answers_do_not_steer_search :
    let one : List (Move Nat) :=
      [.give .attach, .give (.loaded ⟨1⟩ ⟨[10], 5⟩), .look, .give (.searchTyped "x"),
        .give (.delayElapsed ⟨1⟩)]
    let other : List (Move Nat) :=
      [.give (.loaded ⟨7⟩ ⟨[], 0⟩), .give .attach, .give (.searchTyped "x"),
        .give (.delayElapsed ⟨1⟩), .give (.loadFailed ⟨1⟩ (.error "late"))]
    let start := State.ofConfig {}
    one.filterMap Move.request? = other.filterMap Move.request? ∧
      cancelledIn (start.turns one) = [] ∧ cancelledIn (start.turns other) = [⟨1⟩] ∧
      issuedIn (start.turns one) ≠ issuedIn (start.turns other) ∧
      (issuedIn (start.turns one)).map Load.asked =
        (issuedIn (start.turns other)).map Load.asked ∧
      (start.after one).steered = (start.after other).steered := by
  intro one other start
  have same : one.filterMap Move.request? = other.filterMap Move.request? := by decide
  obtain ⟨loads, _, _, states⟩ := answers_do_not_steer {} one other same
  exact ⟨same, by decide, by decide, by decide, loads, states⟩

end UtilityBilling.Table
