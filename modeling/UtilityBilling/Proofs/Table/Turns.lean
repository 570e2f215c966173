/-
# A table in use

A table is used in two ways: it is given a message, or it is asked whether its body has
changed. A turn is such a move with the state that it meets. All that a table does in a row of
moves is read off its turns: the loads that it issues, those that it cancels, and the answers
that it accepts. An answer is accepted if its load is in flight when it comes, whatever else
has been answered before.
-/

import Mathlib.Data.List.Induction
import UtilityBilling.Proofs.Table.Change

namespace UtilityBilling.Table

variable {α : Type}

/-- What can be done with a table. -/
inductive Move (α : Type) where
  | give (message : Message α)
  /-- The mark of a changed body is looked at, and taken off. -/
  | look
  deriving DecidableEq, Repr

namespace Move

/-- The load that a move answers, and what it came to. -/
def answer? : Move α → Option (RequestId × Except LoadFailure (Page α))
  | .give message => message.answer?
  | .look => none

def isMessage : Move α → Bool
  | .give _ => true
  | .look => false

end Move

/-- What a move leaves, and the effects that it asks for. -/
def State.play (state : State α) : Move α → State α × List Effect
  | .give message => state.update message
  | .look => (state.settled, [])

/-- A move with the state that it meets. -/
structure Turn (α : Type) where
  before : State α
  move : Move α
  deriving DecidableEq, Repr

def Effect.cancelled? : Effect → Option RequestId
  | .cancel request => some request
  | _ => none

namespace Turn

/-- The state that a turn leaves. -/
def after (turn : Turn α) : State α :=
  (turn.before.play turn.move).1

/-- The effects that a turn asks for, in order. -/
def effects (turn : Turn α) : List Effect :=
  (turn.before.play turn.move).2

/-- The loads that a turn issues. -/
def loads (turn : Turn α) : List Load :=
  loadsOf turn.effects

/-- The loads that a turn cancels. -/
def cancels (turn : Turn α) : List RequestId :=
  turn.effects.filterMap Effect.cancelled?

/-- The answer that a turn brings, if it belongs to the load in flight. -/
def accepted? (turn : Turn α) : Option (RequestId × Except LoadFailure (Page α)) :=
  turn.move.answer?.filter fun answer => turn.before.inFlight == some answer.1

/-- What a turn does: it issues a load, it takes the answer to the one in flight, it takes the
mark of a changed body off, or it leaves all that is seen of the table as it is. -/
inductive Does (turn : Turn α) : Prop where
  | issues {edited : State α} (edits : edited.Edits turn.before)
      (after : turn.after = edited.beginLoad.1) (effects : turn.effects = edited.beginLoad.2)
      (answer : turn.move.answer? = none) (message : turn.move.isMessage = true)
  | takes {request : RequestId} {outcome : Except LoadFailure (Page α)}
      (inFlight : turn.before.inFlight = some request)
      (after : turn.after = turn.before.take outcome) (effects : turn.effects = [])
      (accepted : turn.accepted? = some (request, outcome))
      (message : turn.move.isMessage = true)
  | looks (after : turn.after = turn.before.settled) (effects : turn.effects = [])
      (move : turn.move = .look)
  | rests (alike : turn.after.Alike turn.before) (loads : turn.loads = [])
      (cancels : turn.cancels = []) (accepted : turn.accepted? = none)
      (message : turn.move.isMessage = true)

theorem loads_of_idle {turn : Turn α} (effects : turn.effects = []) : turn.loads = [] := by
  rw [loads, effects]
  rfl

theorem cancels_of_idle {turn : Turn α} (effects : turn.effects = []) : turn.cancels = [] := by
  rw [cancels, effects]
  rfl

theorem accepted?_of_noAnswer {turn : Turn α} (answer : turn.move.answer? = none) :
    turn.accepted? = none := by
  rw [accepted?, answer]
  rfl

theorem accepted?_eq_some_iff {turn : Turn α}
    {answer : RequestId × Except LoadFailure (Page α)} :
    turn.accepted? = some answer ↔
      turn.move.answer? = some answer ∧ turn.before.inFlight = some answer.1 := by
  rw [accepted?, Option.filter_eq_some_iff, beq_iff_eq]

/-- Every turn does one of the four things. -/
theorem does (turn : Turn α) : turn.Does := by
  obtain ⟨before, move⟩ := turn
  cases move with
  | look => exact .looks rfl rfl rfl
  | give message =>
      generalize given : (⟨before, .give message⟩ : Turn α) = turn
      have after : turn.after = (before.update message).1 := by rw [← given]; rfl
      have effects : turn.effects = (before.update message).2 := by rw [← given]; rfl
      have answer : turn.move.answer? = message.answer? := by rw [← given]; rfl
      have isMessage : turn.move.isMessage = true := by rw [← given]; rfl
      have meets : turn.before = before := by rw [← given]
      have responds := before.update_responds message
      generalize before.update message = update at responds after effects
      cases responds with
      | loads edits noAnswer =>
          exact .issues (meets ▸ edits) after effects (answer.trans noAnswer) isMessage
      | arms text =>
          refine .rests ?_ ?_ ?_ (accepted?_of_noAnswer answer) isMessage
          · rw [after, meets]; exact ⟨rfl, rfl, rfl, rfl, rfl⟩
          · rw [loads, effects]; rfl
          · rw [cancels, effects]; rfl
      | ignores stale =>
          refine .rests (.of_eq (after.trans meets.symm)) (loads_of_idle effects)
            (cancels_of_idle effects) ?_ isMessage
          rw [Option.eq_none_iff_forall_ne_some]
          rintro ⟨request, outcome⟩ accepted
          obtain ⟨brought, inFlight⟩ := accepted?_eq_some_iff.mp accepted
          exact stale request outcome (answer.symm.trans brought) (meets ▸ inFlight)
      | takes answers inFlight =>
          exact .takes (meets ▸ inFlight) (after.trans (by rw [meets])) effects
            (accepted?_eq_some_iff.mpr ⟨answer.trans answers, meets ▸ inFlight⟩) isMessage

/-- An answer that is accepted is taken. -/
theorem after_of_accepted {turn : Turn α} {request : RequestId}
    {outcome : Except LoadFailure (Page α)} (accepted : turn.accepted? = some (request, outcome)) :
    turn.after = turn.before.take outcome := by
  cases turn.does with
  | issues _ _ _ answer _ => rw [accepted?_of_noAnswer answer] at accepted; cases accepted
  | takes _ after _ taken _ =>
      rw [taken] at accepted
      cases accepted
      exact after
  | looks _ _ move => rw [accepted?_of_noAnswer (by rw [move]; rfl)] at accepted; cases accepted
  | rests _ _ _ none_ _ => rw [none_] at accepted; cases accepted

/-- A load asks for the query that its turn leaves. -/
theorem query_of_mem_loads {turn : Turn α} {load : Load} (member : load ∈ turn.loads) :
    load.query = turn.after.query := by
  cases turn.does with
  | issues _ after effects _ _ =>
      rw [loads, effects, loadsOf_beginLoad, List.mem_singleton] at member
      rw [member, after]
      rfl
  | takes _ _ effects _ _ => rw [loads_of_idle effects] at member; cases member
  | looks _ effects _ => rw [loads_of_idle effects] at member; cases member
  | rests _ loads _ _ _ => rw [loads] at member; cases member

end Turn

namespace State

/-- The state after some moves. -/
def after (state : State α) (moves : List (Move α)) : State α :=
  moves.foldl (fun state move => (state.play move).1) state

/-- The turns of some moves, in order. -/
def turns (state : State α) : List (Move α) → List (Turn α)
  | [] => []
  | move :: rest => ⟨state, move⟩ :: (state.play move).1.turns rest

theorem after_concat (state : State α) (moves : List (Move α)) (move : Move α) :
    state.after (moves ++ [move]) = (⟨state.after moves, move⟩ : Turn α).after :=
  List.foldl_append

theorem turns_concat (state : State α) (moves : List (Move α)) (move : Move α) :
    state.turns (moves ++ [move]) = state.turns moves ++ [⟨state.after moves, move⟩] := by
  induction moves generalizing state with
  | nil => rfl
  | cons first rest ih => exact congrArg (List.cons _) (ih _)

/-- Every turn meets the state that the moves before it lead to. -/
theorem exists_of_mem_turns {state : State α} {moves : List (Move α)} {turn : Turn α}
    (member : turn ∈ state.turns moves) :
    ∃ earlier later, moves = earlier ++ turn.move :: later ∧
      turn.before = state.after earlier := by
  induction moves generalizing state with
  | nil => cases member
  | cons move rest ih =>
      rcases List.mem_cons.mp member with rfl | inRest
      · exact ⟨[], rest, rfl, rfl⟩
      · obtain ⟨earlier, later, same, meets⟩ := ih inRest
        exact ⟨move :: earlier, later, congrArg (List.cons move) same, meets⟩

/-- What holds before any move and is kept by every turn holds after any moves, of the state
and the turns that led to it. -/
theorem turns_induction {invariant : List (Turn α) → State α → Prop} {state : State α}
    (start : invariant [] state)
    (kept : ∀ turns turn, invariant turns turn.before → invariant (turns ++ [turn]) turn.after)
    (moves : List (Move α)) : invariant (state.turns moves) (state.after moves) := by
  induction moves using List.reverseRecOn with
  | nil => exact start
  | append_singleton moves move ih =>
      rw [turns_concat, after_concat]
      exact kept _ _ ih

end State

section Turns

variable (turns : List (Turn α)) (turn : Turn α)

/-- The loads that are issued in some turns, in order. -/
def issuedIn : List Load :=
  turns.flatMap Turn.loads

/-- The loads that are cancelled in some turns, in order. -/
def cancelledIn : List RequestId :=
  turns.flatMap Turn.cancels

/-- The answers that are accepted in some turns, in order. -/
def acceptedIn : List (RequestId × Except LoadFailure (Page α)) :=
  turns.filterMap Turn.accepted?

theorem issuedIn_concat : issuedIn (turns ++ [turn]) = issuedIn turns ++ turn.loads := by
  simp [issuedIn]

theorem cancelledIn_concat :
    cancelledIn (turns ++ [turn]) = cancelledIn turns ++ turn.cancels := by
  simp [cancelledIn]

theorem acceptedIn_concat :
    acceptedIn (turns ++ [turn]) = acceptedIn turns ++ turn.accepted?.toList := by
  cases accepted : turn.accepted? <;> simp [acceptedIn, accepted]

end Turns

end UtilityBilling.Table
