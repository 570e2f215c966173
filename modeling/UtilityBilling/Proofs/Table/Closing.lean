/-
# Every load is closed once

Loads are numbered from one as they are issued. A load ends in one of two ways: it is cancelled
when the next one is issued, or its answer is accepted. So at any time the loads issued so far
are those cancelled, those answered, and the one in flight; and the query of the load in flight
is the one that the table still shows. This account is kept turn by turn. It is an account of
numbers, and as long as these do not come round again it is one of loads.
-/

import Mathlib.Data.List.Perm.Basic
import UtilityBilling.Proofs.Table.Turns

namespace UtilityBilling.Table

variable {α : Type}

/-- The load that is given a number. -/
def RequestId.ofNumber (number : Nat) : RequestId :=
  ⟨UInt64.ofNat number⟩

/-- A turn cancels a load exactly if it issues another one while that is in flight, and the
cancellation stands directly before the load. -/
structure Turn.Replaces (turn : Turn α) : Prop where
  cancels_iff : ∀ request,
    .cancel request ∈ turn.effects ↔ turn.loads ≠ [] ∧ turn.before.inFlight = some request
  effects : ∀ load ∈ turn.loads,
    turn.effects =
      (turn.before.inFlight.toList.map Effect.cancel) ++ [.load load.request load.query]

theorem State.effects_beginLoad (state : State α) :
    state.beginLoad.2 =
      state.inFlight.toList.map Effect.cancel ++ [.load ⟨state.issued + 1⟩ state.query] := by
  unfold beginLoad
  cases state.inFlight <;> rfl

theorem mem_cancelled {effects : List Effect} {request : RequestId} :
    request ∈ effects.filterMap Effect.cancelled? ↔ .cancel request ∈ effects := by
  rw [List.mem_filterMap]
  constructor
  · rintro ⟨effect, member, names⟩
    cases effect with
    | cancel other =>
        cases names
        exact member
    | load _ _ => cases names
    | delay _ _ => cases names
  · exact fun member => ⟨_, member, rfl⟩

namespace Turn

theorem cancels_of_begins {turn : Turn α} {edited : State α}
    (edits : edited.Edits turn.before) (effects : turn.effects = edited.beginLoad.2) :
    turn.cancels = turn.before.inFlight.toList := by
  rw [cancels, effects, State.effects_beginLoad, edits.inFlight]
  cases turn.before.inFlight <;> rfl

theorem loads_of_begins {turn : Turn α} {edited : State α}
    (edits : edited.Edits turn.before) (effects : turn.effects = edited.beginLoad.2) :
    turn.loads = [⟨⟨turn.before.issued + 1⟩, edited.query⟩] := by
  rw [loads, effects, loadsOf_beginLoad, edits.issued]

/-- Nothing is cancelled but the load in flight, and only for another one. -/
theorem replaces (turn : Turn α) : turn.Replaces := by
  have quiet (loads : turn.loads = []) (cancels : turn.cancels = []) : turn.Replaces := by
    constructor
    · intro request
      rw [← mem_cancelled, ← Turn.cancels, cancels, loads]
      simp
    · simp [loads]
  cases turn.does with
  | issues edits _ effects _ _ =>
      have loads := loads_of_begins edits effects
      constructor
      · intro request
        rw [← mem_cancelled, ← cancels, cancels_of_begins edits effects, loads]
        simp
      · intro load member
        rw [loads, List.mem_singleton] at member
        rw [effects, State.effects_beginLoad, edits.inFlight, edits.issued, member]
  | takes _ _ effects _ _ => exact quiet (loads_of_idle effects) (cancels_of_idle effects)
  | looks _ effects _ => exact quiet (loads_of_idle effects) (cancels_of_idle effects)
  | rests _ loads cancels _ _ => exact quiet loads cancels

end Turn

/-- The account of the loads that some turns have issued: their numbers, the last of them if it
is in flight, and what has become of all. -/
structure Accounted (turns : List (Turn α)) (state : State α) : Prop where
  issued : state.issued = UInt64.ofNat (issuedIn turns).length
  numbers : (issuedIn turns).map Load.request =
    (List.range' 1 (issuedIn turns).length).map RequestId.ofNumber
  last : ∀ request, state.inFlight = some request →
    (issuedIn turns).getLast? = some ⟨request, state.query⟩
  closed : (cancelledIn turns ++ (acceptedIn turns).map Prod.fst ++ state.inFlight.toList).Perm
    ((issuedIn turns).map Load.request)

namespace Accounted

theorem start (config : Config) : Accounted [] (State.ofConfig (α := α) config) where
  issued := rfl
  numbers := rfl
  last := nofun
  closed := .nil

variable {turns : List (Turn α)} {turn : Turn α}

/-- A turn that issues nothing and closes nothing leaves the account as it is. -/
theorem rest (accounted : Accounted turns turn.before) (loads : turn.loads = [])
    (cancels : turn.cancels = []) (accepted : turn.accepted? = none)
    (issued : turn.after.issued = turn.before.issued)
    (inFlight : turn.after.inFlight = turn.before.inFlight)
    (query : turn.after.query = turn.before.query) :
    Accounted (turns ++ [turn]) turn.after := by
  have same : issuedIn (turns ++ [turn]) = issuedIn turns := by
    rw [issuedIn_concat, loads, List.append_nil]
  constructor
  · rw [issued, same]; exact accounted.issued
  · rw [same]; exact accounted.numbers
  · rw [inFlight, query, same]; exact accounted.last
  · rw [same, inFlight, cancelledIn_concat, acceptedIn_concat, cancels, accepted]
    simpa using accounted.closed

/-- A new load gets the next number, and the one in flight is cancelled. -/
theorem issue (accounted : Accounted turns turn.before) {edited : State α}
    (edits : edited.Edits turn.before) (after : turn.after = edited.beginLoad.1)
    (effects : turn.effects = edited.beginLoad.2) (answer : turn.move.answer? = none) :
    Accounted (turns ++ [turn]) turn.after := by
  have next : turn.before.issued + 1 = UInt64.ofNat ((issuedIn turns).length + 1) := by
    rw [accounted.issued, UInt64.ofNat_add]
    rfl
  have more : issuedIn (turns ++ [turn]) =
      issuedIn turns ++ [⟨RequestId.ofNumber ((issuedIn turns).length + 1), edited.query⟩] := by
    rw [issuedIn_concat, Turn.loads_of_begins edits effects, next]
    rfl
  have began : turn.after.inFlight = some (RequestId.ofNumber ((issuedIn turns).length + 1)) := by
    rw [after, State.beginLoad, edits.issued, next]
    rfl
  have query : turn.after.query = edited.query := by rw [after, State.beginLoad]
  constructor
  · rw [more, List.length_append, List.length_singleton, ← next, after, ← edits.issued]
    rfl
  · rw [more, List.map_append, accounted.numbers, List.length_append, List.length_singleton,
      List.range'_1_concat, List.map_append, Nat.add_comm 1]
    rfl
  · intro request inFlight
    rw [began] at inFlight
    rw [more, List.getLast?_concat, query, Option.some.inj inFlight]
  · rw [more, began, cancelledIn_concat, acceptedIn_concat,
      Turn.cancels_of_begins edits effects, Turn.accepted?_of_noAnswer answer, Option.toList_none,
      List.append_nil, List.map_append]
    refine List.Perm.append ?_ (.refl _)
    refine .trans ?_ accounted.closed
    rw [List.append_assoc, List.append_assoc]
    exact List.perm_append_comm.append_left _

/-- The load whose answer is accepted is in flight no more. -/
theorem take (accounted : Accounted turns turn.before) {request : RequestId}
    {outcome : Except LoadFailure (Page α)} (inFlight : turn.before.inFlight = some request)
    (after : turn.after = turn.before.take outcome) (effects : turn.effects = [])
    (accepted : turn.accepted? = some (request, outcome)) :
    Accounted (turns ++ [turn]) turn.after := by
  have same : issuedIn (turns ++ [turn]) = issuedIn turns := by
    rw [issuedIn_concat, Turn.loads_of_idle effects, List.append_nil]
  constructor
  · rw [same, after, State.take_issued]; exact accounted.issued
  · rw [same]; exact accounted.numbers
  · rw [after, State.take_inFlight]; nofun
  · rw [same, after, State.take_inFlight, cancelledIn_concat, acceptedIn_concat,
      Turn.cancels_of_idle effects, accepted]
    simpa [inFlight] using accounted.closed

theorem step (accounted : Accounted turns turn.before) :
    Accounted (turns ++ [turn]) turn.after := by
  cases turn.does with
  | issues edits after effects answer _ => exact accounted.issue edits after effects answer
  | takes inFlight after effects accepted _ => exact accounted.take inFlight after effects accepted
  | looks after effects move =>
      refine accounted.rest (Turn.loads_of_idle effects) (Turn.cancels_of_idle effects)
        (Turn.accepted?_of_noAnswer (by rw [move]; rfl)) ?_ ?_ ?_
      all_goals rw [after]; rfl
  | rests alike loads cancels accepted _ =>
      exact accounted.rest loads cancels accepted alike.issued alike.inFlight alike.query

/-- The account is kept in every row of moves. -/
theorem run (config : Config) (moves : List (Move α)) :
    Accounted ((State.ofConfig config).turns moves) ((State.ofConfig config).after moves) :=
  State.turns_induction (.start config) (fun _ _ accounted => accounted.step) moves

end Accounted

/-- Only a message issues a load, and one at most. -/
theorem Turn.length_loads_le (turn : Turn α) :
    turn.loads.length ≤ [turn.move].countP Move.isMessage := by
  rw [List.countP_singleton]
  cases turn.does with
  | issues edits _ effects _ message =>
      rw [loads_of_begins edits effects, message]
      exact Nat.le_refl _
  | takes _ _ effects _ _ => rw [loads_of_idle effects]; exact Nat.zero_le _
  | looks _ effects _ => rw [loads_of_idle effects]; exact Nat.zero_le _
  | rests _ loads _ _ _ => rw [loads]; exact Nat.zero_le _

theorem length_issuedIn_le (state : State α) (moves : List (Move α)) :
    (issuedIn (state.turns moves)).length ≤ moves.countP Move.isMessage := by
  induction moves using List.reverseRecOn with
  | nil => exact Nat.le_refl _
  | append_singleton moves move ih =>
      rw [State.turns_concat, issuedIn_concat, List.length_append, List.countP_append]
      exact Nat.add_le_add ih (Turn.length_loads_le ⟨state.after moves, move⟩)

theorem toNat_ofNumber {number : Nat} (small : number < UInt64.size) :
    (RequestId.ofNumber number).value.toNat = number :=
  Nat.mod_eq_of_lt small

/-- A load is still open: nothing has cancelled it, and no answer to it has been accepted. -/
def Unclosed (turns : List (Turn α)) (request : RequestId) : Prop :=
  (cancelledIn turns).count request = 0 ∧ ((acceptedIn turns).map Prod.fst).count request = 0

/-- A load is closed, once: by a cancellation or by an answer. -/
def ClosedOnce (turns : List (Turn α)) (request : RequestId) : Prop :=
  (cancelledIn turns).count request = 1 ∧ ((acceptedIn turns).map Prod.fst).count request = 0 ∨
    (cancelledIn turns).count request = 0 ∧ ((acceptedIn turns).map Prod.fst).count request = 1

namespace Accounted

variable {turns : List (Turn α)} {state : State α}

theorem toNat_numbers (accounted : Accounted turns state)
    (few : (issuedIn turns).length < UInt64.size) :
    (issuedIn turns).map (fun load => load.request.value.toNat) =
      List.range' 1 (issuedIn turns).length := by
  have numbers := congrArg (List.map fun request => request.value.toNat) accounted.numbers
  rw [List.map_map, List.map_map] at numbers
  refine numbers.trans ((List.map_congr_left fun number member => ?_).trans (List.map_id _))
  apply toNat_ofNumber
  have last := (List.mem_range'_1.mp member).2
  omega

theorem nodup (accounted : Accounted turns state)
    (few : (issuedIn turns).length < UInt64.size) :
    ((issuedIn turns).map Load.request).Nodup := by
  apply List.Nodup.of_map fun request => request.value.toNat
  rw [List.map_map]
  exact accounted.toNat_numbers few ▸ List.nodup_range'

/-- Loads with numbers of their own are counted once: as cancelled, as answered, or as the one
in flight. -/
theorem count_eq_one (accounted : Accounted turns state)
    (few : (issuedIn turns).length < UInt64.size) {load : Load} (member : load ∈ issuedIn turns) :
    (cancelledIn turns).count load.request +
        ((acceptedIn turns).map Prod.fst).count load.request +
        state.inFlight.toList.count load.request = 1 := by
  rw [← List.count_append, ← List.count_append, accounted.closed.count_eq]
  exact List.count_eq_one_of_mem (accounted.nodup few) (List.mem_map_of_mem member)

theorem count_eq_zero (accounted : Accounted turns state) {request : RequestId}
    (never : request ∉ (issuedIn turns).map Load.request) : Unclosed turns request := by
  have none := List.count_eq_zero.mpr never
  rw [← accounted.closed.count_eq, List.count_append, List.count_append] at none
  exact ⟨by omega, by omega⟩

theorem query_of_inFlight (accounted : Accounted turns state)
    (few : (issuedIn turns).length < UInt64.size) {load : Load} (member : load ∈ issuedIn turns)
    (inFlight : state.inFlight = some load.request) : load.query = state.query := by
  have last := List.mem_of_getLast? (accounted.last _ inFlight)
  rw [List.inj_on_of_nodup_map (accounted.nodup few) member last rfl]

end Accounted

/-- Every load is closed once. In every row of moves with fewer messages than there are
numbers, whatever the answers among them are about, the loads are numbered one, two, three. At
most the last of them is in flight, and then the table shows the query that it was issued for.
All others have been closed once, by a cancellation or by an accepted answer, the one in flight
has not been closed, and nothing else ever is. A cancellation comes only with the load that
replaces the one in flight, directly before it, and always then. -/
theorem loads_close_once (config : Config) (moves : List (Move α))
    (few : moves.countP Move.isMessage + 1 < UInt64.size) :
    let turns := (State.ofConfig config).turns moves
    let state := (State.ofConfig config).after moves
    (issuedIn turns).map (fun load => load.request.value.toNat) =
        List.range' 1 (issuedIn turns).length ∧
      (state.inFlight = none ∨ state.inFlight = (issuedIn turns).getLast?.map Load.request) ∧
      (∀ load ∈ issuedIn turns,
        if state.inFlight = some load.request then Unclosed turns load.request
        else ClosedOnce turns load.request) ∧
      (∀ request, request ∉ (issuedIn turns).map Load.request → Unclosed turns request) ∧
      (∀ turn ∈ turns, turn.Replaces) ∧
      (∀ load ∈ issuedIn turns, state.inFlight = some load.request →
        load.query = state.query) := by
  intro turns state
  have accounted : Accounted turns state := .run config moves
  have bounded : (issuedIn turns).length < UInt64.size := by
    have counted := length_issuedIn_le (State.ofConfig config) moves
    exact Nat.lt_of_le_of_lt counted (Nat.lt_of_succ_lt few)
  refine ⟨accounted.toNat_numbers bounded, ?_, ?_, ?_, fun turn _ => turn.replaces, ?_⟩
  · cases inFlight : state.inFlight with
    | none => exact .inl rfl
    | some request => exact .inr (by rw [accounted.last request inFlight]; rfl)
  · intro load member
    have once := accounted.count_eq_one bounded member
    split
    case isTrue inFlight =>
      rw [inFlight, Option.toList_some, List.count_singleton_self] at once
      exact ⟨by omega, by omega⟩
    case isFalse ended =>
      have absent : state.inFlight.toList.count load.request = 0 := by
        rw [List.count_eq_zero, Option.mem_toList]
        exact ended
      unfold ClosedOnce
      omega
  · exact fun request never => accounted.count_eq_zero never
  · exact fun load member inFlight => accounted.query_of_inFlight bounded member inFlight

/-- A first load is cancelled by a second, whose answer is accepted in spite of all answers to
others. -/
theorem loads_close_once_replaced :
    let page : Page Nat := ⟨[10], 1⟩
    let moves : List (Move Nat) :=
      [.give .attach, .give (.loaded ⟨7⟩ page), .give .refresh, .give (.loaded ⟨1⟩ page), .look,
        .give (.loaded ⟨2⟩ page), .give (.loaded ⟨2⟩ page)]
    let turns := (State.ofConfig {}).turns moves
    moves.countP Move.isMessage + 1 < UInt64.size ∧
      (issuedIn turns).map (fun load => load.request.value.toNat) = [1, 2] ∧
      cancelledIn turns = [⟨1⟩] ∧ acceptedIn turns = [(⟨2⟩, .ok page)] ∧
      ClosedOnce turns ⟨1⟩ ∧ ClosedOnce turns ⟨2⟩ ∧ Unclosed turns ⟨7⟩ := by
  intro page moves turns
  have few : moves.countP Move.isMessage + 1 < UInt64.size := by decide
  obtain ⟨numbers, _, closed, others, _⟩ := loads_close_once {} moves few
  have issued : issuedIn turns = [⟨⟨1⟩, {}⟩, ⟨⟨2⟩, {}⟩] := by decide
  change _ = List.range' 1 (issuedIn turns).length at numbers
  rw [issued] at numbers
  refine ⟨few, by rw [issued]; exact numbers, by decide, by decide, ?_, ?_, ?_⟩
  · exact (if_neg (by decide)).mp (closed ⟨⟨1⟩, {}⟩ (by change _ ∈ issuedIn turns; simp [issued]))
  · exact (if_neg (by decide)).mp (closed ⟨⟨2⟩, {}⟩ (by change _ ∈ issuedIn turns; simp [issued]))
  · exact others ⟨7⟩ (by change _ ∉ (issuedIn turns).map _; simp [issued])

end UtilityBilling.Table
