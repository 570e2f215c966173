/-
# What a table shows

Only accepted answers change what a table shows. The body is that of the last of them that was
no cancellation, the total that of the last page, and the mark of a changed body is set if one
of them came since it was last looked at. Accepted answers come in the order of their loads,
one to a load at most. An answer that is not accepted might as well not have come: without it
every other move meets the same state.
-/

import Mathlib.Data.List.DropRight
import UtilityBilling.Proofs.Table.Closing

namespace UtilityBilling.Table

variable {α : Type}

/-- The body that shows the last of the answers that are to be seen, if there was one. -/
def Body.ofLast : Option (Except String (Page α)) → Body α
  | none => .pending
  | some (.ok page) => .ofItems page.items
  | some (.error text) => .failed text

namespace State

variable (state : State α) (outcome : Except LoadFailure (Page α))

theorem body_take :
    (state.take outcome).body =
      ((visible? outcome).map fun seen => Body.ofLast (some seen)).getD state.body := by
  match outcome with
  | .ok page => rfl
  | .error (.error text) => rfl
  | .error .cancelled => rfl

theorem total_take :
    (state.take outcome).query.totalCount =
      (outcome.toOption.map Page.total).getD state.query.totalCount := by
  match outcome with
  | .ok page => rfl
  | .error (.error text) => rfl
  | .error .cancelled => rfl

theorem marked_take :
    (state.take outcome).dirty = (state.dirty || (visible? outcome).isSome) := by
  match outcome with
  | .ok page => exact (Bool.or_true _).symm
  | .error (.error text) => exact (Bool.or_true _).symm
  | .error .cancelled => exact (Bool.or_false _).symm

end State

/-- Whether a turn accepts an answer that is to be seen. -/
def Turn.shows (turn : Turn α) : Bool :=
  (turn.accepted?.bind fun answer => visible? answer.2).isSome

section Turns

variable (turns : List (Turn α)) (turn : Turn α)

/-- The accepted answers that are to be seen, in order. -/
def visibleIn : List (Except String (Page α)) :=
  (acceptedIn turns).filterMap fun answer => visible? answer.2

/-- The pages that are accepted, in order. -/
def pagesIn : List (Page α) :=
  (acceptedIn turns).filterMap fun answer => answer.2.toOption

/-- The last turns, from the one on that follows the last look. -/
def sinceLook : List (Turn α) :=
  turns.rtakeWhile fun turn => turn.move.isMessage

theorem visibleIn_concat :
    visibleIn (turns ++ [turn]) =
      visibleIn turns ++ (turn.accepted?.bind fun answer => visible? answer.2).toList := by
  rw [visibleIn, acceptedIn_concat, List.filterMap_append]
  cases turn.accepted? with
  | none => rfl
  | some answer => cases shown : visible? answer.2 <;> simp [visibleIn, shown]

theorem pagesIn_concat :
    pagesIn (turns ++ [turn]) =
      pagesIn turns ++ (turn.accepted?.bind fun answer => answer.2.toOption).toList := by
  rw [pagesIn, acceptedIn_concat, List.filterMap_append]
  cases turn.accepted? with
  | none => rfl
  | some answer => cases shown : answer.2.toOption <;> simp [pagesIn, shown]

theorem sinceLook_concat :
    sinceLook (turns ++ [turn]) =
      if turn.move.isMessage then sinceLook turns ++ [turn] else [] :=
  List.rtakeWhile_concat ..

end Turns

/-- A state shows what has been accepted in the turns that led to it. -/
structure Shown (turns : List (Turn α)) (state : State α) : Prop where
  body : state.body = .ofLast (visibleIn turns).getLast?
  total : state.query.totalCount = ((pagesIn turns).getLast?.map Page.total).getD 0
  dirty : state.dirty = (sinceLook turns).any Turn.shows

namespace Shown

theorem start (config : Config) : Shown [] (State.ofConfig (α := α) config) := ⟨rfl, rfl, rfl⟩

variable {turns : List (Turn α)} {turn : Turn α}

/-- A turn that accepts nothing leaves what is shown, and the mark of a change unless it looks
at it. -/
theorem rest (shown : Shown turns turn.before) (accepted : turn.accepted? = none)
    (body : turn.after.body = turn.before.body)
    (total : turn.after.query.totalCount = turn.before.query.totalCount)
    (dirty : turn.after.dirty = (turn.move.isMessage && turn.before.dirty)) :
    Shown (turns ++ [turn]) turn.after := by
  have unseen : turn.shows = false := by rw [Turn.shows, accepted]; rfl
  constructor
  · rw [body, shown.body, visibleIn_concat, accepted]
    simp
  · rw [total, shown.total, pagesIn_concat, accepted]
    simp
  · rw [dirty, shown.dirty, sinceLook_concat]
    cases turn.move.isMessage <;> simp [unseen]

/-- An accepted answer is shown, unless it is a cancellation. -/
theorem take (shown : Shown turns turn.before) {request : RequestId}
    {outcome : Except LoadFailure (Page α)} (after : turn.after = turn.before.take outcome)
    (accepted : turn.accepted? = some (request, outcome))
    (message : turn.move.isMessage = true) : Shown (turns ++ [turn]) turn.after := by
  constructor
  · rw [after, State.body_take, visibleIn_concat, accepted]
    cases seen : visible? outcome <;> simp [seen, shown.body]
  · rw [after, State.total_take, pagesIn_concat, accepted]
    cases page : outcome.toOption <;> simp [page, shown.total]
  · rw [after, State.marked_take, sinceLook_concat, if_pos message, List.any_append, ← shown.dirty]
    simp [Turn.shows, accepted]

theorem step (shown : Shown turns turn.before) : Shown (turns ++ [turn]) turn.after := by
  cases turn.does with
  | issues edits after _ answer message =>
      refine shown.rest (Turn.accepted?_of_noAnswer answer) ?_ ?_ ?_
      · rw [after]; exact edits.body
      · rw [after]; exact edits.total
      · rw [after, message]; exact edits.dirty
  | takes _ after _ accepted message => exact shown.take after accepted message
  | looks after _ move =>
      refine shown.rest (Turn.accepted?_of_noAnswer (by rw [move]; rfl)) ?_ ?_ ?_
      · rw [after]; rfl
      · rw [after]; rfl
      · rw [after, move]; rfl
  | rests alike _ _ accepted message =>
      refine shown.rest accepted alike.body (congrArg Query.totalCount alike.query) ?_
      rw [message]
      exact alike.dirty

/-- In every row of moves a table shows what it has accepted. -/
theorem run (config : Config) (moves : List (Move α)) :
    Shown ((State.ofConfig config).turns moves) ((State.ofConfig config).after moves) :=
  State.turns_induction (.start config) (fun _ _ shown => shown.step) moves

end Shown

/-- The load in flight is the last one that was issued. -/
theorem Accounted.request_eq {turns : List (Turn α)} {state : State α}
    (accounted : Accounted turns state) {request : RequestId}
    (inFlight : state.inFlight = some request) :
    request = .ofNumber (issuedIn turns).length := by
  have last := congrArg (Option.map Load.request) (accounted.last request inFlight)
  rw [← List.getLast?_map, accounted.numbers, List.getLast?_map, List.getLast?_range'] at last
  split at last
  case isTrue => cases last
  case isFalse filled =>
    rw [Option.map_some, Option.map_some, Option.some.injEq] at last
    refine last.symm.trans (congrArg RequestId.ofNumber ?_)
    omega

/-- The loads whose answers were accepted, by their numbers: these ascend, and do not reach that
of a load in flight. -/
structure Ascending (turns : List (Turn α)) (state : State α) (numbers : List Nat) : Prop where
  accepted : (acceptedIn turns).map Prod.fst = numbers.map RequestId.ofNumber
  ascends : numbers.Pairwise (· < ·)
  issued : ∀ number ∈ numbers, 1 ≤ number ∧ number ≤ (issuedIn turns).length
  below : ∀ number ∈ numbers, state.inFlight.isSome → number < (issuedIn turns).length

namespace Ascending

variable {turns : List (Turn α)} {turn : Turn α} {numbers : List Nat}

/-- Accepting an answer adds the number of the load issued last. -/
theorem take (ascending : Ascending turns turn.before numbers)
    (accounted : Accounted turns turn.before) {request : RequestId}
    {outcome : Except LoadFailure (Page α)} (inFlight : turn.before.inFlight = some request)
    (after : turn.after = turn.before.take outcome) (effects : turn.effects = [])
    (accepted : turn.accepted? = some (request, outcome)) :
    Ascending (turns ++ [turn]) turn.after (numbers ++ [(issuedIn turns).length]) := by
  have same : issuedIn (turns ++ [turn]) = issuedIn turns := by
    rw [issuedIn_concat, Turn.loads_of_idle effects, List.append_nil]
  have filled : (issuedIn turns).length ≠ 0 := by
    have last := accounted.last request inFlight
    intro nothing
    rw [List.eq_nil_of_length_eq_zero nothing] at last
    cases last
  have lower : ∀ number ∈ numbers, number < (issuedIn turns).length :=
    fun number member => ascending.below number member (by rw [inFlight]; rfl)
  constructor
  · rw [acceptedIn_concat, accepted, List.map_append, ascending.accepted, List.map_append,
      accounted.request_eq inFlight]
    rfl
  · rw [List.pairwise_append]
    refine ⟨ascending.ascends, List.pairwise_singleton .., ?_⟩
    intro number member last isLast
    rw [List.mem_singleton.mp isLast]
    exact lower number member
  · rw [same, List.forall_mem_append, List.forall_mem_singleton]
    exact ⟨ascending.issued, by omega⟩
  · rw [after, State.take_inFlight]
    nofun

/-- Where nothing is accepted the numbers stay, and a new load has got a later one. -/
theorem rest (ascending : Ascending turns turn.before numbers) (accepted : turn.accepted? = none)
    (inFlight : turn.loads ≠ [] ∨ turn.after.inFlight = turn.before.inFlight) :
    Ascending (turns ++ [turn]) turn.after numbers := by
  have more :
      (issuedIn (turns ++ [turn])).length = (issuedIn turns).length + turn.loads.length := by
    rw [issuedIn_concat, List.length_append]
  constructor
  · rw [acceptedIn_concat, accepted, Option.toList_none, List.append_nil]
    exact ascending.accepted
  · exact ascending.ascends
  · intro number member
    have bounds := ascending.issued number member
    omega
  · intro number member isSome
    rcases inFlight with loads | same
    · have later := List.length_pos_iff.mpr loads
      have bounds := ascending.issued number member
      omega
    · have lower := ascending.below number member (same ▸ isSome)
      omega

theorem step (ascending : Ascending turns turn.before numbers)
    (accounted : Accounted turns turn.before) :
    ∃ numbers, Ascending (turns ++ [turn]) turn.after numbers := by
  cases turn.does with
  | issues edits _ effects answer _ =>
      have loads : turn.loads ≠ [] := by rw [Turn.loads_of_begins edits effects]; simp
      exact ⟨numbers, ascending.rest (Turn.accepted?_of_noAnswer answer) (.inl loads)⟩
  | takes inFlight after effects accepted _ =>
      exact ⟨_, ascending.take accounted inFlight after effects accepted⟩
  | looks after _ move =>
      exact ⟨numbers, ascending.rest (Turn.accepted?_of_noAnswer (by rw [move]; rfl))
        (.inr (by rw [after]; rfl))⟩
  | rests alike _ _ accepted _ => exact ⟨numbers, ascending.rest accepted (.inr alike.inFlight)⟩

/-- In every row of moves answers are accepted in the order of their loads. -/
theorem run (config : Config) (moves : List (Move α)) :
    ∃ numbers, Ascending ((State.ofConfig config).turns moves)
      ((State.ofConfig config).after moves) numbers := by
  let Kept (turns : List (Turn α)) (state : State α) : Prop :=
    Accounted turns state ∧ ∃ numbers, Ascending turns state numbers
  have start : Kept [] (State.ofConfig config) :=
    ⟨.start config, [], rfl, .nil, nofun, nofun⟩
  have kept : ∀ turns turn, Kept turns turn.before → Kept (turns ++ [turn]) turn.after :=
    fun _ _ ⟨accounted, _, ascending⟩ => ⟨accounted.step, ascending.step accounted⟩
  exact (State.turns_induction start kept moves).2

end Ascending

/-- Whether a turn brings an answer that is not accepted. -/
def Turn.refuses (turn : Turn α) : Bool :=
  turn.move.answer?.isSome && turn.accepted?.isNone

/-- An answer that is not accepted does nothing. -/
theorem Turn.play_of_refuses {turn : Turn α} (refuses : turn.refuses = true) :
    turn.before.play turn.move = (turn.before, []) := by
  obtain ⟨before, move⟩ := turn
  obtain ⟨answers, stale⟩ := Bool.and_eq_true .. ▸ refuses
  cases move with
  | look => cases answers
  | give message =>
      change before.update message = (before, [])
      have responds := before.update_responds message
      generalize before.update message = update at responds
      cases responds with
      | loads _ noAnswer =>
          change message.answer?.isSome = true at answers
          rw [noAnswer] at answers
          cases answers
      | arms text => cases answers
      | ignores _ => rfl
      | takes brought inFlight =>
          have accepted : (⟨before, .give message⟩ : Turn α).accepted? = some (_, _) :=
            Turn.accepted?_eq_some_iff.mpr ⟨brought, inFlight⟩
          rw [accepted] at stale
          cases stale

/-- Without the answers that are not accepted the other moves meet the same states. -/
theorem turns_of_kept (state : State α) (moves : List (Move α)) :
    let kept := (state.turns moves).filter fun turn => !turn.refuses
    state.turns (kept.map Turn.move) = kept ∧
      state.after (kept.map Turn.move) = state.after moves := by
  induction moves generalizing state with
  | nil => exact ⟨rfl, rfl⟩
  | cons move rest ih =>
      rw [State.turns, List.filter_cons]
      cases refuses : (⟨state, move⟩ : Turn α).refuses with
      | true =>
          have idle : state.play move = (state, []) := Turn.play_of_refuses refuses
          have later := ih state
          simp only [idle, State.after, List.foldl_cons, Bool.not_true, Bool.false_eq_true,
            if_false] at later ⊢
          exact later
      | false =>
          obtain ⟨turns, after⟩ := ih (state.play move).1
          exact ⟨congrArg (List.cons _) turns, after⟩

/-- As long as the numbers of loads do not come round again, the identifiers ascend with them. -/
theorem Ascending.identifiers {turns : List (Turn α)} {state : State α} {numbers : List Nat}
    (ascending : Ascending turns state numbers) (few : (issuedIn turns).length < UInt64.size) :
    ((acceptedIn turns).map fun answer => answer.1.value).Pairwise (· < ·) := by
  have same : (acceptedIn turns).map (fun answer => answer.1.value) =
      numbers.map fun number => (RequestId.ofNumber number).value := by
    have accepted := congrArg (List.map RequestId.value) ascending.accepted
    rwa [List.map_map, List.map_map] at accepted
  rw [same, List.pairwise_map]
  refine ascending.ascends.imp_of_mem fun {first second} isFirst isSecond less => ?_
  have small : ∀ number ∈ numbers, number < UInt64.size :=
    fun number member => Nat.lt_of_le_of_lt (ascending.issued number member).2 few
  rw [UInt64.lt_iff_toNat_lt, toNat_ofNumber (small first isFirst),
    toNat_ofNumber (small second isSecond)]
  exact less

/-- A table shows what it accepted last. In every row of moves, whatever the answers among
them are about, the accepted answers come in the order of their loads, one to a load at most;
their identifiers ascend as long as those of loads do not come round again. The body is that of
the last accepted answer that was no cancellation, the total that of the last accepted page, and
the mark of a changed body is set exactly if an answer that is to be seen was accepted since it
was last looked at. Without the answers that are not accepted every other move meets the same
state, and so has the same effects, and all ends in the same state. -/
theorem shows_last_accepted (config : Config) (moves : List (Move α)) :
    let start := State.ofConfig (α := α) config
    let turns := start.turns moves
    let state := start.after moves
    let kept := turns.filter fun turn => !turn.refuses
    (∃ numbers : List Nat, (acceptedIn turns).map Prod.fst = numbers.map RequestId.ofNumber ∧
        numbers.Pairwise (· < ·) ∧
        ∀ number ∈ numbers, 1 ≤ number ∧ number ≤ (issuedIn turns).length) ∧
      ((issuedIn turns).length < UInt64.size →
        ((acceptedIn turns).map fun answer => answer.1.value).Pairwise (· < ·)) ∧
      state.body = .ofLast (visibleIn turns).getLast? ∧
      state.query.totalCount = ((pagesIn turns).getLast?.map Page.total).getD 0 ∧
      (state.dirty = true ↔ ∃ turn ∈ sinceLook turns, turn.shows = true) ∧
      start.turns (kept.map Turn.move) = kept ∧ start.after (kept.map Turn.move) = state := by
  intro start turns state kept
  obtain ⟨numbers, ascending⟩ := Ascending.run config moves
  have shown : Shown turns state := .run config moves
  refine ⟨⟨numbers, ascending.accepted, ascending.ascends, ascending.issued⟩,
    ascending.identifiers, shown.body, shown.total, ?_, turns_of_kept start moves⟩
  rw [shown.dirty, List.any_eq_true]

/-- An error is shown in spite of a page that comes too late, and the total stays that of the
page before. -/
theorem shows_last_accepted_late_page :
    let moves : List (Move Nat) :=
      [.give .attach, .give (.loaded ⟨1⟩ ⟨[10], 5⟩), .look, .give .refresh, .give .refresh,
        .give (.loaded ⟨2⟩ ⟨[20], 6⟩), .give (.loadFailed ⟨3⟩ (.error "busy"))]
    let turns := (State.ofConfig {}).turns moves
    let state := (State.ofConfig {}).after moves
    (issuedIn turns).length < UInt64.size ∧
      ((acceptedIn turns).map fun answer => answer.1.value) = [1, 3] ∧
      ((acceptedIn turns).map fun answer => answer.1.value).Pairwise (· < ·) ∧
      state.body = .failed "busy" ∧ state.query.totalCount = 5 ∧ state.dirty = true := by
  intro moves turns state
  obtain ⟨_, ascending, body, total, _⟩ := shows_last_accepted {} moves
  have few : (issuedIn turns).length < UInt64.size := by decide
  exact ⟨few, by decide, ascending few, body.trans (by decide), total.trans (by decide),
    by decide⟩

end UtilityBilling.Table
