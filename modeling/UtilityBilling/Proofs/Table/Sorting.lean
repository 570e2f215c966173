/-
# The order of a table

The order of a table is decided by the clicks on its columns alone, whatever else happens between
them. A click on another column than the chosen one chooses it in ascending order, so all that
counts is the last column and how often it was clicked in a row; only where every click was on the
configured column does its configured direction count as well. What carries this is that an order
goes through the clicks of a run one by one.
-/

import Mathlib.Data.List.DropRight
import UtilityBilling.Proofs.Table.Ignored
import UtilityBilling.Proofs.Table.Parameters

namespace UtilityBilling.Table

variable {α : Type}

/-- The column that a move clicks on. -/
def Move.clicked? : Move α → Option String
  | .give (.sortClicked field) => some field
  | _ => none

/-- The columns that some moves click on, in order. -/
def clicksIn (moves : List (Move α)) : List String :=
  moves.filterMap Move.clicked?

/-- How often a column was clicked in a row at the end of some clicks. -/
def lastRun (clicks : List String) (field : String) : Nat :=
  (clicks.rtakeWhile (· == field)).length

/-- A column, if one is chosen, and its direction. -/
structure Order where
  field : Option String
  direction : SortDirection
  deriving DecidableEq, Repr

/-- The order of a query. -/
def Query.order (query : Query) : Order :=
  ⟨query.sortField, query.sortDirection⟩

namespace Order

/-- The order after a click on a column. -/
def click (order : Order) (field : String) : Order :=
  if order.field = some field then { order with direction := order.direction.toggled }
  else ⟨some field, .ascending⟩

variable {order : Order} {field : String} {clicks : List String}

/-- A click chooses its column. -/
theorem field_click (order : Order) (field : String) : (order.click field).field = some field := by
  rw [click]
  split
  case isTrue chosen => exact chosen
  case isFalse => rfl

/-- The last click chooses the column. -/
theorem field_foldl_click (last : clicks.getLast? = some field) :
    (clicks.foldl click order).field = some field := by
  obtain ⟨earlier, rfl⟩ := List.getLast?_eq_some_iff.mp last
  rw [List.foldl_append]
  exact field_click _ field

/-- The chosen column turns around with every click on it. -/
theorem foldl_click_chosen (chosen : order.field = some field) (count : Nat) :
    (List.replicate count field).foldl click order =
      ⟨some field, SortDirection.toggled^[count] order.direction⟩ := by
  induction count with
  | zero => rw [List.replicate_zero, List.foldl_nil, Function.iterate_zero_apply, ← chosen]
  | succ count ih =>
      rw [List.replicate_succ', List.foldl_append, ih, List.foldl_cons, List.foldl_nil, click,
        if_pos rfl, Function.iterate_succ_apply']

/-- Another column is chosen by the first of several clicks and turns around with the others. -/
theorem foldl_click_other (other : order.field ≠ some field) {count : Nat} (some_ : 1 ≤ count) :
    (List.replicate count field).foldl click order =
      ⟨some field, SortDirection.toggled^[count - 1] .ascending⟩ := by
  obtain ⟨count, rfl⟩ := Nat.exists_eq_add_of_le' some_
  have first : order.click field = ⟨some field, .ascending⟩ := if_neg other
  rw [List.replicate_succ, List.foldl_cons, first, foldl_click_chosen rfl, Nat.add_sub_cancel]

end Order

/-- A direction that turns around several times ends at one of two, by turns. -/
theorem iterate_toggled (count : Nat) (direction : SortDirection) :
    SortDirection.toggled^[count] direction =
      if count % 2 = 0 then direction else direction.toggled := by
  induction count with
  | zero => rfl
  | succ count ih =>
      rw [Function.iterate_succ_apply', ih]
      rcases Nat.mod_two_eq_zero_or_one count with even | odd
      · rw [if_pos even, if_neg (by omega)]
      · rw [if_neg (by omega), if_pos (by omega)]
        cases direction <;> rfl

section LastRun

variable {clicks : List String} {field : String}

/-- Clicks are those before their last run and then this. -/
theorem rdropWhile_append_replicate (clicks : List String) (field : String) :
    clicks.rdropWhile (· == field) ++ List.replicate (lastRun clicks field) field = clicks := by
  have run : clicks.rtakeWhile (· == field) = List.replicate (lastRun clicks field) field := by
    rw [List.eq_replicate_iff]
    refine ⟨rfl, fun click member => ?_⟩
    have same : (click == field) = true := List.mem_rtakeWhile_imp (p := (· == field)) member
    exact beq_iff_eq.mp same
  rw [← run, List.rdropWhile_append_rtakeWhile]

/-- A run begins behind a click on another column. -/
theorem getLast?_rdropWhile_ne (clicks : List String) (field : String) :
    (clicks.rdropWhile (· == field)).getLast? ≠ some field := by
  intro last
  have some_ : clicks.rdropWhile (· == field) ≠ [] := by
    intro none_
    rw [none_] at last
    cases last
  refine List.rdropWhile_last_not (· == field) clicks some_ ?_
  rw [List.getLast?_eq_some_getLast some_] at last
  exact beq_iff_eq.mpr (Option.some.inj last)

theorem one_le_lastRun (last : clicks.getLast? = some field) : 1 ≤ lastRun clicks field := by
  refine Nat.pos_of_ne_zero fun none_ => getLast?_rdropWhile_ne clicks field ?_
  have whole := rdropWhile_append_replicate clicks field
  rw [none_, List.replicate_zero, List.append_nil] at whole
  rw [whole, last]

/-- No click stands before the last run exactly if every click belongs to it. -/
theorem rdropWhile_eq_nil_iff :
    clicks.rdropWhile (· == field) = [] ↔ ∀ click ∈ clicks, click = field := by
  rw [List.rdropWhile_eq_nil_iff]
  simp only [beq_iff_eq]

end LastRun

namespace Order

variable {order : Order} {field : String} {clicks : List String}

/-- An order that comes to its last run with another column. -/
theorem foldl_click_of_other (last : clicks.getLast? = some field)
    (other : (∃ click ∈ clicks, click ≠ field) ∨ order.field ≠ some field) :
    clicks.foldl click order = ⟨some field,
      if lastRun clicks field % 2 = 1 then .ascending else .descending⟩ := by
  have some_ := one_le_lastRun last
  have before : ((clicks.rdropWhile (· == field)).foldl click order).field ≠ some field := by
    cases ends : (clicks.rdropWhile (· == field)).getLast? with
    | some click =>
        rw [field_foldl_click ends, ← ends]
        exact getLast?_rdropWhile_ne clicks field
    | none =>
        rw [List.getLast?_eq_none_iff] at ends
        rw [ends, List.foldl_nil]
        refine other.resolve_left fun ⟨click, member, differs⟩ => differs ?_
        exact rdropWhile_eq_nil_iff.mp ends click member
  have folded := foldl_click_other before some_
  rw [← List.foldl_append, rdropWhile_append_replicate, iterate_toggled] at folded
  rw [folded]
  rcases Nat.mod_two_eq_zero_or_one (lastRun clicks field) with even | odd
  · rw [if_neg (by omega), if_neg (by omega)]
    rfl
  · rw [if_pos (by omega), if_pos odd]

/-- An order whose column alone is clicked. -/
theorem foldl_click_of_same (same : ∀ click ∈ clicks, click = field)
    (chosen : order.field = some field) :
    clicks.foldl click order =
      ⟨some field, SortDirection.toggled^[lastRun clicks field] order.direction⟩ := by
  have whole := rdropWhile_append_replicate clicks field
  rw [rdropWhile_eq_nil_iff.mpr same, List.nil_append] at whole
  rw [← foldl_click_chosen chosen, whole]

end Order

theorem State.order_sortBy (query : Query) (field : String) :
    (sortBy query field).order = query.order.click field := by
  rw [sortBy, Order.click]
  change _ = if query.sortField = some field then _ else _
  split <;> rfl

/-- A move changes the order by its click, if it is one. -/
theorem State.order_play (state : State α) (move : Move α) :
    (state.play move).1.query.order =
      move.clicked?.toList.foldl Order.click state.query.order := by
  cases move with
  | look => rfl
  | give message =>
      change (state.update message).1.query.order = _
      cases message with
      | sortClicked field => exact order_sortBy state.query field
      | attach => rfl
      | refresh => rfl
      | searchTyped text => rfl
      | idle => rfl
      | loadFailed request failure =>
          rw [update]
          split
          · cases failure <;> rfl
          · rfl
      | _ =>
          rw [update]
          split <;> rfl

/-- The order after some moves is what their clicks make of the order before them. -/
theorem State.order_after (state : State α) (moves : List (Move α)) :
    (state.after moves).query.order = (clicksIn moves).foldl Order.click state.query.order := by
  induction moves generalizing state with
  | nil => rfl
  | cons move rest ih =>
      have first : clicksIn (move :: rest) = move.clicked?.toList ++ clicksIn rest := by
        cases clicked : move.clicked? with
        | none => exact List.filterMap_cons_none clicked
        | some field => exact List.filterMap_cons_some clicked
      rw [first, List.foldl_append, ← order_play]
      exact ih _

theorem Move.eq_of_clicked? {move : Move α} {field : String}
    (clicked : move.clicked? = some field) : move = .give (.sortClicked field) := by
  cases move with
  | look => cases clicked
  | give message =>
      cases message with
      | sortClicked other =>
          cases clicked
          rfl
      | _ => cases clicked

/-- What a turn has to do with the order: it keeps it, or it clicks on a column and issues a load
in the new order, from the same place. -/
structure Turn.Orders (turn : Turn α) : Prop where
  keeps : turn.move.clicked? = none → turn.after.query.order = turn.before.query.order
  place : ∀ field, turn.move.clicked? = some field →
    State.SamePlace turn.after.query turn.before.query
  loads : ∀ field, turn.move.clicked? = some field → ∃ load, turn.loads = [load] ∧
    load.query.parameters.lookup "sort_by" = some field ∧
    load.query.parameters.lookup "sort_dir" = some turn.after.query.sortDirection.word

theorem Turn.orders (turn : Turn α) : turn.Orders := by
  obtain ⟨before, move⟩ := turn
  have order := before.order_play move
  constructor
  · intro none_
    change move.clicked? = none at none_
    rw [none_] at order
    exact order
  · intro field clicked
    obtain rfl := Move.eq_of_clicked? clicked
    exact State.samePlace_update rfl
  · intro field clicked
    obtain rfl := Move.eq_of_clicked? clicked
    let query := State.sortBy before.query field
    have chosen : query.sortField = some field :=
      (congrArg Order.field order).trans (Order.field_click _ field)
    obtain ⟨-, -, -, sortBy, direction⟩ := lookup_parameters query
    rw [chosen] at sortBy direction
    exact ⟨⟨⟨before.issued + 1⟩, query⟩, loadsOf_beginLoad _, sortBy, direction⟩

/-- The last clicks decide the order. After every row of moves with a click in it, whatever
the configuration, the chosen column is the one that was clicked last. If another one was clicked
before, or another one or none was configured, the direction is ascending where the last column
was clicked an odd number of times in a row, and descending where an even one; otherwise it is the
configured direction, turned around with every click. No other move changes column or direction; a
click leaves page, page size and search as they are, and issues one load, which asks for the new
column and direction. -/
theorem sorted_by_last_clicks (config : Config) (moves : List (Move α)) {field : String}
    (last : (clicksIn moves).getLast? = some field) :
    let start := State.ofConfig (α := α) config
    let query := (start.after moves).query
    let run := lastRun (clicksIn moves) field
    query.sortField = some field ∧
      ((∃ other ∈ clicksIn moves, other ≠ field) ∨ config.sortField ≠ some field →
        query.sortDirection = if run % 2 = 1 then .ascending else .descending) ∧
      ((∀ click ∈ clicksIn moves, click = field) → config.sortField = some field →
        query.sortDirection = SortDirection.toggled^[run] config.sortDirection) ∧
      ∀ turn ∈ start.turns moves, turn.Orders := by
  intro start query run
  have order : query.order = (clicksIn moves).foldl Order.click start.query.order :=
    start.order_after moves
  refine ⟨?_, ?_, ?_, fun turn _ => turn.orders⟩
  · exact (congrArg Order.field order).trans (Order.field_foldl_click last)
  · intro other
    rw [Order.foldl_click_of_other last other] at order
    exact congrArg Order.direction order
  · intro same configured
    rw [Order.foldl_click_of_same same configured] at order
    exact congrArg Order.direction order

/-- Two clicks on the configured column, with another search and a late answer between them, come
back to its configured direction; after a click on another column they end in descending order. -/
theorem sorted_by_last_clicks_configured :
    let config : Config := { sortField := some "name" }
    let twice : List (Move Nat) :=
      [.give (.sortClicked "name"), .give (.searchTyped "room"), .give (.loaded ⟨7⟩ ⟨[], 0⟩), .look,
        .give (.sortClicked "name")]
    let back := .give (.sortClicked "age") :: twice
    let start := State.ofConfig config
    clicksIn twice = ["name", "name"] ∧ clicksIn back = ["age", "name", "name"] ∧
      (start.after twice).query.order = ⟨some "name", .ascending⟩ ∧
      (start.after back).query.order = ⟨some "name", .descending⟩ := by
  intro config twice back start
  have last : (clicksIn twice).getLast? = some "name" := by decide
  have lastBack : (clicksIn back).getLast? = some "name" := by decide
  obtain ⟨field, -, direction, -⟩ := sorted_by_last_clicks config twice last
  obtain ⟨fieldBack, directionBack, -⟩ := sorted_by_last_clicks config back lastBack
  have ascending := direction (by decide) rfl
  have descending := directionBack (by decide)
  have run : lastRun (clicksIn twice) "name" = 2 ∧ lastRun (clicksIn back) "name" = 2 := by decide
  refine ⟨by decide, by decide, ?_, ?_⟩
  · rw [Query.order, field, ascending, run.1]
    rfl
  · rw [Query.order, fieldBack, descending, run.2]
    rfl

end UtilityBilling.Table
