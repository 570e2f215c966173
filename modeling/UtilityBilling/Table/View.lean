/-
# What a table shows

The view of a table is a function of its state: the body, the search text, the
chosen column, whether a load is under way, and the pager with its label of the
rows shown. A frame paints a view on a surface in one fixed order: clear, then the
rows or the one message row, then the pager.
-/

import UtilityBilling.Table.State

namespace UtilityBilling.Table

/-- The chosen column and its order. -/
structure SortOrder where
  field : String
  direction : SortDirection
  deriving DecidableEq, Repr

/-- The pager below a table. -/
structure Pager where
  page : UInt32
  limit : UInt32
  total : UInt64
  pageCount : UInt64
  pageSizes : List UInt32
  previousEnabled : Bool
  nextEnabled : Bool
  rangeLabel : String
  deriving DecidableEq, Repr

/-- What a table shows. -/
structure View (α : Type) where
  body : Body α
  search : String
  sort : Option SortOrder
  loading : Bool
  pager : Pager
  deriving DecidableEq, Repr

/-- How many rows a body shows. -/
def Body.shown {α : Type} : Body α → UInt64
  | .rows items => UInt64.ofNat items.length
  | _ => 0

namespace Query

/-- The number of the first row of the page among all rows. -/
def firstRow (query : Query) : UInt64 :=
  (query.page - 1).toUInt64 * query.limit.toUInt64 + 1

/-- The label of the rows shown, out of all rows. -/
def rangeLabel (query : Query) (shown : UInt64) : String :=
  if shown = 0 then "0 of " ++ toString query.totalCount.toNat
  else
    toString query.firstRow.toNat ++ "–" ++
      toString (query.firstRow + shown - 1).toNat ++ " of " ++
      toString query.totalCount.toNat

/-- Whether rows lie beyond the page. -/
def hasNext (query : Query) : Bool :=
  query.page.toUInt64 * query.limit.toUInt64 < query.totalCount

/-- The chosen column. -/
def sort (query : Query) : Option SortOrder :=
  query.sortField.map fun field => ⟨field, query.sortDirection⟩

end Query

/-- What a state shows. -/
def State.view {α : Type} (state : State α) : View α :=
  let query := state.query
  { body := state.body
    search := query.search
    sort := query.sort
    loading := state.inFlight.isSome
    pager :=
      { page := query.page
        limit := query.limit
        total := query.totalCount
        pageCount := query.pageCount
        pageSizes := state.pageSizes
        previousEnabled := 1 < query.page
        nextEnabled := query.hasNext
        rangeLabel := query.rangeLabel state.body.shown } }

/-- One stroke of painting a table. -/
inductive Stroke (α : Type) where
  | clear
  | row (item : α)
  /-- A single row over the full width. -/
  | message (text : String)
  | pager (pager : Pager) (sort : Option SortOrder)
  deriving DecidableEq, Repr

/-- The message of a table whose endpoint has no items. -/
def noDataText : String := "No data"

/-- The strokes of a body. -/
def Body.strokes {α : Type} : Body α → List (Stroke α)
  | .pending => []
  | .rows items => items.map .row
  | .noData => [.message noDataText]
  | .failed message => [.message message]

/-- The strokes of one frame. -/
def View.frame {α : Type} (view : View α) : List (Stroke α) :=
  .clear :: (view.body.strokes ++ [.pager view.pager view.sort])

end UtilityBilling.Table
