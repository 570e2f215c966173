/-
# Table queries

What a table asks its list endpoint for: a page of a given size, optionally
searched and sorted. Pages are numbered from 1. The query also remembers the
total of the last page that came back, from which the number of pages follows;
the total is never sent.
-/

import UtilityBilling.Number.Numeral

namespace UtilityBilling.Table

/-- The order of a sorted column. -/
inductive SortDirection where
  | ascending
  | descending
  deriving DecidableEq, Repr, Inhabited

namespace SortDirection

/-- The word for a direction in a request. -/
def word : SortDirection → String
  | .ascending => "asc"
  | .descending => "desc"

/-- The other direction. -/
def toggled : SortDirection → SortDirection
  | .ascending => .descending
  | .descending => .ascending

end SortDirection

/-- A parameter of a request: a key and its value. -/
abbrev Parameter := String × String

/-- Paging, search and sorting of one table. -/
structure Query where
  page : UInt32 := 1
  limit : UInt32 := 20
  search : String := ""
  sortField : Option String := none
  sortDirection : SortDirection := .ascending
  totalCount : UInt64 := 0
  deriving DecidableEq, Repr, Inhabited

namespace Query

/-- The parameters that ask for the page. An empty search is left out, and so is
the order until a column has been chosen. -/
def parameters (query : Query) : List Parameter :=
  [("page", toString query.page.toNat), ("limit", toString query.limit.toNat)] ++
    (if query.search = "" then [] else [("search", query.search)]) ++
    match query.sortField with
    | none => []
    | some field => [("sort_by", field), ("sort_dir", query.sortDirection.word)]

/-- How many pages the last known total makes; at least one. A page size of zero
counts as one. -/
def pageCount (query : Query) : UInt64 :=
  let limit := max query.limit 1 |>.toUInt64
  let full := query.totalCount / limit
  let count := if query.totalCount % limit = 0 then full else full + 1
  max count 1

end Query

/-- The initial settings of a table. The delay is in milliseconds. -/
structure Config where
  page : UInt32 := 1
  limit : UInt32 := 20
  search : String := ""
  pageSizes : List UInt32 := [10, 20, 50, 100]
  searchDelay : Nat := 400
  sortField : Option String := none
  sortDirection : SortDirection := .ascending
  deriving DecidableEq, Repr, Inhabited

/-- The query that a table starts from: page and size are at least one. -/
def Config.query (config : Config) : Query :=
  { page := max config.page 1
    limit := max config.limit 1
    search := config.search
    sortField := config.sortField
    sortDirection := config.sortDirection }

/-- One page of a list: its items and the total over all pages. -/
structure Page (α : Type) where
  items : List α
  total : UInt64
  deriving DecidableEq, Repr, Inhabited

end UtilityBilling.Table
