/-
# Frames on the terminal

How a view of a table of JSON items is printed: a grid with one row per item, or
with one message row, and the pager line below it. The columns are given, or are
the keys of the first item that is an object. Flag columns show their flags as
badges in the colour of the worst. A surface collects the strokes of a frame and
prints it at its last stroke.
-/

import UtilityBilling.Grid.Layout
import UtilityBilling.Json.Value
import UtilityBilling.Table.View

namespace UtilityBilling.Grid

open UtilityBilling.Json (Value)
open UtilityBilling.Table (SortOrder SortDirection Pager Stroke)
open UtilityBilling.Text

/-- The columns whose lists are shown as badges. -/
def flagColumns : List String := ["anomaly_flags", "flags", "anomalies"]

/-- How bad a flag is, the worst first, and the colour that says so. -/
def flagRank (flag : String) : Nat × Colour :=
  let name := asciiUpper flag
  if name = "NEGATIVE" then (0, .red)
  else if name = "FROZEN" then (1, .cyan)
  else (2, .yellow)

/-- The first of the worst flags. -/
def worstFlag : List String → Nat × Colour
  | [] => (2, .yellow)
  | [only] => flagRank only
  | first :: rest =>
    let others := worstFlag rest
    if others.1 < (flagRank first).1 then others else flagRank first

/-- The badges of a list of flags. What is no text is no flag. -/
def badgeCell (flags : List Value) : Cell :=
  let names := flags.filterMap Value.text?
  if names.isEmpty then { text := "" }
  else
    { text := joinWith " " (names.map fun name => "[" ++ name ++ "]")
      colour := some (worstFlag names).2
      emphasis := some .bold }

/-- The plain text of a value in a cell. -/
def plainText : Value → String
  | .null => "-"
  | .text text => text
  | .bool true => "yes"
  | .bool false => "no"
  | other => other.compact

/-- The cell of a value in a column. -/
def valueCell (column : String) (value : Value) : Cell :=
  match flagColumns.contains column, value with
  | true, .list flags => badgeCell flags
  | _, other => { text := plainText other }

/-- The head of a column; the chosen one is marked with its order. -/
def headerCell (sort : Option SortOrder) (column : String) : Cell :=
  match sort with
  | some chosen =>
    if chosen.field = column then
      let arrow := match chosen.direction with
        | .ascending => "▲"
        | .descending => "▼"
      { text := column ++ " " ++ arrow, emphasis := some .bold }
    else { text := column }
  | none => { text := column }

/-- The keys of the first item that is an object. -/
def inferredColumns (items : List Value) : List String :=
  match items.findSome? Value.members? with
  | some members => members.map Prod.fst
  | none => []

/-- The columns of a table: the given ones, or else the inferred. -/
def columnsFor (given : List String) (items : List Value) : List String :=
  if given.isEmpty then inferredColumns items else given

/-- The row of an item: one cell per column. -/
def itemRow (columns : List String) (item : Value) : List Cell :=
  columns.map fun column => valueCell column ((item.get? column).getD .null)

/-- The row of a message, filled up to the number of columns. -/
def messageRow (columns : List String) (message : String) : List Cell :=
  { text := message, emphasis := some .italic } ::
    List.replicate (columns.length - 1) { text := "" }

/-- The grid of a frame. -/
def sheetOf (given : List String) (items : List Value) (message : Option String)
    (sort : Option SortOrder) : Sheet :=
  let columns := columnsFor given items
  { header := if columns.isEmpty then none else some (columns.map (headerCell sort))
    rows := match message with
      | some text => [messageRow columns text]
      | none => items.map (itemRow columns) }

/-- The pager line below a grid. -/
def pagerLine (pager : Pager) : String :=
  let sizes := joinWith "/" (pager.pageSizes.map fun size => toString size.toNat)
  let controls :=
    (if pager.previousEnabled then ["[p]rev"] else []) ++
      (if pager.nextEnabled then ["[n]ext"] else [])
  "Page " ++ toString pager.page.toNat ++ "/" ++ toString pager.pageCount.toNat ++
    " | " ++ pager.rangeLabel ++ " | " ++ toString pager.limit.toNat ++
    " per page (" ++ sizes ++ ")" ++
    (if controls.isEmpty then "" else " | " ++ joinWith " " controls)

/-- A surface that collects the rows and the message of the frame under way. -/
structure Surface where
  columns : List String
  rows : List Value := []
  message : Option String := none
  deriving Repr

namespace Surface

/-- What the last stroke of a frame prints. -/
def printed (surface : Surface) (pager : Pager) (sort : Option SortOrder) : String :=
  String.ofList
    ((sheetOf surface.columns surface.rows surface.message sort).text false) ++
    "\n" ++ pagerLine pager ++ "\n"

/-- Takes one stroke and returns what it prints. -/
def take (surface : Surface) : Stroke Value → Surface × String
  | .clear => ({ surface with rows := [], message := none }, "")
  | .row item => ({ surface with rows := surface.rows ++ [item] }, "")
  | .message text => ({ surface with message := some text }, "")
  | .pager pager sort => (surface, surface.printed pager sort)

/-- Takes the strokes of a frame and returns what they print. -/
def paint (surface : Surface) (strokes : List (Stroke Value)) : Surface × String :=
  strokes.foldl
    (fun (held, out) stroke =>
      let (next, more) := held.take stroke
      (next, out ++ more))
    (surface, "")

end Surface

end UtilityBilling.Grid
