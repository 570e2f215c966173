/-
# Frames and their views

A surface prints for every view what a new surface prints for it, whatever it painted before: a
frame clears what earlier frames have left on the surface, and its last stroke prints what its own
strokes have put there. What is printed is a grid and one pager line. The grid has the columns
that were given, or else those that the items have, and in them one record for every item of the
view, or one for its message.
-/

import UtilityBilling.Grid.Frame
import UtilityBilling.Proofs.Grid.Records
import UtilityBilling.Proofs.Table.Paging

namespace UtilityBilling.Grid

open UtilityBilling.Json (Value)
open UtilityBilling.Table (Body Pager Query SortOrder State Stroke View noDataText)
open UtilityBilling.Text

/-- An item is an object, whatever keys it has. -/
def IsObject (item : Value) : Prop :=
  ∃ members, item = .object members

/-- A grid of some items has these columns: the given ones, or else the keys of the first item that
is an object. -/
inductive HasColumns : List String → List Value → List String → Prop where
  | given {given : List String} {items : List Value} (some_ : given ≠ []) :
      HasColumns given items given
  | inferred {before after : List Value} {members : List (String × Value)}
      (first : ∀ item ∈ before, ¬ IsObject item) :
      HasColumns [] (before ++ .object members :: after) (members.map Prod.fst)
  | none {items : List Value} (nowhere : ∀ item ∈ items, ¬ IsObject item) :
      HasColumns [] items []

/-- The title of a column is its name; that of the chosen one has the mark of its order. -/
inductive Titled (sort : Option SortOrder) (column : String) : String → Prop where
  | other (other : ∀ order, sort = some order → order.field ≠ column) : Titled sort column column
  | ascending (chosen : sort = some ⟨column, .ascending⟩) :
      Titled sort column (column ++ " " ++ "▲")
  | descending (chosen : sort = some ⟨column, .descending⟩) :
      Titled sort column (column ++ " " ++ "▼")

/-- What a record tells of an item in a column. -/
inductive Tells : String → Value → String → Prop where
  | plain {column : String} {item : Value} (plain : ¬ IsObject item) : Tells column item "-"
  | missing {column : String} {members : List (String × Value)}
      (missing : column ∉ members.map Prod.fst) : Tells column (.object members) "-"
  | badges {column : String} {item : Value} {flags : List Value} (flagged : column ∈ flagColumns)
      (found : item.get? column = some (.list flags)) :
      Tells column item
        (" ".intercalate ((flags.filterMap Value.text?).map fun name => "[" ++ name ++ "]"))
  | value {column : String} {item value : Value} (found : item.get? column = some value)
      (unflagged : ∀ flags, value = .list flags → column ∉ flagColumns) :
      Tells column item (plainText value)

/-- A body is shown in these records: one for each item with one text for each column, in order,
or one for the message, which stands in the first column. -/
inductive Recorded (columns : List String) : Body Value → List (List String) → Prop where
  | pending : Recorded columns .pending []
  | rows {items : List Value} {records : List (List String)}
      (told : List.Forall₂
        (fun item record => List.Forall₂ (fun column text => Tells column item text) columns record)
        items records) :
      Recorded columns (.rows items) records
  | noData : Recorded columns .noData ["No data" :: List.replicate (columns.length - 1) ""]
  | failed (message : String) :
      Recorded columns (.failed message) [message :: List.replicate (columns.length - 1) ""]

/-- What is printed for a view: the lines of a grid of its records, then its pager line. -/
inductive Prints (given : List String) (view : View Value) : String → Prop where
  | frame {columns titles : List String} {records : List (List String)} {lines : List (List Char)}
      (has : HasColumns given view.body.items columns)
      (titled : List.Forall₂ (Titled view.sort) columns titles)
      (recorded : Recorded columns view.body records)
      (shown : Tabulates titles records lines) (whole : ∀ line ∈ lines, '\n' ∉ line) :
      Prints given view
        (String.ofList ((lines ++ [(pagerLine view.pager).toList]).flatMap (· ++ ['\n'])))

theorem members?_eq_none_iff {item : Value} : item.members? = none ↔ ¬ IsObject item := by
  cases item <;> simp [Value.members?, IsObject]

/-- The columns of a grid are those that it has. -/
theorem hasColumns_columnsFor (given : List String) (items : List Value) :
    HasColumns given items (columnsFor given items) := by
  cases given with
  | cons first others => exact .given (List.cons_ne_nil _ _)
  | nil =>
      change HasColumns [] items (inferredColumns items)
      unfold inferredColumns
      cases found : items.findSome? Value.members? with
      | none =>
          exact .none fun item member =>
            members?_eq_none_iff.mp (List.findSome?_eq_none_iff.mp found item member)
      | some members =>
          obtain ⟨before, item, after, rfl, object, none_⟩ := List.findSome?_eq_some_iff.mp found
          have same : item = .object members := by
            cases item <;> simp_all [Value.members?]
          rw [same]
          exact .inferred fun item member => members?_eq_none_iff.mp (none_ item member)

theorem titled_headerCell (sort : Option SortOrder) (column : String) :
    Titled sort column (headerCell sort column).text := by
  unfold headerCell
  split
  case h_2 => exact .other fun _ none_ => nomatch none_
  case h_1 order =>
    split
    case isFalse other =>
      exact .other fun _ same => Option.some.inj same ▸ other
    case isTrue chosen =>
      obtain ⟨field, direction⟩ := order
      obtain rfl : field = column := chosen
      cases direction with
      | ascending => exact .ascending rfl
      | descending => exact .descending rfl

/-- What has no value in a column is told as a dash. -/
theorem tells_dash {column : String} {item : Value} (none_ : item.get? column = none) :
    Tells column item "-" := by
  cases item with
  | object members =>
      refine .missing fun within => ?_
      obtain ⟨⟨key, value⟩, member, rfl⟩ := List.mem_map.mp within
      have absent := List.lookup_eq_none_iff.mp none_ (key, value) member
      simp at absent
  | _ => exact .plain fun ⟨_, same⟩ => nomatch same

/-- The badges of flags are their names in brackets. -/
theorem text_badgeCell (flags : List Value) :
    (badgeCell flags).text =
      " ".intercalate ((flags.filterMap Value.text?).map fun name => "[" ++ name ++ "]") := by
  unfold badgeCell
  dsimp only
  split
  case isTrue none_ =>
    rw [List.isEmpty_iff.mp none_, List.map_nil, String.intercalate_nil]
  case isFalse => exact joinWith_eq_intercalate _ _

theorem tells_valueCell (column : String) (item : Value) :
    Tells column item (valueCell column ((item.get? column).getD .null)).text := by
  cases found : item.get? column with
  | none =>
      rw [Option.getD_none, valueCell.eq_2 column .null fun _ _ same => nomatch same]
      exact tells_dash found
  | some value =>
      rw [Option.getD_some]
      unfold valueCell
      split
      case h_1 flags flagged =>
        rw [text_badgeCell]
        exact .badges (List.contains_iff_mem.mp flagged) found
      case h_2 unflagged =>
        exact .value found fun flags same flagged =>
          unflagged flags (List.contains_iff_mem.mpr flagged) same

/-- The message that a body shows. -/
def messageOf : Body Value → Option String
  | .noData => some noDataText
  | .failed message => some message
  | _ => none

/-- The grid of a view. -/
def viewSheet (given : List String) (view : View Value) : Sheet :=
  sheetOf given view.body.items (messageOf view.body) view.sort

section ViewSheet

variable (given : List String) (view : View Value)

theorem titled_viewSheet : List.Forall₂ (Titled view.sort) (columnsFor given view.body.items)
    (((viewSheet given view).header.getD []).map Cell.text) := by
  have header : (viewSheet given view).header.getD [] =
      (columnsFor given view.body.items).map (headerCell view.sort) := by
    unfold viewSheet sheetOf
    cases columnsFor given view.body.items <;> rfl
  rw [header, List.forall₂_map_right_iff, List.forall₂_map_right_iff, List.forall₂_same]
  exact fun column _ => titled_headerCell view.sort column

theorem recorded_viewSheet : Recorded (columnsFor given view.body.items) view.body
    ((viewSheet given view).rows.map (List.map Cell.text)) := by
  unfold viewSheet sheetOf
  cases view.body with
  | pending => exact .pending
  | rows items =>
      change Recorded (columnsFor given items) _
        ((items.map (itemRow (columnsFor given items))).map (List.map Cell.text))
      refine .rows ?_
      rw [List.forall₂_map_right_iff, List.forall₂_map_right_iff, List.forall₂_same]
      intro item _
      rw [itemRow, List.forall₂_map_right_iff, List.forall₂_map_right_iff, List.forall₂_same]
      exact fun column _ => tells_valueCell column item
  | noData =>
      simp only [messageOf, messageRow, List.map_cons, List.map_replicate, List.map_nil]
      exact .noData
  | failed message =>
      simp only [messageOf, messageRow, List.map_cons, List.map_replicate, List.map_nil]
      exact .failed message

/-- All rows of the grid of a view have as many cells as its header, if it has one. -/
theorem rectangular_viewSheet : ∃ count, (viewSheet given view).Rectangular count := by
  unfold viewSheet sheetOf Sheet.Rectangular
  dsimp only
  generalize columnsFor given view.body.items = columns
  cases messageOf view.body with
  | none =>
      refine ⟨columns.length, List.forall_mem_append.mpr ⟨?_, ?_⟩⟩
      · cases columns <;> simp
      · exact List.forall_mem_map.mpr fun item _ => List.length_map _
  | some text =>
      refine ⟨columns.length - 1 + 1, List.forall_mem_append.mpr ⟨?_, ?_⟩⟩
      · cases columns <;> simp
      · simp [messageRow]

theorem header_viewSheet : (viewSheet given view).header ≠ some [] := by
  unfold viewSheet sheetOf
  cases columnsFor given view.body.items <;> simp

/-- The grid of a view shows the records of its body. -/
theorem tabulates_viewSheet :
    Tabulates (((viewSheet given view).header.getD []).map Cell.text)
      ((viewSheet given view).rows.map (List.map Cell.text)) ((viewSheet given view).lines false) :=
  have ⟨_, even⟩ := rectangular_viewSheet given view
  even.tabulates (header_viewSheet given view)

end ViewSheet

namespace Surface

/-- What strokes print follows what was printed before. -/
theorem foldl_take (strokes : List (Stroke Value)) (surface : Surface) (out : String) :
    strokes.foldl
      (fun (held, out) stroke =>
        let (next, more) := held.take stroke
        (next, out ++ more))
      (surface, out) = ((surface.paint strokes).1, out ++ (surface.paint strokes).2) := by
  unfold paint
  induction strokes generalizing surface out with
  | nil => simp
  | cons stroke strokes ih =>
      rw [List.foldl_cons, List.foldl_cons, ih, ih _ ("" ++ _), String.empty_append,
        String.append_assoc]

theorem paint_cons (surface : Surface) (stroke : Stroke Value) (strokes : List (Stroke Value)) :
    surface.paint (stroke :: strokes) =
      (((surface.take stroke).1.paint strokes).1,
        (surface.take stroke).2 ++ ((surface.take stroke).1.paint strokes).2) := by
  rw [paint, List.foldl_cons, foldl_take, String.empty_append]

/-- Rows are kept and print nothing. -/
theorem paint_rows (surface : Surface) (items : List Value) (strokes : List (Stroke Value)) :
    surface.paint (items.map .row ++ strokes) =
      { surface with rows := surface.rows ++ items }.paint strokes := by
  induction items generalizing surface with
  | nil => rw [List.map_nil, List.nil_append, List.append_nil]
  | cons item items ih =>
      rw [List.map_cons, List.cons_append, paint_cons, take, ih, String.empty_append,
        List.append_assoc]
      rfl

/-- The surface that holds a view. -/
def holding (columns : List String) (view : View Value) : Surface :=
  { columns := columns, rows := view.body.items, message := messageOf view.body }

/-- A frame clears the surface, puts the view there and prints it. -/
theorem paint_frame (surface : Surface) (view : View Value) :
    surface.paint view.frame =
      (holding surface.columns view,
        (holding surface.columns view).printed view.pager view.sort) := by
  obtain ⟨body, search, sort, loading, pager⟩ := view
  have pages (held : Surface) :
      held.paint [.pager pager sort] = (held, held.printed pager sort) := by
    rw [paint_cons]
    simp [take, paint]
  have cleared : surface.take .clear = ({ surface with rows := [], message := none }, "") := rfl
  rw [View.frame, paint_cons, cleared, String.empty_append]
  cases body with
  | pending => exact pages _
  | rows items =>
      rw [Body.strokes, paint_rows, pages]
      rfl
  | noData =>
      rw [Body.strokes, List.singleton_append, paint_cons, take, String.empty_append, pages]
      rfl
  | failed message =>
      rw [Body.strokes, List.singleton_append, paint_cons, take, String.empty_append, pages]
      rfl

/-- Paints views one after the other, and returns what is printed for each. -/
def paintEach (surface : Surface) : List (View Value) → List String
  | [] => []
  | view :: views =>
    let (next, printed) := surface.paint view.frame
    printed :: next.paintEach views

end Surface

/-- What a new surface prints for a view. -/
def frameText (given : List String) (view : View Value) : String :=
  (({ columns := given } : Surface).paint view.frame).2

/-- A surface prints for every view what a new one prints for it. -/
theorem paintEach_eq (surface : Surface) (views : List (View Value)) :
    surface.paintEach views = views.map (frameText surface.columns) := by
  induction views generalizing surface with
  | nil => rfl
  | cons view views ih =>
      rw [Surface.paintEach, Surface.paint_frame, List.map_cons, frameText, Surface.paint_frame]
      exact congrArg (List.cons _) (ih _)

/-- Lines that are joined by a sign and followed by it have it behind each of them. -/
theorem joinBy_ended {ending : Char} {lines : List (List Char)} (some_ : lines ≠ []) :
    joinBy ending lines ++ [ending] = lines.flatMap (· ++ [ending]) := by
  induction lines using joinBy.induct with
  | case1 => exact absurd rfl some_
  | case2 only => simp [joinBy]
  | case3 first second rest ih =>
      rw [joinBy, List.append_assoc, List.cons_append, ih (List.cons_ne_nil _ _)]
      exact List.append_cons first ending _

theorem frameText_eq (given : List String) (view : View Value) :
    frameText given view =
      String.ofList (((viewSheet given view).lines false ++
        [(pagerLine view.pager).toList]).flatMap (· ++ ['\n'])) := by
  have text : ((viewSheet given view).text false) ++ ['\n'] =
      ((viewSheet given view).lines false).flatMap (· ++ ['\n']) :=
    joinBy_ended (List.cons_ne_nil _ _)
  rw [frameText, Surface.paint_frame]
  apply String.toList_inj.mp
  change (String.ofList ((viewSheet given view).text false) ++ "\n" ++ pagerLine view.pager ++
    "\n").toList = _
  rw [List.flatMap_append, ← text]
  simp

/-- For a view its grid and its pager line are printed. -/
theorem prints_frameText (given : List String) (view : View Value) :
    Prints given view (frameText given view) := by
  have shown := tabulates_viewSheet given view
  rw [frameText_eq]
  exact .frame (hasColumns_columnsFor given view.body.items) (titled_viewSheet given view)
    (recorded_viewSheet given view) shown shown.unbroken

theorem newline_not_mem_toDigits (n : Nat) : '\n' ∉ Nat.toDigits 10 n := by
  intro within
  have digit := Nat.isDigit_of_mem_toDigits (by decide) (by decide) within
  revert digit
  decide

theorem newline_not_mem_joinWith {separator : String} {parts : List String}
    (plain : '\n' ∉ separator.toList) (each : ∀ part ∈ parts, '\n' ∉ part.toList) :
    '\n' ∉ (joinWith separator parts).toList := by
  induction parts using joinWith.induct with
  | case1 => exact List.not_mem_nil
  | case2 only => exact each only List.mem_cons_self
  | case3 first others more ih =>
      obtain ⟨here, rest⟩ := List.forall_mem_cons.mp each
      rw [joinWith.eq_3 separator _ _ more]
      simp [here, plain, ih rest]

/-- A pager is printed in one line if its label is one. -/
theorem newline_not_mem_pagerLine {pager : Pager} (label : '\n' ∉ pager.rangeLabel.toList) :
    '\n' ∉ (pagerLine pager).toList := by
  have sizes : '\n' ∉ (joinWith "/" (pager.pageSizes.map fun size => size.toNat.repr)).toList :=
    newline_not_mem_joinWith (by decide)
      (List.forall_mem_map.mpr fun size _ => by
        rw [Nat.toList_repr]
        exact newline_not_mem_toDigits size.toNat)
  have controls : ∀ names ⊆ ["[p]rev", "[n]ext"], '\n' ∉ (joinWith " " names).toList :=
    fun _ named => newline_not_mem_joinWith (by decide) fun part member =>
      (by decide : ∀ name ∈ ["[p]rev", "[n]ext"], '\n' ∉ name.toList) part (named member)
  unfold pagerLine
  cases pager.previousEnabled <;> cases pager.nextEnabled <;>
    simp [newline_not_mem_toDigits, label, sizes, controls]

theorem newline_not_mem_rangeLabel (query : Query) (shown : UInt64) :
    '\n' ∉ (query.rangeLabel shown).toList := by
  unfold Query.rangeLabel
  split <;> simp [newline_not_mem_toDigits]

/-- The columns come from the second item, and the first one, which is no object, has a row. -/
example :
    let pager : Pager := ⟨1, 20, 2, 1, [10, 20], false, false, "1–2 of 2"⟩
    let items : List Value :=
      [.null, .object [("flags", .list [.text "FROZEN", .null]), ("room", .text "7")]]
    frameText [] ⟨.rows items, "", some ⟨"room", .descending⟩, false, pager⟩ =
      "┌──────────┬────────┐\n" ++
      "│ flags    ┆ room ▼ │\n" ++
      "╞══════════╪════════╡\n" ++
      "│ -        ┆ -      │\n" ++
      "│ [FROZEN] ┆ 7      │\n" ++
      "└──────────┴────────┘\n" ++
      "Page 1/1 | 1–2 of 2 | 20 per page (10/20)\n" := by
  decide +kernel

end UtilityBilling.Grid
