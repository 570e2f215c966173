/-
# Records in a grid

What a grid shows is told from the lines that it is printed in. A record stands in one or more
lines of its own, as many as its tallest cell takes; in each of them every cell shows one line of
its text, or nothing below its last one, filled up to the width of its column. A grid prints its
records in order with nothing between them, and no line of it is broken. What carries this is that
every cell fits in its column, since the columns only grow from row to row.
-/

import Mathlib.Data.List.Forall2
import UtilityBilling.Grid.Layout
import UtilityBilling.Proofs.Text.Splitting

namespace UtilityBilling.Grid

open UtilityBilling.Text

/-- A field shows a line between two blanks, filled up to a width. -/
def Field (width : Nat) (line field : List Char) : Prop :=
  ∃ fill, displayWidth line + fill = width ∧
    field = ' ' :: (line ++ List.replicate fill ' ' ++ [' '])

/-- A line of a record has one field for every cell, in order, with the line of the cell that has
this number. -/
def RecordLine (widths : List Nat) (texts : List String) (index : Nat) (line : List Char) : Prop :=
  ∃ fields, line = '│' :: (['┆'].intercalate fields ++ ['│']) ∧
    List.Forall₂
      (fun (cell : String × Nat) field => Field cell.2 ((linesOf cell.1)[index]?.getD []) field)
      (texts.zip widths) fields

/-- Some lines show a record of some texts. -/
structure Record (widths : List Nat) (texts : List String) (lines : List (List Char)) : Prop where
  /-- There is a cell for every column. -/
  cells : texts.length = widths.length
  each : ∀ index line, lines[index]? = some line → RecordLine widths texts index line
  /-- No line of a cell is lost. -/
  whole : ∀ text ∈ texts, (linesOf text).length ≤ lines.length
  /-- The last line is a line of a cell. -/
  tight : lines = [] ∨ ∃ text ∈ texts, (linesOf text).length = lines.length
  seen : texts ≠ [] → lines ≠ []

/-- The head of a grid: a record of its titles and a line below it, if there are titles. -/
inductive Head (widths : List Nat) : List String → List (List Char) → Prop where
  | none : Head widths [] []
  | titles {titles : List String} {lines : List (List Char)} (some_ : titles ≠ [])
      (record : Record widths titles lines) :
      Head widths titles (lines ++ [ruleLine widths '╞' '═' '╪' '╡'])

/-- Some lines show a grid of some records below some titles, and nothing else. -/
inductive Tabulates (titles : List String) (records : List (List String)) :
    List (List Char) → Prop where
  | grid {widths : List Nat} {head : List (List Char)} {blocks : List (List (List Char))}
      (top : Head widths titles head) (each : List.Forall₂ (Record widths) records blocks) :
      Tabulates titles records (ruleLine widths '┌' '─' '┬' '┐' ::
        (head ++ blocks.flatten ++ [ruleLine widths '└' '─' '┴' '┘']))

theorem linesOf_ne_nil (text : String) : linesOf text ≠ [] := by
  unfold linesOf
  dsimp only
  split
  case isTrue some_ => simp_all
  case isFalse => exact List.append_ne_nil_of_right_ne_nil _ (List.cons_ne_nil _ _)

theorem mem_of_mem_dropReturn {line : List Char} {c : Char} (within : c ∈ dropReturn line) :
    c ∈ line := by
  unfold dropReturn at within
  split at within
  · exact List.dropLast_subset _ within
  · exact within

/-- No line of a text holds a line end. -/
theorem newline_not_mem_linesOf {text : String} {line : List Char} (member : line ∈ linesOf text) :
    '\n' ∉ line := by
  let pieces := splitAll (· == '\n') text.toList
  have plain : ∀ piece ∈ pieces, '\n' ∉ piece := fun piece isPiece within => by
    simpa using separates_of_mem isPiece within
  have ended : ∀ piece ∈ pieces.dropLast.map dropReturn, '\n' ∉ piece := by
    intro piece isPiece within
    obtain ⟨whole, isWhole, rfl⟩ := List.mem_map.mp isPiece
    exact plain whole (List.dropLast_subset _ isWhole) (mem_of_mem_dropReturn within)
  have last : '\n' ∉ pieces.getLast?.getD [] := by
    cases found : pieces.getLast? with
    | none => exact List.not_mem_nil
    | some piece => exact plain piece (List.mem_of_getLast? found)
  unfold linesOf at member
  dsimp only at member
  split at member
  · exact ended line member
  · rcases List.mem_append.mp member with early | late
    · exact ended line early
    · rwa [List.mem_singleton.mp late]

theorem joinBy_eq_intercalate (between : Char) (pieces : List (List Char)) :
    joinBy between pieces = [between].intercalate pieces := by
  induction pieces using joinBy.induct with
  | case1 => rfl
  | case2 only => simp [joinBy, List.intercalate]
  | case3 first second rest ih =>
      rw [joinBy, ih]
      rfl

theorem mem_intercalate {between c : Char} {pieces : List (List Char)}
    (within : c ∈ [between].intercalate pieces) : c = between ∨ ∃ piece ∈ pieces, c ∈ piece := by
  rw [← joinBy_eq_intercalate] at within
  induction pieces using joinBy.induct with
  | case1 => exact absurd within List.not_mem_nil
  | case2 only => exact .inr ⟨only, List.mem_cons_self, within⟩
  | case3 first second rest ih =>
      rcases List.mem_append.mp within with here | later
      · exact .inr ⟨first, List.mem_cons_self, here⟩
      · rcases List.mem_cons.mp later with rfl | further
        · exact .inl rfl
        · exact (ih further).imp_right fun ⟨piece, isPiece, held⟩ =>
            ⟨piece, List.mem_cons_of_mem _ isPiece, held⟩

/-- Every cell of a row fits in its column, and there is a cell for every column. -/
def Fits (cells : List Cell) (widths : List Nat) : Prop :=
  List.Forall₂ (fun cell width => cell.width ≤ width) cells widths

/-- A row that fits needs no cells besides its own. -/
theorem Fits.fillRow_eq {cells : List Cell} {widths : List Nat} (fits : Fits cells widths) :
    fillRow widths cells = cells.zip widths := by
  induction fits with
  | nil => rfl
  | cons _ _ ih => rw [fillRow, ih, List.zip_cons_cons]

/-- The greatest of some numbers is at least the one that it starts from and each of them, and it
is one of these. -/
theorem foldl_max_spec {α : Type} (size : α → Nat) (items : List α) (start : Nat) :
    let most := items.foldl (fun most item => max most (size item)) start
    start ≤ most ∧ (∀ item ∈ items, size item ≤ most) ∧
      (most = start ∨ ∃ item ∈ items, size item = most) := by
  induction items generalizing start with
  | nil => exact ⟨Nat.le_refl _, fun _ none_ => absurd none_ List.not_mem_nil, .inl rfl⟩
  | cons first others ih =>
      obtain ⟨least, each, one⟩ := ih (max start (size first))
      rw [List.foldl_cons]
      refine ⟨(Nat.le_max_left _ _).trans least, ?_, ?_⟩
      · exact List.forall_mem_cons.mpr ⟨(Nat.le_max_right _ _).trans least, each⟩
      · rcases one with same | ⟨item, member, same⟩
        · rcases Nat.le_total start (size first) with less | less
          · exact .inr ⟨first, List.mem_cons_self, by rw [same, Nat.max_eq_right less]⟩
          · exact .inl (by rw [same, Nat.max_eq_left less])
        · exact .inr ⟨item, List.mem_cons_of_mem _ member, same⟩

theorem displayWidth_le_width {cell : Cell} {line : List Char} (member : line ∈ linesOf cell.text) :
    displayWidth line ≤ cell.width :=
  (foldl_max_spec displayWidth (linesOf cell.text) 1).2.1 line member

/-- A cell that fits in its column shows each of its lines in a field, and an empty field below
them. -/
theorem field_line {cell : Cell} {width : Nat} (fits : cell.width ≤ width) (index : Nat) :
    Field width ((linesOf cell.text)[index]?.getD []) (cell.line false width index) := by
  unfold Cell.line
  cases found : (linesOf cell.text)[index]? with
  | none => exact ⟨width, Nat.zero_add width, by rw [blanks, List.replicate_succ']; rfl⟩
  | some line =>
      have narrow := (displayWidth_le_width (List.mem_of_getElem? found)).trans fits
      exact ⟨width - displayWidth line, Nat.add_sub_cancel' narrow, rfl⟩

/-- The lines of a row that fits show the record of its texts. -/
theorem Fits.record {cells : List Cell} {widths : List Nat} (fits : Fits cells widths) :
    Record widths (cells.map Cell.text) (rowLines false widths cells) := by
  obtain ⟨-, each, tallest⟩ :=
    foldl_max_spec (fun cell : Cell => (linesOf cell.text).length) cells 0
  have height : (rowLines false widths cells).length = rowHeight cells := by
    rw [rowLines, List.length_map, List.length_range]
  refine ⟨?_, ?_, ?_, ?_, ?_⟩
  · rw [List.length_map, List.Forall₂.length_eq fits]
  · intro index line found
    rw [rowLines, List.getElem?_map] at found
    obtain ⟨number, counted, rfl⟩ := Option.map_eq_some_iff.mp found
    obtain ⟨_, rfl⟩ := List.getElem?_eq_some_iff.mp counted
    refine ⟨_, by rw [joinBy_eq_intercalate], ?_⟩
    rw [fits.fillRow_eq, List.zip_map_left, List.forall₂_map_left_iff, List.forall₂_map_right_iff,
      List.forall₂_same, List.getElem_range]
    exact fun (cell, width) member => field_line (List.forall₂_zip fits member) index
  · rw [height]
    exact List.forall_mem_map.mpr each
  · rw [height]
    rcases tallest with flat | ⟨cell, member, same⟩
    · exact .inl (List.eq_nil_of_length_eq_zero (height.trans flat))
    · exact .inr ⟨cell.text, List.mem_map_of_mem member, same⟩
  · intro some_ none_
    obtain ⟨cell, member⟩ :=
      List.exists_mem_of_ne_nil cells fun empty => some_ (congrArg (List.map Cell.text) empty)
    have short := each cell member
    rw [← rowHeight, ← height, none_] at short
    exact linesOf_ne_nil cell.text (List.eq_nil_of_length_eq_zero (Nat.le_zero.mp short))

/-- A row fits in columns that have grown by it. -/
theorem fits_growWidths {cells : List Cell} {widths : List Nat}
    (shape : widths = [] ∨ widths.length = cells.length) :
    Fits cells (growWidths widths cells) := by
  induction cells generalizing widths with
  | nil =>
      have none_ : widths = [] := shape.elim id List.eq_nil_of_length_eq_zero
      rw [none_]
      exact .nil
  | cons cell cells ih =>
      cases widths with
      | nil => exact .cons (Nat.le_refl _) (ih (.inl rfl))
      | cons width widths =>
          have same := shape.resolve_left (List.cons_ne_nil _ _)
          exact .cons (Nat.le_max_right _ _) (ih (.inr (Nat.succ.inj same)))

/-- What fits in some columns fits in them after they have grown. -/
theorem Fits.growWidths {cells : List Cell} {widths : List Nat} (fits : Fits cells widths)
    (more : List Cell) (same : more.length = cells.length) :
    Fits cells (growWidths widths more) := by
  induction fits generalizing more with
  | nil => rw [List.eq_nil_of_length_eq_zero same]; exact .nil
  | cons narrow _ ih =>
      cases more with
      | nil => cases same
      | cons first others =>
          exact .cons (narrow.trans (Nat.le_max_left _ _)) (ih others (Nat.succ.inj same))

theorem Fits.foldl {cells : List Cell} {widths : List Nat} (fits : Fits cells widths)
    {rows : List (List Cell)} (same : ∀ row ∈ rows, row.length = cells.length) :
    Fits cells (rows.foldl Grid.growWidths widths) := by
  induction rows generalizing widths with
  | nil => exact fits
  | cons row rows ih =>
      obtain ⟨first, others⟩ := List.forall_mem_cons.mp same
      exact ih (fits.growWidths row first) others

/-- Every row fits in the columns that have grown by all rows. -/
theorem fits_foldl {count : Nat} {rows : List (List Cell)} {widths : List Nat}
    (shape : widths = [] ∨ widths.length = count) (same : ∀ row ∈ rows, row.length = count) :
    ∀ row ∈ rows, Fits row (rows.foldl growWidths widths) := by
  induction rows generalizing widths with
  | nil => exact fun _ none_ => absurd none_ List.not_mem_nil
  | cons row rows ih =>
      obtain ⟨rfl, others⟩ := List.forall_mem_cons.mp same
      have fits := fits_growWidths shape
      exact List.forall_mem_cons.mpr
        ⟨fits.foldl others, ih (.inr (List.Forall₂.length_eq fits).symm) others⟩

/-- A grid has the same number of cells in all of its rows. -/
def Sheet.Rectangular (sheet : Sheet) (count : Nat) : Prop :=
  ∀ row ∈ sheet.header.toList ++ sheet.rows, row.length = count

theorem Sheet.widths_eq (sheet : Sheet) :
    sheet.widths = (sheet.header.toList ++ sheet.rows).foldl growWidths [] := by
  rw [Sheet.widths, List.foldl_append]
  cases sheet.header with
  | none => rfl
  | some cells => rfl

/-- The lines of the header of a grid, if it has one. -/
def Sheet.headLines (styled : Bool) (sheet : Sheet) : List (List Char) :=
  sheet.header.elim [] fun cells =>
    rowLines styled sheet.widths cells ++ [ruleLine sheet.widths '╞' '═' '╪' '╡']

theorem Sheet.lines_eq (styled : Bool) (sheet : Sheet) :
    sheet.lines styled =
      ruleLine sheet.widths '┌' '─' '┬' '┐' ::
        (sheet.headLines styled ++ (sheet.rows.map (rowLines styled sheet.widths)).flatten ++
          [ruleLine sheet.widths '└' '─' '┴' '┘']) := by
  unfold Sheet.lines Sheet.headLines
  cases sheet.header <;> rfl

/-- A rectangular grid shows its rows below its header. -/
theorem Sheet.Rectangular.tabulates {sheet : Sheet} {count : Nat} (even : sheet.Rectangular count)
    (headed : sheet.header ≠ some []) :
    Tabulates ((sheet.header.getD []).map Cell.text) (sheet.rows.map (List.map Cell.text))
      (sheet.lines false) := by
  have fits := fits_foldl (.inl rfl) even
  rw [← sheet.widths_eq] at fits
  have top : Head sheet.widths ((sheet.header.getD []).map Cell.text)
      (sheet.headLines false) := by
    unfold Sheet.headLines
    cases header : sheet.header with
    | none => exact .none
    | some cells =>
        have titled : cells.map Cell.text ≠ [] := fun none_ =>
          headed (header.trans (congrArg some (List.map_eq_nil_iff.mp none_)))
        exact .titles titled (fits cells (by simp [header])).record
  have each : List.Forall₂ (Record sheet.widths) (sheet.rows.map (List.map Cell.text))
      (sheet.rows.map (rowLines false sheet.widths)) := by
    rw [List.forall₂_map_left_iff, List.forall₂_map_right_iff, List.forall₂_same]
    exact fun row member => (fits row (List.mem_append_right _ member)).record
  rw [sheet.lines_eq]
  exact .grid top each

/-- What is on the right of two related lists is related to something on the left. -/
theorem exists_related {α β : Type} {relates : α → β → Prop} {left : List α} {right : List β}
    (related : List.Forall₂ relates left right) {b : β} (member : b ∈ right) :
    ∃ a ∈ left, relates a b := by
  induction related with
  | nil => exact absurd member List.not_mem_nil
  | cons here _ ih =>
      rcases List.mem_cons.mp member with rfl | later
      · exact ⟨_, List.mem_cons_self, here⟩
      · exact (ih later).imp fun _ found => found.imp_left (List.mem_cons_of_mem _)

/-- A line is unbroken if its pieces are, and the signs around them. -/
theorem newline_not_mem_line {left between right : Char} {pieces : List (List Char)}
    (signs : '\n' ∉ [left, between, right]) (plain : ∀ piece ∈ pieces, '\n' ∉ piece) :
    '\n' ∉ left :: ([between].intercalate pieces ++ [right]) := by
  intro within
  rcases List.mem_cons.mp within with same | within
  · exact signs (by rw [same]; exact List.mem_cons_self)
  rcases List.mem_append.mp within with inside | same
  · rcases mem_intercalate inside with same | ⟨piece, isPiece, held⟩
    · exact signs (by rw [same]; simp)
    · exact plain piece isPiece held
  · exact signs (by rw [List.mem_singleton.mp same]; simp)

theorem newline_not_mem_ruleLine (widths : List Nat) {left fill cross right : Char}
    (signs : '\n' ∉ [left, cross, right]) (plain : '\n' ≠ fill) :
    '\n' ∉ ruleLine widths left fill cross right := by
  rw [ruleLine, joinBy_eq_intercalate]
  refine newline_not_mem_line signs (List.forall_mem_map.mpr fun width _ within => ?_)
  exact plain (List.eq_of_mem_replicate within)

theorem Field.unbroken {width : Nat} {line field : List Char} (shown : Field width line field)
    (plain : '\n' ∉ line) : '\n' ∉ field := by
  obtain ⟨fill, -, rfl⟩ := shown
  simp [plain]

theorem RecordLine.unbroken {widths : List Nat} {texts : List String} {index : Nat}
    {line : List Char} (shown : RecordLine widths texts index line) : '\n' ∉ line := by
  obtain ⟨fields, rfl, each⟩ := shown
  refine newline_not_mem_line (by decide) fun shown member => ?_
  obtain ⟨⟨text, width⟩, -, field⟩ := exists_related each member
  refine field.unbroken ?_
  cases found : (linesOf text)[index]? with
  | none => exact List.not_mem_nil
  | some line => exact newline_not_mem_linesOf (List.mem_of_getElem? found)

theorem Record.unbroken {widths : List Nat} {texts : List String} {lines : List (List Char)}
    (record : Record widths texts lines) : ∀ line ∈ lines, '\n' ∉ line := by
  intro line member
  obtain ⟨index, found⟩ := List.getElem?_of_mem member
  exact (record.each index line found).unbroken

theorem Head.unbroken {widths : List Nat} {titles : List String} {lines : List (List Char)}
    (head : Head widths titles lines) : ∀ line ∈ lines, '\n' ∉ line := by
  cases head with
  | none => exact fun _ none_ => absurd none_ List.not_mem_nil
  | titles _ record =>
      exact List.forall_mem_append.mpr ⟨record.unbroken,
        List.forall_mem_singleton.mpr (newline_not_mem_ruleLine widths (by decide) (by decide))⟩

/-- No line of a grid holds a line end. -/
theorem Tabulates.unbroken {titles : List String} {records : List (List String)}
    {lines : List (List Char)} (shown : Tabulates titles records lines) :
    ∀ line ∈ lines, '\n' ∉ line := by
  cases shown with
  | @grid widths head blocks top each =>
      have rows : ∀ line ∈ blocks.flatten, '\n' ∉ line := by
        intro line member
        obtain ⟨block, isBlock, within⟩ := List.mem_flatten.mp member
        obtain ⟨texts, -, record⟩ := exists_related each isBlock
        exact record.unbroken line within
      refine List.forall_mem_cons.mpr
        ⟨newline_not_mem_ruleLine widths (by decide) (by decide), ?_⟩
      exact List.forall_mem_append.mpr ⟨List.forall_mem_append.mpr ⟨top.unbroken, rows⟩,
        List.forall_mem_singleton.mpr (newline_not_mem_ruleLine widths (by decide) (by decide))⟩

end UtilityBilling.Grid
