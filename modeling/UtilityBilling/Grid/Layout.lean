/-
# Grids

A grid lays cells out in columns with box-drawing lines around them. A column is
as wide as its widest line and at least one cell of the terminal, with a blank on
each side; a cell of several lines makes its row taller. A header, where there is
one, is set off by a double line; rows follow each other without lines between.
-/

import UtilityBilling.Text.Blank
import UtilityBilling.Text.Width

namespace UtilityBilling.Grid

open UtilityBilling.Text

/-- The colours a cell can have. -/
inductive Colour where
  | red
  | cyan
  | yellow
  deriving DecidableEq, Repr

/-- The number of a colour in the palette of 256. -/
def Colour.code : Colour → Nat
  | .red => 9
  | .cyan => 14
  | .yellow => 11

/-- The emphasis a cell can have. -/
inductive Emphasis where
  | bold
  | italic
  deriving DecidableEq, Repr

/-- A cell of a grid. -/
structure Cell where
  text : String
  colour : Option Colour := none
  emphasis : Option Emphasis := none
  deriving DecidableEq, Repr, Inhabited

/-- A grid: its header, if it has one, and its rows. -/
structure Sheet where
  header : Option (List Cell) := none
  rows : List (List Cell) := []
  deriving DecidableEq, Repr

/-- Drops a carriage return at the end of a line. -/
def dropReturn (line : List Char) : List Char :=
  match line.getLast? with
  | some '\r' => line.dropLast
  | _ => line

/-- The lines of a text without their line ends. A line end at the very end adds
no line, and the empty text has one empty line. -/
def linesOf (text : String) : List (List Char) :=
  let pieces := splitAll (· == '\n') text.toList
  let last := pieces.getLast?.getD []
  let ended := pieces.dropLast.map dropReturn
  if last.isEmpty && !ended.isEmpty then ended else ended ++ [last]

/-- The width of the widest line of a cell. -/
def Cell.width (cell : Cell) : Nat :=
  (linesOf cell.text).foldl (fun widest line => max widest (displayWidth line)) 1

/-- The widths of columns grown so that a row fits, column by column. -/
def growWidths : List Nat → List Cell → List Nat
  | widths, [] => widths
  | [], cell :: cells => cell.width :: growWidths [] cells
  | width :: widths, cell :: cells => max width cell.width :: growWidths widths cells

/-- The widths of the columns of a grid. -/
def Sheet.widths (sheet : Sheet) : List Nat :=
  sheet.rows.foldl growWidths (growWidths [] (sheet.header.getD []))

/-- The codes that switch the style of a cell on. -/
def Cell.styleCodes (cell : Cell) : List Char :=
  let colour := match cell.colour with
    | some c => ['\x1b', '[', '3', '8', ';', '5', ';'] ++ Nat.toDigits 10 c.code ++ ['m']
    | none => []
  let emphasis := match cell.emphasis with
    | some .bold => ['\x1b', '[', '1', 'm']
    | some .italic => ['\x1b', '[', '3', 'm']
    | none => []
  colour ++ emphasis

/-- A text with a style around it, if there is one. -/
def withStyle (codes text : List Char) : List Char :=
  if codes.isEmpty then text else codes ++ text ++ ['\x1b', '[', '0', 'm']

/-- Blanks. -/
def blanks (count : Nat) : List Char :=
  List.replicate count ' '

/-- One line of a cell filled up to the width of its column. A line that the cell
does not have is blank. -/
def Cell.line (styled : Bool) (cell : Cell) (width index : Nat) : List Char :=
  match (linesOf cell.text)[index]? with
  | some text =>
    let padded := ' ' :: (text ++ blanks (width - displayWidth text) ++ [' '])
    withStyle (if styled then cell.styleCodes else []) padded
  | none => blanks (width + 2)

/-- Pieces with a character between them. -/
def joinBy (between : Char) : List (List Char) → List Char
  | [] => []
  | [only] => only
  | first :: second :: rest => first ++ between :: joinBy between (second :: rest)

/-- How many lines a row takes. -/
def rowHeight (cells : List Cell) : Nat :=
  cells.foldl (fun height cell => max height (linesOf cell.text).length) 0

/-- The cells of a row with one for every column. -/
def fillRow : List Nat → List Cell → List (Cell × Nat)
  | [], _ => []
  | width :: widths, [] => ({ text := "" }, width) :: fillRow widths []
  | width :: widths, cell :: cells => (cell, width) :: fillRow widths cells

/-- The lines of a row. -/
def rowLines (styled : Bool) (widths : List Nat) (cells : List Cell) :
    List (List Char) :=
  let filled := fillRow widths cells
  (List.range (rowHeight cells)).map fun index =>
    '│' :: (joinBy '┆' (filled.map fun (cell, width) => cell.line styled width index) ++ ['│'])

/-- A horizontal line across the grid. -/
def ruleLine (widths : List Nat) (left fill cross right : Char) : List Char :=
  left :: (joinBy cross (widths.map fun width => List.replicate (width + 2) fill) ++ [right])

/-- The lines of a grid. -/
def Sheet.lines (styled : Bool) (sheet : Sheet) : List (List Char) :=
  let widths := sheet.widths
  let header := match sheet.header with
    | some cells => rowLines styled widths cells ++ [ruleLine widths '╞' '═' '╪' '╡']
    | none => []
  ruleLine widths '┌' '─' '┬' '┐' ::
    (header ++ sheet.rows.flatMap (rowLines styled widths) ++
      [ruleLine widths '└' '─' '┴' '┘'])

/-- The text of a grid, without a line end at the end. -/
def Sheet.text (styled : Bool) (sheet : Sheet) : List Char :=
  joinBy '\n' (sheet.lines styled)

end UtilityBilling.Grid
