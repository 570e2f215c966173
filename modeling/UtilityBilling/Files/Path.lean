/-
# Paths

A path is a text whose parts are separated by slashes. Empty parts and single dots
mean nothing; two dots mean the directory above. The file name of a path is its
last part, if that is a name.
-/

import UtilityBilling.Text.Blank

namespace UtilityBilling.Files

open UtilityBilling.Text

/-- A part of a path. -/
inductive Part where
  | up
  | name (name : String)
  deriving DecidableEq, Repr

/-- The part that a piece between slashes stands for, if it means anything. -/
def partOf (piece : List Char) : Option Part :=
  match piece with
  | [] | ['.'] => none
  | ['.', '.'] => some .up
  | _ => some (.name (String.ofList piece))

/-- The parts of a path. -/
def parts (path : String) : List Part :=
  (splitAll (· == '/') path.toList).filterMap partOf

/-- The file name of a path. -/
def fileName? (path : String) : Option String :=
  match (parts path).getLast? with
  | some (.name name) => some name
  | _ => none

/-- The text of a part. -/
def Part.text : Part → String
  | .up => ".."
  | .name own => own

/-- The directory that holds what a path leads to; the working directory for a path
of one part. -/
def directoryOf (path : String) : String :=
  let above := joinWith "/" ((parts path).dropLast.map Part.text)
  if above = "" then "." else above

/-- Whether a path can only mean a directory, by the way it ends. -/
def endsAsDirectory (path : String) : Bool :=
  match (splitAll (· == '/') path.toList).getLast? with
  | some [] | some ['.'] | some ['.', '.'] => true
  | _ => false

/-- A path followed by a file name. -/
def joinName (directory name : String) : String :=
  match directory.toList.getLast? with
  | none => name
  | some '/' => directory ++ name
  | some _ => directory ++ "/" ++ name

end UtilityBilling.Files
