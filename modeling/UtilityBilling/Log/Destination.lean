/-
# Log destinations

Where the log goes: to a file, to the terminal, or to both. The file is made anew
when the log is opened; if it cannot be made, a warning is shown and the log goes
without it.
-/

import UtilityBilling.Files.Volume
import UtilityBilling.Text.Quoted

namespace UtilityBilling.Log

open UtilityBilling.Files (Volume)
open UtilityBilling.Text

/-- Where the log goes. -/
inductive Destination where
  | file (path : String)
  | terminal
  | both (path : String)
  deriving DecidableEq, Repr

/-- The file of a destination. -/
def Destination.file? : Destination → Option String
  | .file path | .both path => some path
  | .terminal => none

/-- Opens the log: the files afterwards and what is shown to the user. -/
def Destination.prepare (destination : Destination) (volume : Volume) : Volume × String :=
  match destination.file? with
  | none => (volume, "")
  | some path =>
    match volume.createFile path with
    | (.ok (), made) => (made, "")
    | (.error e, after) =>
      (after,
        "Warning: Could not create log file at " ++ quoted path ++ ": " ++ e.message ++ "\n")

end UtilityBilling.Log
