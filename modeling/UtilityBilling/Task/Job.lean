/-
# Jobs

What a server job is started with and what is made of the answer that starts it: a
parameter is sent as a number, a boolean or nothing where its text reads as one, and
as text otherwise; the answer names the task; the file that a task produced is saved
under the last name in its address.
-/

import UtilityBilling.Files.Path
import UtilityBilling.Json.Reader

namespace UtilityBilling.Task

open UtilityBilling.Json (Value)
open UtilityBilling.Text

/-- The value of a parameter. -/
def parameterValue (raw : String) : Value :=
  match Json.parse? raw with
  | some (.number n) => .number n
  | some (.bool b) => .bool b
  | some .null => .null
  | _ => .text raw

/-- The body of a request that starts a job; of two parameters with one name the
later counts. -/
def jobBody (parameters : List (String × String)) : Value :=
  .ofMembers (parameters.map fun (key, raw) => (key, parameterValue raw))

/-- The members of an answer that may name the task, the preferred first. -/
def taskIdKeys : List String := ["task_id", "id"]

/-- The task id in a value: a text that is not empty, or a number. -/
def taskIdIn : Value → Option String
  | .text id => if id = "" then none else some id
  | .number n => some (String.ofList n.chars)
  | _ => none

/-- The task that an answer names. -/
def taskIdOf (answer : Value) : Option String :=
  taskIdKeys.findSome? fun key => (answer.get? key).bind taskIdIn

/-- The path of an address without its query and fragment. -/
def pathOf (url : String) : String :=
  String.ofList (url.toList.takeWhile fun c => c != '?' && c != '#')

/-- The name under which the file of a task is saved. -/
def downloadName (url taskId : String) : String :=
  (Files.fileName? (pathOf url)).getD ("task-" ++ taskId)

end UtilityBilling.Task
