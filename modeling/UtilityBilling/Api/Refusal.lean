/-
# Refusals

An answer that is no success becomes an error that says why in the server's own
words. The words are looked for in the members of a JSON body, in lists and
objects below them too; failing that the body itself is taken, and if it is blank
the status line.
-/

import UtilityBilling.Api.Error
import UtilityBilling.Api.StatusCode
import UtilityBilling.Json.Reader

namespace UtilityBilling.Api

open UtilityBilling.Json (Value)
open UtilityBilling.Text

/-- A trimmed text, unless it is blank. -/
def nonBlank? (text : String) : Option String :=
  let trimmed := trim text
  if trimmed = "" then none else some trimmed

/-- The members of an entry that may hold its words, the preferred first. -/
def entryKeys : List String := ["msg", "message", "detail"]

/-- The members of a body that may hold the server's words, the preferred first. -/
def bodyKeys : List String := ["detail", "error", "message"]

mutual

/-- The words in a value: those of a text, of all entries of a list, or of the
preferred member of an object that has any. -/
def messageOf : Value → Option String
  | .text text => nonBlank? text
  | .list entries =>
    let parts := messagesOf entries
    if parts.isEmpty then none else some (joinWith "; " parts)
  | .object members => entryKeys.findSome? fun key => (memberMessages members).lookup key
  | _ => none

/-- The words of the entries of a list that have any. -/
def messagesOf : List Value → List String
  | [] => []
  | entry :: rest =>
    match messageOf entry with
    | some message => message :: messagesOf rest
    | none => messagesOf rest

/-- The members of an object that have words, with those words. -/
def memberMessages : List (String × Value) → List (String × String)
  | [] => []
  | (key, value) :: rest =>
    match messageOf value with
    | some message => (key, message) :: memberMessages rest
    | none => memberMessages rest

end

/-- The server's words in a body. -/
def serverMessage? (body : String) : Option String :=
  match Json.parse? body with
  | some value => bodyKeys.findSome? fun key => (value.get? key).bind messageOf
  | none => none

/-- The kind of error that a status code makes. -/
def kindOf (code : StatusCode) : ErrorKind :=
  if code.isServerError then .server code.value
  else if code = .unauthorized then .unauthorized
  else .rejected code.value

/-- The error of an answer that is no success. -/
def errorOfBody (code : StatusCode) (body : String) : Error :=
  ⟨kindOf code, (serverMessage? body <|> nonBlank? body).getD code.line⟩

end UtilityBilling.Api
