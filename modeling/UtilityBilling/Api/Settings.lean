/-
# Settings of the backend

Where the backend is and how its addresses are formed. An endpoint path is put
behind the base url, unless it is a whole url of its own; a link that the server
hands out is resolved the way a browser would. Only addresses of the base url's own
origin belong to the backend.
-/

import UtilityBilling.Api.Error
import UtilityBilling.Url.Form
import UtilityBilling.Url.Parser

namespace UtilityBilling.Api

open UtilityBilling.Text
open UtilityBilling.Url (Address)

/-- Where the backend is and how long it may take. -/
structure Settings where
  baseUrl : Address
  /-- How long a request may take, in seconds. -/
  requestTimeout : Nat := 30
  loginPath : String := "/auth/login"
  /-- The place of the task id is marked. -/
  taskStatusPath : String := "/tasks/\x7bid\x7d"
  deriving DecidableEq, Repr

/-- The mark for the task id in the path of the status endpoint. -/
def taskIdMark : List Char := ['\x7b', 'i', 'd', '\x7d']

/-- The error of a text that is no url. -/
def urlError (text : List Char) (error : Url.ParseError) : Error :=
  ⟨.invalidUrl, String.ofList text ++ ": " ++ error.message⟩

namespace Settings

/-- The usual settings for a base url. -/
def ofBaseUrl (text : String) : Result Settings :=
  match Url.parse text.toList with
  | .ok url => .ok { baseUrl := url }
  | .error error => .error (urlError text.toList error)

/-- The base url without the slashes at its end. -/
def baseText (settings : Settings) : List Char :=
  (settings.baseUrl.chars.reverse.dropWhile (· == '/')).reverse

/-- The address of an endpoint path without parameters. -/
def addressOf (settings : Settings) (path : List Char) : Result Address :=
  match Url.parse path with
  | .ok url => .ok url
  | .error _ =>
    let trimmed := path.dropWhile (· == '/')
    match Url.parse (settings.baseText ++ '/' :: trimmed) with
    | .ok url => .ok url
    | .error error => .error (urlError trimmed error)

/-- The address of an endpoint. -/
def endpointUrl (settings : Settings) (path : String)
    (parameters : List (String × String)) : Result Address :=
  (settings.addressOf path.toList).map fun url => url.withParameters parameters

/-- The address behind a link of the server. -/
def resolveLink (settings : Settings) (link : String) : Result Address :=
  match Url.join settings.baseUrl link.toList with
  | .ok url => .ok url
  | .error error => .error (urlError link.toList error)

/-- Whether an address belongs to the backend, and so may see the credential. -/
def isBackend (settings : Settings) (url : Address) : Bool :=
  match url.origin?, settings.baseUrl.origin? with
  | some origin, some own => origin == own
  | _, _ => false

/-- The path of the status endpoint for a task. -/
def statusPathOf (settings : Settings) (taskId : String) : String :=
  String.ofList
    (replaceEvery taskIdMark (Url.encodeSegment taskId.toList) settings.taskStatusPath.toList)

end Settings

end UtilityBilling.Api
