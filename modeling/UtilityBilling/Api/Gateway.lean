/-
# The gateway to the backend

The one way to the backend. A call prepares its request, puts it on the line and
deals with the reply. The bearer credential goes only to the backend's own origin;
a refusal with 401 from there ends the session, once; any other answer that is no
success becomes an error in the server's words. A sign-in is the exception: its
refusal is a plain rejection and touches nothing.
-/

import UtilityBilling.Api.LoginReply
import UtilityBilling.Api.Session
import UtilityBilling.Api.Settings
import UtilityBilling.Table.PageReader
import UtilityBilling.Task.Status

namespace UtilityBilling.Api

open UtilityBilling.Files UtilityBilling.Text
open UtilityBilling.Json (Value)
open UtilityBilling.Url (Address)

/-- The media type of JSON. -/
def jsonType : String := "application/json"

/-- The request that asks for JSON. -/
def Request.getJson (url : Address) : Request :=
  { method := .get, url := url, accept := some jsonType }

/-- The request that sends JSON and asks for JSON. -/
def Request.postJson (url : Address) (body : String) : Request :=
  { method := .post, url := url, accept := some jsonType, contentType := some jsonType
    body := body }

/-- The request that asks for a file. -/
def Request.getFile (url : Address) : Request :=
  { method := .get, url := url }

/-- The request with the stored credential, if it goes to the backend. -/
def authorized (settings : Settings) (state : State) (request : Request) : Request :=
  match state.credentials.token with
  | some token =>
    if settings.isBackend request.url then
      { request with authorization := some ("Bearer " ++ token) }
    else request
  | none => request

/-- Puts a request on the line. A request that cannot be sent does not go out, and
neither does one on a line that is down. -/
def exchange (line : Line) (state : State) (request : Request) : Reply × State :=
  match request.fault? with
  | some failure => (.error failure, state)
  | none =>
    match line state.sent request with
    | .error .unreachable => (.error .unreachable, state)
    | reply => (reply, { state with sent := state.sent ++ [request] })

/-- The error of a call whose session has ended. -/
def sessionExpired : Error :=
  ⟨.unauthorized, "session expired, please sign in again"⟩

/-- The error with a refusal of the session turned into a plain rejection. -/
def Error.asRejection (error : Error) : Error :=
  if error.kind = .unauthorized then { error with kind := .rejected 401 } else error

/-- The error of an answer that is no success and ends no session. -/
def Answer.rejection (answer : Answer) : Error :=
  (errorOfBody answer.status answer.text).asRejection

/-- Deals with the reply to a request for an address. -/
def receive (settings : Settings) (state : State) (url : Address) :
    Reply → Result Answer × State
  | .error failure => (.error (failure.error url), state)
  | .ok answer =>
    if answer.status = .unauthorized && settings.isBackend url then
      (.error sessionExpired, state.expireSession)
    else if answer.status.isSuccess then (.ok answer, state)
    else
      let error := answer.rejection
      (.error error,
        state.warn (String.ofList url.plainPath ++ " " ++ toString answer.status.value.toNat ++
          " failed: " ++ error.message))

/-- Sends a request and deals with its reply. -/
def send (settings : Settings) (line : Line) (state : State) (request : Request) :
    Result Answer × State :=
  let (reply, after) := exchange line state (authorized settings state request)
  receive settings after request.url reply

/-- Sends a request and reads the body of its answer. -/
def sendAndRead {α : Type} (settings : Settings) (line : Line) (state : State)
    (read : Nat → Bytes → Json.Read α) (request : Request) : Result α × State :=
  match send settings line state request with
  | (.error error, after) => (.error error, after)
  | (.ok answer, after) => (answer.decoded request.url read, after)

/-- Gets JSON from an endpoint. -/
def getJson {α : Type} (settings : Settings) (line : Line) (state : State)
    (read : Nat → Bytes → Json.Read α) (path : String) (parameters : List (String × String)) :
    Result α × State :=
  match settings.endpointUrl path parameters with
  | .error error => (.error error, state)
  | .ok url => sendAndRead settings line state read (.getJson url)

/-- Posts JSON to an endpoint. -/
def postJson {α : Type} (settings : Settings) (line : Line) (state : State)
    (read : Nat → Bytes → Json.Read α) (path : String) (body : String) : Result α × State :=
  match settings.endpointUrl path [] with
  | .error error => (.error error, state)
  | .ok url => sendAndRead settings line state read (.postJson url body)

/-- Gets a page of a list. -/
def fetchPage (settings : Settings) (line : Line) (state : State) (endpoint : String)
    (parameters : List (String × String)) : Result (Table.Page Value) × State :=
  getJson settings line state Table.readPage endpoint parameters

/-- Gets the status of a task. -/
def taskStatus (settings : Settings) (line : Line) (state : State) (taskId : String) :
    Result Task.Status × State :=
  getJson settings line state Task.readStatus (settings.statusPathOf taskId) []

/-- The error of a file that could not be written. -/
def storageError (error : OutputError) : Error :=
  ⟨.storage, error.message⟩

/-- Writes the body of an answer to a file. A body that breaks off or cannot be written
leaves no file. -/
def saveBody (volume : Volume) (directory name : String) (answer : Answer) :
    Result String × Volume :=
  match beginFile volume directory name with
  | (.error error, after) => (.error (storageError error), after)
  | (.ok file, opened) =>
    match file.appendAll opened answer.chunks with
    | (.error error, after) => (.error (storageError error), file.discard after)
    | (.ok file, written) =>
      match answer.cut? with
      | some cut => (.error (cut.error ""), file.discard written)
      | none =>
        match file.commit written with
        | (.ok path, after) => (.ok path, after)
        | (.error error, after) => (.error (storageError error), after)

/-- Downloads what a link of the server leads to into a file of a directory. -/
def download (settings : Settings) (line : Line) (state : State)
    (link directory name : String) : Result String × State :=
  match settings.resolveLink link with
  | .error error => (.error error, state)
  | .ok url =>
    match send settings line state (.getFile url) with
    | (.error error, after) => (.error error, after)
    | (.ok answer, after) =>
      let (result, volume) := saveBody after.volume directory name answer
      (result, { after with volume := volume })

/-- Deals with the reply to a sign-in. -/
def receiveLogin (state : State) (url : Address) : Reply → Result Unit × State
  | .error failure => (.error (failure.error url), state)
  | .ok answer =>
    if answer.status.isSuccess then
      match answer.decoded url readLogin with
      | .ok token => (.ok (), state.signIn token)
      | .error error => (.error error, state)
    else (.error answer.rejection, state)

/-- Signs in with a name and a password. -/
def login (settings : Settings) (line : Line) (state : State) (username password : String) :
    Result Unit × State :=
  match settings.endpointUrl settings.loginPath [] with
  | .error error => (.error error, state)
  | .ok url =>
    let (reply, after) := exchange line state (.postJson url (loginBody username password))
    receiveLogin after url reply

end UtilityBilling.Api
