/-
# Errors of backend calls

Every call to the backend that does not bring its answer ends in an error of one
kind, with a message that can be shown as it is. A cancelled call is not a failure
and is never shown. Following a job to its end can fail in ways of its own.
-/

import UtilityBilling.Task.Status

namespace UtilityBilling.Api

/-- What kind of failure a call met. -/
inductive ErrorKind where
  | invalidUrl
  | network
  | timeout
  /-- The backend answered 401; the session has ended. -/
  | unauthorized
  /-- An answer that is neither a success nor a server error. -/
  | rejected (code : UInt16)
  /-- A server error. -/
  | server (code : UInt16)
  | decode
  | storage
  | cancelled
  deriving DecidableEq, Repr

/-- The wording of a kind. -/
def ErrorKind.text : ErrorKind → String
  | .invalidUrl => "invalid url"
  | .network => "network error"
  | .timeout => "timeout"
  | .unauthorized => "unauthorized"
  | .rejected code => "rejected with status " ++ toString code.toNat
  | .server code => "server error " ++ toString code.toNat
  | .decode => "malformed response"
  | .storage => "storage error"
  | .cancelled => "cancelled"

/-- The error of a backend call. -/
structure Error where
  kind : ErrorKind
  message : String
  deriving DecidableEq, Repr

namespace Error

/-- The error of a call that was given up. -/
def ofCancellation : Error := ⟨.cancelled, "request cancelled"⟩

/-- Whether the call was given up. -/
def isCancelled (error : Error) : Bool :=
  error.kind == .cancelled

/-- Whether the session has ended. -/
def isUnauthorized (error : Error) : Bool :=
  error.kind == .unauthorized

/-- The status code of the answer behind the error. -/
def status? (error : Error) : Option UInt16 :=
  match error.kind with
  | .rejected code | .server code => some code
  | .unauthorized => some 401
  | _ => none

end Error

/-- The result of a backend call. -/
abbrev Result (α : Type) := Except Error α

end UtilityBilling.Api

namespace UtilityBilling.Task

/-- Why following a job brought no outcome. -/
inductive PollError where
  /-- The job itself failed. -/
  | failed (message : String)
  | timedOut (attempts : UInt32)
  /-- A newer poll took over. -/
  | superseded
  /-- A status request failed. -/
  | api (error : Api.Error)
  deriving DecidableEq, Repr

/-- The wording of a poll error. -/
def PollError.message : PollError → String
  | .failed message => message
  | .timedOut attempts =>
    "task did not finish after " ++ toString attempts.toNat ++ " status checks"
  | .superseded => "polling was superseded by a newer request"
  | .api error => error.message

end UtilityBilling.Task
