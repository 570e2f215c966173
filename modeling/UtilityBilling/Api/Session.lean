/-
# The session of a gateway

What calls to the backend can change: the stored credential, the latch that keeps a
session from being ended twice, the number of times the sign-out hook has run, the
files, the requests that went out, and the log. Each change of the session is one of
five single actions; ending a session and signing in or out are made of them.
-/

import UtilityBilling.Api.Credentials
import UtilityBilling.Api.Exchange

namespace UtilityBilling.Api

open UtilityBilling.Files (Volume)
open UtilityBilling.Session (Instant)

/-- Everything that calls to the backend can change. -/
structure State where
  credentials : CredentialStore
  /-- Closed when a session ends, open from the next sign-in on. -/
  latchClosed : Bool := false
  /-- How often the sign-out hook has run. -/
  signOuts : Nat := 0
  volume : Volume := {}
  /-- The time at which a token would be saved. -/
  now : Instant := ⟨0, 0⟩
  /-- The requests that went out, the latest last. -/
  sent : List Request := []
  log : List Log.Record := []
  deriving DecidableEq, Repr

namespace State

/-- Whether a credential is stored. -/
def isAuthenticated (state : State) : Bool :=
  state.credentials.token.isSome

/-- Adds a warning to the log. -/
def warn (state : State) (message : String) : State :=
  { state with log := state.log ++ [Log.warning message] }

/-- Closes the latch; the answer is whether it was closed before. -/
def closeLatch (state : State) : Bool × State :=
  (state.latchClosed, { state with latchClosed := true })

/-- Opens the latch. -/
def openLatch (state : State) : State :=
  { state with latchClosed := false }

/-- Stores a token. -/
def storeToken (state : State) (token : String) : State :=
  let (credentials, volume, log) := state.credentials.put state.volume state.now token
  { state with credentials := credentials, volume := volume, log := state.log ++ log }

/-- Forgets the credential. -/
def clearCredential (state : State) : State :=
  let (credentials, volume, log) := state.credentials.clear state.volume
  { state with credentials := credentials, volume := volume, log := state.log ++ log }

/-- Runs the sign-out hook. -/
def runHook (state : State) : State :=
  { state with signOuts := state.signOuts + 1 }

/-- Ends the session, unless it has ended already. -/
def expireSession (state : State) : State :=
  match state.closeLatch with
  | (true, closed) => closed
  | (false, closed) =>
    (closed.warn "Received 401; clearing credential and signing out").clearCredential.runHook

/-- Ends the session at the user's wish. -/
def signOut (state : State) : State :=
  state.closeLatch.2.clearCredential.runHook

/-- Starts a session with a token. -/
def signIn (state : State) (token : String) : State :=
  (state.storeToken token).openLatch

end State

end UtilityBilling.Api
