/-
# Callers side by side

Any number of calls, sign-ins and sign-outs can be under way at once. Each of them does
its work on the session in single actions: ending a session swaps the latch, and the
caller that found it open goes on to clear the credential and to run the hook; a sign-in
stores its token and then opens the latch; a sign-out closes the latch, clears and runs
the hook. Here the callers take turns after every single action, in any order. A caller
that is left alone does what the gateway does at once.
-/

import UtilityBilling.Proofs.Api.Call
import UtilityBilling.Proofs.History

namespace UtilityBilling.Api

open UtilityBilling.Files (Volume)
open UtilityBilling.Session (Instant)
open UtilityBilling.Url (Address)

/-- What a caller has come for; calls and sign-ins have got their reply. -/
inductive Errand where
  | call (url : Address) (reply : Reply)
  | signIn (url : Address) (reply : Reply)
  | signOut

/-- How far a caller has come. -/
inductive Stage where
  /-- Nothing has been done yet. -/
  | fresh
  /-- The latch is closed and the credential comes next. -/
  | clearing
  /-- The credential is cleared and the hook comes next. -/
  | hooking
  /-- A token is stored and the latch comes next. -/
  | opening
  | returned (result : Result Unit)

/-- A caller on its way. -/
structure Caller where
  errand : Errand
  stage : Stage := .fresh

/-- What a caller does to the session in a single action. -/
inductive Deed where
  /-- The end of a session swapped the latch and found it closed or open. -/
  | latched (wasClosed : Bool)
  /-- The end of a session cleared the credential. -/
  | cleared
  /-- The end of a session ran the hook. -/
  | hooked
  /-- A sign-in stored its token. -/
  | stored
  /-- A sign-in opened the latch. -/
  | opened
  /-- A sign-out closed the latch. -/
  | shut
  /-- A sign-out cleared the credential. -/
  | forgot
  /-- A sign-out ran the hook. -/
  | announced
  deriving DecidableEq

/-- What comes of a single action. -/
structure Move where
  stage : Stage
  state : State
  deed? : Option Deed := none

/-- The next single action of a caller. -/
def Caller.move (settings : Settings) (state : State) (caller : Caller) : Move :=
  match caller.errand, caller.stage with
  | .call url reply, .fresh =>
    if RefusedByBackend settings url reply then
      match state.closeLatch with
      | (true, closed) => ⟨.returned (.error sessionExpired), closed, some (.latched true)⟩
      | (false, closed) => ⟨.clearing, closed, some (.latched false)⟩
    else
      let (result, after) := receive settings state url reply
      ⟨.returned (result.map fun _ => ()), after, none⟩
  | .call _ _, .clearing =>
    ⟨.hooking,
      (state.warn "Received 401; clearing credential and signing out").clearCredential,
      some .cleared⟩
  | .call _ _, .hooking =>
    ⟨.returned (.error sessionExpired), state.runHook, some .hooked⟩
  | .signIn url reply, .fresh =>
    match loginToken url reply with
    | .ok token => ⟨.opening, state.storeToken token, some .stored⟩
    | .error error => ⟨.returned (.error error), state, none⟩
  | .signIn _ _, .opening => ⟨.returned (.ok ()), state.openLatch, some .opened⟩
  | .signOut, .fresh => ⟨.clearing, state.closeLatch.2, some .shut⟩
  | .signOut, .clearing => ⟨.hooking, state.clearCredential, some .forgot⟩
  | .signOut, .hooking => ⟨.returned (.ok ()), state.runHook, some .announced⟩
  | _, stage => ⟨stage, state, none⟩

namespace Caller

/-- A caller takes some actions without anyone in between. -/
def alone (settings : Settings) : Nat → State → Caller → State × Caller
  | 0, state, caller => (state, caller)
  | count + 1, state, caller =>
    let move := caller.move settings state
    alone settings count move.state { caller with stage := move.stage }

/-- A call that is left alone does what receiving its reply does. -/
theorem alone_call (settings : Settings) (state : State) (url : Address) (reply : Reply) :
    alone settings 3 state ⟨.call url reply, .fresh⟩ =
      ((receive settings state url reply).2,
        ⟨.call url reply,
          .returned ((receive settings state url reply).1.map fun _ => ())⟩) := by
  by_cases refused : RefusedByBackend settings url reply
  · rw [receive_of_refused state refused]
    unfold State.expireSession
    cases closed : state.latchClosed with
    | true => simp [alone, move, refused, State.closeLatch, closed, Except.map]
    | false => simp [alone, move, refused, State.closeLatch, closed, Except.map]
  · simp [alone, move, refused]

/-- A sign-in that is left alone does what receiving its reply does. -/
theorem alone_signIn (settings : Settings) (state : State) (url : Address) (reply : Reply) :
    alone settings 3 state ⟨.signIn url reply, .fresh⟩ =
      ((receiveLogin state url reply).2,
        ⟨.signIn url reply, .returned (receiveLogin state url reply).1⟩) := by
  rw [receiveLogin_eq]
  cases brought : loginToken url reply with
  | ok token => simp [alone, move, brought, State.signIn]
  | error error => simp [alone, move, brought]

/-- A sign-out that is left alone is a sign-out. -/
theorem alone_signOut (settings : Settings) (state : State) :
    alone settings 3 state ⟨.signOut, .fresh⟩ =
      (state.signOut, ⟨.signOut, .returned (.ok ())⟩) := rfl

end Caller

/-- A single action, with the number of the caller that took it. -/
structure Crowd.Entry where
  caller : Nat
  deed : Deed

/-- A gateway with its callers, numbered in the order of their arrival, and what they
have done to the session, the latest first. -/
structure Crowd where
  state : State
  callers : List Caller := []
  past : List Crowd.Entry := []

/-- What can happen next. -/
inductive Crowd.Event where
  | arrive (errand : Errand)
  /-- A caller takes its next single action. -/
  | act (caller : Nat)

namespace Crowd

/-- Whether it is the turn of a caller. -/
def Event.isTurnOf (index : Nat) : Event → Bool
  | .arrive _ => false
  | .act caller => caller == index

/-- A new gateway, with whatever credential there was. -/
def start (credentials : CredentialStore) (volume : Volume) (now : Instant) : Crowd where
  state := { credentials := credentials, volume := volume, now := now }

/-- The history with a caller's latest deed, if it did one. -/
def note (index : Nat) (past : List Entry) : Option Deed → List Entry
  | none => past
  | some deed => ⟨index, deed⟩ :: past

/-- What one event does. -/
def step (settings : Settings) (crowd : Crowd) : Event → Crowd
  | .arrive errand => { crowd with callers := crowd.callers ++ [⟨errand, .fresh⟩] }
  | .act index =>
    match crowd.callers[index]? with
    | none => crowd
    | some caller =>
      let move := caller.move settings crowd.state
      { state := move.state
        callers := crowd.callers.set index { caller with stage := move.stage }
        past := note index crowd.past move.deed? }

/-- What a row of events does. -/
def run (settings : Settings) (crowd : Crowd) (events : List Event) : Crowd :=
  events.foldl (step settings) crowd

@[simp]
theorem run_nil (settings : Settings) (crowd : Crowd) : crowd.run settings [] = crowd := rfl

@[simp]
theorem run_cons (settings : Settings) (crowd : Crowd) (event : Event) (events : List Event) :
    crowd.run settings (event :: events) = (crowd.step settings event).run settings events := rfl

end Crowd

end UtilityBilling.Api
