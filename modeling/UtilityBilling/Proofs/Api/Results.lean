/-
# What calls come to

A call fails before its request is out, or the reply to its request settles it. Whatever it
comes to is no cancellation, and it is the news that the session has ended exactly if the
reply is the backend's refusal; then the latch is closed and nothing is stored. Behind a
closed latch the sign-out hook has run, so that a client which has met one refusal knows of
it, whatever it asks for afterwards.
-/

import UtilityBilling.Proofs.Api.Confinement
import UtilityBilling.Proofs.Api.SessionLife

namespace UtilityBilling.Api

open UtilityBilling.Url (Address)

variable {α : Type} {settings : Settings} {line : Line} {state after : State} {url : Address}
  {reply : Reply}

/-- What a call can come to, and the state in which it leaves the gateway, with the reply that
settled it if its request went out. -/
inductive Call.ComesTo (settings : Settings) (state : State) (call : Call α) :
    Option (Address × Reply) → Result α → State → Prop where
  /-- The call has no address. -/
  | unresolved {error : Error} (unresolved : call.address settings = .error error) :
      ComesTo settings state call none (.error error) state
  /-- The request cannot go out. -/
  | kept {url : Address} {connected : Bool} {failure : Failure}
      (resolves : call.address settings = .ok url)
      (obstacle : Traffic.obstacle? (call.outgoing settings state url) connected = some failure) :
      ComesTo settings state call none (.error (failure.error url)) state
  /-- The reply comes, in whatever state the gateway is by then. -/
  | settled {url : Address} (resolves : call.address settings = .ok url) (reply : Reply) :
      ComesTo settings state call (some (url, reply)) (call.settle settings state url reply).1
        (call.settle settings state url reply).2

namespace Call.ComesTo

variable {call : Call α} {result : Result α} {heard? : Option (Address × Reply)}

/-- The backend's refusal ends the session and the call. -/
theorem of_refused (comes : call.ComesTo settings state (some (url, reply)) result after)
    (refused : RefusedByBackend settings url reply) :
    result = .error sessionExpired ∧ after = state.expireSession := by
  cases comes with
  | settled resolves reply =>
      rw [call.settle_of_refused state refused]
      exact ⟨rfl, rfl⟩

/-- Unless the backend refused the session, the call comes to a success or to a failure like
any other, and the session stays as it is. -/
theorem of_not_refused (comes : call.ComesTo settings state heard? result after)
    (other : ∀ url reply, heard? = some (url, reply) → ¬ RefusedByBackend settings url reply) :
    Ordinary result ∧ after.standing = state.standing := by
  cases comes with
  | unresolved unresolved => exact ⟨by simp [kind_address unresolved], rfl⟩
  | kept resolves obstacle => exact ⟨ordinary_error_iff.mpr (kind_failure _ _), rfl⟩
  | @settled url resolves reply =>
      have accepted := other url reply rfl
      exact ⟨call.ordinary_settle state accepted, call.standing_settle state accepted⟩

/-- An answer 401 from another origin comes to a rejection. -/
theorem of_foreign {answer : Answer}
    (comes : call.ComesTo settings state (some (url, .ok answer)) result after)
    (status : answer.status = .unauthorized) (foreign : ¬ SameOrigin url settings.baseUrl) :
    result = .error answer.rejection := by
  have failed : answer.status.isSuccess = false := by
    rw [status]
    decide
  cases comes with
  | settled resolves reply =>
      rw [Call.settle, receive_of_not_refused state (not_refused_of_foreign foreign _), failed]
      rfl

end Call.ComesTo

namespace State

/-- The user was told of the end of the session: behind a closed latch the sign-out hook has
run. -/
def Told (state : State) : Prop :=
  state.latchClosed = true → 0 < state.signOuts

/-- Once a session has ended the user was told. -/
theorem signOuts_expireSession_pos (told : state.Told) : 0 < state.expireSession.signOuts := by
  unfold expireSession closeLatch
  cases closed : state.latchClosed with
  | true => exact told closed
  | false => exact Nat.succ_pos _

theorem told_of_standing (same : after.standing = state.standing) (told : state.Told) :
    after.Told ∧ after.signOuts = state.signOuts := by
  have latch : after.latchClosed = state.latchClosed := congrArg Standing.latchClosed same
  have signOuts : after.signOuts = state.signOuts := congrArg Standing.signOuts same
  exact ⟨fun closed => signOuts ▸ told (latch ▸ closed), signOuts⟩

end State

/-- The reply to a call leaves the user told, and tells them of a refusal. -/
theorem Call.told_settle (call : Call α) (reply : Reply) (told : state.Told) :
    (call.settle settings state url reply).2.Told ∧
      (0 < state.signOuts ∨ RefusedByBackend settings url reply →
        0 < (call.settle settings state url reply).2.signOuts) := by
  by_cases refused : RefusedByBackend settings url reply
  · rw [call.settle_of_refused state refused]
    have ended := State.signOuts_expireSession_pos told
    exact ⟨fun _ => ended, fun _ => ended⟩
  · obtain ⟨still, signOuts⟩ := State.told_of_standing (call.standing_settle state refused) told
    exact ⟨still, fun known => signOuts ▸ known.resolve_right refused⟩

/-- One of the requests that went out on a line was answered by the backend's refusal. -/
def MetRefusal (settings : Settings) (line : Line) (sent : List Request) : Prop :=
  ∃ before request later, sent = before ++ request :: later ∧
    RefusedByBackend settings request.url (line before request)

theorem not_metRefusal_nil : ¬ MetRefusal settings line [] := by
  rintro ⟨before, request, later, split, _⟩
  simp at split

theorem metRefusal_concat {sent : List Request} {request : Request} :
    MetRefusal settings line (sent ++ [request]) ↔
      MetRefusal settings line sent ∨
        RefusedByBackend settings request.url (line sent request) := by
  constructor
  · rintro ⟨before, met, later, split, refused⟩
    rcases List.eq_nil_or_concat later with rfl | ⟨others, last, rfl⟩
    · obtain ⟨rfl, same⟩ := List.append_inj' split rfl
      cases same
      exact .inr refused
    · rw [List.concat_eq_append, ← List.cons_append, ← List.append_assoc] at split
      exact .inl ⟨before, met, others, (List.append_inj' split rfl).1, refused⟩
  · rintro (⟨before, met, later, rfl, refused⟩ | refused)
    · exact ⟨before, met, later ++ [request], by simp, refused⟩
    · exact ⟨sent, request, [], rfl, refused⟩

/-- A gateway that has met a refusal on a line has told the user. -/
structure State.Aware (settings : Settings) (line : Line) (state : State) : Prop where
  told : state.Told
  aware : MetRefusal settings line state.sent → 0 < state.signOuts

/-- A whole call makes the user aware of every refusal. -/
theorem State.Aware.perform (aware : state.Aware settings line) (call : Call α) :
    (call.perform settings line state).2.Aware settings line := by
  cases resolves : call.address settings with
  | error error =>
      rw [call.perform_of_unresolved line state resolves]
      exact aware
  | ok url =>
      rw [call.perform_eq line state resolves]
      by_cases out : GoesOut line state (call.outgoing settings state url)
      · rw [exchange_of_goesOut out]
        have told : ({ state with
            sent := state.sent ++ [call.outgoing settings state url] } : State).Told := aware.told
        let reply := line state.sent (call.outgoing settings state url)
        obtain ⟨still, knows⟩ := call.told_settle reply told
        refine ⟨still, fun met => knows ?_⟩
        rw [call.sent_settle, metRefusal_concat, call.url_outgoing] at met
        exact met.imp_left aware.aware
      · rw [exchange_of_not_goesOut out]
        obtain ⟨still, knows⟩ := call.told_settle _ aware.told
        refine ⟨still, fun met => knows (.inl (aware.aware ?_))⟩
        rwa [call.sent_settle] at met

end UtilityBilling.Api
