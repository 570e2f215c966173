/-
# The life of a session

A closed latch means that nothing is stored. Only three things touch a session: the
backend's refusal and a sign-out end it, a sign-in starts it. A call learns of the end of
the session exactly from its own reply, and after the end no request carries a credential
until somebody signs in.
-/

import UtilityBilling.Proofs.Api.Traffic

namespace UtilityBilling.Api

open UtilityBilling.Files (Volume)
open UtilityBilling.Session (Instant)

namespace Traffic

variable {settings : Settings} {before after : State} {deed : Deed} {traffic : Traffic}

/-- Nothing is stored behind a closed latch. -/
def Shut (state : State) : Prop :=
  state.latchClosed = true → state.credentials.token = none

namespace Change

/-- The token and the latch are those of the session. -/
theorem shut_of_standing (standing : after.standing = before.standing) (shut : Shut before) :
    Shut after := by
  intro closed
  have latch : after.latchClosed = before.latchClosed := congrArg Standing.latchClosed standing
  have credentials : after.credentials = before.credentials :=
    congrArg Standing.credentials standing
  rw [credentials]
  exact shut (latch.symm.trans closed)

/-- No change stores anything behind a closed latch. -/
theorem shut (change : Change settings before after deed) (shut : Shut before) :
    Shut after := by
  cases change with
  | rests standing _ => exact shut_of_standing standing shut
  | fails _ same => exact same ▸ shut
  | sends _ same => exact same ▸ shut
  | expires _ ended =>
      intro _
      rw [ended]
      exact State.token_expireSession shut
  | settles _ _ standing _ => exact shut_of_standing standing shut
  | signsIn started =>
      intro closed
      rw [started, State.latchClosed_signIn] at closed
      cases closed
  | refuses same => exact same ▸ shut
  | signsOut ended =>
      intro _
      rw [ended]
      exact State.token_signOut before

/-- What fails before its request is out brings no news of the session. -/
theorem kind_failed_ne (change : Change settings before after deed) {error : Error}
    (failed : deed = .failed error) : error.kind ≠ .unauthorized := by
  cases change with
  | fails kind _ =>
      cases failed
      exact kind
  | _ => cases failed

/-- The news that the session has ended comes from the backend's refusal. -/
theorem news_iff (change : Change settings before after deed) {url : Url.Address}
    {reply : Reply} {kind? : Option ErrorKind} (returned : deed = .returned url reply kind?) :
    kind? = some .unauthorized ↔ RefusedByBackend settings url reply := by
  cases change with
  | expires refused _ =>
      cases returned
      exact iff_of_true rfl refused
  | settles other kind _ _ =>
      cases returned
      exact iff_of_false kind other
  | _ => cases returned

/-- The news that the session has ended comes with the end of it. -/
theorem ended (change : Change settings before after deed) (shut : Shut before) {url : Url.Address}
    {reply : Reply} (news : deed = .returned url reply (some .unauthorized)) :
    after.latchClosed = true ∧ after.credentials.token = none := by
  cases change with
  | expires _ ended =>
      rw [ended]
      exact ⟨before.latchClosed_expireSession, State.token_expireSession shut⟩
  | settles _ kind _ _ =>
      cases news
      exact absurd rfl kind
  | _ => cases news

/-- Only the backend's refusal, a sign-in and a sign-out touch the session. -/
theorem standing (change : Change settings before after deed) (noSignIn : deed ≠ .signedIn)
    (noSignOut : deed ≠ .signedOut)
    (noRefusal : ∀ url reply kind?, deed = .returned url reply kind? →
      ¬ RefusedByBackend settings url reply) : after.standing = before.standing := by
  cases change with
  | rests standing _ => exact standing
  | fails _ same => rw [same]
  | sends _ same => rw [same]; rfl
  | expires refused _ => exact absurd refused (noRefusal _ _ _ rfl)
  | settles _ _ standing _ => exact standing
  | signsIn _ => exact absurd rfl noSignIn
  | refuses same => rw [same]
  | signsOut _ => exact absurd rfl noSignOut

/-- Nothing but a sign-in stores a token. -/
theorem token_none (change : Change settings before after deed) (noSignIn : deed ≠ .signedIn)
    (empty : before.credentials.token = none) : after.credentials.token = none := by
  cases change with
  | rests standing _ =>
      rw [show after.credentials = before.credentials from congrArg Standing.credentials standing]
      exact empty
  | fails _ same => rw [same, empty]
  | sends _ same => rw [same]; exact empty
  | expires _ ended =>
      rw [ended]
      exact State.token_expireSession fun _ => empty
  | settles _ _ standing _ =>
      rw [show after.credentials = before.credentials from congrArg Standing.credentials standing]
      exact empty
  | signsIn _ => exact absurd rfl noSignIn
  | refuses same => rw [same, empty]
  | signsOut ended => rw [ended, State.token_signOut]

/-- Without a token, what a change sends is bare. -/
theorem exists_bare (change : Change settings before after deed)
    (empty : before.credentials.token = none) :
    ∃ fresh, after.sent = before.sent ++ fresh ∧
      ∀ request ∈ fresh, request.authorization = none := by
  cases change with
  | rests _ sent => exact ⟨[], by simp [sent]⟩
  | fails _ same => exact ⟨[], by simp [same]⟩
  | @sends request bare same =>
      refine ⟨[request], by rw [same], ?_⟩
      intro other member
      rw [List.mem_singleton.mp member]
      exact bare empty
  | expires _ ended => exact ⟨[], by simp [ended]⟩
  | settles _ _ _ sent => exact ⟨[], by simp [sent]⟩
  | signsIn started =>
      refine ⟨[], ?_, by simp⟩
      rw [started, List.append_nil]
      rfl
  | refuses same => exact ⟨[], by simp [same]⟩
  | signsOut ended =>
      refine ⟨[], ?_, by simp⟩
      rw [ended, List.append_nil]
      rfl

end Change

/-- In every run nothing is stored behind a closed latch. -/
theorem shut_run (shut : Shut traffic.state) (events : List Event) :
    Shut (traffic.run settings events).state := by
  induction events generalizing traffic with
  | nil => exact shut
  | cons event events ih => exact ih ((traffic.react_changes settings event).shut shut)

/-- Once nothing is stored, every request is bare until somebody signs in. -/
theorem exists_bare_run (empty : traffic.state.credentials.token = none) (later : List Event)
    (noSignIn : .signedIn ∉ traffic.deeds settings later) :
    ∃ fresh, (traffic.run settings later).state.sent = traffic.state.sent ++ fresh ∧
      ∀ request ∈ fresh, request.authorization = none := by
  induction later generalizing traffic with
  | nil => exact ⟨[], by simp⟩
  | cons event later ih =>
      rw [deeds, List.mem_cons, not_or] at noSignIn
      have change := traffic.react_changes settings event
      obtain ⟨first, sent, bare⟩ := change.exists_bare empty
      obtain ⟨rest, sentLater, bareLater⟩ :=
        ih (change.token_none (Ne.symm noSignIn.1) empty) noSignIn.2
      refine ⟨first ++ rest, ?_, ?_⟩
      · rw [run_cons, sentLater, sent, List.append_assoc]
      · intro request member
        rcases List.mem_append.mp member with early | late
        · exact bare request early
        · exact bareLater request late

end Traffic

/-- A session lives by its answers. In every run a closed latch means that nothing is
stored. Whatever happens next, a call returns with the news that the session has ended
exactly if its own reply is the backend's refusal; then the latch is closed and nothing is
stored, and no request carries a credential until the next successful sign-in. Only the
backend's refusal, a successful sign-in and a sign-out touch the session. -/
theorem session_lives_by_answers (settings : Settings) (credentials : CredentialStore)
    (volume : Volume) (now : Instant) (events : List Traffic.Event) (event : Traffic.Event) :
    let traffic := (Traffic.start credentials volume now).run settings events
    let deed := (traffic.react settings event).1
    let after := traffic.step settings event
    (traffic.state.latchClosed = true → traffic.state.credentials.token = none) ∧
      (∀ error, deed = .failed error → error.kind ≠ .unauthorized) ∧
      (∀ url reply kind?, deed = .returned url reply kind? →
        (kind? = some .unauthorized ↔ RefusedByBackend settings url reply)) ∧
      (∀ url reply, deed = .returned url reply (some .unauthorized) →
        after.state.latchClosed = true ∧ after.state.credentials.token = none ∧
          ∀ later, .signedIn ∉ after.deeds settings later →
            ∃ fresh, (after.run settings later).state.sent = after.state.sent ++ fresh ∧
              ∀ request ∈ fresh, request.authorization = none) ∧
      (deed ≠ .signedIn → deed ≠ .signedOut →
        (∀ url reply kind?, deed = .returned url reply kind? →
          ¬ RefusedByBackend settings url reply) →
        after.state.standing = traffic.state.standing) := by
  intro traffic deed after
  have shut : Traffic.Shut traffic.state :=
    Traffic.shut_run (by intro closed; cases closed) events
  have change : Traffic.Change settings traffic.state after.state deed :=
    traffic.react_changes settings event
  refine ⟨shut, ?_, ?_, ?_, change.standing⟩
  · intro error failed
    exact change.kind_failed_ne failed
  · intro url reply kind? returned
    exact change.news_iff returned
  · intro url reply news
    obtain ⟨closed, empty⟩ := change.ended shut news
    exact ⟨closed, empty, Traffic.exists_bare_run empty⟩

end UtilityBilling.Api
