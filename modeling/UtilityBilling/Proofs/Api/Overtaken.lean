/-
# Refusals that come late

A reply does not say with which credential its request went out, and the gateway does not
remember it. A call can therefore be overtaken: its request goes out in one session, a
sign-in starts another one, and only then the reply comes. If that reply is the backend's
refusal it is dealt with as one of the session that stands by then, whose token it clears.
It does so once: the latch is closed exactly if the session was ended since the last
sign-in, and behind a closed latch a refusal changes nothing.
-/

import UtilityBilling.Proofs.Api.SessionLife

namespace UtilityBilling.Api

open UtilityBilling.Files (Volume)
open UtilityBilling.Session (Instant)
open UtilityBilling.Url (Address)

namespace State

/-- A session that stands is ended in full. -/
theorem expireSession_of_open {state : State} (standing : state.latchClosed = false) :
    state.expireSession.credentials.token = none ∧ state.expireSession.latchClosed = true ∧
      state.expireSession.signOuts = state.signOuts + 1 := by
  refine ⟨?_, state.latchClosed_expireSession, ?_⟩
  · apply token_expireSession
    intro closed
    rw [standing] at closed
    cases closed
  · simp only [expireSession, closeLatch, standing]
    rfl

/-- A session that has ended is not ended again. -/
theorem standing_expireSession_of_closed {state : State} (closed : state.latchClosed = true) :
    state.expireSession.standing = state.standing := by
  simp only [expireSession, closeLatch, closed, standing]

end State

namespace Traffic

variable {settings : Settings} {before after : State} {deed : Deed} {traffic : Traffic}

/-- What ends a session: the backend's refusal or a sign-out. -/
def Deed.Ends : Deed → Prop
  | .returned _ _ kind? => kind? = some .unauthorized
  | .signedOut => True
  | _ => False

/-- The session was ended, and nobody has signed in since. -/
def EndedSince (deeds : List Deed) : Prop :=
  ∃ earlier ending later,
    deeds = earlier ++ ending :: later ∧ ending.Ends ∧ .signedIn ∉ later

theorem not_endedSince_nil : ¬ EndedSince [] := by
  rintro ⟨earlier, ending, later, split, _⟩
  cases earlier <;> cases split

theorem endedSince_cons {deeds : List Deed} :
    EndedSince (deed :: deeds) ↔ EndedSince deeds ∨ (deed.Ends ∧ .signedIn ∉ deeds) := by
  constructor
  · rintro ⟨earlier, ending, later, split, ends, noSignIn⟩
    cases earlier with
    | nil =>
        cases split
        exact .inr ⟨ends, noSignIn⟩
    | cons first earlier =>
        cases split
        exact .inl ⟨earlier, ending, later, rfl, ends, noSignIn⟩
  · rintro (⟨earlier, ending, later, rfl, ends, noSignIn⟩ | ⟨ends, noSignIn⟩)
    · exact ⟨deed :: earlier, ending, later, rfl, ends, noSignIn⟩
    · exact ⟨[], deed, deeds, rfl, ends, noSignIn⟩

namespace Change

/-- A change closes the latch if it ends the session, opens it if it is a sign-in, and
leaves it alone otherwise. -/
theorem latchClosed_iff (change : Change settings before after deed) :
    after.latchClosed = true ↔ deed.Ends ∨ (before.latchClosed = true ∧ deed ≠ .signedIn) := by
  cases change with
  | rests standing _ =>
      rw [show after.latchClosed = before.latchClosed from congrArg Standing.latchClosed standing]
      simp [Deed.Ends]
  | fails _ same => simp [same, Deed.Ends]
  | sends _ same => simp [same, Deed.Ends]
  | expires _ ended => simp [ended, Deed.Ends]
  | settles _ kind standing _ =>
      rw [show after.latchClosed = before.latchClosed from congrArg Standing.latchClosed standing]
      simp [Deed.Ends, kind]
  | signsIn started => simp [started, Deed.Ends]
  | refuses same => simp [same, Deed.Ends]
  | signsOut ended => simp [ended, Deed.Ends]

/-- Something is stored behind an open latch, if that was so before or after a sign-in. -/
theorem isAuthenticated (change : Change settings before after deed)
    (lit : deed = .signedIn ∨ (before.latchClosed = false → before.isAuthenticated = true))
    (standing : after.latchClosed = false) : after.isAuthenticated = true := by
  have kept (same : after.standing = before.standing) (other : deed ≠ .signedIn) :
      after.isAuthenticated = true := by
    have latch : after.latchClosed = before.latchClosed := congrArg Standing.latchClosed same
    have stored := (lit.resolve_left other) (latch.symm.trans standing)
    rwa [State.isAuthenticated,
      show after.credentials = before.credentials from congrArg Standing.credentials same]
  cases change with
  | rests same _ => exact kept same (by simp)
  | fails _ same => exact kept (congrArg State.standing same) (by simp)
  | sends _ same => exact kept (by rw [same]; rfl) (by simp)
  | expires _ ended => simp [ended] at standing
  | settles _ _ same _ => exact kept same (by simp)
  | signsIn started => simp [started, State.isAuthenticated]
  | refuses same => exact kept (congrArg State.standing same) (by simp)
  | signsOut ended => simp [ended] at standing

end Change

/-- After a run the latch is closed exactly if the session was ended since the last
sign-in, or had ended before and nobody signed in. -/
theorem latchClosed_run_iff (events : List Event) :
    (traffic.run settings events).state.latchClosed = true ↔
      EndedSince (traffic.deeds settings events) ∨
        (traffic.state.latchClosed = true ∧ .signedIn ∉ traffic.deeds settings events) := by
  induction events generalizing traffic with
  | nil => simp [deeds, not_endedSince_nil]
  | cons event events ih =>
      have latch := (traffic.react_changes settings event).latchClosed_iff
      rw [run_cons, ih, latch, deeds, endedSince_cons, List.mem_cons]
      grind

/-- Behind an open latch something is stored after every run, if it was so before. -/
theorem isAuthenticated_run
    (lit : traffic.state.latchClosed = false → traffic.state.isAuthenticated = true)
    (events : List Event) (standing : (traffic.run settings events).state.latchClosed = false) :
    (traffic.run settings events).state.isAuthenticated = true := by
  induction events generalizing traffic with
  | nil => exact lit standing
  | cons event events ih =>
      exact ih ((traffic.react_changes settings event).isAuthenticated (.inr lit)) standing

/-- Once somebody has signed in, something is stored behind an open latch. -/
theorem isAuthenticated_of_signedIn {events : List Event}
    (signedIn : .signedIn ∈ traffic.deeds settings events)
    (standing : (traffic.run settings events).state.latchClosed = false) :
    (traffic.run settings events).state.isAuthenticated = true := by
  induction events generalizing traffic with
  | nil => cases signedIn
  | cons event events ih =>
      rw [deeds, List.mem_cons] at signedIn
      rcases signedIn with now | later
      · have change := traffic.react_changes settings event
        exact isAuthenticated_run (change.isAuthenticated (.inl now.symm)) events standing
      · exact ih later standing

@[simp]
theorem run_append (earlier later : List Event) :
    traffic.run settings (earlier ++ later) =
      (traffic.run settings earlier).run settings later :=
  List.foldl_append

theorem deeds_append (earlier later : List Event) :
    traffic.deeds settings (earlier ++ later) =
      traffic.deeds settings earlier ++ (traffic.run settings earlier).deeds settings later := by
  induction earlier generalizing traffic with
  | nil => rfl
  | cons event earlier ih =>
      rw [List.cons_append, deeds, deeds, run_cons, ih, List.cons_append]

/-- Where a call waits after an event, if its own reply has not come. -/
def Event.placeAfter (place : Nat) : Event → Option Nat
  | .reply index _ =>
    if index = place then none else some (if index < place then place - 1 else place)
  | _ => some place

/-- Where a call waits after a row of events, if its own reply has not come. -/
def placeAfter (place : Nat) : List Event → Option Nat
  | [] => some place
  | event :: events => (event.placeAfter place).bind fun next => placeAfter next events

/-- A call waits until its own reply comes. -/
theorem waits_step {place next : Nat} {pending : Pending}
    (waits : traffic.calls[place]? = some pending) (event : Event)
    (moves : event.placeAfter place = some next) :
    (traffic.step settings event).calls[next]? = some pending := by
  have inside : place < traffic.calls.length := (List.getElem?_eq_some_iff.mp waits).1
  cases event with
  | send call connected =>
      cases moves
      simp only [step, react, sendCall]
      split
      · exact waits
      · unfold launch
        split
        · exact waits
        · exact (List.getElem?_append_left inside).trans waits
  | reply index reply =>
      simp only [Event.placeAfter] at moves
      split at moves
      case isTrue => cases moves
      case isFalse other =>
        cases moves
        simp only [step, react, settleCall]
        split
        case h_1 gone =>
          rw [List.getElem?_eq_none_iff] at gone
          rw [if_neg (by omega)]
          exact waits
        case h_2 =>
          rw [List.getElem?_eraseIdx]
          split
          case isTrue => grind
          case isFalse => grind
  | sendLogin username password connected =>
      cases moves
      simp only [step, react, sendLogin]
      split
      · exact waits
      · unfold launch
        split <;> exact waits
  | replyLogin index reply =>
      cases moves
      simp only [step, react, settleLogin]
      split
      · exact waits
      · split <;> exact waits
  | signOut => cases moves; exact waits
  | outside volume now => cases moves; exact waits

theorem waits_run {place next : Nat} {pending : Pending}
    (waits : traffic.calls[place]? = some pending) {events : List Event}
    (moves : placeAfter place events = some next) :
    (traffic.run settings events).calls[next]? = some pending := by
  induction events generalizing traffic place with
  | nil =>
      cases moves
      exact waits
  | cons event events ih =>
      obtain ⟨between, first, later⟩ := Option.bind_eq_some_iff.mp moves
      exact ih (waits_step waits event first) later

/-- A call whose request is out waits behind all others. -/
theorem waits_of_sent {α : Type} {call : Call α} {connected : Bool} {request : Request}
    (sent : (traffic.react settings (.send call connected)).1 = .sent request) :
    (traffic.step settings (.send call connected)).calls[traffic.calls.length]? =
      some ⟨call, request.url⟩ := by
  simp only [step, react, sendCall] at sent ⊢
  split at sent
  case h_1 => cases sent
  case h_2 url resolves =>
    unfold launch at sent ⊢
    split at sent
    case h_1 => cases sent
    case h_2 clear =>
      cases sent
      simp

/-- In a row of events a call was overtaken: its request went out before a sign-in was
completed, and at the end it still waits for its reply. -/
inductive Overtaken (settings : Settings) (start : Traffic) (request : Request) (place : Nat) :
    List Event → Prop where
  | intro (earlier meanwhile since : List Event) {α : Type} {call : Call α} {connected : Bool}
      {login : Event}
      (sent : ((start.run settings earlier).react settings (.send call connected)).1 =
        .sent request)
      (signedIn : ((start.run settings (earlier ++ .send call connected :: meanwhile)).react
        settings login).1 = .signedIn)
      (waits : placeAfter (start.run settings earlier).calls.length
        (meanwhile ++ login :: since) = some place) :
      Overtaken settings start request place
        (earlier ++ .send call connected :: meanwhile ++ login :: since)

namespace Overtaken

variable {start : Traffic} {request : Request} {place : Nat} {events : List Event}

/-- The call that was overtaken waits for the reply to its request. -/
theorem exists_waiting (overtaken : Overtaken settings start request place events) :
    ∃ pending, (start.run settings events).calls[place]? = some pending ∧
      pending.url = request.url := by
  obtain ⟨earlier, meanwhile, since, sent, _, waits⟩ := overtaken
  rw [List.append_assoc, run_append]
  exact ⟨_, waits_run (waits_of_sent sent) waits, rfl⟩

/-- Somebody has signed in. -/
theorem signedIn_mem (overtaken : Overtaken settings start request place events) :
    .signedIn ∈ start.deeds settings events := by
  obtain ⟨_, _, _, _, signedIn, _⟩ := overtaken
  rw [deeds_append, deeds, signedIn]
  exact List.mem_append_right _ List.mem_cons_self

end Overtaken

end Traffic

namespace LateRefusal

open Traffic

/-- A backend on one host. -/
def settings : Settings where
  baseUrl :=
    { scheme := "http".toList, host := some (.domain "backend.example".toList)
      path := .segments ["api".toList] }

/-- The answer that brings a token. -/
def granted : Answer where
  status := .ok
  chunks := [Text.bytesOf "\x7b\"access_token\":\"fresh\"\x7d"]

/-- A gateway with a token of an earlier session. -/
def start : Traffic := .start (.memory (some "stale")) {} ⟨0, 0⟩

/-- A call goes out, and before its reply comes somebody signs in. -/
def events : List Event :=
  [.send (.getJson Json.readValue "/me" []) true, .sendLogin "ann" "secret" true,
    .replyLogin 0 (.ok granted)]

/-- The request of the call, with the token of the earlier session. -/
def request : Request :=
  { Request.getJson
      { settings.baseUrl with path := .segments ["api".toList, "me".toList] } with
    authorization := some "Bearer stale" }

theorem overtaken : Overtaken settings start request 0 events :=
  .intro [] [.sendLogin "ann" "secret" true] [] rfl rfl rfl

end LateRefusal

open Traffic

/-- The refusal of a request that went out in an earlier session may clear the token of the
session that stands. -/
theorem late_refusal_not_spared :
    ¬ ∀ (settings : Settings) (credentials : CredentialStore) (volume : Volume) (now : Instant)
        (events : List Event) (request : Request) (place : Nat) (answer : Answer),
      Overtaken settings (Traffic.start credentials volume now) request place events →
      answer.status = .unauthorized →
      let traffic := (Traffic.start credentials volume now).run settings events
      let after := traffic.step settings (.reply place (.ok answer))
      after.state.credentials.token = traffic.state.credentials.token ∧
        after.state.signOuts = traffic.state.signOuts := by
  intro spared
  have kept := spared LateRefusal.settings _ _ _ LateRefusal.events LateRefusal.request 0
    { status := .unauthorized } LateRefusal.overtaken rfl
  exact absurd kept.1 (by decide)

/-- A late refusal ends the session that stands. A call that was overtaken by a sign-in
is refused with 401. If its request went to the backend and the session of the last sign-in
has not been ended yet, that session is ended: its token is cleared and the hook runs, once.
If the request went elsewhere, or the session has ended already, nothing changes. -/
theorem late_refusal_ends_standing_session (settings : Settings) (credentials : CredentialStore)
    (volume : Volume) (now : Instant) (events : List Event) (request : Request) (place : Nat)
    (answer : Answer)
    (overtaken : Overtaken settings (Traffic.start credentials volume now) request place events)
    (unauthorized : answer.status = .unauthorized) :
    let start := Traffic.start credentials volume now
    let traffic := start.run settings events
    let after := traffic.step settings (.reply place (.ok answer))
    (SameOrigin request.url settings.baseUrl → ¬ EndedSince (start.deeds settings events) →
        traffic.state.isAuthenticated = true ∧ after.state.credentials.token = none ∧
          after.state.latchClosed = true ∧
          after.state.signOuts = traffic.state.signOuts + 1) ∧
      (¬ SameOrigin request.url settings.baseUrl ∨ EndedSince (start.deeds settings events) →
        after.state.standing = traffic.state.standing) := by
  intro start traffic after
  obtain ⟨pending, waiting, url⟩ := overtaken.exists_waiting
  have latch : traffic.state.latchClosed = true ↔ EndedSince (start.deeds settings events) := by
    rw [latchClosed_run_iff]
    exact or_iff_left fun closed => nomatch closed.1
  have settled : after.state =
      (pending.call.settle settings traffic.state pending.url (.ok answer)).2 := by
    simp only [after, step, react, settleCall, traffic, start, waiting]
  have expires (backend : SameOrigin request.url settings.baseUrl) :
      after.state = traffic.state.expireSession := by
    rw [settled, pending.call.settle_of_refused]
    exact ⟨answer, rfl, unauthorized, url ▸ backend⟩
  constructor
  · intro backend lasting
    have standing : traffic.state.latchClosed = false := by
      rwa [← latch, Bool.not_eq_true] at lasting
    rw [expires backend]
    exact ⟨isAuthenticated_of_signedIn overtaken.signedIn_mem standing,
      State.expireSession_of_open standing⟩
  · intro spared
    by_cases backend : SameOrigin request.url settings.baseUrl
    · have ended := spared.resolve_left (not_not_intro backend)
      rw [expires backend]
      exact State.standing_expireSession_of_closed (latch.mpr ended)
    · rw [settled]
      apply pending.call.standing_settle
      rintro ⟨_, _, _, same⟩
      exact backend (url ▸ same)

/-- A request carries a stale token, a sign-in brings a fresh one, and then the request is
refused: the fresh token is gone and the hook has run. -/
theorem late_refusal_clears_fresh_token :
    let traffic := LateRefusal.start.run LateRefusal.settings LateRefusal.events
    let refusal : Answer := { status := .unauthorized }
    let after := traffic.step LateRefusal.settings (.reply 0 (.ok refusal))
    Overtaken LateRefusal.settings LateRefusal.start LateRefusal.request 0 LateRefusal.events ∧
      SameOrigin LateRefusal.request.url LateRefusal.settings.baseUrl ∧
      ¬ EndedSince (LateRefusal.start.deeds LateRefusal.settings LateRefusal.events) ∧
      traffic.state.sent.head? = some LateRefusal.request ∧
      traffic.state.credentials.token = some "fresh" ∧ traffic.state.signOuts = 0 ∧
      after.state.credentials.token = none ∧ after.state.signOuts = 1 := by
  intro traffic refusal after
  have same : SameOrigin LateRefusal.request.url LateRefusal.settings.baseUrl := by decide
  have lasting :
      ¬ EndedSince (LateRefusal.start.deeds LateRefusal.settings LateRefusal.events) := by
    intro ended
    have closed : traffic.state.latchClosed = true :=
      (latchClosed_run_iff LateRefusal.events).mpr (.inl ended)
    exact absurd closed (by decide)
  obtain ⟨ends, _⟩ := late_refusal_ends_standing_session LateRefusal.settings _ _ _ _
    LateRefusal.request 0 refusal LateRefusal.overtaken rfl
  obtain ⟨_, cleared, _, hook⟩ := ends same lasting
  exact ⟨LateRefusal.overtaken, same, lasting, rfl, rfl, rfl, cleared, hook⟩

end UtilityBilling.Api
