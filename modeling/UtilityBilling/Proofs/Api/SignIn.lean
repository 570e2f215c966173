/-
# Signing in

A sign-in is decided by the reply to its request alone. A success whose body holds a token
starts a session with it; after any other reply all is as it was before, and a refusal with 401
is a wrong password, not the end of a session. Whatever happened before, the first refusal of
the backend in the session that was started ends it and runs the hook, and no later one does.
-/

import UtilityBilling.Proofs.Api.LoginBody
import UtilityBilling.Proofs.Api.Overtaken

namespace UtilityBilling.Api

open UtilityBilling.Url (Address)

/-- The request of a sign-in. -/
def Request.signIn (url : Address) (username password : String) : Request :=
  .postJson url (loginBody username password)

/-- A sign-in brings a token: its request can be sent, and the reply to it holds the token. -/
structure BringsToken (settings : Settings) (line : Line) (sent : List Request)
    (username password : String) (url : Address) (token : String) : Prop where
  address : settings.endpointUrl settings.loginPath [] = .ok url
  sendable : (Request.signIn url username password).fault? = none
  reply : loginToken url (line sent (.signIn url username password)) = .ok token

variable {settings : Settings} {line : Line} {state after : State} {username password : String}
  {url : Address} {token : String}

theorem login_of_address (address : settings.endpointUrl settings.loginPath [] = .ok url) :
    login settings line state username password =
      let exchanged := exchange line state (.signIn url username password)
      receiveLogin exchanged.2 url exchanged.1 := by
  unfold login
  rw [address]
  rfl

theorem receiveLogin_eq_ok_iff {reply : Reply} :
    receiveLogin state url reply = (.ok (), after) ↔
      ∃ token, loginToken url reply = .ok token ∧ after = state.signIn token := by
  rw [receiveLogin_eq]
  cases loginToken url reply with
  | error error => simp
  | ok token => simp [eq_comm]

/-- What comes back for a request that does not go out brings no token. -/
theorem goesOut_of_loginToken {request : Request}
    (brings : loginToken url (exchange line state request).1 = .ok token) :
    GoesOut line state request := by
  by_contra kept
  rw [exchange_of_not_goesOut kept] at brings
  cases brings

theorem BringsToken.goesOut
    (brings : BringsToken settings line state.sent username password url token) :
    GoesOut line state (.signIn url username password) := by
  refine ⟨brings.sendable, fun unreachable => ?_⟩
  have reply := brings.reply
  rw [unreachable] at reply
  cases reply

/-- A sign-in succeeds exactly if it brings a token, and then starts a session with it. -/
theorem login_eq_ok_iff :
    login settings line state username password = (.ok (), after) ↔
      ∃ url token, BringsToken settings line state.sent username password url token ∧
        after =
          { state with
            sent := state.sent ++ [Request.signIn url username password] }.signIn token := by
  constructor
  · intro done
    cases address : settings.endpointUrl settings.loginPath [] with
    | error error =>
        rw [login, address] at done
        cases done
    | ok url =>
        rw [login_of_address address] at done
        obtain ⟨token, reply, rfl⟩ := receiveLogin_eq_ok_iff.mp done
        have out := goesOut_of_loginToken reply
        rw [exchange_of_goesOut out] at reply ⊢
        exact ⟨url, token, ⟨address, out.1, reply⟩, rfl⟩
  · rintro ⟨url, token, brings, rfl⟩
    rw [login_of_address brings.address, exchange_of_goesOut brings.goesOut]
    exact receiveLogin_eq_ok_iff.mpr ⟨token, brings.reply, rfl⟩

/-- An answer grants a token: it is a success that came in full, and its body holds the token. -/
structure Answer.Grants (answer : Answer) (token : String) : Prop where
  success : 200 ≤ answer.status.value ∧ answer.status.value ≤ 299
  complete : answer.isComplete = true
  holds : HoldsToken answer.bytes token

/-- A sign-in follows the reply to its request. If the reply grants a token, the session has the
token and can be ended once. If not, the sign-in fails, and no more than the requests that went
out has changed; so it is with a 401, which is a rejection in the words of the answer. -/
structure Follows (reply : Reply) (before : State) (result : Result Unit) (after : State) :
    Prop where
  granted : ∀ answer token, reply = .ok answer → answer.Grants token →
    result = .ok () ∧ after.credentials.token = some token ∧ after.latchClosed = false ∧
      after.signOuts = before.signOuts
  denied : (∀ answer token, reply = .ok answer → ¬ answer.Grants token) →
    (∃ error, result = .error error) ∧ after = { before with sent := after.sent }
  rejected : ∀ answer, reply = .ok answer → answer.status.value = 401 →
    result = .error ⟨.rejected 401, (errorOfBody answer.status answer.text).message⟩ ∧
      after = { before with sent := after.sent }

/-- The token of a reply is the one that its answer grants. -/
theorem loginToken_eq_ok_iff {reply : Reply} :
    loginToken url reply = .ok token ↔
      ∃ answer, reply = .ok answer ∧ answer.Grants token := by
  cases reply with
  | error failure => simp [loginToken]
  | ok answer =>
      have success : answer.status.isSuccess = true ↔
          200 ≤ answer.status.value ∧ answer.status.value ≤ 299 := by
        simp [StatusCode.isSuccess]
      have held : answer.decoded url readLogin = .ok token ↔
          answer.isComplete = true ∧ HoldsToken answer.bytes token := by
        rw [Answer.decoded, ← decode_readLogin_iff, Answer.isComplete]
        cases answer.cut? with
        | some cut => simp
        | none => cases Json.decode readLogin answer.bytes <;> simp
      rw [loginToken]
      constructor
      · intro brings
        split at brings
        case isFalse => cases brings
        case isTrue well =>
          obtain ⟨complete, holds⟩ := held.mp brings
          exact ⟨answer, rfl, success.mp well, complete, holds⟩
      · rintro ⟨other, same, well, complete, holds⟩
        obtain rfl : answer = other := Except.ok.inj same
        rw [if_pos (success.mpr well)]
        exact held.mpr ⟨complete, holds⟩

/-- An answer that is no success is told as it is by a sign-in. -/
theorem loginToken_of_refusal {answer : Answer} (failed : answer.status.isSuccess = false) :
    loginToken url (.ok answer) = .error answer.rejection := by
  rw [loginToken, failed]
  rfl

/-- A refusal with 401 is a plain rejection. -/
theorem rejection_of_unauthorized {answer : Answer} (unauthorized : answer.status.value = 401) :
    answer.rejection = ⟨.rejected 401, (errorOfBody answer.status answer.text).message⟩ := by
  obtain ⟨⟨value, inRange⟩, chunks, complete⟩ := answer
  obtain rfl : value = 401 := unauthorized
  rfl

/-- A sign-in follows the reply to its request. -/
theorem receiveLogin_follows (state : State) (url : Address) (reply : Reply) :
    Follows reply state (receiveLogin state url reply).1 (receiveLogin state url reply).2 := by
  rw [receiveLogin_eq]
  constructor
  case granted =>
    intro answer token same grants
    rw [loginToken_eq_ok_iff.mpr ⟨answer, same, grants⟩]
    exact ⟨rfl, state.token_signIn token, state.latchClosed_signIn token, rfl⟩
  case denied =>
    intro none_
    cases brings : loginToken url reply with
    | ok token =>
        obtain ⟨answer, same, grants⟩ := loginToken_eq_ok_iff.mp brings
        exact absurd grants (none_ answer token same)
    | error error => exact ⟨⟨error, rfl⟩, rfl⟩
  case rejected =>
    rintro answer rfl unauthorized
    have failed : answer.status.isSuccess = false := by
      simp [StatusCode.isSuccess, unauthorized]
    rw [loginToken_of_refusal failed, rejection_of_unauthorized unauthorized]
    exact ⟨rfl, rfl⟩

/-- A request that goes out is all that an exchange changes. -/
theorem state_exchange (line : Line) (state : State) (request : Request) :
    (exchange line state request).2 =
      { state with sent := (exchange line state request).2.sent } := by
  by_cases out : GoesOut line state request
  · rw [exchange_of_goesOut out]
  · rw [exchange_of_not_goesOut out]

/-- Requests that go out before a sign-in make no difference to what it follows. -/
theorem Follows.of_sent {reply : Reply} {before between : State} {result : Result Unit}
    (follows : Follows reply between result after)
    (same : between = { before with sent := between.sent }) :
    Follows reply before result after := by
  generalize between.sent = sent at same
  subst same
  exact ⟨follows.granted, follows.denied, follows.rejected⟩

/-- A sign-in whose address resolves follows what comes back for its request. -/
theorem login_follows (line : Line) (state : State) (username password : String)
    (address : settings.endpointUrl settings.loginPath [] = .ok url) :
    Follows (exchange line state (.signIn url username password)).1 state
      (login settings line state username password).1
      (login settings line state username password).2 := by
  rw [login_of_address address]
  exact (receiveLogin_follows _ url _).of_sent (state_exchange line state _)

namespace Traffic

/-- What comes of a sign-in that is decided. -/
def Deed.ofSignIn : Result Unit → Deed
  | .ok () => .signedIn
  | .error error => .loginFailed error

/-- A sign-in whose request is out follows the reply, whatever happened since. -/
theorem settleLogin_follows {traffic : Traffic} {index : Nat} (reply : Reply)
    (waits : traffic.logins[index]? = some url) :
    ∃ result, (traffic.settleLogin index reply).1 = .ofSignIn result ∧
      Follows reply traffic.state result (traffic.settleLogin index reply).2.state := by
  refine ⟨(receiveLogin traffic.state url reply).1, ?_⟩
  have follows := receiveLogin_follows traffic.state url reply
  rw [settleLogin, waits]
  dsimp only
  cases decided : receiveLogin traffic.state url reply with
  | mk result after =>
      rw [decided] at follows
      cases result with
      | ok => exact ⟨rfl, follows⟩
      | error error => exact ⟨rfl, follows⟩

variable {before : State} {deed : Deed} {traffic : Traffic}

/-- What does not end a session does not run the hook. -/
theorem Change.signOuts_eq (change : Change settings before after deed) (lasts : ¬ deed.Ends) :
    after.signOuts = before.signOuts := by
  cases change with
  | rests standing _ => exact congrArg Standing.signOuts standing
  | fails _ same => rw [same]
  | sends _ same => rw [same]
  | expires _ _ => exact absurd rfl lasts
  | settles _ _ standing _ => exact congrArg Standing.signOuts standing
  | signsIn started => rw [started]; rfl
  | refuses same => rw [same]
  | signsOut _ => exact absurd trivial lasts

/-- Behind a closed latch only a sign-in and a sign-out touch the session. -/
theorem Change.standing_of_closed (change : Change settings before after deed)
    (closed : before.latchClosed = true) (noSignIn : deed ≠ .signedIn)
    (noSignOut : deed ≠ .signedOut) : after.standing = before.standing := by
  cases change with
  | rests standing _ => exact standing
  | fails _ same => rw [same]
  | sends _ same => rw [same]; rfl
  | expires _ ended => rw [ended, State.standing_expireSession_of_closed closed]
  | settles _ _ standing _ => exact standing
  | signsIn _ => exact absurd rfl noSignIn
  | refuses same => rw [same]
  | signsOut _ => exact absurd rfl noSignOut

/-- As long as nothing ends a session, the hook does not run. -/
theorem signOuts_run {events : List Event}
    (lasts : ∀ deed ∈ traffic.deeds settings events, ¬ deed.Ends) :
    (traffic.run settings events).state.signOuts = traffic.state.signOuts := by
  induction events generalizing traffic with
  | nil => rfl
  | cons event events ih =>
      rw [deeds, List.forall_mem_cons] at lasts
      rw [run_cons, ih lasts.2]
      exact (traffic.react_changes settings event).signOuts_eq lasts.1

/-- A session that has ended stays as it is until somebody signs in or out. -/
theorem standing_run_of_closed {events : List Event} (closed : traffic.state.latchClosed = true)
    (noSignIn : .signedIn ∉ traffic.deeds settings events)
    (noSignOut : .signedOut ∉ traffic.deeds settings events) :
    (traffic.run settings events).state.standing = traffic.state.standing := by
  induction events generalizing traffic with
  | nil => rfl
  | cons event events ih =>
      rw [deeds, List.mem_cons, not_or] at noSignIn noSignOut
      have same := (traffic.react_changes settings event).standing_of_closed closed
        (Ne.symm noSignIn.1) (Ne.symm noSignOut.1)
      have latch : (traffic.step settings event).state.latchClosed = true :=
        (congrArg Standing.latchClosed same).trans closed
      rw [run_cons, ih latch noSignIn.2 noSignOut.2, same]

/-- The latch stays open from a sign-in until something ends the session. -/
theorem latchClosed_of_signedIn {event : Event} {later : List Event}
    (signedIn : (traffic.react settings event).1 = .signedIn)
    (lasts : ∀ deed ∈ (traffic.step settings event).deeds settings later, ¬ deed.Ends) :
    ((traffic.step settings event).run settings later).state.latchClosed = false := by
  rw [← Bool.not_eq_true, ← run_cons, latchClosed_run_iff, deeds, signedIn, endedSince_cons]
  rintro ((⟨earlier, ending, _, split, ends, _⟩ | ⟨ends, _⟩) | ⟨_, noSignIn⟩)
  · exact lasts ending (split ▸ List.mem_append_right _ List.mem_cons_self) ends
  · exact ends
  · exact noSignIn List.mem_cons_self

/-- The refusal of a call that waits is told as the end of the session and ends it. -/
theorem react_of_refused {index : Nat} {pending : Pending} {reply : Reply}
    (waits : traffic.calls[index]? = some pending)
    (refused : RefusedByBackend settings pending.url reply) :
    (traffic.react settings (.reply index reply)).1 =
        .returned pending.url reply (some .unauthorized) ∧
      (traffic.step settings (.reply index reply)).state = traffic.state.expireSession := by
  simp only [step, react, settleCall, waits, pending.call.settle_of_refused _ refused]
  exact ⟨rfl, trivial⟩

end Traffic

open Traffic

/-- A sign-in is all or nothing. Whatever the state is and whatever comes back, at once or
after any other events, a sign-in follows the reply to its request: either the session has the
token that the reply grants, or nothing has changed. If the address of sign-ins does not resolve
nothing has changed either. After a sign-in the first refusal of the backend, unless somebody
signs out before it, clears the token and runs the hook, and the hook does not run again until
somebody signs in or out. -/
theorem sign_in_all_or_nothing (settings : Settings) :
    (∀ (line : Line) (state : State) (username password : String),
      let signedIn := login settings line state username password
      match settings.endpointUrl settings.loginPath [] with
      | .error error => signedIn = (.error error, state)
      | .ok url =>
        Follows (exchange line state (.signIn url username password)).1 state
          signedIn.1 signedIn.2) ∧
    (∀ (traffic : Traffic) (index : Nat) (url : Address) (reply : Reply),
      traffic.logins[index]? = some url →
        ∃ result, (traffic.react settings (.replyLogin index reply)).1 = .ofSignIn result ∧
          Follows reply traffic.state result
            (traffic.step settings (.replyLogin index reply)).state) ∧
    ∀ (traffic : Traffic) (signIn : Event) (later : List Event) (index : Nat)
      (pending : Pending) (reply : Reply),
      let fresh := traffic.step settings signIn
      let late := fresh.run settings later
      let ended := late.step settings (.reply index reply)
      (traffic.react settings signIn).1 = .signedIn →
      (∀ deed ∈ fresh.deeds settings later, ¬ deed.Ends) →
      late.calls[index]? = some pending → RefusedByBackend settings pending.url reply →
        (late.react settings (.reply index reply)).1 =
            .returned pending.url reply (some .unauthorized) ∧
          ended.state.credentials.token = none ∧ ended.state.latchClosed = true ∧
          ended.state.signOuts = traffic.state.signOuts + 1 ∧
          ∀ further, .signedIn ∉ ended.deeds settings further →
            .signedOut ∉ ended.deeds settings further →
              (ended.run settings further).state.signOuts = ended.state.signOuts := by
  refine ⟨?_, ?_, ?_⟩
  · intro line state username password
    dsimp only
    split
    case h_1 error unresolved => rw [login, unresolved]
    case h_2 url address => exact login_follows line state username password address
  · intro traffic index url reply waits
    exact traffic.settleLogin_follows reply waits
  · intro traffic signIn later index pending reply fresh late ended signedIn lasts waits refused
    have open_ := latchClosed_of_signedIn signedIn lasts
    obtain ⟨told, expired⟩ := react_of_refused waits refused
    obtain ⟨cleared, closed, hook⟩ := State.expireSession_of_open open_
    have same : late.state.signOuts = traffic.state.signOuts := by
      rw [signOuts_run lasts]
      apply (traffic.react_changes settings signIn).signOuts_eq
      rw [signedIn]
      exact id
    refine ⟨told, ?_, ?_, ?_, ?_⟩
    · exact (congrArg (·.credentials.token) expired).trans cleared
    · exact (congrArg State.latchClosed expired).trans closed
    · rw [congrArg State.signOuts expired, hook, same]
    · intro further noSignIn noSignOut
      have latch := (congrArg State.latchClosed expired).trans closed
      exact congrArg Standing.signOuts (standing_run_of_closed latch noSignIn noSignOut)

/-- Somebody has signed out, with a call under way. A sign-in brings a fresh token, a wrong
password is refused, and then the call is: the hook has run twice. -/
theorem sign_in_all_or_nothing_after_sign_out :
    let settings := LateRefusal.settings
    let refusal : Reply := .ok { status := .unauthorized }
    let traffic := LateRefusal.start.run settings (.signOut :: LateRefusal.events.take 2)
    let later : List Event := [.sendLogin "ann" "wrong" true, .replyLogin 0 refusal]
    let fresh := traffic.step settings (.replyLogin 0 (.ok LateRefusal.granted))
    let ended := (fresh.run settings later).step settings (.reply 0 refusal)
    traffic.state.latchClosed = true ∧ traffic.state.signOuts = 1 ∧
      fresh.state.credentials.token = some "fresh" ∧
      ended.state.credentials.token = none ∧ ended.state.signOuts = 2 := by
  intro settings refusal traffic later
  obtain ⟨-, settled, refused⟩ := sign_in_all_or_nothing settings
  let fresh := traffic.step settings (.replyLogin 0 (.ok LateRefusal.granted))
  let asking := fresh.step settings (.sendLogin "ann" "wrong" true)
  let url : Address :=
    { settings.baseUrl with path := .segments ["api".toList, "auth".toList, "login".toList] }
  have asks : traffic.logins[0]? = some url ∧ asking.logins[0]? = some url := by decide +kernel
  have grants : LateRefusal.granted.Grants "fresh" :=
    ⟨by decide, rfl, decode_readLogin_iff.mp (by decide +kernel)⟩
  obtain ⟨_, signedIn, started⟩ := settled traffic 0 url (.ok LateRefusal.granted) asks.1
  obtain ⟨rfl, token, -⟩ := started.granted _ _ rfl grants
  obtain ⟨_, failed, follows⟩ := settled asking 0 url refusal asks.2
  obtain ⟨rfl, -⟩ := follows.rejected _ rfl rfl
  have lasts : ∀ deed ∈ fresh.deeds settings later, ¬ deed.Ends := by
    -- The latch is still open, so sending the second sign-in has not ended anything.
    have latch := (fresh.react_changes settings (.sendLogin "ann" "wrong" true)).latchClosed_iff
    have still : asking.state.latchClosed ≠ true := by decide +kernel
    rw [ne_eq, latch, not_or] at still
    rw [deeds, deeds, deeds, failed]
    simpa [Deed.Ends, Deed.ofSignIn] using still.1
  obtain ⟨pending, waits, same⟩ : ∃ pending,
      (fresh.run settings later).calls[0]? = some pending ∧
        pending.url = LateRefusal.request.url := by
    apply Option.map_eq_some_iff.mp
    decide +kernel
  have backend : RefusedByBackend settings pending.url refusal :=
    ⟨_, rfl, rfl, same ▸ by decide⟩
  obtain ⟨-, cleared, -, hook, -⟩ := refused traffic (.replyLogin 0 (.ok LateRefusal.granted))
    later 0 pending refusal signedIn lasts waits backend
  have before : traffic.state.latchClosed = true ∧ traffic.state.signOuts = 1 := by
    decide +kernel
  exact ⟨before.1, before.2, token, cleared, hook.trans (congrArg (· + 1) before.2)⟩

end UtilityBilling.Api
