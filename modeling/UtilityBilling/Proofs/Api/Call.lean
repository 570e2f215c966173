/-
# Calls

The calls that may carry the credential are of one shape: each resolves an address,
sends one request there, deals with the reply and reads what a success brought. They
differ in the way to the address, in the request and in the reading. What a reply does
to the session is decided before anything is read: a refusal by the backend ends the
session, and nothing else touches it.
-/

import UtilityBilling.Api.Gateway

namespace UtilityBilling.Api

open UtilityBilling.Files (Volume OutputError)
open UtilityBilling.Text (Bytes)
open UtilityBilling.Url (Address)

/-! ## Sessions -/

/-- What there is of a session: the credential, the latch, and how often the sign-out
hook has run. -/
structure Standing where
  credentials : CredentialStore
  latchClosed : Bool
  signOuts : Nat

namespace State

/-- The session of a state. -/
def standing (state : State) : Standing :=
  ⟨state.credentials, state.latchClosed, state.signOuts⟩

/-- The state with another session. -/
def withStanding (state : State) (standing : Standing) : State :=
  { state with
    credentials := standing.credentials
    latchClosed := standing.latchClosed
    signOuts := standing.signOuts }

@[simp]
theorem withStanding_standing (state : State) : state.withStanding state.standing = state := rfl

@[simp]
theorem standing_withStanding (state : State) (standing : Standing) :
    (state.withStanding standing).standing = standing := rfl

@[simp]
theorem sent_withStanding (state : State) (standing : Standing) :
    (state.withStanding standing).sent = state.sent := rfl

end State

/-- Two addresses share an origin. An address without an origin shares it with none, not
even with itself. -/
def SameOrigin (first second : Address) : Prop :=
  ∃ origin, first.origin? = some origin ∧ second.origin? = some origin

/-- The backend's addresses are those of the base url's origin. -/
theorem Settings.isBackend_iff {settings : Settings} {url : Address} :
    settings.isBackend url = true ↔ SameOrigin url settings.baseUrl := by
  unfold Settings.isBackend SameOrigin
  cases url.origin? with
  | none => simp
  | some origin =>
      cases settings.baseUrl.origin? with
      | none => simp
      | some own =>
          simp only [beq_iff_eq, Option.some.injEq]
          constructor
          · intro same
            exact ⟨origin, rfl, same.symm⟩
          · rintro ⟨shared, rfl, rfl⟩
            rfl

/-- A reply is the backend's refusal of the session. -/
def RefusedByBackend (settings : Settings) (url : Address) (reply : Reply) : Prop :=
  ∃ answer, reply = .ok answer ∧ answer.status = .unauthorized ∧
    SameOrigin url settings.baseUrl

instance (first second : Address) : Decidable (SameOrigin first second) :=
  decidable_of_iff ((Settings.mk second 0 "" "").isBackend first = true) Settings.isBackend_iff

instance (settings : Settings) (url : Address) (reply : Reply) :
    Decidable (RefusedByBackend settings url reply) :=
  match reply with
  | .error _ => isFalse fun ⟨_, answered, _⟩ => nomatch answered
  | .ok answer =>
    decidable_of_iff (answer.status = .unauthorized ∧ SameOrigin url settings.baseUrl)
      ⟨fun refused => ⟨answer, rfl, refused⟩,
        fun ⟨_, answered, refused⟩ => Except.ok.inj answered ▸ refused⟩

/-- The kind of a result that is a failure. -/
def failureKind? {α : Type} : Result α → Option ErrorKind
  | .ok _ => none
  | .error error => some error.kind

/-- A success or a failure like any other: the result says neither that the session has ended
nor that the call was given up. -/
def Ordinary {α : Type} (result : Result α) : Prop :=
  failureKind? result ≠ some .unauthorized ∧ failureKind? result ≠ some .cancelled

@[simp]
theorem ordinary_ok {α : Type} (value : α) : Ordinary (.ok value) := by
  simp [Ordinary, failureKind?]

@[simp]
theorem ordinary_error_iff {α : Type} {error : Error} :
    Ordinary (.error error : Result α) ↔
      error.kind ≠ .unauthorized ∧ error.kind ≠ .cancelled := by
  simp [Ordinary, failureKind?]

namespace CredentialStore

@[simp]
theorem token_clear (store : CredentialStore) (volume : Volume) :
    (store.clear volume).1.token = none := by
  cases store with
  | memory token => rfl
  | file store =>
      show (store.clear volume).1.token = none
      unfold Session.FileStore.clear
      split <;> rfl

@[simp]
theorem token_put (store : CredentialStore) (volume : Volume) (now : Session.Instant)
    (token : String) : (store.put volume now token).1.token = some token := by
  cases store <;> rfl

end CredentialStore

namespace State

@[simp]
theorem token_signIn (state : State) (token : String) :
    (state.signIn token).credentials.token = some token :=
  CredentialStore.token_put _ _ _ _

@[simp]
theorem latchClosed_signIn (state : State) (token : String) :
    (state.signIn token).latchClosed = false := rfl

@[simp]
theorem token_signOut (state : State) : state.signOut.credentials.token = none :=
  CredentialStore.token_clear _ _

@[simp]
theorem latchClosed_signOut (state : State) : state.signOut.latchClosed = true := rfl

@[simp]
theorem latchClosed_expireSession (state : State) : state.expireSession.latchClosed = true := by
  unfold expireSession closeLatch
  cases state.latchClosed <;> rfl

@[simp]
theorem sent_expireSession (state : State) : state.expireSession.sent = state.sent := by
  unfold expireSession closeLatch
  cases state.latchClosed <;> rfl

/-- After the end of a session nothing is stored, unless something was stored behind a
closed latch. -/
theorem token_expireSession {state : State}
    (empty : state.latchClosed = true → state.credentials.token = none) :
    state.expireSession.credentials.token = none := by
  unfold expireSession closeLatch
  cases closed : state.latchClosed with
  | true => exact empty closed
  | false => exact CredentialStore.token_clear _ _

end State

/-! ## Requests and replies -/

/-- A request goes out on a line: it can be sent, and the line reaches a server. -/
def GoesOut (line : Line) (state : State) (request : Request) : Prop :=
  request.fault? = none ∧ line state.sent request ≠ .error .unreachable

theorem exchange_of_goesOut {line : Line} {state : State} {request : Request}
    (out : GoesOut line state request) :
    exchange line state request =
      (line state.sent request, { state with sent := state.sent ++ [request] }) := by
  obtain ⟨sound, reached⟩ := out
  unfold exchange
  rw [sound]
  dsimp only
  split
  case h_1 unreachable => exact absurd unreachable reached
  case h_2 => rfl

theorem exchange_of_not_goesOut {line : Line} {state : State} {request : Request}
    (kept : ¬ GoesOut line state request) :
    exchange line state request = (.error (request.fault?.getD .unreachable), state) := by
  unfold exchange
  cases fault : request.fault? with
  | some failure => rfl
  | none =>
      have unreachable : line state.sent request = .error .unreachable :=
        Classical.byContradiction fun reached => kept ⟨fault, reached⟩
      simp [unreachable]

/-- An exchange sends its request or nothing. -/
theorem sent_exchange (line : Line) (state : State) (request : Request) :
    (exchange line state request).2.sent = state.sent ∨
      (exchange line state request).2.sent = state.sent ++ [request] := by
  by_cases out : GoesOut line state request
  · right
    rw [exchange_of_goesOut out]
  · left
    rw [exchange_of_not_goesOut out]

/-- An exchange takes no notice of the session. -/
theorem exchange_withStanding (line : Line) (state : State) (request : Request)
    (standing : Standing) :
    exchange line (state.withStanding standing) request =
      ((exchange line state request).1,
        (exchange line state request).2.withStanding standing) := by
  unfold exchange
  cases request.fault? with
  | some failure => rfl
  | none =>
      rw [State.sent_withStanding]
      dsimp only
      split <;> rfl

/-- The credential goes out exactly with requests to the backend, as long as there is
one. -/
theorem authorization_authorized_iff (settings : Settings) (state : State) {request : Request}
    (bare : request.authorization = none) {value : String} :
    (authorized settings state request).authorization = some value ↔
      ∃ token, state.credentials.token = some token ∧
        SameOrigin request.url settings.baseUrl ∧ value = "Bearer " ++ token := by
  rw [← Settings.isBackend_iff]
  unfold authorized
  cases state.credentials.token with
  | none => simp [bare]
  | some token =>
      cases settings.isBackend request.url with
      | false => simp [bare]
      | true => simp [eq_comm]

/-- Nothing is added to a request that goes elsewhere. -/
theorem authorized_of_foreign {settings : Settings} {request : Request} (state : State)
    (foreign : ¬ SameOrigin request.url settings.baseUrl) :
    authorized settings state request = request := by
  rw [← Settings.isBackend_iff, Bool.not_eq_true] at foreign
  unfold authorized
  cases state.credentials.token with
  | none => rfl
  | some token => simp [foreign]

/-- Without a credential nothing is added to a request. -/
theorem authorized_of_none {settings : Settings} {state : State} (request : Request)
    (empty : state.credentials.token = none) : authorized settings state request = request := by
  simp [authorized, empty]

@[simp]
theorem url_authorized (settings : Settings) (state : State) (request : Request) :
    (authorized settings state request).url = request.url := by
  unfold authorized
  cases state.credentials.token with
  | none => rfl
  | some token => cases settings.isBackend request.url <;> rfl

theorem kind_rejection (answer : Answer) :
    answer.rejection.kind ≠ .unauthorized ∧ answer.rejection.kind ≠ .cancelled := by
  have kept : (errorOfBody answer.status answer.text).kind ≠ .cancelled := by
    rw [errorOfBody, kindOf]
    split
    · simp
    · split <;> simp
  unfold Answer.rejection Error.asRejection
  split
  case isTrue => simp
  case isFalse other => exact ⟨other, kept⟩

theorem kind_failure (failure : Failure) (url : Address) :
    (failure.error url).kind ≠ .unauthorized ∧ (failure.error url).kind ≠ .cancelled := by
  cases failure <;> simp [Failure.error, tookTooLong]

/-- The backend's refusal ends the session. -/
theorem receive_of_refused {settings : Settings} {url : Address} {reply : Reply}
    (state : State) (refused : RefusedByBackend settings url reply) :
    receive settings state url reply = (.error sessionExpired, state.expireSession) := by
  obtain ⟨answer, rfl, status, same⟩ := refused
  simp [receive, status, Settings.isBackend_iff.mpr same]

/-- An answer that is not the backend's refusal is either a success or a rejection. -/
theorem receive_of_not_refused {settings : Settings} {url : Address} {answer : Answer}
    (state : State) (other : ¬ RefusedByBackend settings url (.ok answer)) :
    receive settings state url (.ok answer) =
      if answer.status.isSuccess then (.ok answer, state)
      else
        (.error answer.rejection,
          state.warn (String.ofList url.plainPath ++ " " ++
            toString answer.status.value.toNat ++ " failed: " ++ answer.rejection.message)) := by
  have guard : ¬ (answer.status = .unauthorized && settings.isBackend url) = true := by
    intro both
    rw [Bool.and_eq_true, decide_eq_true_eq, Settings.isBackend_iff] at both
    exact other ⟨answer, rfl, both.1, both.2⟩
  rw [receive, if_neg guard]

/-- A reply that is not the backend's refusal takes no notice of the session. -/
theorem receive_withStanding {settings : Settings} {url : Address} {reply : Reply}
    (state : State) (standing : Standing) (other : ¬ RefusedByBackend settings url reply) :
    receive settings (state.withStanding standing) url reply =
      ((receive settings state url reply).1,
        (receive settings state url reply).2.withStanding standing) := by
  cases reply with
  | error failure => rfl
  | ok answer =>
      rw [receive_of_not_refused _ other, receive_of_not_refused _ other]
      split <;> rfl

/-- A reply that is not the backend's refusal leaves the session as it is. -/
theorem standing_receive {settings : Settings} {url : Address} {reply : Reply}
    (state : State) (other : ¬ RefusedByBackend settings url reply) :
    (receive settings state url reply).2.standing = state.standing := by
  have frame := receive_withStanding state state.standing other
  rw [State.withStanding_standing] at frame
  rw [frame]
  exact State.standing_withStanding _ _

/-- Only the backend's refusal is reported as the end of the session, and no reply as a call
that was given up. -/
theorem ordinary_receive {settings : Settings} {url : Address} {reply : Reply} (state : State)
    (other : ¬ RefusedByBackend settings url reply) :
    Ordinary (receive settings state url reply).1 := by
  cases reply with
  | error failure => exact ordinary_error_iff.mpr (kind_failure failure url)
  | ok answer =>
      rw [receive_of_not_refused _ other]
      split
      case isTrue => exact ordinary_ok answer
      case isFalse => exact ordinary_error_iff.mpr (kind_rejection answer)

@[simp]
theorem sent_receive (settings : Settings) (state : State) (url : Address) (reply : Reply) :
    (receive settings state url reply).2.sent = state.sent := by
  by_cases refused : RefusedByBackend settings url reply
  · simp [receive_of_refused state refused]
  · cases reply with
    | error failure => rfl
    | ok answer =>
        rw [receive_of_not_refused _ refused]
        split <;> rfl

/-- The token that the reply to a sign-in brings. -/
def loginToken (url : Address) : Reply → Result String
  | .error failure => .error (failure.error url)
  | .ok answer =>
    if answer.status.isSuccess then answer.decoded url readLogin else .error answer.rejection

/-- A sign-in that brings a token starts a session; any other changes nothing. -/
theorem receiveLogin_eq (state : State) (url : Address) (reply : Reply) :
    receiveLogin state url reply =
      match loginToken url reply with
      | .ok token => (.ok (), state.signIn token)
      | .error error => (.error error, state) := by
  cases reply with
  | error failure => rfl
  | ok answer =>
      unfold receiveLogin loginToken
      dsimp only
      split
      case isTrue => rfl
      case isFalse => rfl

@[simp]
theorem sent_receiveLogin (state : State) (url : Address) (reply : Reply) :
    (receiveLogin state url reply).2.sent = state.sent := by
  rw [receiveLogin_eq]
  cases loginToken url reply <;> rfl

/-! ## Calls -/

/-- A call to the backend that may carry the credential, by what a success brings. -/
inductive Call : Type → Type 1 where
  | getJson {α : Type} (read : Nat → Bytes → Json.Read α) (path : String)
      (parameters : List (String × String)) : Call α
  | postJson {α : Type} (read : Nat → Bytes → Json.Read α) (path body : String) : Call α
  | download (link directory name : String) : Call String

namespace Call

/-- The call for a page of a list. -/
def fetchPage (endpoint : String) (parameters : List (String × String)) :
    Call (Table.Page Json.Value) :=
  .getJson Table.readPage endpoint parameters

/-- The call for the status of a task. -/
def taskStatus (settings : Settings) (taskId : String) : Call Task.Status :=
  .getJson Task.readStatus (settings.statusPathOf taskId) []

/-- Makes a call: all of it at once. -/
def perform (settings : Settings) (line : Line) (state : State) :
    {α : Type} → Call α → Result α × State
  | _, .getJson read path parameters => Api.getJson settings line state read path parameters
  | _, .postJson read path body => Api.postJson settings line state read path body
  | _, .download link directory name => Api.download settings line state link directory name

theorem perform_fetchPage (settings : Settings) (line : Line) (state : State)
    (endpoint : String) (parameters : List (String × String)) :
    (fetchPage endpoint parameters).perform settings line state =
      Api.fetchPage settings line state endpoint parameters := rfl

variable {α : Type}

/-- Where a call goes. -/
def address (settings : Settings) : Call α → Result Address
  | .getJson _ path parameters => settings.endpointUrl path parameters
  | .postJson _ path _ => settings.endpointUrl path []
  | .download link _ _ => settings.resolveLink link

/-- The request of a call, without the credential. -/
def request (url : Address) : Call α → Request
  | .getJson .. => .getJson url
  | .postJson _ _ body => .postJson url body
  | .download .. => .getFile url

/-- The request of a call as it is put on the line. -/
def outgoing (settings : Settings) (state : State) (url : Address) (call : Call α) : Request :=
  authorized settings state (call.request url)

/-- Reads what a success brought. -/
def finish (url : Address) (answer : Answer) (state : State) :
    {α : Type} → Call α → Result α × State
  | _, .getJson read _ _ => (answer.decoded url read, state)
  | _, .postJson read _ _ => (answer.decoded url read, state)
  | _, .download _ directory name =>
    let (result, volume) := saveBody state.volume directory name answer
    (result, { state with volume := volume })

/-- Deals with the reply to the request of a call, up to what the call returns. -/
def settle (settings : Settings) (state : State) (url : Address) (reply : Reply)
    (call : Call α) : Result α × State :=
  match receive settings state url reply with
  | (.error error, after) => (.error error, after)
  | (.ok answer, after) => call.finish url answer after

@[simp]
theorem url_request (call : Call α) (url : Address) : (call.request url).url = url := by
  cases call <;> rfl

@[simp]
theorem authorization_request (call : Call α) (url : Address) :
    (call.request url).authorization = none := by
  cases call <;> rfl

@[simp]
theorem url_outgoing (call : Call α) (settings : Settings) (state : State) (url : Address) :
    (call.outgoing settings state url).url = url := by
  simp [outgoing]

/-- A call whose address does not resolve fails at once. -/
theorem perform_of_unresolved {settings : Settings} {call : Call α} {error : Error}
    (line : Line) (state : State) (unresolved : call.address settings = .error error) :
    call.perform settings line state = (.error error, state) := by
  cases call <;> simp_all [perform, address, Api.getJson, Api.postJson, Api.download]

/-- Every call is one exchange, and its reply settles it. -/
theorem perform_eq {settings : Settings} {call : Call α} {url : Address} (line : Line)
    (state : State) (resolves : call.address settings = .ok url) :
    call.perform settings line state =
      call.settle settings (exchange line state (call.outgoing settings state url)).2 url
        (exchange line state (call.outgoing settings state url)).1 := by
  cases call with
  | getJson read path parameters =>
      have resolved : settings.endpointUrl path parameters = .ok url := resolves
      simp only [perform, Api.getJson, resolved]
      rfl
  | postJson read path body =>
      have resolved : settings.endpointUrl path [] = .ok url := resolves
      simp only [perform, Api.postJson, resolved]
      rfl
  | download link directory name =>
      have resolved : settings.resolveLink link = .ok url := resolves
      simp only [perform, Api.download, resolved]
      rfl

theorem ordinary_decoded (answer : Answer) (url : Address)
    (read : Nat → Bytes → Json.Read α) : Ordinary (answer.decoded url read) := by
  unfold Answer.decoded
  split
  case h_1 cut _ => cases cut <;> simp [Cut.error, tookTooLong]
  case h_2 => split <;> simp

theorem ordinary_saveBody (volume : Volume) (directory name : String) (answer : Answer) :
    Ordinary (saveBody volume directory name answer).1 := by
  unfold saveBody
  split
  case h_1 => simp [storageError]
  case h_2 =>
    split
    case h_1 => simp [storageError]
    case h_2 =>
      split
      case h_1 cut _ => cases cut <;> simp [Cut.error, tookTooLong]
      case h_2 => split <;> simp [storageError]

theorem kind_addressOf {settings : Settings} {path : List Char} {error : Error}
    (unresolved : settings.addressOf path = .error error) : error.kind = .invalidUrl := by
  unfold Settings.addressOf at unresolved
  split at unresolved
  case h_1 => cases unresolved
  case h_2 =>
    dsimp only at unresolved
    split at unresolved
    case h_1 => cases unresolved
    case h_2 =>
      cases unresolved
      rfl

/-- An endpoint path without an address is reported as no url. -/
theorem kind_endpointUrl {settings : Settings} {path : String}
    {parameters : List (String × String)} {error : Error}
    (unresolved : settings.endpointUrl path parameters = .error error) :
    error.kind = .invalidUrl := by
  unfold Settings.endpointUrl at unresolved
  cases resolves : settings.addressOf path.toList with
  | ok url =>
      rw [resolves] at unresolved
      cases unresolved
  | error other =>
      rw [resolves] at unresolved
      cases unresolved
      exact kind_addressOf resolves

/-- A call whose address does not resolve reports just that. -/
theorem kind_address {settings : Settings} {call : Call α} {error : Error}
    (unresolved : call.address settings = .error error) : error.kind = .invalidUrl := by
  cases call with
  | getJson read path parameters => exact kind_endpointUrl unresolved
  | postJson read path body => exact kind_endpointUrl unresolved
  | download link directory name =>
      unfold address Settings.resolveLink at unresolved
      dsimp only at unresolved
      split at unresolved
      case h_1 => cases unresolved
      case h_2 =>
        cases unresolved
        rfl

/-- What a success brought is never read as the end of the session. -/
theorem ordinary_finish (call : Call α) (url : Address) (answer : Answer) (state : State) :
    Ordinary (call.finish url answer state).1 := by
  cases call with
  | getJson read path parameters => exact ordinary_decoded answer url read
  | postJson read path body => exact ordinary_decoded answer url read
  | download link directory name => exact ordinary_saveBody _ _ _ _

/-- Reading takes no notice of the session. -/
theorem finish_withStanding (call : Call α) (url : Address) (answer : Answer) (state : State)
    (standing : Standing) :
    call.finish url answer (state.withStanding standing) =
      ((call.finish url answer state).1,
        (call.finish url answer state).2.withStanding standing) := by
  cases call <;> rfl

@[simp]
theorem sent_finish (call : Call α) (url : Address) (answer : Answer) (state : State) :
    (call.finish url answer state).2.sent = state.sent := by
  cases call <;> rfl

variable {settings : Settings} {url : Address} {reply : Reply}

/-- The backend's refusal ends the session and the call. -/
theorem settle_of_refused (call : Call α) (state : State)
    (refused : RefusedByBackend settings url reply) :
    call.settle settings state url reply = (.error sessionExpired, state.expireSession) := by
  rw [settle, receive_of_refused state refused]

/-- A reply that is not the backend's refusal settles a call without any notice of the
session. -/
theorem settle_withStanding (call : Call α) (state : State) (standing : Standing)
    (other : ¬ RefusedByBackend settings url reply) :
    call.settle settings (state.withStanding standing) url reply =
      ((call.settle settings state url reply).1,
        (call.settle settings state url reply).2.withStanding standing) := by
  unfold settle
  rw [receive_withStanding state standing other]
  rcases receive settings state url reply with ⟨result, after⟩
  cases result with
  | error error => rfl
  | ok answer => exact call.finish_withStanding url answer after standing

/-- A reply that is not the backend's refusal leaves the session as it is. -/
theorem standing_settle (call : Call α) (state : State)
    (other : ¬ RefusedByBackend settings url reply) :
    (call.settle settings state url reply).2.standing = state.standing := by
  have frame := call.settle_withStanding state state.standing other
  rw [State.withStanding_standing] at frame
  rw [frame]
  exact State.standing_withStanding _ _

/-- Whatever reply settles a call but the backend's refusal, the call comes to a success or to
a failure like any other. -/
theorem ordinary_settle (call : Call α) (state : State)
    (other : ¬ RefusedByBackend settings url reply) :
    Ordinary (call.settle settings state url reply).1 := by
  have received := ordinary_receive state other
  unfold settle
  generalize receive settings state url reply = deals at received
  obtain ⟨result, after⟩ := deals
  cases result with
  | error error => exact received
  | ok answer => exact call.ordinary_finish url answer after

/-- A call reports the end of the session exactly if its own reply was the backend's
refusal. -/
theorem kind_settle_iff (call : Call α) (state : State) :
    failureKind? (call.settle settings state url reply).1 = some .unauthorized ↔
      RefusedByBackend settings url reply := by
  by_cases refused : RefusedByBackend settings url reply
  · rw [call.settle_of_refused state refused]
    exact iff_of_true rfl refused
  · exact iff_of_false (call.ordinary_settle state refused).1 refused

@[simp]
theorem sent_settle (call : Call α) (state : State) :
    (call.settle settings state url reply).2.sent = state.sent := by
  have sent := sent_receive settings state url reply
  unfold settle
  generalize receive settings state url reply = received at sent
  obtain ⟨result, after⟩ := received
  cases result with
  | error error => exact sent
  | ok answer => exact (call.sent_finish url answer after).trans sent

end Call

end UtilityBilling.Api
