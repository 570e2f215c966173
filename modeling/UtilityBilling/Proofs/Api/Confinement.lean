/-
# The credential stays with the backend

A call may lead anywhere: endpoint paths can be whole urls, and links come from the
server. The credential goes along exactly if the address that the call resolved to is of
the base url's origin. A call that leads elsewhere is the same call for every session:
it sends the same request, returns the same result and leaves the session alone, even
if it is refused.
-/

import UtilityBilling.Proofs.Api.Call

namespace UtilityBilling.Api

open UtilityBilling.Text (bytesOf Utf8.encode)
open UtilityBilling.Url (Address)

variable {α : Type} {settings : Settings} {line : Line} {state : State} {call : Call α}
  {url : Address}

/-- What confines the credential in a call to an address. -/
structure Confined (settings : Settings) (line : Line) (state : State) (call : Call α)
    (url : Address) : Prop where
  /-- The credential is attached exactly if there is one and the address is of the
  backend's origin. -/
  attached : ∀ value, (call.outgoing settings state url).authorization = some value ↔
    ∃ token, state.credentials.token = some token ∧ SameOrigin url settings.baseUrl ∧
      value = "Bearer " ++ token
  /-- Nothing goes out but that one request. -/
  alone : (call.perform settings line state).2.sent = state.sent ∨
    (call.perform settings line state).2.sent =
      state.sent ++ [call.outgoing settings state url]
  /-- It does go out to a web server that can be reached, if the token can stand in a
  header. -/
  goesOut : (∀ token, state.credentials.token = some token → isHeaderText token = true) →
    isWebAddress url = true →
    line state.sent (call.outgoing settings state url) ≠ .error .unreachable →
    (call.perform settings line state).2.sent =
      state.sent ++ [call.outgoing settings state url]
  /-- Elsewhere no two sessions make a difference, and each is left as it was. -/
  blind : ¬ SameOrigin url settings.baseUrl → ∀ first second : Standing,
    let left := call.perform settings line (state.withStanding first)
    let right := call.perform settings line (state.withStanding second)
    left.1 = right.1 ∧ left.2.sent = right.2.sent ∧
      left.2.standing = first ∧ right.2.standing = second
  /-- A refusal from elsewhere is a plain rejection. -/
  rejected : ¬ SameOrigin url settings.baseUrl → ∀ answer,
    (exchange line state (call.outgoing settings state url)).1 = .ok answer →
    answer.status = .unauthorized →
    failureKind? (call.perform settings line state).1 = some (.rejected 401)
  /-- Whatever comes from elsewhere is not the end of the session. -/
  lasting : ¬ SameOrigin url settings.baseUrl →
    failureKind? (call.perform settings line state).1 ≠ some .unauthorized

/-- A token that can stand in a header can stand there behind the name of its scheme. -/
theorem isHeaderText_bearer {token : String} (valid : isHeaderText token = true) :
    isHeaderText ("Bearer " ++ token) = true := by
  unfold isHeaderText bytesOf Utf8.encode at *
  rw [String.toList_append, List.flatMap_append, List.all_append, valid, Bool.and_true]
  decide

/-- With a valid token, a request to a web server can be sent. -/
theorem fault?_outgoing
    (valid : ∀ token, state.credentials.token = some token → isHeaderText token = true)
    (web : isWebAddress url = true) : (call.outgoing settings state url).fault? = none := by
  have header : (call.outgoing settings state url).authorization.all isHeaderText = true := by
    cases attached : (call.outgoing settings state url).authorization with
    | none => rfl
    | some value =>
        obtain ⟨token, stored, _, rfl⟩ :=
          (authorization_authorized_iff settings state (call.authorization_request url)).mp
            attached
        exact isHeaderText_bearer (valid token stored)
  simp [Request.fault?, header, web]

/-- What a call sends is what its exchange sends. -/
theorem sent_perform (resolves : call.address settings = .ok url) :
    (call.perform settings line state).2.sent =
      (exchange line state (call.outgoing settings state url)).2.sent := by
  rw [call.perform_eq line state resolves, Call.sent_settle]

/-- Whatever a sign-in sends carries no credential. -/
theorem login_bare (settings : Settings) (line : Line) (state : State)
    (username password : String) :
    ∃ fresh, (login settings line state username password).2.sent = state.sent ++ fresh ∧
      ∀ request ∈ fresh, request.authorization = none := by
  unfold login
  cases settings.endpointUrl settings.loginPath [] with
  | error error => exact ⟨[], by simp⟩
  | ok url =>
      dsimp only
      rw [sent_receiveLogin]
      let request := Request.postJson url (loginBody username password)
      rcases sent_exchange line state request with none_out | out
      · exact ⟨[], by simpa using none_out, by simp⟩
      · refine ⟨[request], out, ?_⟩
        intro other member
        rw [List.mem_singleton.mp member]
        rfl

/-- A reply from elsewhere is not the backend's refusal. -/
theorem not_refused_of_foreign (foreign : ¬ SameOrigin url settings.baseUrl) (reply : Reply) :
    ¬ RefusedByBackend settings url reply := by
  rintro ⟨answer, _, _, same⟩
  exact foreign same

/-- A call that leads elsewhere is the same call for every session. -/
theorem perform_withStanding (line : Line) (state : State)
    (resolves : call.address settings = .ok url) (foreign : ¬ SameOrigin url settings.baseUrl)
    (standing : Standing) :
    call.perform settings line (state.withStanding standing) =
      ((call.perform settings line state).1,
        (call.perform settings line state).2.withStanding standing) := by
  have bare : ∀ any : State, call.outgoing settings any url = call.request url := by
    intro any
    apply authorized_of_foreign
    rwa [call.url_request url]
  rw [call.perform_eq line _ resolves, call.perform_eq line state resolves, bare, bare,
    exchange_withStanding]
  exact call.settle_withStanding _ standing (not_refused_of_foreign foreign _)

/-- A call that leads elsewhere leaves the session as it was. -/
theorem standing_perform (resolves : call.address settings = .ok url)
    (foreign : ¬ SameOrigin url settings.baseUrl) (standing : Standing) :
    (call.perform settings line (state.withStanding standing)).2.standing = standing := by
  rw [perform_withStanding line state resolves foreign standing]
  exact State.standing_withStanding _ _

/-- The rejection of an answer 401 says so. -/
theorem kind_rejection_of_unauthorized {answer : Answer}
    (status : answer.status = .unauthorized) : answer.rejection.kind = .rejected 401 := by
  have kind : kindOf answer.status = .unauthorized := by
    rw [status]
    decide
  unfold Answer.rejection Error.asRejection errorOfBody
  rw [if_pos kind]

/-- An answer 401 from elsewhere settles a call as a plain rejection. -/
theorem kind_settle_of_foreign {answer : Answer} (foreign : ¬ SameOrigin url settings.baseUrl)
    (status : answer.status = .unauthorized) :
    failureKind? (call.settle settings state url (.ok answer)).1 = some (.rejected 401) := by
  have failed : answer.status.isSuccess = false := by
    rw [status]
    decide
  rw [Call.settle, receive_of_not_refused state (not_refused_of_foreign foreign _), failed]
  exact congrArg some (kind_rejection_of_unauthorized status)

/-- The credential is confined to the backend's origin. Whatever address a call
resolves to, the credential goes along exactly if the address shares the base url's
origin; elsewhere the call neither depends on the session nor changes it, and a refusal
is a plain rejection. A sign-in never carries a credential. -/
theorem credential_confined (settings : Settings) (line : Line) (state : State)
    (call : Call α) (url : Address) (resolves : call.address settings = .ok url) :
    Confined settings line state call url ∧
      ∀ username password,
        ∃ fresh, (login settings line state username password).2.sent = state.sent ++ fresh ∧
          ∀ request ∈ fresh, request.authorization = none := by
  refine ⟨?_, login_bare settings line state⟩
  constructor
  case attached =>
    intro value
    apply Iff.trans (authorization_authorized_iff settings state (call.authorization_request url))
    rw [call.url_request url]
  case alone =>
    rw [sent_perform resolves]
    exact sent_exchange line state _
  case goesOut =>
    intro valid web reached
    rw [sent_perform resolves, exchange_of_goesOut ⟨fault?_outgoing valid web, reached⟩]
  case blind =>
    intro foreign first second
    have left := perform_withStanding line state resolves foreign first
    have right := perform_withStanding line state resolves foreign second
    refine ⟨?_, ?_, standing_perform resolves foreign first,
      standing_perform resolves foreign second⟩
    · rw [left, right]
    · rw [left, right]
      rfl
  case rejected =>
    intro foreign answer answered status
    rw [call.perform_eq line state resolves, answered]
    exact kind_settle_of_foreign foreign status
  case lasting =>
    intro foreign unauthorized
    rw [call.perform_eq line state resolves, call.kind_settle_iff] at unauthorized
    exact not_refused_of_foreign foreign _ unauthorized

/-- A link that only names the backend as its user leads elsewhere: nothing is attached,
and its refusal is a plain rejection. A link within the origin carries the token. -/
theorem credential_confined_links :
    let base : Address :=
      { scheme := "http".toList, host := some (.domain "backend.example".toList)
        path := .segments ["api".toList] }
    let settings : Settings := { baseUrl := base }
    let state : State := { credentials := .memory (some "secret") }
    let refusing : Line := fun _ _ => .ok { status := .unauthorized }
    let elsewhere := Call.download "//backend.example@files.example/a.zip" "out" "a.zip"
    let within := Call.download "http://backend.example:80/a.zip" "out" "a.zip"
    let file : Address := { base with path := .segments ["a.zip".toList] }
    let foreign : Address :=
      { file with
        username := "backend.example".toList, host := some (.domain "files.example".toList) }
    elsewhere.address settings = .ok foreign ∧ ¬ SameOrigin foreign base ∧
      (elsewhere.outgoing settings state foreign).authorization = none ∧
      failureKind? (elsewhere.perform settings refusing state).1 = some (.rejected 401) ∧
      within.address settings = .ok file ∧ SameOrigin file base ∧
      (within.outgoing settings state file).authorization = some "Bearer secret" := by
  intro base settings state refusing elsewhere within file foreign
  have leaves : elsewhere.address settings = .ok foreign := by rfl
  have stays : within.address settings = .ok file := by rfl
  have apart : ¬ SameOrigin foreign base := by decide
  have same : SameOrigin file base := by decide
  obtain ⟨outside, _⟩ := credential_confined settings refusing state elsewhere foreign leaves
  obtain ⟨inside, _⟩ := credential_confined settings refusing state within file stays
  refine ⟨leaves, apart, ?_, outside.rejected apart _ rfl rfl, stays, same, ?_⟩
  · apply Option.eq_none_iff_forall_ne_some.mpr
    intro value attached
    obtain ⟨_, _, shared, _⟩ := (outside.attached value).mp attached
    exact apart shared
  · exact (inside.attached _).mpr ⟨"secret", rfl, same, rfl⟩

end UtilityBilling.Api
