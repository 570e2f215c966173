/-
# Refusals can be shown as they are

Whatever the server says, the error of a refusal has a message that starts and ends with a
character to be seen, and it keeps the status code of the answer. The two places where a
refusal of the session is made a plain rejection lose neither. Only the backend's own 401 is
reported as the end of the session, and never at a sign-in.
-/

import UtilityBilling.Proofs.Api.Confinement
import UtilityBilling.Proofs.Api.ServerWords
import UtilityBilling.Proofs.Api.SignIn
import UtilityBilling.Proofs.Text.Readable

namespace UtilityBilling.Api

open UtilityBilling.Json (Value)
open UtilityBilling.Text
open UtilityBilling.Url (Address)

theorem exists_of_mem_firstWords {choices : List (List String)} {word : String}
    (within : word ∈ firstWords choices) : ∃ words ∈ choices, word ∈ words := by
  rw [firstWords] at within
  cases found : choices.find? fun words => !words.isEmpty with
  | none =>
      rw [found] at within
      cases within
  | some words =>
      rw [found] at within
      exact ⟨words, List.mem_of_find?_eq_some found, within⟩

mutual

/-- The words in a value are readable. -/
theorem readable_wordsIn : ∀ value : Value, ∀ word ∈ wordsIn value, Readable word
  | .null, _, within | .bool _, _, within | .number _, _, within => by
      simp [wordsIn] at within
  | .text text, word, within => by
      rw [wordsIn] at within
      split at within
      case isTrue => cases within
      case isFalse some_ =>
        rw [List.mem_singleton.mp within]
        exact readable_trim some_
  | .list entries, word, within => by
      rw [wordsIn] at within
      exact readable_wordsInEach entries word within
  | .object members, word, within => by
      rw [wordsIn] at within
      obtain ⟨words, choice, inside⟩ := exists_of_mem_firstWords within
      obtain ⟨key, -, rfl⟩ := List.mem_map.mp choice
      exact readable_wordsOfMembers members key word inside

theorem readable_wordsInEach : ∀ entries : List Value, ∀ word ∈ wordsInEach entries, Readable word
  | [], _, within => by simp [wordsInEach] at within
  | entry :: rest, word, within => by
      rw [wordsInEach] at within
      rcases List.mem_append.mp within with here | later
      · exact readable_wordsIn entry word here
      · exact readable_wordsInEach rest word later

theorem readable_wordsOfMembers : ∀ (members : List (String × Value)) (key : String),
    ∀ word ∈ ((wordsOfMembers members).lookup key).getD [], Readable word
  | [], _, _, within => by simp [wordsOfMembers] at within
  | (name, value) :: rest, key, word, within => by
      rw [wordsOfMembers, List.lookup_cons] at within
      split at within
      · exact readable_wordsIn value word within
      · exact readable_wordsOfMembers rest key word within

end

theorem readable_wordsOfBody (body : String) : ∀ word ∈ wordsOfBody body, Readable word := by
  intro word within
  rw [wordsOfBody] at within
  split at within
  · obtain ⟨words, choice, inside⟩ := exists_of_mem_firstWords within
    obtain ⟨key, -, rfl⟩ := List.mem_map.mp choice
    rename_i members _
    rw [wordsUnder, ← lookup_wordsOfMembers] at inside
    exact readable_wordsOfMembers members key word inside
  · cases within

/-- Every registered phrase is readable. -/
theorem readable_of_mem_phrases {entry : UInt16 × String}
    (within : entry ∈ StatusCode.phrases) : Readable entry.2 := by
  have all : ∀ entry ∈ StatusCode.phrases,
      entry.2.toList.head?.any (fun c => !isBlank c) = true ∧
        entry.2.toList.getLast?.any (fun c => !isBlank c) = true := by
    decide +kernel
  exact readable_of_ends (all _ within).1 (all _ within).2

/-- A status line is readable: a number, and a phrase or the remark that there is none. -/
theorem readable_line (code : StatusCode) : Readable code.line := by
  refine (readable_toString code.value.toNat).around ?_ " "
  cases found : StatusCode.phrases.lookup code.value with
  | none => exact readable_of_ends (by decide) (by decide)
  | some phrase =>
      obtain ⟨before, after, same, -⟩ := List.lookup_eq_some_iff.mp found
      have within : (code.value, phrase) ∈ StatusCode.phrases := by simp [same]
      exact readable_of_mem_phrases within

/-- The message of a refusal is readable whatever its body is. -/
theorem readable_errorOfBody (code : StatusCode) (body : String) :
    Readable (errorOfBody code body).message := by
  rw [message_errorOfBody]
  split_ifs with words body_
  · exact readable_intercalate _ words (readable_wordsOfBody body)
  · exact readable_trim body_
  · exact readable_line code

theorem eq_unauthorized_iff {code : StatusCode} : code = .unauthorized ↔ code.value = 401 := by
  obtain ⟨value, inRange⟩ := code
  exact StatusCode.mk.injEq _ _ _ _ ▸ Iff.rfl

theorem isServerError_iff {code : StatusCode} :
    code.isServerError = true ↔ 500 ≤ code.value ∧ code.value ≤ 599 := by
  simp [StatusCode.isServerError]

/-- An error tells of an answer with a status code: it can be shown, and its kind gives the
code back and says whether the server itself failed. -/
structure Error.Tells (error : Error) (code : StatusCode) : Prop where
  readable : Readable error.message
  status : error.status? = some code.value
  server : (∃ value, error.kind = .server value) ↔ 500 ≤ code.value ∧ code.value ≤ 599

/-- Every error that a status code makes tells of it, whatever its message is. -/
theorem tells_kindOf {code : StatusCode} {message : String} (readable : Readable message) :
    (⟨kindOf code, message⟩ : Error).Tells code := by
  rw [kindOf]
  by_cases server : code.isServerError = true
  · rw [if_pos server]
    exact ⟨readable, rfl, iff_of_true ⟨_, rfl⟩ (isServerError_iff.mp server)⟩
  · have client : ¬ (500 ≤ code.value ∧ code.value ≤ 599) := mt isServerError_iff.mpr server
    rw [if_neg server]
    by_cases unauthorized : code = .unauthorized
    · rw [if_pos unauthorized]
      refine ⟨readable, ?_, iff_of_false (by simp) client⟩
      rw [unauthorized]
      rfl
    · rw [if_neg unauthorized]
      exact ⟨readable, rfl, iff_of_false (by simp) client⟩

theorem isUnauthorized_errorOfBody (code : StatusCode) (body : String) :
    (errorOfBody code body).isUnauthorized = true ↔ code.value = 401 := by
  rw [← eq_unauthorized_iff, Error.isUnauthorized, errorOfBody, kindOf]
  by_cases server : code.isServerError = true
  · have other : code ≠ .unauthorized := by
      rintro rfl
      revert server
      decide
    simp [server, other]
  · by_cases unauthorized : code = .unauthorized
    · simp [unauthorized]
      decide
    · simp [server, unauthorized]

/-- A plain rejection keeps the code of a refusal of the session. -/
theorem Error.Tells.asRejection {error : Error} {code : StatusCode} (tells : error.Tells code) :
    error.asRejection.Tells code := by
  rw [Error.asRejection]
  split
  case isFalse => exact tells
  case isTrue unauthorized =>
    have status := tells.status
    have server := tells.server
    rw [Error.status?, unauthorized] at status
    rw [unauthorized] at server
    exact ⟨tells.readable, status, by simpa using server⟩

/-- An answer that is no success is rejected with what its body says. -/
theorem tells_rejection (answer : Answer) : answer.rejection.Tells answer.status :=
  (tells_kindOf (readable_errorOfBody answer.status answer.text)).asRejection

theorem message_rejection (answer : Answer) :
    answer.rejection.message = (errorOfBody answer.status answer.text).message := by
  rw [Answer.rejection, Error.asRejection]
  split <;> rfl

theorem tells_sessionExpired : sessionExpired.Tells .unauthorized :=
  ⟨readable_of_ends (by decide) (by decide), rfl,
    iff_of_false (by simp [sessionExpired]) (by decide)⟩

variable {settings : Settings} {line : Line} {state : State}

/-- A call that is answered without success fails with the rejection of the answer, or with
the end of the session if the backend itself refused. -/
theorem perform_of_refusal {α : Type} {call : Call α} {url : Address} {answer : Answer}
    (resolves : call.address settings = .ok url)
    (answered : (exchange line state (call.outgoing settings state url)).1 = .ok answer)
    (failed : answer.status.isSuccess = false) :
    (call.perform settings line state).1 =
      .error (if RefusedByBackend settings url (.ok answer) then sessionExpired
        else answer.rejection) := by
  rw [call.perform_eq line state resolves, answered]
  split
  case isTrue refused => rw [call.settle_of_refused _ refused]
  case isFalse other =>
    rw [Call.settle, receive_of_not_refused _ other, failed]
    rfl

/-- A sign-in that is answered without success fails with the rejection of the answer. -/
theorem login_of_refusal {username password : String} {url : Address} {answer : Answer}
    (resolves : settings.endpointUrl settings.loginPath [] = .ok url)
    (answered : (exchange line state (.postJson url (loginBody username password))).1 = .ok answer)
    (failed : answer.status.isSuccess = false) :
    (login settings line state username password).1 = .error answer.rejection := by
  rw [login_of_address resolves]
  dsimp only
  rw [Request.signIn, answered, receiveLogin_eq, loginToken_of_refusal failed]

/-- Only the backend's 401 is reported as the end of the session. -/
theorem refused_of_isUnauthorized {α : Type} {call : Call α} {error : Error}
    (result : (call.perform settings line state).1 = .error error)
    (news : error.isUnauthorized = true) :
    ∃ url answer, call.address settings = .ok url ∧
      (exchange line state (call.outgoing settings state url)).1 = .ok answer ∧
      answer.status.value = 401 ∧ SameOrigin url settings.baseUrl := by
  have kind : error.kind = .unauthorized := eq_of_beq news
  cases resolves : call.address settings with
  | error other =>
      rw [call.perform_of_unresolved line state resolves] at result
      cases result
      rw [call.kind_address resolves] at kind
      cases kind
  | ok url =>
      rw [call.perform_eq line state resolves] at result
      have told := call.kind_settle_iff (exchange line state (call.outgoing settings state url)).2
        |>.mp ((congrArg failureKind? result).trans (congrArg some kind))
      obtain ⟨answer, answered, status, same⟩ := told
      exact ⟨url, answer, rfl, answered, eq_unauthorized_iff.mp status, same⟩

theorem ordinary_loginToken (url : Address) (reply : Reply) : Ordinary (loginToken url reply) := by
  cases reply with
  | error failure => exact ordinary_error_iff.mpr (kind_failure failure url)
  | ok answer =>
      rw [loginToken]
      split
      · exact Call.ordinary_decoded answer url readLogin
      · exact ordinary_error_iff.mpr (kind_rejection answer)

/-- No sign-in is reported as the end of the session. -/
theorem login_not_isUnauthorized {username password : String} {error : Error}
    (result : (login settings line state username password).1 = .error error) :
    error.isUnauthorized = false := by
  refine beq_eq_false_iff_ne.mpr ?_
  rw [login] at result
  cases resolves : settings.endpointUrl settings.loginPath [] with
  | error other =>
      rw [resolves] at result
      cases result
      rw [Call.kind_endpointUrl resolves]
      simp
  | ok url =>
      rw [resolves] at result
      dsimp only at result
      rw [receiveLogin_eq] at result
      have ordinary := ordinary_loginToken url
        (exchange line state (.postJson url (loginBody username password))).1
      generalize loginToken url _ = token at result ordinary
      cases token with
      | ok token => cases result
      | error other =>
          cases result
          exact (ordinary_error_iff.mp ordinary).1

/-- Every refusal can be shown and keeps its status. Whatever the code and the body, the
error tells of the code, and is the end of the session exactly for 401. A call that is answered
without success fails with an error that tells of the answer, in the words of its body; only
the backend's own 401 has a fixed message, and only it is reported as the end of the session. A
sign-in fails the same way, and is never reported so. -/
theorem refusals_readable (settings : Settings) (line : Line) (state : State) :
    (∀ code body, (errorOfBody code body).Tells code ∧
      ((errorOfBody code body).isUnauthorized = true ↔ code.value = 401)) ∧
    (∀ (α : Type) (call : Call α) url answer, call.address settings = .ok url →
      (exchange line state (call.outgoing settings state url)).1 = .ok answer →
      answer.status.isSuccess = false →
        ∃ error, (call.perform settings line state).1 = .error error ∧
          error.Tells answer.status ∧
          error.message =
            if answer.status.value = 401 ∧ SameOrigin url settings.baseUrl then
              "session expired, please sign in again"
            else (errorOfBody answer.status answer.text).message) ∧
    (∀ (α : Type) (call : Call α) error, (call.perform settings line state).1 = .error error →
      error.isUnauthorized = true →
        ∃ url answer, call.address settings = .ok url ∧
          (exchange line state (call.outgoing settings state url)).1 = .ok answer ∧
          answer.status.value = 401 ∧ SameOrigin url settings.baseUrl) ∧
    (∀ username password url answer, settings.endpointUrl settings.loginPath [] = .ok url →
      (exchange line state (.postJson url (loginBody username password))).1 = .ok answer →
      answer.status.isSuccess = false →
        ∃ error, (login settings line state username password).1 = .error error ∧
          error.Tells answer.status ∧
          error.message = (errorOfBody answer.status answer.text).message) ∧
    ∀ username password error, (login settings line state username password).1 = .error error →
      error.isUnauthorized = false := by
  refine ⟨?_, ?_, ?_, ?_, ?_⟩
  · intro code body
    exact ⟨tells_kindOf (readable_errorOfBody code body), isUnauthorized_errorOfBody code body⟩
  · intro α call url answer resolves answered failed
    refine ⟨_, perform_of_refusal resolves answered failed, ?_⟩
    by_cases refused : RefusedByBackend settings url (.ok answer)
    · obtain ⟨_, same, status, origin⟩ := refused
      cases same
      rw [if_pos ⟨answer, rfl, status, origin⟩,
        if_pos ⟨eq_unauthorized_iff.mp status, origin⟩, status]
      exact ⟨tells_sessionExpired, rfl⟩
    · have other : ¬ (answer.status.value = 401 ∧ SameOrigin url settings.baseUrl) :=
        fun both => refused ⟨answer, rfl, eq_unauthorized_iff.mpr both.1, both.2⟩
      rw [if_neg refused, if_neg other]
      exact ⟨tells_rejection answer, message_rejection answer⟩
  · intro α call error result news
    exact refused_of_isUnauthorized result news
  · intro username password url answer resolves answered failed
    exact ⟨_, login_of_refusal resolves answered failed, tells_rejection answer,
      message_rejection answer⟩
  · intro username password error result
    exact login_not_isUnauthorized result

/-- A blank body makes the status line the message. The backend's 401 ends the session in a
call, and is a rejection with its status line at a sign-in. -/
theorem refusals_readable_blank_body :
    let base : Address :=
      { scheme := "http".toList, host := some (.domain "backend.example".toList)
        path := .segments ["api".toList] }
    let settings : Settings := { baseUrl := base }
    let state : State := { credentials := .memory (some "abc") }
    let items : Address := { base with path := .segments ["api".toList, "items".toList] }
    let blank : Answer := { status := ⟨599, by decide⟩, chunks := [[0xE3, 0x80, 0x80]] }
    let refusal : Answer := { status := .unauthorized }
    let call := Call.fetchPage "/items" []
    call.address settings = .ok items ∧ blank.status.isSuccess = false ∧
      refusal.status.isSuccess = false ∧
      (∃ error, (call.perform settings (fun _ _ => .ok blank) state).1 = .error error ∧
        error.Tells blank.status ∧ error.message = "599 <unknown status code>") ∧
      (∃ error, (call.perform settings (fun _ _ => .ok refusal) state).1 = .error error ∧
        error.isUnauthorized = true ∧ SameOrigin items base) ∧
      ∃ error,
        (login settings (fun _ _ => .ok refusal) state "ann" "secret").1 = .error error ∧
          error.Tells refusal.status ∧ error.message = "401 Unauthorized" ∧
          error.isUnauthorized = false := by
  intro base settings state items blank refusal call
  have resolves : call.address settings = .ok items := by decide +kernel
  have address : settings.endpointUrl settings.loginPath [] =
      .ok { base with path := .segments ["api".toList, "auth".toList, "login".toList] } := by
    decide +kernel
  obtain ⟨-, calls, -, -, -⟩ := refusals_readable settings (fun _ _ => .ok blank) state
  obtain ⟨-, -, news, logins, plain⟩ := refusals_readable settings (fun _ _ => .ok refusal) state
  refine ⟨resolves, rfl, rfl, ?_, ?_, ?_⟩
  · obtain ⟨error, result, tells, message⟩ :=
      calls _ call items blank resolves (by decide +kernel) rfl
    refine ⟨error, result, tells, message.trans ?_⟩
    decide +kernel
  · have origin : SameOrigin items settings.baseUrl := by decide
    have refused : RefusedByBackend settings items (.ok refusal) := ⟨refusal, rfl, rfl, origin⟩
    have answered : (exchange (fun _ _ => .ok refusal) state
        (call.outgoing settings state items)).1 = .ok refusal := by decide +kernel
    have result := perform_of_refusal resolves answered rfl
    rw [if_pos refused] at result
    obtain ⟨url, answer, resolved, -, -, same⟩ := news _ call sessionExpired result rfl
    cases resolves.symm.trans resolved
    exact ⟨sessionExpired, result, rfl, same⟩
  · obtain ⟨error, result, tells, message⟩ :=
      logins "ann" "secret" _ refusal address (by decide +kernel) rfl
    have words : (errorOfBody refusal.status refusal.text).message = "401 Unauthorized" := by
      decide +kernel
    exact ⟨error, result, tells, message.trans words, plain "ann" "secret" error result⟩

end UtilityBilling.Api
