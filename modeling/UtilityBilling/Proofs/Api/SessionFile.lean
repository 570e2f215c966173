/-
# The session file

A gateway whose session is kept in a file has one file of its own. The end of the session
takes this file away and leaves all others, and so does every call that saves nothing. Where
the session is kept in memory no file goes at all.
-/

import UtilityBilling.Proofs.Api.Call
import UtilityBilling.Proofs.Files.Places

namespace UtilityBilling.Api

open UtilityBilling.Files (Volume Place placeOf)
open UtilityBilling.Session (FileStore Instant)
open UtilityBilling.Url (Address)

namespace CredentialStore

/-- The place of the session file, if there is one. -/
def place? : CredentialStore → Option Place
  | .memory _ => none
  | .file store => some (placeOf store.path)

/-- A store without its session is the same store otherwise. -/
theorem fst_clear_file (store : FileStore) (volume : Volume) :
    ((CredentialStore.file store).clear volume).1 = .file { store with session := none } := by
  unfold clear FileStore.clear
  dsimp only
  split <;> rfl

@[simp]
theorem place?_clear (store : CredentialStore) (volume : Volume) :
    (store.clear volume).1.place? = store.place? := by
  cases store with
  | memory token => rfl
  | file store => rw [fst_clear_file]; rfl

/-- Ending a session takes the session file away, if it can be taken away. -/
theorem volume_clear_file (store : FileStore) (volume : Volume) :
    ((CredentialStore.file store).clear volume).2.1 = (volume.removeFile store.path).2 := by
  rcases volume.removeFile_cases store.path with ⟨_, _, _, removed⟩ | ⟨error, kept⟩
  · simp only [clear, FileStore.clear, removed]
  · simp only [clear, FileStore.clear, kept]
    split
    case h_1 impossible => cases impossible
    case h_2 => rfl
    case h_3 => rfl

/-- Ending a session leaves every file but the session file. -/
theorem spares_clear (store : CredentialStore) (volume : Volume) :
    volume.Spares store.place? (store.clear volume).2.1 := by
  cases store with
  | memory token => exact .refl _ volume
  | file store =>
      rw [volume_clear_file]
      rcases volume.removeFile_cases store.path with ⟨_, holds, _, removed⟩ | ⟨error, kept⟩
      · rw [removed]
        exact Volume.spares_erase holds
      · rw [kept]
        exact .refl _ volume

/-- After the end of a session the session file is gone, if it could be found before and its
directory is not read-only. -/
theorem fileAt_clear_file (store : FileStore) (volume : Volume)
    (writable : volume.keepsFile store.path = false)
    (there : volume.fileAt (placeOf store.path) = none ∨
      ∃ content, volume.find store.path =
        .ok ⟨placeOf store.path, some (.file content)⟩) :
    ((CredentialStore.file store).clear volume).2.1.fileAt (placeOf store.path) = none := by
  rw [volume_clear_file]
  rcases there with nothing | ⟨content, found⟩
  · rcases volume.removeFile_cases store.path with ⟨_, holds, _, _⟩ | ⟨_, kept⟩
    · rw [nothing] at holds
      cases holds
    · rw [kept]
      exact nothing
  · have holds : volume.fileAt (placeOf store.path) = some content := by
      rw [Volume.fileAt_eq_some_iff]
      exact (Files.Volume.Spot.mk.inj (Volume.eq_of_find found)).2.symm
    rw [Volume.removeFile_of_find found writable]
    rw [Volume.fileAt, Volume.entryAt_erase volume (Volume.ne_nil_of_fileAt holds), if_pos rfl]

end CredentialStore

namespace State

/-- The place of the session file, if there is one. -/
def sessionPlace? (state : State) : Option Place :=
  state.credentials.place?

theorem volume_expireSession (state : State) :
    state.expireSession.volume =
      if state.latchClosed then state.volume else (state.credentials.clear state.volume).2.1 := by
  unfold expireSession closeLatch
  cases state.latchClosed <;> rfl

@[simp]
theorem sessionPlace?_expireSession (state : State) :
    state.expireSession.sessionPlace? = state.sessionPlace? := by
  unfold expireSession closeLatch
  cases state.latchClosed with
  | true => rfl
  | false => exact state.credentials.place?_clear state.volume

/-- The end of a session leaves every file but the session file. -/
theorem spares_expireSession (state : State) :
    state.volume.Spares state.sessionPlace? state.expireSession.volume := by
  rw [volume_expireSession]
  split
  case isTrue => exact .refl _ _
  case isFalse => exact state.credentials.spares_clear state.volume

/-- What calls leave of the files that were there before, and of the place of the session
file. -/
structure Spares (before after : State) : Prop where
  volume : before.volume.Spares before.sessionPlace? after.volume
  session : after.sessionPlace? = before.sessionPlace?

theorem Spares.trans {before between after : State} (first : before.Spares between)
    (later : between.Spares after) : before.Spares after where
  volume := first.volume.trans (first.session ▸ later.volume)
  session := later.session.trans first.session

end State

variable {settings : Settings} {url : Address} {reply : Reply}

@[simp]
theorem volume_exchange (line : Line) (state : State) (request : Request) :
    (exchange line state request).2.volume = state.volume := by
  by_cases out : GoesOut line state request
  · rw [exchange_of_goesOut out]
  · rw [exchange_of_not_goesOut out]

@[simp]
theorem standing_exchange (line : Line) (state : State) (request : Request) :
    (exchange line state request).2.standing = state.standing := by
  by_cases out : GoesOut line state request
  · rw [exchange_of_goesOut out]
    rfl
  · rw [exchange_of_not_goesOut out]

/-- A reply that is not the backend's refusal leaves all files. -/
theorem volume_receive (state : State) (other : ¬ RefusedByBackend settings url reply) :
    (receive settings state url reply).2.volume = state.volume := by
  cases reply with
  | error failure => rfl
  | ok answer =>
      rw [receive_of_not_refused _ other]
      split <;> rfl

theorem sessionPlace?_of_standing {before after : State}
    (same : after.standing = before.standing) : after.sessionPlace? = before.sessionPlace? :=
  congrArg (fun standing => standing.credentials.place?) same

/-- A reply takes the session file at most. -/
theorem spares_receive (settings : Settings) (state : State) (url : Address) (reply : Reply) :
    state.Spares (receive settings state url reply).2 := by
  by_cases refused : RefusedByBackend settings url reply
  · rw [receive_of_refused state refused]
    exact ⟨state.spares_expireSession, state.sessionPlace?_expireSession⟩
  · constructor
    · rw [volume_receive state refused]
      exact .refl _ _
    · exact sessionPlace?_of_standing (standing_receive state refused)

/-- An answer comes from the line. -/
theorem line_of_exchange {line : Line} {state : State} {request : Request} {answer : Answer}
    (answered : (exchange line state request).1 = .ok answer) :
    line state.sent request = .ok answer := by
  by_cases out : GoesOut line state request
  · rw [exchange_of_goesOut out] at answered
    exact answered
  · rw [exchange_of_not_goesOut out] at answered
    cases answered

/-- Sending a request ends the session, fails without touching any file, or brings the answer of
a success. -/
theorem send_cases (settings : Settings) (line : Line) (state : State) (request : Request) :
    let exchanged := exchange line state (authorized settings state request)
    (RefusedByBackend settings request.url exchanged.1 ∧
        send settings line state request =
          (.error sessionExpired, exchanged.2.expireSession)) ∨
      (¬ RefusedByBackend settings request.url exchanged.1 ∧
        ((∃ error after, send settings line state request = (.error error, after) ∧
            after.volume = state.volume) ∨
          ∃ answer, exchanged.1 = .ok answer ∧ answer.status.isSuccess = true ∧
            send settings line state request = (.ok answer, exchanged.2))) := by
  intro exchanged
  have sent : send settings line state request =
      receive settings exchanged.2 request.url exchanged.1 := rfl
  by_cases refused : RefusedByBackend settings request.url exchanged.1
  · exact .inl ⟨refused, sent.trans (receive_of_refused exchanged.2 refused)⟩
  · refine .inr ⟨refused, ?_⟩
    rw [sent]
    cases reply : exchanged.1 with
    | error failure => exact .inl ⟨_, _, rfl, volume_exchange line state _⟩
    | ok answer =>
        rw [reply] at refused
        rw [receive_of_not_refused exchanged.2 refused]
        by_cases success : answer.status.isSuccess = true
        · rw [if_pos success]
          exact .inr ⟨answer, rfl, success, rfl⟩
        · rw [if_neg success]
          exact .inl ⟨_, _, rfl, volume_exchange line state _⟩

theorem spares_send (settings : Settings) (line : Line) (state : State) (request : Request) :
    state.Spares (send settings line state request).2 := by
  have sent : state.Spares (exchange line state (authorized settings state request)).2 := by
    constructor
    · rw [volume_exchange]
      exact .refl _ _
    · exact sessionPlace?_of_standing (standing_exchange line state _)
  exact sent.trans (spares_receive settings _ request.url _)

theorem spares_sendAndRead {α : Type} (settings : Settings) (line : Line) (state : State)
    (read : Nat → Text.Bytes → Json.Read α) (request : Request) :
    state.Spares (sendAndRead settings line state read request).2 := by
  have spares := spares_send settings line state request
  unfold sendAndRead
  split
  case h_1 sent => rwa [sent] at spares
  case h_2 sent => rwa [sent] at spares

/-- A call for JSON takes the session file at most. -/
theorem spares_getJson {α : Type} (settings : Settings) (line : Line) (state : State)
    (read : Nat → Text.Bytes → Json.Read α) (path : String)
    (parameters : List (String × String)) :
    state.Spares (getJson settings line state read path parameters).2 := by
  unfold getJson
  split
  case h_1 => exact ⟨.refl _ _, rfl⟩
  case h_2 => exact spares_sendAndRead settings line state read _

theorem spares_taskStatus (settings : Settings) (line : Line) (state : State) (taskId : String) :
    state.Spares (taskStatus settings line state taskId).2 :=
  spares_getJson settings line state Task.readStatus (settings.statusPathOf taskId) []

/-- The log has no part in what becomes of files. -/
theorem State.Spares.of_log {before after : State} {first later : List Log.Record}
    (spares : State.Spares { before with log := first } after) :
    before.Spares { after with log := later } where
  volume := spares.volume
  session := spares.session

theorem spares_postJson {α : Type} (settings : Settings) (line : Line) (state : State)
    (read : Nat → Text.Bytes → Json.Read α) (path body : String) :
    state.Spares (postJson settings line state read path body).2 := by
  unfold postJson
  split
  case h_1 => exact ⟨.refl _ _, rfl⟩
  case h_2 => exact spares_sendAndRead settings line state read _

end UtilityBilling.Api
