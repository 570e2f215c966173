/-
# The session file of another backend

A session file is opened for one backend, and a session of another backend that it holds is
not shown. It is not kept either: what ends the session of the opened backend takes the file
away, whosever session is in it, unless the directory of the file is read-only. Up to then the
file stays as it is, so that the other backend finds its session again exactly as long as
nothing has ended one, or for good if the file cannot be removed.
-/

import UtilityBilling.Console.Client
import UtilityBilling.Proofs.Api.Download
import UtilityBilling.Proofs.Api.Overtaken
import UtilityBilling.Proofs.Api.SessionLife
import UtilityBilling.Proofs.Session.Writing

namespace UtilityBilling.Api

open UtilityBilling.Files
open UtilityBilling.Session (FileStore Instant)
open UtilityBilling.Text (Bytes)
open UtilityBilling.Url (Address)

/-! ## Calls that save elsewhere -/

/-- A call saves no file at a place. -/
def Call.Avoids (place : Place) : {α : Type} → Call α → Prop
  | _, .download _ directory name => place ≠ placeOf directory ++ [name]
  | _, _ => True

/-- A call saves no file at a place, and nothing but the gateway touches files. -/
def Traffic.Event.Avoids (place : Place) : Traffic.Event → Prop
  | .send call _ => call.Avoids place
  | .outside _ _ => False
  | _ => True

variable {settings : Settings} {place : Place} {url : Address} {reply : Reply}

/-- What a reply brings leaves all directories, those that are read-only among them, and every
file at other places. -/
theorem Call.settle_keeps {α : Type} {call : Call α} {state : State}
    (numbered : state.volume.Numbered) (other : ¬ RefusedByBackend settings url reply)
    (avoids : call.Avoids place) :
    let after := (call.settle settings state url reply).2
    state.volume.KeepsDirectories after.volume ∧
      after.volume.readOnly = state.volume.readOnly ∧ after.volume.Numbered ∧
      after.volume.fileAt place = state.volume.fileAt place := by
  have same := volume_receive state other
  have idle : state.volume.KeepsDirectories state.volume := fun _ stood => stood
  unfold settle
  generalize receive settings state url reply = received at same
  obtain ⟨result, after⟩ := received
  dsimp only at same
  cases result with
  | error error =>
      dsimp only
      rw [same]
      exact ⟨idle, rfl, numbered, rfl⟩
  | ok answer =>
      dsimp only
      cases call with
      | getJson read path parameters =>
          rw [finish, same]
          exact ⟨idle, rfl, numbered, rfl⟩
      | postJson read path body =>
          rw [finish, same]
          exact ⟨idle, rfl, numbered, rfl⟩
      | download link directory name =>
          obtain ⟨keeps, readOnly, passed, others⟩ :=
            saveBody_keeps numbered directory name answer
          rw [← same] at keeps readOnly passed others ⊢
          exact ⟨keeps, readOnly, passed, others place avoids⟩

/-! ## The file and the latch -/

namespace State

/-- A session file at a path is there with a content as long as the latch is open, and gone
once it is closed. A file that is fixed, since its directory is read-only, is always there. -/
structure Watches (path : String) (content : Bytes) (fixed : Bool) (state : State) : Prop where
  numbered : state.volume.Numbered
  store : ∃ store, state.credentials = .file store ∧ store.path = path
  keepsFile : state.volume.keepsFile path = fixed
  there : state.latchClosed = false ∨ fixed = true →
    state.volume.find path = .ok ⟨placeOf path, some (.file content)⟩
  gone : state.latchClosed = true → fixed = false → state.volume.fileAt (placeOf path) = none

namespace Watches

variable {path : String} {content : Bytes} {fixed : Bool} {state after : State}

/-- As long as the session stays and the file does, both are watched on. -/
theorem rest (watches : state.Watches path content fixed)
    (standing : after.standing = state.standing)
    (keeps : state.volume.KeepsDirectories after.volume)
    (readOnly : after.volume.readOnly = state.volume.readOnly) (numbered : after.volume.Numbered)
    (file : after.volume.fileAt (placeOf path) = state.volume.fileAt (placeOf path)) :
    after.Watches path content fixed := by
  have latch : after.latchClosed = state.latchClosed := congrArg Standing.latchClosed standing
  have credentials : after.credentials = state.credentials :=
    congrArg Standing.credentials standing
  constructor
  case numbered => exact numbered
  case store => rw [credentials]; exact watches.store
  case keepsFile => rw [Volume.keepsFile_of_readOnly readOnly, watches.keepsFile]
  case there =>
    intro stays
    have found := watches.there (latch ▸ stays)
    apply keeps.find found
    rw [← Volume.fileAt_eq_some_iff, file, Volume.fileAt_eq_some_iff]
    exact (Volume.Spot.mk.inj (Volume.eq_of_find found)).2.symm
  case gone =>
    intro closed
    rw [file]
    exact watches.gone (latch ▸ closed)

/-- Whatever ends a session takes the file away, unless it is fixed. -/
theorem finish (watches : state.Watches path content fixed) (closed : after.latchClosed = true)
    (credentials : after.credentials = (state.credentials.clear state.volume).1)
    (volume : after.volume = (state.credentials.clear state.volume).2.1) :
    after.Watches path content fixed := by
  obtain ⟨store, isStore, rfl⟩ := watches.store
  have spares := state.credentials.spares_clear state.volume
  constructor
  case numbered => exact volume ▸ spares.numbered watches.numbered
  case store =>
    rw [credentials, isStore, CredentialStore.fst_clear_file]
    exact ⟨_, rfl, rfl⟩
  case keepsFile =>
    rw [volume, Volume.keepsFile_of_readOnly spares.readOnly, watches.keepsFile]
  case there =>
    rintro (opened | isFixed)
    · rw [closed] at opened
      cases opened
    · have kept : state.volume.keepsFile store.path = true := watches.keepsFile.trans isFixed
      rw [volume, isStore, CredentialStore.volume_clear_file,
        Volume.volume_removeFile_of_keepsFile kept]
      exact watches.there (.inr isFixed)
  case gone =>
    intro _ notFixed
    rw [volume, isStore]
    apply CredentialStore.fileAt_clear_file store _ (watches.keepsFile.trans notFixed)
    cases latch : state.latchClosed with
    | true => exact .inl (watches.gone latch notFixed)
    | false => exact .inr ⟨content, watches.there (.inl latch)⟩

theorem expireSession (watches : state.Watches path content fixed) :
    state.expireSession.Watches path content fixed := by
  cases latch : state.latchClosed with
  | true =>
      have same : state.expireSession.standing = state.standing :=
        standing_expireSession_of_closed latch
      apply watches.rest same
      all_goals rw [volume_expireSession, if_pos latch]
      · exact fun _ stood => stood
      · exact watches.numbered
  | false =>
      apply watches.finish state.latchClosed_expireSession
      · unfold State.expireSession closeLatch
        rw [latch]
        rfl
      · rw [volume_expireSession, latch]
        rfl

theorem signOut (watches : state.Watches path content fixed) :
    state.signOut.Watches path content fixed :=
  watches.finish rfl rfl rfl

end Watches

end State

namespace Traffic

variable {path : String} {content : Bytes} {fixed : Bool} {traffic : Traffic} {event : Event}

/-- The session file is watched while calls are under way that save elsewhere. -/
structure Watches (path : String) (content : Bytes) (fixed : Bool) (traffic : Traffic) :
    Prop where
  state : traffic.state.Watches path content fixed
  calls : ∀ pending ∈ traffic.calls, pending.call.Avoids (placeOf path)

namespace Watches

/-- Putting a request on the line touches no file. -/
theorem launch {waiting : Traffic} (watches : traffic.Watches path content fixed)
    (calls : ∀ pending ∈ waiting.calls, pending.call.Avoids (placeOf path))
    (request : Request) (connected : Bool) :
    (traffic.launch waiting request connected).2.Watches path content fixed := by
  unfold Traffic.launch
  cases obstacle? request connected with
  | some failure => exact watches
  | none =>
      exact ⟨watches.state.rest rfl (fun _ stood => stood) rfl watches.state.numbered rfl, calls⟩

theorem sendCall {α : Type} {call : Call α} (watches : traffic.Watches path content fixed)
    (avoids : call.Avoids (placeOf path)) (connected : Bool) :
    (traffic.sendCall settings call connected).2.Watches path content fixed := by
  unfold Traffic.sendCall
  split
  case h_1 => exact watches
  case h_2 url _ =>
    apply watches.launch
    intro pending member
    rcases List.mem_append.mp member with earlier | last
    · exact watches.calls pending earlier
    · obtain rfl := List.mem_singleton.mp last
      exact avoids

theorem settleCall (watches : traffic.Watches path content fixed) (index : Nat) (reply : Reply) :
    (traffic.settleCall settings index reply).2.Watches path content fixed := by
  unfold Traffic.settleCall
  cases found : traffic.calls[index]? with
  | none => exact watches
  | some pending =>
      have avoids := watches.calls pending (List.mem_of_getElem? found)
      constructor
      case calls =>
        intro other member
        exact watches.calls other (List.mem_of_mem_eraseIdx member)
      case state =>
        dsimp only
        by_cases refused : RefusedByBackend settings pending.url reply
        · rw [pending.call.settle_of_refused traffic.state refused]
          exact watches.state.expireSession
        · obtain ⟨keeps, readOnly, numbered, file⟩ :=
            Call.settle_keeps watches.state.numbered refused avoids
          exact watches.state.rest (pending.call.standing_settle traffic.state refused) keeps
            readOnly numbered file

theorem sendLogin (watches : traffic.Watches path content fixed) (username password : String)
    (connected : Bool) :
    (traffic.sendLogin settings username password connected).2.Watches path content fixed := by
  unfold Traffic.sendLogin
  split
  case h_1 => exact watches
  case h_2 =>
    apply watches.launch
    exact watches.calls

theorem settleLogin (watches : traffic.Watches path content fixed) (index : Nat) (reply : Reply)
    (noSignIn : (traffic.settleLogin index reply).1 ≠ .signedIn) :
    (traffic.settleLogin index reply).2.Watches path content fixed := by
  unfold Traffic.settleLogin at noSignIn ⊢
  cases found : traffic.logins[index]? with
  | none => exact watches
  | some url =>
      simp only [found, receiveLogin_eq] at noSignIn ⊢
      cases brought : loginToken url reply with
      | ok token =>
          rw [brought] at noSignIn
          exact absurd rfl noSignIn
      | error error => exact ⟨watches.state, watches.calls⟩

/-- The session file is watched through every event but a sign-in. -/
theorem step (watches : traffic.Watches path content fixed) (avoids : event.Avoids (placeOf path))
    (noSignIn : (traffic.react settings event).1 ≠ .signedIn) :
    (traffic.step settings event).Watches path content fixed := by
  cases event with
  | send call connected => exact watches.sendCall avoids connected
  | reply index reply => exact watches.settleCall index reply
  | sendLogin username password connected => exact watches.sendLogin username password connected
  | replyLogin index reply => exact watches.settleLogin index reply noSignIn
  | signOut => exact ⟨watches.state.signOut, watches.calls⟩
  | outside volume now => exact absurd avoids id

theorem run (watches : traffic.Watches path content fixed) {events : List Event}
    (avoids : ∀ event ∈ events, event.Avoids (placeOf path))
    (noSignIn : .signedIn ∉ traffic.deeds settings events) :
    (traffic.run settings events).Watches path content fixed := by
  induction events generalizing traffic with
  | nil => exact watches
  | cons event events ih =>
      rw [deeds, List.mem_cons, not_or] at noSignIn
      rw [List.forall_mem_cons] at avoids
      exact ih (watches.step avoids.1 (Ne.symm noSignIn.1)) avoids.2 noSignIn.2

end Watches

/-- Only the reply to a sign-in signs in. -/
theorem react_ne_signedIn (noLogin : ∀ index reply, event ≠ .replyLogin index reply) :
    (traffic.react settings event).1 ≠ .signedIn := by
  have launched (before waiting : Traffic) (request : Request) (connected : Bool) :
      (before.launch waiting request connected).1 ≠ .signedIn := by
    unfold Traffic.launch
    split <;> simp
  cases event with
  | send call connected =>
      rw [react, Traffic.sendCall]
      split
      · simp
      · exact launched _ _ _ _
  | reply index reply =>
      rw [react, Traffic.settleCall]
      split <;> simp
  | sendLogin username password connected =>
      rw [react, Traffic.sendLogin]
      split
      · simp
      · exact launched _ _ _ _
  | replyLogin index reply => exact absurd rfl (noLogin index reply)
  | signOut => simp [react]
  | outside volume now => simp [react]

theorem noSignIn_of_noLogin {events : List Event}
    (noLogin : ∀ event ∈ events, ∀ index reply, event ≠ .replyLogin index reply) :
    .signedIn ∉ traffic.deeds settings events := by
  induction events generalizing traffic with
  | nil => nofun
  | cons event events ih =>
      rw [List.forall_mem_cons] at noLogin
      rw [deeds, List.mem_cons, not_or]
      exact ⟨Ne.symm (react_ne_signedIn noLogin.1), ih noLogin.2⟩

/-- Without a sign-in no token comes to be stored. -/
theorem token_run (empty : traffic.state.credentials.token = none) {events : List Event}
    (noSignIn : .signedIn ∉ traffic.deeds settings events) :
    (traffic.run settings events).state.credentials.token = none := by
  induction events generalizing traffic with
  | nil => exact empty
  | cons event events ih =>
      rw [deeds, List.mem_cons, not_or] at noSignIn
      have change := traffic.react_changes settings event
      exact ih (change.token_none (Ne.symm noSignIn.1) empty) noSignIn.2

end Traffic

end UtilityBilling.Api

namespace UtilityBilling.Console

open UtilityBilling.Files
open UtilityBilling.Api
open UtilityBilling.Api.Traffic (EndedSince)
open UtilityBilling.Session (FileStore Instant)

/-! ## The other backend's session -/

/-- A session file that is there when it is opened for a backend is watched in every run without
a sign-in. -/
theorem watches_run (settings : Settings) {volume : Volume} (numbered : volume.Numbered)
    {path here elsewhere token : String}
    (holds : (FileStore.load volume path elsewhere).1.token = some token) (now : Instant)
    {events : List Traffic.Event} (avoids : ∀ event ∈ events, event.Avoids (placeOf path))
    (noSignIn : .signedIn ∉
      (Traffic.start (.file (FileStore.load volume path here).1) volume now).deeds settings
        events) :
    ∃ content, volume.find path = .ok ⟨placeOf path, some (.file content)⟩ ∧
      ((Traffic.start (.file (FileStore.load volume path here).1) volume now).run settings
        events).state.Watches path content (volume.keepsFile path) := by
  rw [Session.session_load, FileStore.token] at holds
  cases read : Session.readStored volume path with
  | mk session? log =>
      cases session? with
      | none =>
          rw [read] at holds
          cases holds
      | some session =>
          obtain ⟨content, found⟩ := Session.exists_find_of_readStored read
          have first : (Traffic.start (.file (FileStore.load volume path here).1) volume
              now).Watches path content (volume.keepsFile path) :=
            ⟨⟨numbered, ⟨_, rfl, rfl⟩, rfl, fun _ => found,
                fun closed => absurd closed Bool.false_ne_true⟩,
              fun _ member => absurd member List.not_mem_nil⟩
          exact ⟨content, found, (first.run avoids noSignIn).state⟩

/-- Clearing a store takes away whatever session is in its file, if that can be removed. -/
theorem token_load_of_clear {volume : Volume} {path : String} {content : Text.Bytes}
    (writable : volume.keepsFile path = false)
    (found : volume.find path = .ok ⟨placeOf path, some (.file content)⟩)
    (here elsewhere : String) :
    (FileStore.load ((FileStore.load volume path here).1.clear volume).2.1 path
      elsewhere).1.token = none := by
  have removed := CredentialStore.fileAt_clear_file (FileStore.load volume path here).1 volume
    writable (.inr ⟨content, found⟩)
  exact Session.token_load_of_fileAt removed elsewhere

/-- A session of another backend lasts until one is ended. A session file is opened for a
backend while it holds the session of another. In every run without a sign-in, by calls that
save their files elsewhere, nothing is shown of the other session, and a command that signs out
or tells the status leaves everything as it is; but the other backend finds its session again
exactly if neither a refusal by the opened backend nor a sign-out at the gateway has ended
one, or the file cannot be removed, since its directory is read-only. -/
theorem foreign_session_lasts_until_ended (settings : Settings) (volume : Volume)
    (numbered : volume.Numbered) (path here elsewhere token : String) (apart : here ≠ elsewhere)
    (holds : (FileStore.load volume path elsewhere).1.token = some token) (now : Instant)
    (events : List Traffic.Event)
    (avoids : ∀ event ∈ events, event.Avoids (placeOf path))
    (noSignIn : .signedIn ∉
      (Traffic.start (.file (FileStore.load volume path here).1) volume now).deeds settings
        events) :
    let start := Traffic.start (.file (FileStore.load volume path here).1) volume now
    let after := (start.run settings events).state
    after.credentials.token = none ∧
      (∀ client : Client, client.state = after →
        client.logout.state = after ∧ client.status.state = after) ∧
      (¬ EndedSince (start.deeds settings events) ∨ volume.keepsFile path = true →
        (FileStore.load after.volume path elsewhere).1.token = some token) ∧
      (EndedSince (start.deeds settings events) → volume.keepsFile path = false →
        (FileStore.load after.volume path elsewhere).1.token = none) := by
  intro start after
  obtain ⟨content, found, watches⟩ :
      ∃ content, _ ∧ after.Watches path content (volume.keepsFile path) :=
    watches_run settings numbered holds now avoids noSignIn
  have hidden : start.state.credentials.token = none := Session.token_load_of_other apart holds
  have empty : after.credentials.token = none := Traffic.token_run hidden noSignIn
  have latch : after.latchClosed = true ↔ EndedSince (start.deeds settings events) := by
    rw [Traffic.latchClosed_run_iff]
    exact or_iff_left fun closed => nomatch closed.1
  refine ⟨empty, ?_, ?_, ?_⟩
  · intro client same
    have signedOut : client.state.isAuthenticated = false := by
      rw [same, State.isAuthenticated, empty]
      rfl
    constructor
    · rw [Client.logout, signedOut]
      exact same
    · exact same
  · intro lasting
    rw [← latch, Bool.not_eq_true] at lasting
    have same : after.volume.find path = volume.find path :=
      (watches.there lasting).trans found.symm
    rw [Session.session_load, Session.readStored_of_find same]
    exact holds
  · intro ended writable
    exact Session.token_load_of_fileAt (watches.gone (latch.mpr ended) writable) elsewhere

namespace SharedFile

/-- The backend that the file is opened for. -/
def here : String := "http://b.example/api"

/-- The backend whose session is in the file. -/
def elsewhere : String := "http://a.example/api"

/-- What a sign-in to the other backend leaves. -/
def volume : Volume :=
  (FileStore.put ⟨"session.ron", elsewhere, none⟩ {} ⟨0, 0⟩ "abc").2.1

def settings : Settings where
  baseUrl :=
    { scheme := "http".toList, host := some (.domain "b.example".toList)
      path := .segments ["api".toList] }

/-- The file is opened. -/
def start : Traffic :=
  .start (.file (FileStore.load volume "session.ron" here).1) volume ⟨0, 0⟩

/-- A request for the status of a task, and the reply to it. -/
def asks (status : StatusCode) : List Traffic.Event :=
  [.send (Call.taskStatus settings "7") true, .reply 0 (.ok { status := status })]

/-- What the reply leaves. -/
def left (status : StatusCode) : State :=
  (start.run settings (asks status)).state

theorem left_eq (status : StatusCode) :
    left status =
      ((Traffic.start (.file (FileStore.load volume "session.ron" here).1) volume ⟨0, 0⟩).run
        settings (asks status)).state :=
  rfl

theorem holds : (FileStore.load volume "session.ron" elsewhere).1.token = some "abc" := by
  decide +kernel

theorem numbered : volume.Numbered := by
  have empty : ({} : Volume).Numbered := nofun
  exact Session.numbered_put ⟨"session.ron", elsewhere, none⟩ empty ⟨0, 0⟩ "abc"

theorem writable : volume.keepsFile "session.ron" = false := by
  decide +kernel

theorem avoids (status : StatusCode) :
    ∀ event ∈ asks status, event.Avoids (placeOf "session.ron") := by
  simp [asks, Traffic.Event.Avoids, Call.taskStatus, Call.Avoids]

theorem noSignIn (status : StatusCode) : .signedIn ∉ start.deeds settings (asks status) :=
  Traffic.noSignIn_of_noLogin (by simp [asks])

end SharedFile

/-- A task that is not there ends no session: the other backend finds its own again. -/
theorem foreign_session_lasts_not_found :
    let after := SharedFile.left .notFound
    SharedFile.here ≠ SharedFile.elsewhere ∧
      (FileStore.load SharedFile.volume "session.ron" SharedFile.elsewhere).1.token =
        some "abc" ∧
      after.credentials.token = none ∧
      (FileStore.load after.volume "session.ron" SharedFile.elsewhere).1.token = some "abc" := by
  have apart : SharedFile.here ≠ SharedFile.elsewhere := by decide
  obtain ⟨empty, _, lasting, _⟩ := foreign_session_lasts_until_ended SharedFile.settings
    SharedFile.volume SharedFile.numbered "session.ron" SharedFile.here SharedFile.elsewhere "abc"
    apart SharedFile.holds ⟨0, 0⟩ (SharedFile.asks .notFound) (SharedFile.avoids _)
    (SharedFile.noSignIn _)
  rw [← SharedFile.left_eq] at empty lasting
  refine ⟨apart, SharedFile.holds, empty, lasting (.inl fun ended => ?_)⟩
  have closed : (SharedFile.left .notFound).latchClosed = true := by
    rw [SharedFile.left_eq, Traffic.latchClosed_run_iff]
    exact .inl ended
  exact absurd closed (by decide +kernel)

/-- A single refusal by the backend that the file is opened for removes the session of the
other, and so does clearing the store. -/
theorem refusal_removes_foreign_session :
    let opened := (FileStore.load SharedFile.volume "session.ron" SharedFile.here).1
    let refused := SharedFile.left .unauthorized
    let cleared := (opened.clear SharedFile.volume).2.1
    SharedFile.here ≠ SharedFile.elsewhere ∧
      (FileStore.load SharedFile.volume "session.ron" SharedFile.elsewhere).1.token =
        some "abc" ∧
      opened.token = none ∧
      (FileStore.load refused.volume "session.ron" SharedFile.elsewhere).1.token = none ∧
      (FileStore.load cleared "session.ron" SharedFile.elsewhere).1.token = none := by
  have apart : SharedFile.here ≠ SharedFile.elsewhere := by decide
  obtain ⟨content, found, watches⟩ := watches_run SharedFile.settings SharedFile.numbered
    SharedFile.holds ⟨0, 0⟩ (SharedFile.avoids .unauthorized) (SharedFile.noSignIn _)
  rw [← SharedFile.left_eq] at watches
  have closed : (SharedFile.left .unauthorized).latchClosed = true := by decide +kernel
  exact ⟨apart, SharedFile.holds, Session.token_load_of_other apart SharedFile.holds,
    Session.token_load_of_fileAt (watches.gone closed SharedFile.writable) SharedFile.elsewhere,
    token_load_of_clear SharedFile.writable found SharedFile.here SharedFile.elsewhere⟩

end UtilityBilling.Console
