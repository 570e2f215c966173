/-
# Signing in and the session file

A sign-in succeeds by what the server answers, whatever becomes of the session file. Its token
is held from then on, and the session is written to the file. If that goes well nothing is
logged, and the next command finds the token, provided that the path can mean a file at all; if
it does not, one error is logged that names the path, all files stay as they were, and the
sign-in succeeds all the same.
-/

import UtilityBilling.Console.Command
import UtilityBilling.Proofs.Api.SignIn
import UtilityBilling.Proofs.Session.Writing

namespace UtilityBilling.Api

open UtilityBilling.Session

/-- What a sign-in does to a store with a file. -/
theorem signIn_of_file {state : State} {store : FileStore}
    (isFile : state.credentials = .file store) (token : String) :
    let session : Stored := ⟨store.baseUrl, token, state.now⟩
    let saved := writeStored state.volume store.path session
    (state.signIn token).credentials = .file { store with session := some session } ∧
      (state.signIn token).volume = saved.1 ∧ (state.signIn token).log = state.log ++ saved.2 := by
  simp only [State.signIn, State.storeToken, State.openLatch, isFile, CredentialStore.put,
    FileStore.put]
  exact ⟨trivial, trivial, trivial⟩

end UtilityBilling.Api

namespace UtilityBilling.Console

open UtilityBilling.Api
open UtilityBilling.Files
open UtilityBilling.Session

/-- Two sign-ins for which the same is typed stand at the same point: both wait for the
password, or both have been done with the same one. -/
inductive Stage.SignsIn (username : String) (one other : Client) : Stage → Stage → Prop where
  | waits : SignsIn username one other (.password username one) (.password username other)
  | done (password : String) :
      SignsIn username one other (.ofResult (one.login username password))
        (.ofResult (other.login username password))

namespace Stage.SignsIn

variable {username : String} {one other : Client} {first second : Stage}

theorem take (signsIn : SignsIn username one other first second) (line : String) :
    SignsIn username one other (first.take line) (second.take line) := by
  cases signsIn with
  | waits => exact .done (Client.passwordIn line)
  | done password => exact .done password

theorem awaitFrames (signsIn : SignsIn username one other first second) (frames : Nat) :
    SignsIn username one other (first.awaitFrames frames) (second.awaitFrames frames) := by
  cases signsIn with
  | waits => exact .waits
  | done password => exact .done password

theorem rest (signsIn : SignsIn username one other first second) :
    SignsIn username one other first.rest second.rest := by
  cases signsIn with
  | waits => exact .waits
  | done password => exact .done password

theorem takeAll (signsIn : SignsIn username one other first second) (lines : List (List Char)) :
    SignsIn username one other (first.takeAll lines) (second.takeAll lines) := by
  induction lines generalizing first second with
  | nil => exact signsIn
  | cons line lines ih => exact ih (signsIn.take _)

theorem takePieces (signsIn : SignsIn username one other first second) (pieces : List Typed)
    (begun : List Char) :
    (Stage.takePieces pieces begun first).2 = (Stage.takePieces pieces begun second).2 ∧
      SignsIn username one other (Stage.takePieces pieces begun first).1
        (Stage.takePieces pieces begun second).1 := by
  induction pieces generalizing begun first second with
  | nil => exact ⟨rfl, signsIn⟩
  | cons piece later ih => exact ih ((signsIn.awaitFrames _).takeAll _) _

theorem endOfInput (signsIn : SignsIn username one other first second) :
    (∃ password, first.endOfInput = one.login username password ∧
        second.endOfInput = other.login username password) ∨
      first.endOfInput = (.error .noPassword, one) := by
  cases signsIn with
  | waits => exact .inr rfl
  | done password => exact .inl ⟨password, rfl, rfl⟩

/-- When all has been typed both have been done with the same password, or there was none. -/
theorem takeTyping (signsIn : SignsIn username one other first second) (typing : Typing) :
    (∃ password, first.takeTyping typing = one.login username password ∧
        second.takeTyping typing = other.login username password) ∨
      first.takeTyping typing = (.error .noPassword, one) := by
  obtain ⟨begun, pieces⟩ := signsIn.takePieces typing.pieces []
  simp only [Stage.takeTyping, begun]
  split
  case isTrue => exact pieces.rest.endOfInput
  case isFalse =>
    split
    case isTrue => exact pieces.endOfInput
    case isFalse => exact (pieces.take _).endOfInput

end Stage.SignsIn

namespace Client

/-- The client that an invocation opens once the backend is known. -/
def opened (settings : Settings) (line : Line) (volume : Volume) (now : Instant)
    (invocation : Invocation) : Client :=
  let (store, log) := FileStore.load volume invocation.sessionFile settings.baseUrl.text
  { settings := { settings with requestTimeout := max invocation.timeoutSeconds.toNat 1 }
    line := line
    sessionFile := invocation.sessionFile
    state := { credentials := .file store, volume := volume, now := now, log := log } }

theorem ofInvocation_eq (line : Line) (volume : Volume) (now : Instant)
    (invocation : Invocation) :
    ofInvocation line volume now invocation =
      (Settings.ofBaseUrl invocation.baseUrl).map fun settings =>
        opened settings line volume now invocation :=
  rfl

/-- A client that waits for the password if it was not given with the invocation. -/
def prepared (secret? : Option String) (client : Client) : Client :=
  if secret?.isNone then client.askPassword else client

theorem state_prepared (secret? : Option String) (client : Client) :
    (client.prepared secret?).state = client.state ∧
      (client.prepared secret?).settings = client.settings ∧
      (client.prepared secret?).line = client.line ∧
      (client.prepared secret?).output = client.output := by
  unfold prepared
  split <;> exact ⟨rfl, rfl, rfl, rfl⟩

theorem signsIn_start (one other : Client) (username : String) (secret? : Option String) :
    Stage.SignsIn username (one.prepared secret?) (other.prepared secret?)
      (.start one (.login username secret?)) (.start other (.login username secret?)) := by
  cases secret? with
  | none => exact .waits
  | some secret => exact .done secret

theorem login_eq_ok_iff {client signedIn : Client} {username password : String} :
    client.login username password = (.ok (), signedIn) ↔
      ∃ after, Api.login client.settings client.line client.state username password =
          (.ok (), after) ∧
        signedIn = (client.adopt after).say ("Signed in as " ++ username ++ ".") := by
  unfold login
  cases Api.login client.settings client.line client.state username password with
  | mk result after =>
      cases result with
      | error error => simp
      | ok _ => simp [eq_comm]

section Opened

variable {settings : Settings} {line : Line} {volume : Volume} {now : Instant}
  {invocation : Invocation} {username password : String}

/-- A client that has just been opened signs in if that brings a token. -/
theorem exists_login_opened (secret? : Option String) {url : Url.Address} {token : String}
    (brings : BringsToken (opened settings line volume now invocation).settings line []
      username password url token) (other : Volume) :
    ∃ signedIn, ((opened settings line other now invocation).prepared secret?).login username
      password = (.ok (), signedIn) := by
  obtain ⟨state, settings_eq, line_eq, _⟩ :=
    (opened settings line other now invocation).state_prepared secret?
  have there : BringsToken ((opened settings line other now invocation).prepared secret?).settings
      ((opened settings line other now invocation).prepared secret?).line
      ((opened settings line other now invocation).prepared secret?).state.sent username password
      url token := by
    rw [state, settings_eq, line_eq]
    exact brings
  exact ⟨_, login_eq_ok_iff.mpr ⟨_, Api.login_eq_ok_iff.mpr ⟨url, token, there, rfl⟩, rfl⟩⟩

/-- What a sign-in leaves of a client that has just been opened. -/
theorem of_login_opened {secret? : Option String} {signedIn : Client}
    (done : ((opened settings line volume now invocation).prepared secret?).login username
      password = (.ok (), signedIn)) :
    signedIn.settings = (opened settings line volume now invocation).settings ∧
      ∃ url token, BringsToken signedIn.settings line [] username password url token ∧
        let session : Stored := ⟨settings.baseUrl.text, token, now⟩
        let saved := writeStored volume invocation.sessionFile session
        signedIn.output = "Signed in as " ++ username ++ ".\n" ∧
          signedIn.state.credentials.token = some token ∧
          signedIn.state.volume = saved.1 ∧
          signedIn.state.log = (readStored volume invocation.sessionFile).2 ++ saved.2 := by
  obtain ⟨state, settings_eq, line_eq, output⟩ :=
    (opened settings line volume now invocation).state_prepared secret?
  obtain ⟨after, signed, rfl⟩ := login_eq_ok_iff.mp done
  rw [state, settings_eq, line_eq] at signed
  obtain ⟨url, token, brings, rfl⟩ := Api.login_eq_ok_iff.mp signed
  refine ⟨settings_eq, url, token, ?_, ?_⟩
  · rw [← settings_eq] at brings
    exact brings
  · generalize opening : ({ (opened settings line volume now invocation).state with
      sent := _ } : Api.State) = begun
    have isFile : begun.credentials =
        .file (FileStore.load volume invocation.sessionFile settings.baseUrl.text).1 := by
      rw [← opening]; rfl
    obtain ⟨credentials, written, log⟩ := signIn_of_file isFile token
    have now_eq : begun.now = now := by rw [← opening]; rfl
    have volume_eq : begun.volume = volume := by rw [← opening]; rfl
    have log_eq : begun.log = (readStored volume invocation.sessionFile).2 := by
      rw [← opening]; rfl
    rw [now_eq, volume_eq] at written log
    rw [log_eq] at log
    refine ⟨?_, ?_, written, log⟩
    · simp only [say, adopt, output]
      simp [opened, String.append_assoc]
    · simp only [say, adopt, credentials]
      rfl

end Opened

end Client

section Performed

variable {line : Line} {volume : Volume} {now : Instant} {invocation : Invocation}
  {username : String} {secret? : Option String} {typing : Typing} {client : Client}

/-- Two sign-ins for which the same is typed, with different files, are done with the same
password. -/
theorem exists_password_of_performed (order : invocation.order = .login username secret?)
    (done : perform line volume now invocation typing = .ok (.ok (), client)) (other : Volume) :
    ∃ settings password, Settings.ofBaseUrl invocation.baseUrl = .ok settings ∧
      ((Client.opened settings line volume now invocation).prepared secret?).login username
        password = (.ok (), client) ∧
      perform line other now invocation typing =
        .ok (((Client.opened settings line other now invocation).prepared secret?).login username
          password) := by
  simp only [perform, Client.ofInvocation_eq, order] at done ⊢
  cases parsed : Settings.ofBaseUrl invocation.baseUrl with
  | error error =>
      rw [parsed] at done
      cases done
  | ok settings =>
      rw [parsed] at done
      have performed : (Stage.start (Client.opened settings line volume now invocation)
          (.login username secret?)).takeTyping typing = (.ok (), client) := Except.ok.inj done
      have signsIn := Client.signsIn_start (Client.opened settings line volume now invocation)
        (Client.opened settings line other now invocation) username secret?
      rcases signsIn.takeTyping typing with ⟨password, first, second⟩ | noPassword
      · exact ⟨settings, password, rfl, first.symm.trans performed, congrArg Except.ok second⟩
      · rw [noPassword] at performed
        cases performed

/-- What the next command with the same session file and backend finds is what reading the file
gives. -/
theorem exists_next {settings : Settings}
    (parsed : Settings.ofBaseUrl invocation.baseUrl = .ok settings) {again : Invocation}
    (sameFile : again.sessionFile = invocation.sessionFile)
    (sameBackend : again.baseUrl = invocation.baseUrl) (line : Line) (volume : Volume)
    (later : Instant) :
    ∃ next, Client.ofInvocation line volume later again = .ok next ∧
      next.state.credentials =
        .file (FileStore.load volume invocation.sessionFile settings.baseUrl.text).1 := by
  refine ⟨Client.opened settings line volume later again, ?_, ?_⟩
  · rw [Client.ofInvocation_eq, sameBackend, parsed]
    rfl
  · rw [← sameFile]
    rfl

end Performed

/-- A sign-in is saved, or an error is logged. A command that signs in and succeeds has got a
token from the server, says so, and holds it; that it succeeds does not depend on the files. If
nothing is logged of saving the session, the next command with the same session file and backend
finds just that token, provided that the path can mean a file; otherwise one error is logged that
names the path, and all files are as they were. -/
theorem sign_in_saved_or_logged (line : Line) (volume : Volume) (numbered : volume.Numbered)
    (now : Instant) (clock : now.IsClockTime) (invocation : Invocation) (username : String)
    (secret? : Option String) (order : invocation.order = .login username secret?)
    (typing : Typing) (client : Client)
    (done : perform line volume now invocation typing = .ok (.ok (), client)) :
    let found := (readStored volume invocation.sessionFile).2
    ∃ password url token, BringsToken client.settings line [] username password url token ∧
      client.output = "Signed in as " ++ username ++ ".\n" ∧
      client.state.credentials.token = some token ∧
      (∀ other, ∃ elsewhere,
        perform line other now invocation typing = .ok (.ok (), elsewhere)) ∧
      (client.state.log = found ∧
          (endsAsDirectory invocation.sessionFile = false →
            ∀ again line later, again.sessionFile = invocation.sessionFile →
              again.baseUrl = invocation.baseUrl →
              ∃ next, Client.ofInvocation line client.state.volume later again = .ok next ∧
                next.state.credentials.token = some token ∧
                next.state.credentials.savedAt = some now) ∨
        ∃ record, client.state.log = found ++ [record] ∧
          SavingFailed invocation.sessionFile record ∧
          ∀ place, client.state.volume.fileAt place = volume.fileAt place) := by
  intro found
  obtain ⟨settings, password, parsed, signed, _⟩ :=
    exists_password_of_performed order done volume
  obtain ⟨_, url, token, brings, output, held, written, log⟩ := Client.of_login_opened signed
  refine ⟨password, url, token, brings, output, held, ?_, ?_⟩
  · intro other
    obtain ⟨settings, password, _, signed, elsewhere⟩ :=
      exists_password_of_performed order done other
    obtain ⟨same, url, token, brings, _⟩ := Client.of_login_opened signed
    rw [same] at brings
    obtain ⟨signedIn, succeeds⟩ := Client.exists_login_opened secret? brings other
    exact ⟨signedIn, elsewhere.trans (congrArg Except.ok succeeds)⟩
  · rw [written, log]
    let session : Stored := ⟨settings.baseUrl.text, token, now⟩
    have timed : session.savedAt.IsClockTime := clock
    rcases writeStored_cases timed numbered invocation.sessionFile with
      ⟨silent, read⟩ | ⟨record, logged, failed, same⟩
    · refine .inl ⟨by rw [silent, List.append_nil], fun plain again line later file backend => ?_⟩
      obtain ⟨next, opened, credentials⟩ := exists_next parsed file backend line _ later
      refine ⟨next, opened, ?_⟩
      rw [credentials, load_of_readStored (read plain)]
      exact ⟨rfl, rfl⟩
    · exact .inr ⟨record, by rw [logged], failed, same⟩

namespace OneServer

/-- A server that answers everything with the same token. -/
def line : Line := fun _ _ =>
  .ok { status := .ok, chunks := [Text.bytesOf "\x7b\"access_token\":\"abc\"\x7d"] }

def now : Instant := ⟨1700000000, 0⟩

/-- A user signs in with a session file. -/
def signIn (path : String) : Invocation :=
  { baseUrl := "http://a.example/api", sessionFile := path
    order := .login "admin" (some "secret") }

/-- What is seen of a sign-in: whether it succeeds, what it says, what it logs, the token that it
holds, and the token that the next command finds. -/
def seen (volume : Volume) (path : String) :
    Option (Bool × String × List Log.Record × Option String × Option (Option String)) :=
  (perform line volume now (signIn path) {}).toOption.map fun (result, client) =>
    (result.isOk, client.output, client.state.log, client.state.credentials.token,
      (Client.ofInvocation line client.state.volume now (signIn path)).toOption.map fun next =>
        next.state.credentials.token)

theorem exists_client_of_seen {volume : Volume} {path output : String} {log : List Log.Record}
    {held found : Option String}
    (sees : seen volume path = some (true, output, log, held, some found)) :
    ∃ client, perform line volume now (signIn path) {} = .ok (.ok (), client) ∧
      client.output = output ∧ client.state.log = log ∧ client.state.credentials.token = held ∧
      ∃ next, Client.ofInvocation line client.state.volume now (signIn path) = .ok next ∧
        next.state.credentials.token = found := by
  unfold seen at sees
  cases performed : perform line volume now (signIn path) {} with
  | error error => rw [performed] at sees; cases sees
  | ok done =>
      obtain ⟨result, client⟩ := done
      rw [performed] at sees
      simp only [Except.toOption, Option.map_some, Option.some.injEq, Prod.mk.injEq] at sees
      obtain ⟨success, said, logged, holds, finds⟩ := sees
      cases result with
      | error error => cases success
      | ok _ =>
          refine ⟨client, rfl, said, logged, holds, ?_⟩
          cases opens : Client.ofInvocation line client.state.volume now (signIn path) with
          | error error => rw [opens] at finds; cases finds
          | ok next =>
              rw [opens] at finds
              exact ⟨next, rfl, Option.some.inj finds⟩

end OneServer

open OneServer in
/-- In an empty directory a session is saved, and the next command finds its token. -/
theorem sign_in_saved_or_logged_saved :
    now.IsClockTime ∧ ∃ client,
      perform line {} now (signIn "session.ron") {} = .ok (.ok (), client) ∧
      client.output = "Signed in as admin.\n" ∧
      ∃ next, Client.ofInvocation line client.state.volume now (signIn "session.ron") = .ok next ∧
        next.state.credentials.token = some "abc" ∧
        next.state.credentials.savedAt = some now := by
  have clock : now.IsClockTime := ⟨by decide, by decide, by decide⟩
  have sees : seen {} "session.ron" =
      some (true, "Signed in as admin.\n", [], some "abc", some (some "abc")) := by
    decide +kernel
  obtain ⟨client, done, said, silent, holds, _⟩ := exists_client_of_seen sees
  obtain ⟨_, _, token, _, _, held, _, saved | ⟨record, logged, _⟩⟩ :=
    sign_in_saved_or_logged line {} nofun now clock (signIn "session.ron") "admin" (some "secret")
      rfl {} client done
  · obtain rfl : token = "abc" := Option.some.inj (held.symm.trans holds)
    exact ⟨clock, client, done, said,
      saved.2 (by decide +kernel) (signIn "session.ron") line now rfl rfl⟩
  · rw [silent] at logged
    simp at logged

open OneServer in
/-- A sign-in that succeeds is not always found again: not where a directory is in the place of
the session file, and not where the path of the file ends with a slash, although then nothing is
logged. -/
theorem sign_in_not_found_again :
    let blocked : Volume := { entries := [(["session.ron"], .directory)] }
    (∃ client, perform line blocked now (signIn "session.ron") {} = .ok (.ok (), client) ∧
        client.output = "Signed in as admin.\n" ∧
        client.state.log =
          [Log.warning
            "Failed to read session from \"session.ron\": Is a directory (os error 21)",
            Log.error <| "Failed to write session to \"session.ron\": " ++
              "io error: Is a directory (os error 21)"] ∧
        client.state.credentials.token = some "abc" ∧
        ∃ next, Client.ofInvocation line client.state.volume now (signIn "session.ron") =
            .ok next ∧
          next.state.credentials.token = none) ∧
      ∃ client, perform line {} now (signIn "session.ron/") {} = .ok (.ok (), client) ∧
        client.output = "Signed in as admin.\n" ∧ client.state.log = [] ∧
        client.state.credentials.token = some "abc" ∧
        ∃ next, Client.ofInvocation line client.state.volume now (signIn "session.ron/") =
            .ok next ∧
          next.state.credentials.token = none := by
  intro blocked
  constructor
  · exact exists_client_of_seen (by decide +kernel)
  · exact exists_client_of_seen (by decide +kernel)

end UtilityBilling.Console
