/-
# No answer is swallowed

A list asks its gateway page by page, and the table drops what the gateway reports as the end
of the session. Nothing is lost thereby: any other answer is painted, whatever its status and
its body and wherever it came from, and the end of the session is known to the command that
browses the list. A command that browses a list therefore never ends well once the backend has
refused one of its requests, and while it waits such a refusal is its end.
-/

import UtilityBilling.Proofs.Console.SignIn
import UtilityBilling.Proofs.Console.Sitting
import UtilityBilling.Proofs.Table.Heard
import UtilityBilling.Proofs.Table.World

namespace UtilityBilling.Console

open UtilityBilling.Api
open UtilityBilling.Files (Volume)
open UtilityBilling.Json (Value)
open UtilityBilling.Session (FileStore Instant)
open UtilityBilling.Table (Fetch RequestId Course)
open UtilityBilling.Url (Address)

section Awareness

variable {settings : Settings} {line : Line} {endpoint : String}

/-! ## Browsers and commands that are aware of refusals -/

/-- A page of a list leaves the user aware of every refusal. -/
theorem keeps_listSource (settings : Settings) (line : Line) (endpoint : String) :
    (listSource settings line endpoint).Keeps (State.Aware settings line) := by
  intro world parameters aware
  have logless : State.Aware settings line { world with log := [] } := ⟨aware.told, aware.aware⟩
  have asked := logless.perform (Call.fetchPage endpoint parameters)
  rw [Call.perform_fetchPage] at asked
  unfold listSource
  generalize Api.fetchPage settings line { world with log := [] } endpoint parameters =
    answered at asked ⊢
  exact ⟨asked.told, asked.aware⟩

/-- A browser of a list on a line, whose user is aware of every refusal. -/
structure Browser.Attends (settings : Settings) (line : Line) (endpoint : String)
    (browser : Browser) : Prop where
  own : browser.client.settings = settings
  run : browser.run.Serves (listSource settings line endpoint) (State.Aware settings line)
  state : browser.client.state.Aware settings line

namespace Browser.Attends

variable {browser : Browser}

/-- What was seen is shown by a browser that is otherwise the same. -/
theorem foldl_showSight (browser : Browser) (seen : List (Nat × Table.Sight Value)) :
    (seen.foldl (fun held entry => held.showSight entry.2) browser).client.settings =
        browser.client.settings ∧
      (seen.foldl (fun held entry => held.showSight entry.2) browser).run = browser.run := by
  induction seen generalizing browser with
  | nil => exact ⟨rfl, rfl⟩
  | cons entry seen ih =>
      have same : (browser.showSight entry.2).client.settings = browser.client.settings ∧
          (browser.showSight entry.2).run = browser.run := by
        cases entry.2 <;> exact ⟨rfl, rfl⟩
      rw [List.foldl_cons]
      have later := ih (browser.showSight entry.2)
      exact ⟨later.1.trans same.1, later.2.trans same.2⟩

/-- A browser that catches up with its table knows what the gateway knows. -/
theorem catchUp (own : browser.client.settings = settings)
    (run : browser.run.Serves (listSource settings line endpoint) (State.Aware settings line)) :
    browser.catchUp.Attends settings line endpoint := by
  obtain ⟨sameOwn, sameRun⟩ := foldl_showSight browser browser.run.seen
  unfold Browser.catchUp
  dsimp only
  generalize browser.run.seen.foldl _ browser = shown at sameOwn sameRun ⊢
  rw [← sameRun] at run
  exact ⟨sameOwn.trans own, run.of_same rfl rfl, ⟨run.world.told, run.world.aware⟩⟩

/-- What the user sees or sends besides what the table does changes nothing of this. -/
theorem of_same {after : Browser} (attends : browser.Attends settings line endpoint)
    (sameOwn : after.client.settings = browser.client.settings)
    (sameState : after.client.state = browser.client.state)
    (run : after.run.Serves (listSource settings line endpoint) (State.Aware settings line)) :
    after.Attends settings line endpoint :=
  ⟨sameOwn.trans attends.own, run, sameState ▸ attends.state⟩

theorem settle (attends : browser.Attends settings line endpoint) :
    browser.settle.Attends settings line endpoint := by
  unfold Browser.settle
  apply catchUp
  · exact attends.own
  · dsimp only
    exact attends.run.settle (keeps_listSource settings line endpoint)

theorem advance (attends : browser.Attends settings line endpoint) (milliseconds : Nat) :
    (browser.advance milliseconds).Attends settings line endpoint := by
  unfold Browser.advance
  apply catchUp
  · exact attends.own
  · dsimp only
    exact attends.run.advance (keeps_listSource settings line endpoint) milliseconds

theorem waitFor (attends : browser.Attends settings line endpoint) (enough : Browser → Bool)
    (fuel : Nat) : (Browser.waitFor enough fuel browser).Attends settings line endpoint := by
  induction fuel generalizing browser with
  | zero => exact attends
  | succ fuel ih =>
      unfold Browser.waitFor
      split
      case isTrue => exact attends
      case isFalse =>
        split
        case h_1 => exact attends
        case h_2 due _ => exact ih (attends.advance _)

theorem waitUntil (attends : browser.Attends settings line endpoint) (enough : Browser → Bool) :
    (browser.waitUntil enough).Attends settings line endpoint :=
  attends.settle.waitFor enough _

theorem awaitFrames (attends : browser.Attends settings line endpoint) (frames : Nat) :
    (browser.awaitFrames frames).Attends settings line endpoint := by
  unfold Browser.awaitFrames
  split
  · exact attends
  · exact attends.waitUntil _

theorem send (attends : browser.Attends settings line endpoint) (message : Table.Message Value) :
    (browser.send message).Attends settings line endpoint :=
  attends.of_same rfl rfl (attends.run.send message)

theorem take (attends : browser.Attends settings line endpoint) {text : String}
    {after : Browser} (taken : browser.take text = some after) :
    after.Attends settings line endpoint := by
  unfold Browser.take at taken
  split at taken
  case h_1 command _ =>
    cases command with
    | quit => cases taken
    | help =>
        cases taken
        exact attends.of_same rfl rfl attends.run
    | _ =>
        cases taken
        exact attends.send _
  case h_2 =>
    cases taken
    exact attends
  case h_3 =>
    cases taken
    exact attends.of_same rfl rfl attends.run

/-- A browser starts aware of what its first page brings. -/
theorem start {client : Client} {options : BrowseOptions}
    (aware : client.state.Aware client.settings client.line) :
    (Browser.start client options).Attends client.settings client.line options.endpoint := by
  unfold Browser.start
  apply catchUp
  · rfl
  · dsimp only
    apply Table.Timeline.Serves.start (keeps_listSource _ _ _)
    exact ⟨aware.told, aware.aware⟩

/-- As long as the session has not ended, no request has met a refusal. -/
theorem not_met (attends : browser.Attends settings line endpoint)
    (open' : browser.client.wasSignedOut = false) :
    ¬ MetRefusal settings line browser.client.state.sent := by
  intro met
  have signedOut : browser.client.wasSignedOut = true := decide_eq_true (attends.state.aware met)
  rw [open'] at signedOut
  cases signedOut

end Browser.Attends

/-- A command that fails because its session has ended. -/
def FailsSignedOut (result : CommandResult) : Prop :=
  result = .error .notSignedIn ∨ result = .error .sessionEnded

/-- What a command comes to that browses a list on a line: if one of its requests met the
backend's refusal, it fails for that. -/
structure Answers (settings : Settings) (line : Line) (result : CommandResult)
    (client : Client) : Prop where
  own : client.settings = settings
  fails : MetRefusal settings line client.state.sent → FailsSignedOut result

/-- A command in progress that browses a list on a line. -/
inductive Stage.Attends (settings : Settings) (line : Line) : Stage → Prop where
  | finished {result : CommandResult} {client : Client}
      (answers : Answers settings line result client) :
      Attends settings line (.finished result client)
  | browsing {endpoint : String} {browser : Browser}
      (attends : browser.Attends settings line endpoint) :
      Attends settings line (.browsing browser)

namespace Stage.Attends

variable {stage : Stage} {browser : Browser}

/-- What is done with a list is done only as long as the session has not ended. -/
theorem goOn (attends : browser.Attends settings line endpoint) {next : Browser → Stage}
    (goes : browser.client.wasSignedOut = false → (next browser).Attends settings line) :
    (Stage.goOn browser next).Attends settings line := by
  unfold Stage.goOn
  cases signedOut : browser.client.wasSignedOut with
  | true => exact .finished ⟨attends.own, fun _ => .inr rfl⟩
  | false => exact goes signedOut

theorem take (attends : stage.Attends settings line) (text : String) :
    (stage.take text).Attends settings line := by
  cases attends with
  | finished answers => exact .finished answers
  | @browsing endpoint browser attends =>
      apply goOn attends
      intro stands
      split
      case h_1 after taken => exact .browsing (attends.take taken)
      case h_2 => exact .finished ⟨attends.own, fun met => absurd met (attends.not_met stands)⟩

theorem awaitFrames (attends : stage.Attends settings line) (frames : Nat) :
    (stage.awaitFrames frames).Attends settings line := by
  cases attends with
  | finished answers => exact .finished answers
  | browsing attends =>
      have awaited := attends.awaitFrames frames
      exact goOn awaited fun _ => .browsing awaited

theorem rest (attends : stage.Attends settings line) : stage.rest.Attends settings line := by
  cases attends with
  | finished answers => exact .finished answers
  | browsing attends =>
      have rested := attends.waitUntil fun _ => false
      exact goOn rested fun _ => .browsing rested

theorem takeAll (attends : stage.Attends settings line) (lines : List (List Char)) :
    (stage.takeAll lines).Attends settings line := by
  induction lines generalizing stage with
  | nil => exact attends
  | cons text lines ih => exact ih (attends.take _)

theorem takePieces (attends : stage.Attends settings line) (pieces : List Typed)
    (begun : List Char) : (Stage.takePieces pieces begun stage).1.Attends settings line := by
  induction pieces generalizing begun stage with
  | nil => exact attends
  | cons piece later ih => exact ih ((attends.awaitFrames _).takeAll _) _

theorem endOfInput (attends : stage.Attends settings line) :
    Answers settings line stage.endOfInput.1 stage.endOfInput.2 := by
  cases attends with
  | finished answers => exact answers
  | @browsing endpoint browser attends =>
      rw [Stage.endOfInput]
      cases signedOut : browser.client.wasSignedOut with
      | true => exact ⟨attends.own, fun _ => .inr rfl⟩
      | false => exact ⟨attends.own, fun met => absurd met (attends.not_met signedOut)⟩

/-- However the user types, a refusal that was met is what the command fails for. -/
theorem takeTyping (attends : stage.Attends settings line) (typing : Typing) :
    Answers settings line (stage.takeTyping typing).1 (stage.takeTyping typing).2 := by
  have pieces := attends.takePieces typing.pieces []
  unfold Stage.takeTyping
  dsimp only
  split
  case isTrue => exact pieces.rest.endOfInput
  case isFalse =>
    split
    case isTrue => exact pieces.endOfInput
    case isFalse => exact (pieces.take _).endOfInput

/-- A command that starts to browse ends at once if its first page met a refusal. -/
theorem browse {client : Client} (aware : client.state.Aware client.settings client.line)
    (options : BrowseOptions) :
    (Stage.browse client options).Attends client.settings client.line := by
  have attends : (Browser.start client options).Attends _ _ _ := .start aware
  unfold Stage.browse
  dsimp only
  generalize Browser.start client options = browser at attends
  cases signedOut : browser.client.wasSignedOut with
  | true =>
      rw [refusal?_of_signedOut signedOut]
      exact .finished ⟨attends.own, fun _ => .inl rfl⟩
  | false =>
      have unmet := attends.not_met signedOut
      split
      case h_1 => exact .finished ⟨attends.own, fun met => absurd met unmet⟩
      case h_2 =>
        split
        case isTrue => exact .finished ⟨attends.own, fun met => absurd met unmet⟩
        case isFalse => exact .browsing (attends.of_same rfl rfl attends.run)

end Stage.Attends

end Awareness

/-- The client of an invocation has met no refusal yet, and its latch is open. -/
theorem fresh_opened (settings : Settings) (line : Line) (volume : Volume) (now : Instant)
    (invocation : Invocation) :
    (Client.opened settings line volume now invocation).state.latchClosed = false ∧
      (Client.opened settings line volume now invocation).state.sent = [] ∧
      (Client.opened settings line volume now invocation).line = line :=
  ⟨rfl, rfl, rfl⟩

theorem exists_opened {line : Line} {volume : Volume} {now : Instant} {invocation : Invocation}
    {client : Client} (opens : Client.ofInvocation line volume now invocation = .ok client) :
    ∃ settings, client = Client.opened settings line volume now invocation := by
  rw [Client.ofInvocation_eq] at opens
  cases resolves : Settings.ofBaseUrl invocation.baseUrl with
  | error error =>
      rw [resolves] at opens
      cases opens
  | ok settings =>
      rw [resolves] at opens
      exact ⟨settings, (Except.ok.inj opens).symm⟩

/-- A command that browses a list fails if one of its requests met the backend's refusal. -/
theorem answers_perform {line : Line} {volume : Volume} {now : Instant} {invocation : Invocation}
    {options : BrowseOptions} (orders : invocation.order = .browse options) {typing : Typing}
    {result : CommandResult} {client : Client}
    (performed : perform line volume now invocation typing = .ok (result, client)) :
    Answers client.settings line result client := by
  unfold perform at performed
  cases opens : Client.ofInvocation line volume now invocation with
  | error error =>
      rw [opens] at performed
      cases performed
  | ok first =>
      obtain ⟨settings, same⟩ := exists_opened opens
      obtain ⟨latch, sent, sameLine⟩ := fresh_opened settings line volume now invocation
      rw [← same] at latch sent sameLine
      have aware : first.state.Aware first.settings first.line := by
        constructor
        · intro closed
          rw [latch] at closed
          cases closed
        · intro met
          rw [sent] at met
          exact absurd met not_metRefusal_nil
      have answers := (Stage.Attends.browse aware options).takeTyping typing
      rw [opens, orders] at performed
      have comes : (Stage.browse first options).takeTyping typing = (result, client) :=
        Except.ok.inj performed
      rw [comes, sameLine] at answers
      exact answers.own ▸ answers

/-! ## No answer is swallowed -/

/-- What a call for the page of a load in flight comes to is heeded: by the table, and if the
backend refused the session, by the gateway. -/
structure Heeds (settings : Settings) (gateway : State) (table : Course Value)
    (request : RequestId) (call : Call (Table.Page Value)) : Prop where
  /-- A refusal by the backend is not painted, but the session has ended. -/
  refused : ∀ url reply result after,
    call.ComesTo settings gateway (some (url, reply)) result after →
      RefusedByBackend settings url reply →
        after.latchClosed = true ∧ after.credentials.token = none ∧
          Table.HearsOut table request result none
  /-- Everything else is painted in one frame: rows, or that there are none, or an error. -/
  painted : ∀ heard? result after, call.ComesTo settings gateway heard? result after →
    (∀ url reply, heard? = some (url, reply) → ¬ RefusedByBackend settings url reply) →
      Table.HearsOut table request result (some (Table.bodyOf result))
  /-- That goes for a refusal by somebody else, too. -/
  foreign : ∀ url answer result after,
    call.ComesTo settings gateway (some (url, .ok answer)) result after →
      answer.status = .unauthorized → ¬ SameOrigin url settings.baseUrl →
        Table.HearsOut table request result (some (.failed answer.rejection.message))

/-- A table heeds its gateway, whatever has happened to either. -/
theorem heeds_call (settings : Settings) {gateway : State} (shut : Traffic.Shut gateway)
    {endpoint : String} {config : Table.Config} {extras : List Table.Parameter}
    {events : List (Table.Event Value)} {request : RequestId} {fetch : Fetch}
    (call : Call (Table.Page Value)) :
    let table := (Course.start endpoint config extras).run events
    (Table.loads table.past).length < UInt64.size →
      table.binder.state.inFlight = some request →
        table.fetch? request Fetch.asked = some fetch →
          Heeds settings gateway table request call := by
  intro table bounded inFlight asked
  have hears := Table.hearsOut bounded inFlight asked
  have painted {heard? result after} (comes : call.ComesTo settings gateway heard? result after)
      (other : ∀ url reply, heard? = some (url, reply) →
        ¬ RefusedByBackend settings url reply) :
      Table.HearsOut table request result (some (Table.bodyOf result)) := by
    have body := Table.bodyOf?_outcomeOf (comes.of_not_refused other).1
    exact body ▸ hears result
  constructor
  case refused =>
    intro url reply result after comes refused
    obtain ⟨rfl, rfl⟩ := comes.of_refused refused
    exact ⟨gateway.latchClosed_expireSession, State.token_expireSession shut,
      hears (.error sessionExpired)⟩
  case painted => exact fun heard? result after comes other => painted comes other
  case foreign =>
    intro url answer result after comes status foreign
    obtain rfl := comes.of_foreign status foreign
    apply painted comes
    rintro _ _ ⟨⟩
    exact not_refused_of_foreign foreign _

/-- No answer is swallowed. Whatever a list asks of a gateway, a table hears what the call
for its load in flight comes to, as long as no newer load is issued: it is painted in one frame,
also if another origin refused the request, unless the backend refused the session; then the
gateway has closed the latch and cleared the credential. A command that browses a list knows of
this: while it waits, for its first frame or for a line, a refusal by the backend lets nothing
more happen to it than its end for just that; and in every run in which one of its requests was
refused by the backend it fails for that. -/
theorem no_answer_is_swallowed :
    (∀ (settings : Settings) (credentials : CredentialStore) (volume : Volume) (now : Instant)
      (traffic : List Traffic.Event) (endpoint : String) (config : Table.Config)
      (extras : List Table.Parameter) (events : List (Table.Event Value)) (request : RequestId)
      (fetch : Fetch),
      let gateway := ((Traffic.start credentials volume now).run settings traffic).state
      let table := (Course.start endpoint config extras).run events
      (Table.loads table.past).length < UInt64.size →
        table.binder.state.inFlight = some request →
          table.fetch? request Fetch.asked = some fetch →
            Heeds settings gateway table request (.fetchPage endpoint fetch.parameters)) ∧
    ∀ (line : Line) (volume : Volume) (now : Instant) (invocation : Invocation)
      (options : BrowseOptions), invocation.order = .browse options →
      (∀ client, Client.ofInvocation line volume now invocation = .ok client →
        ∀ before browser request fetch url reply,
          let sitting := (Sitting.start client options).run options before
          sitting.waitsWith? = some browser →
            browser.course.fetch? request Fetch.asked = some fetch →
              (browser.callOf fetch).address browser.client.settings = .ok url →
                RefusedByBackend browser.client.settings url reply →
                  ∀ later, Sitting.EndsFor sitting.cause later
                    ((sitting.step options (.beside (.reply request reply))).run options
                      later)) ∧
        ∀ typing result client,
          perform line volume now invocation typing = .ok (result, client) →
            MetRefusal client.settings line client.state.sent → FailsSignedOut result := by
  constructor
  · intro settings credentials volume now traffic endpoint config extras events request fetch
      gateway table bounded inFlight asked
    have shut : Traffic.Shut gateway := Traffic.shut_run (by intro closed; cases closed) traffic
    exact heeds_call settings shut _ bounded inFlight asked
  · intro line volume now invocation options orders
    constructor
    · intro client opens before browser request fetch url reply sitting waits asked resolves
        refused later
      obtain ⟨settings, rfl⟩ := exists_opened opens
      have latch := (fresh_opened settings line volume now invocation).1
      exact Sitting.endsFor_of_refused latch before waits asked resolves refused later
    · intro typing result client performed met
      exact (answers_perform orders performed).fails met

namespace EndedSession

def settings : Settings where
  baseUrl :=
    { scheme := "http".toList, host := some (.domain "a.example".toList)
      path := .segments ["api".toList] }

/-- A gateway with a session. -/
def gateway : State :=
  (Traffic.start (.memory (some "abc")) {} ⟨0, 0⟩).state

/-- A table whose first page is asked for. -/
def table (endpoint : String) : Course Value :=
  (Course.start endpoint {} []).run [.drive, .ask ⟨1⟩]

/-- The fetch of that page. -/
def fetch : Fetch :=
  { request := ⟨1⟩, parameters := [("page", "1"), ("limit", "20")], asked := true }

/-- The address of that page in a list of the backend. -/
def page : Address :=
  { settings.baseUrl with
    path := .segments ["api".toList, "items".toList], query := some "page=1&limit=20".toList }

/-- The address of that page in a list elsewhere. -/
def elsewhere : Address :=
  { page with host := some (.domain "b.example".toList), path := .segments ["items".toList] }

def refusal : Answer := { status := .unauthorized }

/-- What the refusal comes to. -/
def comes (endpoint : String) (url : Address) : Result (Table.Page Value) × State :=
  (Call.fetchPage endpoint fetch.parameters).settle settings gateway url (.ok refusal)

/-- What the driver has painted once it has gone on. -/
def shown (endpoint : String) (result : Result (Table.Page Value)) : List (Table.Body Value) :=
  (Table.views ((table endpoint).step (.answer ⟨1⟩ result)).drained.past).map Table.View.body

/-- What is heard and not superseded is what the driver paints. -/
theorem shown_eq {endpoint : String} {result : Result (Table.Page Value)}
    {body? : Option (Table.Body Value)}
    (hears : Table.HearsOut (table endpoint) ⟨1⟩ result body?)
    (running : ((table endpoint).step (.answer ⟨1⟩ result)).binder.Running)
    (issued : Table.loads ((table endpoint).step (.answer ⟨1⟩ result)).drained.past =
      Table.loads (table endpoint).past)
    (nothing : Table.views (table endpoint).past = []) : shown endpoint result = body?.toList := by
  obtain ⟨frame?, painted, rfl⟩ := hears.drained [] running issued
  change Table.views ((table endpoint).step (.answer ⟨1⟩ result)).drained.past = _ at painted
  rw [shown, painted, nothing]
  cases frame? <;> rfl

def options : BrowseOptions := { endpoint := "/items" }

def invocation : Invocation :=
  { baseUrl := "http://a.example/api", sessionFile := "session.ron", order := .browse options }

/-- The backend answers with an empty page, and refuses the session from then on. -/
def line : Line := fun sent _ =>
  .ok (if sent.isEmpty then
      { status := .ok, chunks := [Text.bytesOf "\x7b\"items\":[],\"total\":0\x7d"] }
    else refusal)

/-- The user looks at the page, asks for it again, and wants to see the next one. -/
def typing : Typing :=
  { pieces := [⟨1, "r\n".toList⟩, ⟨2, "n\n".toList⟩] }

/-- The command at its start. -/
def client : Client :=
  .opened settings line {} ⟨0, 0⟩ invocation

/-- The command when its first page is asked for. -/
def waiting : Sitting :=
  (Sitting.start client options).run options [.beside .drive, .beside (.ask ⟨1⟩ true)]

end EndedSession

open EndedSession in
/-- A refusal by the backend ends the session and is not painted; one from elsewhere is painted.
A command that waits for its first frame ends with its next turn, and one that has shown a page
fails when the page is refused the next time. -/
theorem no_answer_is_swallowed_refusals :
    RefusedByBackend settings page (.ok refusal) ∧
      (comes "/items" page).2.latchClosed = true ∧
      (comes "/items" page).2.credentials.token = none ∧
      shown "/items" (comes "/items" page).1 = [] ∧
      ¬ SameOrigin elsewhere settings.baseUrl ∧
      shown "http://b.example/items" (comes "http://b.example/items" elsewhere).1 =
        [.failed refusal.rejection.message] ∧
      (∃ ended, (waiting.step options (.beside (.reply ⟨1⟩ (.ok refusal)))).run options
          [.turn .nothing] = .under (.finished (.error .notSignedIn) ended)) ∧
      ∃ result after, perform line {} ⟨0, 0⟩ invocation typing = .ok (result, after) ∧
        MetRefusal after.settings line after.state.sent ∧ FailsSignedOut result := by
  obtain ⟨heeds, commands⟩ := no_answer_is_swallowed
  have same : SameOrigin page settings.baseUrl := by decide
  have refused : RefusedByBackend settings page (.ok refusal) := ⟨refusal, rfl, rfl, same⟩
  have foreign : ¬ SameOrigin elsewhere settings.baseUrl := by decide
  have own := heeds settings (.memory (some "abc")) {} ⟨0, 0⟩ [] "/items" {} []
    [.drive, .ask ⟨1⟩] ⟨1⟩ fetch (by decide) (by decide) (by decide)
  have other := heeds settings (.memory (some "abc")) {} ⟨0, 0⟩ [] "http://b.example/items" {} []
    [.drive, .ask ⟨1⟩] ⟨1⟩ fetch (by decide) (by decide) (by decide)
  have resolves : (Call.fetchPage "/items" fetch.parameters).address settings = .ok page := by
    decide +kernel
  have resolvesElsewhere : (Call.fetchPage "http://b.example/items"
      fetch.parameters).address settings = .ok elsewhere := by decide +kernel
  obtain ⟨closed, cleared, unseen⟩ := own.refused _ _ _ _ (.settled resolves _) refused
  have seen := other.foreign _ refusal _ _ (.settled resolvesElsewhere _) rfl foreign
  obtain ⟨waits, runs⟩ := commands line {} ⟨0, 0⟩ invocation options rfl
  refine ⟨refused, closed, cleared, ?_, foreign, ?_, ?_, ?_⟩
  · exact shown_eq unseen ⟨by decide +kernel, by decide +kernel⟩ (by decide +kernel) (by rfl)
  · exact shown_eq seen ⟨by decide +kernel, by decide +kernel⟩ (by decide +kernel) (by rfl)
  · have opens : Client.ofInvocation line {} ⟨0, 0⟩ invocation = .ok client := by
      have base : Settings.ofBaseUrl invocation.baseUrl = .ok settings := by decide +kernel
      rw [Client.ofInvocation_eq, base]
      rfl
    have asked : ((((Browser.opened client options).undergo .drive).undergo
        (.ask ⟨1⟩ true)).course.fetch? ⟨1⟩ Fetch.asked) = some fetch := by decide +kernel
    rcases waits client opens [.beside .drive, .beside (.ask ⟨1⟩ true)] _ ⟨1⟩ fetch page
      (.ok refusal) rfl asked (by decide +kernel) (by decide +kernel) [.turn .nothing] with
      ended | ⟨_, still⟩
    · exact ended
    · obtain ⟨_, beside⟩ := still (.turn .nothing) List.mem_cons_self
      cases beside
  · have sees : (perform line {} ⟨0, 0⟩ invocation typing).toOption.map (fun done =>
        (done.2.settings.baseUrl, done.2.state.sent.map Request.url)) =
          some (settings.baseUrl, [page, page]) := by decide +kernel
    cases performed : perform line {} ⟨0, 0⟩ invocation typing with
    | error error =>
        rw [performed] at sees
        cases sees
    | ok done =>
        obtain ⟨result, after⟩ := done
        rw [performed] at sees
        simp only [Except.toOption, Option.map_some, Option.some.injEq, Prod.mk.injEq] at sees
        obtain ⟨base, urls⟩ := sees
        obtain ⟨first, rest, sent, _, others⟩ := List.map_eq_cons_iff.mp urls
        obtain ⟨second, rfl, url⟩ := List.map_eq_singleton_iff.mp others
        have met : MetRefusal after.settings line after.state.sent := by
          refine ⟨[first], second, [], sent, refusal, rfl, rfl, ?_⟩
          rw [url, base]
          exact same
        exact ⟨result, after, rfl, met, runs typing result after performed met⟩

end UtilityBilling.Console
