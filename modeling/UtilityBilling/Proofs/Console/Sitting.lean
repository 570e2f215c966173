/-
# Browsing while answers take their time

A command that browses a list waits for the first frame and then for line after line, while
beside it the table goes on: its driver takes messages, its alarm goes off, its fetches put
their requests on the line, and the replies to them come any time later. The command itself
does something only when it gets its turn. Once a reply has been the backend's refusal, a
command that waits is lost: whatever goes on beside it, its next turn is its end, and it takes
no line any more.
-/

import UtilityBilling.Console.Command
import UtilityBilling.Proofs.Api.Results
import UtilityBilling.Proofs.Table.Course

namespace UtilityBilling.Console

open UtilityBilling.Api (Reply RefusedByBackend)
open UtilityBilling.Json (Value)
open UtilityBilling.Table (Fetch RequestId)
open UtilityBilling.Url (Address)

/-- What can happen to a list while its command waits. -/
inductive Background where
  /-- The driver takes its next step. -/
  | drive
  | wait (milliseconds : Nat)
  /-- The alarm goes off. -/
  | ring
  /-- A cancelled fetch ends. -/
  | retire (request : RequestId)
  /-- A fetch puts its request on the line; there may be no connection. -/
  | ask (request : RequestId) (connected : Bool)
  /-- The reply to the request of a fetch comes. -/
  | reply (request : RequestId) (reply : Reply)

namespace Browser

/-- A browser whose table has just been started. -/
def opened (client : Client) (options : BrowseOptions) : Browser :=
  { client := client
    run :=
      { binder := .start options.endpoint options.config options.filters
        source := listSource client.settings client.line options.endpoint
        world := client.state }
    surface := { columns := options.columns } }

/-- The table of a browser, as a course from now on. -/
def course (browser : Browser) : Table.Course Value :=
  { binder := browser.run.binder }

/-- Something happens to the table; what is painted is shown. -/
def happen (browser : Browser) (event : Table.Event Value) : Browser :=
  let after := browser.course.step event
  (Table.views after.past).reverse.foldl paint
    { browser with run := { browser.run with binder := after.binder } }

/-- The call of a fetch. -/
def callOf (browser : Browser) (fetch : Fetch) : Api.Call (Table.Page Value) :=
  .fetchPage browser.run.binder.endpoint fetch.parameters

/-- A fetch puts its request on the line, with the credential of that moment; if it cannot, it
fails at once. -/
def ask (browser : Browser) (request : RequestId) (connected : Bool) : Browser :=
  match browser.course.fetch? request fun fetch => !fetch.asked with
  | none => browser
  | some fetch =>
    let asked := browser.happen (.ask request)
    match (browser.callOf fetch).address browser.client.settings with
    | .error error => asked.happen (.answer request (.error error))
    | .ok url =>
      let state := asked.client.state
      let outgoing := (browser.callOf fetch).outgoing browser.client.settings state url
      match Api.Traffic.obstacle? outgoing connected with
      | some failure => asked.happen (.answer request (.error (failure.error url)))
      | none =>
        let sent := { state with sent := state.sent ++ [outgoing] }
        { asked with client := { asked.client with state := sent } }

/-- The reply to the request of a fetch comes: the gateway deals with it, and the table gets
what the call comes to. -/
def hear (browser : Browser) (request : RequestId) (reply : Reply) : Browser :=
  match browser.course.fetch? request Fetch.asked with
  | none => browser
  | some fetch =>
    match (browser.callOf fetch).address browser.client.settings with
    | .error _ => browser
    | .ok url =>
      let (result, after) :=
        (browser.callOf fetch).settle browser.client.settings browser.client.state url reply
      { browser with client := browser.client.adopt after }.happen (.answer request result)

/-- What something beside the command does to the browser. -/
def undergo (browser : Browser) : Background → Browser
  | .drive => browser.happen .drive
  | .wait milliseconds => browser.happen (.wait milliseconds)
  | .ring => browser.happen .ring
  | .retire request => browser.happen (.retire request)
  | .ask request connected => browser.ask request connected
  | .reply request reply => browser.hear request reply

end Browser

/-- What there is to read when the command gets its turn. -/
inductive Input where
  | nothing
  | line (text : String)
  /-- There are no more lines. -/
  | closed

/-- A command that browses a list. -/
inductive Sitting where
  /-- The first frame is awaited. -/
  | opening (browser : Browser)
  | under (stage : Stage)

namespace Sitting

/-- What can happen next. -/
inductive Event where
  | beside (event : Background)
  /-- The command gets its turn. -/
  | turn (input : Input)

/-- The command at its start. -/
def start (client : Client) (options : BrowseOptions) : Sitting :=
  .opening (.opened client options)

/-- A look for the first frame: nothing is decided before there is a signal or the deadline
has come. -/
def look (options : BrowseOptions) (browser : Browser) : Sitting :=
  if browser.signals.isEmpty && browser.run.binder.clock < browser.deadline then .opening browser
  else
    match browser.refusal? options.endpoint with
    | some error => .under (.finished (.error error) browser.client)
    | none =>
      .under (if options.once then .finished (.ok ()) browser.client else .browsing browser.help)

/-- A turn of a command that browses its list. With nothing to read it waits for no frame. -/
def takeTurn (stage : Stage) : Input → Stage
  | .nothing => stage.awaitFrames 0
  | .line text => stage.take text
  | .closed => .ofResult stage.endOfInput

/-- What one event does. -/
def step (options : BrowseOptions) : Sitting → Event → Sitting
  | .opening browser, .beside event => .opening (browser.undergo event)
  | .opening browser, .turn _ => look options browser
  | .under (.browsing browser), .beside event => .under (.browsing (browser.undergo event))
  | .under stage, .beside _ => .under stage
  | .under stage, .turn input => .under (takeTurn stage input)

/-- What a row of events does. -/
def run (options : BrowseOptions) (sitting : Sitting) (events : List Event) : Sitting :=
  events.foldl (step options) sitting

/-- The list that a command waits with, for its first frame or for a line. -/
def waitsWith? : Sitting → Option Browser
  | .opening browser | .under (.browsing browser) => some browser
  | .under _ => none

/-- Why a command ends whose session has ended while it waited. -/
def cause : Sitting → CommandError
  | .opening _ => .notSignedIn
  | .under _ => .sessionEnded

end Sitting

section Knowledge

variable {browser : Browser}

theorem state_foldl_paint (views : List (Table.View Value)) :
    (views.foldl Browser.paint browser).client.state = browser.client.state := by
  induction views generalizing browser with
  | nil => rfl
  | cons view views ih => exact ih

@[simp]
theorem state_happen (event : Table.Event Value) :
    (browser.happen event).client.state = browser.client.state :=
  state_foldl_paint _

/-- A request that goes out takes no notice of the session. -/
theorem standing_ask (request : RequestId) (connected : Bool) :
    (browser.ask request connected).client.state.standing = browser.client.state.standing := by
  unfold Browser.ask
  split
  · rfl
  · dsimp only
    split
    · simp
    · split <;> simp [Api.State.standing]

/-- A reply leaves the user told, and what they were told. -/
theorem told_hear (told : browser.client.state.Told) (request : RequestId) (reply : Reply) :
    (browser.hear request reply).client.state.Told ∧
      (0 < browser.client.state.signOuts →
        0 < (browser.hear request reply).client.state.signOuts) := by
  unfold Browser.hear
  split
  · exact ⟨told, id⟩
  · split
    · exact ⟨told, id⟩
    · rw [state_happen]
      obtain ⟨still, knows⟩ := Api.Call.told_settle _ _ told
      exact ⟨still, fun known => knows (.inl known)⟩

/-- The user is told of a refusal. -/
theorem signOuts_hear_pos (told : browser.client.state.Told) {request : RequestId}
    {fetch : Fetch} (asked : browser.course.fetch? request Fetch.asked = some fetch)
    {url : Address} (resolves : (browser.callOf fetch).address browser.client.settings = .ok url)
    {reply : Reply} (refused : RefusedByBackend browser.client.settings url reply) :
    0 < (browser.hear request reply).client.state.signOuts := by
  simp only [Browser.hear, asked, resolves, state_happen]
  exact (Api.Call.told_settle _ _ told).2 (.inr refused)

/-- Whatever goes on beside the command leaves the user told, and what they were told. -/
theorem told_undergo (told : browser.client.state.Told) (event : Background) :
    (browser.undergo event).client.state.Told ∧
      (0 < browser.client.state.signOuts →
        0 < (browser.undergo event).client.state.signOuts) := by
  have idle (event : Table.Event Value) : (browser.happen event).client.state.Told ∧
      (0 < browser.client.state.signOuts →
        0 < (browser.happen event).client.state.signOuts) := by
    rw [state_happen]
    exact ⟨told, id⟩
  cases event with
  | drive => exact idle _
  | wait milliseconds => exact idle _
  | ring => exact idle _
  | retire request => exact idle _
  | ask request connected =>
      obtain ⟨still, same⟩ := Api.State.told_of_standing (standing_ask request connected) told
      exact ⟨still, fun known => same ▸ known⟩
  | reply request reply => exact told_hear told request reply

/-- No line does anything to the gateway at once. -/
theorem state_take {line : String} {after : Browser} (taken : browser.take line = some after) :
    after.client.state = browser.client.state := by
  unfold Browser.take at taken
  split at taken
  case h_1 command _ =>
    cases command with
    | quit => cases taken
    | _ =>
        cases taken
        rfl
  case h_2 =>
    cases taken
    rfl
  case h_3 =>
    cases taken
    rfl

end Knowledge

namespace Sitting

variable {options : BrowseOptions} {sitting : Sitting} {cause : CommandError}

/-- A command that waits has told the user of every end of its session. -/
def Told (sitting : Sitting) : Prop :=
  ∀ browser, sitting.waitsWith? = some browser → browser.client.state.Told

theorem told_of_waits {browser : Browser} (waits : sitting.waitsWith? = some browser)
    (told : browser.client.state.Told) : sitting.Told := by
  intro other same
  rw [waits] at same
  exact Option.some.inj same ▸ told

theorem told_of_ended (ended : sitting.waitsWith? = none) : sitting.Told := by
  intro other waits
  rw [ended] at waits
  cases waits

theorem told_look {browser : Browser} (told : browser.client.state.Told) :
    (look options browser).Told := by
  unfold look
  split
  case isTrue => exact told_of_waits rfl told
  case isFalse =>
    split
    case h_1 => exact told_of_ended rfl
    case h_2 =>
      split
      case isTrue => exact told_of_ended rfl
      case isFalse => exact told_of_waits rfl told

theorem told_goOn {browser : Browser} {next : Browser → Stage}
    (told : (under (next browser)).Told) : (under (Stage.goOn browser next)).Told := by
  unfold Stage.goOn
  split
  case isTrue => exact told_of_ended rfl
  case isFalse => exact told

theorem told_takeTurn {browser : Browser} (told : browser.client.state.Told) (input : Input) :
    (under (takeTurn (.browsing browser) input)).Told := by
  cases input with
  | nothing => exact told_goOn (told_of_waits rfl told)
  | line text =>
      apply told_goOn
      split
      case h_1 after taken =>
        apply told_of_waits rfl
        rw [state_take taken]
        exact told
      case h_2 => exact told_of_ended rfl
  | closed => exact told_of_ended rfl

theorem told_step (told : sitting.Told) (event : Event) : (sitting.step options event).Told := by
  match sitting, event with
  | .opening browser, .beside event =>
      exact told_of_waits rfl (told_undergo (told browser rfl) event).1
  | .under (.browsing browser), .beside event =>
      exact told_of_waits rfl (told_undergo (told browser rfl) event).1
  | .under (.finished result client), .beside event => exact told_of_ended rfl
  | .under (.password username client), .beside event => exact told_of_ended rfl
  | .opening browser, .turn _ => exact told_look (told browser rfl)
  | .under (.browsing browser), .turn input => exact told_takeTurn (told browser rfl) input
  | .under (.finished result client), .turn input => cases input <;> exact told_of_ended rfl
  | .under (.password username client), .turn input => cases input <;> exact told_of_ended rfl

theorem told_run (told : sitting.Told) (events : List Event) :
    (sitting.run options events).Told := by
  induction events generalizing sitting with
  | nil => exact told
  | cons event events ih => exact ih (told_step told event)

end Sitting

/-- The end of the session counts more than a frame. -/
theorem refusal?_of_signedOut {browser : Browser} (signedOut : browser.client.wasSignedOut = true)
    (endpoint : String) : browser.refusal? endpoint = some .notSignedIn := by
  unfold Browser.refusal? Browser.signals
  rw [if_pos signedOut]
  by_cases painted : 0 < browser.frames
  · rw [if_pos painted]
    have order : ([0, 0] : List Nat).mergeSort (fun a b => a ≤ b) = [0, 0] :=
      List.mergeSort_of_pairwise (by decide)
    simp [waitForFrame, order, waitThrough, signalsAt, addSignal, weigh]
  · rw [if_neg painted]
    simp [waitForFrame, waitThrough, signalsAt, addSignal, weigh]

namespace Sitting

variable {options : BrowseOptions} {sitting : Sitting} {cause : CommandError}

/-- A command that is lost: its session has ended while it waits, or it has ended for that. -/
inductive Lost (cause : CommandError) : Sitting → Prop where
  | waits {sitting : Sitting} (browser : Browser) (waits : sitting.waitsWith? = some browser)
      (told : browser.client.state.Told) (known : 0 < browser.client.state.signOuts)
      (own : sitting.cause = cause) : Lost cause sitting
  | ended (client : Client) : Lost cause (.under (.finished (.error cause) client))

theorem waitsWith?_eq_some_iff {browser : Browser} :
    sitting.waitsWith? = some browser ↔
      sitting = .opening browser ∨ sitting = .under (.browsing browser) := by
  constructor
  · intro waits
    match sitting with
    | .opening other => exact .inl (congrArg opening (Option.some.inj waits))
    | .under (.browsing other) =>
        exact .inr (congrArg (fun own => under (.browsing own)) (Option.some.inj waits))
    | .under (.finished result client) => cases waits
    | .under (.password username client) => cases waits
  · rintro (rfl | rfl) <;> rfl

theorem Lost.beside (lost : Lost cause sitting) (event : Background) :
    Lost cause (sitting.step options (.beside event)) := by
  cases lost with
  | waits browser waits told known own =>
      obtain ⟨still, knows⟩ := told_undergo told event
      rcases waitsWith?_eq_some_iff.mp waits with rfl | rfl
      · exact .waits (browser.undergo event) rfl still (knows known) own
      · exact .waits (browser.undergo event) rfl still (knows known) own
  | ended client => exact .ended client

/-- The next turn of a command that is lost is its end. -/
theorem Lost.turn (options : BrowseOptions) (lost : Lost cause sitting) (input : Input) :
    ∃ client, sitting.step options (.turn input) = .under (.finished (.error cause) client) := by
  cases lost with
  | waits browser waits told known own =>
      have signedOut : browser.client.wasSignedOut = true := decide_eq_true known
      rcases waitsWith?_eq_some_iff.mp waits with rfl | rfl
      · have signals : browser.signals.isEmpty = false := by simp [Browser.signals, signedOut]
        refine ⟨browser.client, ?_⟩
        rw [← own]
        simp [step, look, signals, refusal?_of_signedOut signedOut, Sitting.cause]
      · refine ⟨browser.close.client, ?_⟩
        rw [← own]
        cases input with
        | nothing =>
            simp [step, takeTurn, Stage.awaitFrames, Browser.awaitFrames, Stage.goOn, signedOut,
              Sitting.cause]
        | line text => simp [step, takeTurn, Stage.take, Stage.goOn, signedOut, Sitting.cause]
        | closed => simp [step, takeTurn, Stage.ofResult, Stage.endOfInput, signedOut, Sitting.cause]
  | ended client => exact ⟨client, by cases input <;> rfl⟩

/-- A command that has ended stays so. -/
theorem run_finished (result : CommandResult) (client : Client) (events : List Event) :
    run options (.under (.finished result client)) events =
      .under (.finished result client) := by
  induction events with
  | nil => rfl
  | cons event events ih =>
      match event with
      | .beside _ => exact ih
      | .turn .nothing => exact ih
      | .turn (.line text) => exact ih
      | .turn .closed => exact ih

/-- After some events a command has ended for the cause, or it still waits and has not got its
turn. -/
def EndsFor (cause : CommandError) (events : List Event) (after : Sitting) : Prop :=
  (∃ client, after = .under (.finished (.error cause) client)) ∨
    ((∃ browser, after.waitsWith? = some browser) ∧
      ∀ event ∈ events, ∃ background, event = .beside background)

theorem Lost.run (lost : Lost cause sitting) (events : List Event) :
    EndsFor cause events (sitting.run options events) := by
  induction events generalizing sitting with
  | nil =>
      cases lost with
      | waits browser waits _ _ _ => exact .inr ⟨⟨browser, waits⟩, nofun⟩
      | ended client => exact .inl ⟨client, rfl⟩
  | cons event events ih =>
      cases event with
      | beside background =>
          refine (ih (lost.beside background)).imp_right fun ⟨still, rest⟩ => ⟨still, ?_⟩
          exact List.forall_mem_cons.mpr ⟨⟨background, rfl⟩, rest⟩
      | turn input =>
          obtain ⟨client, ended⟩ := lost.turn options input
          refine .inl ⟨client, ?_⟩
          rw [Sitting.run, List.foldl_cons, ended]
          exact run_finished _ client events

/-- The backend's refusal of a page ends a command that waits, for its first frame or for a
line: whatever goes on beside it, its next turn is its end. -/
theorem endsFor_of_refused {client : Client} (latch : client.state.latchClosed = false)
    (before : List Event) {browser : Browser}
    (waits : ((start client options).run options before).waitsWith? = some browser)
    {request : RequestId} {fetch : Fetch}
    (asked : browser.course.fetch? request Fetch.asked = some fetch) {url : Address}
    (resolves : (browser.callOf fetch).address browser.client.settings = .ok url) {reply : Reply}
    (refused : RefusedByBackend browser.client.settings url reply) (later : List Event) :
    let sitting := (start client options).run options before
    EndsFor sitting.cause later
      ((sitting.step options (.beside (.reply request reply))).run options later) := by
  intro sitting
  have fresh : (start client options).Told := by
    refine told_of_waits rfl fun closed => ?_
    have same : client.state.latchClosed = true := closed
    rw [latch] at same
    cases same
  have told : browser.client.state.Told := told_run fresh before browser waits
  have known := signOuts_hear_pos told asked resolves refused
  obtain ⟨still, _⟩ := told_hear told request reply
  apply Lost.run
  change sitting.waitsWith? = some browser at waits
  generalize sitting = waiting at waits
  rcases waitsWith?_eq_some_iff.mp waits with rfl | rfl
  · exact .waits (browser.hear request reply) rfl still known rfl
  · exact .waits (browser.hear request reply) rfl still known rfl

end Sitting

end UtilityBilling.Console
