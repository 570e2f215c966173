/-
# Browsing a list

A browser shows a list page by page. It paints each frame of its table below the one
before and takes commands line by line; a command changes the table, and what comes
of it is painted when the browser goes on. A session that ends while a line is
awaited ends the browsing.
-/

import UtilityBilling.Console.Client
import UtilityBilling.Console.FirstFrame
import UtilityBilling.Console.Invocation
import UtilityBilling.Console.Prompt
import UtilityBilling.Grid.Frame
import UtilityBilling.Table.Timeline

namespace UtilityBilling.Console

open UtilityBilling.Json (Value)

/-- A list endpoint of a backend. What the gateway logs goes with its answer. -/
def listSource (settings : Api.Settings) (line : Api.Line) (endpoint : String) :
    Table.Source Api.State Value :=
  fun state parameters =>
    let (result, after) :=
      Api.fetchPage settings line { state with log := [] } endpoint parameters
    ({ result := result, log := after.log }, { after with log := [] })

/-- The table that a user wants to browse. -/
def BrowseOptions.config (options : BrowseOptions) : Table.Config :=
  { page := max options.page 1
    limit := max options.limit 1
    search := options.search
    sortField := options.sortField
    sortDirection := if options.descending then .descending else .ascending }

/-- A list that is being browsed. -/
structure Browser where
  client : Client
  run : Table.Timeline Api.State Value
  surface : Grid.Surface
  /-- How many frames were painted. -/
  frames : Nat := 0

namespace Browser

/-- Paints a frame. -/
def paint (browser : Browser) (view : Table.View Value) : Browser :=
  let (surface, printed) := browser.surface.paint view.frame
  { browser with
    surface := surface
    client := { browser.client with output := browser.client.output ++ printed }
    frames := browser.frames + 1 }

/-- Paints what was seen, if it is a frame. -/
def showSight (browser : Browser) : Table.Sight Value → Browser
  | .painted view => browser.paint view
  | .asked _ => browser

/-- Shows what has come of the table since the last time. -/
def catchUp (browser : Browser) : Browser :=
  let shown := browser.run.seen.foldl (fun held (_, sight) => held.showSight sight) browser
  let log := shown.client.state.log ++ shown.run.binder.log
  { shown with
    client := shown.client.adopt { shown.run.world with log := log }
    run := { shown.run with seen := [], binder := { shown.run.binder with log := [] } } }

/-- Starts to browse. -/
def start (client : Client) (options : BrowseOptions) : Browser :=
  let binder : Table.Binder Value := .start options.endpoint options.config options.filters
  catchUp
    { client := client
      run := .start binder (listSource client.settings client.line options.endpoint)
        { client.state with log := [] }
      surface := { columns := options.columns } }

/-- Does all that is ready. -/
def settle (browser : Browser) : Browser :=
  { browser with run := browser.run.settle }.catchUp

/-- Lets time pass. -/
def advance (browser : Browser) (milliseconds : Nat) : Browser :=
  { browser with run := browser.run.advance milliseconds }.catchUp

/-- Lets time pass until something holds or nothing more is to come. -/
def waitFor (enough : Browser → Bool) : Nat → Browser → Browser
  | 0, browser => browser
  | fuel + 1, browser =>
    if enough browser then browser
    else
      match browser.run.nextDue with
      | none => browser
      | some due =>
        waitFor enough fuel (browser.advance (due - browser.run.binder.clock))

/-- Does all that is ready and lets time pass until something holds or nothing more is
to come. Besides the answers on their way only the delayed search is due some time. -/
def waitUntil (enough : Browser → Bool) (browser : Browser) : Browser :=
  let settled := browser.settle
  waitFor enough (settled.run.arrivals.length + 2) settled

/-- Waits until a number of frames was painted, if they come. -/
def awaitFrames (browser : Browser) (frames : Nat) : Browser :=
  if frames ≤ browser.frames then browser
  else browser.waitUntil fun later => frames ≤ later.frames

/-- Waits until nothing more is to come. -/
def rest (browser : Browser) : Browser :=
  browser.waitUntil fun _ => false

/-- What the wait for the first frame learns, at once. -/
def signals (browser : Browser) : List (Nat × Signal) :=
  (if browser.client.wasSignedOut then [(0, .sessionEnded)] else []) ++
    (if 0 < browser.frames then [(0, .painted)] else [])

/-- How long the first frame may take, in milliseconds: five seconds longer than a
request. -/
def deadline (browser : Browser) : Nat :=
  1000 * (browser.client.settings.requestTimeout + 5)

/-- Why the list cannot be browsed, if it cannot. -/
def refusal? (browser : Browser) (endpoint : String) : Option CommandError :=
  match (waitForFrame browser.deadline browser.signals).1 with
  | .painted => none
  | .sessionEnded => some .notSignedIn
  | .timedOut => some (.noResponse endpoint)

/-- Sends a message to the table. -/
def send (browser : Browser) (message : Table.Message Value) : Browser :=
  { browser with run := browser.run.send message }

/-- Shows the commands. -/
def help (browser : Browser) : Browser :=
  { browser with client := browser.client.say helpText }

/-- Lets go of the table. -/
def close (browser : Browser) : Browser :=
  { browser with run := browser.run.stop }

/-- Carries out a command; nothing if it ends the browsing. -/
def obey (browser : Browser) : Command → Option Browser
  | .page delta => some (browser.send (.pageMoved delta))
  | .search text => some (browser.send (.searchTyped text))
  | .sort field => some (browser.send (.sortClicked field))
  | .limit size => some (browser.send (.limitChanged size))
  | .refresh => some (browser.send .refresh)
  | .help => some browser.help
  | .quit => none

/-- Takes a typed line; nothing if it ends the browsing. -/
def take (browser : Browser) (line : String) : Option Browser :=
  match readCommand line with
  | .ok (some command) => browser.obey command
  | .ok none => some browser
  | .error error =>
    some { browser with client := browser.client.notify (error.message ++ "\n") }

end Browser

end UtilityBilling.Console
