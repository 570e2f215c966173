/-
# Invocations

What a user can ask of the client on the command line: to sign in or out, to see
where it stands, to browse a list, to follow a task, or to start a job and follow
it. Everywhere one may say where the backend is, which file keeps the session, how
long a request may take, and where the log goes.
-/

import UtilityBilling.Console.Usage
import UtilityBilling.Log.Destination

namespace UtilityBilling.Console

/-- How a task is followed. -/
structure PollOptions where
  intervalSeconds : UInt64 := 2
  maxAttempts : UInt32 := 150
  downloadDirectory : Option String := none
  deriving DecidableEq, Repr

/-- How a list is browsed. -/
structure BrowseOptions where
  endpoint : String
  page : UInt32 := 1
  limit : UInt32 := 20
  search : String := ""
  sortField : Option String := none
  descending : Bool := false
  filters : List (String × String) := []
  columns : List String := []
  once : Bool := false
  deriving DecidableEq, Repr

/-- What is asked of the client. -/
inductive Order where
  | login (username : String) (password : Option String)
  | logout
  | status
  | browse (options : BrowseOptions)
  | task (taskId : String) (poll : PollOptions)
  | run (endpoint : String) (parameters : List (String × String)) (poll : PollOptions)
  deriving DecidableEq, Repr

/-- A command line, read. -/
structure Invocation where
  baseUrl : String := "http://127.0.0.1:8000/api"
  sessionFile : String := ".billing_session.ron"
  timeoutSeconds : UInt64 := 30
  logFile : String := "billing.log"
  logToTerminal : Bool := false
  noLogFile : Bool := false
  verbosity : Nat := 0
  order : Order
  deriving DecidableEq, Repr

/-- Where the log of an invocation goes, if anywhere. -/
def Invocation.log (invocation : Invocation) : Option Log.Destination :=
  match invocation.logToTerminal, invocation.noLogFile with
  | false, false => some (.file invocation.logFile)
  | true, false => some (.both invocation.logFile)
  | true, true => some .terminal
  | false, true => none

/-- The options that hold at every level. -/
def commonSwitches : List Switch :=
  [ { name := "base-url", action := .set .text, environmentName := some "BILLING_API_URL" },
    { name := "session-file", action := .set .path
      environmentName := some "BILLING_SESSION_FILE" },
    { name := "timeout-secs", action := .set .number64 },
    { name := "log-file", action := .set .path },
    { name := "log-to-terminal", action := .flag },
    { name := "no-log-file", action := .flag },
    { name := "verbose", letter := some 'v', action := .count },
    { name := "help", letter := some 'h', action := .help } ]

/-- The outer level. -/
def outerLevel : Level :=
  { switches := commonSwitches ++
      [{ name := "version", letter := some 'V', action := .version }]
    commands := ["login", "logout", "status", "browse", "task", "run", helpCommand] }

/-- The options for following a task. -/
def pollSwitches : List Switch :=
  [ { name := "interval-secs", action := .set .number64 },
    { name := "max-attempts", action := .set .number32 },
    { name := "download-dir", action := .set .path } ]

/-- The level under a command. -/
def innerLevel (command : String) : Level :=
  if command = "login" then
    { switches :=
        [ { name := "username", letter := some 'u', action := .set .text },
          { name := "password", letter := some 'p', action := .set .text
            environmentName := some "BILLING_PASSWORD" } ] ++ commonSwitches
      required := ["username"] }
  else if command = "browse" then
    { switches :=
        [ { name := "page", action := .set .number32 },
          { name := "limit", action := .set .number32 },
          { name := "search", action := .set .text },
          { name := "sort-by", action := .set .text },
          { name := "desc", action := .flag },
          { name := "filter", action := .append .pair none },
          { name := "columns", action := .append .text (some ',') },
          { name := "once", action := .flag } ] ++ commonSwitches
      free := some "endpoint"
      required := ["endpoint"]
      needs := [("desc", "sort-by")] }
  else if command = "task" then
    { switches := pollSwitches ++ commonSwitches
      free := some "task-id"
      required := ["task-id"] }
  else if command = "run" then
    { switches :=
        { name := "param", action := .append .pair none } :: (pollSwitches ++ commonSwitches)
      free := some "endpoint"
      required := ["endpoint"] }
  else { switches := commonSwitches }

namespace Givens

/-- The values under a name. -/
def values (givens : Givens) (name : String) : List String :=
  ((givens.find? name).map Given.values).getD []

/-- The value under a name. -/
def value? (givens : Givens) (name : String) : Option String :=
  (givens.values name).head?

/-- Whether a flag is given. -/
def has (givens : Givens) (name : String) : Bool :=
  (givens.find? name).isSome

/-- The number under a name, with a default. -/
def number32 (givens : Givens) (name : String) (fallback : UInt32) : UInt32 :=
  match (givens.value? name).map number32? with
  | some (.ok n) => n
  | _ => fallback

/-- The pairs under a name. -/
def pairs (givens : Givens) (name : String) : List (String × String) :=
  (givens.values name).filterMap fun text => (pair? text).toOption

end Givens

/-- The number in a value, with a default. -/
def number64Or (fallback : UInt64) (value : Option String) : UInt64 :=
  match value.map number64? with
  | some (.ok n) => n
  | _ => fallback

/-- The options for following a task. -/
def pollOptions (givens : Givens) : PollOptions :=
  { intervalSeconds := number64Or 2 (givens.value? "interval-secs")
    maxAttempts := givens.number32 "max-attempts" 150
    downloadDirectory := givens.value? "download-dir" }

/-- What is asked under a command. -/
def orderOf (command : String) (givens : Givens) : Order :=
  if command = "login" then
    .login ((givens.value? "username").getD "") (givens.value? "password")
  else if command = "logout" then .logout
  else if command = "browse" then
    .browse
      { endpoint := (givens.value? "endpoint").getD ""
        page := givens.number32 "page" 1
        limit := givens.number32 "limit" 20
        search := (givens.value? "search").getD ""
        sortField := givens.value? "sort-by"
        descending := givens.has "desc"
        filters := givens.pairs "filter"
        columns := givens.values "columns"
        once := givens.has "once" }
  else if command = "task" then
    .task ((givens.value? "task-id").getD "") (pollOptions givens)
  else if command = "run" then
    .run ((givens.value? "endpoint").getD "") (givens.pairs "param") (pollOptions givens)
  else .status

/-- What a command line asks for. -/
def invocationOf (line : CommandLine) : Invocation :=
  let value? (name : String) : Option String := (line.everywhere name).bind List.head?
  let has (name : String) : Bool := (line.everywhere name).isSome
  { baseUrl := (value? "base-url").getD "http://127.0.0.1:8000/api"
    sessionFile := (value? "session-file").getD ".billing_session.ron"
    timeoutSeconds := number64Or 30 (value? "timeout-secs")
    logFile := (value? "log-file").getD "billing.log"
    logToTerminal := has "log-to-terminal"
    noLogFile := has "no-log-file"
    verbosity := countOf ((line.everywhere "verbose").getD [])
    order := orderOf line.command line.inner }

/-- Reads the words of a command line. -/
def readInvocation (environment : List (String × String)) (words : List String) :
    Except UsageError Invocation :=
  (readCommandLine outerLevel innerLevel environment words).map invocationOf

end UtilityBilling.Console
