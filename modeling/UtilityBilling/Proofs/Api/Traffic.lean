/-
# Traffic through a gateway

Requests go out one after the other and are answered in any order, any time later; in
between there are sign-ins and sign-outs. Here each of them is one step: a request goes
out with the credential of that moment, and the reply to it is dealt with at once, by the
call that sent it. A call without a pause between request and reply is the whole call.
-/

import UtilityBilling.Proofs.Api.Call

namespace UtilityBilling.Api

open UtilityBilling.Files (Volume)
open UtilityBilling.Session (Instant)
open UtilityBilling.Url (Address)

/-- A call whose request is out. -/
structure Pending where
  {α : Type}
  call : Call α
  url : Address

/-- A gateway with the calls and the sign-ins whose requests are out. -/
structure Traffic where
  state : State
  calls : List Pending := []
  logins : List Address := []

namespace Traffic

/-- What can happen next. -/
inductive Event where
  /-- Somebody makes a call; there may be no connection. -/
  | send {α : Type} (call : Call α) (connected : Bool)
  /-- The reply to the request of a call comes. -/
  | reply (index : Nat) (reply : Reply)
  | sendLogin (username password : String) (connected : Bool)
  | replyLogin (index : Nat) (reply : Reply)
  | signOut
  /-- Files change, or time passes. -/
  | outside (volume : Volume) (now : Instant)

/-- What comes of an event. -/
inductive Deed where
  | nothing
  /-- A call or a sign-in fails before its request is out. -/
  | failed (error : Error)
  | sent (request : Request)
  /-- A call returns after the reply to its request. -/
  | returned (url : Address) (reply : Reply) (kind? : Option ErrorKind)
  | signedIn
  | loginFailed (error : Error)
  | signedOut

/-- A new gateway, with whatever credential there was. -/
def start (credentials : CredentialStore) (volume : Volume) (now : Instant) : Traffic where
  state := { credentials := credentials, volume := volume, now := now }

/-- What keeps a request from going out. -/
def obstacle? (request : Request) (connected : Bool) : Option Failure :=
  request.fault? <|> if connected then none else some .unreachable

/-- Puts a request on the line; if it goes out, somebody waits for the reply. -/
def launch (traffic waiting : Traffic) (request : Request) (connected : Bool) :
    Deed × Traffic :=
  match obstacle? request connected with
  | some failure => (.failed (failure.error request.url), traffic)
  | none =>
    (.sent request,
      { waiting with state := { traffic.state with sent := traffic.state.sent ++ [request] } })

/-- The request of a call goes out, with the credential of that moment. -/
def sendCall {α : Type} (settings : Settings) (traffic : Traffic) (call : Call α)
    (connected : Bool) : Deed × Traffic :=
  match call.address settings with
  | .error error => (.failed error, traffic)
  | .ok url =>
    traffic.launch { traffic with calls := traffic.calls ++ [⟨call, url⟩] }
      (call.outgoing settings traffic.state url) connected

/-- A call deals with the reply to its request and returns. -/
def settleCall (settings : Settings) (traffic : Traffic) (index : Nat) (reply : Reply) :
    Deed × Traffic :=
  match traffic.calls[index]? with
  | none => (.nothing, traffic)
  | some pending =>
    let (result, after) := pending.call.settle settings traffic.state pending.url reply
    (.returned pending.url reply (failureKind? result),
      { traffic with state := after, calls := traffic.calls.eraseIdx index })

/-- The request of a sign-in goes out. -/
def sendLogin (settings : Settings) (traffic : Traffic) (username password : String)
    (connected : Bool) : Deed × Traffic :=
  match settings.endpointUrl settings.loginPath [] with
  | .error error => (.failed error, traffic)
  | .ok url =>
    traffic.launch { traffic with logins := traffic.logins ++ [url] }
      (.postJson url (loginBody username password)) connected

/-- A sign-in deals with the reply to its request. -/
def settleLogin (traffic : Traffic) (index : Nat) (reply : Reply) : Deed × Traffic :=
  match traffic.logins[index]? with
  | none => (.nothing, traffic)
  | some url =>
    let left := traffic.logins.eraseIdx index
    match receiveLogin traffic.state url reply with
    | (.ok (), after) => (.signedIn, { traffic with state := after, logins := left })
    | (.error error, after) =>
      (.loginFailed error, { traffic with state := after, logins := left })

/-- What comes of an event, and what is left after it. -/
def react (settings : Settings) (traffic : Traffic) : Event → Deed × Traffic
  | .send call connected => traffic.sendCall settings call connected
  | .reply index reply => traffic.settleCall settings index reply
  | .sendLogin username password connected =>
    traffic.sendLogin settings username password connected
  | .replyLogin index reply => traffic.settleLogin index reply
  | .signOut => (.signedOut, { traffic with state := traffic.state.signOut })
  | .outside volume now =>
    (.nothing, { traffic with state := { traffic.state with volume := volume, now := now } })

/-- What is left after an event. -/
def step (settings : Settings) (traffic : Traffic) (event : Event) : Traffic :=
  (traffic.react settings event).2

/-- What is left after a row of events. -/
def run (settings : Settings) (traffic : Traffic) (events : List Event) : Traffic :=
  events.foldl (step settings) traffic

/-- What comes of a row of events, one after the other. -/
def deeds (settings : Settings) (traffic : Traffic) : List Event → List Deed
  | [] => []
  | event :: events =>
    (traffic.react settings event).1 :: deeds settings (traffic.step settings event) events

@[simp]
theorem run_nil (settings : Settings) (traffic : Traffic) : traffic.run settings [] = traffic :=
  rfl

@[simp]
theorem run_cons (settings : Settings) (traffic : Traffic) (event : Event)
    (events : List Event) :
    traffic.run settings (event :: events) =
      (traffic.step settings event).run settings events := rfl

variable {α : Type} {settings : Settings} {line : Line} {call : Call α} {url : Address}

/-- A request and its reply without a pause make up a whole call. -/
theorem perform_eq_react (traffic : Traffic) (resolves : call.address settings = .ok url)
    (out : GoesOut line traffic.state (call.outgoing settings traffic.state url)) :
    let reply := line traffic.state.sent (call.outgoing settings traffic.state url)
    let waiting := traffic.step settings (.send call true)
    let performed := call.perform settings line traffic.state
    waiting.react settings (.reply traffic.calls.length reply) =
      (.returned url reply (failureKind? performed.1), { traffic with state := performed.2 }) := by
  intro reply waiting performed
  have clear : obstacle? (call.outgoing settings traffic.state url) true = none := by
    simp [obstacle?, out.1]
  have waits : waiting =
      { traffic with
        state :=
          { traffic.state with
            sent := traffic.state.sent ++ [call.outgoing settings traffic.state url] }
        calls := traffic.calls ++ [⟨call, url⟩] } := by
    simp only [waiting, step, react, sendCall, resolves, launch, clear]
  have whole : performed = call.settle settings waiting.state url reply := by
    simp only [performed]
    rw [call.perform_eq line traffic.state resolves, exchange_of_goesOut out, waits]
  rw [whole, waits]
  simp only [react, settleCall, List.getElem?_concat_length]
  rw [List.eraseIdx_append_of_length_le (Nat.le_refl _), Nat.sub_self, List.eraseIdx_cons_zero,
    List.append_nil]

/-- A call whose address does not resolve fails the same way at once. -/
theorem react_of_unresolved {error : Error} (line : Line) (traffic : Traffic)
    (connected : Bool) (unresolved : call.address settings = .error error) :
    call.perform settings line traffic.state = (.error error, traffic.state) ∧
      traffic.react settings (.send call connected) = (.failed error, traffic) := by
  refine ⟨call.perform_of_unresolved line traffic.state unresolved, ?_⟩
  simp only [react, sendCall, unresolved]

/-- A call whose request does not go out fails the same way at once. -/
theorem react_of_not_goesOut (traffic : Traffic) (resolves : call.address settings = .ok url)
    (kept : ¬ GoesOut line traffic.state (call.outgoing settings traffic.state url)) :
    ∃ error, call.perform settings line traffic.state = (.error error, traffic.state) ∧
      traffic.react settings (.send call false) = (.failed error, traffic) := by
  let request := call.outgoing settings traffic.state url
  let failure := request.fault?.getD .unreachable
  have obstacle : obstacle? request false = some failure := by
    unfold obstacle? failure
    cases request.fault? <;> rfl
  refine ⟨failure.error url, ?_, ?_⟩
  · rw [call.perform_eq line traffic.state resolves, exchange_of_not_goesOut kept]
    rfl
  · change obstacle? (call.outgoing settings traffic.state url) false = some failure at obstacle
    simp only [react, sendCall, resolves, launch, obstacle, call.url_outgoing]

/-- What an event does to the state of a gateway, told by what comes of it. -/
inductive Change (settings : Settings) (before after : State) : Deed → Prop where
  | rests (standing : after.standing = before.standing) (sent : after.sent = before.sent) :
      Change settings before after .nothing
  | fails {error : Error} (kind : error.kind ≠ .unauthorized) (same : after = before) :
      Change settings before after (.failed error)
  | sends {request : Request}
      (bare : before.credentials.token = none → request.authorization = none)
      (same : after = { before with sent := before.sent ++ [request] }) :
      Change settings before after (.sent request)
  | expires {url : Address} {reply : Reply} (refused : RefusedByBackend settings url reply)
      (ended : after = before.expireSession) :
      Change settings before after (.returned url reply (some .unauthorized))
  | settles {url : Address} {reply : Reply} {kind? : Option ErrorKind}
      (other : ¬ RefusedByBackend settings url reply) (kind : kind? ≠ some .unauthorized)
      (standing : after.standing = before.standing) (sent : after.sent = before.sent) :
      Change settings before after (.returned url reply kind?)
  | signsIn {token : String} (started : after = before.signIn token) :
      Change settings before after .signedIn
  | refuses {error : Error} (same : after = before) :
      Change settings before after (.loginFailed error)
  | signsOut (ended : after = before.signOut) : Change settings before after .signedOut

variable {traffic waiting : Traffic}

/-- A request goes out or fails. -/
theorem launch_changes {request : Request} (connected : Bool)
    (bare : traffic.state.credentials.token = none → request.authorization = none) :
    Change settings traffic.state (traffic.launch waiting request connected).2.state
      (traffic.launch waiting request connected).1 := by
  unfold launch
  cases obstacle? request connected with
  | some failure => exact .fails (kind_failure failure request.url).1 rfl
  | none => exact .sends bare rfl

theorem sendCall_changes (traffic : Traffic) (call : Call α) (connected : Bool) :
    Change settings traffic.state (traffic.sendCall settings call connected).2.state
      (traffic.sendCall settings call connected).1 := by
  unfold sendCall
  cases resolves : call.address settings with
  | error error =>
      have kind : error.kind ≠ .unauthorized := by
        rw [call.kind_address resolves]
        simp
      exact .fails kind rfl
  | ok url =>
      apply launch_changes
      intro empty
      rw [Call.outgoing, authorized_of_none _ empty]
      exact call.authorization_request url

theorem settleCall_changes (traffic : Traffic) (index : Nat) (reply : Reply) :
    Change settings traffic.state (traffic.settleCall settings index reply).2.state
      (traffic.settleCall settings index reply).1 := by
  unfold settleCall
  cases traffic.calls[index]? with
  | none => exact .rests rfl rfl
  | some pending =>
      obtain ⟨call, url⟩ := pending
      by_cases refused : RefusedByBackend settings url reply
      · dsimp only
        rw [call.settle_of_refused traffic.state refused]
        exact .expires refused rfl
      · apply Change.settles refused
        · intro kind
          exact refused ((call.kind_settle_iff traffic.state).mp kind)
        · exact call.standing_settle traffic.state refused
        · exact call.sent_settle traffic.state

theorem sendLogin_changes (traffic : Traffic) (username password : String) (connected : Bool) :
    Change settings traffic.state
      (traffic.sendLogin settings username password connected).2.state
      (traffic.sendLogin settings username password connected).1 := by
  unfold sendLogin
  cases resolves : settings.endpointUrl settings.loginPath [] with
  | error error =>
      have kind : error.kind ≠ .unauthorized := by
        rw [Call.kind_endpointUrl resolves]
        simp
      exact .fails kind rfl
  | ok url =>
      apply launch_changes
      intro _
      rfl

theorem settleLogin_changes (traffic : Traffic) (index : Nat) (reply : Reply) :
    Change settings traffic.state (traffic.settleLogin index reply).2.state
      (traffic.settleLogin index reply).1 := by
  unfold settleLogin
  cases traffic.logins[index]? with
  | none => exact .rests rfl rfl
  | some url =>
      dsimp only
      rw [receiveLogin_eq]
      cases loginToken url reply with
      | ok token => exact .signsIn rfl
      | error error => exact .refuses rfl

/-- Every event does what comes of it. -/
theorem react_changes (settings : Settings) (traffic : Traffic) (event : Event) :
    Change settings traffic.state (traffic.step settings event).state
      (traffic.react settings event).1 := by
  cases event with
  | send call connected => exact traffic.sendCall_changes call connected
  | reply index reply => exact traffic.settleCall_changes index reply
  | sendLogin username password connected =>
      exact traffic.sendLogin_changes username password connected
  | replyLogin index reply => exact traffic.settleLogin_changes index reply
  | signOut => exact .signsOut rfl
  | outside volume now => exact .rests rfl rfl

end Traffic

end UtilityBilling.Api
