/-
# Only typed text is searched for

Every typed text is given a ticket, and a ticket that is used up is replaced by a fresh one, so
that the tickets of a table are numbers in a row. A ticket waits from the turn in which its text
is typed until another text is typed or it is used up. An elapsed ticket that waits moves its
text into the query, once. While none waits, the table rests at a number that it has given to
nobody: whoever presents this number is served as well, and searches for nothing at all. Nobody
does who presents only tickets that were handed out.
-/

import UtilityBilling.Proofs.History
import UtilityBilling.Proofs.Table.Steering
import UtilityBilling.Proofs.Table.Watch

namespace UtilityBilling.Table

variable {α : Type}

/-! ## Tickets of a turn -/

/-- The text that a move types. -/
def Move.text? : Move α → Option String
  | .give message => message.text?
  | .look => none

/-- The ticket that elapses in a move. -/
def Move.ticket? : Move α → Option Ticket
  | .give message => message.ticket?
  | .look => none

namespace Turn

/-- The tickets that a turn hands out. -/
def tickets (turn : Turn α) : List Ticket :=
  (turn.effects.filterMap Effect.delay?).map Prod.fst

/-- The ticket that a turn uses up: it has elapsed, and that had an effect. -/
def used? (turn : Turn α) : Option Ticket :=
  match turn.move with
  | .give (.delayElapsed ticket) => if turn.effects = [] then none else some ticket
  | _ => none

/-- What a turn does with tickets: it hands one out for a typed text, it uses the present one
up, or it has nothing to do with them. -/
inductive Handles (turn : Turn α) : Prop where
  | types {text : String} (move : turn.move = .give (.searchTyped text))
      (after : turn.after = (turn.before.armSearch text).1)
      (tickets : turn.tickets = [⟨turn.before.ticket.value + 1⟩]) (used : turn.used? = none)
  | uses (after : turn.after = turn.before.settleSearch.beginLoad.1)
      (text : turn.move.text? = none) (tickets : turn.tickets = [])
      (used : turn.used? = some turn.before.ticket)
  | keeps (ticket : turn.after.ticket = turn.before.ticket)
      (pending : turn.after.pendingSearch = turn.before.pendingSearch)
      (search : turn.after.query.search = turn.before.query.search)
      (text : turn.move.text? = none) (tickets : turn.tickets = []) (used : turn.used? = none)

theorem tickets_eq_nil {turn : Turn α}
    (noDelay : ∀ effect ∈ turn.effects, ∀ ticket milliseconds,
      effect ≠ .delay ticket milliseconds) : turn.tickets = [] := by
  rw [tickets, List.map_eq_nil_iff, List.filterMap_eq_nil_iff]
  intro effect member
  cases effect with
  | delay ticket milliseconds => exact absurd rfl (noDelay _ member _ _)
  | _ => rfl

theorem used?_of_noTicket {before : State α} {message : Message α}
    (noTicket : message.ticket? = none) :
    (⟨before, .give message⟩ : Turn α).used? = none := by
  cases message <;> first | rfl | cases noTicket

/-- An elapsed ticket is used up if it is the present one, and changes nothing otherwise. -/
theorem handles_elapsed (before : State α) (ticket : Ticket) :
    (⟨before, .give (.delayElapsed ticket)⟩ : Turn α).Handles := by
  -- The turn is kept closed, so that its parts are rewritten and not unfolded.
  generalize given : (⟨before, .give (.delayElapsed ticket)⟩ : Turn α) = turn
  have meets : turn.before = before := by rw [← given]
  have update : before.play turn.move =
      if ticket = before.ticket then before.settleSearch.beginLoad
      else (before, []) := by rw [← given]; rfl
  have used : turn.used? = if turn.effects = [] then none else some ticket := by
    rw [← given]; rfl
  have noText : turn.move.text? = none := by rw [← given]; rfl
  rw [← meets] at update
  split at update
  case isTrue current =>
    have effects : turn.effects = turn.before.settleSearch.beginLoad.2 :=
      congrArg Prod.snd update
    have loads : turn.effects ≠ [] := by
      intro nothing
      have issued := loadsOf_beginLoad turn.before.settleSearch
      rw [← effects, nothing] at issued
      cases issued
    refine .uses (congrArg Prod.fst update) noText (tickets_eq_nil ?_) ?_
    · rw [effects]
      exact State.no_delay_beginLoad _
    · rw [used, if_neg loads, current, meets]
  case isFalse stale =>
    have after : turn.after = turn.before := congrArg Prod.fst update
    have effects : turn.effects = [] := congrArg Prod.snd update
    refine .keeps ?_ ?_ ?_ noText (tickets_eq_nil ?_) ?_
    · rw [after]
    · rw [after]
    · rw [after]
    · rw [effects]
      nofun
    · rw [used, if_pos effects]

/-- Every turn does one of the three things. -/
theorem handles (turn : Turn α) : turn.Handles := by
  obtain ⟨before, move⟩ := turn
  cases move with
  | look => exact .keeps rfl rfl rfl rfl rfl rfl
  | give message =>
      cases text : message.text? with
      | some text =>
          cases message <;> cases text
          exact .types rfl rfl rfl rfl
      | none =>
          cases elapsed : message.ticket? with
          | none =>
              have kept := before.update_keepsSearch text elapsed
              exact .keeps kept.ticket kept.pending kept.search text (tickets_eq_nil kept.effects)
                (used?_of_noTicket elapsed)
          | some ticket =>
              cases message <;> cases elapsed
              exact handles_elapsed before ticket

end Turn

/-! ## Tickets of turns -/

section Turns

variable (turns : List (Turn α)) (turn : Turn α)

/-- The texts that are typed in some turns, in order. -/
def typedIn : List String :=
  turns.filterMap fun turn => turn.move.text?

/-- The tickets that are handed out in some turns, in order. -/
def ticketsIn : List Ticket :=
  turns.flatMap Turn.tickets

/-- The tickets that are used up in some turns, in order. -/
def usedIn : List Ticket :=
  turns.filterMap Turn.used?

/-- How many tickets are handed out or used up in some turns. -/
def ticketCount : Nat :=
  (ticketsIn turns).length + (usedIn turns).length

theorem typedIn_concat : typedIn (turns ++ [turn]) = typedIn turns ++ turn.move.text?.toList := by
  cases text : turn.move.text? <;> simp [typedIn, text]

theorem ticketsIn_concat : ticketsIn (turns ++ [turn]) = ticketsIn turns ++ turn.tickets := by
  simp [ticketsIn]

theorem ticketCount_concat :
    ticketCount (turns ++ [turn]) =
      ticketCount turns + turn.tickets.length + turn.used?.toList.length := by
  have used : usedIn (turns ++ [turn]) = usedIn turns ++ turn.used?.toList := by
    cases used : turn.used? <;> simp [usedIn, used]
  rw [ticketCount, ticketCount, ticketsIn_concat, used, List.length_append, List.length_append]
  omega

end Turns

/-- A ticket waits with a text: it was handed out when the text was typed, none has been handed
out since, and it has not been used up since. -/
def Awaits (turns : List (Turn α)) (ticket : Ticket) (text : String) : Prop :=
  ∃ earlier typing later, turns = earlier ++ typing :: later ∧
    typing.move = .give (.searchTyped text) ∧ ticket ∈ typing.tickets ∧
    ∀ turn ∈ later, turn.tickets = [] ∧ turn.used? ≠ some ticket

theorem not_awaits_nil (ticket : Ticket) (text : String) :
    ¬Awaits ([] : List (Turn α)) ticket text := by
  rintro ⟨earlier, typing, later, split, _⟩
  simp at split

theorem awaits_concat {turns : List (Turn α)} {turn : Turn α} {ticket : Ticket} {text : String} :
    Awaits (turns ++ [turn]) ticket text ↔
      (turn.move = .give (.searchTyped text) ∧ ticket ∈ turn.tickets) ∨
        (Awaits turns ticket text ∧ turn.tickets = [] ∧ turn.used? ≠ some ticket) := by
  constructor
  · rintro ⟨earlier, typing, later, split, typed, handed, since⟩
    obtain rfl | ⟨before, last, rfl⟩ := List.eq_nil_or_concat later
    · obtain ⟨rfl, same⟩ := List.append_inj' split rfl
      cases same
      exact .inl ⟨typed, handed⟩
    · rw [List.concat_eq_append, ← List.cons_append, ← List.append_assoc] at split
      obtain ⟨rfl, same⟩ := List.append_inj' split rfl
      cases same
      rw [List.concat_eq_append, List.forall_mem_append, List.forall_mem_singleton] at since
      exact .inr ⟨⟨earlier, typing, before, rfl, typed, handed, since.1⟩, since.2⟩
  · rintro (⟨typed, handed⟩ | ⟨⟨earlier, typing, later, rfl, typed, handed, since⟩, noTicket, used⟩)
    · exact ⟨turns, turn, [], rfl, typed, handed, nofun⟩
    · refine ⟨earlier, typing, later ++ [turn], by simp, typed, handed, ?_⟩
      rw [List.forall_mem_append, List.forall_mem_singleton]
      exact ⟨since, noTicket, used⟩

/-- No ticket waits. -/
def Calm (turns : List (Turn α)) : Prop :=
  ∀ ticket text, ¬Awaits turns ticket text

/-- Every ticket that elapses in some turns was handed out before. -/
def Handed (turns : List (Turn α)) : Prop :=
  Lawful (fun turn earlier => ∀ ticket ∈ turn.move.ticket?, ticket ∈ ticketsIn earlier)
    turns.reverse

instance (turns : List (Turn α)) : Decidable (Handed turns) :=
  inferInstanceAs (Decidable (Lawful _ _))

section Turns

variable {turns : List (Turn α)} {turn : Turn α}

theorem Awaits.typed {ticket : Ticket} {text : String} (awaits : Awaits turns ticket text) :
    text ∈ typedIn turns := by
  obtain ⟨earlier, typing, later, rfl, typed, _⟩ := awaits
  refine List.mem_filterMap.mpr ⟨typing, by simp, ?_⟩
  rw [typed]
  rfl

theorem Awaits.handed {ticket : Ticket} {text : String} (awaits : Awaits turns ticket text) :
    ticket ∈ ticketsIn turns := by
  obtain ⟨earlier, typing, later, rfl, _, handed, _⟩ := awaits
  exact List.mem_flatMap.mpr ⟨typing, by simp, handed⟩

theorem awaits_concat_of_keeps (tickets : turn.tickets = []) (used : turn.used? = none)
    {ticket : Ticket} {text : String} :
    Awaits (turns ++ [turn]) ticket text ↔ Awaits turns ticket text := by
  simp [awaits_concat, tickets, used]

theorem calm_concat_of_keeps (tickets : turn.tickets = []) (used : turn.used? = none) :
    Calm (turns ++ [turn]) ↔ Calm turns := by
  simp only [Calm, awaits_concat_of_keeps tickets used]

theorem handed_concat :
    Handed (turns ++ [turn]) ↔
      (∀ ticket ∈ turn.move.ticket?, ticket ∈ ticketsIn turns) ∧ Handed turns := by
  have backwards (ticket : Ticket) :
      ticket ∈ ticketsIn turns.reverse ↔ ticket ∈ ticketsIn turns := by
    simp [ticketsIn]
  rw [Handed, List.reverse_append, List.reverse_singleton, List.singleton_append, Lawful.cons_iff]
  simp only [backwards, Handed]

theorem Turn.ticket?_of_used? {ticket : Ticket} (used : turn.used? = some ticket) :
    turn.move.ticket? = some ticket := by
  unfold Turn.used? at used
  split at used
  case h_1 elapsed move =>
    split at used
    case isTrue => cases used
    case isFalse => rw [move]; exact used
  case h_2 => cases used

end Turns

/-- How the tickets of a table stand after some turns. -/
structure Ticketed (turns : List (Turn α)) (state : State α) : Prop where
  /-- Tickets are numbers in a row. -/
  ticket : state.ticket = ⟨.ofNat (ticketCount turns)⟩
  waiting : ∀ ticket text, Awaits turns ticket text →
    ticket = state.ticket ∧ text = state.pendingSearch
  calm : Calm turns → state.pendingSearch = ""
  /-- The number that a calm table rests at has not been handed out. -/
  handed : ∀ ticket ∈ ticketsIn turns, ∃ number, ticket = ⟨.ofNat number⟩ ∧
    number ≤ ticketCount turns ∧ (Calm turns → number < ticketCount turns)

namespace Ticketed

variable {turns : List (Turn α)} {turn : Turn α} {state : State α}

theorem start (config : Config) : Ticketed [] (State.ofConfig (α := α) config) where
  ticket := rfl
  waiting := fun _ _ awaits => absurd awaits (not_awaits_nil _ _)
  calm := fun _ => rfl
  handed := nofun

/-- A typed text waits with the ticket that is handed out for it, and no other one does. -/
theorem types (ticketed : Ticketed turns turn.before) {text : String}
    (move : turn.move = .give (.searchTyped text))
    (after : turn.after = (turn.before.armSearch text).1)
    (tickets : turn.tickets = [⟨turn.before.ticket.value + 1⟩]) (used : turn.used? = none) :
    Ticketed (turns ++ [turn]) turn.after := by
  have count : ticketCount (turns ++ [turn]) = ticketCount turns + 1 := by
    rw [ticketCount_concat, tickets, used]
    rfl
  have next : (⟨turn.before.ticket.value + 1⟩ : Ticket) = ⟨.ofNat (ticketCount turns + 1)⟩ := by
    rw [ticketed.ticket]
    simp
  have awaits : Awaits (turns ++ [turn]) ⟨turn.before.ticket.value + 1⟩ text :=
    awaits_concat.mpr (.inl ⟨move, by rw [tickets]; exact List.mem_singleton_self _⟩)
  constructor
  · rw [after, count, ← next]
    rfl
  · intro ticket other waits
    rcases awaits_concat.mp waits with ⟨typed, handed⟩ | ⟨_, noTicket, _⟩
    · rw [tickets, List.mem_singleton] at handed
      rw [move] at typed
      cases typed
      rw [after, handed]
      exact ⟨rfl, rfl⟩
    · rw [tickets] at noTicket
      cases noTicket
  · exact fun calm => absurd awaits (calm _ _)
  · intro ticket member
    rw [count]
    refine (?_ : ∃ number, ticket = ⟨.ofNat number⟩ ∧ number ≤ ticketCount turns + 1).imp
      fun number ⟨same, bound⟩ => ⟨same, bound, fun calm => absurd awaits (calm _ _)⟩
    rw [ticketsIn_concat, tickets, List.mem_append, List.mem_singleton] at member
    rcases member with earlier | rfl
    · obtain ⟨number, same, bound, _⟩ := ticketed.handed ticket earlier
      exact ⟨number, same, by omega⟩
    · exact ⟨_, next, Nat.le_refl _⟩

/-- A table whose ticket has been used up is calm. -/
theorem uses (ticketed : Ticketed turns turn.before)
    (after : turn.after = turn.before.settleSearch.beginLoad.1) (tickets : turn.tickets = [])
    (used : turn.used? = some turn.before.ticket) : Ticketed (turns ++ [turn]) turn.after := by
  have count : ticketCount (turns ++ [turn]) = ticketCount turns + 1 := by
    rw [ticketCount_concat, tickets, used]
    rfl
  have calm : Calm (turns ++ [turn]) := by
    intro ticket text waits
    rcases awaits_concat.mp waits with ⟨_, handed⟩ | ⟨awaits, _, unused⟩
    · rw [tickets] at handed
      cases handed
    · rw [(ticketed.waiting ticket text awaits).1] at unused
      exact unused used
  constructor
  · rw [after, count]
    change (⟨turn.before.ticket.value + 1⟩ : Ticket) = _
    rw [ticketed.ticket]
    simp
  · exact fun ticket text waits => absurd waits (calm _ _)
  · rw [after]
    exact fun _ => rfl
  · intro ticket member
    rw [ticketsIn_concat, tickets, List.append_nil] at member
    obtain ⟨number, same, bound, _⟩ := ticketed.handed ticket member
    exact ⟨number, same, by omega, fun _ => by omega⟩

theorem keeps (ticketed : Ticketed turns turn.before)
    (ticket : turn.after.ticket = turn.before.ticket)
    (pending : turn.after.pendingSearch = turn.before.pendingSearch)
    (tickets : turn.tickets = []) (used : turn.used? = none) :
    Ticketed (turns ++ [turn]) turn.after := by
  have count : ticketCount (turns ++ [turn]) = ticketCount turns := by
    rw [ticketCount_concat, tickets, used]
    rfl
  have handed : ticketsIn (turns ++ [turn]) = ticketsIn turns := by
    rw [ticketsIn_concat, tickets, List.append_nil]
  constructor
  · rw [ticket, count]
    exact ticketed.ticket
  · intro other text waits
    rw [ticket, pending]
    exact ticketed.waiting other text ((awaits_concat_of_keeps tickets used).mp waits)
  · rw [pending, calm_concat_of_keeps tickets used]
    exact ticketed.calm
  · rw [handed, count, calm_concat_of_keeps tickets used]
    exact ticketed.handed

theorem step (ticketed : Ticketed turns turn.before) : Ticketed (turns ++ [turn]) turn.after := by
  cases turn.handles with
  | types move after tickets used => exact ticketed.types move after tickets used
  | uses after _ tickets used => exact ticketed.uses after tickets used
  | keeps ticket pending _ _ tickets used => exact ticketed.keeps ticket pending tickets used

/-- In every row of moves the tickets stand like this. -/
theorem run (config : Config) (moves : List (Move α)) :
    Ticketed ((State.ofConfig config).turns moves) ((State.ofConfig config).after moves) :=
  State.turns_induction (.start config) (fun _ _ ticketed => ticketed.step) moves

/-- As long as the numbers of tickets do not come round again, a ticket that was handed out and
is the present one waits. -/
theorem awaits_of_handed (ticketed : Ticketed turns state)
    (few : ticketCount turns < UInt64.size) (handed : state.ticket ∈ ticketsIn turns) :
    Awaits turns state.ticket state.pendingSearch := by
  by_cases calm : Calm turns
  · obtain ⟨number, same, _, less⟩ := ticketed.handed _ handed
    have lower := less calm
    have values : UInt64.ofNat (ticketCount turns) = .ofNat number :=
      congrArg Ticket.value (ticketed.ticket.symm.trans same)
    have numbers := congrArg UInt64.toNat values
    rw [UInt64.toNat_ofNat_of_lt' few,
      UInt64.toNat_ofNat_of_lt' (Nat.lt_trans lower few)] at numbers
    omega
  · simp only [Calm, not_forall, not_not] at calm
    obtain ⟨ticket, text, awaits⟩ := calm
    obtain ⟨rfl, rfl⟩ := ticketed.waiting ticket text awaits
    exact awaits

end Ticketed

/-! ## What is searched for -/

/-- A message searches for a text: the query that results asks for its first page, and one load
is issued for it. -/
def State.Searches (state : State α) (text : String) (update : State α × List Effect) : Prop :=
  update.1.query = { state.query with search := text, page := 1 } ∧
    loadsOf update.2 = [⟨⟨state.issued + 1⟩, update.1.query⟩]

theorem State.Searches.effects {state : State α} {text : String}
    {update : State α × List Effect} (searches : state.Searches text update) :
    update.2 ≠ [] := by
  intro nothing
  have load := searches.2
  rw [nothing] at load
  cases load

namespace Ticketed

variable {turns : List (Turn α)} {turn : Turn α} {state : State α}

/-- What an elapsed ticket does is decided by whether it is the present one. -/
theorem elapsed_cases (ticketed : Ticketed turns state) (ticket : Ticket) :
    (ticket = ⟨.ofNat (ticketCount turns)⟩ ∧
        state.Searches state.pendingSearch (state.update (.delayElapsed ticket))) ∨
      (ticket ≠ ⟨.ofNat (ticketCount turns)⟩ ∧
        state.update (.delayElapsed ticket) = state.update .idle) := by
  rw [← ticketed.ticket, State.update]
  split
  case isTrue current => exact .inl ⟨current, rfl, loadsOf_beginLoad _⟩
  case isFalse stale => exact .inr ⟨stale, rfl⟩

/-- A ticket that waits searches for its text. -/
theorem searches_of_awaits (ticketed : Ticketed turns state) {ticket : Ticket} {text : String}
    (awaits : Awaits turns ticket text) :
    state.Searches text (state.update (.delayElapsed ticket)) := by
  obtain ⟨current, rfl⟩ := ticketed.waiting ticket text awaits
  rcases ticketed.elapsed_cases ticket with ⟨_, searches⟩ | ⟨stale, _⟩
  · exact searches
  · exact absurd (current.trans ticketed.ticket) stale

/-- Of the tickets that do not wait only the number at which a calm table rests has an effect:
it searches for nothing. -/
theorem elapsed_of_not_awaits (ticketed : Ticketed turns state) {ticket : Ticket}
    (unclaimed : ∀ text, ¬Awaits turns ticket text) :
    (Calm turns ∧ ticket = ⟨.ofNat (ticketCount turns)⟩ ∧
        state.Searches "" (state.update (.delayElapsed ticket))) ∨
      (¬(Calm turns ∧ ticket = ⟨.ofNat (ticketCount turns)⟩) ∧
        state.update (.delayElapsed ticket) = state.update .idle) := by
  rcases ticketed.elapsed_cases ticket with ⟨current, searches⟩ | ⟨stale, idle⟩
  · have calm : Calm turns := by
      intro other text awaits
      obtain ⟨same, _⟩ := ticketed.waiting other text awaits
      rw [same, ticketed.ticket, ← current] at awaits
      exact unclaimed text awaits
    exact .inl ⟨calm, current, ticketed.calm calm ▸ searches⟩
  · exact .inr ⟨fun resting => stale resting.2, idle⟩

end Ticketed

/-- Where the text comes from that a table is searched for: from its configuration or from a
typed text; or it is empty, because a ticket elapsed that nobody had been given, or because the
numbers of tickets came round. -/
def Sourced (config : Config) (turns : List (Turn α)) (state : State α) : Prop :=
  state.query.search = config.search ∨ state.query.search ∈ typedIn turns ∨
    (state.query.search = "" ∧ (Handed turns → UInt64.size ≤ ticketCount turns))

namespace Sourced

variable {config : Config} {turns : List (Turn α)} {turn : Turn α}

theorem rest (sourced : Sourced config turns turn.before)
    (search : turn.after.query.search = turn.before.query.search) :
    Sourced config (turns ++ [turn]) turn.after := by
  rw [Sourced, search, typedIn_concat, ticketCount_concat, List.mem_append]
  rcases sourced with configured | typed | ⟨nothing, odd⟩
  · exact .inl configured
  · exact .inr (.inl (.inl typed))
  · refine .inr (.inr ⟨nothing, fun handed => ?_⟩)
    have reached := odd (handed_concat.mp handed).2
    omega

/-- When a ticket is used up, its text was typed, if it waits. -/
theorem uses (ticketed : Ticketed turns turn.before)
    (after : turn.after = turn.before.settleSearch.beginLoad.1)
    (used : turn.used? = some turn.before.ticket) :
    Sourced config (turns ++ [turn]) turn.after := by
  have search : turn.after.query.search = turn.before.pendingSearch := by
    rw [after]
    rfl
  rw [Sourced, search, typedIn_concat, ticketCount_concat, List.mem_append]
  by_cases calm : Calm turns
  · refine .inr (.inr ⟨ticketed.calm calm, fun handed => ?_⟩)
    by_contra few
    have handedOut := (handed_concat.mp handed).1 _ (Turn.ticket?_of_used? used)
    exact calm _ _ (ticketed.awaits_of_handed (by omega) handedOut)
  · simp only [Calm, not_forall, not_not] at calm
    obtain ⟨ticket, text, awaits⟩ := calm
    rw [← (ticketed.waiting ticket text awaits).2]
    exact .inr (.inl (.inl awaits.typed))

theorem run (config : Config) (moves : List (Move α)) :
    Sourced config ((State.ofConfig config).turns moves)
      ((State.ofConfig config).after moves) := by
  let Kept (turns : List (Turn α)) (state : State α) : Prop :=
    Ticketed turns state ∧ Sourced config turns state
  have kept : ∀ turns turn, Kept turns turn.before → Kept (turns ++ [turn]) turn.after := by
    rintro turns turn ⟨ticketed, sourced⟩
    refine ⟨ticketed.step, ?_⟩
    cases turn.handles with
    | types _ after _ _ => exact sourced.rest (by rw [after]; rfl)
    | uses after _ _ used => exact .uses ticketed after used
    | keeps _ _ search _ _ _ => exact sourced.rest search
  exact (State.turns_induction ⟨.start config, .inl rfl⟩ kept moves).2

end Sourced

/-- Only typed text is searched for. In every row of moves, whatever tickets elapse in it: a
ticket that waits searches for the text that it was handed out for, from the first page and with
one load, and no other ticket has an effect, but for one. While no ticket waits, the table rests
at the number of tickets that were handed out and used up so far; this number, though nobody was
given it, searches for nothing at all. What a table is searched for is therefore its configured
text, a typed text, or nothing. If only tickets elapse that were handed out before, and their
numbers do not come round again, then among the tickets handed out exactly the one that waits has
an effect, and the table is searched for its configured text or for a typed one. -/
theorem elapsed_ticket_searches (config : Config) (moves : List (Move α)) :
    let start := State.ofConfig (α := α) config
    let turns := start.turns moves
    let state := start.after moves
    let elapsed (ticket : Ticket) := state.update (.delayElapsed ticket)
    (∀ ticket text, Awaits turns ticket text → state.Searches text (elapsed ticket)) ∧
      (∀ ticket, (∀ text, ¬Awaits turns ticket text) →
        ¬(Calm turns ∧ ticket = ⟨.ofNat (ticketCount turns)⟩) →
          elapsed ticket = state.update .idle) ∧
      (Calm turns → state.Searches "" (elapsed ⟨.ofNat (ticketCount turns)⟩)) ∧
      (state.query.search = config.search ∨ state.query.search ∈ typedIn turns ∨
        state.query.search = "") ∧
      (Handed turns → ticketCount turns < UInt64.size →
        (∀ ticket ∈ ticketsIn turns,
          (elapsed ticket).2 ≠ [] ↔ ∃ text, Awaits turns ticket text) ∧
        (state.query.search = config.search ∨ state.query.search ∈ typedIn turns)) := by
  intro start turns state elapsed
  have ticketed : Ticketed turns state := .run config moves
  have sourced : Sourced config turns state := .run config moves
  refine ⟨fun ticket text awaits => ticketed.searches_of_awaits awaits, ?_, ?_, ?_, ?_⟩
  · intro ticket unclaimed notResting
    rcases ticketed.elapsed_of_not_awaits unclaimed with ⟨calm, number, _⟩ | ⟨_, idle⟩
    · exact absurd ⟨calm, number⟩ notResting
    · exact idle
  · intro calm
    rcases ticketed.elapsed_of_not_awaits (calm _) with ⟨_, _, searches⟩ | ⟨notResting, _⟩
    · exact searches
    · exact absurd ⟨calm, rfl⟩ notResting
  · exact sourced.imp_right (Or.imp_right And.left)
  · intro handed few
    refine ⟨fun ticket member => ⟨fun effect => ?_, ?_⟩, ?_⟩
    · rcases ticketed.elapsed_cases ticket with ⟨current, _⟩ | ⟨_, idle⟩
      · rw [← ticketed.ticket] at current
        rw [current] at member ⊢
        exact ⟨_, ticketed.awaits_of_handed few member⟩
      · exact absurd (congrArg Prod.snd idle) effect
    · rintro ⟨text, awaits⟩
      exact (ticketed.searches_of_awaits awaits).effects
    · rcases sourced with configured | typed | ⟨_, odd⟩
      · exact .inl configured
      · exact .inr typed
      · exact absurd few (Nat.not_lt.mpr (odd handed))

/-- Of two texts typed one after the other the second is searched for, with the first ticket or
the third without effect. -/
theorem elapsed_ticket_searches_retyped :
    let moves : List (Move Nat) :=
      [.give .attach, .give (.searchTyped "ro"), .give (.searchTyped "room"), .look,
        .give (.delayElapsed ⟨1⟩)]
    let turns := (State.ofConfig {}).turns moves
    let state := (State.ofConfig {}).after moves
    ticketsIn turns = [⟨1⟩, ⟨2⟩] ∧ Handed turns ∧ ticketCount turns < UInt64.size ∧
      Awaits turns ⟨2⟩ "room" ∧ state.Searches "room" (state.update (.delayElapsed ⟨2⟩)) ∧
      state.update (.delayElapsed ⟨1⟩) = state.update .idle ∧
      state.update (.delayElapsed ⟨3⟩) = state.update .idle ∧
      state.query.search = "" := by
  intro moves turns state
  have handed : Handed turns := by decide
  have few : ticketCount turns < UInt64.size := by decide
  have waits : Awaits turns ⟨2⟩ "room" :=
    ⟨turns.take 2, turns[2], turns.drop 3, rfl, rfl, by decide, by decide⟩
  obtain ⟨searches, idles, _, _, among⟩ := elapsed_ticket_searches {} moves
  obtain ⟨effects, search⟩ := among handed few
  have notCalm : ¬Calm turns := fun calm => calm _ _ waits
  have first : ∀ text, ¬Awaits turns ⟨1⟩ text := fun text awaits =>
    (effects ⟨1⟩ (by decide)).mpr ⟨text, awaits⟩ rfl
  have third : ∀ text, ¬Awaits turns ⟨3⟩ text := fun text awaits =>
    absurd awaits.handed (by decide)
  refine ⟨by decide, handed, few, waits, searches _ _ waits, idles _ first fun resting =>
    notCalm resting.1, idles _ third fun resting => notCalm resting.1, ?_⟩
  rcases search with configured | typed
  · exact configured
  · exact absurd typed (by decide)

/-- A ticket that nobody was given clears the search: the first ticket is used up, and the number
after it, at which the table now rests, takes the text out of the query, goes back to the first
page and issues a load, although no text waits. -/
theorem unclaimed_ticket_clears_search :
    let moves : List (Move Nat) :=
      [.give .attach, .give (.searchTyped "room 4"), .give (.delayElapsed ⟨1⟩),
        .give (.pageMoved 1)]
    let turns := (State.ofConfig {}).turns moves
    let state := (State.ofConfig {}).after moves
    let elapsed := state.update (.delayElapsed ⟨2⟩)
    ticketsIn turns = [⟨1⟩] ∧ (∀ text, ¬Awaits turns ⟨2⟩ text) ∧
      state.query = { search := "room 4", page := 2 } ∧ elapsed.1.query = {} ∧
      elapsed.2 = [.cancel ⟨3⟩, .load ⟨4⟩ {}] := by
  intro moves turns state elapsed
  exact ⟨by decide, fun text awaits => absurd awaits.handed (by decide), by decide, by decide,
    by decide⟩

end UtilityBilling.Table
