/-
# Delayed searches in time

A typed text waits for its delay, and a further text typed before replaces it. The driver may
be slow to take a text only within the instant in which it was typed; its alarm is set for one
delay later, and what the alarm posts is taken in the instant in which it goes off. The
invariant tells apart three phases of a table: calm, with an alarm set for the last text
taken, and with the alarm gone off and its ticket in the queue.
-/

import UtilityBilling.Proofs.Table.Watch

namespace UtilityBilling.Table

variable {α : Type}

/-- The keystrokes, in order, that no other one follows before the delay is over. -/
def lasting (delay : Nat) : List Keystroke → List Keystroke
  | [] => []
  | first :: rest =>
    if ∀ later ∈ rest, first.time + delay ≤ later.time then first :: lasting delay rest
    else lasting delay rest

/-- What a load was for: when it was issued, and the text and the page that it asks for. -/
structure Sought where
  time : Nat
  text : String
  page : UInt32
  deriving DecidableEq, Repr

/-- The load that a keystroke comes to. -/
def Keystroke.sought (delay : Nat) (keystroke : Keystroke) : Sought :=
  ⟨keystroke.time + delay, keystroke.text, 1⟩

def Issue.sought (issue : Issue) : Sought :=
  ⟨issue.time, issue.load.query.search, issue.load.query.page⟩

/-- What the loads were for that were issued because a delay was over, in order. -/
def Watch.sought (watch : Watch α) : List Sought :=
  ((watch.issues.filter Issue.delayed).map Issue.sought).reverse

variable {delay : Nat}

theorem lasting_append (typed later : List Keystroke) :
    lasting delay (typed ++ later) =
      ((lasting delay typed).filter fun keystroke =>
        ∀ other ∈ later, keystroke.time + delay ≤ other.time) ++ lasting delay later := by
  induction typed with
  | nil => rfl
  | cons first rest ih =>
      simp only [List.cons_append, lasting, List.forall_mem_append, ih]
      by_cases outRest : ∀ other ∈ rest, first.time + delay ≤ other.time
      · by_cases outLater : ∀ other ∈ later, first.time + delay ≤ other.time
        · rw [if_pos ⟨outRest, outLater⟩, if_pos outRest, List.filter_cons_of_pos (by simpa)]
          rfl
        · rw [if_neg fun both => outLater both.2, if_pos outRest,
            List.filter_cons_of_neg (by simpa using outLater)]
      · rw [if_neg fun both => outRest both.1, if_neg outRest]

theorem lasting_sublist (delay : Nat) (typed : List Keystroke) :
    (lasting delay typed).Sublist typed := by
  induction typed with
  | nil => exact .refl _
  | cons first rest ih =>
      unfold lasting
      split
      · exact ih.cons_cons first
      · exact ih.cons first

/-- Of keystrokes each of which follows soon upon the one before, only the last lasts. -/
theorem lasting_burst {first : Keystroke} {rest : List Keystroke}
    (soon : (first :: rest).IsChain fun one next => next.time < one.time + delay) :
    lasting delay (first :: rest) = [(first :: rest).getLast (List.cons_ne_nil _ _)] := by
  induction rest generalizing first with
  | nil => rfl
  | cons second rest ih =>
      obtain ⟨early, chain⟩ := List.isChain_cons_cons.mp soon
      have replaced : ¬∀ later ∈ second :: rest, first.time + delay ≤ later.time :=
        fun all => Nat.not_lt.mpr (all second List.mem_cons_self) early
      rw [lasting, if_neg replaced, ih chain]
      rfl

/-- Where a table stands with the texts that its driver took and that last: some have been
searched for, and at most one, the last, is still to come. -/
inductive Phase (delay : Nat) (now : Delays) (done lasts : List Keystroke) : Prop where
  | calm (all : lasts = done) (alarm : now.alarm = none) (tickets : now.tickets = [])
  /-- The alarm is set. -/
  | armed {last : Keystroke} (next : lasts = done ++ [last])
      (alarm : now.alarm = some (now.ticket, last.time + delay)) (tickets : now.tickets = [])
      (pending : now.pending = last.text) (soon : now.clock ≤ last.time + delay)
  /-- The alarm has gone off. -/
  | rung {last : Keystroke} (next : lasts = done ++ [last]) (alarm : now.alarm = none)
      (tickets : now.tickets = [now.ticket]) (pending : now.pending = last.text)
      (elapsed : now.clock = last.time + delay)

theorem Phase.of_eq {now after : Delays} {done lasts : List Keystroke}
    (phase : Phase delay now done lasts) (clock : after.clock = now.clock)
    (alarm : after.alarm = now.alarm) (tickets : after.tickets = now.tickets)
    (ticket : after.ticket = now.ticket) (pending : after.pending = now.pending) :
    Phase delay after done lasts := by
  cases phase with
  | calm all isAlarm areTickets =>
      exact .calm all (alarm.trans isAlarm) (tickets.trans areTickets)
  | armed next isAlarm areTickets isPending soon =>
      exact .armed next (by rw [alarm, ticket, isAlarm]) (tickets.trans areTickets)
        (pending.trans isPending) (clock ▸ soon)
  | rung next isAlarm areTickets isPending elapsed =>
      exact .rung next (alarm.trans isAlarm) (by rw [tickets, ticket, areTickets])
        (pending.trans isPending) (clock.trans elapsed)

/-- How the texts that were typed are accounted for: the driver took some, the others were
typed just now; some of those taken have been searched for, and the phase says which others
will be. -/
structure Accounts (delay : Nat) (watch : Watch α) (taken waiting done : List Keystroke) :
    Prop where
  typed : watch.typed.reverse = taken ++ waiting
  texts : waiting.map Keystroke.text = watch.course.binder.delays.texts
  now : ∀ keystroke ∈ waiting, keystroke.time = watch.course.binder.clock
  past : ∀ keystroke ∈ done, keystroke.time + delay ≤ watch.course.binder.clock
  sought : watch.sought = done.map (Keystroke.sought delay)
  phase : Phase delay watch.course.binder.delays done (lasting delay taken)

/-- The invariant of a table that delays its searches. -/
structure Delayed (delay : Nat) (watch : Watch α) : Prop where
  running : watch.course.binder.Running
  wait : watch.course.binder.delays.wait = delay
  apart : watch.typed.reverse.Pairwise fun earlier later => later.time ≠ earlier.time + delay
  accounts : ∃ taken waiting done, Accounts delay watch taken waiting done

/-- A load for which no delay was over is not among those that were sought. -/
theorem Watch.sought_append {watch after : Watch α} {more : List Issue}
    (issues : after.issues = more ++ watch.issues)
    (others : ∀ issue ∈ more, issue.delayed = false) :
    after.sought = watch.sought := by
  have none_delayed : more.filter Issue.delayed = [] :=
    List.filter_eq_nil_iff.mpr fun issue member => by simp [others issue member]
  rw [sought, sought, issues, List.filter_append, none_delayed, List.nil_append]

namespace Accounts

variable {watch after : Watch α} {taken waiting done : List Keystroke}

/-- A text that waits in the queue was not typed just when the delay of one before it was
over. -/
theorem not_over (accounts : Accounts delay watch taken waiting done)
    (apart : watch.typed.reverse.Pairwise fun earlier later => later.time ≠ earlier.time + delay)
    {earlier later : Keystroke} (isTaken : earlier ∈ taken) (waits : later ∈ waiting) :
    watch.course.binder.clock ≠ earlier.time + delay := by
  rw [accounts.typed, List.pairwise_append] at apart
  rw [← accounts.now later waits]
  exact apart.2.2 earlier isTaken later waits

/-- Whatever does not concern delayed searches leaves the accounts as they are. -/
theorem rests (accounts : Accounts delay watch taken waiting done)
    (delays : after.course.binder.delays = watch.course.binder.delays)
    (typed : after.typed = watch.typed) (sought : after.sought = watch.sought) :
    Accounts delay after taken waiting done := by
  have clock : after.course.binder.clock = watch.course.binder.clock :=
    congrArg Delays.clock delays
  exact ⟨typed ▸ accounts.typed, delays ▸ accounts.texts, clock ▸ accounts.now,
    clock ▸ accounts.past, sought ▸ accounts.sought, delays ▸ accounts.phase⟩

/-- A text that is typed waits in the queue. -/
theorem types (accounts : Accounts delay watch taken waiting done) {text : String}
    (delays : after.course.binder.delays =
      { watch.course.binder.delays with texts := watch.course.binder.delays.texts ++ [text] })
    (typed : after.typed = ⟨watch.course.binder.clock, text⟩ :: watch.typed)
    (sought : after.sought = watch.sought) :
    Accounts delay after taken (waiting ++ [⟨watch.course.binder.clock, text⟩]) done := by
  have clock : after.course.binder.clock = watch.course.binder.clock :=
    congrArg Delays.clock delays
  constructor
  · rw [typed, List.reverse_cons, accounts.typed, List.append_assoc]
  · rw [delays, List.map_append, accounts.texts]
    rfl
  · rw [clock]
    exact List.forall_mem_append.mpr ⟨accounts.now, by simp⟩
  · rw [clock]
    exact accounts.past
  · rw [sought]
    exact accounts.sought
  · rw [delays]
    exact accounts.phase.of_eq rfl rfl rfl rfl rfl

/-- Time passes at rest only, and not beyond the time at which the alarm is due. -/
theorem waits (accounts : Accounts delay watch taken waiting done) {milliseconds : Nat}
    (texts : watch.course.binder.delays.texts = [])
    (tickets : watch.course.binder.delays.tickets = [])
    (soon : ∀ ticket due, watch.course.binder.delays.alarm = some (ticket, due) →
      watch.course.binder.clock + milliseconds ≤ due)
    (delays : after.course.binder.delays =
      { watch.course.binder.delays with clock := watch.course.binder.clock + milliseconds })
    (typed : after.typed = watch.typed) (sought : after.sought = watch.sought) :
    Accounts delay after taken waiting done := by
  have clock : after.course.binder.clock = watch.course.binder.clock + milliseconds :=
    congrArg Delays.clock delays
  have nothing : waiting = [] := List.map_eq_nil_iff.mp (accounts.texts.trans texts)
  constructor
  · rw [typed]
    exact accounts.typed
  · rw [delays]
    exact accounts.texts
  · simp [nothing]
  · intro keystroke member
    rw [clock]
    exact Nat.le_add_right_of_le (accounts.past keystroke member)
  · rw [sought]
    exact accounts.sought
  · rw [delays]
    cases accounts.phase with
    | calm all alarm noTickets => exact .calm all alarm noTickets
    | armed next alarm noTickets pending _ =>
        exact .armed next alarm noTickets pending (soon _ _ alarm)
    | rung _ _ oneTicket _ _ => rw [tickets] at oneTicket; cases oneTicket

/-- The driver takes a text. The one before it, if it is still to come, is replaced, since its
delay is not over. -/
theorem arms {last : Keystroke} (accounts : Accounts delay watch taken (last :: waiting) done)
    (apart : watch.typed.reverse.Pairwise fun earlier later => later.time ≠ earlier.time + delay)
    (ticket : Ticket)
    (delays : after.course.binder.delays =
      { watch.course.binder.delays with
        texts := waiting.map Keystroke.text
        ticket := ticket
        pending := last.text
        alarm := some (ticket, watch.course.binder.clock + delay) })
    (typed : after.typed = watch.typed) (sought : after.sought = watch.sought) :
    Accounts delay after (taken ++ [last]) waiting done := by
  have clock : after.course.binder.clock = watch.course.binder.clock :=
    congrArg Delays.clock delays
  have isNow : last.time = watch.course.binder.clock := accounts.now last List.mem_cons_self
  have keeps : done.filter (fun keystroke =>
      ∀ other ∈ [last], keystroke.time + delay ≤ other.time) = done := by
    refine List.filter_eq_self.mpr fun keystroke member => ?_
    simpa [isNow] using accounts.past keystroke member
  have armed (quiet : watch.course.binder.delays.tickets = []) :
      Phase delay after.course.binder.delays done (done ++ [last]) := by
    rw [delays, ← isNow]
    exact .armed rfl rfl quiet rfl (isNow ▸ Nat.le_add_right _ _)
  constructor
  · rw [typed, accounts.typed, List.append_assoc]
    rfl
  · rw [delays]
  · rw [clock]
    exact (List.forall_mem_cons.mp accounts.now).2
  · rw [clock]
    exact accounts.past
  · rw [sought]
    exact accounts.sought
  · have members := lasting_sublist delay taken
    rw [lasting_append]
    cases accounts.phase with
    | calm all _ quiet =>
        rw [all, keeps]
        exact armed quiet
    | @armed previous next _ quiet _ soon =>
        rw [next] at members ⊢
        have isTaken : previous ∈ taken := members.subset (by simp)
        have notOver := accounts.not_over apart isTaken List.mem_cons_self
        have replaced : ¬∀ other ∈ [last], previous.time + delay ≤ other.time := by
          intro all
          have early := all last List.mem_cons_self
          rw [isNow] at early
          exact notOver (Nat.le_antisymm soon early)
        rw [List.filter_append, keeps, List.filter_cons_of_neg (by simpa using replaced),
          List.filter_nil, List.append_nil]
        exact armed quiet
    | @rung previous next _ _ _ elapsed =>
        rw [next] at members
        have isTaken : previous ∈ taken := members.subset (by simp)
        exact absurd elapsed (accounts.not_over apart isTaken List.mem_cons_self)

/-- The alarm goes off when the delay of the last text taken is over. -/
theorem rings (accounts : Accounts delay watch taken waiting done) {ticket : Ticket} {due : Nat}
    (alarm : watch.course.binder.delays.alarm = some (ticket, due))
    (elapsed : due ≤ watch.course.binder.clock)
    (delays : after.course.binder.delays =
      { watch.course.binder.delays with
        alarm := none
        tickets := watch.course.binder.delays.tickets ++ [ticket] })
    (typed : after.typed = watch.typed) (sought : after.sought = watch.sought) :
    Accounts delay after taken waiting done := by
  have clock : after.course.binder.clock = watch.course.binder.clock :=
    congrArg Delays.clock delays
  refine ⟨typed ▸ accounts.typed, delays ▸ accounts.texts, clock ▸ accounts.now,
    clock ▸ accounts.past, sought ▸ accounts.sought, ?_⟩
  rw [delays]
  cases accounts.phase with
  | calm _ isAlarm _ => rw [isAlarm] at alarm; cases alarm
  | rung _ isAlarm _ _ _ => rw [isAlarm] at alarm; cases alarm
  | armed next isAlarm noTickets pending soon =>
      rw [isAlarm] at alarm
      cases alarm
      refine .rung next rfl ?_ pending (Nat.le_antisymm soon elapsed)
      rw [noTickets]
      rfl

/-- The table is searched for the text whose delay is over. -/
theorem settles (accounts : Accounts delay watch taken waiting done) {rest : List Ticket}
    {ticket : Ticket} {load : Load}
    (tickets : watch.course.binder.delays.tickets = watch.course.binder.delays.ticket :: rest)
    (delays : after.course.binder.delays =
      { watch.course.binder.delays with
        tickets := rest
        ticket := ticket
        pending := ""
        search := watch.course.binder.delays.pending })
    (typed : after.typed = watch.typed)
    (search : load.query.search = watch.course.binder.delays.pending)
    (page : load.query.page = 1)
    (issues : after.issues = ⟨watch.course.binder.clock, true, load⟩ :: watch.issues) :
    ∃ last, Accounts delay after taken waiting (done ++ [last]) := by
  have clock : after.course.binder.clock = watch.course.binder.clock :=
    congrArg Delays.clock delays
  cases accounts.phase with
  | calm _ _ noTickets => rw [noTickets] at tickets; cases tickets
  | armed _ _ noTickets _ _ => rw [noTickets] at tickets; cases tickets
  | @rung last next alarm oneTicket pending elapsed =>
      rw [oneTicket, List.cons.injEq] at tickets
      have one : (⟨watch.course.binder.clock, true, load⟩ : Issue).sought = last.sought delay := by
        rw [Issue.sought, Keystroke.sought, search, page, pending]
        exact congrArg (Sought.mk · last.text 1) elapsed
      refine ⟨last, typed ▸ accounts.typed, delays ▸ accounts.texts, clock ▸ accounts.now, ?_, ?_,
        ?_⟩
      · rw [clock]
        refine List.forall_mem_append.mpr ⟨accounts.past, ?_⟩
        intro keystroke member
        rw [List.mem_singleton.mp member]
        exact Nat.le_of_eq elapsed.symm
      · rw [Watch.sought, issues, List.filter_cons_of_pos rfl, List.map_cons, List.reverse_cons,
          one, List.map_append, ← accounts.sought]
        rfl
      · rw [delays]
        exact .calm next alarm tickets.2.symm

/-- No ticket of an earlier delay is ever in the queue. -/
theorem not_drops (accounts : Accounts delay watch taken waiting done) {ticket : Ticket}
    {rest : List Ticket} (tickets : watch.course.binder.delays.tickets = ticket :: rest) :
    ticket = watch.course.binder.delays.ticket := by
  cases accounts.phase with
  | calm _ _ noTickets => rw [noTickets] at tickets; cases tickets
  | armed _ _ noTickets _ _ => rw [noTickets] at tickets; cases tickets
  | rung _ _ oneTicket _ _ =>
      rw [oneTicket, List.cons.injEq] at tickets
      exact tickets.1.symm

end Accounts

namespace Delayed

variable {watch : Watch α}

theorem start (endpoint : String) (config : Config) (extras : List Parameter) :
    Delayed config.searchDelay (Watch.start (α := α) endpoint config extras) where
  running := ⟨rfl, rfl⟩
  wait := rfl
  apart := .nil
  accounts := ⟨[], [], [], rfl, rfl, by simp, by simp, rfl, .calm rfl rfl rfl⟩

/-- Every event in its time keeps the accounts. -/
theorem step (delayed : Delayed delay watch) {event : Event α}
    (timely : watch.Timely delay event) : Delayed delay (watch.step event) := by
  have running := Watch.running_step delayed.running timely
  have moves := Watch.step_moves delayed.running timely
  obtain ⟨taken, waiting, done, accounts⟩ := delayed.accounts
  generalize watch.step event = after at moves running
  have same (kept : after.issues = watch.issues) :
      after.sought = watch.sought := by
    rw [Watch.sought, Watch.sought, kept]
  cases moves with
  | rests delays typed issues =>
      obtain ⟨more, issues, others⟩ := issues
      have sought := Watch.sought_append issues fun issue member => (others issue member).1
      exact ⟨running, delays ▸ delayed.wait, typed ▸ delayed.apart, taken, waiting, done,
        accounts.rests delays typed sought⟩
  | types text apart delays typed issues =>
      refine ⟨running, delays ▸ delayed.wait, ?_, taken, _, done,
        accounts.types delays typed (same issues)⟩
      rw [typed, List.reverse_cons]
      refine List.pairwise_append.mpr ⟨delayed.apart, List.pairwise_singleton _ _, ?_⟩
      intro earlier member later isLast
      rw [List.mem_singleton.mp isLast]
      exact apart earlier (List.mem_reverse.mp member)
  | waits milliseconds texts tickets soon delays typed issues =>
      exact ⟨running, delays ▸ delayed.wait, typed ▸ delayed.apart, taken, waiting, done,
        accounts.waits texts tickets soon delays typed (same issues)⟩
  | arms ticket texts delays typed issues =>
      obtain ⟨last, others, rfl, rfl, rfl⟩ := List.map_eq_cons_iff.mp (accounts.texts.trans texts)
      refine ⟨running, delays ▸ delayed.wait, typed ▸ delayed.apart, taken ++ [last], others, done,
        accounts.arms delayed.apart ticket ?_ typed (same issues)⟩
      rw [delays, delayed.wait]
  | rings alarm elapsed delays typed issues =>
      exact ⟨running, delays ▸ delayed.wait, typed ▸ delayed.apart, taken, waiting, done,
        accounts.rings alarm elapsed delays typed (same issues)⟩
  | settles ticket tickets delays typed search page issues =>
      obtain ⟨last, still⟩ := accounts.settles tickets delays typed search page issues
      exact ⟨running, delays ▸ delayed.wait, typed ▸ delayed.apart, taken, waiting, _, still⟩
  | drops tickets stale _ _ _ => exact absurd (accounts.not_drops tickets) stale

/-- The accounts are kept in every prompt row of events. -/
theorem run (endpoint : String) (config : Config) (extras : List Parameter)
    {events : List (Event α)}
    (prompt : (Watch.start endpoint config extras).Prompt config.searchDelay events) :
    Delayed config.searchDelay ((Watch.start endpoint config extras).run events) :=
  Watch.run_induction (fun _ _ timely delayed => delayed.step timely)
    (.start endpoint config extras) prompt

end Delayed

end UtilityBilling.Table
