/-
# One logout per session

However calls, sign-ins and sign-outs take turns, a session is ended by one caller at
most. What a caller does is told by the history: the swap of the latch finds out whether
anyone has closed it since it was last opened, and only a caller that found it open goes
on. The runs of the hook are charged to the openings of the latch, and every refused
call returns with the news that the session has ended, whoever ended it.
-/

import Mathlib.Data.List.Perm.Subperm
import UtilityBilling.Proofs.Api.Interleaving

namespace UtilityBilling.Api

open UtilityBilling.Files (Volume)
open UtilityBilling.Session (Instant)
open UtilityBilling.Url (Address)

/-! ## Histories of callers -/

/-- Whether a deed leaves the latch closed that may have been open. -/
def Deed.closes : Deed → Bool
  | .latched _ | .shut => true
  | _ => false

/-- All that a caller has done before a deed, the latest first. -/
def Deed.before : Deed → List Deed
  | .latched _ | .stored | .shut => []
  | .cleared => [.latched false]
  | .hooked => [.cleared, .latched false]
  | .opened => [.stored]
  | .forgot => [.shut]
  | .announced => [.forgot, .shut]

namespace Crowd

/-- What a caller has done, the latest first. -/
def deedsOf (index : Nat) (past : List Entry) : List Deed :=
  (past.filter fun entry => entry.caller == index).map Entry.deed

/-- How often something was done. -/
def timesDone (deed : Deed) (past : List Entry) : Nat :=
  past.countP fun entry => entry.deed == deed

/-- What was done since the latch was last opened. -/
def sinceOpened (past : List Entry) : List Entry :=
  past.takeWhile fun entry => entry.deed != .opened

/-- Whether the latch was closed since it was last opened. -/
def closedSince (past : List Entry) : Bool :=
  (sinceOpened past).any fun entry => entry.deed.closes

/-- A swap finds the latch closed exactly if it was closed since it was last opened. -/
def Observant : Entry → List Entry → Prop
  | ⟨_, .latched wasClosed⟩, earlier => wasClosed = closedSince earlier
  | _, _ => True

/-- Whoever goes on to clear the credential and to run the hook had closed the latch, and
nobody else had closed it since it was last opened. -/
def FirstToClose : Entry → List Entry → Prop
  | ⟨caller, .cleared⟩, earlier | ⟨caller, .hooked⟩, earlier =>
    ∃ between before, earlier = between ++ ⟨caller, .latched false⟩ :: before ∧
      closedSince before = false
  | _, _ => True

/-- Every caller does its deeds in order and each of them once. -/
def InOrder (entry : Entry) (earlier : List Entry) : Prop :=
  deedsOf entry.caller earlier = entry.deed.before

theorem closedSince_cons (entry : Entry) (past : List Entry) :
    closedSince (entry :: past) =
      if entry.deed = .opened then false else entry.deed.closes || closedSince past := by
  unfold closedSince sinceOpened
  by_cases opened : entry.deed = .opened
  · simp [opened]
  · simp [opened]

theorem deedsOf_cons (index : Nat) (entry : Entry) (past : List Entry) :
    deedsOf index (entry :: past) =
      if entry.caller = index then entry.deed :: deedsOf index past
      else deedsOf index past := by
  unfold deedsOf
  by_cases own : entry.caller = index
  · simp [own]
  · simp [own]

theorem timesDone_cons (deed : Deed) (entry : Entry) (past : List Entry) :
    timesDone deed (entry :: past) =
      timesDone deed past + if entry.deed = deed then 1 else 0 := by
  simp [timesDone, List.countP_cons]

end Crowd

/-- What a caller on its way has done so far, the latest first. -/
inductive Trail (settings : Settings) : Caller → List Deed → Prop where
  | fresh {errand : Errand} : Trail settings ⟨errand, .fresh⟩ []
  | clearing {url : Address} {reply : Reply} (refused : RefusedByBackend settings url reply) :
      Trail settings ⟨.call url reply, .clearing⟩ [.latched false]
  | hooking {url : Address} {reply : Reply} (refused : RefusedByBackend settings url reply) :
      Trail settings ⟨.call url reply, .hooking⟩ [.cleared, .latched false]
  | ended {url : Address} {reply : Reply} (refused : RefusedByBackend settings url reply) :
      Trail settings ⟨.call url reply, .returned (.error sessionExpired)⟩
        [.hooked, .cleared, .latched false]
  | late {url : Address} {reply : Reply} (refused : RefusedByBackend settings url reply) :
      Trail settings ⟨.call url reply, .returned (.error sessionExpired)⟩ [.latched true]
  | passed {url : Address} {reply : Reply} {result : Result Unit}
      (other : ¬ RefusedByBackend settings url reply) :
      Trail settings ⟨.call url reply, .returned result⟩ []
  | opening {url : Address} {reply : Reply} :
      Trail settings ⟨.signIn url reply, .opening⟩ [.stored]
  | signedIn {url : Address} {reply : Reply} :
      Trail settings ⟨.signIn url reply, .returned (.ok ())⟩ [.opened, .stored]
  | failed {url : Address} {reply : Reply} {error : Error} :
      Trail settings ⟨.signIn url reply, .returned (.error error)⟩ []
  | leaving : Trail settings ⟨.signOut, .clearing⟩ [.shut]
  | emptied : Trail settings ⟨.signOut, .hooking⟩ [.forgot, .shut]
  | left : Trail settings ⟨.signOut, .returned (.ok ())⟩ [.announced, .forgot, .shut]

/-- How many single actions a caller has still before it, at most. -/
def Stage.rest : Stage → Nat
  | .fresh => 3
  | .clearing => 2
  | .hooking | .opening => 1
  | .returned _ => 0

variable {settings : Settings} {caller : Caller} {deeds : List Deed}

/-- A single action brings a caller forward, in the order of its deeds. -/
theorem Trail.move (trail : Trail settings caller deeds) (state : State) :
    Trail settings ⟨caller.errand, (caller.move settings state).stage⟩
        ((caller.move settings state).deed?.toList ++ deeds) ∧
      (∀ deed ∈ (caller.move settings state).deed?, deeds = deed.before) ∧
      (caller.move settings state).stage.rest ≤ caller.stage.rest - 1 := by
  cases trail with
  | @fresh errand =>
      cases errand with
      | call url reply =>
          by_cases refused : RefusedByBackend settings url reply
          · cases closed : state.latchClosed with
            | true =>
                simpa [Caller.move, refused, State.closeLatch, closed, Deed.before, Stage.rest]
                  using Trail.late refused
            | false =>
                simpa [Caller.move, refused, State.closeLatch, closed, Deed.before, Stage.rest]
                  using Trail.clearing refused
          · simpa [Caller.move, refused, Stage.rest] using Trail.passed refused
      | signIn url reply =>
          cases brought : loginToken url reply with
          | ok token => simpa [Caller.move, brought, Deed.before, Stage.rest] using Trail.opening
          | error error => simpa [Caller.move, brought, Stage.rest] using Trail.failed
      | signOut =>
          exact ⟨.leaving, by simp [Caller.move, Deed.before],
            by simp [Caller.move, Stage.rest]⟩
  | clearing refused =>
      exact ⟨.hooking refused, by simp [Caller.move, Deed.before], Nat.le_refl _⟩
  | hooking refused => exact ⟨.ended refused, by simp [Caller.move, Deed.before], Nat.le_refl _⟩
  | ended refused => exact ⟨.ended refused, by simp [Caller.move], Nat.le_refl _⟩
  | late refused => exact ⟨.late refused, by simp [Caller.move], Nat.le_refl _⟩
  | passed other => exact ⟨.passed other, by simp [Caller.move], Nat.le_refl _⟩
  | opening => exact ⟨.signedIn, by simp [Caller.move, Deed.before], Nat.le_refl _⟩
  | signedIn => exact ⟨.signedIn, by simp [Caller.move], Nat.le_refl _⟩
  | failed => exact ⟨.failed, by simp [Caller.move], Nat.le_refl _⟩
  | leaving => exact ⟨.emptied, by simp [Caller.move, Deed.before], Nat.le_refl _⟩
  | emptied => exact ⟨.left, by simp [Caller.move, Deed.before], Nat.le_refl _⟩
  | left => exact ⟨.left, by simp [Caller.move], Nat.le_refl _⟩

/-- What a single action does to the session is told by its deed. -/
structure Move.Told (move : Move) (state : State) : Prop where
  latch : move.state.latchClosed =
    match move.deed? with
    | some deed => if deed = .opened then false else deed.closes || state.latchClosed
    | none => state.latchClosed
  signOuts : move.state.signOuts =
    state.signOuts + if move.deed? = some .hooked ∨ move.deed? = some .announced then 1 else 0
  swap : ∀ wasClosed, move.deed? = some (.latched wasClosed) → wasClosed = state.latchClosed

/-- Every single action does what its deed tells. -/
theorem Caller.move_told (settings : Settings) (state : State) (caller : Caller) :
    (caller.move settings state).Told state := by
  obtain ⟨errand, stage⟩ := caller
  cases errand with
  | call url reply =>
      cases stage with
      | fresh =>
          by_cases refused : RefusedByBackend settings url reply
          · cases closed : state.latchClosed with
            | true =>
                constructor <;> simp [move, refused, State.closeLatch, closed, Deed.closes]
            | false =>
                constructor <;> simp [move, refused, State.closeLatch, closed, Deed.closes]
          · have kept := standing_receive state refused
            have latch : (receive settings state url reply).2.latchClosed = state.latchClosed :=
              congrArg Standing.latchClosed kept
            have signOuts : (receive settings state url reply).2.signOuts = state.signOuts :=
              congrArg Standing.signOuts kept
            constructor <;> simp [move, refused, latch, signOuts]
      | clearing =>
          constructor <;> simp [move, Deed.closes, State.clearCredential, State.warn]
      | hooking => constructor <;> simp [move, Deed.closes, State.runHook]
      | opening => constructor <;> simp [move]
      | returned result => constructor <;> simp [move]
  | signIn url reply =>
      cases stage with
      | fresh =>
          cases brought : loginToken url reply with
          | ok token => constructor <;> simp [move, brought, Deed.closes, State.storeToken]
          | error error => constructor <;> simp [move, brought]
      | opening => constructor <;> simp [move, State.openLatch]
      | clearing => constructor <;> simp [move]
      | hooking => constructor <;> simp [move]
      | returned result => constructor <;> simp [move]
  | signOut =>
      cases stage with
      | fresh => constructor <;> simp [move, Deed.closes, State.closeLatch]
      | clearing => constructor <;> simp [move, Deed.closes, State.clearCredential]
      | hooking => constructor <;> simp [move, Deed.closes, State.runHook]
      | opening => constructor <;> simp [move]
      | returned result => constructor <;> simp [move]

/-! ## State and history -/

namespace Crowd

variable {crowd : Crowd}

/-- The session is what the history says, and every caller is where its deeds have
brought it. -/
structure Accounted (settings : Settings) (crowd : Crowd) : Prop where
  latch : crowd.state.latchClosed = closedSince crowd.past
  signOuts : crowd.state.signOuts =
    timesDone .hooked crowd.past + timesDone .announced crowd.past
  observant : Lawful Observant crowd.past
  inOrder : Lawful InOrder crowd.past
  trails : ∀ index caller, crowd.callers[index]? = some caller →
    Trail settings caller (deedsOf index crowd.past)
  strangers : ∀ index, crowd.callers[index]? = none → deedsOf index crowd.past = []

theorem deedsOf_note (index other : Nat) (past : List Entry) (deed? : Option Deed) :
    deedsOf other (note index past deed?) =
      if index = other then deed?.toList ++ deedsOf other past else deedsOf other past := by
  cases deed? with
  | none => simp [note]
  | some deed => simp [note, deedsOf_cons]

section Note

variable {move : Move} {state : State} {past : List Entry}

/-- The latch stays what the history says of it. -/
theorem latch_note (told : move.Told state) (index : Nat)
    (latch : state.latchClosed = closedSince past) :
    move.state.latchClosed = closedSince (note index past move.deed?) := by
  have after := told.latch
  cases done : move.deed? with
  | none =>
      rw [done] at after
      exact after.trans latch
  | some deed =>
      rw [done] at after
      rw [note, closedSince_cons, ← latch]
      exact after

/-- Every run of the hook is in the history. -/
theorem signOuts_note (told : move.Told state) (index : Nat)
    (signOuts : state.signOuts = timesDone .hooked past + timesDone .announced past) :
    move.state.signOuts = timesDone .hooked (note index past move.deed?) +
      timesDone .announced (note index past move.deed?) := by
  rw [told.signOuts, signOuts]
  cases move.deed? with
  | none => rfl
  | some deed =>
      rw [note, timesDone_cons, timesDone_cons]
      cases deed <;> simp <;> omega

/-- A swap sees what the history says of the latch. -/
theorem observant_note (told : move.Told state) (index : Nat)
    (latch : state.latchClosed = closedSince past) (observant : Lawful Observant past) :
    Lawful Observant (note index past move.deed?) := by
  cases done : move.deed? with
  | none => exact observant
  | some deed =>
      refine ⟨?_, observant⟩
      cases deed with
      | latched wasClosed =>
          change wasClosed = closedSince past
          rw [← latch]
          exact told.swap wasClosed done
      | _ => trivial

end Note

namespace Accounted

theorem start (credentials : CredentialStore) (volume : Volume) (now : Instant) :
    Accounted settings (Crowd.start credentials volume now) where
  latch := rfl
  signOuts := rfl
  observant := .nil
  inOrder := .nil
  trails := by simp [Crowd.start]
  strangers := by simp [Crowd.start, deedsOf]

/-- A caller that arrives has done nothing. -/
theorem arrive (accounted : Accounted settings crowd) (errand : Errand) :
    Accounted settings (crowd.step settings (.arrive errand)) where
  latch := accounted.latch
  signOuts := accounted.signOuts
  observant := accounted.observant
  inOrder := accounted.inOrder
  trails := by
    intro index caller found
    change (crowd.callers ++ [⟨errand, .fresh⟩])[index]? = some caller at found
    rcases Nat.lt_trichotomy index crowd.callers.length with before | rfl | behind
    · rw [List.getElem?_append_left before] at found
      exact accounted.trails index caller found
    · rw [List.getElem?_concat_length, Option.some.injEq] at found
      have nothing := accounted.strangers crowd.callers.length
        (List.getElem?_eq_none (Nat.le_refl _))
      change Trail settings caller (deedsOf crowd.callers.length crowd.past)
      rw [nothing, ← found]
      exact .fresh
    · rw [List.getElem?_eq_none (by simp; omega)] at found
      cases found
  strangers := by
    intro index absent
    change (crowd.callers ++ [⟨errand, .fresh⟩])[index]? = none at absent
    apply accounted.strangers
    rw [List.getElem?_eq_none_iff, List.length_append] at absent
    exact List.getElem?_eq_none (Nat.le_trans (Nat.le_add_right _ _) absent)

/-- A single action is accounted for by its deed. -/
theorem act (accounted : Accounted settings crowd) {index : Nat} {caller : Caller}
    (found : crowd.callers[index]? = some caller) :
    Accounted settings (crowd.step settings (.act index)) := by
  have bound := (List.getElem?_eq_some_iff.mp found).1
  have trail := accounted.trails index caller found
  obtain ⟨forward, orderly, _⟩ := trail.move crowd.state
  have told := caller.move_told settings crowd.state
  have stepped : crowd.step settings (.act index) =
      { state := (caller.move settings crowd.state).state
        callers := crowd.callers.set index
          ⟨caller.errand, (caller.move settings crowd.state).stage⟩
        past := note index crowd.past (caller.move settings crowd.state).deed? } := by
    rw [step, found]
  rw [stepped]
  constructor
  case latch => exact latch_note told index accounted.latch
  case signOuts => exact signOuts_note told index accounted.signOuts
  case observant => exact observant_note told index accounted.latch accounted.observant
  case inOrder =>
    change Lawful InOrder (note index crowd.past (caller.move settings crowd.state).deed?)
    cases done : (caller.move settings crowd.state).deed? with
    | none => exact accounted.inOrder
    | some deed => exact ⟨orderly deed done, accounted.inOrder⟩
  case trails =>
    intro other moved at_other
    change Trail settings moved (deedsOf other (note index crowd.past _))
    change (crowd.callers.set index _)[other]? = some moved at at_other
    rw [deedsOf_note]
    by_cases own : index = other
    · subst own
      rw [if_pos rfl]
      rw [List.getElem?_set_self bound, Option.some.injEq] at at_other
      rw [← at_other]
      exact forward
    · rw [if_neg own]
      rw [List.getElem?_set_ne own] at at_other
      exact accounted.trails other moved at_other
  case strangers =>
    intro other absent
    change (crowd.callers.set index _)[other]? = none at absent
    change deedsOf other (note index crowd.past _) = []
    rw [List.getElem?_eq_none_iff, List.length_set] at absent
    rw [deedsOf_note, if_neg (by omega)]
    exact accounted.strangers other (List.getElem?_eq_none absent)

theorem step (accounted : Accounted settings crowd) (event : Event) :
    Accounted settings (crowd.step settings event) := by
  cases event with
  | arrive errand => exact accounted.arrive errand
  | act index =>
      cases found : crowd.callers[index]? with
      | none =>
          have idle : crowd.step settings (.act index) = crowd := by
            rw [Crowd.step, found]
          rw [idle]
          exact accounted
      | some caller => exact accounted.act found

/-- State and history agree after every run. -/
theorem run (accounted : Accounted settings crowd) (events : List Event) :
    Accounted settings (crowd.run settings events) :=
  List.foldlRecOn (motive := Accounted settings) events (Crowd.step settings) accounted
    fun _ holds event _ => holds.step event

end Accounted

/-- Who has done something. -/
def doersOf (deed : Deed) (past : List Entry) : List Nat :=
  (past.filter fun entry => entry.deed == deed).map Entry.caller

theorem length_doersOf (deed : Deed) (past : List Entry) :
    (doersOf deed past).length = timesDone deed past := by
  simp [doersOf, timesDone, List.countP_eq_length_filter]

theorem mem_doersOf {deed : Deed} {index : Nat} {past : List Entry} :
    index ∈ doersOf deed past ↔ ⟨index, deed⟩ ∈ past := by
  unfold doersOf
  simp only [List.mem_map, List.mem_filter, beq_iff_eq]
  constructor
  · rintro ⟨entry, ⟨member, rfl⟩, rfl⟩
    exact member
  · intro member
    exact ⟨⟨index, deed⟩, ⟨member, rfl⟩, rfl⟩

theorem mem_deedsOf {deed : Deed} {index : Nat} {past : List Entry} :
    deed ∈ deedsOf index past ↔ ⟨index, deed⟩ ∈ past := by
  unfold deedsOf
  simp only [List.mem_map, List.mem_filter, beq_iff_eq]
  constructor
  · rintro ⟨entry, ⟨member, rfl⟩, rfl⟩
    exact member
  · intro member
    exact ⟨⟨index, deed⟩, ⟨member, rfl⟩, rfl⟩

variable {past : List Entry}

/-- Nobody does anything twice. -/
theorem doersOf_nodup (inOrder : Lawful InOrder past) (deed : Deed) :
    (doersOf deed past).Nodup := by
  induction past with
  | nil => exact .nil
  | cons entry earlier ih =>
      obtain ⟨index, done⟩ := entry
      obtain ⟨orderly, lawful⟩ := inOrder
      by_cases same : done = deed
      · subst same
        have first : index ∉ doersOf done earlier := by
          intro again
          -- No deed has to come before itself.
          have member := mem_deedsOf.mpr (mem_doersOf.mp again)
          rw [show deedsOf index earlier = done.before from orderly] at member
          cases done <;> simp [Deed.before] at member
        simpa [doersOf] using List.nodup_cons.mpr ⟨first, ih lawful⟩
      · simpa [doersOf, same] using ih lawful

/-- A deed is not done more often than one that has to come before it. -/
theorem timesDone_le_of_before (inOrder : Lawful InOrder past) {deed first : Deed}
    (needed : first ∈ deed.before) : timesDone deed past ≤ timesDone first past := by
  rw [← length_doersOf, ← length_doersOf]
  apply List.Subperm.length_le
  apply List.subperm_of_subset (doersOf_nodup inOrder deed)
  intro index does
  obtain ⟨later, earlier, rfl⟩ := List.append_of_mem (mem_doersOf.mp does)
  have orderly : deedsOf index earlier = deed.before := inOrder.at_entry
  rw [← orderly] at needed
  have member := mem_deedsOf.mp needed
  exact mem_doersOf.mpr (List.mem_append_right later (List.mem_cons_of_mem _ member))

/-- Each swap that finds the latch open is charged to an opening before it; the first
one may have found it open from the start. -/
theorem timesDone_latched_le (observant : Lawful Observant past) :
    timesDone (.latched false) past + (if closedSince past then 0 else 1) ≤
      timesDone .opened past + 1 := by
  induction past with
  | nil => exact Nat.le_refl _
  | cons entry earlier ih =>
      obtain ⟨index, deed⟩ := entry
      obtain ⟨seen, lawful⟩ := observant
      have before := ih lawful
      have charged : timesDone (.latched false) earlier ≤ timesDone .opened earlier + 1 :=
        Nat.le_trans (Nat.le_add_right _ _) before
      rw [timesDone_cons, timesDone_cons, closedSince_cons]
      cases deed with
      | latched wasClosed =>
          have found : wasClosed = closedSince earlier := seen
          -- A winning swap uses up the one that an open latch leaves over.
          cases wasClosed with
          | true => simpa [Deed.closes] using charged
          | false =>
              rw [← found] at before
              simpa [Deed.closes] using before
      | opened => simpa using charged
      | shut => simpa [Deed.closes] using charged
      | _ => simpa [Deed.closes] using before

/-- The end of a session does not run the hook more often than the latch was opened, and
once more. -/
theorem timesDone_hooked_le (observant : Lawful Observant past)
    (inOrder : Lawful InOrder past) :
    timesDone .hooked past ≤ timesDone .opened past + 1 := by
  calc timesDone .hooked past
      ≤ timesDone (.latched false) past :=
        timesDone_le_of_before inOrder (by simp [Deed.before])
    _ ≤ timesDone (.latched false) past + (if closedSince past then 0 else 1) :=
        Nat.le_add_right _ _
    _ ≤ timesDone .opened past + 1 := timesDone_latched_le observant

/-- Whoever has swapped an open latch was the first to close it. -/
theorem exists_first_of_mem (observant : Lawful Observant past) {index : Nat}
    (swapped : .latched false ∈ deedsOf index past) :
    ∃ between before, past = between ++ ⟨index, .latched false⟩ :: before ∧
      closedSince before = false := by
  obtain ⟨between, before, rfl⟩ := List.append_of_mem (mem_deedsOf.mp swapped)
  have found : false = closedSince before := observant.at_entry
  exact ⟨between, before, rfl, found.symm⟩

theorem firstToClose_of_observant (observant : Lawful Observant past)
    (inOrder : Lawful InOrder past) : Lawful FirstToClose past := by
  induction past with
  | nil => exact .nil
  | cons entry earlier ih =>
      obtain ⟨index, deed⟩ := entry
      obtain ⟨orderly, ordered⟩ := inOrder
      refine ⟨?_, ih observant.2 ordered⟩
      change deedsOf index earlier = deed.before at orderly
      cases deed with
      | cleared =>
          apply exists_first_of_mem observant.2
          simp [orderly, Deed.before]
      | hooked =>
          apply exists_first_of_mem observant.2
          simp [orderly, Deed.before]
      | _ => trivial

/-! ## Every caller comes through -/

namespace Accounted

/-- An event leaves a caller its errand and brings it forward if it is its turn. -/
theorem exists_stage_step (accounted : Accounted settings crowd) {index : Nat}
    {caller : Caller} (found : crowd.callers[index]? = some caller) (event : Event) :
    ∃ stage, (crowd.step settings event).callers[index]? = some ⟨caller.errand, stage⟩ ∧
      stage.rest ≤ caller.stage.rest - if event.isTurnOf index then 1 else 0 := by
  have bound := (List.getElem?_eq_some_iff.mp found).1
  cases event with
  | arrive errand =>
      refine ⟨caller.stage, ?_, Nat.le_refl _⟩
      change (crowd.callers ++ [⟨errand, .fresh⟩])[index]? = some caller
      rw [List.getElem?_append_left bound, found]
  | act other =>
      cases there : crowd.callers[other]? with
      | none =>
          have apart : other ≠ index := by
            rintro rfl
            rw [found] at there
            cases there
          refine ⟨caller.stage, ?_, by simp [Event.isTurnOf, apart]⟩
          rw [Crowd.step, there]
          exact found
      | some actor =>
          rw [Crowd.step, there]
          change ∃ stage, (crowd.callers.set other _)[index]? = some ⟨caller.errand, stage⟩ ∧ _
          by_cases own : other = index
          · subst own
            obtain rfl : caller = actor := Option.some.inj (found.symm.trans there)
            obtain ⟨_, _, forward⟩ := (accounted.trails other caller found).move crowd.state
            refine ⟨_, List.getElem?_set_self bound, ?_⟩
            simpa [Event.isTurnOf] using forward
          · refine ⟨caller.stage, ?_, by simp [Event.isTurnOf, own]⟩
            rw [List.getElem?_set_ne own, found]

/-- Every turn of a caller brings it forward, whatever happens between its turns. -/
theorem exists_stage_run (accounted : Accounted settings crowd) {index : Nat}
    {caller : Caller} (found : crowd.callers[index]? = some caller) (events : List Event) :
    ∃ stage, (crowd.run settings events).callers[index]? = some ⟨caller.errand, stage⟩ ∧
      stage.rest ≤ caller.stage.rest - events.countP (Event.isTurnOf index) := by
  induction events generalizing crowd caller with
  | nil => exact ⟨caller.stage, found, Nat.le_refl _⟩
  | cons event events ih =>
      obtain ⟨next, moved, nearer⟩ := accounted.exists_stage_step found event
      obtain ⟨stage, arrived, nearest⟩ := ih (accounted.step event) moved
      refine ⟨stage, arrived, ?_⟩
      rw [List.countP_cons]
      change stage.rest ≤ next.rest - _ at nearest
      omega

/-- A refused call that has returned has learned that the session has ended, and has
ended it by itself if it found the latch open. -/
theorem returned_of_refused (accounted : Accounted settings crowd) {index : Nat}
    {url : Address} {reply : Reply} {result : Result Unit}
    (found : crowd.callers[index]? = some ⟨.call url reply, .returned result⟩)
    (refused : RefusedByBackend settings url reply) :
    result = .error sessionExpired ∧
      (deedsOf index crowd.past = [.latched true] ∨
        deedsOf index crowd.past = [.hooked, .cleared, .latched false]) := by
  have trail := accounted.trails index _ found
  generalize deedsOf index crowd.past = deeds at trail
  cases trail with
  | ended _ => exact ⟨rfl, .inr rfl⟩
  | late _ => exact ⟨rfl, .inl rfl⟩
  | passed other => exact absurd refused other

/-- A refused call returns within three turns of its own. -/
theorem returns_of_refused (accounted : Accounted settings crowd) {index : Nat} {url : Address}
    {reply : Reply} {stage : Stage}
    (found : crowd.callers[index]? = some ⟨.call url reply, stage⟩)
    (refused : RefusedByBackend settings url reply) {later : List Event}
    (turns : 3 ≤ later.countP (Event.isTurnOf index)) :
    (crowd.run settings later).callers[index]? =
      some ⟨.call url reply, .returned (.error sessionExpired)⟩ := by
  obtain ⟨final, arrived, nearest⟩ := accounted.exists_stage_run found later
  have most : stage.rest ≤ 3 := by
    cases stage <;> simp [Stage.rest]
  have through : final.rest = 0 := by
    change final.rest ≤ stage.rest - _ at nearest
    omega
  cases final with
  | returned result =>
      obtain ⟨news, _⟩ := (accounted.run later).returned_of_refused arrived refused
      rw [arrived, news]
  | _ => simp [Stage.rest] at through

end Accounted

end Crowd

/-- One logout per session. Whatever callers come and however they take turns, a
caller that ends the session finds the latch open exactly if nobody has closed it since it
was last opened, and only such a caller goes on to clear the credential and to run the
hook, each once. So these runs of the hook are no more than the openings of the latch and
one. Every call that the backend refuses returns after three turns of its own at the
latest, with the news that the session has ended. -/
theorem one_logout_per_session (settings : Settings) (credentials : CredentialStore)
    (volume : Volume) (now : Instant) (events : List Crowd.Event) :
    let crowd := (Crowd.start credentials volume now).run settings events
    Lawful Crowd.Observant crowd.past ∧ Lawful Crowd.FirstToClose crowd.past ∧
      Lawful Crowd.InOrder crowd.past ∧
      Crowd.timesDone .hooked crowd.past ≤ Crowd.timesDone .opened crowd.past + 1 ∧
      crowd.state.signOuts =
        Crowd.timesDone .hooked crowd.past + Crowd.timesDone .announced crowd.past ∧
      ∀ index url reply stage, crowd.callers[index]? = some ⟨.call url reply, stage⟩ →
        RefusedByBackend settings url reply →
          (∀ result, stage = .returned result → result = .error sessionExpired ∧
            (Crowd.deedsOf index crowd.past = [.latched true] ∨
              Crowd.deedsOf index crowd.past = [.hooked, .cleared, .latched false])) ∧
          ∀ later, 3 ≤ later.countP (Crowd.Event.isTurnOf index) →
            (crowd.run settings later).callers[index]? =
              some ⟨.call url reply, .returned (.error sessionExpired)⟩ := by
  intro crowd
  have accounted : Crowd.Accounted settings crowd :=
    (Crowd.Accounted.start credentials volume now).run events
  refine ⟨accounted.observant,
    Crowd.firstToClose_of_observant accounted.observant accounted.inOrder, accounted.inOrder,
    Crowd.timesDone_hooked_le accounted.observant accounted.inOrder, accounted.signOuts, ?_⟩
  intro index url reply stage found refused
  constructor
  · rintro result rfl
    exact accounted.returned_of_refused found refused
  · intro later turns
    exact accounted.returns_of_refused found refused turns

/-- Two calls are refused at the same time, and the hook runs once. -/
example :
    let base : Address :=
      { scheme := "http".toList, host := some (.domain "h".toList), path := .segments [[]] }
    let refusal := Errand.call base (.ok { status := .unauthorized })
    let events : List Crowd.Event :=
      [.arrive refusal, .arrive refusal, .act 0, .act 1, .act 0, .act 1, .act 0]
    let crowd := Crowd.start (.memory (some "stale")) {} ⟨0, 0⟩
    (crowd.run { baseUrl := base } events).state.signOuts = 1 := by
  decide

end UtilityBilling.Api
