/-
# The last request wins

What a table shows follows from its history alone. The history tells which load was
issued last and whether it still waits for its answer; an answer is accepted if it
belongs to that load. Every accepted answer that is no cancellation is painted as one
frame, in the order of acceptance, and the frame shows the query of that very load.
-/

import Mathlib.Data.List.Forall2
import UtilityBilling.Proofs.Table.Answers

namespace UtilityBilling.Table

variable {α : Type}

/-- The load issued last, as long as no answer to it has been taken. -/
def awaited : List (Entry α) → Option Load
  | [] => none
  | .issued load :: _ => some load
  | .taken request _ :: earlier => (awaited earlier).filter fun load => load.request != request
  | _ :: earlier => awaited earlier

/-- The load for which an answer is accepted after a history, if it is accepted. -/
def accepted? (past : List (Entry α)) (request : RequestId) : Option Load :=
  (awaited past).filter fun load => load.request == request

/-- The total that the last accepted page gave; zero before there is one. -/
def knownTotal : List (Entry α) → UInt64
  | [] => 0
  | .taken request (.ok page) :: earlier =>
    if (accepted? earlier request).isSome then page.total else knownTotal earlier
  | _ :: earlier => knownTotal earlier

/-- An accepted answer that is to be seen. -/
structure Showing (α : Type) where
  load : Load
  /-- The page, or the text of the error. -/
  answer : Except String (Page α)
  /-- The total that was known before. -/
  totalBefore : UInt64

namespace Showing

/-- The total that is known after the answer. -/
def total (showing : Showing α) : UInt64 :=
  match showing.answer with
  | .ok page => page.total
  | .error _ => showing.totalBefore

/-- What stands between the clearing of the surface and the pager. -/
def lines (showing : Showing α) : List (Stroke α) :=
  match showing.answer with
  | .ok ⟨[], _⟩ => [.message "No data"]
  | .ok page => page.items.map .row
  | .error text => [.message text]

end Showing

/-- The accepted answers of a history that are to be seen, the latest first. -/
def showings : List (Entry α) → List (Showing α)
  | [] => []
  | .taken request outcome :: earlier =>
    match accepted? earlier request, visible? outcome with
    | some load, some answer => ⟨load, answer, knownTotal earlier⟩ :: showings earlier
    | _, _ => showings earlier
  | _ :: earlier => showings earlier

/-- A painted view is the frame of an accepted answer: it clears the surface, shows
the answer and then one pager, and it is about the query of the answered load. -/
structure Shows (view : View α) (showing : Showing α) : Prop where
  frame : view.frame = .clear :: (showing.lines ++ [.pager view.pager view.sort])
  page : view.pager.page = showing.load.query.page
  limit : view.pager.limit = showing.load.query.limit
  search : view.search = showing.load.query.search
  sort : view.sort = showing.load.query.sort
  total : view.pager.total = showing.total

/-- The state of a table is what its history says: the load in flight is the awaited
one, the query is the one that this load was issued for, and every frame so far shows
an accepted answer. -/
structure Recorded (course : Course α) : Prop where
  clean : course.binder.state.dirty = false
  inFlight : course.binder.state.inFlight = (awaited course.past).map Load.request
  query : ∀ load ∈ awaited course.past, load.query = course.binder.state.query
  total : course.binder.state.query.totalCount = knownTotal course.past
  shown : List.Forall₂ Shows (views course.past) (showings course.past)

namespace Recorded

variable {course after : Course α}

theorem start (endpoint : String) (config : Config) (extras : List Parameter) :
    Recorded (Course.start (α := α) endpoint config extras) where
  clean := rfl
  inFlight := rfl
  query := by simp [Course.start, awaited]
  total := rfl
  shown := .nil

/-- The answer to the load in flight is accepted, for the awaited load. -/
theorem exists_awaited (recorded : Recorded course) {request : RequestId}
    (inFlight : course.binder.state.inFlight = some request) :
    ∃ load, awaited course.past = some load ∧ load.request = request := by
  rw [recorded.inFlight] at inFlight
  exact Option.map_eq_some_iff.mp inFlight

/-- An answer that comes too late is not accepted. -/
theorem accepted?_of_stale (recorded : Recorded course) {request : RequestId}
    (stale : course.binder.state.inFlight ≠ some request) :
    accepted? course.past request = none := by
  rw [recorded.inFlight] at stale
  cases awaits : awaited course.past with
  | none => simp [accepted?, awaits]
  | some load =>
      have other : load.request ≠ request := by simpa [awaits] using stale
      simp [accepted?, awaits, other]

/-- An answer that comes too late leaves the awaited load awaited. -/
theorem awaited_taken_of_stale (recorded : Recorded course) {request : RequestId}
    (stale : course.binder.state.inFlight ≠ some request)
    (outcome : Except LoadFailure (Page α)) :
    awaited (.taken request outcome :: course.past) = awaited course.past := by
  rw [recorded.inFlight] at stale
  rw [awaited]
  cases awaits : awaited course.past with
  | none => rfl
  | some load =>
      have other : load.request ≠ request := by simpa [awaits] using stale
      simp [other]

/-- An event that leaves the state as it is, and of which nothing is seen that concerns
the taking of answers, keeps state and history together. -/
theorem of_alike (recorded : Recorded course)
    (state : after.binder.state.Alike course.binder.state)
    (awaits : awaited after.past = awaited course.past)
    (known : knownTotal after.past = knownTotal course.past)
    (painted : views after.past = views course.past)
    (visible : showings after.past = showings course.past) : Recorded after where
  clean := by rw [state.dirty, recorded.clean]
  inFlight := by rw [state.inFlight, awaits, recorded.inFlight]
  query := by rw [state.query, awaits]; exact recorded.query
  total := by rw [state.query, known, recorded.total]
  shown := by rw [painted, visible]; exact recorded.shown

/-- What is painted after the load in flight was answered shows the answer, under the
query of the load. -/
theorem shows_take {state : State α} {load : Load} (query : load.query = state.query)
    {outcome : Except LoadFailure (Page α)} {answer : Except String (Page α)}
    (visible : visible? outcome = some answer) :
    Shows (state.take outcome).settled.view ⟨load, answer, state.query.totalCount⟩ := by
  match outcome, visible with
  | .ok ⟨items, total⟩, rfl =>
      constructor
      case frame => cases items <;> rfl
      case total => rfl
      all_goals rw [query]; rfl
  | .error (.error text), rfl =>
      constructor
      case frame => rfl
      case total => rfl
      all_goals rw [query]; rfl

/-- The answer to the load in flight gives the total that is known from then on. -/
theorem totalCount_take (recorded : Recorded course) {request : RequestId}
    (accepts : (accepted? course.past request).isSome)
    (outcome : Except LoadFailure (Page α)) :
    (course.binder.state.take outcome).query.totalCount =
      knownTotal (.taken request outcome :: course.past) := by
  cases outcome with
  | ok page => simp [State.take, State.showPage, knownTotal, accepts]
  | error failure => cases failure <;> exact recorded.total

/-- The answer to the load in flight keeps state and history together. -/
theorem take (recorded : Recorded course) {request : RequestId}
    {outcome : Except LoadFailure (Page α)}
    (inFlight : course.binder.state.inFlight = some request)
    (state : after.binder.state = (course.binder.state.take outcome).settled)
    (past : after.past =
      ((visible? outcome).map fun _ =>
        (course.binder.state.take outcome).settled.view).toList.map .painted ++
      .taken request outcome :: course.past) : Recorded after := by
  obtain ⟨load, awaits, belongs⟩ := recorded.exists_awaited inFlight
  have query := recorded.query load awaits
  have accepts : accepted? course.past request = some load := by
    simp [accepted?, awaits, belongs]
  have closed : awaited (.taken request outcome :: course.past) = none := by
    simp [awaited, awaits, belongs]
  have known := recorded.totalCount_take (accepts ▸ rfl : (accepted? course.past request).isSome) outcome
  cases visible : visible? outcome with
  | none =>
      have taken : after.past = .taken request outcome :: course.past := by
        rw [past, visible]; rfl
      constructor
      · rw [state]; rfl
      · rw [state, taken, closed]; exact State.take_inFlight _ _
      · rw [taken, closed]; simp
      · rw [state, taken]; exact known
      · have same : showings after.past = showings course.past := by
          simp [taken, showings, accepts, visible]
        rw [same, taken]
        exact recorded.shown
  | some answer =>
      have painted : after.past = .painted (course.binder.state.take outcome).settled.view ::
          .taken request outcome :: course.past := by
        rw [past, visible]; rfl
      have more : showings after.past =
          ⟨load, answer, knownTotal course.past⟩ :: showings course.past := by
        simp [painted, showings, accepts, visible]
      have shows := shows_take query visible
      rw [recorded.total] at shows
      constructor
      · rw [state]; rfl
      · rw [state, painted]
        exact (State.take_inFlight _ _).trans (congrArg (Option.map Load.request) closed).symm
      · intro load awaits
        rw [painted] at awaits
        exact absurd (awaits.symm.trans closed) (by simp)
      · rw [state, painted]; exact known
      · rw [more, painted]
        exact .cons shows recorded.shown

/-- Every event keeps state and history together. -/
theorem step (recorded : Recorded course) (event : Event α) :
    Recorded (course.step event) := by
  cases Course.step_changes recorded.clean event with
  | quiet state _ _ past => apply recorded.of_alike state <;> rw [past]
  | asks _ state _ _ past => apply recorded.of_alike (.of_eq state) <;> rw [past] <;> rfl
  | posts origin _ state _ _ past =>
      apply recorded.of_alike (.of_eq state) <;> rw [past] <;> cases origin <;> rfl
  | issues _ total _ inFlight query clean _ _ past =>
      constructor
      · exact clean
      · rw [inFlight, past]; rfl
      · rw [past]; rintro load ⟨rfl⟩; exact query.symm
      · rw [query, past]; exact total.trans recorded.total
      · rw [past]; exact recorded.shown
  | @takes request outcome _ hears _ _ past =>
      cases hears with
      | stale other state =>
          have refused := recorded.accepted?_of_stale other
          apply recorded.of_alike (.of_eq state) <;> rw [past]
          · exact recorded.awaited_taken_of_stale other outcome
          · cases outcome <;> simp [knownTotal, refused]
          · rfl
          · simp [showings, refused]
      | accepts inFlight state => exact recorded.take inFlight state past

/-- State and history are together in every course. -/
theorem run (endpoint : String) (config : Config) (extras : List Parameter)
    (events : List (Event α)) :
    Recorded ((Course.start endpoint config extras).run events) :=
  List.foldlRecOn (motive := Recorded) events Course.step (.start endpoint config extras)
    fun _ recorded event _ => recorded.step event

end Recorded

/-- If an answer is accepted, it belongs to the load issued last. -/
def AcceptedForLast : Entry α → List (Entry α) → Prop
  | .taken request _, earlier => ∀ load ∈ accepted? earlier request,
    (loads earlier).head? = some load ∧ load.request = request
  | _, _ => True

/-- An answer is accepted exactly if it belongs to the load issued last. -/
def BelongsToLast : Entry α → List (Entry α) → Prop
  | .taken request _, earlier =>
    accepted? earlier request = (loads earlier).head?.filter fun load => load.request == request
  | _, _ => True

/-- The load that waits for its answer is the one issued last. -/
theorem head?_loads_of_awaited {past : List (Entry α)} {load : Load}
    (awaits : awaited past = some load) : (loads past).head? = some load := by
  induction past with
  | nil => cases awaits
  | cons entry earlier ih =>
      cases entry with
      | issued last => exact awaits
      | taken request outcome =>
          obtain ⟨waits, _⟩ := Option.filter_eq_some_iff.mp awaits
          exact ih waits
      | _ => exact ih awaits

theorem lawful_acceptedForLast (past : List (Entry α)) : Lawful AcceptedForLast past := by
  induction past with
  | nil => exact .nil
  | cons entry earlier ih =>
      refine ⟨?_, ih⟩
      cases entry with
      | taken request outcome =>
          intro load accepts
          obtain ⟨awaits, belongs⟩ := Option.filter_eq_some_iff.mp accepts
          exact ⟨head?_loads_of_awaited awaits, beq_iff_eq.mp belongs⟩
      | _ => trivial

/-- The first answer to a load is accepted exactly if that load was issued last. -/
theorem accepted?_of_not_mem {request : RequestId} :
    ∀ past : List (Entry α), request ∉ takenRequests past →
      accepted? past request = (loads past).head?.filter fun load => load.request == request
  | [], _ => rfl
  | .issued _ :: _, _ => rfl
  | .taken other _ :: earlier, first => by
      rw [takenRequests_taken, List.mem_cons, not_or] at first
      have ih := accepted?_of_not_mem earlier first.2
      rw [show loads (.taken other _ :: earlier) = loads earlier from rfl, ← ih]
      rw [accepted?, awaited, accepted?, Option.filter_filter]
      congr 1
      funext load
      by_cases belongs : load.request = request
      · simp [belongs, first.1]
      · simp [belongs]
  | .asked _ _ :: earlier, first => accepted?_of_not_mem earlier first
  | .answered _ _ :: earlier, first => accepted?_of_not_mem earlier first
  | .retired _ :: earlier, first => accepted?_of_not_mem earlier first
  | .painted _ :: earlier, first => accepted?_of_not_mem earlier first

/-- If no load is answered twice, only answers to the load issued last are accepted. -/
theorem belongsToLast_of_nodup {past : List (Entry α)} (once : (takenRequests past).Nodup) :
    Lawful BelongsToLast past := by
  induction past with
  | nil => exact .nil
  | cons entry earlier ih =>
      cases entry with
      | taken request outcome =>
          have split := List.nodup_cons.mp once
          exact ⟨accepted?_of_not_mem earlier split.1, ih split.2⟩
      | _ => exact ⟨trivial, ih once⟩

/-- The last request wins. In every course of a table the frames are those of the
accepted answers that are no cancellations, one for each and in their order, and each
shows the query of its load; an answer is accepted only for the load issued last. What
the driver takes for an answer was brought by a fetch of that load, and the source was
asked for what the load was issued for. As long as the numbers of loads do not come round
again, every load is answered at most once, and no answer to the load issued last is
turned away. -/
theorem last_request_wins (endpoint : String) (config : Config) (extras : List Parameter)
    (events : List (Event α)) :
    let past := ((Course.start endpoint config extras).run events).past
    List.Forall₂ Shows (views past) (showings past) ∧ Lawful AcceptedForLast past ∧
      Lawful Founded past ∧
      ((loads past).length < UInt64.size →
        (takenRequests past).Nodup ∧ Lawful BelongsToLast past) := by
  intro past
  refine ⟨(Recorded.run endpoint config extras events).shown, lawful_acceptedForLast past,
    (Traced.run endpoint config extras events).lawful, fun bounded => ?_⟩
  have concerned := (Numbered.run endpoint config extras events).once bounded
  have once : (takenRequests past).Nodup := (List.nodup_append.mp concerned).1
  exact ⟨once, belongsToLast_of_nodup once⟩

/-- The answer to a load that was replaced is not painted. -/
example :
    let first : RequestId := ⟨1⟩
    let second : RequestId := ⟨2⟩
    let events : List (Event Nat) :=
      [.drive, .ask first, .act .refresh, .drive, .answer first (.ok ⟨[10], 1⟩), .drive,
        .ask second, .answer second (.ok ⟨[20], 1⟩), .drive]
    (views ((Course.start "/items" {} []).run events).past).map View.body = [.rows [20]] := by
  decide

end UtilityBilling.Table
