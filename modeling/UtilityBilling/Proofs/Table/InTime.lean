/-
# Runs of a table in time

A run in time lets the driver, the fetches and the alarm go on in an order of its own, and takes
answers when they are due. Each of its doings is one of the events of a course all the same, so
that each run in time shows what some course shows: what holds of every course holds of every
run in time.
-/

import UtilityBilling.Proofs.Table.Tracking

namespace UtilityBilling.Table

variable {σ α : Type}

namespace Timeline

variable {run after : Timeline σ α} {course : Course α} {due : List (Arrival α)} {left : Nat}

/-- The run after a step of the driver. -/
def driven (run : Timeline σ α) : Timeline σ α :=
  let after := { run with binder := run.binder.drive.1 }
  match run.binder.drive.2 with
  | some view => after.see (.painted view)
  | none => after

theorem Tracks.drive (tracks : run.Tracks course due left) : run.driven.Comes course due left := by
  obtain ⟨alike, painted⟩ := tracks.follows.binder.drive
  have arrivals : run.driven.arrivals = run.arrivals := by
    unfold driven
    simp only
    split <;> rfl
  have binder : run.driven.binder = run.binder.drive.1 := by
    unfold driven
    simp only
    split <;> rfl
  have seen : run.driven.seen.map Prod.snd =
      run.seen.map Prod.snd ++ run.binder.drive.2.toList.map .painted := by
    unfold driven
    cases run.binder.drive.2 <;> simp [see]
  have quiet : (Event.drive : Event α).isAct = false := rfl
  refine tracks.next quiet ⟨?_, ?_⟩ ?_
  · rw [binder]
    exact alike
  · rw [seen, course.seen_drive, painted, tracks.follows.seen]
  · rw [arrivals]
    exact tracks.expects.mono (.refl _) fun fetch member asked _ => by
      obtain ⟨later, isLater, same, sameAsked⟩ := Binder.exists_fetch_drive member
      exact ⟨later, isLater, same, sameAsked.trans asked⟩

theorem Tracks.driveFor (tracks : run.Tracks course due left) (steps : Nat) :
    (driveFor steps run).Comes course due left := by
  induction steps generalizing run course with
  | zero => exact tracks.comes
  | succ steps ih => exact tracks.drive.trans ih

/-- The run after a fetch has asked the source. -/
def asked (run : Timeline σ α) (fetch : Fetch) : Timeline σ α :=
  { run.see (.asked fetch.parameters) with
    binder := run.binder.ask fetch.request
    world := (run.source run.world fetch.parameters).2 }

/-- A new fetch asks the source, and waits for its answer unless that comes at once. -/
theorem wakeFetch_of_new {fetch : Fetch} (uncancelled : fetch.cancelled = false)
    (new : fetch.asked = false) :
    let reply := (run.source run.world fetch.parameters).1
    run.wakeFetch fetch =
      if reply.delay = 0 then (run.asked fetch).take fetch.request reply
      else
        { run.asked fetch with
          arrivals := run.arrivals ++
            [⟨fetch.request, run.binder.clock + reply.delay, reply⟩] } := by
  simp only [wakeFetch, uncancelled, new]
  rfl

namespace Tracks

/-- The answer to a load is taken. -/
theorem take {arrival : Arrival α} {rest : List (Arrival α)}
    (tracks : run.Tracks course (arrival :: rest) left) :
    (run.take arrival.request arrival.reply).Comes course rest left := by
  obtain ⟨fetch, member, same, asked⟩ := tracks.expects.asked arrival.request (by simp)
  obtain ⟨found, isFound⟩ := Course.exists_fetch? member asked
  rw [same] at isFound
  let answered : Event α := .answer arrival.request arrival.reply.result
  have stepped : course.step answered =
      { binder := course.binder.answer arrival.request arrival.reply.result
        past := .answered arrival.request arrival.reply.result :: course.past } := by
    simp only [answered, Course.step, isFound]
  have quiet : answered.isAct = false := rfl
  refine tracks.next quiet ⟨?_, ?_⟩ ?_
  · rw [stepped]
    have noted : ({ run.binder with log := run.binder.log ++ arrival.reply.log } : Binder α).Alike
        course.binder := tracks.follows.binder
    exact noted.answer arrival.request arrival.reply.result
  · rw [stepped]
    exact tracks.follows.seen
  · rw [stepped]
    have others := (List.nodup_cons.mp tracks.expects.distinct).1
    have kept := tracks.expects.post (List.sublist_cons_self _ _) others
      (Binder.answerMessage arrival.request arrival.reply.result)
    exact ⟨kept.distinct, kept.asked⟩

variable {fetch : Fetch}

/-- A fetch that sees its cancellation ends, and the answer on its way for it is dropped. -/
theorem retire (tracks : run.Tracks course [] left) (member : fetch ∈ run.binder.fetches)
    (cancelled : fetch.cancelled = true) : (run.wakeFetch fetch).Comes course [] left := by
  rw [← tracks.follows.binder.fetches] at member
  obtain ⟨found, isFound⟩ := Course.exists_fetch? member cancelled
  let retires : Event α := .retire fetch.request
  have stepped : course.step retires =
      { binder := course.binder.retire fetch.request
        past := .retired fetch.request :: course.past } := by
    simp only [retires, Course.step, isFound]
  have woken : run.wakeFetch fetch =
      { run with
        binder := run.binder.retire fetch.request
        arrivals := run.arrivals.filter fun arrival => arrival.request != fetch.request } :=
    if_pos cancelled
  have quiet : retires.isAct = false := rfl
  rw [woken]
  refine tracks.next quiet ⟨?_, ?_⟩ ?_
  · rw [stepped]
    exact tracks.follows.binder.retire fetch.request
  · rw [stepped]
    exact tracks.follows.seen
  · rw [stepped]
    refine tracks.expects.post (List.filter_sublist.map _) (fun expected => ?_) _
    obtain ⟨arrival, isLeft, same⟩ := List.mem_map.mp expected
    have apart := (List.mem_filter.mp isLeft).2
    rw [same] at apart
    simp at apart

/-- A fetch is found by its load, when no other fetch is for the same load. -/
theorem fetch?_eq (tracks : run.Tracks course due left) (member : fetch ∈ run.binder.fetches)
    {condition : Fetch → Bool} (holds : condition fetch = true) :
    course.fetch? fetch.request condition = some fetch := by
  have present : fetch ∈ course.binder.fetches := by
    rw [tracks.follows.binder.fetches]
    exact member
  obtain ⟨found, isFound⟩ := Course.exists_fetch? present holds
  have isFetch := List.mem_of_find?_eq_some isFound
  have same : found.request = fetch.request := by
    have belongs := List.find?_some isFound
    simp only [Bool.and_eq_true, beq_iff_eq] at belongs
    exact belongs.1
  rw [tracks.follows.binder.fetches] at isFetch
  rw [isFound, List.inj_on_of_nodup_map tracks.distinct isFetch member same]

/-- A new fetch asks the source, and there will be an answer to it. -/
theorem ask (tracks : run.Tracks course [] left) (member : fetch ∈ run.binder.fetches)
    (new : fetch.asked = false) {arrival : Arrival α} (answers : arrival.request = fetch.request) :
    (run.asked fetch).Comes course [arrival] left := by
  have found : course.fetch? fetch.request (fun fetch => !fetch.asked) = some fetch :=
    tracks.fetch?_eq member (by simp [new])
  let asks : Event α := .ask fetch.request
  have stepped : course.step asks =
      { binder := course.binder.ask fetch.request
        past := .asked fetch.request fetch.parameters :: course.past } := by
    simp only [asks, Course.step, found]
  have quiet : asks.isAct = false := rfl
  refine tracks.next quiet ⟨?_, ?_⟩ ?_
  · rw [stepped]
    exact tracks.follows.binder.ask fetch.request
  · rw [stepped]
    have seen : course.seen = run.seen.map Prod.snd := tracks.follows.seen.symm
    simp only [Course.seen] at seen
    simp [Course.seen, asked, see, Entry.sight?, seen]
  · rw [stepped]
    have fresh : fetch.request ∉ run.arrivals.map Arrival.request := by
      intro expected
      obtain ⟨other, isOther, same, hasAsked⟩ := tracks.expects.asked fetch.request expected
      rw [tracks.follows.binder.fetches] at isOther
      rw [List.inj_on_of_nodup_map tracks.distinct isOther member same, new] at hasAsked
      cases hasAsked
    have stays : ∀ other ∈ course.binder.fetches,
        ∃ later ∈ (course.binder.ask fetch.request).fetches, later.request = other.request ∧
          (other.asked = true ∨ other.request = fetch.request → later.asked = true) := by
      intro other isOther
      refine ⟨_, List.mem_map_of_mem isOther, ?_⟩
      split
      case isTrue => exact ⟨rfl, fun _ => rfl⟩
      case isFalse apart => exact ⟨rfl, fun either => either.resolve_right apart⟩
    refine ⟨List.nodup_cons.mpr ⟨by rwa [answers], tracks.expects.distinct⟩, ?_⟩
    intro request expected
    rcases List.mem_cons.mp expected with rfl | old
    · rw [← tracks.follows.binder.fetches] at member
      obtain ⟨later, isLater, same, hasAsked⟩ := stays fetch member
      exact ⟨later, isLater, same.trans answers.symm, hasAsked (.inr rfl)⟩
    · obtain ⟨other, isOther, same, hasAsked⟩ := tracks.expects.asked request old
      obtain ⟨later, isLater, sameLater, stillAsked⟩ := stays other isOther
      exact ⟨later, isLater, sameLater.trans same, stillAsked (.inl hasAsked)⟩

/-- An answer that takes its time is on its way. -/
theorem send {arrival : Arrival α} (tracks : run.Tracks course [arrival] left) :
    Tracks { run with arrivals := run.arrivals ++ [arrival] } course [] left := by
  have order : ((run.arrivals ++ [arrival]).map Arrival.request).Perm
      (([arrival] ++ run.arrivals).map Arrival.request) := List.perm_append_comm.map _
  exact ⟨⟨tracks.follows.binder, tracks.follows.seen⟩, tracks.numbered, tracks.room,
    order.nodup_iff.mpr tracks.expects.distinct,
    fun request expected => tracks.expects.asked request (order.subset expected)⟩

/-- A fetch that is let go on ends, asks, or goes on waiting. -/
theorem wakeFetch (tracks : run.Tracks course [] left) (member : fetch ∈ run.binder.fetches) :
    (run.wakeFetch fetch).Comes course [] left := by
  cases cancelled : fetch.cancelled with
  | true => exact tracks.retire member cancelled
  | false =>
      cases asked : fetch.asked with
      | true =>
          have waits : run.wakeFetch fetch = run := by
            simp [Timeline.wakeFetch, cancelled, asked]
          rw [waits]
          exact tracks.comes
      | false =>
          let reply := (run.source run.world fetch.parameters).1
          let arrival : Arrival α := ⟨fetch.request, run.binder.clock + reply.delay, reply⟩
          have comes : (run.asked fetch).Comes course [arrival] left :=
            tracks.ask member asked rfl
          rw [wakeFetch_of_new cancelled asked]
          split
          · exact comes.trans fun still => still.take
          · exact comes.trans fun still => still.send.comes

end Tracks

/-- The fetches for other loads are as before when one was let go on. -/
theorem mem_fetches_wakeFetch {fetch other : Fetch} (member : other ∈ run.binder.fetches)
    (apart : other.request ≠ fetch.request) : other ∈ (run.wakeFetch fetch).binder.fetches := by
  have left : other ∈ run.binder.fetches.filter fun one => one.request != fetch.request :=
    List.mem_filter.mpr ⟨member, by simpa using apart⟩
  have asks : other ∈ (run.binder.ask fetch.request).fetches :=
    List.mem_map.mpr ⟨other, member, if_neg apart⟩
  cases cancelled : fetch.cancelled with
  | true =>
      simp only [wakeFetch, cancelled, if_true, Binder.retire, Binder.fetches_post]
      exact left
  | false =>
      cases asked : fetch.asked with
      | true => simpa [wakeFetch, cancelled, asked] using member
      | false =>
          rw [wakeFetch_of_new cancelled asked]
          split
          · simp only [take, Timeline.asked, Binder.fetches_answer]
            exact List.mem_filter.mpr ⟨asks, by simpa using apart⟩
          · exact asks

/-- Fetches are let go on one after the other. -/
theorem Tracks.wakeFetches (tracks : run.Tracks course [] left) {fetches : List Fetch}
    (distinct : (fetches.map Fetch.request).Nodup)
    (members : ∀ fetch ∈ fetches, fetch ∈ run.binder.fetches) :
    (fetches.foldl Timeline.wakeFetch run).Comes course [] left ∧
      ∀ other ∈ run.binder.fetches, other.request ∉ fetches.map Fetch.request →
        other ∈ (fetches.foldl Timeline.wakeFetch run).binder.fetches := by
  induction fetches generalizing run course with
  | nil => exact ⟨tracks.comes, fun other member _ => member⟩
  | cons fetch rest ih =>
      obtain ⟨new, restDistinct⟩ := List.nodup_cons.mp distinct
      obtain ⟨member, restMembers⟩ := List.forall_mem_cons.mp members
      have apart : ∀ other ∈ rest, other.request ≠ fetch.request := fun other isOther same =>
        new (same ▸ List.mem_map_of_mem isOther)
      have stillMembers : ∀ other ∈ rest, other ∈ (run.wakeFetch fetch).binder.fetches :=
        fun other isOther => mem_fetches_wakeFetch (restMembers other isOther) (apart other isOther)
      have comes := tracks.wakeFetch member
      have ⟨_, still⟩ := comes
      refine ⟨comes.trans fun next => (ih next restDistinct stillMembers).1, ?_⟩
      intro other isOther notAmong
      obtain ⟨notFirst, notRest⟩ := not_or.mp fun among => notAmong (List.mem_cons.mpr among)
      exact (ih still restDistinct stillMembers).2 other
        (mem_fetches_wakeFetch isOther notFirst) notRest

theorem Tracks.ring (tracks : run.Tracks course due left) :
    Comes { run with binder := run.binder.ring } course due left := by
  have quiet : (Event.ring : Event α).isAct = false := rfl
  have follows : Follows { run with binder := run.binder.ring } (course.step .ring) :=
    ⟨tracks.follows.binder.ring, tracks.follows.seen⟩
  refine tracks.next quiet follows ⟨tracks.expects.distinct, ?_⟩
  change ∀ request ∈ _, ∃ fetch ∈ course.binder.ring.fetches, _
  rw [course.binder.fetches_ring]
  exact tracks.expects.asked

/-- Fetches are let go on and the alarm goes off. -/
theorem Tracks.wake (tracks : run.Tracks course [] left) : run.wake.Comes course [] left := by
  unfold Timeline.wake
  split
  case isFalse => exact (tracks.wakeFetches tracks.distinct fun _ => id).1
  case isTrue =>
    simp only [List.partition_eq_filter_filter]
    generalize (run.binder.alarm.map Alarm.loadsBefore).getD 0 = loads
    let older : Fetch → Bool := fun fetch => decide (fetch.request.value ≤ loads)
    let before := run.binder.fetches.filter older
    let newer := run.binder.fetches.filter (not ∘ older)
    have distinct : ∀ part : List Fetch, part.Sublist run.binder.fetches →
        (part.map Fetch.request).Nodup :=
      fun part sublist => tracks.distinct.sublist (sublist.map _)
    have first := tracks.wakeFetches (distinct before List.filter_sublist)
      fun _ => List.mem_of_mem_filter
    have stillMembers : ∀ fetch ∈ newer,
        fetch ∈ (before.foldl Timeline.wakeFetch run).binder.ring.fetches := by
      intro fetch member
      obtain ⟨isFetch, isNewer⟩ := List.mem_filter.mp member
      rw [Binder.fetches_ring]
      refine first.2 fetch isFetch fun among => ?_
      obtain ⟨other, isBefore, same⟩ := List.mem_map.mp among
      obtain ⟨isOther, isOlder⟩ := List.mem_filter.mp isBefore
      rw [List.inj_on_of_nodup_map tracks.distinct isOther isFetch same] at isOlder
      simp [isOlder] at isNewer
    exact first.1.trans fun still => still.ring.trans fun rung =>
      (rung.wakeFetches (distinct newer List.filter_sublist) stillMembers).1

theorem Tracks.settleFor (tracks : run.Tracks course [] left) (turns : Nat) :
    (settleFor turns run).Comes course [] left := by
  induction turns generalizing run course with
  | zero => exact tracks.driveFor _
  | succ turns ih =>
      exact ((tracks.driveFor _).trans fun drained => drained.wake).trans ih

/-- Answers are taken one after the other. -/
theorem Tracks.takes (tracks : run.Tracks course due left) :
    (due.foldl (fun run arrival => run.take arrival.request arrival.reply) run).Comes
      course [] left := by
  induction due generalizing run course with
  | nil => exact tracks.comes
  | cons arrival rest ih => exact tracks.take.trans ih

theorem Tracks.deliver (tracks : run.Tracks course [] left) :
    run.deliver.Comes course [] left := by
  let isDue : Arrival α → Bool := fun arrival => decide (arrival.due ≤ run.binder.clock)
  let due := run.arrivals.filter isDue
  let later := run.arrivals.filter (not ∘ isDue)
  have order : ((due ++ later).map Arrival.request).Perm (run.arrivals.map Arrival.request) :=
    (List.filter_append_perm isDue run.arrivals).map _
  have split : Tracks { run with arrivals := later } course due left :=
    ⟨⟨tracks.follows.binder, tracks.follows.seen⟩, tracks.numbered, tracks.room,
      order.nodup_iff.mpr tracks.expects.distinct,
      fun request expected => tracks.expects.asked request (order.subset expected)⟩
  rw [Timeline.deliver, List.partition_eq_filter_filter]
  exact split.takes

/-- To a course it does not matter what time it is. -/
theorem Tracks.withClock (tracks : run.Tracks course due left) (time : Nat) :
    (run.withClock time).Tracks course due left :=
  ⟨⟨tracks.follows.binder, tracks.follows.seen⟩, tracks.numbered, tracks.room, tracks.expects⟩

theorem Tracks.advanceFor (tracks : run.Tracks course [] left) (fuel finish : Nat) :
    (advanceFor fuel finish run).Comes course [] left := by
  induction fuel generalizing run course with
  | zero => exact (tracks.withClock finish).comes
  | succ fuel ih =>
      unfold Timeline.advanceFor
      split
      case h_1 => exact (tracks.withClock finish).comes
      case h_2 time _ =>
        split
        · exact ((tracks.withClock time).deliver.trans fun taken => taken.settleFor turns).trans ih
        · exact (tracks.withClock finish).comes

/-- What the user of a table can do, and how a run goes on between. -/
inductive Act where
  | act (action : Action)
  | stop
  | release
  | vary (extras : List Parameter)
  | settle
  | advance (milliseconds : Nat)

/-- The run after its user has done something. -/
def act (run : Timeline σ α) : Act → Timeline σ α
  | .act action => run.send action.message
  | .stop => run.stop
  | .release => run.release
  | .vary extras => run.withExtras extras
  | .settle => run.settle
  | .advance milliseconds => run.advance milliseconds

namespace Tracks

theorem fewer (tracks : run.Tracks course due (left + 1)) : run.Tracks course due left :=
  ⟨tracks.follows, tracks.numbered, Nat.lt_of_succ_lt tracks.room, tracks.expects⟩

/-- An action of the user reaches the driver, unless the user has let go. -/
theorem sendAction (tracks : run.Tracks course [] (left + 1)) (action : Action) :
    (run.send action.message).Comes course [] left := by
  unfold Timeline.send
  split
  case isTrue => exact tracks.fewer.comes
  case isFalse =>
    let acts : Event α := .act action
    have fetches : (course.binder.send action.message).fetches = course.binder.fetches := by
      unfold Binder.send
      split <;> rfl
    have more := course.loads_step_le acts
    have room := tracks.room
    refine ⟨[acts], ⟨tracks.follows.binder.send action.message, tracks.follows.seen⟩,
      tracks.numbered.step acts, ?_, tracks.expects.distinct, ?_⟩
    · change (loads (course.step acts).past).length + (course.step acts).binder.ahead + left < _
      have isAct : acts.isAct = true := rfl
      rw [isAct, if_pos rfl] at more
      omega
    · change ∀ request ∈ _, ∃ fetch ∈ (course.binder.send action.message).fetches, _
      rw [fetches]
      exact tracks.expects.asked

theorem stopBinder (tracks : run.Tracks course due left) :
    Comes { run with binder := run.binder.stop } course due left := by
  have quiet : (Event.stop : Event α).isAct = false := rfl
  have follows : Follows { run with binder := run.binder.stop } (course.step .stop) :=
    ⟨tracks.follows.binder.stop, tracks.follows.seen⟩
  exact tracks.next quiet follows ⟨tracks.expects.distinct, tracks.expects.asked⟩

theorem vary (tracks : run.Tracks course due left) (extras : List Parameter) :
    (run.withExtras extras).Comes course due left := by
  let varies : Event α := .vary extras
  have quiet : varies.isAct = false := rfl
  have follows : (run.withExtras extras).Follows (course.step varies) :=
    ⟨tracks.follows.binder.withExtras extras, tracks.follows.seen⟩
  exact tracks.next quiet follows ⟨tracks.expects.distinct, tracks.expects.asked⟩

theorem act (tracks : run.Tracks course [] (left + 1)) (act : Act) :
    (run.act act).Comes course [] left := by
  cases act with
  | act action => exact tracks.sendAction action
  | stop =>
      simp only [Timeline.act, Timeline.stop]
      split
      · exact tracks.fewer.comes
      · exact tracks.fewer.stopBinder
  | release =>
      refine tracks.fewer.stopBinder.trans fun {next} stopped => ⟨[], ?_⟩
      exact ⟨⟨stopped.follows.binder, stopped.follows.seen⟩, stopped.numbered, stopped.room,
        stopped.expects⟩
  | vary extras => exact tracks.fewer.vary extras
  | settle => exact tracks.fewer.settleFor turns
  | advance milliseconds =>
      exact (tracks.fewer.settleFor turns).trans fun settled => settled.advanceFor _ _

theorem acts (acts : List Act) (tracks : run.Tracks course [] acts.length) :
    (acts.foldl Timeline.act run).Comes course [] 0 := by
  induction acts generalizing run course with
  | nil => exact tracks.comes
  | cons first rest ih => exact (tracks.act first).trans ih

end Tracks

/-- Runs in time are courses. Whatever the source answers and the user does, there is a
course in which the table comes to the same state, apart from the time, and which shows the
same, as long as the user does not do so much that the numbers of loads come round again. -/
theorem exists_course (endpoint : String) (config : Config) (extras : List Parameter)
    (source : Source σ α) (world : σ) (acts : List Act) (few : acts.length + 1 < UInt64.size) :
    ∃ events, (acts.foldl act (start (.start endpoint config extras) source world)).Follows
      ((Course.start endpoint config extras).run events) := by
  let fresh : Timeline σ α :=
    { binder := .start endpoint config extras, source := source, world := world }
  have tracks : fresh.Tracks (.start endpoint config extras) [] acts.length := by
    refine ⟨⟨.refl _, rfl⟩, .start endpoint config extras, ?_, List.nodup_nil, by rintro _ ⟨⟩⟩
    change 0 + 1 + acts.length < _
    omega
  have begun : (start (.start endpoint config extras) source world).Comes
      (.start endpoint config extras) [] acts.length := tracks.settleFor turns
  obtain ⟨events, follows, _⟩ := begun.trans (Tracks.acts acts)
  exact ⟨events, follows⟩

end Timeline

end UtilityBilling.Table
