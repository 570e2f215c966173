/-
# The phases of a poll

A poll that starts on an idle poller and that nobody takes over from passes from phase to
phase as its schedule says: it asks, waits for the answer, rests and asks again, until an
answer ends it or its checks are used up. In each phase everything about the run is known,
and every step that the poll can take leads to a later phase.
-/

import UtilityBilling.Proofs.Task.Order
import UtilityBilling.Proofs.Task.Schedule

namespace UtilityBilling.Task

variable {σ : Type}

/-! ## Pollers with one poll -/

namespace Poller

variable {poller : Poller} {poll : Poll}

theorem polls_modify_single (single : poller.polls = [poll]) (change : Poll → Poll) :
    (poller.modify poll.number change).polls = [change poll] := by
  simp [modify, single]

theorem poll?_single (single : poller.polls = [poll]) :
    poller.poll? poll.number = some poll := by
  simp [poll?, single]

/-- The poller with more in its log. -/
def noting (poller : Poller) (records : List Log.Record) : Poller :=
  { poller with log := poller.log ++ records }

/-- The poller with the warning about an answer logged. -/
def warned (poller : Poller) (answer : Api.Result Status) : Poller :=
  poller.noting (answerWarning? answer).toList

/-- An answer that ends a poll, at any check. -/
theorem answer_of_conclusion (uncancelled : poll.cancelled = false) {answer : Api.Result Status}
    {result : PollResult} (ends : conclusion? poll.taskId answer = some result) :
    poller.answer poll answer = (poller.warned answer).resolve poll.number result := by
  simp only [Poller.answer, uncancelled, judge_of_conclusion ends, warned]
  rfl

/-- A pending answer to the last check. -/
theorem answer_of_spent (uncancelled : poll.cancelled = false) {answer : Api.Result Status}
    {status : Status} (pending : pending? answer = some status)
    (spent : poller.allowed ≤ poll.attempts) :
    poller.answer poll answer =
      (poller.warned answer).resolve poll.number (.error (.timedOut poll.attempts)) := by
  simp only [Poller.answer, uncancelled, judge_of_pending pending, if_pos spent, warned]
  rfl

/-- A pending answer to another check. -/
theorem answer_of_pending (uncancelled : poll.cancelled = false) {answer : Api.Result Status}
    {status : Status} (pending : pending? answer = some status)
    (unspent : ¬ poller.allowed ≤ poll.attempts) :
    poller.answer poll answer =
      (poller.warned answer).modify poll.number fun poll =>
        { poll with stage := .resting (poller.clock + poller.interval) } := by
  simp only [Poller.answer, uncancelled, judge_of_pending pending, if_neg unspent, warned]
  rfl

@[simp]
theorem clock_answer (poller : Poller) (poll : Poll) (answer : Api.Result Status) :
    (poller.answer poll answer).clock = poller.clock := by
  unfold Poller.answer
  split
  · rfl
  · simp only
    split <;> rfl

end Poller

namespace Timeline

/-- The run after an answer has been taken. -/
theorem take_eq (run : Timeline σ) (poll : Poll) (reply : Reply) :
    run.take poll reply =
      { run with
        poller := (run.poller.noting reply.log).answer poll reply.result
        seen := run.seen ++ (reported? poll run.poller.allowed reply.result).toList.map
          fun status => (run.poller.clock, .pending poll.number status) } := by
  unfold take
  simp only
  split
  case h_1 status reported => simp [see, reported, Poller.noting]
  case h_2 reported => simp [reported, Poller.noting]

/-- The run after a poll has asked. -/
def asked (run : Timeline σ) (poll : Poll) : Timeline σ :=
  { run with
    poller := run.poller.check poll
    world := (run.source run.world poll.taskId).2
    seen := run.seen ++ [(run.poller.clock, .checked poll.taskId)] }

/-- A poll that asks waits for its answer, unless that comes at once. -/
theorem stepPoll_of_ready {run : Timeline σ} {poll asking : Poll} (ready : poll.stage = .ready)
    (uncancelled : poll.cancelled = false)
    (found : (run.asked poll).poller.poll? poll.number = some asking) :
    let reply := (run.source run.world poll.taskId).1
    run.stepPoll poll = some
      (if reply.delay = 0 then (run.asked poll).take asking reply
      else
        { run.asked poll with
          arrivals := run.arrivals ++
            [⟨poll.number, (run.asked poll).poller.clock + reply.delay, reply⟩] }) := by
  simp only [asked] at found ⊢
  simp only [stepPoll, ready, uncancelled, see, Poller.clock_check, found, Bool.false_eq_true,
    if_false]
  split <;> rfl

/-- The only answer on its way is taken when it is due. -/
theorem deliver_single {run : Timeline σ} {arrival : Arrival} {poll : Poll}
    (arrivals : run.arrivals = [arrival]) (due : arrival.due ≤ run.poller.clock)
    (found : run.poller.poll? arrival.number = some poll) :
    run.deliver = { run with arrivals := [] }.take poll arrival.reply := by
  have parts : run.arrivals.partition (fun arrival => arrival.due ≤ run.poller.clock) =
      ([arrival], []) := by
    rw [arrivals, List.partition_eq_filter_filter]
    simp [due]
  simp only [deliver, parts, List.foldl_cons, List.foldl_nil, found]

/-- When no answer is on its way, none is taken. -/
theorem deliver_none {run : Timeline σ} (arrivals : run.arrivals = []) : run.deliver = run := by
  have parts : run.arrivals.partition (fun arrival => arrival.due ≤ run.poller.clock) =
      ([], []) := by
    rw [arrivals]
    rfl
  simp only [deliver, parts, List.foldl_nil]
  rw [← arrivals]

end Timeline

/-- No poll is under way, and no answer on its way. The poller may still know a poll that was
dropped. -/
structure Timeline.Idle (run : Timeline σ) : Prop where
  polls : run.poller.polls = []
  arrivals : run.arrivals = []
  known : ∀ held, run.poller.current = some held → held.number ≤ run.poller.last

/-! ## Phases -/

/-- A poll that starts on an idle poller, with the place of its last question in the row of
questions, and what the poll comes to. -/
structure Plan (σ : Type) where
  run : Timeline σ
  taskId : String
  reports : Bool
  final : Nat
  result : PollResult

/-- Where a poll stands; it asks, waits for or rests before the question of a given place. -/
inductive Phase where
  | entered
  | asking (index : Nat)
  | awaiting (index : Nat)
  | resting (index : Nat)
  | ended
  | gone

/-- What is known about a run with one poll or none. -/
structure Scene where
  /-- How many questions were asked. -/
  asked : Nat
  poll? : Option Poll
  arrivals : List Arrival
  /-- The poll that the poller knows. -/
  current : Option Registration
  sights : List (Nat × Sight)
  /-- What the clock may show. -/
  clock : Nat → Prop

namespace Plan

variable (plan : Plan σ)

/-- The answer to a question. -/
def reply (index : Nat) : Reply := plan.run.replyAt plan.taskId index

def askTime (index : Nat) : Nat := plan.run.askTime plan.taskId index

def answerTime (index : Nat) : Nat := plan.run.answerTime plan.taskId index

/-- What is seen of the first questions. -/
def sights (count : Nat) : List (Nat × Sight) :=
  plan.run.checksSights plan.taskId plan.reports count

/-- The result of the plan is that of its last question. -/
structure Sound : Prop where
  idle : plan.run.Idle
  within : plan.final < plan.run.poller.allowed.toNat
  goesOn : ∀ index < plan.final, conclusion? plan.taskId (plan.reply index).result = none
  ends : conclusion? plan.taskId (plan.reply plan.final).result = some plan.result ∨
    conclusion? plan.taskId (plan.reply plan.final).result = none ∧
      plan.final + 1 = plan.run.poller.allowed.toNat ∧
      plan.result = .error (.timedOut plan.run.poller.allowed)

/-- What the poller keeps of the poll. -/
def registration : Registration := ⟨plan.run.poller.generation + 1, plan.run.nextNumber⟩

/-- The poll after some checks at a stage. -/
def poll (checks : Nat) (stage : PollStage) : Poll :=
  ⟨plan.run.nextNumber, plan.registration.generation, plan.taskId, plan.reports, false,
    UInt32.ofNat checks, stage⟩

/-- What is known about a run in a phase. -/
def scene : Phase → Scene
  | .entered =>
    ⟨0, some (plan.poll 0 .numbered), [], plan.run.poller.current, [],
      (· = plan.run.poller.clock)⟩
  | .asking index =>
    ⟨index, some (plan.poll index .ready), [], some plan.registration, plan.sights index,
      (· = plan.askTime index)⟩
  | .awaiting index =>
    ⟨index + 1, some (plan.poll (index + 1) .checking),
      [⟨plan.run.nextNumber, plan.answerTime index, plan.reply index⟩],
      some plan.registration, plan.sights index ++ [(plan.askTime index, .checked plan.taskId)],
      fun _ => True⟩
  | .resting index =>
    ⟨index, some (plan.poll index (.resting (plan.askTime index))), [],
      some plan.registration, plan.sights index, (· ≤ plan.askTime index)⟩
  | .ended =>
    ⟨plan.final + 1, some (plan.poll (plan.final + 1) (.ended plan.result)), [],
      some plan.registration, plan.sights (plan.final + 1), (· = plan.answerTime plan.final)⟩
  | .gone =>
    ⟨plan.final + 1, none, [], none,
      plan.sights (plan.final + 1) ++
        [(plan.answerTime plan.final, .ended plan.run.nextNumber plan.result)],
      fun _ => True⟩

/-- What is known when the answer to a question has come and is about to be taken. -/
def deciding (index : Nat) : Scene :=
  ⟨index + 1, some (plan.poll (index + 1) .checking), [], some plan.registration,
    plan.sights index ++ [(plan.askTime index, .checked plan.taskId)],
    (· = plan.answerTime index)⟩

/-- A run looks as a scene says. -/
structure Shows (scene : Scene) (now : Timeline σ) : Prop where
  source : now.source = plan.run.source
  interval : now.poller.interval = plan.run.poller.interval
  maxAttempts : now.poller.maxAttempts = plan.run.poller.maxAttempts
  world : now.world = plan.run.worldAt plan.taskId scene.asked
  polls : now.poller.polls = scene.poll?.toList
  arrivals : now.arrivals = scene.arrivals
  current : now.poller.current = scene.current
  seen : now.seen = plan.run.seen ++ scene.sights
  clock : scene.clock now.poller.clock
  notBefore : plan.run.poller.clock ≤ now.poller.clock

/-- The questions of a phase belong to the plan. -/
def Within : Phase → Prop
  | .asking index | .awaiting index | .resting index => index ≤ plan.final
  | _ => True

/-- How many steps and moves of the clock are left at most. -/
def rank : Phase → Nat
  | .entered => 3 * plan.final + 4
  | .asking index => 3 * (plan.final - index) + 3
  | .awaiting index => 3 * (plan.final - index) + 2
  | .resting index => 3 * (plan.final - index) + 4
  | .ended => 1
  | .gone => 0

/-- A run is in a phase of the plan. -/
structure At (phase : Phase) (now : Timeline σ) : Prop where
  within : plan.Within phase
  shows : plan.Shows (plan.scene phase) now

/-- A run is in a later phase than a given one. -/
def Later (phase : Phase) (now : Timeline σ) : Prop :=
  ∃ next, plan.At next now ∧ plan.rank next < plan.rank phase

variable {plan} {now : Timeline σ} {index : Nat}

theorem allowed_eq {scene : Scene} (looks : plan.Shows scene now) :
    now.poller.allowed = plan.run.poller.allowed := by
  rw [Poller.allowed, looks.maxAttempts]
  rfl

/-- Whether the checks are used up. -/
theorem allowed_le_iff (sound : plan.Sound) (within : index ≤ plan.final) :
    plan.run.poller.allowed ≤ UInt32.ofNat (index + 1) ↔
      index + 1 = plan.run.poller.allowed.toNat := by
  have bound := plan.run.poller.allowed.toNat_lt
  have fits := sound.within
  rw [UInt32.le_iff_toNat_le, UInt32.toNat_ofNat', Nat.mod_eq_of_lt (by omega)]
  omega

/-- What is seen of a question and its answer, in two parts. -/
theorem sights_succ (index : Nat) :
    plan.sights (index + 1) =
      plan.sights index ++ [(plan.askTime index, .checked plan.taskId)] ++
        plan.run.reportOf plan.taskId plan.reports index := by
  rw [sights, Timeline.checksSights_succ, Timeline.checkSights, List.append_assoc]
  rfl

/-- What a run shows when an answer has been taken. -/
theorem seen_take (looks : plan.Shows (plan.deciding index) now) :
    (now.take (plan.poll (index + 1) .checking) (plan.reply index)).seen =
      plan.run.seen ++ plan.sights (index + 1) := by
  rw [Timeline.take_eq, looks.seen, sights_succ, List.append_assoc]
  have reported : reported? (plan.poll (index + 1) .checking) now.poller.allowed
      (plan.reply index).result = if plan.reports then pending? (plan.reply index).result
        else none := reported?_eq rfl _ _
  simp only [reported, Timeline.reportOf, deciding]
  have clock : now.poller.clock = plan.answerTime index := looks.clock
  rw [clock]
  split <;> simp [poll, answerTime, reply]

/-- The last answer ends the poll. -/
theorem answer_last (sound : plan.Sound) {poller : Poller}
    (allowed : poller.allowed = plan.run.poller.allowed) :
    poller.answer (plan.poll (plan.final + 1) .checking) (plan.reply plan.final).result =
      (poller.warned (plan.reply plan.final).result).resolve plan.run.nextNumber plan.result := by
  rcases sound.ends with ends | ⟨pends, all, timedOut⟩
  · exact Poller.answer_of_conclusion rfl ends
  · obtain ⟨status, pending⟩ := exists_pending pends
    have spent : poller.allowed ≤ (plan.poll (plan.final + 1) .checking).attempts := by
      rw [allowed]
      exact (allowed_le_iff sound (Nat.le_refl _)).mpr all
    have attempts : (plan.poll (plan.final + 1) .checking).attempts =
        plan.run.poller.allowed := by
      change UInt32.ofNat (plan.final + 1) = _
      rw [all, UInt32.ofNat_toNat]
    rw [Poller.answer_of_spent rfl pending spent, attempts, timedOut]
    rfl

/-- When the last answer has been taken the poll has ended. -/
theorem take_last (sound : plan.Sound) (looks : plan.Shows (plan.deciding plan.final) now) :
    plan.At .ended
      (now.take (plan.poll (plan.final + 1) .checking) (plan.reply plan.final)) := by
  have seen := seen_take looks
  have answered := answer_last sound
    (show (now.poller.noting (plan.reply plan.final).log).allowed = _ from allowed_eq looks)
  rw [Timeline.take_eq, answered] at seen ⊢
  have polls := Poller.polls_modify_single looks.polls fun poll =>
    { poll with stage := .ended plan.result }
  exact ⟨trivial, looks.source, looks.interval, looks.maxAttempts, looks.world, polls,
    looks.arrivals, looks.current, seen, looks.clock, looks.notBefore⟩

/-- When an earlier answer has been taken the poll rests. -/
theorem take_earlier (sound : plan.Sound) (before : index < plan.final)
    (looks : plan.Shows (plan.deciding index) now) :
    plan.At (.resting (index + 1))
      (now.take (plan.poll (index + 1) .checking) (plan.reply index)) := by
  obtain ⟨status, pending⟩ := exists_pending (sound.goesOn index before)
  let logged := now.poller.noting (plan.reply index).log
  have unspent : ¬ logged.allowed ≤ (plan.poll (index + 1) .checking).attempts := by
    have allowed : logged.allowed = plan.run.poller.allowed := allowed_eq looks
    rw [allowed]
    intro spent
    have all := (allowed_le_iff sound (Nat.le_of_lt before)).mp spent
    have within := sound.within
    omega
  have due : logged.clock + logged.interval = plan.askTime (index + 1) := by
    have clock : logged.clock = plan.answerTime index := looks.clock
    have interval : logged.interval = plan.run.poller.interval := looks.interval
    rw [clock, interval]
    exact (plan.run.askTime_succ plan.taskId index).symm
  have answered := Poller.answer_of_pending rfl pending unspent
  rw [due] at answered
  have seen := seen_take looks
  rw [Timeline.take_eq, answered] at seen ⊢
  have polls := Poller.polls_modify_single looks.polls fun poll =>
    { poll with stage := .resting (plan.askTime (index + 1)) }
  have clock : now.poller.clock ≤ plan.askTime (index + 1) := by
    rw [← due]
    exact Nat.le_add_right _ _
  exact ⟨before, looks.source, looks.interval, looks.maxAttempts, looks.world, polls,
    looks.arrivals, looks.current, seen, clock, looks.notBefore⟩

/-- The phase after an answer. -/
def afterAnswer (plan : Plan σ) (index : Nat) : Phase :=
  if index = plan.final then .ended else .resting (index + 1)

theorem take_deciding (sound : plan.Sound) (within : index ≤ plan.final)
    (looks : plan.Shows (plan.deciding index) now) :
    plan.At (plan.afterAnswer index)
      (now.take (plan.poll (index + 1) .checking) (plan.reply index)) := by
  unfold afterAnswer
  split
  case isTrue last =>
    subst last
    exact take_last sound looks
  case isFalse earlier => exact take_earlier sound (by omega) looks

/-- After an answer there is less to be done than before. -/
theorem rank_afterAnswer (within : index ≤ plan.final) :
    plan.rank (plan.afterAnswer index) < plan.rank (.awaiting index) := by
  unfold afterAnswer
  split
  · simp only [rank]
    omega
  · simp only [rank]
    omega

/-! ## Steps -/

/-- A poll that has its word registers. -/
theorem step_entered (sound : plan.Sound) (looks : plan.Shows (plan.scene .entered) now) :
    ∃ after, now.stepPoll (plan.poll 0 .numbered) = some after ∧ plan.Later .entered after := by
  have single : now.poller.cancel.polls = [plan.poll 0 .numbered] := by
    have unknown : now.poller.current.map Registration.number ≠ some plan.run.nextNumber := by
      rw [looks.current]
      intro current
      obtain ⟨held, isHeld, number⟩ := Option.map_eq_some_iff.mp current
      have known := sound.idle.known held isHeld
      rw [number] at known
      exact Nat.not_succ_le_self _ known
    rw [Poller.polls_cancel, looks.polls]
    exact congrArg (fun poll => [poll]) (if_neg unknown)
  have polls := Poller.polls_modify_single single fun poll => { poll with stage := .ready }
  have kept : now.poller.cancel.interval = now.poller.interval ∧
      now.poller.cancel.maxAttempts = now.poller.maxAttempts ∧
      now.poller.cancel.clock = now.poller.clock := by
    unfold Poller.cancel
    split <;> exact ⟨rfl, rfl, rfl⟩
  have clock : now.poller.cancel.clock = plan.askTime 0 := by
    rw [kept.2.2, looks.clock, askTime, Timeline.askTime_zero]
  refine ⟨_, rfl, .asking 0, ⟨Nat.zero_le _, ?_⟩, by simp [rank]⟩
  exact ⟨looks.source, kept.1.trans looks.interval, kept.2.1.trans looks.maxAttempts,
    looks.world, polls, looks.arrivals, rfl, looks.seen, clock,
    Nat.le_trans looks.notBefore (Nat.le_of_eq kept.2.2.symm)⟩

/-- A poll asks; an answer that comes at once is taken at once. -/
theorem step_asking (sound : plan.Sound) (within : index ≤ plan.final)
    (looks : plan.Shows (plan.scene (.asking index)) now) :
    ∃ after, now.stepPoll (plan.poll index .ready) = some after ∧
      plan.Later (.asking index) after := by
  have attempts : UInt32.ofNat index + 1 = UInt32.ofNat (index + 1) := by
    rw [UInt32.ofNat_add]
    rfl
  have answered : now.source now.world plan.taskId =
      (plan.reply index, plan.run.worldAt plan.taskId (index + 1)) := by
    rw [looks.source, looks.world]
    rfl
  have polls : (now.asked (plan.poll index .ready)).poller.polls =
      [plan.poll (index + 1) .checking] := by
    have checked := Poller.polls_modify_single looks.polls fun poll =>
      { poll with stage := .checking, attempts := poll.attempts + 1 }
    refine checked.trans ?_
    simp only [poll, attempts]
  have found : (now.asked (plan.poll index .ready)).poller.poll?
      (plan.poll index .ready).number = some (plan.poll (index + 1) .checking) :=
    Poller.poll?_single polls
  have stepped := Timeline.stepPoll_of_ready rfl rfl found
  have reply : (now.source now.world (plan.poll index .ready).taskId).1 = plan.reply index :=
    congrArg Prod.fst answered
  have world : (now.asked (plan.poll index .ready)).world =
      plan.run.worldAt plan.taskId (index + 1) := congrArg Prod.snd answered
  have clock : (now.asked (plan.poll index .ready)).poller.clock = plan.askTime index :=
    looks.clock
  have seen : (now.asked (plan.poll index .ready)).seen = plan.run.seen ++
      (plan.sights index ++ [(plan.askTime index, .checked plan.taskId)]) := by
    have asking : now.poller.clock = plan.askTime index := looks.clock
    change now.seen ++ [(now.poller.clock, _)] = _
    rw [looks.seen, asking, List.append_assoc]
    rfl
  have comes : plan.answerTime index = plan.askTime index + (plan.reply index).delay :=
    plan.run.answerTime_eq plan.taskId index
  refine ⟨_, stepped, ?_⟩
  simp only [reply]
  split
  case isTrue atOnce =>
    refine ⟨_, take_deciding sound within ?_, ?_⟩
    · have answered : (now.asked (plan.poll index .ready)).poller.clock =
          plan.answerTime index := by
        rw [clock, comes, atOnce, Nat.add_zero]
      exact ⟨looks.source, looks.interval, looks.maxAttempts, world, polls, looks.arrivals,
        looks.current, seen, answered, looks.notBefore⟩
    · refine Nat.lt_trans (rank_afterAnswer within) ?_
      simp [rank]
  case isFalse =>
    have arrivals : now.arrivals = [] := looks.arrivals
    refine ⟨.awaiting index, ⟨within, ?_⟩, by simp [rank]⟩
    refine ⟨looks.source, looks.interval, looks.maxAttempts, world, polls, ?_,
      looks.current, seen, trivial, looks.notBefore⟩
    rw [arrivals, clock, ← comes]
    rfl

/-- A poll that has rested long enough goes on. -/
theorem step_resting (within : index ≤ plan.final)
    (looks : plan.Shows (plan.scene (.resting index)) now)
    (rested : plan.askTime index ≤ now.poller.clock) :
    ∃ after, now.stepPoll (plan.poll index (.resting (plan.askTime index))) = some after ∧
      plan.Later (.resting index) after := by
  have polls := Poller.polls_modify_single looks.polls fun poll => { poll with stage := .ready }
  have clock : now.poller.clock = plan.askTime index := Nat.le_antisymm looks.clock rested
  refine ⟨{ now with poller := now.poller.wake (plan.poll index (.resting (plan.askTime index))) },
    if_pos (by simp [rested]), .asking index, ⟨within, ?_⟩, by simp [rank]⟩
  exact ⟨looks.source, looks.interval, looks.maxAttempts, looks.world, polls,
    looks.arrivals, looks.current, looks.seen, clock, looks.notBefore⟩

/-- A poll that has ended is forgotten. -/
theorem step_ended (looks : plan.Shows (plan.scene .ended) now) :
    ∃ after, now.stepPoll (plan.poll (plan.final + 1) (.ended plan.result)) = some after ∧
      plan.Later .ended after := by
  refine ⟨_, rfl, .gone, ⟨trivial, ?_⟩, by simp [rank]⟩
  have clock : now.poller.clock = plan.answerTime plan.final := looks.clock
  constructor
  · exact looks.source
  · exact looks.interval
  · exact looks.maxAttempts
  · exact looks.world
  · change now.poller.polls.filter _ = _
    rw [looks.polls]
    simp [scene]
  · exact looks.arrivals
  · change now.poller.current.filter _ = none
    rw [looks.current]
    simp [scene, poll]
  · change now.seen ++ [(now.poller.clock, _)] = _
    rw [looks.seen, clock, List.append_assoc]
    rfl
  · trivial
  · exact looks.notBefore

end Plan

end UtilityBilling.Task
