/-
# What a run leaves of an endpoint

A run of a poller touches the state of its endpoint only by asking it. What every question
about a task keeps of this state is therefore kept by the whole run, however long it goes on
and however many polls there are.
-/

import UtilityBilling.Task.Timeline

namespace UtilityBilling.Task

variable {σ : Type} {source : Source σ} {invariant : σ → Prop} {run : Timeline σ}

/-- A run asks one endpoint, and something holds of the state of it. -/
structure Timeline.Serves (source : Source σ) (invariant : σ → Prop) (run : Timeline σ) :
    Prop where
  source : run.source = source
  world : invariant run.world

/-- An endpoint keeps something of its state, whatever it is asked. -/
def Source.Keeps (source : Source σ) (invariant : σ → Prop) : Prop :=
  ∀ world taskId, invariant world → invariant (source world taskId).2

namespace Timeline.Serves

theorem take (serves : run.Serves source invariant) (poll : Poll) (reply : Reply) :
    (run.take poll reply).Serves source invariant := by
  unfold Timeline.take
  dsimp only
  split <;> exact ⟨serves.source, serves.world⟩

theorem stepPoll (keeps : source.Keeps invariant) (serves : run.Serves source invariant)
    {poll : Poll} {after : Timeline σ} (stepped : run.stepPoll poll = some after) :
    after.Serves source invariant := by
  have asks : invariant (run.source run.world poll.taskId).2 := by
    rw [serves.source]
    exact keeps run.world poll.taskId serves.world
  unfold Timeline.stepPoll at stepped
  split at stepped
  case h_1 =>
    cases stepped
    exact ⟨serves.source, serves.world⟩
  case h_2 =>
    dsimp only at stepped
    split at stepped
    case isTrue =>
      cases stepped
      exact ⟨serves.source, serves.world⟩
    case isFalse =>
      split at stepped
      case h_1 =>
        cases stepped
        exact ⟨serves.source, asks⟩
      case h_2 asking _ =>
        split at stepped
        case isTrue =>
          cases stepped
          apply take
          exact ⟨serves.source, asks⟩
        case isFalse =>
          cases stepped
          exact ⟨serves.source, asks⟩
  case h_3 =>
    split at stepped
    case isTrue =>
      cases stepped
      exact ⟨serves.source, serves.world⟩
    case isFalse => cases stepped
  case h_4 =>
    split at stepped
    case isTrue =>
      cases stepped
      exact ⟨serves.source, serves.world⟩
    case isFalse => cases stepped
  case h_5 =>
    cases stepped
    exact ⟨serves.source, serves.world⟩

theorem runPoll (keeps : source.Keeps invariant) (serves : run.Serves source invariant)
    (fuel number : Nat) : (Timeline.runPoll fuel number run).Serves source invariant := by
  induction fuel generalizing run with
  | zero => exact serves
  | succ fuel ih =>
      unfold Timeline.runPoll
      split
      case h_1 after stepped =>
        obtain ⟨poll, _, steps⟩ := Option.bind_eq_some_iff.mp stepped
        exact ih (serves.stepPoll keeps steps)
      case h_2 => exact serves

theorem settle (keeps : source.Keeps invariant) (serves : run.Serves source invariant) :
    run.settle.Serves source invariant := by
  unfold Timeline.settle
  generalize (run.poller.polls.map Poll.number).reverse = numbers
  induction numbers generalizing run with
  | nil => exact serves
  | cons number numbers ih => exact ih (serves.runPoll keeps _ number)

theorem deliver (serves : run.Serves source invariant) :
    run.deliver.Serves source invariant := by
  unfold Timeline.deliver
  generalize run.arrivals.partition _ = parted
  obtain ⟨due, later⟩ := parted
  have start : Timeline.Serves source invariant { run with arrivals := later } :=
    ⟨serves.source, serves.world⟩
  dsimp only
  revert start
  generalize { run with arrivals := later } = first
  induction due generalizing first with
  | nil => exact id
  | cons arrival due ih =>
      intro start
      apply ih
      dsimp only
      split
      · exact start.take _ _
      · exact start

theorem advanceFor (keeps : source.Keeps invariant) (serves : run.Serves source invariant)
    (fuel finish : Nat) : (Timeline.advanceFor fuel finish run).Serves source invariant := by
  induction fuel generalizing run with
  | zero => exact ⟨serves.source, serves.world⟩
  | succ fuel ih =>
      unfold Timeline.advanceFor
      split
      case h_1 => exact ⟨serves.source, serves.world⟩
      case h_2 due _ =>
        split
        case isTrue =>
          have moved : (run.withClock due).Serves source invariant := ⟨serves.source, serves.world⟩
          exact ih (moved.deliver.settle keeps)
        case isFalse => exact ⟨serves.source, serves.world⟩

/-- What every question keeps is kept while time passes. -/
theorem advance (keeps : source.Keeps invariant) (serves : run.Serves source invariant)
    (milliseconds : Nat) : (run.advance milliseconds).Serves source invariant :=
  serves.advanceFor keeps _ _

/-- What every question keeps is kept by a new poll. -/
theorem poll (keeps : source.Keeps invariant) (serves : run.Serves source invariant)
    (taskId : String) (reports : Bool) : (run.poll taskId reports).Serves source invariant := by
  apply settle keeps
  exact ⟨serves.source, serves.world⟩

end Timeline.Serves

end UtilityBilling.Task
