/-
# What a table leaves of its source

A table in time touches the state of its source only by asking it. What every question keeps
of this state is therefore kept by all that the table does, whatever the user sends it and
however long it goes on.
-/

import UtilityBilling.Table.Timeline

namespace UtilityBilling.Table

variable {σ α : Type} {source : Source σ α} {invariant : σ → Prop} {run : Timeline σ α}

/-- A table asks one source, and something holds of the state of it. -/
structure Timeline.Serves (source : Source σ α) (invariant : σ → Prop) (run : Timeline σ α) :
    Prop where
  source : run.source = source
  world : invariant run.world

/-- A source keeps something of its state, whatever it is asked. -/
def Source.Keeps (source : Source σ α) (invariant : σ → Prop) : Prop :=
  ∀ world parameters, invariant world → invariant (source world parameters).2

namespace Timeline.Serves

/-- What does not ask the source leaves it as it is. -/
theorem of_same {after : Timeline σ α} (serves : run.Serves source invariant)
    (sameSource : after.source = run.source) (sameWorld : after.world = run.world) :
    after.Serves source invariant :=
  ⟨sameSource.trans serves.source, sameWorld ▸ serves.world⟩

theorem take (serves : run.Serves source invariant) (request : RequestId) (reply : Reply α) :
    (run.take request reply).Serves source invariant :=
  serves.of_same rfl rfl

theorem driveFor (serves : run.Serves source invariant) (steps : Nat) :
    (Timeline.driveFor steps run).Serves source invariant := by
  induction steps generalizing run with
  | zero => exact serves
  | succ steps ih =>
      unfold Timeline.driveFor
      apply ih
      split <;> exact serves.of_same rfl rfl

theorem wakeFetch (keeps : source.Keeps invariant) (serves : run.Serves source invariant)
    (fetch : Fetch) : (run.wakeFetch fetch).Serves source invariant := by
  have asks : invariant (run.source run.world fetch.parameters).2 := by
    rw [serves.source]
    exact keeps run.world fetch.parameters serves.world
  unfold Timeline.wakeFetch
  split
  case isTrue => exact serves.of_same rfl rfl
  case isFalse =>
    split
    case isTrue => exact serves
    case isFalse =>
      dsimp only
      split <;> exact ⟨serves.source, asks⟩

theorem foldl_wakeFetch (keeps : source.Keeps invariant) (serves : run.Serves source invariant)
    (fetches : List Fetch) :
    (fetches.foldl Timeline.wakeFetch run).Serves source invariant := by
  induction fetches generalizing run with
  | nil => exact serves
  | cons fetch fetches ih => exact ih (serves.wakeFetch keeps fetch)

theorem wake (keeps : source.Keeps invariant) (serves : run.Serves source invariant) :
    run.wake.Serves source invariant := by
  unfold Timeline.wake
  split
  case isTrue =>
    dsimp only
    generalize (run.binder.fetches.partition _).1 = before
    have woken := serves.foldl_wakeFetch keeps before
    apply foldl_wakeFetch keeps
    exact woken.of_same rfl rfl
  case isFalse => exact serves.foldl_wakeFetch keeps _

theorem settleFor (keeps : source.Keeps invariant) (serves : run.Serves source invariant)
    (turns : Nat) : (Timeline.settleFor turns run).Serves source invariant := by
  induction turns generalizing run with
  | zero => exact serves.driveFor _
  | succ turns ih => exact ih ((serves.driveFor _).wake keeps)

theorem settle (keeps : source.Keeps invariant) (serves : run.Serves source invariant) :
    run.settle.Serves source invariant :=
  serves.settleFor keeps _

theorem deliver (serves : run.Serves source invariant) :
    run.deliver.Serves source invariant := by
  unfold Timeline.deliver
  generalize run.arrivals.partition _ = parted
  obtain ⟨due, later⟩ := parted
  have start : Timeline.Serves source invariant { run with arrivals := later } :=
    serves.of_same rfl rfl
  dsimp only
  generalize { run with arrivals := later } = first at start
  induction due generalizing first with
  | nil => exact start
  | cons arrival due ih => exact ih _ (start.take arrival.request arrival.reply)

theorem advanceFor (keeps : source.Keeps invariant) (serves : run.Serves source invariant)
    (fuel finish : Nat) : (Timeline.advanceFor fuel finish run).Serves source invariant := by
  induction fuel generalizing run with
  | zero => exact serves.of_same rfl rfl
  | succ fuel ih =>
      unfold Timeline.advanceFor
      split
      case h_1 => exact serves.of_same rfl rfl
      case h_2 due _ =>
        split
        case isTrue =>
          have moved : (run.withClock due).Serves source invariant := serves.of_same rfl rfl
          exact ih (moved.deliver.settle keeps)
        case isFalse => exact serves.of_same rfl rfl

/-- What every question keeps is kept while time passes. -/
theorem advance (keeps : source.Keeps invariant) (serves : run.Serves source invariant)
    (milliseconds : Nat) : (run.advance milliseconds).Serves source invariant :=
  (serves.settle keeps).advanceFor keeps _ _

/-- What every question keeps is kept by a table that starts. -/
theorem start (keeps : source.Keeps invariant) {world : σ} (holds : invariant world)
    (binder : Binder α) : (Timeline.start binder source world).Serves source invariant :=
  settle keeps ⟨rfl, holds⟩

/-- Whatever the user sends waits for the driver, and nobody is asked. -/
theorem send (serves : run.Serves source invariant) (message : Message α) :
    (run.send message).Serves source invariant := by
  unfold Timeline.send
  split
  · exact serves
  · exact serves.of_same rfl rfl

end Timeline.Serves

end UtilityBilling.Table
