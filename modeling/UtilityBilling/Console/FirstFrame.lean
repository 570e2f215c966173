/-
# Waiting for the first frame

A browser waits for the first frame of its table. A session that has ended never
paints, so its end and a deadline end the wait too. What happens at one moment is
weighed together: the end of the session counts most, then a frame, then that the
painter is gone, and last the deadline.
-/

namespace UtilityBilling.Console

/-- What can happen while one waits. -/
inductive Signal where
  | painted
  /-- There is nobody left who could paint. -/
  | painterGone
  | sessionEnded
  /-- There is nobody left who could end the session. -/
  | sessionGone
  deriving DecidableEq, Repr

/-- How a wait ends. -/
inductive WaitEnd where
  | painted
  | sessionEnded
  | timedOut
  deriving DecidableEq, Repr

/-- What a set of signals that have come brings about, if anything. The end of the
session counts only while somebody is there who could tell it, or if it was told
before. -/
def weigh (signals : List Signal) : Option WaitEnd :=
  if signals.contains .sessionEnded then some .sessionEnded
  else if signals.contains .painted then some .painted
  else if signals.contains .painterGone then some .timedOut
  else none

/-- Adds a signal to those that have come. After the session is gone its end is not
told any more, and after the painter is gone nothing is painted. -/
def addSignal (signals : List Signal) (signal : Signal) : List Signal :=
  if signal = .sessionEnded && signals.contains .sessionGone then signals
  else if signal = .painted && signals.contains .painterGone then signals
  else signals ++ [signal]

/-- The signals of a moment and those before it. -/
def signalsAt (signals : List Signal) (events : List (Nat × Signal)) (time : Nat) :
    List Signal :=
  (events.filter fun event => event.1 == time).foldl
    (fun held event => addSignal held event.2) signals

/-- Goes through moments in order until the wait ends or the deadline comes. -/
def waitThrough (deadline : Nat) (events : List (Nat × Signal)) :
    List Signal → List Nat → WaitEnd × Nat
  | _, [] => (.timedOut, deadline)
  | held, time :: later =>
    if deadline < time then (.timedOut, deadline)
    else
      let signals := signalsAt held events time
      match weigh signals with
      | some ending => (ending, time)
      | none => waitThrough deadline events signals later

/-- How a wait ends and how long it takes, in milliseconds. What happens at time zero
happens before the wait. -/
def waitForFrame (deadline : Nat) (events : List (Nat × Signal)) : WaitEnd × Nat :=
  waitThrough deadline events [] ((events.map Prod.fst).mergeSort fun a b => a ≤ b)

end UtilityBilling.Console
