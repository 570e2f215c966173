/-
# The work ahead of a poller

Every step that a poll can take brings it nearer to its end: it registers, asks, looks at the
answer, rests, and it asks only as often as it is allowed. The work ahead of a poll counts the
steps that are left at most, and that of a poller is the work of all its polls. Each step of a
poll makes it less, and nothing but a new poll makes it more.
-/

import UtilityBilling.Proofs.Task.Checks

namespace UtilityBilling.Task

namespace Poll

/-- How many steps a poll has ahead of it at most, if so many checks are allowed: four for
each check. -/
def work (allowed : Nat) (poll : Poll) : Nat :=
  let checks := allowed - poll.attempts.toNat
  match poll.stage with
  | .numbered | .resting _ => 4 * checks + 3
  | .ready => 4 * checks + 2
  | .checking => 4 * checks + 4
  | .ended _ => 1

variable {allowed : Nat} {poll : Poll}

theorem work_pos (allowed : Nat) (poll : Poll) : 0 < poll.work allowed := by
  unfold work
  simp only
  split <;> omega

theorem work_le (allowed : Nat) (poll : Poll) : poll.work allowed ≤ 4 * allowed + 4 := by
  unfold work
  simp only
  split <;> omega

/-- A poll under way has more ahead of it than its end. -/
theorem one_lt_work (underWay : poll.stage.isUnderWay = true) : 1 < poll.work allowed := by
  unfold work
  cases stage : poll.stage with
  | numbered => rw [stage] at underWay; cases underWay
  | ended result => rw [stage] at underWay; cases underWay
  | _ => simp only; omega

end Poll

/-- The work ahead of some polls. -/
def totalWork (allowed : Nat) : List Poll → Nat
  | [] => 0
  | poll :: polls => poll.work allowed + totalWork allowed polls

section Total

variable {allowed : Nat} {polls : List Poll} {change : Poll → Poll}

theorem totalWork_le (allowed : Nat) (polls : List Poll) :
    totalWork allowed polls ≤ (4 * allowed + 4) * polls.length := by
  induction polls with
  | nil => exact Nat.zero_le _
  | cons poll polls ih =>
      have own := poll.work_le allowed
      rw [totalWork, List.length_cons, Nat.mul_succ]
      omega

theorem eq_nil_of_totalWork (done : totalWork allowed polls = 0) : polls = [] := by
  cases polls with
  | nil => rfl
  | cons poll polls =>
      have own := poll.work_pos allowed
      rw [totalWork] at done
      omega

theorem totalWork_map_le
    (notMore : ∀ poll ∈ polls, (change poll).work allowed ≤ poll.work allowed) :
    totalWork allowed (polls.map change) ≤ totalWork allowed polls := by
  induction polls with
  | nil => exact Nat.le_refl _
  | cons poll polls ih =>
      obtain ⟨first, rest⟩ := List.forall_mem_cons.mp notMore
      exact Nat.add_le_add first (ih rest)

/-- When one poll comes to have less to do and no poll more, all together have less. -/
theorem totalWork_map_lt
    (notMore : ∀ poll ∈ polls, (change poll).work allowed ≤ poll.work allowed)
    {poll : Poll} (member : poll ∈ polls)
    (less : (change poll).work allowed < poll.work allowed) :
    totalWork allowed (polls.map change) < totalWork allowed polls := by
  induction polls with
  | nil => cases member
  | cons other polls ih =>
      obtain ⟨first, rest⟩ := List.forall_mem_cons.mp notMore
      rcases List.mem_cons.mp member with rfl | later
      · exact Nat.add_lt_add_of_lt_of_le less (totalWork_map_le rest)
      · exact Nat.add_lt_add_of_le_of_lt first (ih rest later)

theorem totalWork_filter_le (stays : Poll → Bool) (polls : List Poll) :
    totalWork allowed (polls.filter stays) ≤ totalWork allowed polls := by
  induction polls with
  | nil => exact Nat.le_refl _
  | cons poll polls ih =>
      rw [List.filter_cons]
      split
      · exact Nat.add_le_add_left ih _
      · exact Nat.le_trans ih (Nat.le_add_left _ _)

/-- When a poll goes, the others have less to do than all had together. -/
theorem totalWork_filter_lt {stays : Poll → Bool} {poll : Poll} (member : poll ∈ polls)
    (goes : stays poll = false) :
    totalWork allowed (polls.filter stays) < totalWork allowed polls := by
  induction polls with
  | nil => cases member
  | cons other polls ih =>
      rw [List.filter_cons]
      rcases List.mem_cons.mp member with rfl | later
      · rw [if_neg (by simp [goes])]
        exact Nat.lt_of_le_of_lt (totalWork_filter_le stays polls)
          (Nat.lt_add_of_pos_left (poll.work_pos allowed))
      · split
        · exact Nat.add_lt_add_left (ih later) _
        · exact Nat.lt_of_lt_of_le (ih later) (Nat.le_add_left _ _)

end Total

namespace Poller

/-- The work ahead of a poller. -/
def work (poller : Poller) : Nat :=
  totalWork poller.allowed.toNat poller.polls

variable {poller : Poller} {poll : Poll}

/-- A poll that changes itself has less to do afterwards, and so has the poller. -/
theorem work_modify_lt (orderly : poller.Orderly) (member : poll ∈ poller.polls)
    {change : Poll → Poll}
    (less : (change poll).work poller.allowed.toNat < poll.work poller.allowed.toNat) :
    (poller.modify poll.number change).work < poller.work := by
  refine totalWork_map_lt (fun other isOther => ?_) member (by rwa [if_pos rfl])
  split
  case isTrue same =>
    rw [orderly.eq_of_number isOther member same]
    exact Nat.le_of_lt less
  case isFalse => exact Nat.le_refl _

theorem work_resolve_lt (orderly : poller.Orderly) (member : poll ∈ poller.polls)
    (underWay : poll.stage.isUnderWay = true) (result : PollResult) :
    (poller.resolve poll.number result).work < poller.work :=
  work_modify_lt orderly member (Poll.one_lt_work underWay)

theorem work_cancel_le (poller : Poller) : poller.cancel.work ≤ poller.work := by
  have allowed : poller.cancel.allowed = poller.allowed := by
    rw [Poller.allowed, maxAttempts_cancel]
    rfl
  rw [work, work, allowed, polls_cancel]
  refine totalWork_map_le fun poll _ => ?_
  split <;> exact Nat.le_refl _

theorem work_register_lt (orderly : poller.Orderly) (member : poll ∈ poller.polls)
    (numbered : poll.stage = .numbered) : (poller.register poll).work < poller.work := by
  obtain ⟨later, isLater, spared⟩ := exists_after_cancel member
  have less : (poller.cancel.modify later.number fun poll =>
      { poll with stage := .ready }).work < poller.cancel.work := by
    refine work_modify_lt orderly.cancel isLater ?_
    simp [Poll.work, ← spared.stage, numbered]
  rw [← spared.number] at less
  exact Nat.lt_of_lt_of_le less poller.work_cancel_le

theorem work_check_lt (orderly : poller.Orderly) (member : poll ∈ poller.polls)
    (ready : poll.stage = .ready) (ahead : poll.attempts.toNat < poller.allowed.toNat) :
    (poller.check poll).work < poller.work := by
  unfold check
  split
  case isTrue => exact work_resolve_lt orderly member (by rw [ready]; rfl) _
  case isFalse =>
    refine work_modify_lt orderly member ?_
    have bound := poller.allowed.toNat_lt
    have counted : (poll.attempts + 1).toNat = poll.attempts.toNat + 1 := by
      rw [UInt32.toNat_add]
      simp
      omega
    simp only [Poll.work, ready, counted]
    omega

theorem work_answer_lt (orderly : poller.Orderly) (member : poll ∈ poller.polls)
    (checking : poll.stage = .checking) (result : Api.Result Status) :
    (poller.answer poll result).work < poller.work := by
  have underWay : poll.stage.isUnderWay = true := by rw [checking]; rfl
  unfold answer
  split
  case isTrue => exact work_resolve_lt orderly member underWay _
  case isFalse =>
    simp only
    split
    · exact work_resolve_lt orderly member underWay _
    · exact work_resolve_lt orderly member underWay _
    · exact work_modify_lt orderly member (by simp [Poll.work, checking])

theorem work_wake_lt (orderly : poller.Orderly) (member : poll ∈ poller.polls) {due : Nat}
    (resting : poll.stage = .resting due) : (poller.wake poll).work < poller.work := by
  unfold wake
  split
  case isTrue => exact work_resolve_lt orderly member (by rw [resting]; rfl) _
  case isFalse => exact work_modify_lt orderly member (by simp [Poll.work, resting])

theorem work_release_lt (member : poll ∈ poller.polls) (result : PollResult) :
    (poller.release poll result).work < poller.work :=
  totalWork_filter_lt member (by simp)

end Poller

end UtilityBilling.Task
