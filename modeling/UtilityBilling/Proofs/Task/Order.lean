/-
# The order among polls

The polls of a poller take their numbers and register in two steps, so that they may register
in another order than that of their numbers. Whatever a poller does, and whenever, its polls
have numbers of their own, and each has the word that belongs to its number. As long as the
words have not come round again, the release of a poll makes the poller forget no other one,
and of the polls that are registered only the one that the poller knows can be without a
cancellation.
-/

import UtilityBilling.Proofs.History
import UtilityBilling.Proofs.Task.Course

namespace UtilityBilling.Task

/-! ## The single actions of a poller -/

namespace Poller

variable {poller : Poller}

theorem mem_of_poll? {number : Nat} {poll : Poll} (found : poller.poll? number = some poll) :
    poll ∈ poller.polls ∧ poll.number = number :=
  ⟨List.mem_of_find?_eq_some found, by simpa using List.find?_some found⟩

/-- A poll that is changed in other respects than its number is found changed. -/
theorem poll?_modify {change : Poll → Poll} (kept : ∀ poll, (change poll).number = poll.number)
    (poller : Poller) (number : Nat) :
    (poller.modify number change).poll? number = (poller.poll? number).map change := by
  unfold poll? modify
  induction poller.polls with
  | nil => rfl
  | cons poll polls ih =>
      by_cases own : poll.number = number
      · simp [own, kept]
      · simp [own, ih]

@[simp]
theorem ending?_resolve (poller : Poller) (number : Nat) (result : PollResult) :
    (poller.resolve number result).ending? number =
      (poller.poll? number).map fun _ => result := by
  unfold ending? resolve
  rw [poll?_modify]
  · cases poller.poll? number <;> rfl
  · exact fun _ => rfl

@[simp]
theorem current_cancel (poller : Poller) : poller.cancel.current = none := by
  unfold cancel
  split
  · rfl
  · assumption

@[simp]
theorem last_cancel (poller : Poller) : poller.cancel.last = poller.last := by
  unfold cancel
  split <;> rfl

@[simp]
theorem generation_cancel (poller : Poller) : poller.cancel.generation = poller.generation := by
  unfold cancel
  split <;> rfl

@[simp]
theorem maxAttempts_cancel (poller : Poller) : poller.cancel.maxAttempts = poller.maxAttempts := by
  unfold cancel
  split <;> rfl

@[simp]
theorem clock_cancel (poller : Poller) : poller.cancel.clock = poller.clock := by
  unfold cancel
  split <;> rfl

@[simp]
theorem clock_check (poller : Poller) (poll : Poll) :
    (poller.check poll).clock = poller.clock := by
  unfold check
  split <;> rfl

@[simp]
theorem clock_wake (poller : Poller) (poll : Poll) : (poller.wake poll).clock = poller.clock := by
  unfold wake
  split <;> rfl

/-- A cancellation reaches the poll that the poller knows. -/
theorem polls_cancel (poller : Poller) :
    poller.cancel.polls = poller.polls.map fun poll =>
      if poller.current.map Registration.number = some poll.number then
        { poll with cancelled := true }
      else poll := by
  unfold cancel
  split
  case h_1 held current =>
    simp only [modify, current, Option.map_some, Option.some.injEq, eq_comm]
  case h_2 current => simp [current]

/-- A change that a poll under way makes of itself. -/
structure Keeps (change : Poll → Poll) : Prop where
  registration : ∀ poll, (change poll).registration = poll.registration
  cancelled : ∀ poll, (change poll).cancelled = poll.cancelled
  registered : ∀ poll, (change poll).stage.isRegistered = true

theorem Keeps.number {change : Poll → Poll} (keeps : Keeps change) (poll : Poll) :
    (change poll).number = poll.number :=
  congrArg Registration.number (keeps.registration poll)

/-- What a step of a poll under way does to a poller. -/
structure Advances (before : Poller) (number : Nat) (after : Poller) : Prop where
  current : after.current = before.current
  last : after.last = before.last
  generation : after.generation = before.generation
  maxAttempts : after.maxAttempts = before.maxAttempts
  polls : ∃ change, Keeps change ∧ after.polls = (before.modify number change).polls

/-- A poll under way can change itself. -/
theorem advances_modify (poller : Poller) (number : Nat) {change : Poll → Poll}
    (keeps : Keeps change) : poller.Advances number (poller.modify number change) :=
  ⟨rfl, rfl, rfl, rfl, change, keeps, rfl⟩

theorem advances_resolve (poller : Poller) (number : Nat) (result : PollResult) :
    poller.Advances number (poller.resolve number result) :=
  advances_modify poller number ⟨fun _ => rfl, fun _ => rfl, fun _ => rfl⟩

theorem advances_check (poller : Poller) (poll : Poll) :
    poller.Advances poll.number (poller.check poll) := by
  unfold check
  split
  · exact advances_resolve poller poll.number _
  · exact advances_modify poller poll.number ⟨fun _ => rfl, fun _ => rfl, fun _ => rfl⟩

theorem advances_wake (poller : Poller) (poll : Poll) :
    poller.Advances poll.number (poller.wake poll) := by
  unfold wake
  split
  · exact advances_resolve poller poll.number _
  · exact advances_modify poller poll.number ⟨fun _ => rfl, fun _ => rfl, fun _ => rfl⟩

theorem advances_answer (poller : Poller) (poll : Poll) (result : Api.Result Status) :
    poller.Advances poll.number (poller.answer poll result) := by
  -- The log plays no part in what happens to the polls.
  have logged : ∀ {log : List Log.Record} {after : Poller},
      Advances { poller with log := log } poll.number after →
        poller.Advances poll.number after := by
    rintro log after ⟨current, last, generation, maxAttempts, polls⟩
    exact ⟨current, last, generation, maxAttempts, polls⟩
  unfold answer
  split
  case isTrue => exact advances_resolve poller poll.number _
  case isFalse =>
    simp only
    split
    · exact logged (advances_resolve _ poll.number _)
    · exact logged (advances_resolve _ poll.number _)
    · exact logged (advances_modify _ poll.number ⟨fun _ => rfl, fun _ => rfl, fun _ => rfl⟩)

/-! ## The one live poll -/

/-- The polls have numbers of their own, and whatever has a number has the word that belongs
to it. A poll that is not registered is not cancelled and not the one that the poller knows,
and a poll that is live is the one that the poller knows: this only as long as no two polls
have the same word. -/
structure Orderly (poller : Poller) : Prop where
  distinct : (poller.polls.map Poll.number).Nodup
  numbered : ∀ poll ∈ poller.polls, poll.number ≤ poller.last
  counted : poller.generation = UInt64.ofNat poller.last
  words : ∀ poll ∈ poller.polls, poll.generation = UInt64.ofNat poll.number
  known : ∀ held, poller.current = some held →
    held.number ≤ poller.last ∧ held.generation = UInt64.ofNat held.number
  fresh : ∀ poll ∈ poller.polls, poll.stage.isRegistered = false →
    poll.cancelled = false ∧ poller.current.map Registration.number ≠ some poll.number
  alone : poller.last < UInt64.size → ∀ poll ∈ poller.polls, poll.isLive = true →
    poller.current = some poll.registration

/-- A change of polls that leaves alone what the poller keeps of them. -/
theorem map_registration_map {change : Poll → Poll}
    (kept : ∀ poll, (change poll).registration = poll.registration) (polls : List Poll) :
    (polls.map change).map Poll.registration = polls.map Poll.registration := by
  rw [List.map_map]
  exact List.map_congr_left fun poll _ => kept poll

/-- The change of one poll leaves alone what the poller keeps of the polls. -/
theorem map_registration_modify {change : Poll → Poll}
    (kept : ∀ poll, (change poll).registration = poll.registration) (poller : Poller)
    (number : Nat) :
    (poller.modify number change).polls.map Poll.registration =
      poller.polls.map Poll.registration := by
  refine map_registration_map (fun poll => ?_) poller.polls
  split
  · exact kept poll
  · rfl

/-- A cancellation leaves alone what the poller keeps of the polls. -/
theorem map_registration_cancel (poller : Poller) :
    poller.cancel.polls.map Poll.registration = poller.polls.map Poll.registration := by
  rw [polls_cancel]
  refine map_registration_map (fun poll => ?_) poller.polls
  split <;> rfl

/-- Words that have not come round again tell numbers apart. -/
theorem eq_of_ofNat_eq {first second last : Nat} (few : last < UInt64.size)
    (firstBelow : first ≤ last) (secondBelow : second ≤ last)
    (same : UInt64.ofNat first = UInt64.ofNat second) : first = second := by
  have numbers := congrArg UInt64.toNat same
  rwa [UInt64.toNat_ofNat_of_lt' (Nat.lt_of_le_of_lt firstBelow few),
    UInt64.toNat_ofNat_of_lt' (Nat.lt_of_le_of_lt secondBelow few)] at numbers

namespace Orderly

/-- The polls after a step that leaves numbers and words alone have numbers of their own, not
beyond the last, and the words that belong to them. -/
theorem of_same_registrations (orderly : poller.Orderly) {polls : List Poll}
    (same : polls.map Poll.registration = poller.polls.map Poll.registration) :
    (polls.map Poll.number).Nodup ∧ (∀ poll ∈ polls, poll.number ≤ poller.last) ∧
      ∀ poll ∈ polls, poll.generation = UInt64.ofNat poll.number := by
  have numbers : ∀ polls : List Poll,
      polls.map Poll.number = (polls.map Poll.registration).map Registration.number := by
    intro polls
    rw [List.map_map]
    rfl
  have origin : ∀ poll ∈ polls, ∃ old ∈ poller.polls, old.registration = poll.registration := by
    intro poll member
    have present := List.mem_map_of_mem (f := Poll.registration) member
    rw [same] at present
    exact List.mem_map.mp present
  refine ⟨?_, fun poll member => ?_, fun poll member => ?_⟩
  · rw [numbers, same, ← numbers]
    exact orderly.distinct
  · obtain ⟨old, isOld, kept⟩ := origin poll member
    have number : old.number = poll.number := congrArg Registration.number kept
    rw [← number]
    exact orderly.numbered old isOld
  · obtain ⟨old, isOld, kept⟩ := origin poll member
    have word : old.generation = poll.generation := congrArg Registration.generation kept
    have number : old.number = poll.number := congrArg Registration.number kept
    rw [← word, ← number]
    exact orderly.words old isOld

/-- The order is one of the polls, of the count of polls and of what the poller knows. -/
theorem congr (orderly : poller.Orderly) {after : Poller} (polls : after.polls = poller.polls)
    (last : after.last = poller.last) (generation : after.generation = poller.generation)
    (current : after.current = poller.current) : after.Orderly := by
  obtain ⟨distinct, numbered, counted, words, known, fresh, alone⟩ := orderly
  constructor
  · rwa [polls]
  · rwa [polls, last]
  · rwa [generation, last]
  · rwa [polls]
  · rwa [current, last]
  · rwa [polls, current]
  · rwa [polls, current, last]

theorem start (interval : Nat) (maxAttempts : UInt32) :
    Orderly { interval := interval, maxAttempts := maxAttempts } := by
  constructor <;> simp

theorem eq_of_number (orderly : poller.Orderly) {first second : Poll}
    (firstMember : first ∈ poller.polls) (secondMember : second ∈ poller.polls)
    (same : first.number = second.number) : first = second :=
  List.inj_on_of_nodup_map orderly.distinct firstMember secondMember same

theorem poll?_eq (orderly : poller.Orderly) {poll : Poll} (member : poll ∈ poller.polls) :
    poller.poll? poll.number = some poll := by
  cases found : poller.poll? poll.number with
  | none =>
      have different := List.find?_eq_none.mp found poll member
      simp at different
  | some other =>
      obtain ⟨otherMember, same⟩ := mem_of_poll? found
      rw [orderly.eq_of_number otherMember member same]

theorem enter (orderly : poller.Orderly) (taskId : String) (reports : Bool) :
    (poller.enter taskId reports).Orderly := by
  have below : ∀ poll ∈ poller.polls, poll.number < poller.last + 1 := by
    intro poll member
    exact Nat.lt_succ_of_le (orderly.numbered poll member)
  have word : poller.generation + 1 = UInt64.ofNat (poller.last + 1) := by
    rw [orderly.counted, UInt64.ofNat_add]
    rfl
  constructor
  case distinct =>
    simp only [Poller.enter, List.map_append, List.map_cons, List.map_nil]
    refine List.nodup_append.mpr ⟨orderly.distinct, by simp, ?_⟩
    intro number member last isLast
    obtain ⟨poll, old, rfl⟩ := List.mem_map.mp member
    rw [List.mem_singleton.mp isLast]
    exact Nat.ne_of_lt (below poll old)
  case numbered =>
    intro poll member
    rcases List.mem_append.mp member with old | new
    · exact Nat.le_of_lt (below poll old)
    · rw [List.mem_singleton.mp new]
      exact Nat.le_refl _
  case counted => exact word
  case words =>
    intro poll member
    rcases List.mem_append.mp member with old | new
    · exact orderly.words poll old
    · rw [List.mem_singleton.mp new]
      exact word
  case known =>
    intro held current
    exact (orderly.known held current).imp_left Nat.le_succ_of_le
  case fresh =>
    intro poll member unregistered
    rcases List.mem_append.mp member with old | new
    · exact orderly.fresh poll old unregistered
    · rw [List.mem_singleton.mp new]
      refine ⟨rfl, fun current => ?_⟩
      obtain ⟨held, isHeld, number⟩ := Option.map_eq_some_iff.mp current
      have known := (orderly.known held isHeld).1
      rw [number] at known
      exact Nat.not_succ_le_self _ known
  case alone =>
    intro few poll member live
    rcases List.mem_append.mp member with old | new
    · exact orderly.alone (Nat.lt_of_succ_lt few) poll old live
    · rw [List.mem_singleton.mp new] at live
      cases live

/-- A cancellation leaves no poll live. -/
theorem not_isLive_cancel (orderly : poller.Orderly) (few : poller.last < UInt64.size)
    {poll : Poll} (member : poll ∈ poller.cancel.polls) : poll.isLive = false := by
  rw [polls_cancel] at member
  obtain ⟨before, old, rfl⟩ := List.mem_map.mp member
  split
  case isTrue => simp [Poll.isLive]
  case isFalse other =>
    rw [← Bool.not_eq_true]
    intro live
    exact other (congrArg (Option.map Registration.number) (orderly.alone few before old live))

theorem cancel (orderly : poller.Orderly) : poller.cancel.Orderly := by
  obtain ⟨distinct, numbered, words⟩ :=
    orderly.of_same_registrations poller.map_registration_cancel
  constructor
  case distinct => exact distinct
  case numbered =>
    rw [last_cancel]
    exact numbered
  case counted =>
    rw [generation_cancel, last_cancel]
    exact orderly.counted
  case words => exact words
  case known => simp
  case fresh =>
    intro poll member unregistered
    refine ⟨?_, by simp⟩
    rw [polls_cancel] at member
    obtain ⟨before, old, rfl⟩ := List.mem_map.mp member
    split at unregistered
    case isTrue current => exact absurd current (orderly.fresh before old unregistered).2
    case isFalse other =>
      rw [if_neg other]
      exact (orderly.fresh before old unregistered).1
  case alone =>
    intro few poll member live
    rw [last_cancel] at few
    rw [orderly.not_isLive_cancel few member] at live
    cases live

/-- A registration leaves no other poll live. -/
theorem not_isLive_register (orderly : poller.Orderly) (few : poller.last < UInt64.size)
    {newer poll : Poll} (member : poll ∈ (poller.register newer).polls)
    (apart : poll.number ≠ newer.number) : poll.isLive = false := by
  obtain ⟨before, old, rfl⟩ := List.mem_map.mp member
  split at apart
  case isTrue same => exact absurd same apart
  case isFalse other =>
    rw [if_neg other]
    exact orderly.not_isLive_cancel few old

/-- A registration leaves the new poll as the only one that can be live. -/
theorem register (orderly : poller.Orderly) {poll : Poll} (member : poll ∈ poller.polls) :
    (poller.register poll).Orderly := by
  have cancelled := orderly.cancel
  have same : (poller.register poll).polls.map Poll.registration =
      poller.cancel.polls.map Poll.registration := by
    apply map_registration_modify
    intro other
    rfl
  obtain ⟨distinct, numbered, words⟩ := cancelled.of_same_registrations same
  constructor
  case distinct => exact distinct
  case numbered => exact numbered
  case counted => exact cancelled.counted
  case words => exact words
  case known =>
    intro held current
    rw [← Option.some.inj current]
    refine ⟨?_, orderly.words poll member⟩
    change poll.number ≤ poller.cancel.last
    rw [last_cancel]
    exact orderly.numbered poll member
  case fresh =>
    intro other otherMember unregistered
    obtain ⟨before, old, rfl⟩ := List.mem_map.mp otherMember
    split at unregistered
    case isTrue => cases unregistered
    case isFalse apart =>
      rw [if_neg apart]
      refine ⟨(cancelled.fresh before old unregistered).1, fun current => ?_⟩
      exact apart (Option.some.inj current).symm
  case alone =>
    intro few other otherMember live
    change poller.cancel.last < UInt64.size at few
    rw [last_cancel] at few
    by_cases own : other.number = poll.number
    case neg =>
      rw [orderly.not_isLive_register few otherMember own] at live
      cases live
    case pos =>
      have word := words other otherMember
      rw [own, ← orderly.words poll member] at word
      exact congrArg some (Registration.ext word own).symm

/-- A poll that is under way keeps the order by its steps. -/
theorem advance (orderly : poller.Orderly) {poll : Poll} (member : poll ∈ poller.polls)
    (registered : poll.stage.isRegistered = true) {after : Poller}
    (advances : poller.Advances poll.number after) : after.Orderly := by
  obtain ⟨current, last, generation, _, change, keeps, polls⟩ := advances
  obtain ⟨distinct, numbered, words⟩ := orderly.of_same_registrations
    (map_registration_modify keeps.registration poller poll.number)
  have origin : ∀ other ∈ after.polls, other ∈ poller.polls ∨ other = change poll := by
    intro other otherMember
    rw [polls] at otherMember
    obtain ⟨before, old, rfl⟩ := List.mem_map.mp otherMember
    split
    case isTrue same => exact .inr (congrArg change (orderly.eq_of_number old member same))
    case isFalse => exact .inl old
  constructor
  case distinct =>
    rw [polls]
    exact distinct
  case numbered =>
    rw [polls, last]
    exact numbered
  case counted =>
    rw [generation, last]
    exact orderly.counted
  case words =>
    rw [polls]
    exact words
  case known =>
    rw [current, last]
    exact orderly.known
  case fresh =>
    intro other otherMember unregistered
    rw [current]
    rcases origin other otherMember with old | rfl
    · exact orderly.fresh other old unregistered
    · rw [keeps.registered] at unregistered
      cases unregistered
  case alone =>
    intro few other otherMember live
    rw [last] at few
    rw [current]
    rcases origin other otherMember with old | rfl
    · exact orderly.alone few other old live
    · rw [keeps.registration]
      apply orderly.alone few poll member
      rw [Poll.isLive, keeps.cancelled] at live
      rw [Poll.isLive, registered]
      exact Bool.and_eq_true_iff.mpr ⟨rfl, (Bool.and_eq_true_iff.mp live).2⟩

/-- Polls can go, and what the poller knows with its poll. -/
theorem drop (orderly : poller.Orderly) {number : Nat} {after : Poller}
    (polls : after.polls = poller.polls.filter fun poll => poll.number != number)
    (last : after.last = poller.last) (generation : after.generation = poller.generation)
    (current : after.current = poller.current ∨ after.current = none ∧
      (poller.last < UInt64.size → poller.current.map Registration.number = some number)) :
    after.Orderly := by
  have old : ∀ poll ∈ after.polls, poll ∈ poller.polls ∧ poll.number ≠ number := by
    intro poll member
    rw [polls, List.mem_filter] at member
    exact ⟨member.1, by simpa using member.2⟩
  constructor
  case distinct =>
    rw [polls]
    exact orderly.distinct.sublist (List.filter_sublist.map _)
  case numbered =>
    intro poll member
    rw [last]
    exact orderly.numbered poll (old poll member).1
  case counted =>
    rw [generation, last]
    exact orderly.counted
  case words => exact fun poll member => orderly.words poll (old poll member).1
  case known =>
    intro known isKnown
    rw [last]
    rcases current with same | ⟨forgotten, _⟩
    · exact orderly.known known (same ▸ isKnown)
    · rw [forgotten] at isKnown
      cases isKnown
  case fresh =>
    intro poll member unregistered
    obtain ⟨uncancelled, unknown⟩ := orderly.fresh poll (old poll member).1 unregistered
    refine ⟨uncancelled, ?_⟩
    rcases current with same | ⟨forgotten, _⟩
    · rwa [same]
    · simp [forgotten]
  case alone =>
    intro few poll member live
    rw [last] at few
    have knows := orderly.alone few poll (old poll member).1 live
    rcases current with same | ⟨_, own⟩
    · rw [same, knows]
    · have number := own few
      rw [knows] at number
      exact absurd (Option.some.inj number) (old poll member).2

/-- A release makes the poller forget no other poll than the one released. -/
theorem current_release (orderly : poller.Orderly) {poll : Poll} (member : poll ∈ poller.polls)
    (result : PollResult) :
    (poller.release poll result).current = poller.current ∨
      (poller.release poll result).current = none ∧
        (poller.last < UInt64.size → poller.current = some poll.registration) := by
  change poller.current.filter _ = _ ∨ poller.current.filter _ = _ ∧ _
  cases current : poller.current with
  | none => exact .inl rfl
  | some held =>
      by_cases word : held.generation = poll.generation
      case neg => exact .inl (by simp [word])
      case pos =>
        refine .inr ⟨by simp [word], fun few => congrArg some (Registration.ext word ?_)⟩
        obtain ⟨below, belongs⟩ := orderly.known held current
        rw [belongs, orderly.words poll member] at word
        exact eq_of_ofNat_eq few below (orderly.numbered poll member) word

theorem release (orderly : poller.Orderly) {poll : Poll} (member : poll ∈ poller.polls)
    (result : PollResult) : (poller.release poll result).Orderly := by
  refine orderly.drop rfl rfl rfl ((orderly.current_release member result).imp_right ?_)
  rintro ⟨forgotten, own⟩
  exact ⟨forgotten, fun few => congrArg (Option.map Registration.number) (own few)⟩

/-- At most one poll is live. -/
theorem length_live_le_one (orderly : poller.Orderly) (few : poller.last < UInt64.size) :
    poller.live.length ≤ 1 := by
  have nodup : (poller.live.map Poll.registration).Nodup := by
    apply List.Nodup.of_map Registration.number
    rw [List.map_map]
    exact orderly.distinct.sublist (List.filter_sublist.map _)
  apply length_le_one_of_remembered nodup
  intro poll member
  obtain ⟨present, live⟩ := List.mem_filter.mp member
  exact orderly.alone few poll present live

/-- A registration leaves just the new poll live. -/
theorem live_register (orderly : poller.Orderly) (few : poller.last < UInt64.size) {poll : Poll}
    (member : poll ∈ poller.polls) (numbered : poll.stage = .numbered) :
    (poller.register poll).live = [{ poll with stage := .ready }] := by
  obtain ⟨uncancelled, unknown⟩ := orderly.fresh poll member (by rw [numbered]; rfl)
  have kept : poll ∈ poller.cancel.polls := by
    rw [polls_cancel]
    exact List.mem_map.mpr ⟨poll, member, if_neg unknown⟩
  have isLive : { poll with stage := .ready } ∈ (poller.register poll).live := by
    refine List.mem_filter.mpr ⟨List.mem_map.mpr ⟨poll, kept, if_pos rfl⟩, ?_⟩
    simp [Poll.isLive, PollStage.isRegistered, uncancelled]
  have stillFew : (poller.register poll).last < UInt64.size := by
    change poller.cancel.last < UInt64.size
    rwa [last_cancel]
  have atMostOne := (orderly.register member).length_live_le_one stillFew
  match live : (poller.register poll).live with
  | [] => rw [live] at isLive; cases isLive
  | [only] =>
      rw [live] at isLive
      rw [List.mem_singleton.mp isLive]
  | _ :: _ :: _ => simp [live] at atMostOne

end Orderly

end Poller

end UtilityBilling.Task
