/-
# Answers and the loads that they belong to

Every answer that the driver takes was given by the source to a fetch of that load, or
stands for a cancelled fetch; and every fetch asks for what its load was issued for.
Loads are numbered from one, and as long as the numbers do not come round again every
load is answered at most once. What carries this is that a load under way, an answer in
the queue and an answer taken are never about the same load.
-/

import Mathlib.Data.List.Perm.Basic
import UtilityBilling.Proofs.Table.Change

namespace UtilityBilling.Table

variable {α : Type}

/-- A request that carries the parameters of a load of the history, and those that
every load carried at its time. -/
def Sent (past : List (Entry α)) (request : RequestId) (parameters : List Parameter) : Prop :=
  ∃ load ∈ loads past, ∃ extras,
    load.request = request ∧ parameters = load.query.parameters ++ extras

/-- An outcome that an entry of the history brought. -/
def Brought (past : List (Entry α)) (request : RequestId)
    (outcome : Except LoadFailure (Page α)) : Prop :=
  ∃ entry ∈ past, Origin request entry outcome

/-- What the source is asked was sent for a load, and what the driver takes for an
answer was brought by the source or by the end of a fetch. -/
def Founded : Entry α → List (Entry α) → Prop
  | .asked request parameters, earlier => Sent earlier request parameters
  | .taken request outcome, earlier => Brought earlier request outcome
  | _, _ => True

theorem Sent.mono {past : List (Entry α)} {request : RequestId} {parameters : List Parameter}
    (sent : Sent past request parameters) (more : List (Entry α)) :
    Sent (more ++ past) request parameters := by
  obtain ⟨load, member, shape⟩ := sent
  refine ⟨load, ?_, shape⟩
  rw [loads, List.filterMap_append]
  exact List.mem_append_right _ member

theorem Brought.mono {past : List (Entry α)} {request : RequestId}
    {outcome : Except LoadFailure (Page α)} (brought : Brought past request outcome)
    (more : List (Entry α)) : Brought (more ++ past) request outcome := by
  obtain ⟨entry, member, origin⟩ := brought
  exact ⟨entry, List.mem_append_right _ member, origin⟩

/-- A course in which every load under way and every answer in the queue is founded on
the history. -/
structure Traced (course : Course α) : Prop where
  clean : course.binder.state.dirty = false
  carried : ∀ load ∈ course.binder.carried, Sent course.past load.1 load.2
  answers : ∀ answer ∈ course.binder.answers, Brought course.past answer.1 answer.2
  lawful : Lawful Founded course.past

namespace Traced

variable {course after : Course α}

theorem start (endpoint : String) (config : Config) (extras : List Parameter) :
    Traced (Course.start (α := α) endpoint config extras) where
  clean := rfl
  carried := by simp [Course.start, Binder.start, Binder.carried]
  answers := by simp [Course.start, Binder.start, Binder.answers, Message.answer?]
  lawful := .nil

/-- Loads and answers that were there before stay founded when more is seen. -/
theorem extend (traced : Traced course) (more : List (Entry α))
    (past : after.past = more ++ course.past)
    (clean : after.binder.state.dirty = false)
    (carried : ∀ load ∈ after.binder.carried,
      load ∈ course.binder.carried ∨ Sent after.past load.1 load.2)
    (answers : ∀ answer ∈ after.binder.answers,
      answer ∈ course.binder.answers ∨ Brought after.past answer.1 answer.2)
    (lawful : Lawful Founded after.past) : Traced after where
  clean := clean
  carried := by
    intro load member
    rcases carried load member with old | new
    · rw [past]; exact (traced.carried load old).mono more
    · exact new
  answers := by
    intro answer member
    rcases answers answer member with old | new
    · rw [past]; exact (traced.answers answer old).mono more
    · exact new
  lawful := lawful

theorem step (traced : Traced course) (event : Event α) : Traced (course.step event) := by
  cases Course.step_changes traced.clean event with
  | quiet state carried answers past =>
      refine traced.extend [] past (state.dirty.trans traced.clean) ?_ ?_ ?_
      · intro load member; exact .inl (carried ▸ member)
      · intro answer member; exact .inl (answers.subset member)
      · rw [past]; exact traced.lawful
  | @asks request parameters member state carried answers past =>
      refine traced.extend [.asked request parameters] past (state ▸ traced.clean) ?_ ?_ ?_
      · intro load member; exact .inl (carried ▸ member)
      · intro answer member; exact .inl (answers ▸ member)
      · rw [past]; exact ⟨traced.carried _ member, traced.lawful⟩
  | @posts request entry outcome origin _ state carried answers past =>
      refine traced.extend [entry] past (state ▸ traced.clean) ?_ ?_ ?_
      · intro load member
        rw [carried] at member
        exact .inl (List.mem_of_mem_filter member)
      · intro answer member
        rcases answers with lost | posted
        · exact .inl (lost ▸ member)
        · rw [posted, List.mem_append, List.mem_singleton] at member
          rcases member with old | rfl
          · exact .inl old
          · exact .inr ⟨entry, by rw [past]; exact List.mem_cons_self, origin⟩
      · rw [past]; exact ⟨by cases origin <;> trivial, traced.lawful⟩
  | @issues load _ _ _ _ _ clean carried answers past =>
      refine traced.extend [.issued load] past clean ?_ ?_ ?_
      · intro other member
        rw [carried, List.mem_append, List.mem_singleton] at member
        rcases member with old | rfl
        · exact .inl old
        · exact .inr ⟨load, by rw [past]; exact List.mem_cons_self, _, rfl, rfl⟩
      · intro answer member; exact .inl (answers ▸ member)
      · rw [past]; exact ⟨trivial, traced.lawful⟩
  | @takes request outcome painted hears carried answers past =>
      have brought := traced.answers (request, outcome) (answers ▸ List.mem_cons_self)
      refine traced.extend (painted.toList.map .painted ++ [.taken request outcome])
        (by rw [past, List.append_assoc]; rfl) (hears.clean traced.clean) ?_ ?_ ?_
      · intro load member; exact .inl (carried ▸ member)
      · intro answer member; exact .inl (answers ▸ List.mem_cons_of_mem _ member)
      · rw [past]
        cases painted with
        | none => exact ⟨brought, traced.lawful⟩
        | some view => exact ⟨trivial, brought, traced.lawful⟩

/-- Requests and answers are founded in every course. -/
theorem run (endpoint : String) (config : Config) (extras : List Parameter)
    (events : List (Event α)) :
    Traced ((Course.start endpoint config extras).run events) :=
  List.foldlRecOn (motive := Traced) events Course.step (.start endpoint config extras)
    fun _ traced event _ => traced.step event

end Traced

/-- The loads that a course has dealt with or still has to do with: those whose answers
were taken, those whose answers wait in the queue, and those under way. -/
def concerned (course : Course α) : List RequestId :=
  takenRequests course.past ++
    (course.binder.answers.map Prod.fst ++ course.binder.carried.map Prod.fst)

/-- A course in which loads are numbered from one, and in which, as long as the numbers
do not come round again, no load is dealt with twice. -/
structure Numbered (course : Course α) : Prop where
  clean : course.binder.state.dirty = false
  issued : course.binder.state.issued = UInt64.ofNat (loads course.past).length
  numbers : ∀ load ∈ loads course.past,
    ∃ n < (loads course.past).length, load.request = ⟨UInt64.ofNat (n + 1)⟩
  known : ∀ request ∈ concerned course, ∃ load ∈ loads course.past, load.request = request
  once : (loads course.past).length < UInt64.size → (concerned course).Nodup

namespace Numbered

variable {course after : Course α}

/-- A table that has just been started has dealt with no load. -/
theorem concerned_start (endpoint : String) (config : Config) (extras : List Parameter) :
    concerned (Course.start (α := α) endpoint config extras) = [] := rfl

theorem start (endpoint : String) (config : Config) (extras : List Parameter) :
    Numbered (Course.start (α := α) endpoint config extras) where
  clean := rfl
  issued := rfl
  numbers := by simp [Course.start, loads]
  known := by simp [concerned_start]
  once := by simp [concerned_start]

/-- A part of a list without repetitions has none, in whatever order. -/
theorem nodup_of_subperm {β : Type} {part whole : List β} (subperm : part.Subperm whole)
    (nodup : whole.Nodup) : part.Nodup := by
  obtain ⟨ordered, perm, sublist⟩ := subperm
  exact perm.nodup_iff.mp (nodup.sublist sublist)

/-- An event that issues no load, and after which a course has to do with no more loads
than before, keeps the numbering. -/
theorem of_subperm (numbered : Numbered course)
    (clean : after.binder.state.dirty = false)
    (issued : after.binder.state.issued = course.binder.state.issued)
    (same : loads after.past = loads course.past)
    (subperm : (concerned after).Subperm (concerned course)) : Numbered after where
  clean := clean
  issued := by rw [issued, same, numbered.issued]
  numbers := by rw [same]; exact numbered.numbers
  known := by
    intro request member
    rw [same]
    exact numbered.known request (subperm.subset member)
  once := by
    intro bounded
    rw [same] at bounded
    exact nodup_of_subperm subperm (numbered.once bounded)

/-- The next load has a number that none before it has, unless the numbers come round
again. -/
theorem fresh (numbered : Numbered course) {load : Load}
    (request : load.request = ⟨course.binder.state.issued + 1⟩)
    (bounded : (loads course.past).length + 1 < UInt64.size) :
    ∀ other ∈ loads course.past, other.request ≠ load.request := by
  intro other member same
  obtain ⟨n, below, number⟩ := numbered.numbers other member
  rw [number, request, numbered.issued, RequestId.mk.injEq] at same
  have values := congrArg UInt64.toNat same
  simp only [UInt64.toNat_add, UInt64.toNat_ofNat', UInt64.toNat_one] at values
  unfold UInt64.size at bounded
  omega

/-- Issuing a load keeps the numbering. -/
theorem issue (numbered : Numbered course) {load : Load} {parameters : List Parameter}
    (request : load.request = ⟨course.binder.state.issued + 1⟩)
    (issued : after.binder.state.issued = course.binder.state.issued + 1)
    (clean : after.binder.state.dirty = false)
    (carried : after.binder.carried =
      course.binder.carried ++ [(load.request, parameters)])
    (answers : after.binder.answers = course.binder.answers)
    (past : after.past = .issued load :: course.past) : Numbered after := by
  have more : loads after.past = load :: loads course.past := by rw [past]; rfl
  have concerns : concerned after = concerned course ++ [load.request] := by
    simp [concerned, past, answers, carried]
  constructor
  · exact clean
  · rw [issued, more, numbered.issued, List.length_cons]
    exact (UInt64.ofNat_add _ _).symm
  · intro other member
    rw [more] at member ⊢
    rcases List.mem_cons.mp member with rfl | old
    · refine ⟨_, Nat.lt_succ_self _, ?_⟩
      rw [request, numbered.issued]
      exact congrArg RequestId.mk (UInt64.ofNat_add _ _).symm
    · obtain ⟨n, below, number⟩ := numbered.numbers other old
      exact ⟨n, Nat.lt_succ_of_lt below, number⟩
  · intro other member
    rw [more]
    rw [concerns, List.mem_append, List.mem_singleton] at member
    rcases member with old | rfl
    · obtain ⟨found, known, belongs⟩ := numbered.known other old
      exact ⟨found, List.mem_cons_of_mem _ known, belongs⟩
    · exact ⟨load, List.mem_cons_self, rfl⟩
  · intro bounded
    rw [more, List.length_cons] at bounded
    have new : load.request ∉ concerned course := by
      intro member
      obtain ⟨other, known, belongs⟩ := numbered.known _ member
      exact numbered.fresh request bounded other known belongs
    rw [concerns]
    exact (List.perm_append_singleton _ _).nodup_iff.mpr
      (List.nodup_cons.mpr ⟨new, numbered.once (Nat.lt_of_succ_lt bounded)⟩)

/-- A load whose outcome is posted is no longer under way: its answer waits in the
queue, or it is lost. -/
theorem concerned_of_post {request : RequestId} {outcome : Except LoadFailure (Page α)}
    (member : request ∈ course.binder.carried.map Prod.fst)
    (carried : after.binder.carried =
      course.binder.carried.filter fun load => load.1 != request)
    (answers : after.binder.answers = course.binder.answers ∨
      after.binder.answers = course.binder.answers ++ [(request, outcome)])
    (taken : takenRequests after.past = takenRequests course.past) :
    (concerned after).Subperm (concerned course) := by
  have left : after.binder.carried.map Prod.fst =
      (course.binder.carried.map Prod.fst).filter fun other => other != request := by
    rw [carried, List.filter_map]
    rfl
  have gone : request ∉ after.binder.carried.map Prod.fst := by simp [left]
  have part : (after.binder.carried.map Prod.fst).Subperm
      (course.binder.carried.map Prod.fst) := by
    rw [left]
    exact List.filter_sublist.subperm
  rw [concerned, concerned, taken]
  refine (List.subperm_append_left _).mpr ?_
  rcases answers with lost | posted
  · rw [lost]
    exact (List.subperm_append_left _).mpr part
  · rw [posted, List.map_append, List.append_assoc]
    exact (List.subperm_append_left _).mpr (List.cons_subperm_of_not_mem_of_mem gone member part)

theorem step (numbered : Numbered course) (event : Event α) :
    Numbered (course.step event) := by
  cases Course.step_changes numbered.clean event with
  | quiet state carried answers past =>
      refine numbered.of_subperm (state.dirty.trans numbered.clean) state.issued (by rw [past]) ?_
      rw [concerned, concerned, carried, past]
      exact ((answers.map _).append_right _ |>.append_left _).subperm
  | asks _ state carried answers past =>
      refine numbered.of_subperm (state ▸ numbered.clean) (by rw [state]) (by rw [past]; rfl) ?_
      rw [concerned, concerned, carried, answers, past]
      exact .refl _
  | posts origin member state carried answers past =>
      refine numbered.of_subperm (state ▸ numbered.clean) (by rw [state])
        (by rw [past]; cases origin <;> rfl) ?_
      exact concerned_of_post member carried answers (by rw [past]; cases origin <;> rfl)
  | issues request _ issued _ _ clean carried answers past =>
      exact numbered.issue request issued clean carried answers past
  | @takes request outcome painted hears carried answers past =>
      refine numbered.of_subperm (hears.clean numbered.clean) hears.issued
        (by rw [past]; cases painted <;> rfl) ?_
      have taken : takenRequests (course.step event).past =
          request :: takenRequests course.past := by
        rw [past]; cases painted <;> rfl
      rw [concerned, concerned, taken, carried, answers]
      exact List.perm_middle.symm.subperm

/-- Loads are numbered in every course. -/
theorem run (endpoint : String) (config : Config) (extras : List Parameter)
    (events : List (Event α)) :
    Numbered ((Course.start endpoint config extras).run events) :=
  List.foldlRecOn (motive := Numbered) events Course.step (.start endpoint config extras)
    fun _ numbered event _ => numbered.step event

end Numbered

end UtilityBilling.Table
