/-
# What a table ignores

A table ignores a message that asks for nothing, for a size or a page that there cannot be, or
that comes too late: the state stays what it was in every part, and nothing is asked of the
surroundings. Every other message has an effect. The page that it leads to is exactly the one that
was asked for, or the first one of another search or size, and nothing else moves the page.
-/

import UtilityBilling.Proofs.Table.Pages

namespace UtilityBilling.Table

variable {α : Type}

/-- The page that lies `delta` pages further, found in words. The sum is taken in 64 bits with a
sign; it is refused if it leaves them, and if it is no page. -/
def pageInWords? (page : UInt32) (delta : Int64) : Option UInt32 :=
  let start := Int64.ofNat page.toNat
  if start.toBitVec.saddOverflow delta.toBitVec then none
  else
    let target := start + delta
    if target < 1 ∨ 4294967295 < target then none else some (.ofNat target.toNatClampNeg)

namespace State

theorem pageAt?_eq_none_iff {page : UInt32} {delta : Int} :
    pageAt? page delta = none ↔ ¬(1 ≤ page.toNat + delta ∧ page.toNat + delta < 2 ^ 32) := by
  rw [pageAt?]
  split
  case isTrue inside => exact iff_of_false nofun fun outside => outside inside
  case isFalse outside => exact iff_of_true rfl outside

/-- Whatever the distance, no page is lost to the words that it is found in. -/
theorem pageInWords?_eq (page : UInt32) (delta : Int64) :
    pageInWords? page delta = pageAt? page delta.toInt := by
  have below := page.toNat_lt
  have start : (Int64.ofNat page.toNat).toInt = page.toNat := Int64.toInt_ofNat_of_lt (by omega)
  rw [pageInWords?]
  dsimp only
  split
  case isTrue overflow =>
    simp only [BitVec.saddOverflow, Int64.toInt_toBitVec, start, Bool.or_eq_true,
      decide_eq_true_eq] at overflow
    rw [eq_comm, pageAt?_eq_none_iff]
    omega
  case isFalse fits =>
    have sum : (Int64.ofNat page.toNat + delta).toInt = page.toNat + delta.toInt := by
      rw [← start]
      exact BitVec.toInt_add_of_not_saddOverflow fits
    have least : (1 : Int64).toInt = 1 := rfl
    have greatest : (4294967295 : Int64).toInt = 4294967295 := rfl
    simp only [Int64.lt_iff_toInt_lt, sum, least, greatest]
    split
    case isTrue outside =>
      rw [eq_comm, pageAt?_eq_none_iff]
      omega
    case isFalse inside =>
      rw [pageAt?, if_pos (by unfold UInt32.size; omega), Int64.toNatClampNeg, sum]

/-- A message has nothing to say to a table. -/
inductive Ignores (state : State α) : Message α → Prop where
  | idle : state.Ignores .idle
  | noLimit : state.Ignores (.limitChanged 0)
  | noPage {delta : Int}
      (outside : ¬(1 ≤ state.query.page.toNat + delta ∧ state.query.page.toNat + delta < 2 ^ 32)) :
      state.Ignores (.pageMoved delta)
  | oldTicket {ticket : Ticket} (old : ticket ≠ state.ticket) :
      state.Ignores (.delayElapsed ticket)
  /-- The answer belongs to another load than the one in flight. -/
  | lateAnswer {message : Message α} {request : RequestId}
      {outcome : Except LoadFailure (Page α)} (answers : message.answer? = some (request, outcome))
      (late : state.inFlight ≠ some request) : state.Ignores message

variable {state : State α} {message : Message α}

theorem Ignores.update_eq (ignores : state.Ignores message) :
    state.update message = (state, []) := by
  cases ignores with
  | idle => rfl
  | noLimit => rfl
  | noPage outside => rw [update, pageAt?_eq_none_iff.mpr outside]
  | oldTicket old => exact if_neg old
  | lateAnswer answers late =>
      cases message with
      | loaded request page =>
          cases answers
          exact if_neg late
      | loadFailed request failure =>
          cases answers
          exact if_neg late
      | _ => cases answers

/-- A load that begins is asked for. -/
theorem beginLoad_ne (edited state : State α) : edited.beginLoad ≠ (state, []) := by
  intro same
  have loads := loadsOf_beginLoad edited
  rw [same] at loads
  cases loads

/-- An answer that is taken leaves no load in flight. -/
theorem take_ne {request : RequestId} (inFlight : state.inFlight = some request)
    (outcome : Except LoadFailure (Page α)) : state.take outcome ≠ state := by
  intro same
  have none_ := state.take_inFlight outcome
  rw [same, inFlight] at none_
  cases none_

/-- A message changes nothing and asks for nothing exactly if it is ignored. -/
theorem update_eq_self_iff : state.update message = (state, []) ↔ state.Ignores message := by
  refine ⟨fun same => ?_, Ignores.update_eq⟩
  cases message with
  | attach => exact absurd same (beginLoad_ne _ _)
  | refresh => exact absurd same (beginLoad_ne _ _)
  | sortClicked field => exact absurd same (beginLoad_ne _ _)
  | searchTyped text => cases congrArg Prod.snd same
  | delayElapsed ticket =>
      refine .oldTicket fun current => ?_
      rw [update, if_pos current] at same
      exact beginLoad_ne _ _ same
  | limitChanged limit =>
      by_cases none_ : limit = 0
      · exact none_ ▸ .noLimit
      · rw [update, if_neg none_] at same
        exact absurd same (beginLoad_ne _ _)
  | pageMoved delta =>
      refine .noPage (pageAt?_eq_none_iff.mp ?_)
      rw [update] at same
      split at same
      case h_1 => exact absurd same (beginLoad_ne _ _)
      case h_2 nowhere => exact nowhere
  | loaded request page =>
      refine .lateAnswer rfl fun inFlight => ?_
      rw [update, if_pos inFlight] at same
      exact take_ne inFlight (.ok page) (congrArg Prod.fst same)
  | loadFailed request failure =>
      refine .lateAnswer rfl fun inFlight => ?_
      rw [update, if_pos inFlight] at same
      exact take_ne inFlight (.error failure) (congrArg Prod.fst same)
  | idle => exact .idle

/-- Two queries ask for the same rows, in whatever order. -/
structure SamePlace (after before : Query) : Prop where
  page : after.page = before.page
  limit : after.limit = before.limit
  search : after.search = before.search

/-- A message starts over from the first page: another size is chosen, or the delay of a search is
over. -/
inductive StartsOver (state : State α) : Message α → Prop where
  | limit {limit : UInt32} (some_ : limit ≠ 0) : state.StartsOver (.limitChanged limit)
  | search : state.StartsOver (.delayElapsed state.ticket)

end State

/-- A message that asks for another place among the rows: another page, size or search. -/
def Message.goes : Message α → Bool
  | .pageMoved _ | .limitChanged _ | .delayElapsed _ => true
  | _ => false

namespace State

variable {state : State α} {message : Message α}

/-- Sorting, loading again, typing and every answer leave the place as it is. -/
theorem samePlace_update (stays : message.goes = false) :
    SamePlace (state.update message).1.query state.query := by
  cases message with
  | attach => exact ⟨rfl, rfl, rfl⟩
  | refresh => exact ⟨rfl, rfl, rfl⟩
  | searchTyped text => exact ⟨rfl, rfl, rfl⟩
  | sortClicked field =>
      rw [update, query_beginLoad]
      dsimp only
      unfold sortBy
      split <;> exact ⟨rfl, rfl, rfl⟩
  | loaded request page =>
      rw [update]
      split <;> exact ⟨rfl, rfl, rfl⟩
  | loadFailed request failure =>
      rw [update]
      split
      · cases failure <;> exact ⟨rfl, rfl, rfl⟩
      · exact ⟨rfl, rfl, rfl⟩
  | idle => exact ⟨rfl, rfl, rfl⟩
  | _ => cases stays

theorem StartsOver.page_update (starts : state.StartsOver message) :
    (state.update message).1.query.page = 1 := by
  cases starts with
  | limit some_ => rw [update, if_neg some_, query_beginLoad]
  | search => rw [update, if_pos rfl, query_beginLoad, settleSearch]

/-- A page that is moved to is as far away as was asked for. -/
theorem page_update_pageMoved {delta : Int} (moved : ¬state.Ignores (.pageMoved delta)) :
    ((state.update (.pageMoved delta)).1.query.page.toNat : Int) =
      state.query.page.toNat + delta := by
  cases found : pageAt? state.query.page delta with
  | none => exact absurd (.noPage (pageAt?_eq_none_iff.mp found)) moved
  | some page =>
      obtain ⟨target, positive⟩ := pageAt?_eq_some_iff.mp found
      rw [update_pageMoved target positive, query_beginLoad]
      exact target

/-- A message that is heeded goes to a page, starts over, or leaves the place as it is. -/
theorem goes_cases (heeded : ¬state.Ignores message) :
    (∃ delta, message = .pageMoved delta) ∨ state.StartsOver message ∨ message.goes = false := by
  cases message with
  | pageMoved delta => exact .inl ⟨delta, rfl⟩
  | limitChanged limit =>
      have some_ : limit ≠ 0 := fun none_ => heeded (none_ ▸ .noLimit)
      exact .inr (.inl (.limit some_))
  | delayElapsed ticket =>
      by_cases current : ticket = state.ticket
      · exact .inr (.inl (current ▸ .search))
      · exact absurd (.oldTicket current) heeded
  | _ => exact .inr (.inr rfl)

end State

/-- A table ignores nothing else, and computes its page without loss. In every state, whether
a run leads to it or not, a message leaves the state as it is in every part and has no effects
exactly if it is idle, chooses no size, leads to a page that there cannot be, brings a ticket that
is not the present one, or answers another load than the one in flight. Every other move to a page
leads to the page whose number is the exact sum; computed in 64 bits, from the least distance to
the greatest, it is the same. Nothing else changes the page, but for another size and a search
whose delay is over, which start over from the first page; sorting, loading again and every answer
leave the page, its size and the search as they are. -/
theorem ignored_exactly (state : State α) (message : Message α) :
    let after := (state.update message).1.query
    (state.update message = (state, []) ↔ state.Ignores message) ∧
      (∀ delta, message = .pageMoved delta → ¬state.Ignores message →
        (after.page.toNat : Int) = state.query.page.toNat + delta) ∧
      (∀ delta : Int64,
        pageInWords? state.query.page delta = State.pageAt? state.query.page delta.toInt) ∧
      (after.page ≠ state.query.page →
        (∃ delta, message = .pageMoved delta) ∨ state.StartsOver message) ∧
      (state.StartsOver message → after.page = 1) ∧
      (message.goes = false → State.SamePlace after state.query) := by
  intro after
  refine ⟨State.update_eq_self_iff, ?_, State.pageInWords?_eq _, ?_, fun starts =>
    starts.page_update, State.samePlace_update⟩
  · rintro delta rfl moved
    exact State.page_update_pageMoved moved
  · intro changed
    have heeded : ¬state.Ignores message := fun ignored =>
      changed (congrArg (fun update => update.1.query.page) ignored.update_eq)
    rcases State.goes_cases heeded with moves | starts | stays
    · exact .inl moves
    · exact .inr starts
    · exact absurd (State.samePlace_update stays).page changed

/-- At both ends of the distances there is no page. -/
example : pageInWords? 1 Int64.minValue = none ∧ pageInWords? 4294967295 Int64.maxValue = none ∧
    pageInWords? 1 4294967294 = some 4294967295 := by decide

end UtilityBilling.Table
