/-
# Pages and their numbers

The pager of a table computes in 32 and 64 bits. Pages and page sizes are at least one in every
state that a table can come to, and then nothing overflows: the pager knows how many pages the
total makes, there is a next page exactly if the page is not the last one, and going back loads a
page exactly if the page is not the first one.
-/

import Mathlib.Algebra.Order.Floor.Div
import UtilityBilling.Proofs.Table.Turns
import UtilityBilling.Table.View

namespace UtilityBilling.Table

variable {α : Type}

/-- How many pages of a size some items make; at least one. -/
def pagesOf (items size : Nat) : Nat :=
  max (items ⌈/⌉ size) 1

/-- Some items fit on so many pages exactly if these have room for them. -/
theorem pagesOf_le_iff {items size pages : Nat} (sized : 1 ≤ size) (positive : 1 ≤ pages) :
    pagesOf items size ≤ pages ↔ items ≤ pages * size := by
  rw [pagesOf, Nat.max_le, ceilDiv_le_iff_le_mul sized, Nat.mul_comm]
  exact and_iff_left positive

/-- Rounding up adds one unless the division goes up. -/
theorem ceilDiv_eq_ite {items size : Nat} (sized : 1 ≤ size) :
    items ⌈/⌉ size = if items % size = 0 then items / size else items / size + 1 := by
  have parts := Nat.div_add_mod items size
  have below := Nat.mod_lt items sized
  rw [Nat.ceilDiv_eq_add_pred_div]
  generalize items / size = full at parts ⊢
  generalize items % size = left at parts below ⊢
  split
  case isTrue none =>
    apply Nat.div_eq_of_lt_le
    · rw [Nat.mul_comm]
      omega
    · rw [Nat.add_mul, Nat.mul_comm]
      omega
  case isFalse some =>
    apply Nat.div_eq_of_lt_le
    · rw [Nat.add_mul, Nat.mul_comm]
      omega
    · rw [Nat.add_mul, Nat.add_mul, Nat.mul_comm]
      omega

namespace Query

/-- A query that can be asked: pages are numbered from one, and have room for something. -/
structure Sound (query : Query) : Prop where
  page : 1 ≤ query.page.toNat
  limit : 1 ≤ query.limit.toNat

variable {query : Query}

/-- The product of a page and a size fits into 64 bits. -/
theorem toNat_page_mul_limit (query : Query) :
    (query.page.toUInt64 * query.limit.toUInt64).toNat =
      query.page.toNat * query.limit.toNat := by
  have page : query.page.toNat ≤ 4294967295 := Nat.le_of_lt_succ query.page.toNat_lt
  have limit : query.limit.toNat ≤ 4294967295 := Nat.le_of_lt_succ query.limit.toNat_lt
  have product := Nat.mul_le_mul page limit
  rw [UInt64.toNat_mul, UInt32.toNat_toUInt64, UInt32.toNat_toUInt64]
  exact Nat.mod_eq_of_lt (Nat.lt_of_le_of_lt product (by decide))

/-- The number of the first row on a page fits into 64 bits. -/
theorem toNat_firstRow (sound : query.Sound) :
    query.firstRow.toNat = (query.page.toNat - 1) * query.limit.toNat + 1 := by
  have before : (query.page - 1).toNat = query.page.toNat - 1 :=
    UInt32.toNat_sub_of_le _ _ (UInt32.le_iff_toNat_le.mpr sound.page)
  have product := toNat_page_mul_limit { query with page := query.page - 1 }
  dsimp only at product
  have page : query.page.toNat - 1 ≤ 4294967294 := by
    have below := query.page.toNat_lt
    omega
  have limit : query.limit.toNat ≤ 4294967295 := Nat.le_of_lt_succ query.limit.toNat_lt
  have small := Nat.mul_le_mul page limit
  rw [firstRow, UInt64.toNat_add, product, before, UInt64.toNat_one]
  exact Nat.mod_eq_of_lt (Nat.lt_of_le_of_lt (Nat.succ_le_succ small) (by decide))

/-- The pager counts the pages that the total makes. -/
theorem toNat_pageCount (limit : 1 ≤ query.limit.toNat) :
    query.pageCount.toNat = pagesOf query.totalCount.toNat query.limit.toNat := by
  have size : (max query.limit 1).toUInt64.toNat = query.limit.toNat := by
    rw [UInt32.toNat_toUInt64, UInt32.toNat_max]
    exact Nat.max_eq_left limit
  have room := query.totalCount.toNat_lt
  rw [pagesOf, ceilDiv_eq_ite limit]
  simp only [pageCount, UInt64.toNat_max, UInt64.toNat_one]
  congr 1
  have even : query.totalCount % (max query.limit 1).toUInt64 = 0 ↔
      query.totalCount.toNat % query.limit.toNat = 0 := by
    rw [← UInt64.toNat_inj, UInt64.toNat_mod, size]
    rfl
  simp only [even]
  split
  case isTrue => rw [UInt64.toNat_div, size]
  case isFalse uneven =>
    -- Something is left only of a division by more than one, so that there is room for one more.
    have several : 2 ≤ query.limit.toNat := by
      by_contra one
      have : query.limit.toNat = 1 := by omega
      simp [this, Nat.mod_one] at uneven
    have half : query.totalCount.toNat / query.limit.toNat ≤ query.totalCount.toNat / 2 :=
      Nat.div_le_div_left several (by decide)
    rw [UInt64.toNat_add, UInt64.toNat_div, size, UInt64.toNat_one]
    exact Nat.mod_eq_of_lt (by omega)

theorem hasNext_iff (query : Query) :
    query.hasNext = true ↔
      query.page.toNat * query.limit.toNat < query.totalCount.toNat := by
  rw [hasNext, decide_eq_true_eq, UInt64.lt_iff_toNat_lt, toNat_page_mul_limit]

/-- There is a next page exactly if the page is not the last one. -/
theorem hasNext_iff_lt (sound : query.Sound) :
    query.hasNext = true ↔ query.page.toNat < query.pageCount.toNat := by
  rw [hasNext_iff, toNat_pageCount sound.limit, ← Nat.not_le, ← Nat.not_le,
    pagesOf_le_iff sound.limit sound.page]

end Query

namespace State

/-- The page that is so many pages further is the one with that number. -/
theorem pageAt?_eq_some_iff {page target : UInt32} {delta : Int} :
    pageAt? page delta = some target ↔
      (target.toNat : Int) = page.toNat + delta ∧ 1 ≤ target.toNat := by
  unfold pageAt?
  dsimp only
  split
  case isTrue inside =>
    have fits : ((page.toNat : Int) + delta).toNat < UInt32.size := by
      unfold UInt32.size at inside ⊢
      omega
    rw [Option.some.injEq, ← UInt32.toNat_inj, UInt32.toNat_ofNat_of_lt' fits]
    omega
  case isFalse outside =>
    have below : target.toNat < UInt32.size := target.toNat_lt
    refine iff_of_false nofun fun ⟨same, positive⟩ => outside ?_
    unfold UInt32.size at below ⊢
    omega

/-- Moving to another page loads it. -/
theorem update_pageMoved {state : State α} {delta : Int} {page : UInt32}
    (target : (page.toNat : Int) = state.query.page.toNat + delta) (positive : 1 ≤ page.toNat) :
    state.update (.pageMoved delta) =
      { state with query := { state.query with page := page } }.beginLoad := by
  rw [update, pageAt?_eq_some_iff.mpr ⟨target, positive⟩]

/-- Going back loads a page exactly if the page is not the first one. -/
theorem loads_back_iff (state : State α) :
    loadsOf (state.update (.pageMoved (-1))).2 ≠ [] ↔ 1 < state.query.page.toNat := by
  rw [update]
  cases found : pageAt? state.query.page (-1) with
  | some page =>
      obtain ⟨target, positive⟩ := pageAt?_eq_some_iff.mp found
      refine iff_of_true ?_ (by omega)
      simp
  | none =>
      refine iff_of_false (by simp) fun later => ?_
      have inside : ((UInt32.ofNat (state.query.page.toNat - 1)).toNat : Int) =
          state.query.page.toNat + -1 := by
        have below := state.query.page.toNat_lt
        rw [UInt32.toNat_ofNat_of_lt' (by unfold UInt32.size; omega)]
        omega
      rw [pageAt?_eq_some_iff.mpr ⟨inside, by omega⟩] at found
      cases found

/-- A new table asks for a page that there can be. -/
theorem sound_ofConfig (config : Config) : (ofConfig (α := α) config).query.Sound := by
  constructor
  all_goals
    simp only [ofConfig, Config.query, UInt32.toNat_max]
    exact Nat.le_max_right _ _

theorem query_beginLoad (state : State α) : state.beginLoad.1.query = state.query := rfl

/-- No message takes a table to a page that there cannot be. -/
theorem sound_update {state : State α} (sound : state.query.Sound) (message : Message α) :
    (state.update message).1.query.Sound := by
  obtain ⟨page, limit⟩ := sound
  cases message with
  | delayElapsed ticket =>
      rw [update]
      split
      · exact ⟨Nat.le_refl 1, limit⟩
      · exact ⟨page, limit⟩
  | limitChanged size =>
      rw [update]
      split
      case isTrue => exact ⟨page, limit⟩
      case isFalse some =>
        refine ⟨Nat.le_refl 1, Nat.pos_of_ne_zero fun none => some ?_⟩
        exact UInt32.toNat_inj.mp none
  | pageMoved delta =>
      rw [update]
      split
      case h_1 target found => exact ⟨(pageAt?_eq_some_iff.mp found).2, limit⟩
      case h_2 => exact ⟨page, limit⟩
  | sortClicked field =>
      rw [update, query_beginLoad]
      dsimp only
      unfold sortBy
      split <;> exact ⟨page, limit⟩
  | loaded request answer =>
      rw [update]
      split <;> exact ⟨page, limit⟩
  | loadFailed request failure =>
      rw [update]
      split
      · cases failure <;> exact ⟨page, limit⟩
      · exact ⟨page, limit⟩
  | attach => exact ⟨page, limit⟩
  | refresh => exact ⟨page, limit⟩
  | searchTyped text => exact ⟨page, limit⟩
  | idle => exact ⟨page, limit⟩

/-- No turn takes a table to a page that there cannot be. -/
theorem sound_turn {turn : Turn α} (sound : turn.before.query.Sound) : turn.after.query.Sound := by
  obtain ⟨before, move⟩ := turn
  cases move with
  | give message => exact sound_update sound message
  | look => exact sound

/-- After any moves a table asks for a page that there can be. -/
theorem sound_after (config : Config) (moves : List (Move α)) :
    ((ofConfig config).after moves).query.Sound :=
  @turns_induction α (fun _ state => state.query.Sound) _ (sound_ofConfig config)
    (fun _ _ sound => sound_turn sound) moves

end State

end UtilityBilling.Table
