/-
# The numbers of a pager

A pager computes in words of 32 and 64 bits. In every state that a table can come to it computes
what it would in whole numbers: no step goes below zero, leaves its word or divides by nothing.
This is decided on the last page of the greatest size: with as many rows as a body may show there,
the sum that the number of the last row is taken from is the greatest word.
-/

import UtilityBilling.Proofs.Table.Paging

namespace UtilityBilling.Table

variable {α : Type}

/-- The most rows for which every pager can number the last one. -/
def mostRows : Nat := 3 * 2 ^ 32 - 4

/-- The label of some rows from a first one on, out of a total. -/
def labelText (first shown total : Nat) : String :=
  if shown = 0 then "0 of " ++ toString total
  else toString first ++ "–" ++ toString (first + shown - 1) ++ " of " ++ toString total

namespace Query

/-- Every step on the way to the numbers of a pager, some rows being shown, is taken as in whole
numbers. -/
structure Exact (query : Query) (shown : Nat) : Prop where
  /-- There are no pages below the first one. -/
  back : (query.page - 1).toNat + 1 = query.page.toNat
  before : ((query.page - 1).toUInt64 * query.limit.toUInt64).toNat =
    (query.page.toNat - 1) * query.limit.toNat
  first : query.firstRow.toNat = (query.page.toNat - 1) * query.limit.toNat + 1
  upTo : (query.page.toUInt64 * query.limit.toUInt64).toNat =
    query.page.toNat * query.limit.toNat
  /-- The rows are added before one is taken off again. -/
  sum : (query.firstRow + UInt64.ofNat shown).toNat = query.firstRow.toNat + shown
  last : (query.firstRow + UInt64.ofNat shown - 1).toNat + 1 = query.firstRow.toNat + shown
  divisor : 0 < (max query.limit 1).toUInt64.toNat
  pages : query.pageCount.toNat = max (query.totalCount.toNat ⌈/⌉ query.limit.toNat) 1

variable {query : Query} {shown : Nat}

/-- The number of a first row leaves room for the most rows. -/
theorem firstRow_add_le (sound : query.Sound) :
    query.firstRow.toNat + mostRows ≤ 2 ^ 64 - 1 := by
  have page : query.page.toNat - 1 ≤ 4294967294 := by
    have below := query.page.toNat_lt
    omega
  have limit : query.limit.toNat ≤ 4294967295 := Nat.le_of_lt_succ query.limit.toNat_lt
  have product := Nat.mul_le_mul page limit
  rw [toNat_firstRow sound, mostRows]
  omega

/-- A query that can be asked has a pager that computes exactly. -/
theorem exact_of_sound (sound : query.Sound) (few : shown ≤ mostRows) : query.Exact shown := by
  have room := firstRow_add_le sound
  have back : (query.page - 1).toNat = query.page.toNat - 1 :=
    UInt32.toNat_sub_of_le _ _ (UInt32.le_iff_toNat_le.mpr sound.page)
  have positive := sound.page
  have rows : (UInt64.ofNat shown).toNat = shown := UInt64.toNat_ofNat_of_lt' (by
    have small : mostRows < UInt64.size := by decide
    omega)
  have sum : (query.firstRow + UInt64.ofNat shown).toNat = query.firstRow.toNat + shown := by
    rw [UInt64.toNat_add, rows]
    exact Nat.mod_eq_of_lt (by omega)
  have first := toNat_firstRow sound
  have before := toNat_page_mul_limit { query with page := query.page - 1 }
  rw [back] at before
  refine ⟨by omega, before, first, toNat_page_mul_limit query, sum, ?_, ?_,
    toNat_pageCount sound.limit⟩
  · have enough : 1 ≤ query.firstRow + UInt64.ofNat shown := by
      rw [UInt64.le_iff_toNat_le, sum, first, UInt64.toNat_one]
      omega
    rw [UInt64.toNat_sub_of_le _ _ enough, sum, UInt64.toNat_one]
    omega
  · rw [UInt32.toNat_toUInt64, UInt32.toNat_max]
    exact Nat.lt_of_lt_of_le Nat.zero_lt_one (Nat.le_max_right _ _)

/-- The label says what it would in whole numbers. -/
theorem Exact.rangeLabel_eq (exact_ : query.Exact shown) (few : shown ≤ mostRows) :
    query.rangeLabel (UInt64.ofNat shown) =
      labelText ((query.page.toNat - 1) * query.limit.toNat + 1) shown query.totalCount.toNat := by
  have small : mostRows < UInt64.size := by decide
  have rows : (UInt64.ofNat shown).toNat = shown := UInt64.toNat_ofNat_of_lt' (by omega)
  have nothing : UInt64.ofNat shown = 0 ↔ shown = 0 := by
    rw [← UInt64.toNat_inj, rows, UInt64.toNat_zero]
  have last : (query.firstRow + UInt64.ofNat shown - 1).toNat =
      query.firstRow.toNat + shown - 1 := by
    have := exact_.last
    omega
  rw [rangeLabel, labelText, last, exact_.first]
  simp only [nothing]

end Query

/-- A pager shows what follows in whole numbers from a query and the number of rows shown. -/
structure Pager.Tells (pager : Pager) (query : Query) (shown : Nat) : Prop where
  page : pager.page = query.page
  limit : pager.limit = query.limit
  total : pager.total = query.totalCount
  pageCount : pager.pageCount.toNat =
    max (query.totalCount.toNat ⌈/⌉ query.limit.toNat) 1
  previous : pager.previousEnabled = true ↔ 1 < query.page.toNat
  next : pager.nextEnabled = true ↔
    query.page.toNat * query.limit.toNat < query.totalCount.toNat
  label : pager.rangeLabel =
    labelText ((query.page.toNat - 1) * query.limit.toNat + 1) shown query.totalCount.toNat

theorem Body.shown_eq (body : Body α) : body.shown = UInt64.ofNat body.items.length := by
  cases body <;> rfl

theorem State.tells_view {state : State α} (sound : state.query.Sound)
    (few : state.body.items.length ≤ mostRows) :
    state.view.pager.Tells state.query state.body.items.length := by
  have exact_ := Query.exact_of_sound sound few
  refine ⟨rfl, rfl, rfl, exact_.pages, ?_, Query.hasNext_iff _, ?_⟩
  · change decide (1 < state.query.page) = true ↔ _
    rw [decide_eq_true_eq, UInt32.lt_iff_toNat_lt]
    rfl
  · change state.query.rangeLabel state.body.shown = _
    rw [Body.shown_eq, exact_.rangeLabel_eq few]

/-- Every load of a run asks for a page that there can be. -/
theorem sound_issuedIn (config : Config) (moves : List (Move α)) :
    ∀ load ∈ issuedIn ((State.ofConfig config).turns moves), load.query.Sound := by
  intro load issued
  obtain ⟨turn, member, inTurn⟩ := List.mem_flatMap.mp issued
  obtain ⟨earlier, _, _, meets⟩ := State.exists_of_mem_turns member
  have before : turn.before.query.Sound := meets ▸ State.sound_after config earlier
  rw [Turn.query_of_mem_loads inTurn]
  exact State.sound_turn before

/-- A page that is accepted is labelled with its place among all rows, and keeps to it. -/
theorem Turn.label_of_accepted {turn : Turn α} {request : RequestId} {page : Page α}
    (sound : turn.before.query.Sound) (accepted : turn.accepted? = some (request, .ok page))
    (some_ : 1 ≤ page.items.length)
    (fits : page.items.length ≤ turn.after.query.limit.toNat) :
    let query := turn.after.query
    let first := (query.page.toNat - 1) * query.limit.toNat + 1
    let last := first + page.items.length - 1
    turn.after.view.pager.rangeLabel =
        toString first ++ "–" ++ toString last ++ " of " ++ toString page.total.toNat ∧
      first ≤ last ∧ last ≤ query.page.toNat * query.limit.toNat := by
  intro query first last
  have after : turn.after = turn.before.showPage page := Turn.after_of_accepted accepted
  have total : query.totalCount = page.total := by
    change turn.after.query.totalCount = _
    rw [after]
    rfl
  have items : turn.after.body.items = page.items := by
    rw [after]
    exact Body.items_ofItems page.items
  have few : turn.after.body.items.length ≤ mostRows := by
    have limit := turn.after.query.limit.toNat_lt
    rw [items, mostRows]
    omega
  have sound' : query.Sound := State.sound_turn sound
  have label := (State.tells_view sound' few).label
  rw [items, labelText, if_neg (by omega)] at label
  -- the rows before the page and as many as fit on it are the rows up to its end
  have rows : (query.page.toNat - 1) * query.limit.toNat + query.limit.toNat =
      query.page.toNat * query.limit.toNat := by
    rw [← Nat.succ_mul, Nat.succ_eq_add_one, Nat.sub_add_cancel sound'.page]
  refine ⟨total ▸ label, Nat.le_sub_one_of_lt (Nat.lt_add_of_pos_right some_), ?_⟩
  calc
    first + page.items.length - 1 =
        (query.page.toNat - 1) * query.limit.toNat + page.items.length := by
      rw [Nat.add_right_comm, Nat.add_sub_cancel]
    _ ≤ (query.page.toNat - 1) * query.limit.toNat + query.limit.toNat :=
      Nat.add_le_add_left fits _
    _ = query.page.toNat * query.limit.toNat := rows

/-- A pager computes exactly. After any moves, whatever the configuration, page and page size
are at least one, and so they are in every load. Whatever body of at most `mostRows` rows and
whatever total is then shown, every step of the pager is taken as in whole numbers, and what it
shows follows from them: how many pages there are, whether there is one before and one after, and
which rows are shown. Directly after a page of some rows that fit was accepted, its label names
its first row and its last one, which lies no further than the page. -/
theorem pager_computes_exactly (config : Config) (moves : List (Move α)) :
    let start := State.ofConfig (α := α) config
    let state := start.after moves
    state.query.Sound ∧
      (∀ load ∈ issuedIn (start.turns moves), load.query.Sound) ∧
      (∀ (body : Body α) (total : UInt64), body.items.length ≤ mostRows →
        let query := { state.query with totalCount := total }
        let shown := { state with body := body, query := query }
        query.Exact body.items.length ∧ shown.view.pager.Tells query body.items.length) ∧
      ∀ turn ∈ start.turns moves, ∀ request page, turn.accepted? = some (request, .ok page) →
        1 ≤ page.items.length → page.items.length ≤ turn.after.query.limit.toNat →
          let query := turn.after.query
          let first := (query.page.toNat - 1) * query.limit.toNat + 1
          let last := first + page.items.length - 1
          turn.after.view.pager.rangeLabel =
              toString first ++ "–" ++ toString last ++ " of " ++ toString page.total.toNat ∧
            first ≤ last ∧ last ≤ query.page.toNat * query.limit.toNat := by
  intro start state
  have sound : state.query.Sound := State.sound_after config moves
  refine ⟨sound, sound_issuedIn config moves, ?_, ?_⟩
  · intro body total few query shown
    have sound' : query.Sound := ⟨sound.page, sound.limit⟩
    have tells : shown.view.pager.Tells query body.items.length := State.tells_view sound' few
    exact ⟨Query.exact_of_sound sound' few, tells⟩
  · intro turn member request page accepted some_ fits
    obtain ⟨earlier, _, _, meets⟩ := State.exists_of_mem_turns member
    have before : turn.before.query.Sound := meets ▸ State.sound_after config earlier
    exact Turn.label_of_accepted before accepted some_ fits

/-- On the last page of the greatest size, two rows are labelled, and as many as there may be: the
next one after these would have the greatest number that there is. -/
theorem pager_computes_exactly_last_row :
    let config : Config := { page := 4294967295, limit := 4294967295 }
    let moves : List (Move Nat) := [.give .attach, .give (.loaded ⟨1⟩ ⟨[10, 20], 7⟩)]
    let state := (State.ofConfig config).after moves
    let most : Body Nat := .rows (List.replicate mostRows 30)
    let full := { state with body := most }
    most.items.length = mostRows ∧
      full.view.pager.rangeLabel = "18446744060824649731–18446744073709551614 of 7" ∧
      state.view.pager.rangeLabel = "18446744060824649731–18446744060824649732 of 7" := by
  intro config moves state most full
  have count : most.items.length = mostRows := List.length_replicate
  obtain ⟨-, -, shows, accepts⟩ := pager_computes_exactly config moves
  obtain ⟨-, tells⟩ := shows most 7 (Nat.le_of_eq count)
  have label := tells.label
  rw [count] at label
  let turn : Turn Nat :=
    ⟨(State.ofConfig config).after [.give .attach], .give (.loaded ⟨1⟩ ⟨[10, 20], 7⟩)⟩
  have member : turn ∈ (State.ofConfig config).turns moves := by decide
  obtain ⟨short, -, -⟩ := accepts turn member ⟨1⟩ ⟨[10, 20], 7⟩ (by decide) (by decide) (by decide)
  exact ⟨count, label.trans (by decide +kernel), short.trans (by decide +kernel)⟩

end UtilityBilling.Table
