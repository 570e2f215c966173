/-
# Walking through the pages

A list that is answered page by page is walked through from its first page to its last one and
back. Each page has a view of its own that depends on nothing but its number; the views in their
order show all items, each once, and their labels count them through. What carries this is that
a walk is always on one of the pages, with nothing in flight.
-/

import UtilityBilling.Proofs.Table.Pages

namespace UtilityBilling.Table

variable {α : Type}

/-! ## Walks and pages -/

/-- The page of a list that a query asks for. -/
def serve (items : List α) (query : Query) : Page α where
  items := (items.drop ((query.page.toNat - 1) * query.limit.toNat)).take query.limit.toNat
  total := UInt64.ofNat items.length

/-- A state after a message when the loads that it led to have been answered from a list. -/
def State.answered (items : List α) (state : State α) (message : Message α) : State α :=
  (loadsOf (state.update message).2).foldl
    (fun held load => (held.update (.loaded load.request (serve items load.query))).1)
    (state.update message).1

/-- Which way a walk goes. -/
inductive Direction where
  | forward
  | backward
  deriving DecidableEq, Repr

namespace Direction

/-- The step of a walk. -/
def message : Direction → Message α
  | .forward => .pageMoved 1
  | .backward => .pageMoved (-1)

/-- Whether the pager lets a walk go on. -/
def enabled : Direction → Pager → Bool
  | .forward, pager => pager.nextEnabled
  | .backward, pager => pager.previousEnabled

end Direction

/-- A walk through a list, with the views on its way: it goes on as long as the pager lets it. -/
inductive Walk (items : List α) (direction : Direction) :
    State α → List (View α) → State α → Prop where
  | stops {state : State α} (ended : direction.enabled state.view.pager = false) :
      Walk items direction state [state.view] state
  | goes {state last : State α} {views : List (View α)}
      (more : direction.enabled state.view.pager = true)
      (rest : Walk items direction (state.answered items direction.message) views last) :
      Walk items direction state (state.view :: views) last

/-- There is only one walk from a state. -/
theorem Walk.unique {items : List α} {direction : Direction} {state last other : State α}
    {views others : List (View α)} (walk : Walk items direction state views last)
    (again : Walk items direction state others other) : views = others ∧ last = other := by
  induction walk generalizing others with
  | stops ended =>
      cases again with
      | stops _ => exact ⟨rfl, rfl⟩
      | goes more _ => rw [ended] at more; cases more
  | goes more _ ih =>
      cases again with
      | stops ended => rw [ended] at more; cases more
      | goes _ rest =>
          obtain ⟨sameViews, sameLast⟩ := ih rest
          exact ⟨by rw [sameViews], sameLast⟩

/-- The items that a body shows. -/
def Body.items : Body α → List α
  | .rows items => items
  | _ => []

@[simp]
theorem Body.items_ofItems (items : List α) : (Body.ofItems items).items = items := by
  cases items <;> rfl

theorem Body.shown_ofItems (items : List α) :
    (Body.ofItems items).shown = UInt64.ofNat items.length := by
  cases items <;> rfl

section OnPage

variable (config : Config) (items : List α)

/-- The query on a page of a list. -/
def pageQuery (number : Nat) : Query :=
  { config.query with page := UInt32.ofNat number, totalCount := UInt64.ofNat items.length }

@[simp]
theorem limit_pageQuery (number : Nat) :
    (pageQuery config items number).limit = config.query.limit := rfl

/-- The view of a page of a list. -/
def pageView (number : Nat) : View α :=
  let query := pageQuery config items number
  let fresh : State α := .ofConfig config
  { fresh with query := query, body := .ofItems (serve items query).items }.view

/-- A table shows a page of a list, and nothing is in flight. -/
structure OnPage (number : Nat) (state : State α) : Prop where
  query : state.query = pageQuery config items number
  body : state.body = .ofItems (serve items state.query).items
  pageSizes : state.pageSizes = config.pageSizes
  idle : state.inFlight = none

end OnPage

variable {config : Config} {items : List α} {number : Nat} {state edited : State α}

/-- A load that is answered from the list ends on the page that it asked for. -/
theorem State.answered_of_begins {message : Message α}
    (begins : state.update message = edited.beginLoad) :
    state.answered items message = edited.beginLoad.1.showPage (serve items edited.query) := by
  have inFlight : edited.beginLoad.1.inFlight = some ⟨edited.issued + 1⟩ := rfl
  rw [State.answered, begins, loadsOf_beginLoad, List.foldl_cons, List.foldl_nil, State.update,
    if_pos inFlight]

namespace OnPage

theorem of_begins {message : Message α} (begins : state.update message = edited.beginLoad)
    (query : { edited.query with totalCount := UInt64.ofNat items.length } =
      pageQuery config items number)
    (pageSizes : edited.pageSizes = config.pageSizes) :
    OnPage config items number (state.answered items message) := by
  rw [State.answered_of_begins begins]
  exact ⟨query, rfl, pageSizes, rfl⟩

theorem view (onPage : OnPage config items number state) :
    state.view = pageView config items number := by
  obtain ⟨query, body, pageSizes, idle⟩ := onPage
  rw [query] at body
  simp only [State.view, pageView, State.ofConfig, query, body, pageSizes, idle]

/-- A table that is shown for the first time comes to its first page. -/
theorem opened (first : config.query.page = 1) :
    OnPage config items 1 ((State.ofConfig config).answered items .attach) := by
  have begins : (State.ofConfig (α := α) config).update .attach =
      (State.ofConfig config).beginLoad := rfl
  refine .of_begins begins ?_ rfl
  simp only [State.ofConfig, pageQuery]
  rw [show UInt32.ofNat 1 = config.query.page from first.symm]

variable {target : Nat}

/-- A step goes to the page that lies so many pages further. -/
theorem step (onPage : OnPage config items number state) {delta : Int}
    (further : (target : Int) = number + delta) (positive : 1 ≤ target)
    (small : number < UInt32.size) (smallTarget : target < UInt32.size) :
    OnPage config items target (state.answered items (.pageMoved delta)) := by
  have page : (UInt32.ofNat target).toNat = target := UInt32.toNat_ofNat_of_lt' smallTarget
  have here : state.query.page.toNat = number := by
    rw [onPage.query]
    exact UInt32.toNat_ofNat_of_lt' small
  have moves : state.update (.pageMoved delta) =
      { state with query := { state.query with page := .ofNat target } }.beginLoad :=
    State.update_pageMoved (by rw [page, here]; exact further) (by rw [page]; exact positive)
  exact .of_begins moves (by rw [onPage.query]; rfl) onPage.pageSizes

end OnPage

/-! ## The view of a page -/

/-- The items with the numbers of a page. -/
def slice (items : List α) (size number : Nat) : List α :=
  (items.drop ((number - 1) * size)).take size

/-- The slices of the first pages are the first items. -/
theorem flatMap_slice (items : List α) (size pages : Nat) :
    (List.range' 1 pages).flatMap (slice items size) = items.take (pages * size) := by
  induction pages with
  | zero => simp
  | succ pages ih =>
      rw [List.range'_concat, List.flatMap_append, ih, List.flatMap_singleton, slice, Nat.one_mul,
        Nat.add_sub_cancel_left, Nat.add_mul, Nat.one_mul, List.take_add]

/-- The numbers of the first and the last item on a page. -/
def span (items size number : Nat) : Nat × Nat :=
  ((number - 1) * size + 1, min (number * size) items)

/-- Spans of numbers follow each other without a gap, from a first number to a last one. -/
def Tiles : Nat → List (Nat × Nat) → Nat → Prop
  | first, [], last => first = last + 1
  | first, one :: rest, last => one.1 = first ∧ first ≤ one.2 ∧ Tiles (one.2 + 1) rest last

/-- A page that there is begins with an item. -/
theorem lt_of_le_pagesOf {items size number : Nat} (sized : 1 ≤ size) (some : 1 ≤ items)
    (inside : number ≤ pagesOf items size) : (number - 1) * size < items := by
  by_contra beyond
  rcases Nat.lt_or_ge 1 number with later | first
  · have fewer := (pagesOf_le_iff sized (Nat.le_sub_one_of_lt later)).mpr (Nat.not_lt.mp beyond)
    omega
  · rw [Nat.sub_eq_zero_of_le first, Nat.zero_mul] at beyond
    omega

/-- The spans of the pages from one of them on tile the items from its first one on. -/
theorem tiles_span {items size number : Nat} (sized : 1 ≤ size) (some : 1 ≤ items)
    (positive : 1 ≤ number) (inside : number ≤ pagesOf items size) :
    Tiles ((number - 1) * size + 1)
      ((List.range' number (pagesOf items size - number + 1)).map (span items size)) items := by
  have room := (pagesOf_le_iff sized (Nat.le_trans positive inside)).mp (Nat.le_refl _)
  have begins := lt_of_le_pagesOf sized some inside
  induction left : pagesOf items size - number generalizing number with
  | zero =>
      have last : number = pagesOf items size := by omega
      have ends : min (number * size) items = items := Nat.min_eq_right (last ▸ room)
      exact ⟨rfl, by rw [span, ends]; exact begins, by rw [span, ends]; rfl⟩
  | succ left ih =>
      have inside : number + 1 ≤ pagesOf items size := by omega
      have next := lt_of_le_pagesOf sized some inside
      have later := ih (Nat.le_add_left 1 number) inside next (by omega)
      rw [Nat.add_sub_cancel] at next later
      have ends : min (number * size) items = number * size := Nat.min_eq_left (Nat.le_of_lt next)
      have row : (number - 1) * size + size = number * size := by
        rw [← Nat.succ_mul, Nat.succ_eq_add_one, Nat.sub_add_cancel positive]
      refine ⟨rfl, ?_, ?_⟩
      · rw [span, ends]
        omega
      · rw [span, ends]
        exact later

/-- The label of some rows by the numbers of the first and the last one. -/
def spanText (total : Nat) (span : Nat × Nat) : String :=
  toString span.1 ++ "–" ++ toString span.2 ++ " of " ++ toString total

theorem one_le_limit (config : Config) : 1 ≤ config.query.limit.toNat :=
  (State.sound_ofConfig (α := Unit) config).limit

theorem one_le_pagesOf (items size : Nat) : 1 ≤ pagesOf items size :=
  Nat.le_max_right _ _

/-- A list has a page with a number, and 32 bits are enough to number its pages. -/
structure IsPage (config : Config) (items : List α) (number : Nat) : Prop where
  few : pagesOf items.length config.query.limit.toNat < UInt32.size
  positive : 1 ≤ number
  inside : number ≤ pagesOf items.length config.query.limit.toNat

namespace IsPage

variable {config : Config} {items : List α} {number : Nat}

theorem toNat_page (isPage : IsPage config items number) :
    (pageQuery config items number).page.toNat = number :=
  UInt32.toNat_ofNat_of_lt' (Nat.lt_of_le_of_lt isPage.inside isPage.few)

theorem sound (isPage : IsPage config items number) : (pageQuery config items number).Sound where
  page := by
    rw [isPage.toNat_page]
    exact isPage.positive
  limit := one_le_limit config

/-- Items on pages that 32 bits can number are not too many for 64 bits. -/
theorem length_le (isPage : IsPage config items number) :
    items.length ≤ 4294967295 * 4294967295 := by
  have room := (pagesOf_le_iff (one_le_limit config)
    (one_le_pagesOf items.length _)).mp (Nat.le_refl _)
  have limit : config.query.limit.toNat ≤ 4294967295 :=
    Nat.le_of_lt_succ config.query.limit.toNat_lt
  exact Nat.le_trans room (Nat.mul_le_mul (Nat.le_of_lt_succ isPage.few) limit)

theorem toNat_total (isPage : IsPage config items number) :
    (pageQuery config items number).totalCount.toNat = items.length :=
  UInt64.toNat_ofNat_of_lt' (Nat.lt_of_le_of_lt isPage.length_le (by decide))

theorem toNat_pageCount (isPage : IsPage config items number) :
    (pageQuery config items number).pageCount.toNat =
      pagesOf items.length config.query.limit.toNat := by
  rw [Query.toNat_pageCount isPage.sound.limit, isPage.toNat_total]
  rfl

theorem nextEnabled_iff (isPage : IsPage config items number) :
    (pageView config items number).pager.nextEnabled = true ↔
      number < pagesOf items.length config.query.limit.toNat := by
  have next := Query.hasNext_iff_lt isPage.sound
  rw [isPage.toNat_page, isPage.toNat_pageCount] at next
  exact next

theorem previousEnabled_iff (isPage : IsPage config items number) :
    (pageView config items number).pager.previousEnabled = true ↔ 1 < number := by
  change decide (1 < (pageQuery config items number).page) = true ↔ _
  rw [decide_eq_true_eq, UInt32.lt_iff_toNat_lt, isPage.toNat_page]
  rfl

theorem items_body (isPage : IsPage config items number) :
    (pageView config items number).body.items =
      slice items config.query.limit.toNat number := by
  change (Body.ofItems (serve items (pageQuery config items number)).items).items = _
  rw [Body.items_ofItems, serve, isPage.toNat_page]
  rfl

/-- The label of a page without items. -/
theorem rangeLabel_of_nil (config : Config) (number : Nat) :
    (pageView config ([] : List α) number).pager.rangeLabel = "0 of 0" := by
  simp [pageView, State.view, pageQuery, serve, Body.ofItems, Body.shown, Query.rangeLabel]
  rfl

/-- A page shows so many of its items as are left. -/
theorem toNat_shown (isPage : IsPage config items number) :
    (pageView config items number).body.shown.toNat =
      min config.query.limit.toNat
        (items.length - (number - 1) * config.query.limit.toNat) := by
  have length : (slice items config.query.limit.toNat number).length =
      min config.query.limit.toNat
        (items.length - (number - 1) * config.query.limit.toNat) := by
    rw [slice, List.length_take, List.length_drop]
  have fits : (slice items config.query.limit.toNat number).length < UInt64.size := by
    have fewer := isPage.length_le
    unfold UInt64.size
    omega
  have body : (pageView config items number).body =
      .ofItems (slice items config.query.limit.toNat number) := by
    rw [← isPage.items_body]
    exact congrArg Body.ofItems (Body.items_ofItems _).symm
  rw [body, Body.shown_ofItems, UInt64.toNat_ofNat_of_lt' fits, length]

/-- The label of a page counts its items among all of them. -/
theorem rangeLabel_of_some (isPage : IsPage config items number) (some : 1 ≤ items.length) :
    (pageView config items number).pager.rangeLabel =
      spanText items.length (span items.length config.query.limit.toNat number) := by
  have shown := isPage.toNat_shown
  have first := Query.toNat_firstRow isPage.sound
  rw [isPage.toNat_page, limit_pageQuery] at first
  have limit := one_le_limit config
  have begins := lt_of_le_pagesOf limit some isPage.inside
  have small := isPage.length_le
  have row : (number - 1) * config.query.limit.toNat + config.query.limit.toNat =
      number * config.query.limit.toNat := by
    rw [← Nat.succ_mul, Nat.succ_eq_add_one, Nat.sub_add_cancel isPage.positive]
  change (pageQuery config items number).rangeLabel (pageView config items number).body.shown = _
  generalize (pageView config items number).body.shown = count at shown
  have visible : count ≠ 0 := by
    intro none
    rw [none, UInt64.toNat_zero] at shown
    omega
  have sum : ((pageQuery config items number).firstRow + count).toNat =
      (number - 1) * config.query.limit.toNat + 1 + count.toNat := by
    rw [UInt64.toNat_add, first]
    exact Nat.mod_eq_of_lt (by omega)
  have last : ((pageQuery config items number).firstRow + count - 1).toNat =
      min (number * config.query.limit.toNat) items.length := by
    have enough : 1 ≤ (pageQuery config items number).firstRow + count := by
      rw [UInt64.le_iff_toNat_le, sum, UInt64.toNat_one]
      omega
    rw [UInt64.toNat_sub_of_le _ _ enough, sum, UInt64.toNat_one]
    omega
  rw [Query.rangeLabel, if_neg visible, first, last, isPage.toNat_total]
  rfl

/-- There is a page before every page but the first. -/
theorem previous (isPage : IsPage config items number) (later : 1 < number) :
    IsPage config items (number - 1) :=
  ⟨isPage.few, Nat.le_sub_one_of_lt later, Nat.le_trans (Nat.sub_le _ _) isPage.inside⟩

end IsPage

/-! ## All pages -/

section Pages

variable (config : Config) (items : List α)

/-- The views of all pages of a list, in order. -/
def pageViews : List (View α) :=
  (List.range' 1 (pagesOf items.length config.query.limit.toNat)).map (pageView config items)

variable {config items} (few : pagesOf items.length config.query.limit.toNat < UInt32.size)

include few

theorem isPage_of_mem {number : Nat}
    (member : number ∈ List.range' 1 (pagesOf items.length config.query.limit.toNat)) :
    IsPage config items number := by
  obtain ⟨positive, below⟩ := List.mem_range'_1.mp member
  exact ⟨few, positive, by omega⟩

theorem pages_pageViews :
    (pageViews config items).map (fun view => view.pager.page.toNat) =
      List.range' 1 (pagesOf items.length config.query.limit.toNat) := by
  rw [pageViews, List.map_map]
  refine (List.map_congr_left fun number member => ?_).trans (List.map_id _)
  exact (isPage_of_mem few member).toNat_page

/-- The pages show all items in order. -/
theorem items_pageViews :
    (pageViews config items).flatMap (fun view => view.body.items) = items := by
  have slices : (pageViews config items).flatMap (fun view => view.body.items) =
      (List.range' 1 (pagesOf items.length config.query.limit.toNat)).flatMap
        (slice items config.query.limit.toNat) := by
    rw [pageViews, List.flatMap_map]
    exact List.flatMap_congr fun number member => (isPage_of_mem few member).items_body
  rw [slices, flatMap_slice]
  exact List.take_of_length_le
    ((pagesOf_le_iff (one_le_limit config) (one_le_pagesOf _ _)).mp (Nat.le_refl _))

/-- The labels of the pages count the items through. -/
theorem labels_pageViews (some : items ≠ []) :
    ∃ spans, Tiles 1 spans items.length ∧
      (pageViews config items).map (fun view => view.pager.rangeLabel) =
        spans.map (spanText items.length) := by
  have filled : 1 ≤ items.length := List.length_pos_iff.mpr some
  have tiles := tiles_span (one_le_limit config) filled (Nat.le_refl 1) (one_le_pagesOf _ _)
  rw [Nat.sub_self, Nat.zero_mul, Nat.sub_add_cancel (one_le_pagesOf _ _)] at tiles
  refine ⟨_, tiles, ?_⟩
  rw [pageViews, List.map_map, List.map_map]
  exact List.map_congr_left fun number member =>
    (isPage_of_mem few member).rangeLabel_of_some filled

end Pages

/-- An empty list has one page, and its label says that there is nothing. -/
theorem labels_pageViews_nil (config : Config) :
    (pageViews config ([] : List α)).map (fun view => view.pager.rangeLabel) = ["0 of 0"] := by
  have single : pagesOf ([] : List α).length config.query.limit.toNat = 1 :=
    Nat.le_antisymm ((pagesOf_le_iff (one_le_limit config) (Nat.le_refl 1)).mpr (Nat.zero_le _))
      (one_le_pagesOf _ _)
  rw [pageViews, single, List.range'_one, List.map_singleton, List.map_singleton,
    IsPage.rangeLabel_of_nil]

section Walks

variable {config : Config} {items : List α} {number : Nat} {state : State α}

/-- From any page a walk forward goes over the pages after it to the last one. -/
theorem exists_walk_forward (isPage : IsPage config items number)
    (onPage : OnPage config items number state) :
    ∃ last, OnPage config items (pagesOf items.length config.query.limit.toNat) last ∧
      Walk items .forward state
        ((List.range' number (pagesOf items.length config.query.limit.toNat - number + 1)).map
          (pageView config items)) last := by
  have next := isPage.nextEnabled_iff
  rw [← onPage.view] at next
  induction left : pagesOf items.length config.query.limit.toNat - number
      generalizing number state with
  | zero =>
      have inside := isPage.inside
      have isLast : number = pagesOf items.length config.query.limit.toNat := by omega
      refine ⟨state, isLast ▸ onPage, ?_⟩
      rw [List.range'_one, List.map_singleton, ← onPage.view]
      refine .stops ?_
      rw [← Bool.not_eq_true]
      exact fun more => absurd (next.mp more) (by omega)
  | succ left ih =>
      have further : number + 1 ≤ pagesOf items.length config.query.limit.toNat := by omega
      have small := Nat.lt_of_le_of_lt further isPage.few
      have isNext : IsPage config items (number + 1) := ⟨isPage.few, Nat.le_add_left _ _, further⟩
      have onNext : OnPage config items (number + 1) (state.answered items (.pageMoved 1)) :=
        onPage.step rfl (Nat.le_add_left _ _) (Nat.lt_of_succ_lt small) small
      obtain ⟨last, onLast, walk⟩ :=
        ih isNext onNext (onNext.view ▸ isNext.nextEnabled_iff) (by omega)
      refine ⟨last, onLast, ?_⟩
      rw [List.range'_succ, List.map_cons, ← onPage.view]
      exact .goes (next.mpr (by omega)) walk

/-- From any page a walk back goes over the pages before it to the first one. -/
theorem exists_walk_backward (isPage : IsPage config items number)
    (onPage : OnPage config items number state) :
    ∃ home, OnPage config items 1 home ∧
      Walk items .backward state
        ((List.range' 1 number).map (pageView config items)).reverse home := by
  have previous := isPage.previousEnabled_iff
  rw [← onPage.view] at previous
  induction number generalizing state with
  | zero => exact absurd isPage.positive (by omega)
  | succ number ih =>
      rw [List.range'_concat, List.map_append, List.reverse_append, Nat.one_mul, Nat.add_comm 1,
        List.map_singleton, List.reverse_singleton, ← onPage.view]
      rcases Nat.eq_zero_or_pos number with rfl | some
      · refine ⟨state, onPage, .stops ?_⟩
        rw [← Bool.not_eq_true]
        exact fun more => absurd (previous.mp more) (by omega)
      · have later : 1 < number + 1 := Nat.succ_lt_succ some
        have isPrevious : IsPage config items number := isPage.previous later
        have small := Nat.lt_of_le_of_lt isPage.inside isPage.few
        have onPrevious : OnPage config items number (state.answered items (.pageMoved (-1))) :=
          onPage.step (by omega) some small (Nat.lt_of_succ_lt small)
        obtain ⟨home, onHome, walk⟩ :=
          ih isPrevious onPrevious (onPrevious.view ▸ isPrevious.previousEnabled_iff)
        exact ⟨home, onHome, .goes (previous.mpr later) walk⟩

/-- From its start a table is walked through to the last page, and from there back to the first
one. -/
theorem exists_walks (first : config.query.page = 1)
    (few : pagesOf items.length config.query.limit.toNat < UInt32.size) :
    ∃ last home, OnPage config items 1 home ∧
      Walk items .forward ((State.ofConfig config).answered items .attach)
        (pageViews config items) last ∧
      Walk items .backward last (pageViews config items).reverse home := by
  have isFirst : IsPage config items 1 := ⟨few, Nat.le_refl 1, one_le_pagesOf _ _⟩
  have isLast : IsPage config items (pagesOf items.length config.query.limit.toNat) :=
    ⟨few, one_le_pagesOf _ _, Nat.le_refl _⟩
  have opened : OnPage config items 1 ((State.ofConfig config).answered items .attach) :=
    .opened first
  obtain ⟨last, onLast, forward⟩ := exists_walk_forward isFirst opened
  obtain ⟨home, onHome, backward⟩ := exists_walk_backward isLast onLast
  rw [Nat.sub_add_cancel (one_le_pagesOf _ _)] at forward
  exact ⟨last, home, onHome, forward, backward⟩

end Walks

/-- Paging covers a list. A list that is answered page by page, on pages that 32 bits can
number, is walked through from the first page as long as there is a next one. The walk comes to
its end; it goes over the pages from one to the number of pages that the pager tells; the bodies
show all items in order, each once; and the labels count them through, or say that there are
none. The walk back, as long as there is a previous page, shows the same views in reverse. In
every state that a table can come to, there is a next page exactly if the page is not the last
one, and a previous one exactly if going back issues a load. -/
theorem paging_covers_items (config : Config) (items : List α) (first : config.query.page = 1)
    (few : pagesOf items.length config.query.limit.toNat < UInt32.size) :
    let opened := (State.ofConfig config).answered items .attach
    let pages := pagesOf items.length config.query.limit.toNat
    (∃ forth last back home,
        Walk items .forward opened forth last ∧ Walk items .backward last back home) ∧
      (∀ forth last, Walk items .forward opened forth last →
        forth.map (fun view => view.pager.page.toNat) = List.range' 1 pages ∧
        (∀ view ∈ forth, view.pager.pageCount.toNat = pages ∧ view.loading = false ∧
          view.body = .ofItems view.body.items) ∧
        forth.flatMap (fun view => view.body.items) = items ∧
        (items = [] → forth.map (fun view => view.pager.rangeLabel) = ["0 of 0"]) ∧
        (items ≠ [] → ∃ spans, Tiles 1 spans items.length ∧
          forth.map (fun view => view.pager.rangeLabel) = spans.map (spanText items.length)) ∧
        ∀ back home, Walk items .backward last back home →
          back = forth.reverse ∧ home.query.page = 1) ∧
      ∀ config moves,
        let state : State α := (State.ofConfig config).after moves
        (state.view.pager.nextEnabled = true ↔
          state.view.pager.page.toNat < state.view.pager.pageCount.toNat) ∧
        (state.view.pager.previousEnabled = true ↔
          loadsOf (state.update (.pageMoved (-1))).2 ≠ []) := by
  intro opened pages
  obtain ⟨last, home, onHome, forward, backward⟩ := exists_walks first few
  refine ⟨⟨_, last, _, home, forward, backward⟩, ?_, ?_⟩
  · intro forth other walk
    obtain ⟨rfl, rfl⟩ := forward.unique walk
    refine ⟨pages_pageViews few, ?_, items_pageViews few, ?_, labels_pageViews few, ?_⟩
    · intro view member
      obtain ⟨number, isNumber, rfl⟩ := List.mem_map.mp member
      refine ⟨(isPage_of_mem few isNumber).toNat_pageCount, rfl, ?_⟩
      exact congrArg Body.ofItems (Body.items_ofItems _).symm
    · rintro rfl
      exact labels_pageViews_nil config
    · intro back arrival walkBack
      obtain ⟨rfl, rfl⟩ := backward.unique walkBack
      exact ⟨rfl, by rw [onHome.query]; rfl⟩
  · intro config moves state
    have sound : state.query.Sound := State.sound_after config moves
    refine ⟨Query.hasNext_iff_lt sound, ?_⟩
    rw [State.loads_back_iff]
    exact decide_eq_true_iff.trans UInt32.lt_iff_toNat_lt

/-- Five items on pages of two make three pages, the last of which is not full. -/
theorem paging_covers_items_five :
    let config : Config := { limit := 2 }
    let items := [10, 20, 30, 40, 50]
    let opened := (State.ofConfig config).answered items .attach
    config.query.page = 1 ∧ pagesOf items.length config.query.limit.toNat < UInt32.size ∧
      ∃ forth last, Walk items .forward opened forth last ∧
        forth.map (fun view => view.pager.page.toNat) = [1, 2, 3] ∧
        forth.flatMap (fun view => view.body.items) = items ∧
        ∃ spans, Tiles 1 spans 5 ∧
          forth.map (fun view => view.pager.rangeLabel) = spans.map (spanText 5) := by
  intro config items opened
  have first : config.query.page = 1 := by decide
  have few : pagesOf items.length config.query.limit.toNat < UInt32.size := by decide
  obtain ⟨⟨forth, last, _, _, walk, _⟩, covers, _⟩ := paging_covers_items config items first few
  obtain ⟨pages, _, shown, _, labels, _⟩ := covers forth last walk
  have three : pagesOf items.length config.query.limit.toNat = 3 := by decide
  exact ⟨first, few, forth, last, walk, pages.trans (by rw [three]; rfl), shown,
    labels (by decide)⟩

end UtilityBilling.Table
