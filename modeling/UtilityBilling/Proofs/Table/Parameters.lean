/-
# The parameters of a load

Every load of a table asks for what its query says and for nothing else: two queries have the
same parameters only if they ask for the same page, search and order, and the total that came
with the last page is not among them. The request that goes out is for the address of the
endpoint, and form decoding of its query gives the pairs of that address, the parameters of the
query and the other parameters of the table, in this order and unchanged.
-/

import UtilityBilling.Proofs.Api.Confinement
import UtilityBilling.Proofs.Url.Form
import UtilityBilling.Table.Binder

namespace UtilityBilling.Table

open UtilityBilling.Api
open UtilityBilling.Url (Address)

/-- Two queries ask for the same. The direction counts only where a column is chosen, and the
last known total does not. -/
structure Query.AsksLike (first second : Query) : Prop where
  page : first.page = second.page
  limit : first.limit = second.limit
  search : first.search = second.search
  sortField : first.sortField = second.sortField
  sortDirection : first.sortField ≠ none → first.sortDirection = second.sortDirection

theorem SortDirection.word_injective : Function.Injective SortDirection.word := by
  intro first second same
  cases first <;> cases second <;> simp_all [word]

/-- Different numbers are written differently. -/
theorem toString_injective : Function.Injective (toString : Nat → String) := by
  intro first second same
  have digits : Nat.toDigits 10 first = Nat.toDigits 10 second :=
    Nat.toList_repr.symm.trans ((congrArg String.toList same).trans Nat.toList_repr)
  calc
    first = Nat.ofDigitChars 10 (Nat.toDigits 10 first) 0 := Nat.ofDigitChars_ten_toDigits.symm
    _ = Nat.ofDigitChars 10 (Nat.toDigits 10 second) 0 := by rw [digits]
    _ = second := Nat.ofDigitChars_ten_toDigits

/-- Every parameter is found under its key, and one that is left out is not. -/
theorem lookup_parameters (query : Query) :
    query.parameters.lookup "page" = some (toString query.page.toNat) ∧
      query.parameters.lookup "limit" = some (toString query.limit.toNat) ∧
      query.parameters.lookup "search" =
        (if query.search = "" then none else some query.search) ∧
      query.parameters.lookup "sort_by" = query.sortField ∧
      query.parameters.lookup "sort_dir" =
        query.sortField.map fun _ => query.sortDirection.word := by
  rw [Query.parameters]
  by_cases search : query.search = ""
  · cases query.sortField <;> simp [search, List.lookup_cons]
  · cases query.sortField <;> simp [search, List.lookup_cons]

/-- Queries have the same parameters exactly if they ask for the same. -/
theorem parameters_eq_iff {first second : Query} :
    first.parameters = second.parameters ↔ first.AsksLike second := by
  constructor
  · intro same
    obtain ⟨page, limit, search, sortField, direction⟩ := lookup_parameters first
    obtain ⟨page', limit', search', sortField', direction'⟩ := lookup_parameters second
    rw [same] at page limit search sortField direction
    refine ⟨?_, ?_, ?_, sortField.symm.trans sortField', ?_⟩
    · have pages := Option.some.inj (page.symm.trans page')
      exact UInt32.toNat_inj.mp (toString_injective pages)
    · have limits := Option.some.inj (limit.symm.trans limit')
      exact UInt32.toNat_inj.mp (toString_injective limits)
    · have searches := search.symm.trans search'
      split_ifs at searches with none_ none_' none_'
      · rw [none_, none_']
      · exact Option.some.inj searches
    · intro sorted
      have directions := direction.symm.trans direction'
      obtain ⟨field, chosen⟩ := Option.ne_none_iff_exists'.mp sorted
      rw [← sortField', sortField, chosen] at directions
      exact SortDirection.word_injective (Option.some.inj directions)
  · intro same
    rw [Query.parameters, Query.parameters, same.page, same.limit, same.search, same.sortField]
    cases chosen : second.sortField with
    | none => rfl
    | some field =>
        have sorted : first.sortField ≠ none := by simp [same.sortField, chosen]
        rw [same.sortDirection sorted]

variable {α : Type} {settings : Settings} {endpoint : String} {url : Address}

/-- The address of a call for a page is that of its endpoint, with parameters. -/
theorem address_fetchPage (resolves : settings.endpointUrl endpoint [] = .ok url)
    (parameters : List Parameter) :
    (Call.fetchPage endpoint parameters).address settings =
      .ok (url.withParameters parameters) := by
  change settings.endpointUrl endpoint parameters = _
  rw [Settings.endpointUrl] at resolves ⊢
  cases found : settings.addressOf endpoint.toList with
  | error error =>
      rw [found] at resolves
      cases resolves
  | ok plain =>
      rw [found] at resolves
      obtain rfl : plain = url := Except.ok.inj resolves
      rfl

/-- What goes out for a call is one request, for its address. -/
theorem exists_sent (line : Line) (state : Api.State) {call : Call α}
    (resolves : call.address settings = .ok url)
    (out : GoesOut line state (call.outgoing settings state url)) :
    ∃ request : Request, request.url = url ∧
      (call.perform settings line state).2.sent = state.sent ++ [request] := by
  refine ⟨call.outgoing settings state url, call.url_outgoing settings state url, ?_⟩
  rw [sent_perform resolves, exchange_of_goesOut out]

/-- Requests keep the parameters of the query. Two queries have the same parameters exactly
if they ask for the same. Every load of a table is a request for the address of its endpoint, if
that resolves, with nothing but its query changed: form decoding of that gives the pairs of the
endpoint's own query, the parameters of the load's query and the other parameters of the table,
whatever they are, in this order and unchanged. -/
theorem requests_keep_parameters :
    (∀ first second : Query, first.parameters = second.parameters ↔ first.AsksLike second) ∧
    ∀ {α : Type} (settings : Settings) (binder : Binder α) (request : RequestId) (query : Query)
      (url : Address), settings.endpointUrl binder.endpoint [] = .ok url →
        ∃ fetch requested,
          (binder.execute (.load request query)).fetches = binder.fetches ++ [fetch] ∧
          (Call.fetchPage binder.endpoint fetch.parameters).address settings = .ok requested ∧
          requested.pairs = url.pairs ++ query.parameters ++ binder.extras ∧
          { requested with query := url.query } = url ∧
          ∀ (line : Line) (state : Api.State),
            GoesOut line state ((Call.fetchPage binder.endpoint fetch.parameters).outgoing settings
              state requested) →
              ∃ sent : Request, sent.url = requested ∧
                (fetchPage settings line state binder.endpoint fetch.parameters).2.sent =
                  state.sent ++ [sent] := by
  refine ⟨fun first second => parameters_eq_iff, ?_⟩
  intro α settings binder request query url resolves
  let parameters := query.parameters ++ binder.extras
  let requested := url.withParameters parameters
  have address : (Call.fetchPage binder.endpoint parameters).address settings = .ok requested :=
    address_fetchPage resolves parameters
  have pairs : requested.pairs = url.pairs ++ query.parameters ++ binder.extras := by
    rw [url.pairs_withParameters, List.append_assoc]
  have rest : { requested with query := url.query } = url := url.withParameters_rest parameters
  refine ⟨⟨request, parameters, false, false⟩, requested, rfl, address, pairs, rest, ?_⟩
  intro line state out
  exact exists_sent line state address out

/-- An endpoint with a query and a fragment of its own, and parameters with reserved keys, with
signs and without any text. -/
theorem requests_keep_parameters_reserved :
    let settings : Settings :=
      { baseUrl :=
          { scheme := "http".toList, host := some (.domain "h".toList)
            path := .segments ["api".toList] } }
    let extras := [("page", "7"), ("a&b=c", "1+1 %"), ("", ""), ("\u00fc", "\u20ac")]
    let binder : Binder Unit := .start "/items?kind=x%26y#top" {} extras
    let query : Query := { search := "a b", sortField := some "name", totalCount := 9 }
    ∃ fetch requested,
      (binder.execute (.load ⟨1⟩ query)).fetches = [fetch] ∧
      (Call.fetchPage binder.endpoint fetch.parameters).address settings = .ok requested ∧
      requested.pairs =
        ("kind", "x&y") :: ("page", "1") :: ("limit", "20") :: ("search", "a b") ::
          ("sort_by", "name") :: ("sort_dir", "asc") :: extras := by
  intro settings extras binder query
  let url : Address :=
    { settings.baseUrl with
      path := .segments ["api".toList, "items".toList]
      query := some "kind=x%26y".toList
      fragment := some "top".toList }
  have resolves : settings.endpointUrl binder.endpoint [] = .ok url := by decide +kernel
  obtain ⟨fetch, requested, fetches, address, pairs, -⟩ :=
    requests_keep_parameters.2 settings binder ⟨1⟩ query url resolves
  have own : url.pairs ++ query.parameters = ("kind", "x&y") :: ("page", "1") ::
      ("limit", "20") :: ("search", "a b") :: ("sort_by", "name") :: [("sort_dir", "asc")] := by
    decide +kernel
  rw [own] at pairs
  exact ⟨fetch, requested, fetches, address, pairs⟩

end UtilityBilling.Table
