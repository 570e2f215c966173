/-
# Endpoints stay below the base url

The path of an endpoint comes from the settings and is put behind the base url as text, where it
could be taken for a part of the host. It never is: a path that starts with a slash is looked for
below the base url, on its origin. Slashes at the end of the base url are empty segments of its
path, which are taken off again, so that none of those between base url and path count.
-/

import UtilityBilling.Proofs.Api.BaseUrl
import UtilityBilling.Proofs.Url.Form

namespace UtilityBilling.Api

open UtilityBilling.Url (Address Host Kept)

variable {settings : Settings} {base : Address} {host : Host} {segments : List (List Char)}

/-- A path with empty segments at its end. -/
def trailing (segments : List (List Char)) (count : Nat) : List (List Char) :=
  segments ++ List.replicate count []

/-- An address whose path has empty segments at its end. -/
def trailed (base : Address) (segments : List (List Char)) (count : Nat) : Address :=
  { base with path := .segments (trailing segments count) }

/-- Empty segments are written as slashes. -/
theorem flatMap_trailing (segments : List (List Char)) (count : Nat) :
    (trailing segments count).flatMap ('/' :: ·) =
      segments.flatMap ('/' :: ·) ++ List.replicate count '/' := by
  rw [trailing, List.flatMap_append, List.flatMap_replicate, List.flatten_replicate_singleton]

theorem withoutTrailing_trailing (segments : List (List Char)) (count : Nat) :
    withoutTrailing (trailing segments count) = withoutTrailing segments := by
  unfold withoutTrailing trailing
  induction count with
  | zero => rw [List.replicate_zero, List.append_nil]
  | succ count ih =>
      rw [List.replicate_succ', ← List.append_assoc, List.rdropWhile_concat_pos _ _ _ (by rfl), ih]

/-- A url is kept with empty segments at the end of its path. -/
theorem kept_trailed (kept : Kept base host segments) (count : Nat) :
    Kept (trailed base segments count) host (trailing segments count) where
  special := kept.special
  user := kept.user
  hosted := kept.hosted
  text := kept.text
  port := kept.port
  path := rfl
  written := List.append_ne_nil_of_left_ne_nil kept.written _
  settled := by
    intro segment member
    rcases List.mem_append.mp member with old | new
    · exact kept.settled segment old
    · exact (List.eq_of_mem_replicate new) ▸ Url.settled_nil
  rereads := kept.rereads

/-- Slashes behind a url without query and fragment are read as empty segments. -/
theorem parse_trailed (kept : Kept base host segments) (noQuery : base.query = none)
    (noFragment : base.fragment = none) (count : Nat) :
    Url.parse (base.chars ++ List.replicate count '/') = .ok (trailed base segments count) := by
  have kept_ := kept_trailed kept count
  obtain ⟨rest, starts⟩ := Url.exists_flatMap_eq kept_.written
  have visible : ∀ c ∈ rest, 0x20 < c.toNat := fun c within =>
    Url.visible_of_settled kept_.settled c (starts ▸ List.mem_cons_of_mem _ within)
  have text : base.chars ++ List.replicate count '/' =
      base.scheme ++ ':' :: '/' :: '/' ::
        (base.userText ++ (host.text ++ Url.portText base.port) ++ '/' :: rest) := by
    rw [kept.chars_eq, Url.tailText_eq_nil noQuery noFragment, List.append_nil, ← starts,
      flatMap_trailing]
    simp
  rw [text, kept.parse_path rest visible, ← starts,
    Url.readPathAfterHost_segments kept_.written kept_.settled]
  exact congrArg Except.ok (withTail_nil (trailed base segments count) noQuery noFragment)

/-- The base url without the slashes at its end does not tell how many they were. -/
theorem baseText_trailed (kept : Kept settings.baseUrl host segments)
    (noQuery : settings.baseUrl.query = none) (noFragment : settings.baseUrl.fragment = none)
    (count : Nat) :
    { settings with baseUrl := trailed settings.baseUrl segments count }.baseText =
      settings.baseText := by
  rw [baseText_eq kept noQuery noFragment, ← withoutTrailing_trailing segments count]
  exact baseText_eq (kept_trailed kept count) noQuery noFragment

/-- A path behind slashes. -/
def slashed (count : Nat) (path : String) : String :=
  String.ofList (List.replicate count '/' ++ path.toList)

/-- A path is no url of its own behind slashes either. -/
theorem isPath_slashed {path : String} (isPath : IsPath path.toList) (count : Nat) :
    IsPath (slashed count path).toList := by
  rw [slashed, String.toList_ofList]
  cases count with
  | zero => exact isPath
  | succ count => exact ⟨_, parse_slash _⟩

theorem dropWhile_slashed (count : Nat) (path : String) :
    (slashed count path).toList.dropWhile (· == '/') = path.toList.dropWhile (· == '/') := by
  rw [slashed, String.toList_ofList, List.dropWhile_append_of_pos]
  intro c within
  rw [List.eq_of_mem_replicate within]
  rfl

/-- Parameters do not lead to another site. -/
theorem SameSite.withParameters {url : Address} (site : SameSite url base)
    (parameters : List (String × String)) : SameSite (url.withParameters parameters) base := by
  rw [← url.withParameters_rest parameters] at site
  exact ⟨site.scheme, site.username, site.password, site.host, site.port⟩

/-- Every path has an endpoint on the origin of the base url. -/
theorem exists_endpointUrl (kept : Kept settings.baseUrl host segments) {path : String}
    (isPath : IsPath path.toList) (parameters : List (String × String)) :
    ∃ url, settings.endpointUrl path parameters = .ok url ∧ SameOrigin url settings.baseUrl := by
  obtain ⟨url, found, site⟩ := exists_addressOf kept isPath
  refine ⟨url.withParameters parameters, ?_,
    sameOrigin_of_site kept.special kept.hosted (site.withParameters parameters)⟩
  rw [Settings.endpointUrl, found]
  rfl

/-- The slashes between a base url and a path make no difference. -/
theorem endpointUrl_slashed (kept : Kept settings.baseUrl host segments)
    (noQuery : settings.baseUrl.query = none) (noFragment : settings.baseUrl.fragment = none)
    {path : String} (isPath : IsPath path.toList) (parameters : List (String × String))
    (count more : Nat) :
    { settings with baseUrl := trailed settings.baseUrl segments count }.endpointUrl
        (slashed more path) parameters = settings.endpointUrl path parameters := by
  rw [Settings.endpointUrl, Settings.endpointUrl, addressOf_of_isPath (isPath_slashed isPath more),
    addressOf_of_isPath isPath, dropWhile_slashed, baseText_trailed kept noQuery noFragment]

/-- Endpoints stay below the base url. Under every base url of the web whose text is read as
this url, every path that starts with a slash has an endpoint, and its address is of the origin of
the base url, whatever else the path consists of and whatever the parameters are. If the base url
has neither query nor fragment, then it is read with slashes behind it too, and neither these nor
slashes in front of a path that is no url of its own change the address of its endpoint. -/
theorem endpoints_below (web : settings.baseUrl.scheme ∈ webSchemes)
    (rereads : Url.parse settings.baseUrl.chars = .ok settings.baseUrl) :
    (∀ (path : String) parameters, path.toList.head? = some '/' →
      ∃ url, settings.endpointUrl path parameters = .ok url ∧ SameOrigin url settings.baseUrl) ∧
    (settings.baseUrl.query = none → settings.baseUrl.fragment = none → ∀ count, ∃ longer,
      Url.parse (settings.baseUrl.chars ++ List.replicate count '/') = .ok longer ∧
      ∀ (path : String) parameters more, IsPath path.toList →
        ∃ url, settings.endpointUrl path parameters = .ok url ∧
          { settings with baseUrl := longer }.endpointUrl (slashed more path) parameters =
            .ok url) := by
  obtain ⟨host, segments, kept⟩ := Url.exists_kept_of_rereads rereads (special_of_web web)
  constructor
  · intro path parameters starts
    obtain ⟨rest, written⟩ := List.head?_eq_some_iff.mp starts
    exact exists_endpointUrl kept ⟨_, written ▸ parse_slash rest⟩ parameters
  · intro noQuery noFragment count
    refine ⟨_, parse_trailed kept noQuery noFragment count, fun path parameters more isPath => ?_⟩
    obtain ⟨url, found, -⟩ := exists_endpointUrl kept isPath parameters
    exact ⟨url, found,
      (endpointUrl_slashed kept noQuery noFragment isPath parameters count more).trans found⟩

/-- A backend on a port of its own, below a path. -/
def onPort : Settings :=
  { baseUrl :=
      { scheme := ['h', 't', 't', 'p', 's']
        host := some (.domain "backend.example".toList)
        port := some 8443
        path := .segments [['a', 'p', 'i']] } }

/-- Neither what looks like another host nor what looks like a user leads away, and the slashes
between base url and path do not count. -/
theorem endpoints_below_other_host :
    onPort.baseUrl.scheme ∈ webSchemes ∧ Url.parse onPort.baseUrl.chars = .ok onPort.baseUrl ∧
      (∃ url, onPort.endpointUrl "//evil.example\\@x/../y" [("a", "b")] = .ok url ∧
        SameOrigin url onPort.baseUrl) ∧
      ∃ longer, Url.parse "https://backend.example:8443/api//".toList = .ok longer ∧
        ∃ url, onPort.endpointUrl "@evil.example" [] = .ok url ∧
          { onPort with baseUrl := longer }.endpointUrl "///@evil.example" [] = .ok url := by
  have web : onPort.baseUrl.scheme ∈ webSchemes := by decide
  have rereads : Url.parse onPort.baseUrl.chars = .ok onPort.baseUrl := by decide +kernel
  have isPath : Url.parse "@evil.example".toList = .error .relativeWithoutBase := by
    decide +kernel
  obtain ⟨sited, unchanged⟩ := endpoints_below web rereads
  obtain ⟨longer, parsed, same⟩ := unchanged rfl rfl 2
  exact ⟨web, rereads, sited "//evil.example\\@x/../y" [("a", "b")] (by decide),
    longer, parsed, same "@evil.example" [] 3 ⟨_, isPath⟩⟩

end UtilityBilling.Api
