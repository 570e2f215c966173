/-
# Behind the base url

An endpoint path is put behind the base url as text, and the whole is read as a url. What stands
before the path of the base url is read as it is written, so that the site of the address is the
one of the base url, whatever the path; and since the slashes between the two are made one, it
makes no difference how many there are.
-/

import UtilityBilling.Proofs.Api.Call
import UtilityBilling.Proofs.Url.Reread

namespace UtilityBilling.Api

open UtilityBilling.Url (Address Host Kept Settled)

variable {settings : Settings} {host : Host} {segments : List (List Char)} {path : List Char}

/-- The segments of a path without the empty ones at its end. -/
def withoutTrailing (segments : List (List Char)) : List (List Char) :=
  segments.rdropWhile List.isEmpty

theorem settled_withoutTrailing (settled : ∀ segment ∈ segments, Settled segment) :
    ∀ segment ∈ withoutTrailing segments, Settled segment :=
  fun segment member => settled segment ((List.rdropWhile_prefix _ _).subset member)

/-- The slashes at the end of a path are those of its empty segments. -/
theorem rdropWhile_slashes {front : List Char} (ends : front.getLast? ≠ some '/')
    (settled : ∀ segment ∈ segments, Settled segment) :
    (front ++ segments.flatMap ('/' :: ·)).rdropWhile (· == '/') =
      front ++ (withoutTrailing segments).flatMap ('/' :: ·) := by
  rw [withoutTrailing]
  induction segments using List.reverseRecOn with
  | nil =>
      rw [List.flatMap_nil, List.append_nil, List.rdropWhile_nil, List.flatMap_nil, List.append_nil,
        List.rdropWhile_eq_self_iff]
      intro some_ slash
      rw [beq_iff_eq] at slash
      exact ends (slash ▸ List.getLast?_eq_some_getLast some_)
  | append_singleton segments last ih =>
      have earlier := ih fun segment member => settled segment (List.mem_append_left _ member)
      rw [List.flatMap_append, List.flatMap_singleton]
      rcases List.eq_nil_or_concat last with rfl | ⟨start, c, same⟩
      · rw [← List.append_assoc, List.rdropWhile_concat_pos _ _ _ (by decide), earlier,
          List.rdropWhile_concat_pos _ _ _ (by rfl)]
      · rw [List.concat_eq_append] at same
        subst same
        have last := settled _ (List.mem_append_right _ (List.mem_singleton.mpr rfl))
        have plain : c ≠ '/' :=
          (last.chars c (List.mem_append_right _ (List.mem_singleton.mpr rfl))).2.1
        have apart : front ++ (segments.flatMap ('/' :: ·) ++ '/' :: (start ++ [c])) =
            (front ++ (segments.flatMap ('/' :: ·) ++ '/' :: start)) ++ [c] := by
          simp
        rw [apart, List.rdropWhile_concat_neg _ _ _ (by simpa using plain), ← apart,
          List.rdropWhile_concat_neg _ _ _ (by simp), List.flatMap_append, List.flatMap_singleton]

/-- The base url without the slashes at its end. -/
theorem baseText_eq (kept : Kept settings.baseUrl host segments)
    (noQuery : settings.baseUrl.query = none) (noFragment : settings.baseUrl.fragment = none) :
    settings.baseText = settings.baseUrl.scheme ++ ':' :: '/' :: '/' ::
      (settings.baseUrl.userText ++ (host.text ++ Url.portText settings.baseUrl.port) ++
        (withoutTrailing segments).flatMap ('/' :: ·)) := by
  have some_ : settings.baseUrl.userText ++ (host.text ++ Url.portText settings.baseUrl.port) ≠
      [] := by
    simp [kept.text.written]
  generalize authority : settings.baseUrl.userText ++
    (host.text ++ Url.portText settings.baseUrl.port) = written at some_ ⊢
  have apart (path : List Char) : settings.baseUrl.scheme ++ ':' :: '/' :: '/' ::
      (written ++ path) = (settings.baseUrl.scheme ++ [':', '/', '/'] ++ written) ++ path := by
    simp
  have ends : (settings.baseUrl.scheme ++ [':', '/', '/'] ++ written).getLast? ≠ some '/' := by
    rw [List.getLast?_append_of_ne_nil _ some_]
    exact fun slash => (kept.mem_authority (authority ▸ List.mem_of_getLast? slash)).2.1 rfl
  change (settings.baseUrl.chars).rdropWhile (· == '/') = _
  rw [kept.chars_eq, Url.tailText_eq_nil noQuery noFragment, List.append_nil, authority, apart,
    apart, rdropWhile_slashes ends kept.settled]

/-- Two addresses agree in all that stands before their paths. -/
structure SameSite (first second : Address) : Prop where
  scheme : first.scheme = second.scheme
  username : first.username = second.username
  password : first.password = second.password
  host : first.host = second.host
  port : first.port = second.port

/-- The schemes of the web are special. -/
theorem special_of_web {scheme : List Char} (web : scheme ∈ webSchemes) :
    Url.kindOf scheme = .special := by
  have all : ∀ scheme ∈ webSchemes, Url.kindOf scheme = .special := by decide
  exact all scheme web

/-- A special scheme has a default port, and its urls wrap no others. -/
theorem exists_defaultPort {scheme : List Char} (special : Url.kindOf scheme = .special) :
    scheme ≠ ['b', 'l', 'o', 'b'] ∧ ∃ standard, Url.defaultPort scheme = some standard := by
  obtain ⟨port, member, rfl⟩ := Url.mem_specialPorts special
  simp only [Url.specialPorts, List.mem_cons, List.not_mem_nil, or_false] at member
  rcases member with rfl | rfl | rfl | rfl | rfl <;> exact ⟨by decide, _, rfl⟩

/-- An address on the site of a url with a host is of its origin. -/
theorem sameOrigin_of_site {url base : Address} (special : Url.kindOf base.scheme = .special)
    (hosted : base.host = some host) (site : SameSite url base) : SameOrigin url base := by
  obtain ⟨noBlob, standard, found⟩ := exists_defaultPort special
  have origin (url : Address) (site : SameSite url base) :
      url.origin? = some ⟨base.scheme, host, base.port.getD standard⟩ := by
    rw [Address.origin?, Url.originFrom, site.scheme, if_neg noBlob, Address.hostOrigin?,
      site.scheme, found, site.host, hosted, site.port]
    rfl
  exact ⟨_, origin url site, origin base ⟨rfl, rfl, rfl, rfl, rfl⟩⟩

theorem withTail_nil (url : Address) (noQuery : url.query = none)
    (noFragment : url.fragment = none) : url.withTail [] = url := by
  cases url
  cases noQuery
  cases noFragment
  rfl

/-- A text is a path if it is no url of its own. -/
def IsPath (path : List Char) : Prop :=
  ∃ error, Url.parse path = .error error

/-- What starts with a slash is no url of its own. -/
theorem parse_slash (path : List Char) :
    Url.parse ('/' :: path) = .error .relativeWithoutBase := by
  have visible : ∀ c ∈ [] ++ ['/'], 0x20 < c.toNat := List.forall_mem_singleton.mpr (by decide)
  have tidied := Url.tidy_append visible path
  rw [List.nil_append] at tidied
  rw [Url.parse, tidied]
  rfl

/-- A path is looked for behind the base url, with one slash between them. -/
theorem addressOf_of_isPath (isPath : IsPath path) :
    settings.addressOf path =
      (Url.parse (settings.baseText ++ '/' :: path.dropWhile (· == '/'))).mapError
        (urlError (path.dropWhile (· == '/'))) := by
  obtain ⟨error, rejected⟩ := isPath
  rw [Settings.addressOf, rejected]
  dsimp only
  cases Url.parse (settings.baseText ++ '/' :: path.dropWhile (· == '/')) <;> rfl

/-- What is put behind the base url stands behind its site. -/
theorem exists_behind (kept : Kept settings.baseUrl host segments) (path : List Char) :
    ∃ rest, settings.baseText ++ '/' :: path =
      settings.baseUrl.scheme ++ ':' :: '/' :: '/' :: (settings.baseUrl.userText ++
        (host.text ++ Url.portText settings.baseUrl.port) ++ '/' :: rest) := by
  obtain ⟨inPath, starts⟩ := Url.exists_flatMap_eq kept.written
  have some_ : settings.baseUrl.userText ++ (host.text ++ Url.portText settings.baseUrl.port) ≠
      [] := by
    simp [kept.text.written]
  obtain ⟨before, c, ends⟩ := (List.eq_nil_or_concat _).resolve_left some_
  rw [List.concat_eq_append] at ends
  have stays : (c == '/') = false :=
    beq_eq_false_iff_ne.mpr (kept.mem_authority (ends ▸ List.mem_concat_self)).2.1
  let behind := ('/' :: (inPath ++ settings.baseUrl.tailText)).rdropWhile (· == '/')
  have base : settings.baseText =
      settings.baseUrl.scheme ++ ':' :: '/' :: '/' :: (before ++ [c] ++ behind) := by
    have apart (after : List Char) :
        settings.baseUrl.scheme ++ ':' :: '/' :: '/' :: (before ++ [c] ++ after) =
          (settings.baseUrl.scheme ++ ':' :: '/' :: '/' :: before) ++ c :: after := by
      simp
    change (settings.baseUrl.chars).rdropWhile (· == '/') = _
    rw [kept.chars_eq, starts, ends, apart, List.cons_append,
      Url.rdropWhile_append_cons (· == '/') stays, apart]
  -- of the text behind the site a slash is left at its start, or nothing at all
  have prefix_ : behind <+: '/' :: (inPath ++ settings.baseUrl.tailText) := List.rdropWhile_prefix _ _
  rw [base, ends]
  cases left : behind with
  | nil => exact ⟨path, by simp⟩
  | cons d more =>
      rw [left] at prefix_
      obtain ⟨rfl, -⟩ := List.cons_prefix_cons.mp prefix_
      exact ⟨more ++ '/' :: path, by simp⟩

/-- A path leads to the site of the base url. -/
theorem exists_addressOf (kept : Kept settings.baseUrl host segments) (isPath : IsPath path) :
    ∃ url, settings.addressOf path = .ok url ∧ SameSite url settings.baseUrl := by
  obtain ⟨rest, behind⟩ := exists_behind kept (path.dropWhile (· == '/'))
  rw [addressOf_of_isPath isPath, behind, kept.parse_behind]
  exact ⟨_, rfl, rfl, rfl, rfl, rfl, rfl⟩

end UtilityBilling.Api
