/-
# Urls are read as they are written

A url with one of the special schemes that was read is kept in parts that are told apart again in
its text. What stands before the path is read as it is written, whatever follows it, so a text that
is put behind the host of a url leads nowhere else. Only the host itself may be one that is not read
again; a url whose text is read as this url is kept in all its parts.
-/

import Mathlib.Data.List.DropRight
import UtilityBilling.Proofs.Url.Host

namespace UtilityBilling.Url

open UtilityBilling.Text

variable {scheme text typed rest : List Char} {url : Address} {host : Host}
  {segments : List (List Char)}

/-- Only what stands behind the last character to stay is dropped from the end. -/
theorem rdropWhile_append_cons (drops : Char → Bool) {c : Char} (stays : drops c = false)
    (front rest : List Char) :
    (front ++ c :: rest).rdropWhile drops = front ++ c :: rest.rdropWhile drops := by
  induction rest using List.reverseRecOn with
  | nil => rw [List.rdropWhile_concat_neg _ _ _ (by simp [stays]), List.rdropWhile_nil]
  | append_singleton rest last ih =>
      have apart : front ++ c :: (rest ++ [last]) = (front ++ c :: rest) ++ [last] := by simp
      by_cases dropped : drops last = true
      · rw [apart, List.rdropWhile_concat_pos _ _ _ dropped, ih,
          List.rdropWhile_concat_pos _ _ _ dropped]
      · rw [apart, List.rdropWhile_concat_neg _ _ _ dropped,
          List.rdropWhile_concat_neg _ _ _ dropped, ← apart]

/-- Whether a character is dropped at the ends of a text. -/
def isEdge (c : Char) : Bool :=
  decide (c.toNat ≤ 0x20)

/-- Whether a character is dropped nowhere in a text but at its ends. -/
def isInner (c : Char) : Bool :=
  c != '\t' && c != '\n' && c != '\r'

/-- The end of a text without blanks and controls behind it and without line breaks. -/
def tidyEnd (text : List Char) : List Char :=
  (text.rdropWhile isEdge).filter isInner

theorem not_isEdge {c : Char} (visible : 0x20 < c.toNat) : isEdge c = false :=
  decide_eq_false (Nat.not_le.mpr visible)

theorem isInner_of_visible {c : Char} (visible : 0x20 < c.toNat) : isInner c = true := by
  have noBreak : c ≠ '\t' ∧ c ≠ '\n' ∧ c ≠ '\r' := by
    refine ⟨?_, ?_, ?_⟩ <;> (rintro rfl; exact absurd visible (by decide))
  simp [isInner, noBreak]

/-- An end without blanks and controls is tidy. -/
theorem tidyEnd_eq_self (visible : ∀ c ∈ text, 0x20 < c.toNat) : tidyEnd text = text := by
  have noEdge : text.rdropWhile isEdge = text := by
    rw [List.rdropWhile_eq_self_iff]
    intro some_
    simp [not_isEdge (visible _ (List.getLast_mem some_))]
  rw [tidyEnd, noEdge, List.filter_eq_self]
  exact fun c within => isInner_of_visible (visible c within)

/-- What is read of a text that starts without blanks and controls: only its end is made tidy. -/
theorem tidy_append {front : List Char} {c : Char} (visible : ∀ d ∈ front ++ [c], 0x20 < d.toNat)
    (rest : List Char) : tidy (front ++ c :: rest) = front ++ c :: tidyEnd rest := by
  have last : 0x20 < c.toNat := visible c (by simp)
  have before : ∀ d ∈ front, 0x20 < d.toNat := fun d within =>
    visible d (List.mem_append_left _ within)
  have start : (front ++ c :: rest).dropWhile isEdge = front ++ c :: rest := by
    cases front with
    | nil => exact List.dropWhile_cons_of_neg (by simp [not_isEdge last])
    | cons d front => exact List.dropWhile_cons_of_neg (by simp [not_isEdge (before d (by simp))])
  have inner : front.filter isInner = front := by
    rw [List.filter_eq_self]
    exact fun d within => isInner_of_visible (before d within)
  change (((front ++ c :: rest).dropWhile isEdge).rdropWhile isEdge).filter isInner = _
  rw [start, rdropWhile_append_cons isEdge (not_isEdge last), List.filter_append, inner,
    List.filter_cons_of_pos (isInner_of_visible last), tidyEnd]

/-- A special scheme is one with a default port. -/
theorem mem_specialPorts (special : kindOf scheme = .special) :
    ∃ port ∈ specialPorts, scheme = port.1 := by
  unfold kindOf at special
  split at special
  case isTrue => cases special
  case isFalse =>
    split at special
    case isTrue listed => simpa using List.lookup_isSome_iff.mp listed
    case isFalse => cases special

/-- Special schemes consist of letters and are read up to the colon. -/
theorem readScheme_special (special : kindOf scheme = .special) (rest : List Char) :
    (∀ c ∈ scheme, 0x20 < c.toNat) ∧ readScheme (scheme ++ ':' :: rest) = some (scheme, rest) := by
  obtain ⟨port, member, rfl⟩ := mem_specialPorts special
  simp only [specialPorts, List.mem_cons, List.not_mem_nil, or_false] at member
  rcases member with rfl | rfl | rfl | rfl | rfl <;>
    exact ⟨List.all_iff_forall_prop.mp (by decide), rfl⟩

/-- The text of a query and a fragment. -/
def Address.tailText (url : Address) : List Char :=
  (match url.query with
    | some query => '?' :: query
    | none => []) ++
  match url.fragment with
  | some fragment => '#' :: fragment
  | none => []

theorem tailText_eq_nil (noQuery : url.query = none) (noFragment : url.fragment = none) :
    url.tailText = [] := by
  rw [Address.tailText, noQuery, noFragment]
  rfl

/-- The text of a url in parts. -/
theorem Parted.chars_eq (parted : Parted url host segments) :
    url.chars = url.scheme ++ ':' :: '/' :: '/' :: (url.userText ++ (host.text ++
      portText url.port) ++ (segments.flatMap ('/' :: ·) ++ url.tailText)) := by
  have path : url.pathText = segments.flatMap ('/' :: ·) := by
    rw [Address.pathText, parted.path, parted.hosted]
  rw [Address.chars, Address.textToQuery, path, parted.authorityText_eq, Address.tailText]
  cases url.query <;> cases url.fragment <;> simp

/-- No character before the path is a blank or a control. -/
theorem Parted.visible_start (parted : Parted url host segments) :
    ∀ c ∈ url.scheme ++ ':' :: '/' :: '/' :: (url.userText ++ (host.text ++ portText url.port)) ++
      ['/'], 0x20 < c.toNat := by
  intro c within
  simp only [List.mem_append, List.mem_cons, List.not_mem_nil, or_false] at within
  rcases within with (inScheme | rfl | rfl | rfl | inAuthority) | rfl
  · exact (readScheme_special parted.special []).1 c inScheme
  · decide
  · decide
  · decide
  · exact (parted.mem_authority (by simpa using inAuthority)).1
  · decide

/-- What stands before a path is read as it is written, whatever text stands behind it; the
text of the host is left to the reader of hosts. -/
theorem Parted.parse_behind (parted : Parted url host segments) (rest : List Char) :
    parse (url.scheme ++ ':' :: '/' :: '/' :: (url.userText ++ (host.text ++ portText url.port) ++
        '/' :: rest)) =
      (specialHost host.text).map fun read => Address.withTail
        { url with
          host := some read
          path := .segments (readPathAfterHost .special ('/' :: tidyEnd rest)).1 }
        (readPathAfterHost .special ('/' :: tidyEnd rest)).2 := by
  have tidied := tidy_append parted.visible_start rest
  have start : (url.userText ++ (host.text ++ portText url.port) ++ '/' :: tidyEnd rest).dropWhile
      (isSlash true) =
        url.userText ++ (host.text ++ portText url.port) ++ '/' :: tidyEnd rest := by
    have some_ : url.userText ++ (host.text ++ portText url.port) ≠ [] := by
      simp [parted.text.written]
    obtain ⟨c, others, starts⟩ := List.exists_cons_of_ne_nil some_
    have first := parted.mem_authority (starts ▸ List.mem_cons_self)
    rw [starts, List.cons_append, List.dropWhile_cons_of_neg]
    simp [isSlash, first]
  simp only [List.append_assoc, List.cons_append] at tidied start ⊢
  rw [parse, tidied, (readScheme_special parted.special _).2]
  dsimp only
  rw [readWithScheme, parted.special]
  dsimp only
  rw [List.dropWhile_cons_of_pos (by decide), List.dropWhile_cons_of_pos (by decide), start]
  have read := parted.readAfterSlashes_text (tidyEnd rest)
  simp only [List.append_assoc] at read
  exact read

/-- A url that is kept is read again up to its path, whatever path follows. -/
theorem Kept.parse_behind (kept : Kept url host segments) (rest : List Char) :
    parse (url.scheme ++ ':' :: '/' :: '/' :: (url.userText ++ (host.text ++ portText url.port) ++
        '/' :: rest)) =
      .ok (Address.withTail
        { url with path := .segments (readPathAfterHost .special ('/' :: tidyEnd rest)).1 }
        (readPathAfterHost .special ('/' :: tidyEnd rest)).2) := by
  rw [kept.toParted.parse_behind, kept.rereads, kept.hosted]
  rfl

/-- A path without blanks and controls is read as it stands behind such a url. -/
theorem Kept.parse_path (kept : Kept url host segments) (rest : List Char)
    (visible : ∀ c ∈ rest, 0x20 < c.toNat) :
    parse (url.scheme ++ ':' :: '/' :: '/' :: (url.userText ++ (host.text ++ portText url.port) ++
        '/' :: rest)) =
      .ok (Address.withTail
        { url with path := .segments (readPathAfterHost .special ('/' :: rest)).1 }
        (readPathAfterHost .special ('/' :: rest)).2) := by
  rw [kept.parse_behind, tidyEnd_eq_self visible]

/-- A url that is read after its slashes has the scheme that it was read with. -/
theorem scheme_readAfterSlashes (read : readAfterSlashes scheme text = .ok url) :
    url.scheme = scheme := by
  unfold readAfterSlashes at read
  dsimp only at read
  -- the same, with a user and without
  split at read
  all_goals
    split at read
    case isTrue => cases read
    case isFalse =>
      split at read
      case isTrue => cases read
      case isFalse =>
        split at read
        case h_1 => cases read
        case h_2 =>
          split at read
          case h_1 => cases read
          case h_2 =>
            cases read
            rfl

/-- A url of another kind keeps the scheme that it was read with. -/
theorem scheme_readOther (read : readOther scheme text = .ok url) : url.scheme = scheme := by
  unfold readOther at read
  split at read
  case h_1 => exact scheme_readAfterSlashes read
  all_goals
    cases read
    rfl

/-- The urls of files have a scheme of their own. -/
theorem scheme_readFile (read : readFile none text = .ok url) :
    url.scheme = ['f', 'i', 'l', 'e'] := by
  have rooted {text : List Char} (read : readFile.rooted none text = .ok url) :
      url.scheme = ['f', 'i', 'l', 'e'] := by
    cases read
    rfl
  unfold readFile at read
  split at read
  case h_1 =>
    split at read
    case isTrue =>
      split at read
      case h_1 =>
        split at read
        case isTrue =>
          dsimp only at read
          split at read
          case isTrue =>
            cases read
            rfl
          case isFalse =>
            split at read
            case h_1 => cases read
            case h_2 =>
              cases read
              rfl
        case isFalse => exact rooted read
      case h_2 => exact rooted read
    case isFalse => exact rooted read
  case h_2 => exact rooted read

/-- A url with one of the special schemes that was read is kept in parts, and its host is read
again if its labels are short. -/
theorem exists_parted (read : parse typed = .ok url) (special : kindOf url.scheme = .special) :
    ∃ host segments, Parted url host segments ∧
      (host.HasShortLabels → specialHost host.text = .ok host) := by
  unfold parse at read
  split at read
  case h_2 => cases read
  case h_1 scheme rest _ =>
    unfold readWithScheme at read
    split at read
    case h_1 file =>
      have := scheme_readFile read
      rw [this] at special
      cases special
    case h_3 other =>
      rw [scheme_readOther read, other] at special
      cases special
    case h_2 special' =>
      dsimp only at read
      rw [readAfterSlashes_special special'] at read
      split at read
      case isTrue => cases read
      case isFalse =>
        dsimp only at read
        split at read
        case isTrue => cases read
        case isFalse =>
          split at read
          case h_1 => cases read
          case h_2 host found =>
            split at read
            case h_1 => cases read
            case h_2 port after portRead =>
              obtain ⟨written, settled⟩ := settled_readPathAfterHost after
              obtain ⟨hostText, rereads⟩ := of_specialHost found
              cases read
              exact ⟨host, _, ⟨special', settledUser_readUser _, rfl, hostText,
                port_of_readPort portRead, rfl, written, settled⟩, rereads⟩

/-- A url with short labels that was read is kept. -/
theorem exists_kept (read : parse typed = .ok url) (special : kindOf url.scheme = .special) :
    ∃ host segments, url.host = some host ∧ url.path = .segments segments ∧
      (host.HasShortLabels → Kept url host segments) := by
  obtain ⟨host, segments, parted, rereads⟩ := exists_parted read special
  exact ⟨host, segments, parted.hosted, parted.path, fun short => ⟨parted, rereads short⟩⟩

/-- The text of a path that is not empty starts with a slash. -/
theorem exists_flatMap_eq (written : segments ≠ []) :
    ∃ rest, segments.flatMap ('/' :: ·) = '/' :: rest := by
  cases segments with
  | nil => exact absurd rfl written
  | cons first others => exact ⟨_, rfl⟩

/-- A url whose text is read as this url is kept. -/
theorem exists_kept_of_rereads (rereads : parse url.chars = .ok url)
    (special : kindOf url.scheme = .special) : ∃ host segments, Kept url host segments := by
  obtain ⟨host, segments, parted, -⟩ := exists_parted rereads special
  obtain ⟨path, starts⟩ := exists_flatMap_eq parted.written
  refine ⟨host, segments, parted, ?_⟩
  rw [parted.chars_eq, starts, List.cons_append, parted.parse_behind] at rereads
  cases found : specialHost host.text with
  | error fault =>
      rw [found] at rereads
      cases rereads
  | ok read =>
      rw [found] at rereads
      have hosts : some read = url.host := congrArg Address.host (Except.ok.inj rereads)
      rw [parted.hosted, Option.some.injEq] at hosts
      rw [hosts]

end UtilityBilling.Url
