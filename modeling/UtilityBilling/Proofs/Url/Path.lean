/-
# Paths are read as they are written

A path that was read consists of settled segments: their characters are encoded, none of them
is a slash of either kind, and none of the segments is a dot segment. Such segments with slashes
before them are read as they stand, so a path can be continued by writing more of them.
-/

import Mathlib.Data.Bool.AllAny
import UtilityBilling.Proofs.Text.Case
import UtilityBilling.Proofs.Url.Percent
import UtilityBilling.Url.Parser

namespace UtilityBilling.Url

open UtilityBilling.Text

variable {c : Char} {segment text : List Char} {segments : List (List Char)}

/-- A character that stays as it is inside a segment. -/
def IsSegmentChar (c : Char) : Prop :=
  inPathSet c = false ∧ c ≠ '/' ∧ c ≠ '\\'

instance IsSegmentChar.decidable (c : Char) : Decidable (IsSegmentChar c) :=
  instDecidableAnd

theorem isSegmentChar_of_code : ∀ c ∈ codeChars, IsSegmentChar c :=
  List.all_iff_forall_prop.mp (by decide)

/-- A segment that stays as it is when it is read. -/
structure Settled (segment : List Char) : Prop where
  chars : ∀ c ∈ segment, IsSegmentChar c
  single : isSingleDot segment = false
  double : isDoubleDot segment = false

theorem settled_nil : Settled [] :=
  ⟨fun _ within => absurd within List.not_mem_nil, rfl, rfl⟩

/-- Drive letters count for files only. -/
theorem addSegment_special (segments : List (List Char)) (slash : Bool) (segment : List Char) :
    addSegment .special segments slash segment =
      if isDoubleDot segment then
        if slash then shorten isDriveLetter segments else shorten isDriveLetter segments ++ [[]]
      else if isSingleDot segment then if slash then segments else segments ++ [[]]
      else segments ++ [segment] := by
  rw [addSegment]
  exact fun _ _ kind => by cases kind

/-- A finished segment that is none of the dot segments is put at the end. -/
theorem Settled.addSegment (settled : Settled segment) (segments : List (List Char))
    (slash : Bool) : addSegment .special segments slash segment = segments ++ [segment] := by
  rw [addSegment_special, settled.double, settled.single, if_neg Bool.false_ne_true,
    if_neg Bool.false_ne_true]

/-- The characters of a segment are read into the segment under way. -/
theorem readPath_chars (segments : List (List Char)) (held : List Char) {text : List Char}
    (plain : ∀ c ∈ text, IsSegmentChar c) (rest : List Char) :
    readPath .special segments held (text ++ rest) =
      readPath .special segments (held ++ text) rest := by
  induction text generalizing held with
  | nil => rw [List.nil_append, List.append_nil]
  | cons c text ih =>
      obtain ⟨⟨kept, noSlash, noBackslash⟩, others⟩ := List.forall_mem_cons.mp plain
      have noEnd : (c == '?' || c == '#') = false := by
        rw [Bool.or_eq_false_iff, beq_eq_false_iff_ne, beq_eq_false_iff_ne]
        constructor <;> (rintro rfl; exact absurd kept (by decide))
      have slash : isSlash SchemeKind.special.isSpecial c = false := by
        rw [isSlash, SchemeKind.isSpecial, Bool.or_eq_false_iff, Bool.true_and]
        exact ⟨beq_eq_false_iff_ne.mpr noSlash, beq_eq_false_iff_ne.mpr noBackslash⟩
      rw [List.cons_append, readPath, noEnd, if_neg Bool.false_ne_true, slash,
        if_neg Bool.false_ne_true, encodeChar, kept, if_neg Bool.false_ne_true, ih _ others,
        List.append_assoc]
      rfl

/-- Settled segments with slashes between them and behind them are put at the end. -/
theorem readPath_segments (held : List (List Char)) {first : List Char} {others : List (List Char)}
    (settled : Settled first) (all : ∀ segment ∈ others, Settled segment) (rest : List Char) :
    readPath .special held [] (first ++ (others.flatMap ('/' :: ·) ++ '/' :: rest)) =
      readPath .special (held ++ first :: others) [] rest := by
  induction others generalizing held first with
  | nil =>
      rw [readPath_chars held [] settled.chars, List.nil_append, List.flatMap_nil, List.nil_append,
        readPath, if_neg (by decide), if_pos (by decide), settled.addSegment]
  | cons second others ih =>
      obtain ⟨next, later⟩ := List.forall_mem_cons.mp all
      rw [readPath_chars held [] settled.chars, List.nil_append, List.flatMap_cons,
        List.append_assoc, List.cons_append, readPath, if_neg (by decide), if_pos (by decide),
        settled.addSegment, ih _ next later, List.append_assoc]
      rfl

/-- A path goes on from the settled segments at its start. -/
theorem readPathAfterHost_append (all : ∀ segment ∈ segments, Settled segment)
    (rest : List Char) :
    readPathAfterHost .special (segments.flatMap ('/' :: ·) ++ '/' :: rest) =
      readPath .special segments [] rest := by
  cases segments with
  | nil =>
      rw [List.flatMap_nil, List.nil_append, readPathAfterHost, if_pos (by decide), readPathFrom]
      rfl
  | cons first others =>
      obtain ⟨settled, later⟩ := List.forall_mem_cons.mp all
      rw [List.flatMap_cons, List.cons_append, List.cons_append, readPathAfterHost,
        if_pos (by decide), readPathFrom, List.append_assoc, readPath_segments [] settled later]
      rfl

/-- The last segment of a path is read as it stands and then added. -/
theorem readPath_last (segments : List (List Char)) (plain : ∀ c ∈ segment, IsSegmentChar c) :
    readPath .special segments [] segment = (addSegment .special segments false segment, []) := by
  have read := readPath_chars segments [] plain []
  rw [List.append_nil, List.nil_append] at read
  rw [read, readPath]

/-- A path of settled segments is read as it stands. -/
theorem readPathAfterHost_segments (some_ : segments ≠ [])
    (all : ∀ segment ∈ segments, Settled segment) :
    readPathAfterHost .special (segments.flatMap ('/' :: ·)) = (segments, []) := by
  obtain ⟨before, last, same⟩ := (List.eq_nil_or_concat segments).resolve_left some_
  rw [List.concat_eq_append] at same
  subst same
  have settled := all last (List.mem_concat_self)
  rw [List.flatMap_append, List.flatMap_cons, List.flatMap_nil, List.append_nil,
    readPathAfterHost_append fun segment member => all segment (List.mem_append_left _ member),
    readPath_last _ settled.chars, settled.addSegment]

/-- Adding a segment leaves settled segments. -/
theorem settled_addSegment (all : ∀ segment ∈ segments, Settled segment) (slash : Bool)
    (plain : ∀ c ∈ segment, IsSegmentChar c) :
    ∀ added ∈ addSegment .special segments slash segment, Settled added := by
  have withEmpty {list : List (List Char)} (settled : ∀ segment ∈ list, Settled segment) :
      ∀ added ∈ (if slash then list else list ++ [[]]), Settled added := by
    intro added within
    cases slash with
    | true => exact settled added within
    | false =>
        rcases List.mem_append.mp within with old | new
        · exact settled added old
        · exact List.mem_singleton.mp new ▸ settled_nil
  rw [addSegment_special]
  split
  case isTrue =>
    refine withEmpty fun old within => all old ?_
    rw [shorten] at within
    split at within
    case isTrue => exact within
    case isFalse => exact List.dropLast_subset _ within
  case isFalse double =>
    split
    case isTrue => exact withEmpty all
    case isFalse single =>
      intro added within
      rcases List.mem_append.mp within with old | new
      · exact all added old
      · exact List.mem_singleton.mp new ▸
          ⟨plain, Bool.eq_false_iff.mpr single, Bool.eq_false_iff.mpr double⟩

/-- The last segment of a path is added without a slash, so the path is not empty. -/
theorem addSegment_ne_nil (segments : List (List Char)) (segment : List Char) :
    addSegment .special segments false segment ≠ [] := by
  rw [addSegment_special]
  split
  · exact List.append_ne_nil_of_right_ne_nil _ (List.cons_ne_nil _ _)
  · split <;> exact List.append_ne_nil_of_right_ne_nil _ (List.cons_ne_nil _ _)

/-- A path that is read is not empty, and its segments are settled. -/
theorem settled_readPath (all : ∀ segment ∈ segments, Settled segment) {held : List Char}
    (plain : ∀ c ∈ held, IsSegmentChar c) (text : List Char) :
    (readPath .special segments held text).1 ≠ [] ∧
      ∀ segment ∈ (readPath .special segments held text).1, Settled segment := by
  have ends {segments : List (List Char)} {held : List Char}
      (all : ∀ segment ∈ segments, Settled segment) (plain : ∀ c ∈ held, IsSegmentChar c) :
      addSegment .special segments false held ≠ [] ∧
        ∀ segment ∈ addSegment .special segments false held, Settled segment :=
    ⟨addSegment_ne_nil segments held, settled_addSegment all false plain⟩
  induction text generalizing segments held with
  | nil => exact ends all plain
  | cons c text ih =>
      rw [readPath]
      split
      case isTrue => exact ends all plain
      case isFalse noEnd =>
        split
        case isTrue => exact ih (settled_addSegment all true plain) (by simp)
        case isFalse noSlash =>
          refine ih all fun d within => ?_
          rcases List.mem_append.mp within with old | new
          · exact plain d old
          · have encoded : d ∈ encodeText inPathSet [c] := by
              rwa [encodeText, List.flatMap_cons, List.flatMap_nil, List.append_nil]
            rcases mem_encodeText encoded with ⟨same, kept⟩ | among
            · obtain rfl := List.mem_singleton.mp same
              refine ⟨kept, ?_, ?_⟩ <;> (rintro rfl; exact noSlash rfl)
            · exact isSegmentChar_of_code d among

/-- A path after a host is not empty, and its segments are settled. -/
theorem settled_readPathAfterHost (text : List Char) :
    (readPathAfterHost .special text).1 ≠ [] ∧
      ∀ segment ∈ (readPathAfterHost .special text).1, Settled segment := by
  have read (text : List Char) : (readPath .special [] [] text).1 ≠ [] ∧
      ∀ segment ∈ (readPath .special [] [] text).1, Settled segment :=
    settled_readPath (by simp) (by simp) text
  cases text with
  | nil => exact ⟨by simp [readPathAfterHost, SchemeKind.isSpecial], by
      intro segment within
      obtain rfl := List.mem_singleton.mp within
      exact settled_nil⟩
  | cons c text =>
      rw [readPathAfterHost]
      split
      case isTrue => exact read text
      case isFalse =>
        rw [if_pos (by decide)]
        exact read (c :: text)

/-- What stays as it is inside a segment is neither a blank nor a control. -/
theorem IsSegmentChar.visible (kept : IsSegmentChar c) : 0x20 < c.toNat := by
  refine Nat.lt_of_not_le fun low => ?_
  rcases Nat.lt_or_eq_of_le low with control | blank
  · have foreign : isControlOrForeign c = true := by simp [isControlOrForeign, control]
    have encoded : inPathSet c = true := by simp [inPathSet, inFragmentSet, foreign]
    exact absurd encoded (Bool.eq_false_iff.mp kept.1)
  · obtain rfl : c = ' ' := Char.toNat_inj.mp blank
    exact absurd kept (by decide)

/-- The text of a path that stays as it is has neither blanks nor controls. -/
theorem visible_of_settled (all : ∀ segment ∈ segments, Settled segment) :
    ∀ c ∈ segments.flatMap ('/' :: ·), 0x20 < c.toNat := by
  intro c within
  obtain ⟨segment, member, inside⟩ := List.mem_flatMap.mp within
  rcases List.mem_cons.mp inside with rfl | inside
  · decide
  · exact ((all segment member).chars c inside).visible

/-- An encoded text stays as it is inside a segment. -/
theorem isSegmentChar_of_mem (within : c ∈ encodeSegment text) : IsSegmentChar c := by
  rcases mem_encodeSegment within with unreserved | code
  · have kept : ∀ c : Char, c.toNat < 0x80 → isUnreserved c = true → IsSegmentChar c :=
      Utf8.forall_ascii (by decide)
    exact kept c (ascii_of_unreserved unreserved) unreserved
  · exact isSegmentChar_of_code c code

/-- The ways to write a text in small letters or capitals. -/
def spellings : List Char → List (List Char)
  | [] => [[]]
  | c :: rest => (spellings rest).flatMap fun text => [c :: text, c.toUpper :: text]

theorem mem_spellings (text : List Char) : text ∈ spellings (text.map Char.toLower) := by
  induction text with
  | nil => exact List.mem_singleton.mpr rfl
  | cons c text ih =>
      refine List.mem_flatMap.mpr ⟨text, ih, ?_⟩
      rcases eq_or_eq_toUpper c with small | capital
      · exact List.mem_cons.mpr (.inl (congrArg (· :: text) small))
      · exact List.mem_cons_of_mem _ (List.mem_singleton.mpr (congrArg (· :: text) capital))

/-- What every spelling is decoded to, the text is decoded to. -/
theorem decodeBytes_of_spelled {small dots : List Char} (same : segment.map Char.toLower = small)
    (all : ∀ spelling ∈ spellings small, decodeBytes (Utf8.encode spelling) = Utf8.encode dots) :
    decodeBytes (Utf8.encode segment) = Utf8.encode dots :=
  all segment (same ▸ mem_spellings segment)

/-- A segment that means the directory itself is decoded to a dot. -/
theorem decodeBytes_of_isSingleDot (dot : isSingleDot segment = true) :
    decodeBytes (Utf8.encode segment) = Utf8.encode ['.'] := by
  unfold isSingleDot at dot
  split at dot
  case h_1 same => exact decodeBytes_of_spelled same (by decide)
  case h_2 same => exact decodeBytes_of_spelled same (by decide)
  case h_3 => cases dot

/-- A segment that means the directory above is decoded to two dots. -/
theorem decodeBytes_of_isDoubleDot (dots : isDoubleDot segment = true) :
    decodeBytes (Utf8.encode segment) = Utf8.encode ['.', '.'] := by
  unfold isDoubleDot at dots
  split at dots
  case h_1 same => exact decodeBytes_of_spelled same (by decide)
  case h_2 same => exact decodeBytes_of_spelled same (by decide)
  case h_3 same => exact decodeBytes_of_spelled same (by decide)
  case h_4 same => exact decodeBytes_of_spelled same (by decide)
  case h_5 => cases dots

/-- An encoded text is a dot segment only if it is the dots themselves. -/
theorem isDot_encodeSegment (text : List Char) :
    (isSingleDot (encodeSegment text) = true ↔ text = ['.']) ∧
      (isDoubleDot (encodeSegment text) = true ↔ text = ['.', '.']) := by
  have undone {dots : List Char}
      (decoded : decodeBytes (Utf8.encode (encodeSegment text)) = Utf8.encode dots) :
      text = dots :=
    Utf8.encode_injective ((decodeBytes_encodeSegment text).symm.trans decoded)
  exact ⟨⟨fun dot => undone (decodeBytes_of_isSingleDot dot), fun same => same ▸ by decide⟩,
    ⟨fun dot => undone (decodeBytes_of_isDoubleDot dot), fun same => same ▸ by decide⟩⟩

/-- An encoded text other than dots stays as it is when it is read. -/
theorem settled_encodeSegment (noDot : text ≠ ['.']) (noDots : text ≠ ['.', '.']) :
    Settled (encodeSegment text) :=
  ⟨fun _ => isSegmentChar_of_mem,
    Bool.eq_false_iff.mpr (mt (isDot_encodeSegment text).1.mp noDot),
    Bool.eq_false_iff.mpr (mt (isDot_encodeSegment text).2.mp noDots)⟩

end UtilityBilling.Url
