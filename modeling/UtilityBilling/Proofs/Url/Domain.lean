/-
# Domains are read as they are written

What a domain writes for a character it leaves as it is, since no entry of the table of foldings
leads into an entry. A label in its ASCII form therefore is the ASCII form of itself, where its
numbers can be read, and so is a domain that consists of such labels.
-/

import UtilityBilling.Proofs.Url.Path
import UtilityBilling.Proofs.Url.Punycode
import UtilityBilling.Url.Host

namespace UtilityBilling.Url

open UtilityBilling.Text

variable {c d : Char} {label form domain text : List Char}

/-- A run of code points in the table of foldings: first, last, stride and distance. -/
abbrev Run := Nat × Nat × Nat × Int

namespace Run

/-- Whether a code point belongs to a run. -/
def holds (run : Run) (code : Nat) : Bool :=
  run.1 ≤ code && code ≤ run.2.1 && (code - run.1) % run.2.2.1 == 0

/-- The first code point that is written for a run. -/
def start (run : Run) : Nat :=
  (run.1 + run.2.2.2).toNat

/-- The last code point that is written for a run. -/
def stop (run : Run) : Nat :=
  run.start + (run.2.1 - run.1)

/-- Whether nothing that is written for a run belongs to another one: it lies before it, behind it,
or between its members. -/
def misses (run other : Run) : Bool :=
  Nat.blt run.stop other.1 || Nat.blt other.2.1 run.start ||
    ((Nat.beq run.1 run.2.1 || Nat.beq (run.2.2.1 % other.2.2.1) 0) && Nat.ble other.1 run.start &&
      !Nat.beq ((run.start - other.1) % other.2.2.1) 0)

/-- The code points that are folded without the table. -/
def besides : List Run :=
  [(0xAD, 0xAD, 1, 0), (0x34F, 0x34F, 1, 0), (0x200B, 0x200B, 1, 0), (0x2060, 0x2060, 1, 0),
    (0x2064, 0x2064, 1, 0), (0x3002, 0x3002, 1, 0), (0xFE00, 0xFE0F, 1, 0),
    (0xFEFF, 0xFEFF, 1, 0), (0xFF01, 0xFF61, 1, 0)]

/-- Whether a run is written with characters that are folded to themselves: ASCII characters that
are no capitals, or characters that no folding touches. -/
def settles (run : Run) : Bool :=
  Nat.blt 0 run.start && Nat.blt run.stop 0xD800 &&
    if Nat.blt run.stop 0x80 then Nat.blt run.stop 0x41 || Nat.blt 0x5A run.start
    else Nat.ble 0x80 run.start && besides.all run.misses && foldings.toList.all run.misses

theorem settles_of_mem : ∀ run ∈ foldings.toList, settles run = true := by decide +kernel

variable {run other : Run} {code : Nat}

/-- The code point that is written for one of a run. -/
theorem toNat_add_distance (within : run.holds code = true) (positive : 0 < run.start) :
    (code + run.2.2.2).toNat = run.start + (code - run.1) ∧
      run.start + (code - run.1) ≤ run.stop := by
  simp only [holds, Bool.and_eq_true, decide_eq_true_eq] at within
  unfold stop start at *
  omega

theorem holds_of_misses (misses_ : run.misses other = true) (within : run.holds code = true) :
    other.holds (run.start + (code - run.1)) = false := by
  simp only [holds, Bool.and_eq_true, decide_eq_true_eq, beq_iff_eq] at within
  obtain ⟨⟨first, last⟩, stride⟩ := within
  simp only [misses, stop, Bool.or_eq_true, Bool.and_eq_true, Nat.blt_eq, Nat.beq_eq, Nat.ble_eq,
    Bool.not_eq_true', Bool.eq_false_iff, ne_eq] at misses_
  rw [Bool.eq_false_iff]
  intro held
  simp only [holds, Bool.and_eq_true, decide_eq_true_eq, beq_iff_eq] at held
  obtain ⟨⟨otherFirst, otherLast⟩, otherStride⟩ := held
  rcases misses_ with (before | behind) | ⟨⟨steps, later⟩, between⟩
  · omega
  · omega
  · -- the steps of the run are steps of the other one, so they never reach its members
    have whole : (code - run.1) % other.2.2.1 = 0 := by
      rcases steps with single | multiple
      · rw [show code - run.1 = 0 by omega, Nat.zero_mod]
      · exact Nat.mod_eq_zero_of_dvd
          ((Nat.dvd_of_mod_eq_zero multiple).trans (Nat.dvd_of_mod_eq_zero stride))
    refine between ?_
    rw [show run.start + (code - run.1) - other.1 = run.start - other.1 + (code - run.1) by omega,
      Nat.add_mod, whole, Nat.add_zero, Nat.mod_mod] at otherStride
    exact otherStride

end Run

/-- A character of ASCII is folded to its small letter. -/
theorem foldChar_ascii (ascii : c.toNat < 0x80) : foldChar c = [c.toLower] := by
  rw [foldChar]
  dsimp only
  rw [if_pos ascii]

/-- The small letters of ASCII, as all its other characters, stay as they are. -/
theorem foldChar_toLower : ∀ c : Char, c.toNat < 0x80 → foldChar c.toLower = [c.toLower] :=
  Utf8.forall_ascii (by decide)

/-- A character that belongs to no run stays as it is. -/
theorem foldChar_of_not_holds (foreign : 0x80 ≤ c.toNat)
    (besides : ∀ run ∈ Run.besides, run.holds c.toNat = false)
    (table : ∀ run ∈ foldings.toList, Run.holds run c.toNat = false) : foldChar c = [c] := by
  have outside (first last : Nat) (member : (first, last, 1, 0) ∈ Run.besides) :
      ¬(first ≤ c.toNat ∧ c.toNat ≤ last) := by
    intro within
    have held := besides _ member
    simp [Run.holds, within, Nat.mod_one] at held
  have dots := And.intro (outside 0x3002 0x3002 (by decide)) (outside 0xFF01 0xFF61 (by decide))
  have dropped := And.intro (outside 0xAD 0xAD (by decide)) (outside 0x34F 0x34F (by decide))
  have dropped' := And.intro (outside 0x200B 0x200B (by decide)) (outside 0x2060 0x2060 (by decide))
  have joiner := outside 0x2064 0x2064 (by decide)
  have mark := outside 0xFEFF 0xFEFF (by decide)
  have selectors := outside 0xFE00 0xFE0F (by decide)
  rw [foldChar]
  dsimp only
  rw [if_neg (by omega), if_neg (by simp; omega), if_neg (by simp; omega), if_neg (by simp; omega)]
  split
  case h_1 first last stride distance found =>
    have held := Array.find?_some found
    rw [← Array.find?_toList] at found
    exact absurd held (Bool.eq_false_iff.mp (table _ (List.mem_of_find?_eq_some found)))
  case h_2 => rfl

/-- The code point of the character of a code point below the surrogates. -/
theorem toNat_ofNat_of_lt {code : Nat} (small : code < 0xD800) :
    (Char.ofNat code).toNat = code := by
  have valid : code.isValidChar := .inl small
  rw [Char.ofNat, dif_pos valid]
  rfl

/-- What is written for a run of the table is left as it is. -/
theorem foldChar_of_settles {run : Run} {code : Nat} (settles : run.settles = true)
    (within : run.holds code = true) :
    foldChar (Char.ofNat (code + run.2.2.2).toNat) = [Char.ofNat (code + run.2.2.2).toNat] := by
  rw [Run.settles, Bool.and_eq_true, Bool.and_eq_true, Nat.blt_eq, Nat.blt_eq] at settles
  obtain ⟨⟨positive, low⟩, settled⟩ := settles
  obtain ⟨written, inside⟩ := Run.toNat_add_distance within positive
  have target := toNat_ofNat_of_lt (show run.start + (code - run.1) < 0xD800 by omega)
  rw [written]
  split at settled
  case isTrue ascii =>
    rw [Nat.blt_eq] at ascii
    rw [Bool.or_eq_true, Nat.blt_eq, Nat.blt_eq] at settled
    rw [foldChar_ascii (by omega), toLower_of_not_upper (by omega)]
  case isFalse =>
    rw [Bool.and_eq_true, Bool.and_eq_true, Nat.ble_eq, List.all_eq_true, List.all_eq_true]
      at settled
    obtain ⟨⟨foreign, besides⟩, table⟩ := settled
    refine foldChar_of_not_holds (by omega) (fun other member => ?_) fun other member => ?_
    · rw [target]
      exact Run.holds_of_misses (besides other member) within
    · rw [target]
      exact Run.holds_of_misses (table other member) within

/-- What is written for a character is left as it is. -/
theorem foldChar_of_mem (written : d ∈ foldChar c) : foldChar d = [d] := by
  by_cases ascii : c.toNat < 0x80
  · rw [foldChar_ascii ascii] at written
    exact List.mem_singleton.mp written ▸ foldChar_toLower _ ascii
  · rw [foldChar] at written
    dsimp only at written
    rw [if_neg ascii] at written
    split at written
    case isTrue =>
      obtain rfl := List.mem_singleton.mp written
      decide
    case isFalse noDot =>
      split at written
      case isTrue => exact absurd written List.not_mem_nil
      case isFalse noMark =>
        split at written
        case isTrue wide =>
          rw [List.mem_singleton.mp written]
          simp only [Bool.and_eq_true, decide_eq_true_eq] at wide
          refine foldChar_toLower _ ?_
          rw [toNat_ofNat_of_lt] <;> omega
        case isFalse narrow =>
          split at written
          case h_1 first last stride distance found =>
            have held := Array.find?_some found
            have member := List.mem_of_find?_eq_some (by rwa [← Array.find?_toList] at found)
            rw [List.mem_singleton.mp written]
            exact foldChar_of_settles (Run.settles_of_mem _ member) held
          case h_2 none_ =>
            rw [List.mem_singleton.mp written, foldChar]
            dsimp only
            rw [if_neg ascii, if_neg noDot, if_neg noMark, if_neg narrow, none_]

theorem flatMap_foldChar (folded : ∀ c ∈ text, foldChar c = [c]) :
    text.flatMap foldChar = text := by
  induction text with
  | nil => rfl
  | cons c text ih =>
      obtain ⟨first, rest⟩ := List.forall_mem_cons.mp folded
      rw [List.flatMap_cons, first, ih rest]
      rfl

/-- A character of the ASCII form of a label. -/
def IsLabelChar (c : Char) : Prop :=
  c.toNat < 0x80 ∧ isForbidden c = false ∧ c ≠ '.' ∧ foldChar c = [c]

instance IsLabelChar.decidable (c : Char) : Decidable (IsLabelChar c) :=
  instDecidableAnd

theorem isLabelChar_digit : ∀ d < 36, IsLabelChar (Punycode.digit d) := by
  have all : ∀ d : Fin 36, IsLabelChar (Punycode.digit d) := by decide
  exact fun d small => all ⟨d, small⟩

/-- The sign of labels in ASCII form. -/
def mark : List Char := ['x', 'n', '-', '-']

/-- The ways in which a label has an ASCII form. -/
theorem asciiLabel?_cases (read : asciiLabel? label = some form) :
    (∀ c ∈ label, isDomainChar c = true) ∧
      ((form = label ∧ ∀ c ∈ label, c.toNat < 0x80) ∨
        (form = mark ++ Punycode.encode label ∧ ∃ c ∈ label, 0x80 ≤ c.toNat)) := by
  unfold asciiLabel? at read
  split at read
  case isTrue => cases read
  case isFalse allowed =>
    rw [Bool.not_eq_true, Bool.not_eq_false', List.all_eq_true] at allowed
    refine ⟨allowed, ?_⟩
    split at read
    case isTrue ascii =>
      simp only [List.all_eq_true, decide_eq_true_eq] at ascii
      refine .inl ⟨?_, ascii⟩
      split at read
      case h_1 =>
        split at read
        case h_1 =>
          split at read
          case isTrue => exact (Option.some.inj read).symm
          case isFalse => cases read
        case h_2 => cases read
      case h_2 => exact (Option.some.inj read).symm
    case isFalse foreign =>
      refine .inr ⟨(Option.some.inj read).symm, ?_⟩
      simpa using foreign

/-- The ASCII form of a label without dots consists of label characters. -/
theorem isLabelChar_of_mem (plain : ∀ c ∈ label, c ≠ '.' ∧ foldChar c = [c])
    (read : asciiLabel? label = some form) (within : c ∈ form) : IsLabelChar c := by
  obtain ⟨allowed, cases_⟩ := asciiLabel?_cases read
  have kept (here : c ∈ label) (ascii : c.toNat < 0x80) : IsLabelChar c := by
    have free := allowed c here
    rw [isDomainChar, if_pos ascii, Bool.not_eq_true'] at free
    exact ⟨ascii, free, plain c here⟩
  rcases cases_ with ⟨rfl, ascii⟩ | ⟨rfl, -⟩
  · exact kept within (ascii c within)
  · rcases List.mem_append.mp within with inMark | inNumbers
    · have all : ∀ c ∈ mark, IsLabelChar c := List.all_iff_forall_prop.mp (by decide)
      exact all c inMark
    · rcases Punycode.mem_encode inNumbers with ⟨here, ascii⟩ | rfl | ⟨d, small, rfl⟩
      · exact kept here ascii
      · decide
      · exact isLabelChar_digit d small

/-- An ASCII form is the ASCII form of itself. -/
theorem asciiLabel?_again (plain : ∀ c ∈ label, c ≠ '.' ∧ foldChar c = [c])
    (read : asciiLabel? label = some form) (short : mark <+: form → form.length < 3855) :
    asciiLabel? form = some form := by
  have chars := fun c (within : c ∈ form) => isLabelChar_of_mem plain read within
  obtain ⟨allowed, ⟨same, -⟩ | ⟨same, foreign⟩⟩ := asciiLabel?_cases read
  · rwa [same] at read ⊢
  · have few : label.length < 3855 := by
      have := short (same ▸ List.prefix_append _ _)
      have := Punycode.length_le_encode label
      rw [same, List.length_append] at *
      omega
    have allowed' : form.all isDomainChar = true := by
      rw [List.all_eq_true]
      intro c within
      obtain ⟨ascii, free, -⟩ := chars c within
      rw [isDomainChar, if_pos ascii, free, Bool.not_false]
    have ascii : (form.all fun c => decide (c.toNat < 0x80)) = true := by
      rw [List.all_eq_true]
      exact fun c within => decide_eq_true (chars c within).1
    have decoded : Punycode.decode? (Punycode.encode label) = some label :=
      Punycode.decode?_encode few
    have some_ : (label.any fun c => decide (0x80 ≤ c.toNat)) = true := by
      simpa using foreign
    have all : label.all isDomainChar = true := List.all_eq_true.mpr allowed
    have folded : label.flatMap foldChar = label :=
      flatMap_foldChar fun c within => (plain c within).2
    unfold asciiLabel?
    rw [allowed', Bool.not_true, if_neg Bool.false_ne_true, if_pos ascii, same]
    simp only [mark, List.cons_append, List.nil_append]
    rw [decoded]
    dsimp only
    rw [some_, all, folded, beq_self_eq_true]
    rfl

/-- What a list is mapped to comes from its members, one for each of them. -/
theorem of_mapM {α β : Type} {f : α → Option β} {list : List α} {mapped : List β}
    (all : list.mapM f = some mapped) :
    mapped.length = list.length ∧ ∀ b ∈ mapped, ∃ a ∈ list, f a = some b := by
  induction list generalizing mapped with
  | nil =>
      rw [List.mapM_nil] at all
      cases all
      exact ⟨rfl, fun _ within => absurd within List.not_mem_nil⟩
  | cons first others ih =>
      rw [List.mapM_cons] at all
      obtain ⟨value, here, all⟩ := Option.bind_eq_some_iff.mp all
      obtain ⟨values, rest, all⟩ := Option.bind_eq_some_iff.mp all
      obtain rfl := Option.some.inj all
      obtain ⟨length, later⟩ := ih rest
      refine ⟨congrArg (· + 1) length, List.forall_mem_cons.mpr ⟨⟨first, List.mem_cons_self, here⟩,
        fun b within => ?_⟩⟩
      obtain ⟨a, member, same⟩ := later b within
      exact ⟨a, List.mem_cons_of_mem first member, same⟩

theorem mapM_eq_self {α : Type} {f : α → Option α} {list : List α}
    (all : ∀ a ∈ list, f a = some a) : list.mapM f = some list := by
  induction list with
  | nil => rfl
  | cons first others ih =>
      obtain ⟨here, rest⟩ := List.forall_mem_cons.mp all
      rw [List.mapM_cons, here, ih rest]
      rfl

/-- The ASCII form of a domain consists of the forms of its labels, with dots between them. -/
theorem exists_forms (read : asciiDomain? domain = some text) :
    ∃ forms, forms ≠ [] ∧ text = (joinWith "." (forms.map String.ofList)).toList ∧
      ∀ form ∈ forms, (∀ c ∈ form, IsLabelChar c) ∧
        ((mark <+: form → form.length < 3855) → asciiLabel? form = some form) := by
  obtain ⟨forms, mapped, rfl⟩ := Option.map_eq_some_iff.mp read
  obtain ⟨length, labels⟩ := of_mapM mapped
  refine ⟨forms, ?_, rfl, fun form member => ?_⟩
  · exact List.ne_nil_of_length_pos (length ▸ List.length_pos_iff.mpr (splitAll_ne_nil _ _))
  · obtain ⟨label, here, form_⟩ := labels form member
    have plain : ∀ c ∈ label, c ≠ '.' ∧ foldChar c = [c] := by
      intro c within
      obtain ⟨original, -, written⟩ := List.mem_flatMap.mp (mem_of_mem_piece here within)
      exact ⟨by simpa using separates_of_mem here within, foldChar_of_mem written⟩
    exact ⟨fun c within => isLabelChar_of_mem plain form_ within, asciiLabel?_again plain form_⟩

/-- Forms are told apart again in the domain that they make. -/
theorem splitAll_forms {forms : List (List Char)} (some_ : forms ≠ [])
    (chars : ∀ form ∈ forms, ∀ c ∈ form, IsLabelChar c) :
    splitAll (· == '.') (joinWith "." (forms.map String.ofList)).toList = forms :=
  splitAll_joinWith rfl some_ fun form member c within => (chars form member c within).2.2.1

/-- The characters of a domain are dots and characters of labels. -/
theorem mem_forms {forms : List (List Char)} (chars : ∀ form ∈ forms, ∀ c ∈ form, IsLabelChar c)
    (within : c ∈ (joinWith "." (forms.map String.ofList)).toList) : c = '.' ∨ IsLabelChar c := by
  cases forms with
  | nil => exact absurd within List.not_mem_nil
  | cons first others =>
      obtain ⟨here, rest⟩ := List.forall_mem_cons.mp chars
      rw [toList_joinWith '.' rfl] at within
      rcases List.mem_append.mp within with early | late
      · exact .inr (here c early)
      · obtain ⟨form, member, inside⟩ := List.mem_flatMap.mp late
        exact (List.mem_cons.mp inside).imp_right (rest form member c)

/-- The characters of a domain that has been read. -/
theorem mem_asciiDomain? (read : asciiDomain? domain = some text) (within : c ∈ text) :
    c = '.' ∨ IsLabelChar c := by
  obtain ⟨forms, -, rfl, all⟩ := exists_forms read
  exact mem_forms (fun form member => (all form member).1) within

/-- A domain of ASCII forms is the ASCII form of itself. -/
theorem asciiDomain?_forms {forms : List (List Char)} (some_ : forms ≠ [])
    (chars : ∀ form ∈ forms, ∀ c ∈ form, IsLabelChar c)
    (again : ∀ form ∈ forms, asciiLabel? form = some form) :
    let text := (joinWith "." (forms.map String.ofList)).toList
    asciiDomain? text = some text := by
  intro text
  have folded : text.flatMap foldChar = text := flatMap_foldChar fun c within => by
    rcases mem_forms chars within with rfl | plain
    · decide
    · exact plain.2.2.2
  rw [asciiDomain?, folded, splitAll_forms some_ chars, mapM_eq_self again]
  rfl

/-- The ASCII form of a domain is the ASCII form of itself. The bound on labels keeps the
numbers in them readable. -/
theorem asciiDomain?_again (read : asciiDomain? domain = some text)
    (short : ∀ label ∈ splitAll (· == '.') text, mark <+: label → label.length < 3855) :
    asciiDomain? text = some text := by
  obtain ⟨forms, some_, rfl, all⟩ := exists_forms read
  have chars := fun form member => (all form member).1
  rw [splitAll_forms some_ chars] at short
  exact asciiDomain?_forms some_ chars fun form member =>
    (all form member).2 (short form member)

end UtilityBilling.Url
