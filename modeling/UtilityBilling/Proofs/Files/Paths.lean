/-
# Paths and their parts

Joining a directory and a file name is adding a part, and the directory of a path is the
path without its last part: its text is put together from the other parts and reads back
as them. A part never holds a slash, and is never empty or a single dot.
-/

import UtilityBilling.Files.Output
import UtilityBilling.Proofs.Text.Splitting

namespace UtilityBilling.Files

open UtilityBilling.Text

/-- A text that stands for a part by its own name: it has no slash, and is neither empty
nor made of one dot or two. -/
def IsPartName (name : String) : Prop :=
  '/' ∉ name.toList ∧ partOf name.toList = some (.name name)

/-- A part whose text reads back as the part. -/
def Part.IsPlain : Part → Prop
  | .up => True
  | .name own => IsPartName own

theorem partOf_eq_name {piece : List Char} {own : String}
    (stands : partOf piece = some (.name own)) :
    piece = own.toList := by
  unfold partOf at stands
  split at stands
  · cases stands
  · cases stands
  · cases stands
  · cases stands
    simp

theorem isPlain_of_mem_parts {path : String} {part : Part} (member : part ∈ parts path) :
    part.IsPlain := by
  obtain ⟨piece, isPiece, stands⟩ := List.mem_filterMap.mp member
  cases part with
  | up => trivial
  | name own =>
      obtain rfl := partOf_eq_name stands
      refine ⟨fun slash => ?_, stands⟩
      simpa using separates_of_mem isPiece slash

theorem isPartName_of_isFileName {name : String} (isName : isFileName name = true) :
    IsPartName name := by
  simp only [isFileName, Bool.and_eq_true, bne_iff_ne, Bool.not_eq_true',
    List.contains_eq_mem, decide_eq_false_iff_not] at isName
  obtain ⟨⟨⟨⟨filled, noSlash⟩, _⟩, noDot⟩, noDots⟩ := isName
  refine ⟨noSlash, ?_⟩
  unfold partOf
  split
  case h_1 empty => exact absurd (String.toList_inj.mp empty) filled
  case h_2 dot => exact absurd (String.toList_inj.mp dot) noDot
  case h_3 dots => exact absurd (String.toList_inj.mp dots) noDots
  case h_4 => simp

theorem splitAll_name {name : String} (isPartName : IsPartName name) :
    splitAll (· == '/') name.toList = [name.toList] :=
  splitAll_of_none fun c inside => by
    rw [beq_eq_false_iff_ne]
    rintro rfl
    exact isPartName.1 inside

theorem parts_name {name : String} (isPartName : IsPartName name) :
    parts name = [.name name] := by
  rw [parts, splitAll_name isPartName]
  simp [isPartName.2]

theorem slash_toList : "/".toList = ['/'] := rfl

/-- The pieces of a joined path: those of the directory, and the name. -/
theorem exists_splitAll_joinName (directory : String) {name : String}
    (isPartName : IsPartName name) :
    ∃ pieces, splitAll (· == '/') (joinName directory name).toList = pieces ++ [name.toList] ∧
      pieces.filterMap partOf = parts directory := by
  unfold joinName
  split
  case h_1 empty =>
    refine ⟨[], splitAll_name isPartName, ?_⟩
    rw [parts, List.getLast?_eq_none_iff.mp empty]
    rfl
  case h_2 slash =>
    obtain ⟨before, split⟩ := List.getLast?_eq_some_iff.mp slash
    refine ⟨splitAll (· == '/') before, ?_, ?_⟩
    · rw [String.toList_append, split, List.append_assoc, List.singleton_append,
        splitAll_append (by simp), splitAll_name isPartName]
    · rw [parts, split, splitAll_append (by simp), List.filterMap_append]
      exact (List.append_nil _).symm
  case h_3 =>
    refine ⟨splitAll (· == '/') directory.toList, ?_, rfl⟩
    rw [String.toList_append, String.toList_append, List.append_assoc, slash_toList,
      List.singleton_append, splitAll_append (by simp), splitAll_name isPartName]

/-- A joined path has one part more than its directory. -/
theorem parts_joinName (directory : String) {name : String} (isPartName : IsPartName name) :
    parts (joinName directory name) = parts directory ++ [.name name] := by
  obtain ⟨pieces, split, above⟩ := exists_splitAll_joinName directory isPartName
  rw [parts, split, List.filterMap_append, above]
  simp [isPartName.2]

/-- A joined path does not end as a directory. -/
theorem endsAsDirectory_joinName (directory : String) {name : String}
    (isPartName : IsPartName name) : endsAsDirectory (joinName directory name) = false := by
  obtain ⟨pieces, split, _⟩ := exists_splitAll_joinName directory isPartName
  have stands := isPartName.2
  rw [endsAsDirectory, split, List.getLast?_concat]
  unfold partOf at stands
  split at stands
  case h_1 => cases stands
  case h_2 => cases stands
  case h_3 => cases stands
  case h_4 => grind

/-- The texts of parts, joined, read back as the parts. -/
theorem parts_joinWith {own : List Part} (plain : ∀ part ∈ own, part.IsPlain) :
    parts (joinWith "/" (own.map Part.text)) = own := by
  have single : ∀ part : Part, part.IsPlain → parts part.text = [part] := by
    rintro (_ | name) isPlain
    · rfl
    · exact parts_name isPlain
  induction own with
  | nil => rfl
  | cons first others ih =>
      obtain ⟨firstPlain, othersPlain⟩ := List.forall_mem_cons.mp plain
      cases others with
      | nil => exact single first firstPlain
      | cons second others =>
          have rest := ih othersPlain
          rw [List.map_cons, parts] at rest
          have head := single first firstPlain
          rw [parts] at head
          rw [List.map_cons, List.map_cons, joinWith, parts, String.toList_append,
            String.toList_append, List.append_assoc, slash_toList, List.singleton_append,
            splitAll_append (by simp), List.filterMap_append, head, rest]
          · rfl
          · simp

/-- The directory of a path is the path without its last part. -/
theorem parts_directoryOf (path : String) :
    parts (directoryOf path) = (parts path).dropLast := by
  have plain : ∀ part ∈ (parts path).dropLast, part.IsPlain := fun part member =>
    isPlain_of_mem_parts ((List.dropLast_sublist _).mem member)
  unfold directoryOf
  simp only
  split
  case isTrue empty =>
    rw [← parts_joinWith plain, empty]
    rfl
  case isFalse => exact parts_joinWith plain

/-- A path with a file name is its directory and that name. -/
theorem parts_eq_of_fileName? {path name : String} (named : fileName? path = some name) :
    parts path = parts (directoryOf path) ++ [.name name] := by
  rw [parts_directoryOf]
  unfold fileName? at named
  split at named
  case h_1 last =>
    cases named
    obtain ⟨above, split⟩ := List.getLast?_eq_some_iff.mp last
    rw [split, List.dropLast_concat]
  case h_2 => cases named

/-- Apart from slashes and dots a path holds the characters of its names and no others. -/
theorem mem_path_iff {path : String} {c : Char} (noSlash : c ≠ '/') (noDot : c ≠ '.') :
    c ∈ path.toList ↔ ∃ own, .name own ∈ parts path ∧ c ∈ own.toList := by
  constructor
  · intro inside
    obtain ⟨piece, isPiece, held⟩ : ∃ piece ∈ splitAll (· == '/') path.toList, c ∈ piece :=
      exists_piece inside (beq_eq_false_iff_ne.mpr noSlash)
    refine ⟨String.ofList piece, List.mem_filterMap.mpr ⟨piece, isPiece, ?_⟩, by simpa using held⟩
    unfold partOf
    split
    case h_1 => cases held
    case h_2 => exact absurd (List.mem_singleton.mp held) noDot
    case h_3 => simp [noDot] at held
    case h_4 => rfl
  · rintro ⟨own, isPart, held⟩
    obtain ⟨piece, isPiece, stands⟩ := List.mem_filterMap.mp isPart
    rw [← partOf_eq_name stands] at held
    exact mem_of_mem_piece isPiece held

/-- A character that is neither slash nor dot is in the directory of a path or in its name. -/
theorem mem_directoryOf_or_name {path name : String} (named : fileName? path = some name)
    {c : Char} (noSlash : c ≠ '/') (noDot : c ≠ '.') (inside : c ∈ path.toList) :
    c ∈ (directoryOf path).toList ∨ c ∈ name.toList := by
  obtain ⟨own, isPart, held⟩ := (mem_path_iff noSlash noDot).mp inside
  rw [parts_eq_of_fileName? named, List.mem_append, List.mem_singleton] at isPart
  rcases isPart with above | last
  · exact .inl ((mem_path_iff noSlash noDot).mpr ⟨own, above, held⟩)
  · cases last
    exact .inr held

end UtilityBilling.Files
