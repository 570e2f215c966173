/-
# Places

What an operation on a volume does is told by what stands at each place afterwards. A path
leads to one place, whatever the volume holds on the way, so that a place can be spoken of
before there is anything. Making directories only ever adds directories where nothing was,
and no operation on drafts is seen at any place, except that a draft gets its name.
-/

import UtilityBilling.Proofs.Files.Paths

namespace UtilityBilling.Files

open UtilityBilling.Text (Bytes)

/-! ## Places and paths -/

/-- The place that parts lead to from another place. -/
def destination : Place → List Part → Place
  | place, [] => place
  | place, .up :: rest => destination place.dropLast rest
  | place, .name own :: rest => destination (place ++ [own]) rest

/-- The place that a path leads to, if it leads anywhere. -/
def placeOf (path : String) : Place :=
  destination [] (parts path)

theorem destination_append (place : Place) (first rest : List Part) :
    destination place (first ++ rest) = destination (destination place first) rest := by
  induction first generalizing place with
  | nil => rfl
  | cons part first ih => cases part <;> exact ih _

theorem destination_concat (place : Place) (above : List Part) (own : String) :
    destination place (above ++ [.name own]) = destination place above ++ [own] :=
  destination_append place above _

namespace Volume

variable {volume before after : Volume} {place : Place}

/-- The content of the file at a place. -/
def fileAt (volume : Volume) (place : Place) : Option Bytes :=
  match volume.entryAt place with
  | some (.file content) => some content
  | _ => none

theorem fileAt_eq_some_iff {content : Bytes} :
    volume.fileAt place = some content ↔ volume.entryAt place = some (.file content) := by
  unfold fileAt
  split <;> simp_all

/-- What stands at a place depends on the entries alone. -/
theorem entryAt_of_entries (same : after.entries = before.entries) (place : Place) :
    after.entryAt place = before.entryAt place := by
  unfold entryAt
  rw [same]

theorem fileAt_of_entryAt (same : after.entryAt place = before.entryAt place) :
    after.fileAt place = before.fileAt place := by
  unfold fileAt
  rw [same]

theorem lookup_entry (first place : Place) (entry : Entry) (rest : List (Place × Entry)) :
    ((first, entry) :: rest).lookup place =
      if place = first then some entry else rest.lookup place := by
  by_cases here : place = first
  · simp [here]
  · rw [List.lookup_cons, beq_false_of_ne here, if_neg here]

theorem lookup_putEntry (place other : Place) (entry : Entry)
    (entries : List (Place × Entry)) :
    (putEntry place entry entries).lookup other =
      if other = place then some entry else entries.lookup other := by
  induction entries with
  | nil => exact lookup_entry place other entry []
  | cons held rest ih =>
      obtain ⟨first, held⟩ := held
      unfold putEntry
      split
      case isTrue same =>
        subst same
        grind [lookup_entry]
      case isFalse apart =>
        rw [lookup_entry, lookup_entry, ih]
        grind

theorem lookup_erased (place other : Place) (entries : List (Place × Entry)) :
    (entries.filter fun (held, _) => held != place).lookup other =
      if other = place then none else entries.lookup other := by
  induction entries with
  | nil => simp
  | cons held rest ih =>
      obtain ⟨first, held⟩ := held
      by_cases gone : first = place
      · rw [List.filter_cons_of_neg (by simp [gone]), ih, lookup_entry, gone]
        grind
      · rw [List.filter_cons_of_pos (by simp [gone]), lookup_entry, ih, lookup_entry]
        grind

theorem entryAt_put (volume : Volume) (inside : place ≠ []) (entry : Entry) (other : Place) :
    (volume.put place entry).entryAt other =
      if other = place then some entry else volume.entryAt other := by
  cases other with
  | nil => rw [if_neg (Ne.symm inside)]; rfl
  | cons first rest => exact lookup_putEntry place _ entry volume.entries

theorem fileAt_put (volume : Volume) (inside : place ≠ []) (content : Bytes) (other : Place) :
    (volume.put place (.file content)).fileAt other =
      if other = place then some content else volume.fileAt other := by
  unfold fileAt
  rw [entryAt_put volume inside]
  by_cases here : other = place
  · rw [if_pos here, if_pos here]
  · rw [if_neg here, if_neg here]

theorem entryAt_erase (volume : Volume) (inside : place ≠ []) (other : Place) :
    (volume.erase place).entryAt other =
      if other = place then none else volume.entryAt other := by
  cases other with
  | nil => rw [if_neg (Ne.symm inside)]; rfl
  | cons first rest => exact lookup_erased place _ volume.entries

/-- A path leads to its own place, and shows what stands there. -/
theorem eq_of_follow {asDirectory : Bool} {rest : List Part} {spot : Spot}
    (found : volume.follow asDirectory place rest = .ok spot) :
    spot = ⟨destination place rest, volume.entryAt (destination place rest)⟩ := by
  induction rest generalizing place with
  | nil => cases found; rfl
  | cons part rest ih =>
      cases part with
      | up => exact ih found
      | name own =>
          unfold follow at found
          split at found
          · cases found
          · simp only at found
            split at found
            case h_1 => exact ih found
            case h_2 content stands =>
              split at found
              case isTrue last =>
                cases found
                obtain rfl : rest = [] := List.isEmpty_iff.mp (Bool.and_eq_true _ _ ▸ last).1
                rw [destination, destination, stands]
              case isFalse => cases found
            case h_3 nothing =>
              split at found
              case isTrue last =>
                cases found
                obtain rfl : rest = [] := by simpa using last
                rw [destination, destination, nothing]
              case isFalse => cases found

theorem eq_of_find {path : String} {spot : Spot} (found : volume.find path = .ok spot) :
    spot = ⟨placeOf path, volume.entryAt (placeOf path)⟩ := by
  unfold find at found
  split at found
  · cases found
  · split at found
    · cases found
    · exact eq_of_follow found

/-- Where a directory stands, a path can go on to what it holds. -/
theorem follow_append {asDirectory : Bool} (loose : Bool) {above rest : List Part}
    (found : volume.follow asDirectory place above =
      .ok ⟨destination place above, some .directory⟩) :
    volume.follow loose place (above ++ rest) =
      volume.follow loose (destination place above) rest := by
  induction above generalizing place with
  | nil => rfl
  | cons part above ih =>
      cases part with
      | up => exact ih found
      | name own =>
          unfold follow at found
          split at found
          case isTrue => cases found
          case isFalse short =>
            simp only at found
            split at found
            case h_1 stands =>
              rw [List.cons_append, follow, if_neg short]
              simp only [stands]
              exact ih found
            case h_2 => split at found <;> simp at found
            case h_3 => split at found <;> simp at found

/-! ## What operations leave -/

/-- One volume holds all that another holds, and what it holds beside that is
directories. -/
structure Grows (before after : Volume) : Prop where
  entry : ∀ place, after.entryAt place = before.entryAt place ∨
    (before.entryAt place = none ∧ after.entryAt place = some .directory)
  drafts : after.drafts = before.drafts
  nextDraft : after.nextDraft = before.nextDraft
  readOnly : after.readOnly = before.readOnly
  faults : after.faults = before.faults

namespace Grows

theorem refl (volume : Volume) : volume.Grows volume where
  entry _ := .inl rfl
  drafts := rfl
  nextDraft := rfl
  readOnly := rfl
  faults := rfl

theorem trans {between : Volume} (first : before.Grows between) (later : between.Grows after) :
    before.Grows after where
  entry place := by
    rcases later.entry place with same | ⟨nothing, made⟩
    · rw [same]
      exact first.entry place
    · rcases first.entry place with same | ⟨_, stood⟩
      · exact .inr ⟨same ▸ nothing, made⟩
      · rw [stood] at nothing
        cases nothing
  drafts := later.drafts.trans first.drafts
  nextDraft := later.nextDraft.trans first.nextDraft
  readOnly := later.readOnly.trans first.readOnly
  faults := later.faults.trans first.faults

/-- Files are neither made nor changed. -/
theorem fileAt (grows : before.Grows after) (place : Place) :
    after.fileAt place = before.fileAt place := by
  rcases grows.entry place with same | ⟨nothing, made⟩
  · exact fileAt_of_entryAt same
  · simp [Volume.fileAt, nothing, made]

/-- A directory that is made where nothing was. -/
theorem put (volume : Volume) (inside : place ≠ []) (nothing : volume.entryAt place = none) :
    volume.Grows (volume.put place .directory) where
  entry other := by
    rw [entryAt_put volume inside]
    split
    case isTrue same => exact .inr ⟨same ▸ nothing, rfl⟩
    case isFalse => exact .inl rfl
  drafts := rfl
  nextDraft := rfl
  readOnly := rfl
  faults := rfl

end Grows

theorem grows_makeAlong (volume : Volume) (place : Place) (rest : List Part) :
    volume.Grows (volume.makeAlong place rest).2 := by
  induction rest generalizing volume place with
  | nil => exact .refl volume
  | cons part rest ih =>
      cases part with
      | up => exact ih volume _
      | name own =>
          unfold makeAlong
          split
          case isTrue => exact .refl volume
          case isFalse =>
            simp only
            split
            case h_1 => exact ih volume _
            case h_2 => exact .refl volume
            case h_3 nothing =>
              split
              case isTrue => exact .refl volume
              case isFalse => exact (Grows.put volume (by simp) nothing).trans (ih _ _)

theorem grows_makeDirectories (volume : Volume) (path : String) :
    volume.Grows (volume.makeDirectories path).2 := by
  unfold makeDirectories
  split
  · exact .refl volume
  · exact volume.grows_makeAlong _ _

/-- All that a volume holds stays, but for one place whose file may be gone; directories may
be added. Drafts stay as they are, and their numbers are not given again. A directory that is
read-only stays so, and no other becomes so. -/
structure Spares (gone? : Option Place) (before after : Volume) : Prop where
  entry : ∀ place, after.entryAt place = before.entryAt place ∨
    (before.entryAt place = none ∧ after.entryAt place = some .directory) ∨
    (gone? = some place ∧ after.fileAt place = none)
  drafts : after.drafts = before.drafts
  nextDraft : before.nextDraft ≤ after.nextDraft
  readOnly : after.readOnly = before.readOnly

theorem Grows.spares (grows : before.Grows after) (gone? : Option Place) :
    before.Spares gone? after where
  entry place := (grows.entry place).imp_right .inl
  drafts := grows.drafts
  nextDraft := Nat.le_of_eq grows.nextDraft.symm
  readOnly := grows.readOnly

namespace Spares

variable {gone? : Option Place}

theorem refl (gone? : Option Place) (volume : Volume) : volume.Spares gone? volume :=
  (Grows.refl volume).spares gone?

theorem trans {between : Volume} (first : before.Spares gone? between)
    (later : between.Spares gone? after) : before.Spares gone? after where
  entry place := by
    rcases later.entry place with same | ⟨nothing, made⟩ | gone
    · rcases first.entry place with kept | made | ⟨isGone, noFile⟩
      · exact .inl (same.trans kept)
      · exact .inr (.inl ⟨made.1, same.trans made.2⟩)
      · exact .inr (.inr ⟨isGone, (fileAt_of_entryAt same).trans noFile⟩)
    · rcases first.entry place with kept | ⟨_, stood⟩ | ⟨isGone, _⟩
      · exact .inr (.inl ⟨kept.symm.trans nothing, made⟩)
      · rw [stood] at nothing
        cases nothing
      · exact .inr (.inr ⟨isGone, by simp [Volume.fileAt, made]⟩)
    · exact .inr (.inr gone)
  drafts := later.drafts.trans first.drafts
  nextDraft := Nat.le_trans first.nextDraft later.nextDraft
  readOnly := later.readOnly.trans first.readOnly

/-- Where no file goes, none goes from a given place. -/
theorem weaken (spares : before.Spares none after) (gone? : Option Place) :
    before.Spares gone? after where
  entry place := by
    rcases spares.entry place with same | made | ⟨never, _⟩
    · exact .inl same
    · exact .inr (.inl made)
    · cases never
  drafts := spares.drafts
  nextDraft := spares.nextDraft
  readOnly := spares.readOnly

/-- What is seen depends on the entries alone. -/
theorem of_entries (same : after.entries = before.entries) (drafts : after.drafts = before.drafts)
    (nextDraft : before.nextDraft ≤ after.nextDraft) (readOnly : after.readOnly = before.readOnly) :
    before.Spares gone? after where
  entry place := .inl (entryAt_of_entries same place)
  drafts := drafts
  nextDraft := nextDraft
  readOnly := readOnly

/-- A file is as it was, unless it is the one that may be gone. -/
theorem fileAt (spares : before.Spares gone? after) (place : Place) :
    after.fileAt place = before.fileAt place ∨
      (gone? = some place ∧ after.fileAt place = none) := by
  rcases spares.entry place with same | ⟨nothing, made⟩ | gone
  · exact .inl (fileAt_of_entryAt same)
  · left
    simp [Volume.fileAt, nothing, made]
  · exact .inr gone

theorem fileAt_of_none (spares : before.Spares none after) (place : Place) :
    after.fileAt place = before.fileAt place :=
  (spares.fileAt place).resolve_right fun gone => nomatch gone.1

end Spares

/-- Whether nothing can be removed at the place of a path. -/
def keepsFile (volume : Volume) (path : String) : Bool :=
  volume.isReadOnly (placeOf path).dropLast

theorem isReadOnly_of_readOnly (same : after.readOnly = before.readOnly) (place : Place) :
    after.isReadOnly place = before.isReadOnly place := by
  rw [isReadOnly, isReadOnly, same]

theorem keepsFile_of_readOnly (same : after.readOnly = before.readOnly) (path : String) :
    after.keepsFile path = before.keepsFile path :=
  isReadOnly_of_readOnly same _

/-- Removing a file takes it from its place, unless its directory is read-only; or nothing
happens. -/
theorem removeFile_cases (volume : Volume) (path : String) :
    (∃ content, volume.fileAt (placeOf path) = some content ∧ volume.keepsFile path = false ∧
        volume.removeFile path = (.ok (), volume.erase (placeOf path))) ∨
      ∃ error, volume.removeFile path = (.error error, volume) := by
  unfold removeFile
  split
  case h_1 error _ => exact .inr ⟨error, rfl⟩
  case h_2 place content found =>
    obtain ⟨rfl, stands⟩ := Spot.mk.inj (eq_of_find found)
    split
    case isTrue => exact .inr ⟨_, rfl⟩
    case isFalse writable =>
      exact .inl ⟨content, (fileAt_eq_some_iff ..).mpr stands.symm,
        eq_false_of_ne_true writable, rfl⟩
  case h_3 => split <;> exact .inr ⟨_, rfl⟩
  case h_4 => exact .inr ⟨_, rfl⟩

/-- Where the directory is not read-only a file that is found is removed. -/
theorem removeFile_of_find {path : String} {content : Bytes}
    (found : volume.find path = .ok ⟨placeOf path, some (.file content)⟩)
    (writable : volume.keepsFile path = false) :
    volume.removeFile path = (.ok (), volume.erase (placeOf path)) := by
  rw [removeFile, found]
  exact if_neg (ne_true_of_eq_false writable)

/-- Where the directory is read-only no file is removed. -/
theorem volume_removeFile_of_keepsFile {path : String} (kept : volume.keepsFile path = true) :
    (volume.removeFile path).2 = volume := by
  rcases volume.removeFile_cases path with ⟨_, _, writable, _⟩ | ⟨_, unchanged⟩
  · rw [kept] at writable
    cases writable
  · rw [unchanged]

/-- The place of a file is not the working directory. -/
theorem ne_nil_of_fileAt {content : Bytes} (holds : volume.fileAt place = some content) :
    place ≠ [] := by
  rintro rfl
  cases holds

theorem spares_erase {content : Bytes} (holds : volume.fileAt place = some content) :
    volume.Spares (some place) (volume.erase place) where
  entry other := by
    rw [entryAt_erase volume (ne_nil_of_fileAt holds)]
    by_cases here : other = place
    · right; right
      refine ⟨by rw [here], ?_⟩
      rw [fileAt, entryAt_erase volume (ne_nil_of_fileAt holds), if_pos here]
    · exact .inl (if_neg here)
  drafts := rfl
  nextDraft := Nat.le_refl _
  readOnly := rfl

/-! ## Drafts -/

/-- Every draft has got a number before the next one. -/
def Numbered (volume : Volume) : Prop :=
  ∀ draft ∈ volume.drafts, draft.number < volume.nextDraft

theorem Grows.numbered (grows : before.Grows after) (numbered : before.Numbered) :
    after.Numbered := by
  intro draft member
  rw [grows.drafts] at member
  rw [grows.nextDraft]
  exact numbered draft member

theorem Spares.numbered {gone? : Option Place} (spares : before.Spares gone? after)
    (numbered : before.Numbered) : after.Numbered := by
  intro draft member
  rw [spares.drafts] at member
  exact Nat.lt_of_lt_of_le (numbered draft member) spares.nextDraft

theorem extendDraft_nil (volume : Volume) (number : Nat) :
    volume.extendDraft number [] = volume := by
  simp [extendDraft]

theorem extendDraft_append (volume : Volume) (number : Nat) (first rest : Bytes) :
    volume.extendDraft number (first ++ rest) =
      (volume.extendDraft number first).extendDraft number rest := by
  simp only [extendDraft, List.map_map, mk.injEq, true_and, and_true]
  apply List.map_congr_left
  intro draft _
  by_cases own : draft.number = number <;> simp [own]

/-- A draft that is extended is found extended. -/
theorem draft?_extendDraft (volume : Volume) (number : Nat) (chunk : Bytes) :
    (volume.extendDraft number chunk).draft? number =
      (volume.draft? number).map fun draft => { draft with content := draft.content ++ chunk } := by
  unfold draft? extendDraft
  induction volume.drafts with
  | nil => rfl
  | cons draft drafts ih =>
      by_cases own : draft.number = number
      · simp [own]
      · simp [own, ih]

/-- The system takes so many bytes more of a draft. -/
def HasRoom (volume : Volume) (number length : Nat) : Prop :=
  ∀ room error draft, volume.faults.lookup number = some (.full room error) →
    volume.draft? number = some draft → length ≤ room - draft.content.length

/-- What is offered is taken whole exactly if there is room for it. -/
theorem offer_cases (volume : Volume) (number : Nat) (chunk : Bytes) :
    (volume.HasRoom number chunk.length ∧ volume.offer number chunk = (chunk, none)) ∨
      (¬ volume.HasRoom number chunk.length ∧
        ∃ taken error, taken <+: chunk ∧ volume.offer number chunk = (taken, some error)) := by
  unfold offer
  split
  case h_1 room error draft faulty found =>
    by_cases fits : chunk.length ≤ room - draft.content.length
    · left
      refine ⟨fun otherRoom otherError other fault isOther => ?_, if_pos fits⟩
      cases faulty.symm.trans fault
      cases found.symm.trans isOther
      exact fits
    · right
      refine ⟨fun hasRoom => fits (hasRoom room error draft faulty found), _, error,
        chunk.take_prefix _, if_neg fits⟩
  case h_2 none_full =>
    exact .inl ⟨fun room error draft fault found => absurd found (none_full room error draft fault),
      rfl⟩

section Apart

variable {drafts : List Draft} {number : Nat}

/-- No draft that was there has got a later number. -/
theorem Numbered.apart (numbered : volume.Numbered) (later : volume.nextDraft ≤ number) :
    ∀ draft ∈ volume.drafts, draft.number ≠ number :=
  fun draft member => Nat.ne_of_lt (Nat.lt_of_lt_of_le (numbered draft member) later)

theorem find?_of_apart (apart : ∀ draft ∈ drafts, draft.number ≠ number) :
    drafts.find? (fun draft => draft.number == number) = none :=
  List.find?_eq_none.mpr fun draft member => by simpa using apart draft member

theorem filter_of_apart (apart : ∀ draft ∈ drafts, draft.number ≠ number) :
    drafts.filter (fun draft => draft.number != number) = drafts :=
  List.filter_eq_self.mpr fun draft member => by simpa using apart draft member

theorem map_of_apart (apart : ∀ draft ∈ drafts, draft.number ≠ number) (chunk : Bytes) :
    drafts.map (fun draft =>
      if draft.number = number then { draft with content := draft.content ++ chunk }
      else draft) = drafts :=
  (List.map_congr_left fun draft member => if_neg (apart draft member)).trans (List.map_id _)

end Apart

/-- The number of the next draft goes to no draft. -/
def passNumber (volume : Volume) : Volume :=
  { volume with nextDraft := volume.nextDraft + 1 }

/-- The volume with a new draft that has a content. -/
def withDraft (volume : Volume) (place : Place) (content : Bytes) : Volume :=
  { volume.passNumber with
    drafts := volume.drafts ++ [⟨volume.nextDraft, place, content⟩] }

theorem openDraft_volume (volume : Volume) (place : Place) :
    (volume.openDraft place).2 = volume.withDraft place [] := rfl

theorem extendDraft_withDraft (numbered : volume.Numbered) (place : Place)
    (content chunk : Bytes) :
    (volume.withDraft place content).extendDraft volume.nextDraft chunk =
      volume.withDraft place (content ++ chunk) := by
  have older := map_of_apart (numbered.apart (Nat.le_refl _)) chunk
  simp [extendDraft, withDraft, passNumber, older]

theorem draft?_withDraft (numbered : volume.Numbered) (place : Place) (content : Bytes) :
    (volume.withDraft place content).draft? volume.nextDraft =
      some ⟨volume.nextDraft, place, content⟩ := by
  have older := find?_of_apart (numbered.apart (Nat.le_refl _))
  simp [withDraft, draft?, older]

/-- A draft that is opened and dropped leaves nothing but its number passed. -/
theorem dropDraft_withDraft (numbered : volume.Numbered) (place : Place) (content : Bytes) :
    (volume.withDraft place content).dropDraft volume.nextDraft = volume.passNumber := by
  have older := filter_of_apart (numbered.apart (Nat.le_refl _))
  simp [withDraft, dropDraft, passNumber, older]

end Volume

end UtilityBilling.Files
