/-
# Sound courses

A course that comes from a volume can be told from its history: each file under way has one
draft, with a number of its own, that holds what was written to the file, and each place
shows the file that was committed last there, or what the volume had at that place. One
relation says everything that an action can do, and every action keeps a course sound.
-/

import Mathlib.Data.List.Nodup
import UtilityBilling.Proofs.Files.Course

namespace UtilityBilling.Files

open UtilityBilling.Text (Bytes)
open Volume

/-! ## Files under way -/

namespace Course

/-- The draft of a file under way, by what the history tells of it. -/
def draftOf (course : Course) (file : PendingFile) : Draft :=
  ⟨file.draft, placeOf course.directory, (chunksOf file.draft course.past).flatten⟩

/-- The drafts of files depend on what was written to them alone. -/
theorem map_draftOf_eq {files : List PendingFile} (course after : Course)
    (directory : after.directory = course.directory)
    (chunks : ∀ file ∈ files,
      chunksOf file.draft after.past = chunksOf file.draft course.past) :
    files.map after.draftOf = files.map course.draftOf := by
  apply List.map_congr_left
  intro file member
  rw [draftOf, draftOf, directory, chunks file member]

/-- A file under way is what the history tells of it: its name, and how many bytes were
written to it in whole chunks, counted in 64 bits. -/
structure Knows (course : Course) (file : PendingFile) : Prop where
  directory : file.directory = course.directory
  isName : isFileName file.name = true
  named : nameOf? file.draft course.past = some file.name
  count : file.written = UInt64.ofNat (wholeChunksOf file.draft course.past).flatten.length

/-- The content that is seen under a name, by what the history tells. -/
def content? (origin : Volume) (course : Course) (name : String) : Option Bytes :=
  match lastCommitted? name course.past with
  | some file => some (chunksOf file course.past).flatten
  | none => origin.fileAt (placeOf course.directory ++ [name])

/-- A course that has come from a volume. The drafts are those of the volume and those of the
files under way, which have numbers of their own; files that were committed are not under
way; the directory of those that are is there and not read-only; and each place shows what the
history tells. -/
structure Sound (origin : Volume) (course : Course) : Prop where
  since : origin.nextDraft ≤ course.volume.nextDraft
  faults : course.volume.faults = origin.faults
  drafts : course.volume.drafts = origin.drafts ++ course.pending.map course.draftOf
  distinct : (course.pending.map PendingFile.draft).Nodup
  numbers : ∀ file ∈ course.pending,
    origin.nextDraft ≤ file.draft ∧ file.draft < course.volume.nextDraft
  known : ∀ file ∈ course.pending, course.Knows file
  fresh : ∀ number, course.volume.nextDraft ≤ number →
    ∀ deed ∈ course.past, deed.piecesFor number = []
  settled : ∀ name file, lastCommitted? name course.past = some file →
    file < course.volume.nextDraft ∧ file ∉ course.pending.map PendingFile.draft
  ready : course.pending ≠ [] →
    directoryPlace course.volume course.directory = .ok (placeOf course.directory)
  writable : course.pending ≠ [] → course.volume.isReadOnly (placeOf course.directory) = false
  below : ∀ name,
    course.volume.fileAt (placeOf course.directory ++ [name]) = course.content? origin name
  elsewhere : ∀ place, (∀ name, place ≠ placeOf course.directory ++ [name]) →
    course.volume.fileAt place = origin.fileAt place

namespace Sound

variable {origin : Volume} {course : Course} {file : PendingFile}

theorem ofVolume (origin : Volume) (directory : String) :
    Sound origin (.ofVolume origin directory) where
  since := Nat.le_refl _
  faults := rfl
  drafts := (List.append_nil _).symm
  distinct := List.nodup_nil
  numbers _ member := nomatch member
  known _ member := nomatch member
  fresh _ _ _ member := nomatch member
  settled _ _ committed := nomatch committed
  ready nothing := absurd rfl nothing
  writable nothing := absurd rfl nothing
  below _ := rfl
  elsewhere _ _ := rfl

/-- Files under way are told apart by their numbers. -/
theorem eq_of_draft (sound : Sound origin course) {other : PendingFile}
    (isFile : file ∈ course.pending) (isOther : other ∈ course.pending)
    (same : other.draft = file.draft) : other = file :=
  List.inj_on_of_nodup_map sound.distinct isOther isFile same

theorem pending?_eq_some_iff (sound : Sound origin course) {number : Nat} :
    course.pending? number = some file ↔ file ∈ course.pending ∧ file.draft = number := by
  constructor
  · intro found
    exact ⟨List.mem_of_find?_eq_some found, by simpa using List.find?_some found⟩
  · rintro ⟨member, rfl⟩
    obtain ⟨other, found⟩ : ∃ other, course.pending? file.draft = some other := by
      apply Option.isSome_iff_exists.mp
      rw [pending?, List.find?_isSome]
      exact ⟨file, member, by simp⟩
    rw [found, sound.eq_of_draft member (List.mem_of_find?_eq_some found)
      (by simpa using List.find?_some found)]

/-- The draft of a file under way is found by its number. -/
theorem draft?_eq (numbered : origin.Numbered) (sound : Sound origin course)
    (member : file ∈ course.pending) :
    course.volume.draft? file.draft = some (course.draftOf file) := by
  have older := find?_of_apart (numbered.apart (sound.numbers file member).1)
  have own : (course.pending.map course.draftOf).find? (fun draft => draft.number == file.draft) =
      (course.pending? file.draft).map course.draftOf :=
    List.find?_map ..
  rw [draft?, sound.drafts, List.find?_append, older, Option.none_or, own,
    sound.pending?_eq_some_iff.mpr ⟨member, rfl⟩]
  rfl

/-- Dropping the draft of a file under way leaves the drafts of the others. -/
theorem drafts_dropDraft (numbered : origin.Numbered) (sound : Sound origin course)
    (member : file ∈ course.pending) :
    (course.volume.dropDraft file.draft).drafts =
      origin.drafts ++ (course.without file.draft).map course.draftOf := by
  have older := filter_of_apart (numbered.apart (sound.numbers file member).1)
  rw [dropDraft, sound.drafts, List.filter_append, older, List.filter_map]
  rfl

/-! ## What each action preserves -/

/-- An action by which at most directories are made, and which the history tells nothing of. -/
theorem grow (sound : Sound origin course) {after : Volume} (grows : course.volume.Grows after)
    {deed : Deed} (pieces : ∀ file, deed.piecesFor file = [])
    (names : ∀ file, nameOf? file (deed :: course.past) = nameOf? file course.past)
    (last : ∀ name, lastCommitted? name (deed :: course.past) = lastCommitted? name course.past) :
    Sound origin { course with volume := after, past := deed :: course.past } where
  since := grows.nextDraft ▸ sound.since
  faults := grows.faults.trans sound.faults
  drafts := by
    rw [grows.drafts, sound.drafts]
    refine congrArg (origin.drafts ++ ·) (Eq.symm (map_draftOf_eq course _ rfl ?_))
    exact fun file _ => chunksOf_of_piecesFor (pieces file.draft) _
  distinct := sound.distinct
  numbers := grows.nextDraft ▸ sound.numbers
  known file member := by
    obtain ⟨directory, isName, named, count⟩ := sound.known file member
    exact ⟨directory, isName, by rwa [names], by rwa [wholeChunksOf_of_piecesFor (pieces _)]⟩
  fresh number later :=
    List.forall_mem_cons.mpr ⟨pieces number, sound.fresh number (grows.nextDraft ▸ later)⟩
  settled name file committed := grows.nextDraft ▸ sound.settled name file (last name ▸ committed)
  ready underWay := grows.keepsDirectories.directoryPlace (sound.ready underWay)
  writable underWay := (isReadOnly_of_readOnly grows.readOnly _).trans (sound.writable underWay)
  below name := by
    rw [grows.fileAt, sound.below]
    simp only [content?, last, chunksOf_of_piecesFor (pieces _)]
  elsewhere place apart := (grows.fileAt place).trans (sound.elsewhere place apart)

/-- A file is started. -/
theorem begin (sound : Sound origin course) {made : Volume} {name : String}
    (grows : course.volume.Grows made)
    (found : directoryPlace made course.directory = .ok (placeOf course.directory))
    (writable : made.isReadOnly (placeOf course.directory) = false)
    (isName : isFileName name = true) :
    Sound origin
      { course with
        volume := (made.openDraft (placeOf course.directory)).2
        pending := course.pending ++ [⟨course.volume.nextDraft, course.directory, name, 0⟩]
        past := .started course.volume.nextDraft name :: course.past } where
  since := by
    show _ ≤ made.nextDraft + 1
    rw [grows.nextDraft]
    exact Nat.le_succ_of_le sound.since
  faults := grows.faults.trans sound.faults
  drafts := by
    have unwritten : chunksOf course.volume.nextDraft course.past = [] :=
      chunksOf_eq_nil (sound.fresh _ (Nat.le_refl _))
    let after : Course :=
      { course with past := .started course.volume.nextDraft name :: course.past }
    have same : course.pending.map after.draftOf = course.pending.map course.draftOf :=
      map_draftOf_eq course after rfl fun _ _ => chunksOf_of_piecesFor rfl _
    have own : (chunksOf course.volume.nextDraft after.past).flatten = [] := by
      rw [chunksOf_of_piecesFor rfl, unwritten, List.flatten_nil]
    show made.drafts ++ [⟨made.nextDraft, _, []⟩] =
      origin.drafts ++ (course.pending ++ [_]).map after.draftOf
    rw [grows.drafts, grows.nextDraft, sound.drafts, List.map_append, same, List.append_assoc,
      List.map_singleton, draftOf, own]
  distinct := by
    rw [List.map_append, List.nodup_append]
    refine ⟨sound.distinct, by simp, ?_⟩
    rintro number isOld other isNew rfl
    obtain ⟨file, member, rfl⟩ := List.mem_map.mp isOld
    have older := (sound.numbers file member).2
    have same : file.draft = course.volume.nextDraft := by simpa using isNew
    omega
  numbers file member := by
    show _ ∧ file.draft < made.nextDraft + 1
    rw [grows.nextDraft]
    rcases List.mem_append.mp member with old | new
    · have number := sound.numbers file old
      exact ⟨number.1, Nat.lt_succ_of_lt number.2⟩
    · rw [List.mem_singleton.mp new]
      exact ⟨sound.since, Nat.lt_succ_self _⟩
  known file member := by
    rcases List.mem_append.mp member with old | new
    · obtain ⟨directory, isName, named, count⟩ := sound.known file old
      have older := (sound.numbers file old).2
      refine ⟨directory, isName, by rw [nameOf?, if_neg (by omega), named], ?_⟩
      rwa [wholeChunksOf_of_piecesFor rfl]
    · obtain rfl := List.mem_singleton.mp new
      refine ⟨rfl, isName, by simp [nameOf?], ?_⟩
      rw [wholeChunksOf_of_piecesFor rfl, wholeChunksOf_eq_nil (sound.fresh _ (Nat.le_refl _))]
      rfl
  fresh number later := by
    have further : made.nextDraft + 1 ≤ number := later
    rw [grows.nextDraft] at further
    exact List.forall_mem_cons.mpr ⟨rfl, sound.fresh number (Nat.le_of_succ_le further)⟩
  settled other file committed := by
    obtain ⟨older, gone⟩ := sound.settled other file committed
    refine ⟨?_, ?_⟩
    · show file < made.nextDraft + 1
      rw [grows.nextDraft]
      exact Nat.lt_succ_of_lt older
    · rw [List.map_append, List.mem_append, not_or]
      refine ⟨gone, ?_⟩
      rw [List.map_cons, List.map_nil, List.mem_singleton]
      exact Nat.ne_of_lt older
  ready _ := by
    have same : (made.openDraft (placeOf course.directory)).2.entries = made.entries := rfl
    exact (KeepsDirectories.of_entries same).directoryPlace found
  writable _ := writable
  below other := by
    refine (grows.fileAt _).trans ((sound.below other).trans ?_)
    simp only [content?, lastCommitted?, chunksOf, Deed.piecesFor, List.append_nil]
  elsewhere place apart := (grows.fileAt place).trans (sound.elsewhere place apart)

/-- Something comes into the draft of a file under way, and into no other. -/
theorem extend (numbered : origin.Numbered) (sound : Sound origin course)
    (member : file ∈ course.pending) {chunk : Bytes} {deed : Deed} {pending : List PendingFile}
    (own : deed.piecesFor file.draft = [chunk])
    (others : ∀ other, other ≠ file.draft → deed.piecesFor other = [])
    (last : ∀ name, lastCommitted? name (deed :: course.past) = lastCommitted? name course.past)
    (numbers : pending.map PendingFile.draft = course.pending.map PendingFile.draft)
    (known : ∀ other ∈ pending, other.directory = course.directory ∧
      isFileName other.name = true ∧ nameOf? other.draft (deed :: course.past) = some other.name ∧
      other.written = UInt64.ofNat
        (wholeChunksOf other.draft (deed :: course.past)).flatten.length) :
    Sound origin
      { course with
        volume := course.volume.extendDraft file.draft chunk
        pending := pending
        past := deed :: course.past } := by
  have underWay : pending ≠ [] → course.pending ≠ [] :=
    fun _ => List.ne_nil_of_mem member
  constructor
  case since => exact sound.since
  case faults => exact sound.faults
  case drafts =>
    let after : Course := { course with past := deed :: course.past }
    let draftFor (number : Nat) : Draft :=
      ⟨number, placeOf course.directory, (chunksOf number after.past).flatten⟩
    have same : pending.map after.draftOf = course.pending.map after.draftOf := by
      change pending.map (draftFor ∘ PendingFile.draft) =
        course.pending.map (draftFor ∘ PendingFile.draft)
      rw [← List.map_map, numbers, List.map_map]
    have older := map_of_apart (numbered.apart (sound.numbers file member).1) chunk
    change (course.volume.extendDraft file.draft chunk).drafts =
      origin.drafts ++ pending.map after.draftOf
    rw [same, extendDraft, sound.drafts, List.map_append, older, List.map_map]
    refine congrArg (origin.drafts ++ ·) (List.map_congr_left fun other isOther => ?_)
    by_cases here : other.draft = file.draft
    · obtain rfl := sound.eq_of_draft member isOther here
      simp [draftOf, after, chunksOf, own]
    · simp [draftOf, after, here, chunksOf_of_piecesFor (others _ here)]
  case distinct => exact numbers ▸ sound.distinct
  case numbers =>
    intro other isOther
    have present := List.mem_map_of_mem (f := PendingFile.draft) isOther
    rw [numbers] at present
    obtain ⟨before, isBefore, number⟩ := List.mem_map.mp present
    rw [← number]
    exact sound.numbers before isBefore
  case known =>
    intro other isOther
    obtain ⟨directory, isName, named, count⟩ := known other isOther
    exact ⟨directory, isName, named, count⟩
  case fresh =>
    intro other later
    have older := (sound.numbers file member).2
    have apart : other ≠ file.draft := Nat.ne_of_gt (Nat.lt_of_lt_of_le older later)
    exact List.forall_mem_cons.mpr ⟨others other apart, sound.fresh other later⟩
  case settled =>
    intro name other committed
    rw [last] at committed
    exact numbers ▸ sound.settled name other committed
  case ready =>
    intro some
    have same : (course.volume.extendDraft file.draft chunk).entries = course.volume.entries := rfl
    exact (KeepsDirectories.of_entries same).directoryPlace (sound.ready (underWay some))
  case writable => exact fun some => sound.writable (underWay some)
  case below =>
    intro name
    refine Eq.trans (sound.below name) ?_
    simp only [content?, last]
    cases committed : lastCommitted? name course.past with
    | none => rfl
    | some other =>
        have apart : other ≠ file.draft := by
          rintro rfl
          exact (sound.settled name _ committed).2 (List.mem_map_of_mem member)
        simp only [chunksOf_of_piecesFor (others other apart)]
  case elsewhere => exact sound.elsewhere

/-- A chunk is written whole to a file under way. -/
theorem write (numbered : origin.Numbered) (sound : Sound origin course)
    (member : file ∈ course.pending) (chunk : Bytes) :
    Sound origin
      { course with
        volume := course.volume.extendDraft file.draft chunk
        pending := course.pending.map (file.write course.volume chunk).1.updated
        past := .wrote file.draft chunk :: course.past } := by
  let written := (file.write course.volume chunk).1
  have own : (Deed.wrote file.draft chunk).piecesFor file.draft = [chunk] := if_pos rfl
  have others (other : Nat) (apart : other ≠ file.draft) :
      (Deed.wrote file.draft chunk).piecesFor other = [] := if_neg (Ne.symm apart)
  apply sound.extend numbered member own others (fun _ => rfl)
  case numbers =>
    rw [List.map_map]
    exact List.map_congr_left fun other _ => written.draft_updated other
  case known =>
    intro other isOther
    obtain ⟨before, isBefore, rfl⟩ := List.mem_map.mp isOther
    obtain ⟨directory, isName, named, counted⟩ := sound.known before isBefore
    by_cases same : before.draft = file.draft
    · obtain rfl := sound.eq_of_draft member isBefore same
      have grown : written.updated before = written := if_pos rfl
      rw [grown]
      refine ⟨directory, isName, named, ?_⟩
      have whole : wholeChunksOf before.draft (.wrote before.draft chunk :: course.past) =
          wholeChunksOf before.draft course.past ++ [chunk] :=
        congrArg (wholeChunksOf before.draft course.past ++ ·) own
      change before.written + UInt64.ofNat chunk.length = UInt64.ofNat
        (wholeChunksOf before.draft (.wrote before.draft chunk :: course.past)).flatten.length
      rw [whole, counted]
      simp
    · have kept : written.updated before = before := if_neg same
      rw [kept]
      exact ⟨directory, isName, named,
        by rw [counted, wholeChunksOf_of_piecesFor (others _ same)]⟩

/-- Of a chunk for a file under way only a part is taken. -/
theorem stick (numbered : origin.Numbered) (sound : Sound origin course)
    (member : file ∈ course.pending) (taken : Bytes) (error : OutputError) :
    Sound origin
      { course with
        volume := course.volume.extendDraft file.draft taken
        past := .stuck file.draft taken error :: course.past } := by
  have own : (Deed.stuck file.draft taken error).piecesFor file.draft = [taken] := if_pos rfl
  have others (other : Nat) (apart : other ≠ file.draft) :
      (Deed.stuck file.draft taken error).piecesFor other = [] := if_neg (Ne.symm apart)
  apply sound.extend numbered member own others (fun _ => rfl) rfl
  intro other isOther
  obtain ⟨directory, isName, named, counted⟩ := sound.known other isOther
  exact ⟨directory, isName, named, counted⟩

/-- A file under way is so no more. What is left to show is what is seen of it. -/
theorem leave (numbered : origin.Numbered) (sound : Sound origin course)
    (member : file ∈ course.pending) {after : Volume} {deed : Deed}
    (pieces : ∀ other, deed.piecesFor other = [])
    (names : ∀ other, nameOf? other (deed :: course.past) = nameOf? other course.past)
    (last : ∀ name other, lastCommitted? name (deed :: course.past) = some other →
      other = file.draft ∨ lastCommitted? name course.past = some other)
    (drafts : after.drafts = (course.volume.dropDraft file.draft).drafts)
    (faults : after.faults = course.volume.faults)
    (nextDraft : after.nextDraft = course.volume.nextDraft)
    (readOnly : after.readOnly = course.volume.readOnly)
    (keeps : course.volume.KeepsDirectories after)
    (below : ∀ name, after.fileAt (placeOf course.directory ++ [name]) =
      content? origin { course with past := deed :: course.past } name)
    (elsewhere : ∀ place, (∀ name, place ≠ placeOf course.directory ++ [name]) →
      after.fileAt place = course.volume.fileAt place) :
    Sound origin
      { course with
        volume := after
        pending := course.without file.draft
        past := deed :: course.past } := by
  have stays {other : PendingFile} (isOther : other ∈ course.without file.draft) :
      other ∈ course.pending ∧ other.draft ≠ file.draft := by
    simpa [without] using isOther
  have fewer : ((course.without file.draft).map PendingFile.draft).Sublist
      (course.pending.map PendingFile.draft) := List.filter_sublist.map _
  constructor
  case since => exact nextDraft ▸ sound.since
  case faults => exact faults.trans sound.faults
  case drafts =>
    rw [drafts, sound.drafts_dropDraft numbered member]
    refine congrArg (origin.drafts ++ ·) (Eq.symm (map_draftOf_eq course _ rfl ?_))
    exact fun other _ => chunksOf_of_piecesFor (pieces other.draft) _
  case distinct => exact sound.distinct.sublist fewer
  case numbers =>
    intro other isOther
    exact nextDraft ▸ sound.numbers other (stays isOther).1
  case known =>
    intro other isOther
    obtain ⟨directory, isName, named, count⟩ := sound.known other (stays isOther).1
    exact ⟨directory, isName, by rwa [names], by rwa [wholeChunksOf_of_piecesFor (pieces _)]⟩
  case fresh =>
    intro other later
    exact List.forall_mem_cons.mpr ⟨pieces other, sound.fresh other (nextDraft ▸ later)⟩
  case settled =>
    intro name other committed
    rcases last name other committed with rfl | before
    · refine ⟨nextDraft ▸ (sound.numbers file member).2, ?_⟩
      intro isOther
      obtain ⟨same, isSame, draft⟩ := List.mem_map.mp isOther
      exact (stays isSame).2 draft
    · obtain ⟨older, gone⟩ := sound.settled name other before
      exact ⟨nextDraft ▸ older, fun isOther => gone (fewer.mem isOther)⟩
  case ready =>
    intro _
    exact keeps.directoryPlace (sound.ready (List.ne_nil_of_mem member))
  case writable =>
    intro _
    exact (isReadOnly_of_readOnly readOnly _).trans (sound.writable (List.ne_nil_of_mem member))
  case below => exact below
  case elsewhere =>
    intro place apart
    exact (elsewhere place apart).trans (sound.elsewhere place apart)

/-- A file under way is dropped and not seen. -/
theorem drop (numbered : origin.Numbered) (sound : Sound origin course)
    (member : file ∈ course.pending) {deed : Deed}
    (pieces : ∀ other, deed.piecesFor other = [])
    (names : ∀ other, nameOf? other (deed :: course.past) = nameOf? other course.past)
    (last : ∀ name, lastCommitted? name (deed :: course.past) = lastCommitted? name course.past) :
    Sound origin
      { course with
        volume := course.volume.dropDraft file.draft
        pending := course.without file.draft
        past := deed :: course.past } := by
  have same : (course.volume.dropDraft file.draft).entries = course.volume.entries := rfl
  apply sound.leave numbered member pieces names
  case last =>
    intro name other committed
    exact .inr (last name ▸ committed)
  case drafts => rfl
  case faults => rfl
  case nextDraft => rfl
  case readOnly => rfl
  case keeps => exact .of_entries same
  case below =>
    intro name
    refine Eq.trans (sound.below name) ?_
    simp only [content?, last, chunksOf_of_piecesFor (pieces _)]
  case elsewhere =>
    intro place _
    exact fileAt_of_entryAt (entryAt_of_entries same place)

/-- A file under way gets its name. -/
theorem name (numbered : origin.Numbered) (sound : Sound origin course)
    (member : file ∈ course.pending) (path : String)
    (free : course.volume.entryAt (placeOf course.directory ++ [file.name]) ≠ some .directory) :
    Sound origin
      { course with
        volume := (course.volume.dropDraft file.draft).put
          (placeOf course.directory ++ [file.name])
          (.file (chunksOf file.draft course.past).flatten)
        pending := course.without file.draft
        past := .committed file.draft path :: course.past } := by
  have named := (sound.known file member).named
  have inside : placeOf course.directory ++ [file.name] ≠ [] := by simp
  apply sound.leave numbered member (fun _ => rfl) (fun _ => rfl)
  case last =>
    intro name other committed
    rw [lastCommitted?] at committed
    split at committed
    case isTrue => exact .inl (Option.some.inj committed).symm
    case isFalse => exact .inr committed
  case drafts => rfl
  case faults => rfl
  case nextDraft => rfl
  case readOnly => rfl
  case keeps => exact keepsDirectories_put inside free rfl _
  case below =>
    intro name
    rw [fileAt_put _ inside, content?, lastCommitted?, named]
    by_cases same : name = file.name
    · subst same
      simp [chunksOf, Deed.piecesFor]
    · rw [if_neg (by simpa using same), if_neg (by simpa using Ne.symm same)]
      refine (sound.below name).trans ?_
      simp only [content?, chunksOf, Deed.piecesFor, List.append_nil]
  case elsewhere =>
    intro place apart
    rw [fileAt_put _ inside, if_neg (apart file.name)]
    rfl

end Sound

/-! ## What an action can do -/

/-- What an action does to a course, told by what comes of it. -/
inductive Change (course : Course) : Action → Deed → Course → Prop where
  | idles {action : Action} (noStart : ∀ name, action ≠ .start name)
      (unconcerned : ∀ file ∈ course.pending, action ≠ .commit file.draft ∧
        ∀ chunk, action ≠ .write file.draft chunk) :
      Change course action .nothing course
  | starts {name : String} {made : Volume}
      (begun : beginFile course.volume course.directory name =
        (.ok ⟨course.volume.nextDraft, course.directory, name, 0⟩,
          (made.openDraft (placeOf course.directory)).2))
      (grows : course.volume.Grows made)
      (found : directoryPlace made course.directory = .ok (placeOf course.directory))
      (writable : made.isReadOnly (placeOf course.directory) = false)
      (isName : isFileName name = true) :
      Change course (.start name) (.started course.volume.nextDraft name)
        { course with
          volume := (made.openDraft (placeOf course.directory)).2
          pending := course.pending ++ [⟨course.volume.nextDraft, course.directory, name, 0⟩] }
  | refuses {name : String} {error : OutputError} {after : Volume}
      (refused : beginFile course.volume course.directory name = (.error error, after)) :
      Change course (.start name) (.refused name error) { course with volume := after }
  | writes {file : PendingFile} {chunk : Bytes} (member : file ∈ course.pending)
      (hasRoom : course.volume.HasRoom file.draft chunk.length) :
      Change course (.write file.draft chunk) (.wrote file.draft chunk)
        { course with
          volume := course.volume.extendDraft file.draft chunk
          pending := course.pending.map (file.write course.volume chunk).1.updated }
  | sticks {file : PendingFile} {chunk taken : Bytes} {error : OutputError}
      (member : file ∈ course.pending)
      (noRoom : ¬ course.volume.HasRoom file.draft chunk.length) (part : taken <+: chunk) :
      Change course (.write file.draft chunk) (.stuck file.draft taken error)
        { course with volume := course.volume.extendDraft file.draft taken }
  | commits {file : PendingFile} (member : file ∈ course.pending)
      (synced : course.volume.syncError? file.draft = none)
      (can : course.volume.CanName (placeOf course.directory) file.name) :
      Change course (.commit file.draft)
        (.committed file.draft (joinName course.directory file.name))
        { course with
          volume := (course.volume.dropDraft file.draft).put
            (placeOf course.directory ++ [file.name])
            (.file (chunksOf file.draft course.past).flatten)
          pending := course.without file.draft }
  | fails {file : PendingFile} {error : OutputError} (member : file ∈ course.pending)
      (cannot : ¬ (course.volume.syncError? file.draft = none ∧
        course.volume.CanName (placeOf course.directory) file.name)) :
      Change course (.commit file.draft) (.failed file.draft error)
        { course with
          volume := course.volume.dropDraft file.draft
          pending := course.without file.draft }
  | discards {file : PendingFile} (member : file ∈ course.pending) :
      Change course (.discard file.draft) (.discarded file.draft)
        { course with
          volume := course.volume.dropDraft file.draft
          pending := course.without file.draft }

variable {origin : Volume} {course : Course}

/-- Starting a file starts or refuses it. -/
theorem start_changes (course : Course) (name : String) :
    Change course (.start name) (course.start name).1 (course.start name).2 := by
  cases begun : beginFile course.volume course.directory name with
  | mk result after =>
      cases result with
      | error error =>
          rw [start, begun]
          exact .refuses begun
      | ok file =>
          obtain ⟨isName, found, writable, rfl, rfl⟩ := started_of_beginFile begun
          rw [start, begun]
          exact .starts begun (grows_ensureDirectory _ _) found writable isName

/-- Writing a chunk to a file puts it into its draft, if there is room for it; otherwise a part
of it. -/
theorem write_changes (course : Course) {file : PendingFile} (member : file ∈ course.pending)
    (chunk : Bytes) :
    Change course (.write file.draft chunk) (course.write file chunk).1
      (course.write file chunk).2 := by
  unfold write
  rcases file.append_cases course.volume chunk with
    ⟨hasRoom, appended⟩ | ⟨noRoom, error, part, stuck⟩
  · simp only [appended]
    exact .writes member hasRoom
  · simp only [stuck]
    exact .sticks member noRoom part

/-- Committing a file puts all its chunks under its name, if it can be brought to the disk and
the name can be given; otherwise the file is dropped. -/
theorem commit_changes (numbered : origin.Numbered) (sound : Sound origin course)
    {file : PendingFile} (member : file ∈ course.pending) :
    Change course (.commit file.draft) (course.commit file).1 (course.commit file).2 := by
  have directory := (sound.known file member).directory
  rcases file.commit_cases course.volume (sound.draft?_eq numbered member) with
    ⟨synced, can, named⟩ | ⟨cannot, error, refused⟩
  · simp only [commit, named, PendingFile.target, directory]
    exact .commits member synced can
  · simp only [commit, refused]
    exact .fails member cannot

/-- Every action does what comes of it. -/
theorem react_changes (numbered : origin.Numbered) (sound : Sound origin course)
    (action : Action) : Change course action (course.react action).1 (course.react action).2 := by
  cases action with
  | start name => exact course.start_changes name
  | write number chunk =>
      cases found : course.pending? number with
      | none =>
          simp only [react, found]
          apply Change.idles (by simp)
          refine fun file member => ⟨nofun, ?_⟩
          rintro other ⟨⟩
          rw [sound.pending?_eq_some_iff.mpr ⟨member, rfl⟩] at found
          cases found
      | some file =>
          obtain ⟨member, rfl⟩ := sound.pending?_eq_some_iff.mp found
          simp only [react, found]
          exact course.write_changes member chunk
  | commit number =>
      cases found : course.pending? number with
      | none =>
          simp only [react, found]
          apply Change.idles (by simp)
          refine fun file member => ⟨?_, nofun⟩
          rintro ⟨⟩
          rw [sound.pending?_eq_some_iff.mpr ⟨member, rfl⟩] at found
          cases found
      | some file =>
          obtain ⟨member, rfl⟩ := sound.pending?_eq_some_iff.mp found
          simp only [react, found]
          exact commit_changes numbered sound member
  | discard number =>
      cases found : course.pending? number with
      | none =>
          simp only [react, found]
          exact .idles (by simp) (by simp)
      | some file =>
          obtain ⟨member, rfl⟩ := sound.pending?_eq_some_iff.mp found
          simp only [react, found]
          exact .discards member

namespace Sound

/-- Every change keeps a course sound. -/
theorem change (numbered : origin.Numbered) (sound : Sound origin course) {action : Action}
    {deed : Deed} {after : Course} (changes : Change course action deed after) :
    Sound origin { after with past := deed :: after.past } := by
  cases changes with
  | idles _ _ => exact sound.grow (.refl _) (fun _ => rfl) (fun _ => rfl) fun _ => rfl
  | starts _ grows found writable isName => exact sound.begin grows found writable isName
  | refuses refused =>
      exact sound.grow (grows_of_refused refused) (fun _ => rfl) (fun _ => rfl) fun _ => rfl
  | writes member _ => exact sound.write numbered member _
  | sticks member _ _ => exact sound.stick numbered member _ _
  | commits member _ can => exact sound.name numbered member _ can.free
  | fails member _ =>
      exact sound.drop numbered member (fun _ => rfl) (fun _ => rfl) fun _ => rfl
  | discards member =>
      exact sound.drop numbered member (fun _ => rfl) (fun _ => rfl) fun _ => rfl

/-- Every course is sound. -/
theorem run (numbered : origin.Numbered) (directory : String) (actions : List Action) :
    Sound origin ((Course.ofVolume origin directory).run actions) :=
  List.foldlRecOn (motive := Sound origin) actions Course.step (.ofVolume origin directory)
    fun _ sound action _ => sound.change numbered (react_changes numbered sound action)

end Sound

end Course

end UtilityBilling.Files
