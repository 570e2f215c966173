/-
# Files are seen whole

In every course of an output directory, however its files interleave, a reader sees under
each name the file that was there at the start or all chunks of the file that was committed
last under that name. Files that are started, written to, given up or not committed are never
seen, and no draft is left behind of a file that is not under way any more.
-/

import Mathlib.Algebra.GroupWithZero.Nat
import UtilityBilling.Proofs.Files.Sound

namespace UtilityBilling.Files

open UtilityBilling.Text (Bytes)
open Volume

namespace Course

/-- What is seen of a directory. -/
structure Whole (origin : Volume) (course : Course) : Prop where
  /-- Under each name stands the file that was committed last under it, with all chunks that
  were ever written to it, or else what was there at the start. Of a chunk that could not be
  written whole it is the part that was taken. -/
  below : ∀ name, course.volume.fileAt (placeOf course.directory ++ [name]) =
    match lastCommitted? name course.past with
    | some file => some (chunksOf file course.past).flatten
    | none => origin.fileAt (placeOf course.directory ++ [name])
  /-- Whoever reads a file of the directory reads this. -/
  read : ∀ name content, isFileName name = true →
    course.volume.read (joinName course.directory name) = .ok content →
    course.volume.fileAt (placeOf course.directory ++ [name]) = some content
  /-- Nothing is seen anywhere else. -/
  elsewhere : ∀ place, (∀ name, place ≠ placeOf course.directory ++ [name]) →
    course.volume.fileAt place = origin.fileAt place
  /-- There are no drafts but those of the start and one for each file under way. -/
  drafts : course.volume.drafts = origin.drafts ++ course.pending.map course.draftOf
  /-- The bytes of whole chunks are counted as they are written, in 64 bits. -/
  count : ∀ file ∈ course.pending,
    file.written = UInt64.ofNat ((wholeChunksOf file.draft course.past).map List.length).sum
  /-- While files are under way their directory is not read-only: nothing hinders that they are
  named or dropped. -/
  writable : course.pending ≠ [] → course.volume.isReadOnly (placeOf course.directory) = false
  /-- Which drafts fail, and how, is the same throughout. -/
  faults : course.volume.faults = origin.faults

/-- What an action does to a directory, told by what comes of it. -/
structure Handled (course : Course) (action : Action) (deed : Deed) (after : Course) : Prop where
  /-- Only a commit is seen. Whatever else happens, all that stands stays; at most the
  directory is made. -/
  unseen : (∀ file path, deed ≠ .committed file path) →
    ∀ place, after.volume.entryAt place = course.volume.entryAt place ∨
      (course.volume.entryAt place = none ∧ after.volume.entryAt place = some .directory)
  /-- In a directory that is there, and by anything but a start, nothing is made; a text that
  is no file name makes nothing either. -/
  untouched : (∀ file path, deed ≠ .committed file path) →
    (course.volume.at? course.directory = some .directory ∨ (∀ name, action ≠ .start name) ∨
      ∃ name given, deed = .refused name (.fileName given)) →
    after.volume.entries = course.volume.entries
  /-- A file that was committed, or could not be, or was given up, is not under way. -/
  gone : ∀ file, (∃ path, deed = .committed file path) ∨ (∃ error, deed = .failed file error) ∨
      deed = .discarded file →
    file ∉ after.pending.map PendingFile.draft
  /-- A text is refused as a file name exactly if it is none. -/
  refused : ∀ name given, action = .start name →
    (deed = .refused name (.fileName given) ↔
      given = name ∧
        (name = "" ∨ name = "." ∨ name = ".." ∨ '/' ∈ name.toList ∨ '\\' ∈ name.toList))
  /-- Every file can be started in a directory that is there, exactly if it is not read-only. -/
  started : ∀ name, action = .start name → isFileName name = true →
    course.volume.at? course.directory = some .directory →
    (deed = .started course.volume.nextDraft name ↔
      course.volume.isReadOnly (placeOf course.directory) = false)
  /-- A chunk is written whole exactly if there is room for it, and there is unless the system
  takes no more of the file; otherwise a part of it is taken. -/
  writes : ∀ file ∈ course.pending, ∀ chunk, action = .write file.draft chunk →
    (course.volume.HasRoom file.draft chunk.length ∧ deed = .wrote file.draft chunk) ∨
      (¬ course.volume.HasRoom file.draft chunk.length ∧
        ∃ taken error, taken <+: chunk ∧ deed = .stuck file.draft taken error)
  /-- A file is committed exactly if it can be brought to the disk and can get its name. -/
  commits : ∀ file ∈ course.pending, action = .commit file.draft →
    ((∃ path, deed = .committed file.draft path) ↔
      course.volume.syncError? file.draft = none ∧
        course.volume.CanName (placeOf course.directory) file.name)
  /-- What was committed is read under a path right below the directory. -/
  committed : ∀ file path, deed = .committed file path →
    ∃ name, nameOf? file course.past = some name ∧ isFileName name = true ∧
      path = joinName course.directory name ∧
      placeOf path = placeOf course.directory ++ [name] ∧
      after.volume.read path = .ok (chunksOf file course.past).flatten

variable {origin : Volume} {course : Course}

/-- A sound course shows files whole. -/
theorem Sound.whole (sound : Sound origin course) : Whole origin course where
  below := sound.below
  read name _ isName read := placeOf_joinName course.directory isName ▸ fileAt_of_read read
  elsewhere := sound.elsewhere
  drafts := sound.drafts
  count file member := by
    rw [← List.length_flatten]
    exact (sound.known file member).count
  writable := sound.writable
  faults := sound.faults

theorem not_mem_without (course : Course) (file : Nat) :
    file ∉ (course.without file).map PendingFile.draft := by
  intro member
  obtain ⟨other, isOther, same⟩ := List.mem_map.mp member
  have apart := (List.mem_filter.mp isOther).2
  rw [same] at apart
  simp at apart

/-- A file that is refused in a directory that is there, or for its name, leaves the volume as
it was. -/
theorem eq_of_refused {volume after : Volume} {directory name : String} {error : OutputError}
    (refused : beginFile volume directory name = (.error error, after))
    (calm : volume.at? directory = some .directory ∨ isFileName name = false) :
    after = volume := by
  rcases calm with stands | noName
  · rcases refused_cases refused with same | made
    · exact same
    · rwa [ensureDirectory_of_directory stands] at made
  · rw [beginFile_of_noName volume directory noName] at refused
    exact (Prod.mk.inj refused).2.symm

namespace Sound

variable {action : Action} {deed : Deed} {after : Course}

/-- At most a directory comes to be seen by anything but a commit. -/
theorem unseen (changes : Change course action deed after)
    (noCommit : ∀ file path, deed ≠ .committed file path) (place : Place) :
    after.volume.entryAt place = course.volume.entryAt place ∨
      (course.volume.entryAt place = none ∧ after.volume.entryAt place = some .directory) := by
  cases changes with
  | idles _ _ => exact .inl rfl
  | starts _ grows _ _ _ => exact grows.entry place
  | refuses refused => exact (grows_of_refused refused).entry place
  | writes _ _ => exact .inl rfl
  | sticks _ _ _ => exact .inl rfl
  | commits _ _ _ => exact absurd rfl (noCommit _ _)
  | fails _ _ => exact .inl rfl
  | discards _ => exact .inl rfl

/-- Where no directory is to be made, nothing is seen of anything but a commit. -/
theorem untouched (changes : Change course action deed after)
    (noCommit : ∀ file path, deed ≠ .committed file path)
    (calm : course.volume.at? course.directory = some .directory ∨
      (∀ name, action ≠ .start name) ∨ ∃ name given, deed = .refused name (.fileName given)) :
    after.volume.entries = course.volume.entries := by
  cases changes with
  | idles _ _ => rfl
  | starts begun _ _ _ _ =>
      rcases calm with stands | noStart | ⟨_, _, refused⟩
      · obtain ⟨_, _, _, _, opened⟩ := started_of_beginFile begun
        rw [ensureDirectory_of_directory stands] at opened
        show (Volume.openDraft _ _).2.entries = course.volume.entries
        rw [opened]
        rfl
      · exact absurd rfl (noStart _)
      · cases refused
  | refuses refused =>
      refine congrArg Volume.entries (eq_of_refused refused ?_)
      rcases calm with stands | noStart | ⟨_, _, same⟩
      · exact .inl stands
      · exact absurd rfl (noStart _)
      · cases same
        exact .inr (beginFile_eq_fileName_iff.mp ⟨_, refused⟩).2
  | writes _ _ => rfl
  | sticks _ _ _ => rfl
  | commits _ _ _ => exact absurd rfl (noCommit _ _)
  | fails _ _ => rfl
  | discards _ => rfl

/-- A text is refused as a file name exactly if it is none. -/
theorem refused_iff {name given : String} (changes : Change course (.start name) deed after) :
    deed = .refused name (.fileName given) ↔ given = name ∧ isFileName name = false := by
  cases changes with
  | idles noStart _ => exact absurd rfl (noStart name)
  | starts _ _ _ _ isName => simp [isName]
  | refuses refused =>
      constructor
      · intro same
        cases same
        exact beginFile_eq_fileName_iff.mp ⟨_, refused⟩
      · rintro ⟨rfl, noName⟩
        rw [beginFile_of_noName course.volume course.directory noName] at refused
        cases refused
        rfl

/-- What was committed is read under its path. -/
theorem read_committed (sound : Sound origin course) {file : PendingFile}
    (member : file ∈ course.pending)
    (can : course.volume.CanName (placeOf course.directory) file.name) (content : Bytes) :
    ((course.volume.dropDraft file.draft).put (placeOf course.directory ++ [file.name])
      (.file content)).read (joinName course.directory file.name) = .ok content := by
  have inside : placeOf course.directory ++ [file.name] ≠ [] := by simp
  have keeps : course.volume.KeepsDirectories ((course.volume.dropDraft file.draft).put
      (placeOf course.directory ++ [file.name]) (.file content)) :=
    keepsDirectories_put inside can.free rfl content
  apply read_joinName (keeps.directoryPlace (sound.ready (List.ne_nil_of_mem member)))
  case isName => exact (sound.known file member).isName
  case noNul => exact can.noNul
  case short => exact can.short
  case holds => rw [fileAt_put _ inside, if_pos rfl]

/-- Every change handles the files of a directory. -/
theorem handled (sound : Sound origin course) (changes : Change course action deed after) :
    Handled course action deed after where
  unseen := unseen changes
  untouched := untouched changes
  gone file ended := by
    cases changes with
    | commits _ _ _ =>
        obtain rfl : _ = file := by simpa using ended
        exact course.not_mem_without _
    | fails _ _ =>
        obtain rfl : _ = file := by simpa using ended
        exact course.not_mem_without _
    | discards _ =>
        obtain rfl : _ = file := by simpa using ended
        exact course.not_mem_without _
    | _ => simp at ended
  refused name given start := by
    subst start
    rw [refused_iff changes, isFileName_eq_false_iff]
  started name start isName stands := by
    subst start
    cases changes with
    | idles noStart _ => exact absurd rfl (noStart name)
    | starts begun _ _ _ _ =>
        refine iff_of_true rfl (eq_false_of_ne_true fun readOnly => ?_)
        rw [beginFile_of_readOnly stands readOnly isName] at begun
        cases begun
    | refuses refused =>
        refine iff_of_false nofun fun writable => ?_
        rw [beginFile_of_directory stands writable isName] at refused
        cases refused
  writes file member chunk write := by
    cases changes with
    | idles _ unconcerned => exact absurd write ((unconcerned file member).2 chunk)
    | writes isFile hasRoom =>
        obtain ⟨draft, rfl⟩ := Action.write.inj write
        obtain rfl := sound.eq_of_draft member isFile draft
        exact .inl ⟨hasRoom, rfl⟩
    | sticks isFile noRoom part =>
        obtain ⟨draft, rfl⟩ := Action.write.inj write
        obtain rfl := sound.eq_of_draft member isFile draft
        exact .inr ⟨noRoom, _, _, part, rfl⟩
    | _ => cases write
  commits file member commit := by
    cases changes with
    | idles _ unconcerned => exact absurd commit (unconcerned file member).1
    | commits isFile synced can =>
        obtain rfl := sound.eq_of_draft member isFile (Action.commit.inj commit)
        exact iff_of_true ⟨_, rfl⟩ ⟨synced, can⟩
    | fails isFile cannot =>
        obtain rfl := sound.eq_of_draft member isFile (Action.commit.inj commit)
        exact iff_of_false (by simp) cannot
    | _ => cases commit
  committed file path committed := by
    cases changes with
    | commits member _ can =>
        cases committed
        obtain ⟨_, isName, named, _⟩ := sound.known _ member
        exact ⟨_, named, isName, rfl, placeOf_joinName _ isName,
          sound.read_committed member can _⟩
    | _ => cases committed

end Sound

theorem Change.directory {action : Action} {deed : Deed} {after : Course}
    (changes : Change course action deed after) : after.directory = course.directory := by
  cases changes <;> rfl

theorem directory_run (numbered : origin.Numbered) (directory : String) (actions : List Action) :
    ((Course.ofVolume origin directory).run actions).directory = directory := by
  let holds (course : Course) : Prop := Sound origin course ∧ course.directory = directory
  have kept (course : Course) (before : holds course) (action : Action)
      (_ : action ∈ actions) : holds (course.step action) := by
    obtain ⟨sound, same⟩ := before
    have changes := react_changes numbered sound action
    exact ⟨sound.change numbered changes, changes.directory.trans same⟩
  exact (List.foldlRecOn (motive := holds) actions Course.step ⟨.ofVolume origin directory, rfl⟩
    kept).2

end Course

/-- Files are seen whole. Whatever is started, written, committed and given up in a directory,
in whatever order, what is seen under each name is what was there at the start or all that was
written to the file that was committed last under that name, and every action on the
directory as it is then does no more than it should. Drafts have numbers that nobody else
gives to theirs. -/
theorem files_seen_whole (origin : Volume) (numbered : origin.Numbered) (directory : String)
    (actions : List Action) :
    let course := (Course.ofVolume origin directory).run actions
    course.directory = directory ∧ course.Whole origin ∧
      ∀ action, course.Handled action (course.react action).1 (course.react action).2 := by
  have sound := Course.Sound.run numbered directory actions
  exact ⟨Course.directory_run numbered directory actions, sound.whole,
    fun action => sound.handled (Course.react_changes numbered sound action)⟩

namespace Twofold

/-- A volume with a file and a directory in its output directory, and with somebody else's
draft. -/
def origin : Volume where
  entries := [(["out"], .directory), (["out", "a"], .file [1]), (["out", "d"], .directory)]
  drafts := [⟨0, ["out"], [9]⟩]
  nextDraft := 1

/-- Two files of one name, a third that cannot get its name, and a fourth that is given up. -/
def actions : List Action :=
  [.start "a", .start "a", .write 1 [2], .write 2 [3], .write 1 [4], .commit 2, .start "d",
    .write 3 [5], .commit 3, .start "b", .write 4 [6], .discard 4, .commit 1]

end Twofold

/-- The chunks of two files of one name do not mix: the one that is committed last is seen
with all of its own, what fails or is given up is not, and only somebody else's draft is
left. -/
theorem files_seen_whole_twofold :
    Twofold.origin.Numbered ∧
      let course := (Course.ofVolume Twofold.origin "out").run Twofold.actions
      course.volume.fileAt ["out", "a"] = some [2, 4] ∧
        course.volume.fileAt ["out", "b"] = none ∧
        course.volume.drafts = Twofold.origin.drafts := by
  have numbered : Twofold.origin.Numbered := by
    intro draft member
    simp_all [Twofold.origin]
  obtain ⟨_, whole, _⟩ := files_seen_whole Twofold.origin numbered "out" Twofold.actions
  refine ⟨numbered, ?_, ?_, ?_⟩
  · exact whole.below "a"
  · exact whole.below "b"
  · exact whole.drafts

end UtilityBilling.Files
