/-
# The courses of an output directory

Any number of files can be under way in one directory, of different names or of the same.
Each is started, gets its chunks, and is committed or given up in single steps, and between
two of them anything can happen to the others. A course is what such a list of actions leads
to, together with the history of what came of each action.

A file is known by the number of its draft. An action on a file that is not under way, since
it has been committed or given up, does nothing, so that every list of actions is a course.
-/

import UtilityBilling.Proofs.Files.Pending

namespace UtilityBilling.Files

open UtilityBilling.Text (Bytes)

/-- What can be done with the files of a directory. -/
inductive Action where
  | start (name : String)
  | write (file : Nat) (chunk : Bytes)
  | commit (file : Nat)
  | discard (file : Nat)

/-- What comes of an action. -/
inductive Deed where
  | nothing
  | started (file : Nat) (name : String)
  /-- A file could not be started. -/
  | refused (name : String) (error : OutputError)
  | wrote (file : Nat) (chunk : Bytes)
  /-- A chunk could not be written whole: only a part of it was taken. -/
  | stuck (file : Nat) (taken : Bytes) (error : OutputError)
  | committed (file : Nat) (path : String)
  /-- A file could not be committed. -/
  | failed (file : Nat) (error : OutputError)
  | discarded (file : Nat)

/-- What comes into a file by a deed. -/
def Deed.piecesFor (file : Nat) : Deed → List Bytes
  | .wrote other chunk | .stuck other chunk _ => if other = file then [chunk] else []
  | _ => []

/-- Whether a deed is anything but a chunk of which only a part was taken. -/
def Deed.isWhole : Deed → Bool
  | .stuck _ _ _ => false
  | _ => true

/-- The chunks that were written to a file, in order, with what was taken of those that could
not be written whole. The history has its latest entry first. -/
def chunksOf (file : Nat) : List Deed → List Bytes
  | [] => []
  | deed :: earlier => chunksOf file earlier ++ deed.piecesFor file

/-- The chunks that were written whole to a file, in order. -/
def wholeChunksOf (file : Nat) (past : List Deed) : List Bytes :=
  chunksOf file (past.filter Deed.isWhole)

theorem chunksOf_of_piecesFor {file : Nat} {deed : Deed} (nothing : deed.piecesFor file = [])
    (past : List Deed) : chunksOf file (deed :: past) = chunksOf file past := by
  rw [chunksOf, nothing, List.append_nil]

theorem wholeChunksOf_of_piecesFor {file : Nat} {deed : Deed} (nothing : deed.piecesFor file = [])
    (past : List Deed) : wholeChunksOf file (deed :: past) = wholeChunksOf file past := by
  unfold wholeChunksOf
  rw [List.filter_cons]
  split
  · exact chunksOf_of_piecesFor nothing _
  · rfl

theorem chunksOf_eq_nil {file : Nat} {past : List Deed}
    (nothing : ∀ deed ∈ past, deed.piecesFor file = []) : chunksOf file past = [] := by
  induction past with
  | nil => rfl
  | cons deed earlier ih =>
      obtain ⟨first, rest⟩ := List.forall_mem_cons.mp nothing
      rw [chunksOf_of_piecesFor first, ih rest]

theorem wholeChunksOf_eq_nil {file : Nat} {past : List Deed}
    (nothing : ∀ deed ∈ past, deed.piecesFor file = []) : wholeChunksOf file past = [] :=
  chunksOf_eq_nil fun deed member => nothing deed (List.mem_filter.mp member).1

/-- The name under which a file was started. -/
def nameOf? (file : Nat) : List Deed → Option String
  | [] => none
  | .started other name :: earlier => if other = file then some name else nameOf? file earlier
  | _ :: earlier => nameOf? file earlier

/-- The file that was committed last under a name. -/
def lastCommitted? (name : String) : List Deed → Option Nat
  | [] => none
  | .committed file _ :: earlier =>
    if nameOf? file earlier = some name then some file else lastCommitted? name earlier
  | _ :: earlier => lastCommitted? name earlier

/-- What becomes of a file under way when one of them has come to be another. -/
def PendingFile.updated (written file : PendingFile) : PendingFile :=
  if file.draft = written.draft then written else file

@[simp]
theorem PendingFile.draft_updated (written file : PendingFile) :
    (written.updated file).draft = file.draft := by
  unfold updated
  split
  case isTrue same => exact same.symm
  case isFalse => rfl

/-- An output directory at a moment of its course, with the files under way and the history,
the latest entry first. -/
structure Course where
  directory : String
  volume : Volume
  pending : List PendingFile := []
  past : List Deed := []

namespace Course

/-- The file under way with a number. -/
def pending? (course : Course) (file : Nat) : Option PendingFile :=
  course.pending.find? fun pending => pending.draft == file

/-- The files under way but one. -/
def without (course : Course) (file : Nat) : List PendingFile :=
  course.pending.filter fun pending => pending.draft != file

/-- Starts a file. -/
def start (course : Course) (name : String) : Deed × Course :=
  match beginFile course.volume course.directory name with
  | (.ok file, opened) =>
    (.started file.draft name,
      { course with volume := opened, pending := course.pending ++ [file] })
  | (.error error, after) => (.refused name error, { course with volume := after })

/-- Writes a chunk to a file. A file whose chunk could not be written stays under way. -/
def write (course : Course) (file : PendingFile) (chunk : Bytes) : Deed × Course :=
  match file.append course.volume chunk with
  | (.ok written, extended) =>
    (.wrote file.draft chunk,
      { course with volume := extended, pending := course.pending.map written.updated })
  | (.error error, after) =>
    (.stuck file.draft (course.volume.offer file.draft chunk).1 error,
      { course with volume := after })

/-- Commits a file. -/
def commit (course : Course) (file : PendingFile) : Deed × Course :=
  let left := course.without file.draft
  match file.commit course.volume with
  | (.ok path, named) =>
    (.committed file.draft path, { course with volume := named, pending := left })
  | (.error error, after) =>
    (.failed file.draft error, { course with volume := after, pending := left })

/-- Gives a file up. -/
def discard (course : Course) (file : PendingFile) : Deed × Course :=
  (.discarded file.draft,
    { course with
      volume := file.discard course.volume
      pending := course.without file.draft })

/-- What comes of an action, and what is left after it. -/
def react (course : Course) : Action → Deed × Course
  | .start name => course.start name
  | .write file chunk =>
    match course.pending? file with
    | some pending => course.write pending chunk
    | none => (.nothing, course)
  | .commit file =>
    match course.pending? file with
    | some pending => course.commit pending
    | none => (.nothing, course)
  | .discard file =>
    match course.pending? file with
    | some pending => course.discard pending
    | none => (.nothing, course)

/-- The course after one more action. -/
def step (course : Course) (action : Action) : Course :=
  let (deed, after) := course.react action
  { after with past := deed :: after.past }

/-- The course after some more actions. -/
def run (course : Course) (actions : List Action) : Course :=
  actions.foldl step course

/-- The course at its start. -/
def ofVolume (volume : Volume) (directory : String) : Course where
  directory := directory
  volume := volume

end Course

end UtilityBilling.Files
