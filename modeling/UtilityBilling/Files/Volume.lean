/-
# Volumes

A tree of directories and files below a working directory. Entries are kept flat,
by the names that lead to them; the working directory itself has no entry. A file
that is being written has no name yet: it is a draft in its directory, and gets its
name in one step that replaces an older file of that name. In a directory that is
read-only nothing is made, named or removed, although a file that is there can be
written. Every operation that fails leaves the tree as it is, apart from directories
made on the way. A draft may fail while it is written, and then keeps what the system
took of it, or when it is brought to the disk.
-/

import UtilityBilling.Files.Path
import UtilityBilling.Text.Quoted
import UtilityBilling.Text.Utf8

namespace UtilityBilling.Files

open UtilityBilling.Text

/-- Why the system refuses an operation. -/
inductive SystemError where
  | notFound
  | exists
  | notDirectory
  | isDirectory
  | invalidArgument
  | nameTooLong
  | nulInName
  | notText
  | denied
  /-- No draft can be made at the path that the system made up for it. -/
  | deniedAt (path : String)
  /-- A draft cannot be written on at the path that the system made up for it. -/
  | noSpaceAt (path : String)
  | inputOutput
  deriving DecidableEq, Repr

/-- The wording of a system error. -/
def SystemError.message : SystemError → String
  | .notFound => "No such file or directory (os error 2)"
  | .exists => "File exists (os error 17)"
  | .notDirectory => "Not a directory (os error 20)"
  | .isDirectory => "Is a directory (os error 21)"
  | .invalidArgument => "Invalid argument (os error 22)"
  | .nameTooLong => "File name too long (os error 36)"
  | .nulInName => "file name contained an unexpected NUL byte"
  | .notText => "stream did not contain valid UTF-8"
  | .denied => "Permission denied (os error 13)"
  | .deniedAt path => "Permission denied (os error 13) at path " ++ quoted path
  | .noSpaceAt path => "No space left on device (os error 28) at path " ++ quoted path
  | .inputOutput => "Input/output error (os error 5)"

/-- The names that lead from the working directory to an entry. -/
abbrev Place := List String

/-- What can be at a place. -/
inductive Entry where
  | directory
  | file (content : Bytes)
  deriving DecidableEq, Repr

/-- A file without a name yet, in a directory. -/
structure Draft where
  number : Nat
  directory : Place
  content : Bytes
  deriving DecidableEq, Repr

/-- How a draft fails, and what the system says then. -/
inductive Fault where
  /-- The system takes so many bytes of the draft, and no more. -/
  | full (room : Nat) (error : SystemError)
  /-- The draft can be written, and not be brought to the disk. -/
  | unsynced (error : SystemError)
  deriving DecidableEq, Repr

/-- A tree of files. -/
structure Volume where
  entries : List (Place × Entry) := []
  drafts : List Draft := []
  /-- The number of the next draft. -/
  nextDraft : Nat := 0
  /-- The directories that are read-only. -/
  readOnly : List Place := []
  /-- The path that the system would make up for the next draft. -/
  draftPath : String := ""
  /-- The drafts that will fail, by their numbers. -/
  faults : List (Nat × Fault) := []
  deriving DecidableEq, Repr

namespace Volume

/-- What is at a place. The working directory is always there. -/
def entryAt (volume : Volume) : Place → Option Entry
  | [] => some .directory
  | place => volume.entries.lookup place

/-- The entries with another one at a place. -/
def putEntry (place : Place) (entry : Entry) :
    List (Place × Entry) → List (Place × Entry)
  | [] => [(place, entry)]
  | (other, held) :: rest =>
    if other = place then (place, entry) :: rest
    else (other, held) :: putEntry place entry rest

/-- The tree with an entry at a place. -/
def put (volume : Volume) (place : Place) (entry : Entry) : Volume :=
  { volume with entries := putEntry place entry volume.entries }

/-- The tree without the entry at a place. -/
def erase (volume : Volume) (place : Place) : Volume :=
  { volume with entries := volume.entries.filter fun (other, _) => other != place }

/-- Whether nothing can be made, named or removed in a directory. -/
def isReadOnly (volume : Volume) (directory : Place) : Bool :=
  volume.readOnly.contains directory

/-- The longest name that a file can have, in bytes. -/
def maxNameBytes : Nat := 255

/-- A place that a path leads to, and what is there. -/
structure Spot where
  place : Place
  entry : Option Entry
  deriving DecidableEq, Repr

/-- Follows the parts of a path from a directory. -/
def follow (volume : Volume) (asDirectory : Bool) : Place → List Part →
    Except SystemError Spot
  | place, [] => .ok ⟨place, volume.entryAt place⟩
  | place, .up :: rest => follow volume asDirectory place.dropLast rest
  | place, .name name :: rest =>
    if maxNameBytes < name.utf8ByteSize then .error .nameTooLong
    else
      let here := place ++ [name]
      match volume.entryAt here with
      | some .directory => follow volume asDirectory here rest
      | some (.file content) =>
        if rest.isEmpty && !asDirectory then .ok ⟨here, some (.file content)⟩
        else .error .notDirectory
      | none => if rest.isEmpty then .ok ⟨here, none⟩ else .error .notFound

/-- Follows a path. -/
def find (volume : Volume) (path : String) : Except SystemError Spot :=
  if path = "" then .error .notFound
  else if path.toList.contains '\x00' then .error .nulInName
  else volume.follow (endsAsDirectory path) [] (parts path)

/-- What a path leads to, if it leads anywhere. -/
def at? (volume : Volume) (path : String) : Option Entry :=
  match volume.find path with
  | .ok spot => spot.entry
  | .error _ => none

/-- Makes the directories along the parts of a path that are missing. -/
def makeAlong (volume : Volume) : Place → List Part → Except SystemError Unit × Volume
  | _, [] => (.ok (), volume)
  | place, .up :: rest => makeAlong volume place.dropLast rest
  | place, .name name :: rest =>
    if maxNameBytes < name.utf8ByteSize then (.error .nameTooLong, volume)
    else
      let here := place ++ [name]
      match volume.entryAt here with
      | some .directory => makeAlong volume here rest
      | some (.file _) => (.error (if rest.isEmpty then .exists else .notDirectory), volume)
      | none =>
        if volume.isReadOnly place then (.error .denied, volume)
        else makeAlong (volume.put here .directory) here rest

/-- Makes a directory with all the directories above it. -/
def makeDirectories (volume : Volume) (path : String) :
    Except SystemError Unit × Volume :=
  if path.toList.contains '\x00' then (.error .nulInName, volume)
  else volume.makeAlong [] (parts path)

/-- Reads a file. -/
def read (volume : Volume) (path : String) : Except SystemError Bytes :=
  match volume.find path with
  | .error e => .error e
  | .ok ⟨_, some (.file content)⟩ => .ok content
  | .ok ⟨_, some .directory⟩ => .error .isDirectory
  | .ok ⟨_, none⟩ => .error .notFound

/-- Reads a file as text. -/
def readText (volume : Volume) (path : String) : Except SystemError String :=
  match volume.read path with
  | .error e => .error e
  | .ok content =>
    match string? content with
    | some text => .ok text
    | none => .error .notText

/-- Removes a file. -/
def removeFile (volume : Volume) (path : String) : Except SystemError Unit × Volume :=
  match volume.find path with
  | .error e => (.error e, volume)
  | .ok ⟨place, some (.file _)⟩ =>
    if volume.isReadOnly place.dropLast then (.error .denied, volume)
    else (.ok (), volume.erase place)
  | .ok ⟨place, some .directory⟩ =>
    if !endsAsDirectory path && volume.isReadOnly place.dropLast then (.error .denied, volume)
    else (.error .isDirectory, volume)
  | .ok ⟨_, none⟩ => (.error .notFound, volume)

/-- Makes an empty file, or empties the file that is there. -/
def createFile (volume : Volume) (path : String) : Except SystemError Unit × Volume :=
  match volume.find path with
  | .error e => (.error e, volume)
  | .ok ⟨_, some .directory⟩ => (.error .isDirectory, volume)
  | .ok ⟨place, held⟩ =>
    if endsAsDirectory path then (.error .isDirectory, volume)
    else if held.isNone && volume.isReadOnly place.dropLast then (.error .denied, volume)
    else (.ok (), volume.put place (.file []))

/-- Puts a file in place together with the directories above it, whatever was
there. -/
def install (volume : Volume) (path : String) (content : Bytes) : Volume :=
  let (_, made) := volume.makeAlong [] (parts path).dropLast
  match made.find path with
  | .ok spot => made.put spot.place (.file content)
  | .error _ => made

/-- Removes what a path leads to, with all below it. -/
def remove (volume : Volume) (path : String) : Volume :=
  match volume.find path with
  | .ok spot =>
    { volume with
      entries := volume.entries.filter fun (place, _) => !spot.place.isPrefixOf place }
  | .error _ => volume

/-- Starts a draft in a directory. -/
def openDraft (volume : Volume) (directory : Place) : Nat × Volume :=
  (volume.nextDraft,
    { volume with
      drafts := volume.drafts ++ [⟨volume.nextDraft, directory, []⟩]
      nextDraft := volume.nextDraft + 1 })

/-- Appends bytes to a draft. -/
def extendDraft (volume : Volume) (number : Nat) (chunk : Bytes) : Volume :=
  { volume with
    drafts := volume.drafts.map fun draft =>
      if draft.number = number then { draft with content := draft.content ++ chunk }
      else draft }

/-- Drops a draft. -/
def dropDraft (volume : Volume) (number : Nat) : Volume :=
  { volume with drafts := volume.drafts.filter fun draft => draft.number != number }

/-- The draft with a number. -/
def draft? (volume : Volume) (number : Nat) : Option Draft :=
  volume.drafts.find? fun draft => draft.number == number

/-- What the system takes of a chunk for a draft, and what it says if that is not all. -/
def offer (volume : Volume) (number : Nat) (chunk : Bytes) : Bytes × Option SystemError :=
  match volume.faults.lookup number, volume.draft? number with
  | some (.full room error), some draft =>
    let left := room - draft.content.length
    if chunk.length ≤ left then (chunk, none) else (chunk.take left, some error)
  | _, _ => (chunk, none)

/-- Why a draft cannot be brought to the disk, if it cannot. -/
def syncError? (volume : Volume) (number : Nat) : Option SystemError :=
  match volume.faults.lookup number with
  | some (.unsynced error) => some error
  | _ => none

/-- Gives a draft its name. An older file of that name is replaced in the same
step; if the name cannot be given the draft is dropped and nothing else changes. -/
def nameDraft (volume : Volume) (number : Nat) (name : String) :
    Except SystemError Unit × Volume :=
  let dropped := volume.dropDraft number
  match volume.draft? number with
  | none => (.error .notFound, volume)
  | some draft =>
    let place := draft.directory ++ [name]
    if name.toList.contains '\x00' then (.error .invalidArgument, dropped)
    else if maxNameBytes < name.utf8ByteSize then (.error .nameTooLong, dropped)
    else if volume.isReadOnly draft.directory then (.error .denied, dropped)
    else
      match volume.entryAt draft.directory, volume.entryAt place with
      | some .directory, some .directory => (.error .isDirectory, dropped)
      | some .directory, _ => (.ok (), dropped.put place (.file draft.content))
      | _, _ => (.error .notFound, dropped)

end Volume

end UtilityBilling.Files
