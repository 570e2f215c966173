/-
# Output files

Files are written under a name in an output directory, chunk by chunk into a draft
that gets its name only when it is committed. A reader sees the file before or the
file after, never a part of it. A file name is a single name: it is not empty, it
is not a dot or two, and it has no slash of either kind.
-/

import UtilityBilling.Files.Volume
import UtilityBilling.Text.Quoted

namespace UtilityBilling.Files

open UtilityBilling.Text

/-- Why an output directory cannot be used. -/
inductive DirectoryFault where
  | notDirectory
  | system (error : SystemError)
  deriving DecidableEq, Repr

/-- The wording of a directory fault. -/
def DirectoryFault.message : DirectoryFault → String
  | .notDirectory => "path is not a directory"
  | .system error => error.message

/-- Why a file could not be written. -/
inductive OutputError where
  | directory (fault : DirectoryFault)
  | fileName (name : String)
  | system (error : SystemError)
  deriving DecidableEq, Repr

/-- The wording of an output error. -/
def OutputError.message : OutputError → String
  | .directory fault => "output directory missing or not writable: " ++ fault.message
  | .fileName name => "invalid file name: " ++ quoted name
  | .system error => "io error: " ++ error.message

/-- Makes sure that an output directory is there. -/
def ensureDirectory (volume : Volume) (directory : String) :
    Except OutputError Unit × Volume :=
  match volume.at? directory with
  | some .directory => (.ok (), volume)
  | some (.file _) => (.error (.directory .notDirectory), volume)
  | none =>
    match volume.makeDirectories directory with
    | (.ok (), made) => (.ok (), made)
    | (.error e, made) => (.error (.directory (.system e)), made)

/-- Whether a text can be the name of an output file. -/
def isFileName (name : String) : Bool :=
  name != "" && !name.toList.contains '/' && !name.toList.contains '\\' &&
    name != "." && name != ".."

/-- A file that is being written. -/
structure PendingFile where
  draft : Nat
  directory : String
  name : String
  written : UInt64 := 0
  deriving DecidableEq, Repr

/-- The path under which a pending file will be found. -/
def PendingFile.target (file : PendingFile) : String :=
  joinName file.directory file.name

/-- The place that a directory path leads to; the empty path means the working
directory. -/
def directoryPlace (volume : Volume) (directory : String) : Except SystemError Place :=
  if directory = "" then .ok []
  else
    match volume.find directory with
    | .ok ⟨place, some .directory⟩ => .ok place
    | .ok ⟨_, some (.file _)⟩ => .error .notDirectory
    | .ok ⟨_, none⟩ => .error .notFound
    | .error e => .error e

/-- Starts a file under a name in a directory, which is made if it is missing. -/
def beginFile (volume : Volume) (directory name : String) :
    Except OutputError PendingFile × Volume :=
  if !isFileName name then (.error (.fileName name), volume)
  else
    match ensureDirectory volume directory with
    | (.error e, made) => (.error e, made)
    | (.ok (), made) =>
      match directoryPlace made directory with
      | .error e => (.error (.system e), made)
      | .ok place =>
        if made.isReadOnly place then (.error (.system (.deniedAt made.draftPath)), made)
        else
          let (draft, opened) := made.openDraft place
          (.ok { draft := draft, directory := directory, name := name }, opened)

namespace PendingFile

/-- Appends a chunk that the system takes whole. -/
def write (file : PendingFile) (volume : Volume) (chunk : Bytes) :
    PendingFile × Volume :=
  ({ file with written := file.written + UInt64.ofNat chunk.length },
    volume.extendDraft file.draft chunk)

/-- Appends a chunk. What the system takes of a chunk that it does not take whole stays,
and is not counted. -/
def append (file : PendingFile) (volume : Volume) (chunk : Bytes) :
    Except OutputError PendingFile × Volume :=
  match volume.offer file.draft chunk with
  | (_, none) =>
    let (written, extended) := file.write volume chunk
    (.ok written, extended)
  | (taken, some error) => (.error (.system error), volume.extendDraft file.draft taken)

/-- Appends chunks up to the first that fails. -/
def appendAll (file : PendingFile) (volume : Volume) :
    List Bytes → Except OutputError PendingFile × Volume
  | [] => (.ok file, volume)
  | chunk :: rest =>
    match file.append volume chunk with
    | (.ok written, extended) => appendAll written extended rest
    | (.error error, after) => (.error error, after)

/-- Brings the file to the disk, gives it its name and returns its path. -/
def commit (file : PendingFile) (volume : Volume) :
    Except OutputError String × Volume :=
  match volume.syncError? file.draft with
  | some e => (.error (.system e), volume.dropDraft file.draft)
  | none =>
    match volume.nameDraft file.draft file.name with
    | (.ok (), named) => (.ok file.target, named)
    | (.error e, after) => (.error (.system e), after)

/-- Gives the file up. -/
def discard (file : PendingFile) (volume : Volume) : Volume :=
  volume.dropDraft file.draft

end PendingFile

/-- Writes a whole file. -/
def writeFile (volume : Volume) (directory name : String) (content : Bytes) :
    Except OutputError String × Volume :=
  match beginFile volume directory name with
  | (.error e, after) => (.error e, after)
  | (.ok file, opened) =>
    match file.append opened content with
    | (.error e, after) => (.error e, file.discard after)
    | (.ok file, extended) => file.commit extended

end UtilityBilling.Files
