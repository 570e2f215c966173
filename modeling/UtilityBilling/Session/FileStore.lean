/-
# The session file

The session of one backend, kept in memory and in a file. A file that belongs to
another backend, or that cannot be read, counts as no session and is left alone. A
new token replaces the session at once, in memory even if the file cannot be
written; what went wrong is logged. Clearing removes the file.
-/

import UtilityBilling.Files.Output
import UtilityBilling.Log.Record
import UtilityBilling.Session.Stored

namespace UtilityBilling.Session

open UtilityBilling.Files UtilityBilling.Text

/-- The session of one backend with the file that keeps it. -/
structure FileStore where
  path : String
  baseUrl : String
  session : Option Stored := none
  deriving DecidableEq, Repr

/-- Reads the session in a file, whatever its backend. -/
def readStored (volume : Volume) (path : String) : Option Stored × List Log.Record :=
  match volume.readText path with
  | .error .notFound => (none, [])
  | .error e =>
    (none, [Log.warning ("Failed to read session from " ++ quoted path ++ ": " ++ e.message)])
  | .ok content =>
    match Stored.parse? content with
    | some session => (some session, [])
    | none => (none, [Log.warning ("Failed to parse session from " ++ quoted path)])

/-- Writes a session to a file, in one step. -/
def writeStored (volume : Volume) (path : String) (session : Stored) :
    Volume × List Log.Record :=
  match fileName? path with
  | none => (volume, [Log.error ("Session path " ++ quoted path ++ " has no file name")])
  | some name =>
    match writeFile volume (directoryOf path) name (bytesOf session.text) with
    | (.ok _, written) => (written, [])
    | (.error e, after) =>
      (after, [Log.error ("Failed to write session to " ++ quoted path ++ ": " ++ e.message)])

namespace FileStore

/-- Opens the session file for a backend. -/
def load (volume : Volume) (path baseUrl : String) : FileStore × List Log.Record :=
  let (found, log) := readStored volume path
  (⟨path, baseUrl, found.filter fun session => session.baseUrl == baseUrl⟩, log)

/-- The bearer token, if there is a session. -/
def token (store : FileStore) : Option String :=
  store.session.map Stored.token

/-- When the session was saved. -/
def savedAt (store : FileStore) : Option Instant :=
  store.session.map Stored.savedAt

/-- Starts a session with a token. -/
def put (store : FileStore) (volume : Volume) (now : Instant) (token : String) :
    FileStore × Volume × List Log.Record :=
  let session : Stored := ⟨store.baseUrl, token, now⟩
  let (written, log) := writeStored volume store.path session
  ({ store with session := some session }, written, log)

/-- Ends the session. -/
def clear (store : FileStore) (volume : Volume) : FileStore × Volume × List Log.Record :=
  let ended := { store with session := none }
  match volume.removeFile store.path with
  | (.ok (), after) => (ended, after, [])
  | (.error .notFound, _) => (ended, volume, [])
  | (.error e, _) =>
    (ended, volume,
      [Log.warning ("Failed to remove session file " ++ quoted store.path ++ ": " ++ e.message)])

end FileStore

end UtilityBilling.Session
