/-
# Credential stores

Where the bearer token lives: in memory only, or in the session file of the
backend. Both answer the same three questions; the file-backed one also changes
files and has something to log.
-/

import UtilityBilling.Session.FileStore

namespace UtilityBilling.Api

open UtilityBilling.Files (Volume)
open UtilityBilling.Session (Instant FileStore)

/-- A place where the bearer token lives. -/
inductive CredentialStore where
  | memory (token : Option String)
  | file (store : FileStore)
  deriving DecidableEq, Repr

namespace CredentialStore

/-- The stored token. -/
def token : CredentialStore → Option String
  | .memory token => token
  | .file store => store.token

/-- When the token was saved, where that is kept. -/
def savedAt : CredentialStore → Option Instant
  | .memory _ => none
  | .file store => store.savedAt

/-- Stores a token in place of the one before. -/
def put (volume : Volume) (now : Instant) (token : String) :
    CredentialStore → CredentialStore × Volume × List Log.Record
  | .memory _ => (.memory (some token), volume, [])
  | .file store =>
    let (stored, written, log) := store.put volume now token
    (.file stored, written, log)

/-- Forgets the token. -/
def clear (volume : Volume) :
    CredentialStore → CredentialStore × Volume × List Log.Record
  | .memory _ => (.memory none, volume, [])
  | .file store =>
    let (cleared, after, log) := store.clear volume
    (.file cleared, after, log)

end CredentialStore

end UtilityBilling.Api
