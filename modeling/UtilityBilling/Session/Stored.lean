/-
# Stored sessions

A signed-in session as it is kept in a file: the backend it belongs to, the bearer
token, and when it was saved. A file is written with one field to a line and every
character escaped that could not be shown; it is read back by the rules of the
notation.
-/

import UtilityBilling.Session.Instant
import UtilityBilling.Session.Notation

namespace UtilityBilling.Session

open UtilityBilling.Text

/-- A session as it is kept. -/
structure Stored where
  baseUrl : String
  token : String
  savedAt : Instant
  deriving DecidableEq, Repr

namespace Stored

/-- The name of the record in a file. -/
def recordName : String := "PersistedSession"

/-- The names of the fields in a file. -/
def fieldNames : List String := ["base_url", "token", "saved_at"]

/-- A line of a field. -/
def fieldLine (name value : String) : List Char :=
  [' ', ' ', ' ', ' '] ++ name.toList ++ [':', ' '] ++ quote true value.toList ++ [',', '\n']

/-- The text of a file. -/
def text (session : Stored) : String :=
  String.ofList
    (['(', '\n'] ++ fieldLine "base_url" session.baseUrl ++
      fieldLine "token" session.token ++
      fieldLine "saved_at" session.savedAt.zuluText ++ [')'])

/-- Reads the text of a file. -/
def parse? (source : String) : Option Stored := do
  let fields ← Notation.record recordName fieldNames source
  let baseUrl ← fields.lookup "base_url"
  let token ← fields.lookup "token"
  let savedAt ← (fields.lookup "saved_at").bind Instant.parse?
  some ⟨baseUrl, token, savedAt⟩

end Stored

end UtilityBilling.Session
