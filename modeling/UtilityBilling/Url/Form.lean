/-
# Form encoding

Parameters in the query of a url: keys and values with an equals sign between
them, pairs with an ampersand between them. A blank is a plus sign; letters,
figures and four signs stand for themselves; every other byte is percent-encoded.
Appended pairs follow what the query already holds.
-/

import UtilityBilling.Url.Basic

namespace UtilityBilling.Url

open UtilityBilling.Text

/-- A byte in form encoding. -/
def formByte (byte : UInt8) : List Char :=
  let c := Char.ofNat byte.toNat
  if byte == 32 then ['+']
  else if byte < 0x80 && (c.isAlphanum || c == '*' || c == '-' || c == '.' || c == '_') then [c]
  else encodeByte byte

/-- A text in form encoding. -/
def formText (text : String) : List Char :=
  (bytesOf text).flatMap formByte

/-- A pair in form encoding. -/
def formPair (pair : String × String) : List Char :=
  formText pair.1 ++ '=' :: formText pair.2

/-- A query with pairs appended, one after the other. -/
def appendPairs (query : List Char) : List (String × String) → List Char
  | [] => query
  | pair :: rest =>
    appendPairs (if query.isEmpty then formPair pair else query ++ '&' :: formPair pair) rest

/-- A url with parameters appended to its query. Without parameters the url stays
as it is. -/
def Address.withParameters (url : Address) (parameters : List (String × String)) :
    Address :=
  if parameters.isEmpty then url
  else { url with query := some (appendPairs (url.query.getD []) parameters) }

end UtilityBilling.Url
