/-
# Sign-in answers

A sign-in is answered with an object that holds the bearer token, under either of
two names.
-/

import UtilityBilling.Json.Record

namespace UtilityBilling.Api

open UtilityBilling.Json (Shape Read)
open UtilityBilling.Text (Bytes)

/-- The fields of a sign-in answer; the record is its token. -/
def loginShape : Shape (Option String) where
  name := "LoginResponse"
  fields :=
    [ { name := "access_token"
        keys := ["access_token", "token"]
        required := true
        isGiven := Option.isSome
        read := fun _ rest =>
          (Json.readText rest).map fun (token, r) => ((fun _ => some token), r) } ]

/-- Reads the token of a sign-in answer. -/
def readLogin (depth : Nat) (rest : Bytes) : Read String :=
  (Json.readRecord loginShape none depth rest).map fun (token, r) => (token.getD "", r)

/-- The body of a sign-in request. -/
def loginBody (username password : String) : String :=
  String.ofList
    ('\x7b' :: (Json.quoteChars "username" ++ ':' :: Json.quoteChars username ++
      ',' :: Json.quoteChars "password" ++ ':' :: Json.quoteChars password ++ ['\x7d']))

end UtilityBilling.Api
