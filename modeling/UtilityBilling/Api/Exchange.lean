/-
# Exchanges with a server

A request, and what becomes of it: an answer with a status and a body that comes in
chunks, or a failure. Some requests are never sent, since they cannot be put on the
line: a header value with control characters, or an address that no web server can
have. A line says what becomes of each request, given the requests before it.
-/

import UtilityBilling.Api.Refusal
import UtilityBilling.Api.StatusCode
import UtilityBilling.Url.Parser

namespace UtilityBilling.Api

open UtilityBilling.Text
open UtilityBilling.Url (Address)

/-- The method of a request. -/
inductive Method where
  | get
  | post
  deriving DecidableEq, Repr

/-- The word of a method. -/
def Method.word : Method → String
  | .get => "GET"
  | .post => "POST"

/-- A request to a server. -/
structure Request where
  method : Method
  url : Address
  accept : Option String := none
  /-- The credential that the gateway attaches. -/
  authorization : Option String := none
  contentType : Option String := none
  body : String := ""
  deriving DecidableEq, Repr

/-- Why a body did not come to its end. -/
inductive Cut where
  /-- The connection was closed in the middle. -/
  | closed
  | timedOut
  deriving DecidableEq, Repr

/-- The answer of a server. -/
structure Answer where
  status : StatusCode
  chunks : List Bytes := []
  /-- What came in place of the end of the body, if it broke off. -/
  cut? : Option Cut := none
  deriving DecidableEq

/-- Why a request got no answer. -/
inductive Failure where
  /-- A header value cannot be sent. -/
  | badHeader
  /-- The address cannot be that of a web server. -/
  | badAddress
  /-- There is no connection to the server. -/
  | unreachable
  /-- The connection was closed before an answer came. -/
  | dropped
  | timedOut
  deriving DecidableEq, Repr

/-- What becomes of a request. -/
abbrev Reply := Except Failure Answer

/-- What becomes of each request, given the requests that went out before it. -/
abbrev Line := List Request → Request → Reply

/-- A line that leads nowhere. -/
def Line.down : Line := fun _ _ => .error .unreachable

/-- The address of a request as errors show it, without the user. -/
def shownAddress (url : Address) : String :=
  " for url (" ++ url.withoutUser.text ++ ")"

/-- The error of a server that takes too long. -/
def tookTooLong : Error := ⟨.timeout, "the server took too long to respond"⟩

/-- The error of a request that got no answer. -/
def Failure.error (url : Address) : Failure → Error
  | .badHeader => ⟨.network, "network error: builder error"⟩
  | .badAddress => ⟨.network, "network error: builder error" ++ shownAddress url⟩
  | .unreachable | .dropped =>
    ⟨.network, "network error: error sending request" ++ shownAddress url⟩
  | .timedOut => tookTooLong

/-- The error of a body that broke off, where errors show the address of the request or do
not. -/
def Cut.error (shown : String) : Cut → Error
  | .closed => ⟨.decode, "error decoding response body" ++ shown⟩
  | .timedOut => tookTooLong

/-- Whether a byte can be part of a header value. -/
def isHeaderByte (byte : UInt8) : Bool :=
  byte == 9 || (32 ≤ byte && byte != 127)

/-- Whether a text can be a header value. -/
def isHeaderText (text : String) : Bool :=
  (bytesOf text).all isHeaderByte

/-- Whether a character can stand in the host of a request. -/
def isHostChar (c : Char) : Bool :=
  c.isAlphanum ||
    ['!', '$', '&', '\x27', '(', ')', '*', '+', ',', '-', '.', ':', ';', '=', '[', ']',
      '_', '~'].contains c

/-- The schemes of web servers. -/
def webSchemes : List (List Char) := [['h', 't', 't', 'p'], ['h', 't', 't', 'p', 's']]

/-- Whether an address can be that of a web server. -/
def isWebAddress (url : Address) : Bool :=
  webSchemes.contains url.scheme && (url.host.map Url.Host.text).any (·.all isHostChar)

/-- Why a request cannot be sent, if it cannot. A header is looked at before the
address. -/
def Request.fault? (request : Request) : Option Failure :=
  if !request.authorization.all isHeaderText then some .badHeader
  else if !isWebAddress request.url then some .badAddress
  else none

namespace Answer

/-- The bytes of the body that came. -/
def bytes (answer : Answer) : Bytes :=
  answer.chunks.flatten

/-- Whether the body came to its end. -/
def isComplete (answer : Answer) : Bool :=
  answer.cut?.isNone

/-- The body as text; a body that broke off counts as empty. -/
def text (answer : Answer) : String :=
  if answer.isComplete then String.ofList (Utf8.decodeLossy answer.bytes) else ""

/-- Reads the body of a success as one thing. -/
def decoded {α : Type} (answer : Answer) (url : Address) (read : Nat → Bytes → Json.Read α) :
    Result α :=
  match answer.cut? with
  | some cut => .error (cut.error (shownAddress url))
  | none =>
    match Json.decode read answer.bytes with
    | .ok value => .ok value
    | .error message => .error ⟨.decode, "unexpected response from server: " ++ message⟩

end Answer

end UtilityBilling.Api
