/-
# Urls

A url in parts: scheme, user, host, port, path, query and fragment. A path is a
list of segments, or one opaque text for schemes such as mailto. The text of a url
puts the parts together; the origin of a url is what decides which backend it
belongs to.
-/

import UtilityBilling.Url.Host

namespace UtilityBilling.Url

open UtilityBilling.Text

/-- The path of a url. -/
inductive Path where
  | segments (list : List (List Char))
  | opaqueText (text : List Char)
  deriving DecidableEq, Repr

/-- A url. A host of `none` means that there is no authority part at all. -/
structure Address where
  scheme : List Char
  username : List Char := []
  password : Option (List Char) := none
  host : Option Host := none
  port : Option UInt16 := none
  path : Path
  query : Option (List Char) := none
  fragment : Option (List Char) := none
  deriving DecidableEq, Repr

/-- How the scheme of a url shapes its other parts. -/
inductive SchemeKind where
  /-- Always with a host, and with a default port. -/
  | special
  | file
  | other
  deriving DecidableEq, Repr

/-- The schemes with a host and a default port. -/
def specialPorts : List (List Char × UInt16) :=
  [(['h', 't', 't', 'p'], 80), (['h', 't', 't', 'p', 's'], 443), (['w', 's'], 80),
    (['w', 's', 's'], 443), (['f', 't', 'p'], 21)]

/-- The default port of a scheme. -/
def defaultPort (scheme : List Char) : Option UInt16 :=
  specialPorts.lookup scheme

/-- The kind of a scheme. -/
def kindOf (scheme : List Char) : SchemeKind :=
  if scheme = ['f', 'i', 'l', 'e'] then .file
  else if (defaultPort scheme).isSome then .special
  else .other

/-- Whether backslashes count as slashes under a scheme of this kind. -/
def SchemeKind.isSpecial : SchemeKind → Bool
  | .special | .file => true
  | .other => false

namespace Address

/-- The user part with its sign, empty if there is no user. -/
def userText (url : Address) : List Char :=
  match url.username, url.password with
  | [], none => []
  | user, none => user ++ ['@']
  | user, some password => user ++ ':' :: (password ++ ['@'])

/-- The host with everything around it, from the two slashes to the port. -/
def authorityText (url : Address) : List Char :=
  match url.host with
  | none => []
  | some host =>
    let port := match url.port with
      | some port => ':' :: Nat.toDigits 10 port.toNat
      | none => []
    ['/', '/'] ++ url.userText ++ host.text ++ port

/-- The path. Where there is no host, a path that starts with an empty segment is
marked, since it would read as a host. -/
def pathText (url : Address) : List Char :=
  match url.path with
  | .opaqueText text => text
  | .segments segments =>
    let text := segments.flatMap ('/' :: ·)
    match url.host, segments with
    | none, [] :: _ :: _ => '/' :: '.' :: text
    | _, _ => text

/-- The path alone, as a request line would show it. -/
def plainPath (url : Address) : List Char :=
  match url.path with
  | .opaqueText text => text
  | .segments segments => segments.flatMap ('/' :: ·)

/-- The text of a url without its fragment. -/
def textToQuery (url : Address) : List Char :=
  let query := match url.query with
    | some query => '?' :: query
    | none => []
  url.scheme ++ ':' :: (url.authorityText ++ url.pathText ++ query)

/-- The characters of a url. -/
def chars (url : Address) : List Char :=
  let fragment := match url.fragment with
    | some fragment => '#' :: fragment
    | none => []
  url.textToQuery ++ fragment

/-- The text of a url. -/
def text (url : Address) : String :=
  String.ofList url.chars

/-- Whether a url has an opaque path, to which nothing is relative. -/
def isOpaque (url : Address) : Bool :=
  match url.path with
  | .opaqueText _ => true
  | .segments _ => false

/-- A url without the user part. -/
def withoutUser (url : Address) : Address :=
  { url with username := [], password := none }

end Address

/-- The origin of a url with a host: its scheme, host and port, the default port
included. -/
structure Origin where
  scheme : List Char
  host : Host
  port : UInt16
  deriving DecidableEq, Repr

end UtilityBilling.Url
