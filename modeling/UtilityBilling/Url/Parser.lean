/-
# Reading urls

A text is read as a url on its own, or relative to a base url. Blanks and controls
around it are dropped, and so are tabs and line breaks inside it. The parts are read
from left to right, each by a function that returns what is left: scheme, user,
host, port, path, query, fragment.
-/

import UtilityBilling.Url.Basic

namespace UtilityBilling.Url

open UtilityBilling.Text

/-- The result of reading a part: the part and the rest. -/
abbrev Parsed (α : Type) := Except ParseError (α × List Char)

/-- A text without the blanks and controls at its ends and without tabs and line
breaks. -/
def tidy (text : List Char) : List Char :=
  let isEdge := fun c : Char => c.toNat ≤ 0x20
  let inner := ((text.dropWhile isEdge).reverse.dropWhile isEdge).reverse
  inner.filter fun c => c != '\t' && c != '\n' && c != '\r'

/-- Whether a character may stand in a scheme after its first letter. -/
def isSchemeChar (c : Char) : Bool :=
  c.isAlphanum || c == '+' || c == '-' || c == '.'

/-- Splits a scheme, in small letters, from what follows its colon. -/
def readScheme (text : List Char) : Option (List Char × List Char) :=
  match text with
  | [] => none
  | first :: _ =>
    if !first.isAlpha then none
    else
      match text.dropWhile isSchemeChar with
      | ':' :: rest => some ((text.takeWhile isSchemeChar).map Char.toLower, rest)
      | _ => none

/-- Whether a character counts as a slash. -/
def isSlash (special : Bool) (c : Char) : Bool :=
  c == '/' || (special && c == '\\')

/-- Whether a character ends the part with user, host and port. -/
def endsAuthority (special : Bool) (c : Char) : Bool :=
  isSlash special c || c == '?' || c == '#'

/-- Splits at the last sign that ends a user part, if there is one. -/
def splitUser (authority : List Char) : Option (List Char × List Char) :=
  let reversed := authority.reverse
  match reversed.dropWhile (· != '@') with
  | [] => none
  | _ :: before => some (before.reverse, (reversed.takeWhile (· != '@')).reverse)

/-- The user name and the password of a user part. An empty password is none. -/
def readUser (user : List Char) : List Char × Option (List Char) :=
  let name := encodeText inUserSet (user.takeWhile (· != ':'))
  match (user.dropWhile (· != ':')).drop 1 with
  | [] => (name, none)
  | password => (name, some (encodeText inUserSet password))

/-- Splits the text of a host, up to a colon outside brackets or the end of the
part. -/
def splitHost (special : Bool) : Bool → List Char → List Char × List Char
  | _, [] => ([], [])
  | bracket, c :: rest =>
    if (c == ':' && !bracket) || endsAuthority special c then ([], c :: rest)
    else
      let (host, after) :=
        splitHost special (if c == '[' then true else if c == ']' then false else bracket) rest
      (c :: host, after)

/-- Reads the digits of a port. -/
def readPortDigits : Option Nat → List Char → Parsed (Option Nat)
  | port, [] => .ok (port, [])
  | port, c :: rest =>
    if c.isDigit then
      let value := port.getD 0 * 10 + (c.toNat - 48)
      if 65535 < value then .error .badPort else readPortDigits (some value) rest
    else if endsAuthority true c then .ok (port, c :: rest)
    else .error .badPort

/-- Reads a port after a host. The default port of the scheme is none. -/
def readPort (scheme : List Char) (text : List Char) : Parsed (Option UInt16) :=
  match text with
  | ':' :: rest =>
    (readPortDigits none rest).map fun (port, after) =>
      let port := port.map UInt16.ofNat
      (if port == defaultPort scheme then none else port, after)
  | _ => .ok (none, text)

/-- Whether a segment means the directory itself. -/
def isSingleDot (segment : List Char) : Bool :=
  match segment.map Char.toLower with
  | ['.'] | ['%', '2', 'e'] => true
  | _ => false

/-- Whether a segment means the directory above. -/
def isDoubleDot (segment : List Char) : Bool :=
  match segment.map Char.toLower with
  | ['.', '.'] | ['.', '%', '2', 'e'] | ['%', '2', 'e', '.']
  | ['%', '2', 'e', '%', '2', 'e'] => true
  | _ => false

/-- Whether a segment is a drive letter. -/
def isDriveLetter (segment : List Char) : Bool :=
  match segment with
  | [letter, mark] => letter.isAlpha && (mark == ':' || mark == '|')
  | _ => false

/-- Whether a segment is a drive letter with a colon. -/
def isNormalDriveLetter (segment : List Char) : Bool :=
  match segment with
  | [letter, ':'] => letter.isAlpha
  | _ => false

/-- A path without its last segment, unless that is a drive letter. -/
def shorten (isDrive : List Char → Bool) (segments : List (List Char)) : List (List Char) :=
  if segments.getLast?.any isDrive then segments else segments.dropLast

/-- Adds a finished segment to a path; `slash` tells whether a slash follows it. What
looks like a drive letter is never left, whatever the scheme. -/
def addSegment (kind : SchemeKind) (segments : List (List Char)) (slash : Bool)
    (segment : List Char) : List (List Char) :=
  if isDoubleDot segment then
    let shorter := shorten isDriveLetter segments
    if slash then shorter else shorter ++ [[]]
  else if isSingleDot segment then
    if slash then segments else segments ++ [[]]
  else
    match kind, segments, segment with
    | .file, [], [letter, _] =>
      if isDriveLetter segment then [[letter, ':']] else [segment]
    | _, _, _ => segments ++ [segment]

/-- Reads a path after its leading slash, up to a query or a fragment. The segment
under way is kept encoded. -/
def readPath (kind : SchemeKind) :
    List (List Char) → List Char → List Char → List (List Char) × List Char
  | segments, segment, [] => (addSegment kind segments false segment, [])
  | segments, segment, c :: rest =>
    if c == '?' || c == '#' then (addSegment kind segments false segment, c :: rest)
    else if isSlash kind.isSpecial c then
      readPath kind (addSegment kind segments true segment) [] rest
    else readPath kind segments (segment ++ encodeChar inPathSet c) rest

/-- A path of a file without the empty segments at its start. -/
def dropEmptyStart : List (List Char) → List (List Char)
  | [] :: second :: rest => dropEmptyStart (second :: rest)
  | segments => segments

/-- Reads a path that goes on from given segments. -/
def readPathFrom (kind : SchemeKind) (segments : List (List Char))
    (text : List Char) : List (List Char) × List Char :=
  let (path, rest) := readPath kind segments [] text
  (if kind = .file then dropEmptyStart path else path, rest)

/-- Reads the path after a host. -/
def readPathAfterHost (kind : SchemeKind) (text : List Char) :
    List (List Char) × List Char :=
  match text with
  | [] => if kind.isSpecial then ([[]], []) else ([], [])
  | c :: rest =>
    if isSlash kind.isSpecial c then readPathFrom kind [] rest
    else if kind.isSpecial then readPathFrom kind [] (c :: rest)
    else if c == '?' || c == '#' then ([], c :: rest)
    else readPathFrom kind [] (c :: rest)

/-- Reads an opaque path. -/
def readOpaquePath (text : List Char) : List Char × List Char :=
  let isEnd := fun c : Char => c == '?' || c == '#'
  (encodeText isControlOrForeign (text.takeWhile (!isEnd ·)), text.dropWhile (!isEnd ·))

/-- Reads the query and the fragment. -/
def readTail (special : Bool) (text : List Char) :
    Option (List Char) × Option (List Char) :=
  let (query, rest) := match text with
    | '?' :: after =>
      (some (encodeText (inQuerySet special) (after.takeWhile (· != '#'))),
        after.dropWhile (· != '#'))
    | other => (none, other)
  match rest with
  | '#' :: after => (query, some (encodeText inFragmentSet after))
  | _ => (query, none)

/-- A url with the query and the fragment that a text holds. -/
def Address.withTail (url : Address) (text : List Char) : Address :=
  let (query, fragment) := readTail (kindOf url.scheme).isSpecial text
  { url with query := query, fragment := fragment }

/-- Reads what follows the two slashes of a url. -/
def readAfterSlashes (scheme text : List Char) : Except ParseError Address :=
  let kind := kindOf scheme
  let special := kind.isSpecial
  let authority := text.takeWhile (!endsAuthority special ·)
  let rest := text.dropWhile (!endsAuthority special ·)
  let (user, hostText) := match splitUser authority with
    | some (user, host) => (some user, host ++ rest)
    | none => (none, text)
  if user == some [] && startsAtEnd special hostText then .error .emptyHost
  else
    let (name, password) := readUser (user.getD [])
    let (hostChars, afterHost) := splitHost special false hostText
    if hostChars.isEmpty && (special || afterHost.head? == some ':' ||
        name != [] || password != none) then
      .error .emptyHost
    else
      match (if special then specialHost hostChars else opaqueHost hostChars) with
      | .error e => .error e
      | .ok host =>
        match readPort scheme afterHost with
        | .error e => .error e
        | .ok (port, afterPort) =>
          let (path, tail) := readPathAfterHost kind afterPort
          .ok (Address.withTail
            { scheme := scheme
              username := name
              password := password
              host := some host
              port := port
              path := .segments path } tail)
where
  /-- Whether the text starts with a character that ends the host. -/
  startsAtEnd (special : Bool) (text : List Char) : Bool :=
    match text with
    | c :: _ => endsAuthority special c
    | [] => false

/-- Whether a text starts with a drive letter as its first segment. -/
def startsWithDrive (text : List Char) : Bool :=
  match text with
  | [letter, mark] => isDriveLetter [letter, mark]
  | letter :: mark :: c :: _ => isDriveLetter [letter, mark] && endsAuthority true c
  | _ => false

/-- The host of a file url: empty for the machine itself. -/
def fileHost (text : List Char) : Except ParseError Host :=
  if text.isEmpty then .ok (.domain [])
  else
    match specialHost text with
    | .ok (.domain name) =>
      .ok (.domain (if name = ['l', 'o', 'c', 'a', 'l', 'h', 'o', 's', 't'] then [] else name))
    | other => other

/-- A file url with a path, and with no host if the path starts with a drive. -/
def fileUrl (host : Host) (path : List (List Char)) (tail : List Char) : Address :=
  let host := match path with
    | first :: _ => if isNormalDriveLetter first then .domain [] else host
    | [] => host
  Address.withTail
    { scheme := ['f', 'i', 'l', 'e'], host := some host, path := .segments path } tail

/-- The segments of a path. -/
def Path.list : Path → List (List Char)
  | .segments all => all
  | .opaqueText _ => []

/-- Reads a file url after its colon, relative to another one if there is one. -/
def readFile (base : Option Address) (text : List Char) : Except ParseError Address :=
  match text with
  | c :: rest =>
    if isSlash true c then
      match rest with
      | d :: after =>
        if isSlash true d then
          let hostChars := after.takeWhile (!endsAuthority true ·)
          if isDriveLetter hostChars then
            let (path, tail) := readPathFrom .file [] after
            .ok (fileUrl (.domain []) path tail)
          else
            match fileHost hostChars with
            | .error e => .error e
            | .ok host =>
              let (path, tail) :=
                readPathAfterHost .file (after.dropWhile (!endsAuthority true ·))
              .ok (fileUrl host path tail)
        else rooted rest
      | [] => rooted rest
    else
      match base with
      | some url => relative url c rest
      | none => rooted text
  | [] =>
    match base with
    | some url => .ok { url with fragment := none }
    | none => rooted text
where
  /-- Reads a path from the root, on the host or the drive of the base. -/
  rooted (rest : List Char) : Except ParseError Address :=
    let (host, start) := match base with
      | some url =>
        if startsWithDrive rest then (Host.domain [], [])
        else
          match url.path.list with
          | first :: _ =>
            if isNormalDriveLetter first then (.domain [], [first])
            else (url.host.getD (.domain []), [])
          | [] => (url.host.getD (.domain []), [])
      | none => (.domain [], [])
    let (path, tail) := readPathFrom .file start rest
    .ok (fileUrl host path tail)
  /-- Reads a text that does not start with a slash, relative to a file. -/
  relative (url : Address) (c : Char) (rest : List Char) : Except ParseError Address :=
    if c == '?' then .ok (url.withTail (c :: rest))
    else if c == '#' then
      .ok { url with fragment := some (encodeText inFragmentSet rest) }
    else if startsWithDrive (c :: rest) then
      let (path, tail) := readPathFrom .file [] (c :: rest)
      .ok (fileUrl (.domain []) path tail)
    else
      let (path, tail) := readPathFrom .file (shorten isNormalDriveLetter url.path.list) (c :: rest)
      .ok (fileUrl (url.host.getD (.domain [])) path tail)

/-- Reads a text relative to a url that is neither a file nor opaque. -/
def readRelative (base : Address) (text : List Char) : Except ParseError Address :=
  let kind := kindOf base.scheme
  match text with
  | [] => .ok { base with fragment := none }
  | c :: rest =>
    if c == '?' then .ok (base.withTail text)
    else if c == '#' then
      .ok { base with fragment := some (encodeText inFragmentSet rest) }
    else if isSlash true c then
      let slashes := text.takeWhile (isSlash true)
      if 2 ≤ slashes.length then
        match text with
        | '/' :: '/' :: after => readAfterSlashes base.scheme after
        | _ => readAfterSlashes base.scheme (text.dropWhile (isSlash true))
      else
        let (path, tail) := readPathFrom kind [] rest
        .ok (Address.withTail { base with path := .segments path } tail)
    else
      let (path, tail) := readPathFrom kind (base.path.list.dropLast) text
      .ok (Address.withTail { base with path := .segments path } tail)

/-- Reads a url of another than the special schemes after its colon. -/
def readOther (scheme text : List Char) : Except ParseError Address :=
  match text with
  | '/' :: '/' :: rest => readAfterSlashes scheme rest
  | '/' :: rest =>
    let (path, tail) := readPathFrom .other [] rest
    .ok (Address.withTail { scheme := scheme, path := .segments path } tail)
  | _ =>
    let (path, tail) := readOpaquePath text
    .ok (Address.withTail { scheme := scheme, path := .opaqueText path } tail)

/-- Reads what follows the colon of a scheme. -/
def readWithScheme (base : Option Address) (scheme text : List Char) :
    Except ParseError Address :=
  match kindOf scheme with
  | .file => readFile (base.filter fun url => url.scheme == scheme) text
  | .special =>
    let slashes := text.takeWhile (isSlash true)
    match base with
    | some url =>
      if slashes.length < 2 && url.scheme == scheme then readRelative url text
      else readAfterSlashes scheme (text.dropWhile (isSlash true))
    | none => readAfterSlashes scheme (text.dropWhile (isSlash true))
  | .other => readOther scheme text

/-- Reads a url without a base. -/
def parse (text : List Char) : Except ParseError Address :=
  match readScheme (tidy text) with
  | some (scheme, rest) => readWithScheme none scheme rest
  | none => .error .relativeWithoutBase

/-- Reads a url relative to a base. -/
def join (base : Address) (text : List Char) : Except ParseError Address :=
  let tidied := tidy text
  match readScheme tidied with
  | some (scheme, rest) => readWithScheme (some base) scheme rest
  | none =>
    match tidied with
    | '#' :: rest =>
      .ok { base with fragment := some (encodeText inFragmentSet rest) }
    | _ =>
      if base.isOpaque then .error .relativeToOpaque
      else if kindOf base.scheme = .file then readFile (some base) tidied
      else readRelative base tidied

/-- The origin of a url with a host and a default port. -/
def Address.hostOrigin? (url : Address) : Option Origin := do
  let standard ← defaultPort url.scheme
  let host ← url.host
  some ⟨url.scheme, host, url.port.getD standard⟩

/-- The origin of a url. A url that wraps another one has the origin of that one;
the fuel bounds how often. -/
def originFrom : Nat → Address → Option Origin
  | 0, _ => none
  | fuel + 1, url =>
    if url.scheme = ['b', 'l', 'o', 'b'] then
      match parse url.plainPath with
      | .ok inner => originFrom fuel inner
      | .error _ => none
    else url.hostOrigin?

/-- The origin of a url, if it has one that others can share. -/
def Address.origin? (url : Address) : Option Origin :=
  originFrom (url.chars.length + 1) url

end UtilityBilling.Url
