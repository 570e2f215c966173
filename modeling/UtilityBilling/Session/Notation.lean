/-
# The notation of session files

A session file holds one record of named fields in parentheses. Blanks and comments
may stand between any two tokens, the name of the record may stand in front, and
attributes that switch on extensions in front of that. Fields that the record does
not have are passed over, whatever value they hold: words, numbers, characters,
texts, lists, maps, and records of any name.
-/

import UtilityBilling.Text.Blank
import UtilityBilling.Text.Quoted
import UtilityBilling.Text.Utf8
import UtilityBilling.Url.Percent

namespace UtilityBilling.Session.Notation

open UtilityBilling.Text

/-- Whether a character may stand between tokens. -/
def isSpace (c : Char) : Bool :=
  c == ' ' || c == '\t' || c == '\n' || c == '\r' || c == '\x0b' || c == '\x0c' ||
    c == '\u0085' || c == '\u200e' || c == '\u200f' || c == '\u2028' || c == '\u2029'

/-- The text after a block comment that is open to a depth. -/
def closeComment : Nat → List Char → Option (List Char)
  | _, [] => none
  | _, [_] => none
  | depth, a :: b :: rest =>
    if a == '*' && b == '/' then
      if depth ≤ 1 then some rest else closeComment (depth - 1) rest
    else if a == '/' && b == '*' then closeComment (depth + 1) rest
    else closeComment depth (b :: rest)

/-- Drops blanks and comments; nothing if a comment is never closed. The fuel is
the number of characters. -/
def skipFrom : Nat → List Char → Option (List Char)
  | 0, text => some text
  | _ + 1, [] => some []
  | fuel + 1, c :: rest =>
    if isSpace c then skipFrom fuel rest
    else
      match c, rest with
      | '/', '/' :: after => skipFrom fuel (after.dropWhile (· != '\n'))
      | '/', '*' :: after => (closeComment 1 after).bind (skipFrom fuel)
      | _, _ => if c == '/' then none else some (c :: rest)

/-- Drops blanks and comments. -/
def skip (text : List Char) : Option (List Char) :=
  skipFrom (text.length + 1) text

/-- Reads a character and drops what may stand after it. -/
def token (c : Char) (text : List Char) : Option (List Char) :=
  match text with
  | d :: rest => if d == c then skip rest else none
  | [] => none

/-- Whether a name may start with a character. -/
def startsName (c : Char) : Bool :=
  c.isAlpha || c == '_' || (0x80 ≤ c.toNat && isPrintable c && !isExtender c)

/-- Whether a name may go on with a character. -/
def continuesName (c : Char) : Bool :=
  c.isAlphanum || c == '_' || (0x80 ≤ c.toNat && isPrintable c)

/-- Whether a raw name may go on with a character. -/
def continuesRawName (c : Char) : Bool :=
  continuesName c || c == '.' || c == '+' || c == '-'

/-- Reads a name. -/
def name (text : List Char) : Option (String × List Char) :=
  match text with
  | 'r' :: '#' :: rest =>
    let run := rest.takeWhile continuesRawName
    if run.isEmpty then none else some (String.ofList run, rest.drop run.length)
  | c :: _ =>
    if startsName c then
      let run := text.takeWhile continuesName
      some (String.ofList run, text.drop run.length)
    else none
  | [] => none

/-- The value of a hexadecimal digit. -/
def hex? (c : Char) : Option Nat :=
  if c.toNat < 0x80 then Url.hexValue? (UInt8.ofNat c.toNat) else none

/-- Reads up to `most` hexadecimal digits up to a closing brace: how many they are
and their value. -/
def hexRun : Nat → Nat → List Char → Option (Nat × Nat × List Char)
  | _, value, '\x7d' :: rest => some (0, value, rest)
  | 0, _, _ => none
  | most + 1, value, c :: rest =>
    match hex? c with
    | some d => (hexRun most (value * 16 + d) rest).map fun (count, n, r) => (count + 1, n, r)
    | none => none
  | _ + 1, _, [] => none

/-- The character with a code, if it is one. -/
def charOf? (code : Nat) : Option Char :=
  if code < 0xD800 ∨ (0xE000 ≤ code ∧ code < 0x110000) then some (Char.ofNat code) else none

/-- Reads the two digits of an escaped byte. -/
def byteEscape (text : List Char) : Option (UInt8 × List Char) :=
  match text with
  | a :: b :: rest =>
    match hex? a, hex? b with
    | some high, some low => some (UInt8.ofNat (high * 16 + low), rest)
    | _, _ => none
  | _ => none

/-- Reads escaped bytes until they make a character. -/
def escapedChar : Nat → Bytes → List Char → Option (Char × List Char)
  | 0, _, _ => none
  | more + 1, held, text =>
    match byteEscape text with
    | none => none
    | some (byte, rest) =>
      match Utf8.decode? (held ++ [byte]) with
      | some [c] => some (c, rest)
      | _ =>
        match rest with
        | '\\' :: 'x' :: after => escapedChar more (held ++ [byte]) after
        | _ => none

/-- Reads an escape after its backslash. -/
def escape (text : List Char) : Option (Char × List Char) :=
  match text with
  | '\x27' :: rest => some ('\x27', rest)
  | '"' :: rest => some ('"', rest)
  | '\\' :: rest => some ('\\', rest)
  | 'n' :: rest => some ('\n', rest)
  | 'r' :: rest => some ('\r', rest)
  | 't' :: rest => some ('\t', rest)
  | '0' :: rest => some ('\x00', rest)
  | 'x' :: rest => escapedChar 4 [] rest
  | 'u' :: '\x7b' :: rest =>
    match hexRun 6 0 rest with
    | some (0, _, _) => none
    | some (_, code, after) => (charOf? code).map fun c => (c, after)
    | none => none
  | _ => none

/-- Reads a text after its opening quote, collecting its characters in reverse. The
fuel is the number of characters. -/
def textFrom : Nat → List Char → List Char → Option (String × List Char)
  | 0, _, _ => none
  | _ + 1, _, [] => none
  | fuel + 1, held, c :: rest =>
    if c == '"' then some (String.ofList held.reverse, rest)
    else if c == '\\' then
      match escape rest with
      | some (d, after) => textFrom fuel (d :: held) after
      | none => none
    else textFrom fuel (c :: held) rest

/-- Reads a raw text after its opening quote, up to a quote and the given marks. -/
def rawFrom (marks : List Char) : List Char → List Char → Option (String × List Char)
  | _, [] => none
  | held, c :: rest =>
    if c == '"' && marks.isPrefixOf rest then
      some (String.ofList held.reverse, rest.drop marks.length)
    else rawFrom marks (c :: held) rest

/-- Reads a text, plain or raw. -/
def text (source : List Char) : Option (String × List Char) :=
  match source with
  | '"' :: rest => textFrom (rest.length + 1) [] rest
  | 'r' :: rest =>
    let marks := rest.takeWhile (· == '#')
    match rest.drop marks.length with
    | '"' :: body => rawFrom marks [] body
    | _ => none
  | _ => none

/-- Whether a character may stand in a number. -/
def isNumberChar (c : Char) : Bool :=
  c.isAlphanum || c == '_' || c == '.' || c == '+' || c == '-'

/-- Drops digits of a base and the marks that group them; at least one digit. -/
def digitsOf (base : Nat) (chars : List Char) : Option (List Char) :=
  let isDigit := fun c => match hex? c with
    | some d => decide (d < base)
    | none => false
  match chars with
  | c :: rest => if isDigit c then some (rest.dropWhile fun d => isDigit d || d == '_') else none
  | [] => none

/-- The suffixes that name the type of a number. -/
def numberSuffixes : List String :=
  ["", "i8", "i16", "i32", "i64", "i128", "u8", "u16", "u32", "u64", "u128", "f32", "f64"]

/-- Whether the characters after the digits of a number end it properly. -/
def endsNumber (chars : List Char) : Bool :=
  numberSuffixes.contains (String.ofList chars)

/-- Whether the characters are the exponent of a number, or nothing. -/
def endsExponent (chars : List Char) : Bool :=
  match chars with
  | 'e' :: rest | 'E' :: rest =>
    let digits := match rest with
      | '+' :: r | '-' :: r => r
      | r => r
    match digitsOf 10 digits with
    | some after => endsNumber after
    | none => false
  | _ => endsNumber chars

/-- Whether characters without a sign are a number. -/
def isNumber (chars : List Char) : Bool :=
  match chars with
  | '0' :: 'x' :: rest => (digitsOf 16 rest).any endsNumber
  | '0' :: 'b' :: rest => (digitsOf 2 rest).any endsNumber
  | '0' :: 'o' :: rest => (digitsOf 8 rest).any endsNumber
  | '.' :: rest => (digitsOf 10 rest).any endsExponent
  | _ =>
    match digitsOf 10 chars with
    | some ('.' :: rest) =>
      endsExponent (rest.dropWhile fun c => c.isDigit || c == '_')
    | some rest => endsExponent rest
    | none => String.ofList chars == "inf" || String.ofList chars == "NaN"

/-- Passes over a number. -/
def passNumber (chars : List Char) : Option (List Char) :=
  let run := chars.takeWhile isNumberChar
  let unsigned := match run with
    | '+' :: rest | '-' :: rest => rest
    | rest => rest
  if isNumber unsigned then some (chars.drop run.length) else none

/-- Passes over a character between single quotes. -/
def passChar (chars : List Char) : Option (List Char) :=
  match chars with
  | '\\' :: rest =>
    match escape rest with
    | some (_, '\x27' :: after) => some after
    | _ => none
  | _ :: '\x27' :: after => some after
  | _ => none

/-- The character that closes a bracket. -/
def closing (c : Char) : Char :=
  if c == '(' then ')' else if c == '[' then ']' else '\x7d'

/-- Whether the entries in parentheses have names. -/
def isNamed (chars : List Char) : Bool :=
  match name chars with
  | some (_, rest) =>
    match skip rest with
    | some (':' :: _) => true
    | _ => false
  | none => false

mutual

/-- Passes over a value. The fuel bounds the number of tokens, the second number
how deep values may still nest. -/
def passValue : Nat → Nat → List Char → Option (List Char)
  | 0, _, _ => none
  | _, 0, _ => none
  | fuel + 1, depth + 1, chars =>
    match chars with
    | [] => none
    | '"' :: _ => (text chars).map Prod.snd
    | 'b' :: '"' :: rest => (text ('"' :: rest)).map Prod.snd
    | 'b' :: '\x27' :: rest => passChar rest
    | '\x27' :: rest => passChar rest
    | '(' :: rest => passEntries fuel depth '(' (isNamed ((skip rest).getD [])) rest
    | '[' :: rest => passEntries fuel depth '[' false rest
    | '\x7b' :: rest => passEntries fuel depth '\x7b' true rest
    | c :: _ =>
      if c.isDigit || c == '+' || c == '-' || c == '.' then passNumber chars
      else if c == 'r' && (text chars).isSome then (text chars).map Prod.snd
      else
        match name chars with
        | none => none
        | some (_, after) =>
          match skip after with
          | some ('(' :: rest) =>
            passEntries fuel depth '(' (isNamed ((skip rest).getD [])) rest
          | _ => some after

/-- Passes over the entries after an opening bracket, up to its closing one. -/
def passEntries : Nat → Nat → Char → Bool → List Char → Option (List Char)
  | 0, _, _, _, _ => none
  | fuel + 1, depth, bracket, keyed, chars =>
    match skip chars with
    | none => none
    | some [] => none
    | some (c :: rest) =>
      if c == closing bracket then some rest
      else
        let start :=
          if keyed then
            let key :=
              if bracket == '(' then (name (c :: rest)).map Prod.snd
              else passValue fuel depth (c :: rest)
            match key.bind skip with
            | some (':' :: after) => skip after
            | _ => none
          else some (c :: rest)
        match start.bind (passValue fuel depth) with
        | none => none
        | some after =>
          match skip after with
          | some (',' :: more) => passEntries fuel depth bracket keyed more
          | some (d :: more) => if d == closing bracket then some more else none
          | _ => none

end

/-- How deep values may nest. -/
def nestingBound : Nat := 128

/-- Passes over a value. -/
def pass (chars : List Char) : Option (List Char) :=
  passValue (2 * chars.length + 2) nestingBound chars

/-- The extensions that an attribute may switch on. -/
def extensions : List String :=
  ["unwrap_newtypes", "implicit_some", "unwrap_variant_newtypes", "explicit_struct_names"]

/-- The extension that makes the name of a record obligatory. -/
def namesRequired : String := "explicit_struct_names"

/-- Reads the names of extensions up to the closing parenthesis. -/
def extensionNames : Nat → List Char → Option (List String × List Char)
  | 0, _ => none
  | fuel + 1, chars => do
    let (extension, rest) ← name chars
    if !extensions.contains extension then none
    else
      match ← skip rest with
      | ',' :: more =>
        match ← skip more with
        | ')' :: after => some ([extension], ')' :: after)
        | after => (extensionNames fuel after).map fun (others, r) => (extension :: others, r)
      | other => some ([extension], other)

/-- Reads the characters of a word, with blanks allowed after it. -/
def word (letters : List Char) (chars : List Char) : Option (List Char) :=
  match dropLead? letters chars with
  | some rest => skip rest
  | none => none

/-- Reads the attributes at the start of a file: the extensions they switch on. -/
def attributes : Nat → List Char → Option (List String × List Char)
  | 0, _ => none
  | fuel + 1, chars =>
    match chars with
    | '#' :: _ => do
      let r ← word ['#'] chars
      let r ← word ['!'] r
      let r ← word ['['] r
      let r ← word ['e', 'n', 'a', 'b', 'l', 'e'] r
      let r ← word ['('] r
      let (found, r) ← extensionNames (r.length + 1) r
      let r ← word [')'] r
      let r ← word [']'] r
      let (others, r) ← attributes fuel r
      some (found ++ others, r)
    | _ => some ([], chars)

/-- Reads the fields of a record up to its closing parenthesis: the texts of the
known fields, each at most once. -/
def fields (known : List String) :
    Nat → List (String × String) → List Char → Option (List (String × String) × List Char)
  | 0, _, _ => none
  | fuel + 1, held, chars =>
    match chars with
    | ')' :: rest => some (held, rest)
    | _ => do
      let (key, r) ← name chars
      let r ← token ':' (← skip r)
      let (held, r) ←
        if known.contains key then
          if (held.lookup key).isSome then none
          else do
            let (value, r) ← text r
            some (held ++ [(key, value)], r)
        else (pass r).map fun r => (held, r)
      match ← skip r with
      | ',' :: more => do fields known fuel held (← skip more)
      | ')' :: rest => some (held, rest)
      | _ => none

/-- Reads a record of texts that makes up a whole file. -/
def record (recordName : String) (known : List String) (source : String) :
    Option (List (String × String)) := do
  let r ← skip source.toList
  let (switched, r) ← attributes (r.length + 1) r
  let r ← match name r with
    | some (found, after) => if found = recordName then skip after else none
    | none => if switched.contains namesRequired then none else some r
  let r ← token '(' r
  let (found, r) ← fields known (r.length + 1) [] r
  let r ← skip r
  if r.isEmpty then some found else none

end UtilityBilling.Session.Notation
