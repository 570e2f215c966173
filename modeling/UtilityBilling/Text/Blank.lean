/-
# Blank characters and letter case

What counts as a blank throughout the library is the White_Space property of the
Unicode standard: it includes the no-break space and the ideographic space, and
excludes the zero-width space and the byte-order mark. Trimming removes blanks at
both ends. Letter case is that of ASCII alone wherever a keyword is compared.
-/

namespace UtilityBilling.Text

/-- Whether a character is white space. -/
def isBlank (c : Char) : Bool :=
  let code := c.toNat
  (0x9 ≤ code && code ≤ 0xD) || code == 0x20 || code == 0x85 || code == 0xA0 ||
    code == 0x1680 || (0x2000 ≤ code && code ≤ 0x200A) || code == 0x2028 ||
    code == 0x2029 || code == 0x202F || code == 0x205F || code == 0x3000

/-- Drops the blanks at the start. -/
def trimLeft (text : List Char) : List Char :=
  text.dropWhile isBlank

/-- Drops the blanks at the end. -/
def trimRight (text : List Char) : List Char :=
  (text.reverse.dropWhile isBlank).reverse

/-- Drops the blanks at both ends. -/
def trimBoth (text : List Char) : List Char :=
  trimRight (trimLeft text)

/-- A text without the blanks at its two ends. -/
def trim (text : String) : String :=
  String.ofList (trimBoth text.toList)

/-- A text with its ASCII capitals made small. -/
def asciiLower (text : String) : String :=
  String.ofList (text.toList.map Char.toLower)

/-- A text with its small ASCII letters made capital. -/
def asciiUpper (text : String) : String :=
  String.ofList (text.toList.map Char.toUpper)

/-- The texts between the separators, in order; never the empty list. -/
def splitAll (isSeparator : Char → Bool) : List Char → List (List Char)
  | [] => [[]]
  | c :: rest =>
    if isSeparator c then [] :: splitAll isSeparator rest
    else match splitAll isSeparator rest with
      | [] => [[c]]
      | first :: others => (c :: first) :: others

/-- Splits at the first character of a kind and drops that character; nothing if
there is none. -/
def splitFirst (isSeparator : Char → Bool) : List Char → Option (List Char × List Char)
  | [] => none
  | c :: rest =>
    if isSeparator c then some ([], rest)
    else (splitFirst isSeparator rest).map fun (before, after) => (c :: before, after)

/-- The pieces joined by a separator. -/
def joinWith (separator : String) : List String → String
  | [] => ""
  | [only] => only
  | first :: others => first ++ separator ++ joinWith separator others

/-- The rest of a text that starts with `lead`. -/
def dropLead? : List Char → List Char → Option (List Char)
  | [], text => some text
  | _ :: _, [] => none
  | a :: lead, c :: text => if a == c then dropLead? lead text else none

/-- Every appearance of a pattern, from left to right, replaced by a value. The
number counts the characters of the last appearance still to be dropped. -/
def replaceFrom (pattern value : List Char) : Nat → List Char → List Char
  | _, [] => []
  | skip + 1, _ :: rest => replaceFrom pattern value skip rest
  | 0, c :: rest =>
    match dropLead? pattern (c :: rest) with
    | some _ => value ++ replaceFrom pattern value (pattern.length - 1) rest
    | none => c :: replaceFrom pattern value 0 rest

/-- Every appearance of a non-empty pattern replaced by a value. -/
def replaceEvery (pattern value text : List Char) : List Char :=
  replaceFrom pattern value 0 text

end UtilityBilling.Text
