/-
# Quoted texts

Two places show a text between double quotes: diagnostics, which must show every
character however odd, and the session file, which must be readable back. Both
write the usual short escapes, and braces with a hexadecimal number for all that
cannot be shown on its own. They differ in one decision only: the session file
also escapes the single quote.
-/

import UtilityBilling.Text.Printable

namespace UtilityBilling.Text

/-- The small hexadecimal digits of a number, none for zero. -/
def hexDigits (n : Nat) : List Char :=
  Nat.toDigits 16 n

/-- The form of one character between quotes. -/
def escapeChar (escapeSingleQuote : Bool) (c : Char) : List Char :=
  if c == '\x00' then ['\\', '0']
  else if c == '\t' then ['\\', 't']
  else if c == '\r' then ['\\', 'r']
  else if c == '\n' then ['\\', 'n']
  else if c == '"' then ['\\', '"']
  else if c == '\\' then ['\\', '\\']
  else if c == '\x27' then if escapeSingleQuote then ['\\', '\x27'] else [c]
  else if isExtender c || !isPrintable c then
    ['\\', 'u', '\x7b'] ++ hexDigits c.toNat ++ ['\x7d']
  else [c]

/-- A text between double quotes. -/
def quote (escapeSingleQuote : Bool) (text : List Char) : List Char :=
  '"' :: (text.flatMap (escapeChar escapeSingleQuote) ++ ['"'])

/-- A text as diagnostics show it. -/
def quoted (text : String) : String :=
  String.ofList (quote false text.toList)

end UtilityBilling.Text
