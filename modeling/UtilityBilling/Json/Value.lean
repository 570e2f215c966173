/-
# JSON values

The dynamic values that list items, task results and request bodies are made of.
Whole numbers between the signed and the unsigned 64-bit bounds stay whole; any
other number is a floating-point number. An object keeps its members in the order
of their keys and has at most one member per key. The compact text has no blanks;
the indented text puts every item and member on a line of its own.
-/

import UtilityBilling.Number.Layout
import UtilityBilling.Text.Blank
import UtilityBilling.Text.Quoted

namespace UtilityBilling.Json

open UtilityBilling.Number

/-- A number: whole between `-2 ^ 63` and `2 ^ 64 - 1`, or floating-point. -/
inductive Num where
  | whole (value : Int)
  | float (value : Binary64)
  deriving DecidableEq, Repr

/-- A JSON value. -/
inductive Value where
  | null
  | bool (value : Bool)
  | number (value : Num)
  | text (value : String)
  | list (items : List Value)
  | object (members : List (String × Value))
  deriving Repr, Inhabited

/-- Adds a member in the order of the keys, in place of one with the same key. -/
def putMember (key : String) (value : Value) :
    List (String × Value) → List (String × Value)
  | [] => [(key, value)]
  | (other, held) :: rest =>
    if key < other then (key, value) :: (other, held) :: rest
    else if key == other then (key, value) :: rest
    else (other, held) :: putMember key value rest

namespace Value

/-- An object of the given members; of two with the same key the later counts. -/
def ofMembers (members : List (String × Value)) : Value :=
  .object (members.foldl (fun held (key, value) => putMember key value held) [])

/-- The member of an object with a given key. -/
def get? (value : Value) (key : String) : Option Value :=
  match value with
  | .object members => members.lookup key
  | _ => none

/-- The members of an object. -/
def members? : Value → Option (List (String × Value))
  | .object members => some members
  | _ => none

/-- The content of a text value. -/
def text? : Value → Option String
  | .text value => some value
  | _ => none

end Value

/-- The text of a number. -/
def Num.chars : Num → List Char
  | .whole (.ofNat n) => Nat.toDigits 10 n
  | .whole (.negSucc n) => '-' :: Nat.toDigits 10 (n + 1)
  | .float value => value.text

/-- The form of one character between the quotes of a JSON text. -/
def escapeChar (c : Char) : List Char :=
  if c == '"' then ['\\', '"']
  else if c == '\\' then ['\\', '\\']
  else if c == '\n' then ['\\', 'n']
  else if c == '\r' then ['\\', 'r']
  else if c == '\t' then ['\\', 't']
  else if c == '\x08' then ['\\', 'b']
  else if c == '\x0c' then ['\\', 'f']
  else if c.toNat < 0x20 then
    ['\\', 'u', '0', '0'] ++
      (if c.toNat < 16 then ['0'] else []) ++ Text.hexDigits c.toNat
  else [c]

/-- A JSON text with its quotes. -/
def quoteChars (text : String) : List Char :=
  '"' :: (text.toList.flatMap escapeChar ++ ['"'])

mutual

/-- The compact text of a value. -/
def Value.chars : Value → List Char
  | .null => ['n', 'u', 'l', 'l']
  | .bool true => ['t', 'r', 'u', 'e']
  | .bool false => ['f', 'a', 'l', 's', 'e']
  | .number n => n.chars
  | .text s => quoteChars s
  | .list items => '[' :: (itemsChars items ++ [']'])
  | .object members => '\x7b' :: (membersChars members ++ ['\x7d'])

/-- The compact text of items with commas between them. -/
def itemsChars : List Value → List Char
  | [] => []
  | [only] => only.chars
  | first :: second :: rest => first.chars ++ ',' :: itemsChars (second :: rest)

/-- The compact text of members with commas between them. -/
def membersChars : List (String × Value) → List Char
  | [] => []
  | [(key, value)] => quoteChars key ++ ':' :: value.chars
  | (key, value) :: second :: rest =>
    quoteChars key ++ ':' :: (value.chars ++ ',' :: membersChars (second :: rest))

end

/-- The compact text of a value. -/
def Value.compact (value : Value) : String :=
  String.ofList value.chars

/-- A line break followed by two blanks for each level. -/
def lineStart (level : Nat) : List Char :=
  '\n' :: List.replicate (2 * level) ' '

mutual

/-- The indented text of a value at a level of nesting. -/
def Value.indentedAt : Nat → Value → List Char
  | _, .null => ['n', 'u', 'l', 'l']
  | _, .bool true => ['t', 'r', 'u', 'e']
  | _, .bool false => ['f', 'a', 'l', 's', 'e']
  | _, .number n => n.chars
  | _, .text s => quoteChars s
  | _, .list [] => ['[', ']']
  | level, .list (first :: rest) =>
    '[' :: (itemsIndented level (first :: rest) ++ lineStart level ++ [']'])
  | _, .object [] => ['\x7b', '\x7d']
  | level, .object (first :: rest) =>
    '\x7b' :: (membersIndented level (first :: rest) ++ lineStart level ++ ['\x7d'])

/-- The items of a list at a level, each on a line of its own one level deeper. -/
def itemsIndented : Nat → List Value → List Char
  | _, [] => []
  | level, [only] => lineStart (level + 1) ++ only.indentedAt (level + 1)
  | level, first :: second :: rest =>
    lineStart (level + 1) ++ first.indentedAt (level + 1) ++
      ',' :: itemsIndented level (second :: rest)

/-- The members of an object at a level, each on a line of its own. -/
def membersIndented : Nat → List (String × Value) → List Char
  | _, [] => []
  | level, [(key, value)] =>
    lineStart (level + 1) ++ quoteChars key ++ ':' :: ' ' ::
      value.indentedAt (level + 1)
  | level, (key, value) :: second :: rest =>
    lineStart (level + 1) ++ quoteChars key ++ ':' :: ' ' ::
      (value.indentedAt (level + 1) ++ ',' :: membersIndented level (second :: rest))

end

/-- The indented text of a value. -/
def Value.indented (value : Value) : String :=
  String.ofList (value.indentedAt 0)

end UtilityBilling.Json
