/-
# Faults in JSON texts

What can be wrong with a JSON text, the wording of each fault, and where it is. A
fault is located by the number of bytes that were still unread; the line and the
column follow from it and from the text. A column counts the bytes of its line up
to the fault, so 0 means that nothing of the line was read.
-/

import UtilityBilling.Text.Utf8

namespace UtilityBilling.Json

open UtilityBilling.Text (Bytes)

/-- What is wrong with a text. -/
inductive Problem where
  | endInList
  | endInObject
  | endInString
  | endInValue
  | expectedColon
  | expectedListEnd
  | expectedObjectEnd
  | expectedIdent
  | expectedValue
  | invalidEscape
  | invalidNumber
  | numberOutOfRange
  | invalidCodePoint
  | controlCharacter
  | keyMustBeString
  | loneSurrogate
  | trailingComma
  | trailingCharacters
  | unexpectedEndOfHexEscape
  | recursionLimit
  | invalidType (found expected : String)
  | invalidValue (found expected : String)
  | invalidLength (length : Nat) (expected : String)
  | missingField (name : String)
  | duplicateField (name : String)
  deriving DecidableEq, Repr

/-- The wording of a problem. -/
def Problem.message : Problem → String
  | .endInList => "EOF while parsing a list"
  | .endInObject => "EOF while parsing an object"
  | .endInString => "EOF while parsing a string"
  | .endInValue => "EOF while parsing a value"
  | .expectedColon => "expected `:`"
  | .expectedListEnd => "expected `,` or `]`"
  | .expectedObjectEnd => "expected `,` or `\x7d`"
  | .expectedIdent => "expected ident"
  | .expectedValue => "expected value"
  | .invalidEscape => "invalid escape"
  | .invalidNumber => "invalid number"
  | .numberOutOfRange => "number out of range"
  | .invalidCodePoint => "invalid unicode code point"
  | .controlCharacter =>
    "control character (\\u0000-\\u001F) found while parsing a string"
  | .keyMustBeString => "key must be a string"
  | .loneSurrogate => "lone leading surrogate in hex escape"
  | .trailingComma => "trailing comma"
  | .trailingCharacters => "trailing characters"
  | .unexpectedEndOfHexEscape => "unexpected end of hex escape"
  | .recursionLimit => "recursion limit exceeded"
  | .invalidType found expected =>
    "invalid type: " ++ found ++ ", expected " ++ expected
  | .invalidValue found expected =>
    "invalid value: " ++ found ++ ", expected " ++ expected
  | .invalidLength length expected =>
    "invalid length " ++ toString length ++ ", expected " ++ expected
  | .missingField name => "missing field `" ++ name ++ "`"
  | .duplicateField name => "duplicate field `" ++ name ++ "`"

/-- A problem and how many bytes were still unread when it was found. -/
structure Fault where
  problem : Problem
  unread : Nat
  deriving DecidableEq, Repr

/-- The line and the column that reading some bytes leads to. -/
def positionAfter : Nat × Nat → Bytes → Nat × Nat
  | position, [] => position
  | (line, column), byte :: rest =>
    if byte == 10 then positionAfter (line + 1, 0) rest
    else positionAfter (line, column + 1) rest

/-- The wording of a fault in a given text. -/
def Fault.message (fault : Fault) (input : Bytes) : String :=
  let (line, column) :=
    positionAfter (1, 0) (input.take (input.length - fault.unread))
  fault.problem.message ++ " at line " ++ toString line ++ " column " ++ toString column

/-- The result of reading a part of a text: what was read and the rest. -/
abbrev Read (α : Type) := Except Fault (α × Bytes)

/-- A fault at the place reached so far. -/
def failHere {α : Type} (problem : Problem) (rest : Bytes) : Except Fault α :=
  .error ⟨problem, rest.length⟩

/-- A fault at the next byte, which counts as read; at the end, a fault there. -/
def failNext {α : Type} (problem : Problem) (rest : Bytes) : Except Fault α :=
  .error ⟨problem, rest.length - 1⟩

end UtilityBilling.Json
