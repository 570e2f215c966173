/-
# Reading JSON values

A value is read with a bound on its nesting: lists and objects may stand 127 deep.
Members that nobody asks for are passed over by a looser reading that keeps only
the open brackets: it has no bound on nesting and does not look into strings.
-/

import UtilityBilling.Json.Scan

namespace UtilityBilling.Json

open UtilityBilling.Text (Bytes bytesOf)

/-- How deep lists and objects may stand, plus one. -/
def nestingBound : Nat := 128

/-- Whether another item follows in a list, with the rest at that item or at the
closing bracket. -/
def nextItem (first : Bool) (rest : Bytes) : Read Bool :=
  match skipSpace rest with
  | [] => failHere .endInList []
  | 93 :: after => .ok (false, 93 :: after)
  | byte :: after =>
    if first then .ok (true, byte :: after)
    else if byte == 44 then
      match skipSpace after with
      | [] => failHere .endInValue []
      | 93 :: beyond => failNext .trailingComma (93 :: beyond)
      | beyond => .ok (true, beyond)
    else failNext .expectedListEnd (byte :: after)

/-- The end of a list: either its closing bracket, or a fault together with how
far the reading went. -/
def endList (rest : Bytes) : Except (Fault × Bytes) Bytes :=
  match skipSpace rest with
  | [] => .error (⟨.endInList, 0⟩, [])
  | 93 :: after => .ok after
  | 44 :: after =>
    let beyond := skipSpace after
    match beyond with
    | 93 :: _ => .error (⟨.trailingComma, beyond.length - 1⟩, beyond)
    | _ => .error (⟨.trailingCharacters, beyond.length - 1⟩, beyond)
  | other => .error (⟨.trailingCharacters, other.length - 1⟩, other)

/-- Whether another member follows in an object, with the rest at the quote of
its key or at the closing brace. -/
def nextMember (first : Bool) (rest : Bytes) : Read Bool :=
  match skipSpace rest with
  | [] => failHere .endInObject []
  | 125 :: after => .ok (false, 125 :: after)
  | byte :: after =>
    if first then
      if byte == 34 then .ok (true, byte :: after)
      else failNext .keyMustBeString (byte :: after)
    else if byte == 44 then
      match skipSpace after with
      | [] => failHere .endInValue []
      | 34 :: beyond => .ok (true, 34 :: beyond)
      | 125 :: beyond => failNext .trailingComma (125 :: beyond)
      | beyond => failNext .keyMustBeString beyond
    else failNext .expectedObjectEnd (byte :: after)

/-- The end of an object: either its closing brace, or a fault together with how
far the reading went. -/
def endObject (rest : Bytes) : Except (Fault × Bytes) Bytes :=
  match skipSpace rest with
  | [] => .error (⟨.endInObject, 0⟩, [])
  | 125 :: after => .ok after
  | 44 :: after => .error (⟨.trailingComma, after.length⟩, 44 :: after)
  | other => .error (⟨.trailingCharacters, other.length - 1⟩, other)

/-- Reads the colon after a key. -/
def readColon (rest : Bytes) : Except Fault Bytes :=
  match skipSpace rest with
  | [] => failHere .endInObject []
  | 58 :: after => .ok after
  | other => failNext .expectedColon other

mutual

/-- Reads a value. The fuel is more than twice the number of bytes left, and the
second number is how much deeper lists and objects may nest. -/
def readValueFrom : Nat → Nat → Bytes → Read Value
  | 0, _, rest => failHere .expectedValue rest
  | fuel + 1, depth, rest =>
    match skipSpace rest with
    | [] => failHere .endInValue []
    | byte :: after =>
      if byte == 110 then (readWord nullTail after).map fun r => (.null, r)
      else if byte == 116 then (readWord trueTail after).map fun r => (.bool true, r)
      else if byte == 102 then (readWord falseTail after).map fun r => (.bool false, r)
      else if byte == 45 then (readNumber true after).map fun (n, r) => (.number n, r)
      else if isDigitByte byte then
        (readNumber false (byte :: after)).map fun (n, r) => (.number n, r)
      else if byte == 34 then (readString after).map fun (s, r) => (.text s, r)
      else if byte == 91 then
        if depth ≤ 1 then failNext .recursionLimit (byte :: after)
        else
          match readItemsFrom fuel (depth - 1) true after with
          | .error fault => .error fault
          | .ok (items, r) => .ok (.list items, r)
      else if byte == 123 then
        if depth ≤ 1 then failNext .recursionLimit (byte :: after)
        else
          match readMembersFrom fuel (depth - 1) true after with
          | .error fault => .error fault
          | .ok (members, r) => .ok (Value.ofMembers members, r)
      else failNext .expectedValue (byte :: after)

/-- Reads the items of a list and its closing bracket. -/
def readItemsFrom : Nat → Nat → Bool → Bytes → Read (List Value)
  | 0, _, _, rest => failHere .expectedValue rest
  | fuel + 1, depth, first, rest =>
    match nextItem first rest with
    | .error fault => .error fault
    | .ok (false, r) => .ok ([], r.drop 1)
    | .ok (true, r) =>
      match readValueFrom fuel depth r with
      | .error fault => .error fault
      | .ok (item, r) =>
        match readItemsFrom fuel depth false r with
        | .error fault => .error fault
        | .ok (items, r) => .ok (item :: items, r)

/-- Reads the members of an object and its closing brace. -/
def readMembersFrom : Nat → Nat → Bool → Bytes → Read (List (String × Value))
  | 0, _, _, rest => failHere .expectedValue rest
  | fuel + 1, depth, first, rest =>
    match nextMember first rest with
    | .error fault => .error fault
    | .ok (false, r) => .ok ([], r.drop 1)
    | .ok (true, r) =>
      match readString (r.drop 1) with
      | .error fault => .error fault
      | .ok (key, r) =>
        match readColon r with
        | .error fault => .error fault
        | .ok r =>
          match readValueFrom fuel depth r with
          | .error fault => .error fault
          | .ok (value, r) =>
            match readMembersFrom fuel depth false r with
            | .error fault => .error fault
            | .ok (members, r) => .ok ((key, value) :: members, r)

end

/-- Reads a value at a depth. -/
def readValue (depth : Nat) (rest : Bytes) : Read Value :=
  readValueFrom (2 * rest.length + 2) depth rest

/-- An open bracket: of a list or of an object. -/
inductive Bracket where
  | list
  | object
  deriving DecidableEq, Repr

/-- Where a value that is passed over may go on. -/
inductive Passage where
  /-- A value must come. -/
  | value
  /-- The innermost bracket was just opened. -/
  | opened
  /-- A value of the innermost bracket has ended. -/
  | closed
  deriving DecidableEq, Repr

/-- Passes over the key of a member and its colon. -/
def passKey (rest : Bytes) : Except Fault Bytes :=
  match skipSpace rest with
  | [] => failHere .endInObject []
  | 34 :: after =>
    match passString after with
    | .error fault => .error fault
    | .ok beyond => readColon beyond
  | other => failNext .keyMustBeString other

/-- Passes over the rest of a value, given the open brackets, innermost first. -/
def passFrom : Nat → Passage → List Bracket → Bytes → Except Fault Bytes
  | 0, _, _, rest => failHere .expectedValue rest
  | _ + 1, .closed, [], rest => .ok rest
  | _ + 1, .opened, [], rest => .ok rest
  | fuel + 1, .value, open_, rest =>
    match skipSpace rest with
    | [] => failHere .endInValue []
    | byte :: after =>
      if byte == 91 then passFrom fuel .opened (.list :: open_) after
      else if byte == 123 then passFrom fuel .opened (.object :: open_) after
      else
        let token :=
          if byte == 110 then readWord nullTail after
          else if byte == 116 then readWord trueTail after
          else if byte == 102 then readWord falseTail after
          else if byte == 45 then passNumber after
          else if isDigitByte byte then passNumber (byte :: after)
          else if byte == 34 then passString after
          else failNext .expectedValue (byte :: after)
        match token with
        | .error fault => .error fault
        | .ok beyond => passFrom fuel .closed open_ beyond
  | fuel + 1, passage, bracket :: outer, rest =>
    match skipSpace rest with
    | [] => failHere (match bracket with | .list => .endInList | .object => .endInObject) []
    | byte :: after =>
      let closes := match bracket with | .list => byte == 93 | .object => byte == 125
      if passage == .closed && byte == 44 || passage == .opened && !closes then
        let start := if passage == .closed then after else byte :: after
        match bracket with
        | .list => passFrom fuel .value (bracket :: outer) start
        | .object =>
          match passKey start with
          | .error fault => .error fault
          | .ok beyond => passFrom fuel .value (bracket :: outer) beyond
      else if closes then passFrom fuel .closed outer after
      else
        failNext (match bracket with | .list => .expectedListEnd | .object => .expectedObjectEnd)
          (byte :: after)

/-- Passes over a value. -/
def passValue (rest : Bytes) : Except Fault Bytes :=
  passFrom (2 * rest.length + 2) .value [] rest

/-- The end of a text: only blanks may be left. -/
def readEnd (rest : Bytes) : Except Fault Unit :=
  match skipSpace rest with
  | [] => .ok ()
  | other => failNext .trailingCharacters other

/-- Reads a whole text as one thing. -/
def readAll {α : Type} (read : Nat → Bytes → Read α) (input : Bytes) :
    Except Fault α :=
  match read nestingBound input with
  | .error fault => .error fault
  | .ok (result, rest) => (readEnd rest).map fun () => result

/-- Reads a whole text as one thing; a fault is worded and located. -/
def decode {α : Type} (read : Nat → Bytes → Read α) (input : Bytes) :
    Except String α :=
  match readAll read input with
  | .error fault => .error (fault.message input)
  | .ok result => .ok result

/-- The value of a text, if it is a JSON text. -/
def parse? (text : String) : Option Value :=
  match readAll readValue (bytesOf text) with
  | .ok value => some value
  | .error _ => none

end UtilityBilling.Json
