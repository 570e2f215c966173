/-
# Records in JSON

A record is read from an object with known members, or from a list of its fields
in order. A record under construction is a value of a type of its own; each field
says which keys it answers to, whether it is already given, and how to read it.
Unknown members are passed over, a repeated member is a fault, and so is the
absence of a required one.
-/

import UtilityBilling.Json.Reader

namespace UtilityBilling.Json

open UtilityBilling.Number UtilityBilling.Text

/-- How the value of a number shows in a fault. -/
def Num.described (n : Num) : String :=
  match n with
  | .whole _ => "integer `" ++ String.ofList n.chars ++ "`"
  | .float _ => "floating point `" ++ String.ofList n.chars ++ "`"

/-- The fault of finding something of another type than wanted. The value found
is read if it is a word, a number or a string. -/
def wrongType {α : Type} (expected : String) (rest : Bytes) : Except Fault α :=
  match skipSpace rest with
  | [] => failHere .endInValue []
  | byte :: after =>
    let wrong (found : String) (r : Bytes) : Except Fault α :=
      failHere (.invalidType found expected) r
    if byte == 110 then do wrong "null" (← readWord nullTail after)
    else if byte == 116 then do wrong "boolean `true`" (← readWord trueTail after)
    else if byte == 102 then do wrong "boolean `false`" (← readWord falseTail after)
    else if byte == 45 then do
      let (n, r) ← readNumber true after
      wrong n.described r
    else if isDigitByte byte then do
      let (n, r) ← readNumber false (byte :: after)
      wrong n.described r
    else if byte == 34 then do
      let (s, r) ← readString after
      wrong ("string " ++ quoted s) r
    else if byte == 91 then wrong "sequence" (byte :: after)
    else if byte == 123 then wrong "map" (byte :: after)
    else failNext .expectedValue (byte :: after)

/-- Reads a string. -/
def readText (rest : Bytes) : Read String :=
  match skipSpace rest with
  | 34 :: after => readString after
  | other => wrongType "a string" other

/-- Reads a number of any kind. -/
def readAnyNumber (expected : String) (rest : Bytes) : Read Num :=
  match skipSpace rest with
  | 45 :: after => readNumber true after
  | byte :: after =>
    if isDigitByte byte then readNumber false (byte :: after)
    else wrongType expected (byte :: after)
  | [] => failHere .endInValue []

/-- Reads a whole number that fits in 64 bits without a sign. -/
def readUInt64 (rest : Bytes) : Read UInt64 :=
  match readAnyNumber "u64" rest with
  | .error fault => .error fault
  | .ok (.whole (.ofNat n), r) => .ok (UInt64.ofNat n, r)
  | .ok (.whole (.negSucc n), r) =>
    failHere (.invalidValue (Num.whole (.negSucc n)).described "u64") r
  | .ok (.float x, r) => failHere (.invalidType (Num.float x).described "u64") r

/-- The floating-point number nearest to a number. -/
def Num.toBinary64 : Num → Binary64
  | .whole (.ofNat n) => Binary64.ofNat n
  | .whole (.negSucc n) => (Binary64.ofNat (n + 1)).neg
  | .float x => x

/-- Reads a floating-point number. -/
def readFloat (rest : Bytes) : Read Binary64 :=
  (readAnyNumber "f64" rest).map fun (n, r) => (n.toBinary64, r)

/-- Reads `null` as nothing and anything else as `read` does. -/
def readOptional {α : Type} (read : Bytes → Read α) (rest : Bytes) : Read (Option α) :=
  match skipSpace rest with
  | 110 :: after => (readWord nullTail after).map fun r => (none, r)
  | other => (read other).map fun (value, r) => (some value, r)

/-- Reads a list of values. -/
def readValues (depth : Nat) (rest : Bytes) : Read (List Value) :=
  match skipSpace rest with
  | 91 :: after =>
    if depth ≤ 1 then failNext .recursionLimit (91 :: after)
    else readItemsFrom (2 * after.length + 2) (depth - 1) true after
  | other => wrongType "a sequence" other

/-- A field of a record that is read into a `σ`. -/
structure Field (σ : Type) where
  name : String
  /-- The keys that the field answers to; its name is the first. -/
  keys : List String
  required : Bool
  /-- Whether the field is given in a record under construction. -/
  isGiven : σ → Bool
  /-- Reads the field at a depth and tells how it enters the record. -/
  read : Nat → Bytes → Read (σ → σ)

/-- The name of a record and its fields in order. -/
structure Shape (σ : Type) where
  name : String
  fields : List (Field σ)

/-- The type that faults about a record as a whole name. -/
def Shape.described {σ : Type} (shape : Shape σ) : String :=
  "struct " ++ shape.name

/-- The number of fields, as faults about short lists word it. -/
def Shape.size {σ : Type} (shape : Shape σ) : String :=
  let count := shape.fields.length
  shape.described ++ " with " ++ toString count ++
    (if count = 1 then " element" else " elements")

/-- Ends a record after a fault of the record itself: the fault stands where the
closing bracket was looked for. -/
def failAfter {α : Type} (close : Bytes → Except (Fault × Bytes) Bytes)
    (problem : Problem) (rest : Bytes) : Except Fault α :=
  match close rest with
  | .ok after => failHere problem after
  | .error (_, after) => failHere problem after

/-- Ends a record that was read without a fault. -/
def closeRecord {α : Type} (close : Bytes → Except (Fault × Bytes) Bytes)
    (result : α) (rest : Bytes) : Read α :=
  match close rest with
  | .ok after => .ok (result, after)
  | .error (fault, _) => .error fault

/-- Reads the fields of a record from the items of a list, in order. Fields that
are not required may be missing at the end. -/
def readListed {σ : Type} (size : String) (depth : Nat) :
    Nat → Bool → List (Field σ) → σ → Bytes → Read σ
  | _, _, [], record, rest => closeRecord endList record rest
  | index, first, field :: others, record, rest =>
    match nextItem first rest with
    | .error fault => .error fault
    | .ok (false, r) =>
      if field.required then failAfter endList (.invalidLength index size) r
      else readListed size depth (index + 1) first others record r
    | .ok (true, r) =>
      match field.read depth r with
      | .error fault => .error fault
      | .ok (enter, r) =>
        readListed size depth (index + 1) false others (enter record) r

/-- The first required field that is not given. -/
def missing? {σ : Type} (fields : List (Field σ)) (record : σ) : Option (Field σ) :=
  fields.find? fun field => field.required && !field.isGiven record

/-- Reads the members of a record and its closing brace. The fuel is more than
the number of bytes left. -/
def readNamed {σ : Type} (fields : List (Field σ)) (depth : Nat) :
    Nat → Bool → σ → Bytes → Read σ
  | 0, _, _, rest => failHere .expectedValue rest
  | fuel + 1, first, record, rest =>
    match nextMember first rest with
    | .error fault => .error fault
    | .ok (false, r) =>
      match missing? fields record with
      | some field => failAfter endObject (.missingField field.name) r
      | none => closeRecord endObject record r
    | .ok (true, r) =>
      match readString (r.drop 1) with
      | .error fault => .error fault
      | .ok (key, r) =>
        match fields.find? fun field => field.keys.contains key with
        | some field =>
          if field.isGiven record then
            failAfter endObject (.duplicateField field.name) r
          else
            match readColon r with
            | .error fault => .error fault
            | .ok r =>
              match field.read depth r with
              | .error fault => .error fault
              | .ok (enter, r) => readNamed fields depth fuel false (enter record) r
        | none =>
          match readColon r with
          | .error fault => .error fault
          | .ok r =>
            match passValue r with
            | .error fault => .error fault
            | .ok r => readNamed fields depth fuel false record r

/-- Reads a record, starting from one without fields. -/
def readRecord {σ : Type} (shape : Shape σ) (start : σ) (depth : Nat) (rest : Bytes) :
    Read σ :=
  match skipSpace rest with
  | [] => failHere .endInValue []
  | 91 :: after =>
    if depth ≤ 1 then failNext .recursionLimit (91 :: after)
    else readListed shape.size (depth - 1) 0 true shape.fields start after
  | 123 :: after =>
    if depth ≤ 1 then failNext .recursionLimit (123 :: after)
    else readNamed shape.fields (depth - 1) (after.length + 1) true start after
  | other => wrongType shape.described other

end UtilityBilling.Json
