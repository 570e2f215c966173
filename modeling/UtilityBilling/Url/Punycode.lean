/-
# Punycode

The ASCII form of a domain label with other characters in it. The ASCII characters
of the label stand first; the others follow as a sequence of numbers, each telling
how far to advance to the next code point and place. A number is written in base
36 with the least digit first, and its thresholds adapt to the numbers before it.
-/

namespace UtilityBilling.Url.Punycode

/-- The letter or figure of a digit in base 36. -/
def digit (n : Nat) : Char :=
  if n < 26 then Char.ofNat (97 + n) else Char.ofNat (22 + n)

/-- The digit of a letter or figure. -/
def digit? (c : Char) : Option Nat :=
  if 'a' ≤ c ∧ c ≤ 'z' then some (c.toNat - 97)
  else if 'A' ≤ c ∧ c ≤ 'Z' then some (c.toNat - 65)
  else if '0' ≤ c ∧ c ≤ '9' then some (c.toNat - 22)
  else none

/-- The threshold of the digit at place `k`. -/
def threshold (k bias : Nat) : Nat :=
  if k ≤ bias then 1 else if bias + 26 ≤ k then 26 else k - bias

/-- Divides a step down until it is small and counts the divisions in steps of 36. -/
def settle (delta k : Nat) : Nat × Nat :=
  if 455 < delta then settle (delta / 35) (k + 36) else (delta, k)
termination_by delta
decreasing_by exact Nat.div_lt_self (by omega) (by omega)

/-- The bias after a number. -/
def adapt (delta count : Nat) (first : Bool) : Nat :=
  let start := if first then delta / 700 else delta / 2
  let (rest, k) := settle (start + start / count) 0
  k + 36 * rest / (rest + 38)

/-- The digits of a number; `fuel` is at least its size. -/
def digitsOf (bias : Nat) : Nat → Nat → Nat → List Char
  | 0, _, _ => []
  | fuel + 1, k, n =>
    let t := threshold k bias
    if n < t then [digit n]
    else digit (t + (n - t) % (36 - t)) :: digitsOf bias fuel (k + 36) ((n - t) / (36 - t))

/-- An encoding under way: how far it has advanced, its bias, how many characters
are done, and what is written. -/
structure Encoding where
  delta : Nat
  bias : Nat
  done : Nat
  out : List Char

/-- Advances over one character of the label while code point `n` is placed. -/
def Encoding.pass (n basic : Nat) (e : Encoding) (c : Char) : Encoding :=
  if c.toNat < n then { e with delta := e.delta + 1 }
  else if c.toNat == n then
    { delta := 0
      bias := adapt e.delta (e.done + 1) (e.done == basic)
      done := e.done + 1
      out := e.out ++ digitsOf e.bias (e.delta + 1) 36 e.delta }
  else e

/-- Places the code points of a sorted list, starting from `n`. -/
def Encoding.placeAll (label : List Char) (basic : Nat) :
    List Nat → Nat → Encoding → Encoding
  | [], _, e => e
  | m :: rest, n, e =>
    let advanced := { e with delta := e.delta + (m - n) * (e.done + 1) }
    let passed := label.foldl (Encoding.pass m basic) advanced
    placeAll label basic rest (m + 1) { passed with delta := passed.delta + 1 }

/-- Adds a number to a sorted list without repetitions. -/
def insertSorted (n : Nat) : List Nat → List Nat
  | [] => [n]
  | m :: rest =>
    if n < m then n :: m :: rest
    else if n == m then m :: rest
    else m :: insertSorted n rest

/-- The form of a label without the mark in front of it. -/
def encode (label : List Char) : List Char :=
  let ascii := label.filter fun c => c.toNat < 0x80
  let others := label.foldl
    (fun held c => if 0x80 ≤ c.toNat then insertSorted c.toNat held else held) []
  let basic := ascii.length
  let start : Encoding := ⟨0, 72, basic, []⟩
  let e := start.placeAll label basic others 0x80
  (if basic = 0 then [] else ascii ++ ['-']) ++ e.out

/-- Reads one number: its value added to `i`, and the rest. -/
def readNumber (bias : Nat) : Nat → Nat → Nat → List Char → Option (Nat × List Char)
  | _, _, _, [] => none
  | i, weight, k, c :: rest =>
    match digit? c with
    | none => none
    | some d =>
      let value := i + d * weight
      let t := threshold k bias
      if Nat.pow 2 32 ≤ value then none
      else if d < t then some (value, rest)
      else readNumber bias value (weight * (36 - t)) (k + 36) rest

/-- Inserts a character at a place. -/
def insertAt (place : Nat) (c : Char) (label : List Char) : List Char :=
  label.take place ++ c :: label.drop place

/-- Reads the numbers after the ASCII characters; the fuel is their length. -/
def decodeFrom : Nat → Nat → Nat → Nat → List Char → List Char → Option (List Char)
  | _, _, _, _, label, [] => some label
  | 0, _, _, _, _, _ => none
  | fuel + 1, n, i, bias, label, c :: rest =>
    match readNumber bias i 1 36 (c :: rest) with
    | none => none
    | some (value, after) =>
      let count := label.length + 1
      let code := n + value / count
      let place := value % count
      if 0x110000 ≤ code ∨ (0xD800 ≤ code ∧ code < 0xE000) then none
      else
        decodeFrom fuel code (place + 1) (adapt (value - i) count (i == 0 && n == 0x80))
          (insertAt place (Char.ofNat code) label) after

/-- The label of a form without the mark in front of it. -/
def decode? (form : List Char) : Option (List Char) :=
  let reversed := form.reverse
  let tail := (reversed.takeWhile (· != '-')).reverse
  let ascii :=
    if form.contains '-' then ((reversed.dropWhile (· != '-')).drop 1).reverse else []
  decodeFrom tail.length 0x80 0 72 ascii tail

end UtilityBilling.Url.Punycode
