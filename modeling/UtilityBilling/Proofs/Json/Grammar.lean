/-
# What is read as a number or a word

A text is read as a number only if it is a number literal with blanks around it, and as null
or a boolean only if it is one of the three words with blanks around it. So a literal and a word
are told from every other text by what is read.
-/

import Mathlib.Data.List.TakeWhile
import Mathlib.Tactic.SplitIfs
import UtilityBilling.Proofs.Json.Literal
import UtilityBilling.Proofs.Json.Records

namespace UtilityBilling.Json

open UtilityBilling.Number UtilityBilling.Text

variable {negative : Bool} {after : Bytes}

/-! ## Nothing else is read -/

/-- A reading is refused. -/
def Fails {α : Type} (result : Except Fault α) : Prop :=
  ∃ fault, result = .error fault

theorem Fails.ne_ok {α : Type} {result : Except Fault α} (fails : Fails result) (value : α) :
    result ≠ .ok value := by
  obtain ⟨fault, rfl⟩ := fails
  exact fun same => by cases same

theorem Fails.map {α β : Type} {result : Except Fault α} (fails : Fails result) (f : α → β) :
    Fails (result.map f) := by
  obtain ⟨fault, rfl⟩ := fails
  exact ⟨fault, rfl⟩

theorem fails_readExponentDigits {isNegative : Bool} (digits : Nat) (scale : Int)
    (stops : NoDigit after) :
    Fails (readExponentDigits negative digits scale isNegative after) := by
  cases after with
  | nil => exact ⟨_, rfl⟩
  | cons byte after =>
      rw [readExponentDigits, stops.digitOf?]
      exact ⟨_, rfl⟩

/-- After its sign an exponent needs a digit. -/
theorem exists_exponentDigits (isNegative : Bool) (rest : Bytes) :
    (∀ negative digits scale,
        Fails (readExponentDigits negative digits scale isNegative rest)) ∨
      ∃ digits : List (Fin 10), digits ≠ [] ∧
        ∃ after, rest = digits.map digitByte ++ after ∧ NoDigit after := by
  obtain ⟨digits, after, rfl, stops⟩ := exists_digits rest
  by_cases none_ : digits = []
  · subst none_
    exact .inl fun negative digits scale => fails_readExponentDigits digits scale stops
  · exact .inr ⟨digits, none_, after, rfl, stops⟩

/-- What starts with the mark of an exponent is refused or starts with an exponent. -/
theorem exists_exponent {rest : Bytes} (marked : startsWith isExponentMark rest = true) :
    (∀ negative digits scale, Fails (readExponent negative digits scale rest)) ∨
      ∃ e : Exponent, ∃ after, rest = Utf8.encode e.chars ++ after ∧ NoDigit after := by
  obtain ⟨mark, rest, rfl⟩ : ∃ mark tail, rest = mark :: tail := by
    cases rest with
    | nil => cases marked
    | cons mark tail => exact ⟨mark, tail, rfl⟩
  obtain ⟨capital, rfl⟩ : ∃ capital : Bool, mark = if capital then 69 else 101 := by
    rcases Bool.or_eq_true_iff.mp marked with small | large
    · exact ⟨false, eq_of_beq small⟩
    · exact ⟨true, eq_of_beq large⟩
  have written (sign : Option Bool) {digits : List (Fin 10)} (some_ : digits ≠ []) (after : Bytes) :
      (if capital then 69 else 101) :: (signBytes sign ++ (digits.map digitByte ++ after)) =
        Utf8.encode (Exponent.mk capital sign digits some_).chars ++ after := by
    rw [Exponent.encode_chars, List.cons_append, List.append_assoc]
  by_cases signed : ∃ minus after, rest = signBytes (some minus) ++ after
  · obtain ⟨minus, unsigned, rfl⟩ := signed
    rcases exists_exponentDigits minus unsigned with fails | ⟨digits, some_, after, rfl, stops⟩
    · refine .inl fun negative digits scale => ?_
      cases minus <;> exact fails negative digits scale
    · exact .inr ⟨_, after, written (some minus) some_ after, stops⟩
  · rcases exists_exponentDigits false rest with fails | ⟨digits, some_, after, rfl, stops⟩
    · refine .inl fun negative digits scale => ?_
      rw [readExponent, List.drop_one, List.tail_cons]
      split
      case h_1 unsigned => exact absurd ⟨false, unsigned, rfl⟩ signed
      case h_2 unsigned => exact absurd ⟨true, unsigned, rfl⟩ signed
      case h_3 => exact fails negative digits scale
    · exact .inr ⟨_, after, written none some_ after, stops⟩

/-- What follows the digits of a floating-point number is refused, or an exponent that may be
missing stands there. -/
theorem exists_exponent? {rest : Bytes} (stops : NoDigit rest) :
    (∀ negative digits scale, Fails (finishFloat negative digits scale rest) ∧
        startsWith isExponentMark rest = true ∧ Fails (readExponent negative digits scale rest)) ∨
      ∃ exponent, ∃ after, rest = Utf8.encode (exponentChars exponent) ++ after ∧ NoDigit after ∧
        (exponent = none → startsWith isExponentMark after = false) := by
  cases marked : startsWith isExponentMark rest with
  | false => exact .inr ⟨none, rest, rfl, stops, fun _ => marked⟩
  | true =>
      rcases exists_exponent marked with fails | ⟨e, after, rfl, ends⟩
      · refine .inl fun negative digits scale => ⟨?_, rfl, fails negative digits scale⟩
        rw [finishFloat, if_pos marked]
        exact fails negative digits scale
      · exact .inr ⟨some e, after, rfl, ends, fun none_ => by cases none_⟩

/-- What starts with a point is refused or starts with places. -/
theorem exists_places (rest : Bytes) :
    (∀ negative n scale, Fails (readPlaces negative n scale (46 :: rest))) ∨
      ∃ places : List (Fin 10), places ≠ [] ∧ ∃ exponent, ∃ after,
        rest = places.map digitByte ++ (Utf8.encode (exponentChars exponent) ++ after) ∧
          NoDigit after ∧ (exponent = none → startsWith isExponentMark after = false) := by
  obtain ⟨places, beyond, rfl, stops⟩ := exists_digits rest
  by_cases none_ : places = []
  · subst none_
    refine .inl fun negative n scale => ?_
    rw [readPlaces, List.drop_one, List.tail_cons, placesOf_digits n 0 [] stops, fit]
    dsimp only
    rw [if_pos (by simp)]
    exact ⟨_, rfl⟩
  · rcases exists_exponent? stops with fails | ⟨exponent, after, rfl, ends, noMark⟩
    · refine .inl fun negative n scale => ?_
      have length : 0 < places.length := List.length_pos_iff.mpr none_
      rw [readPlaces, List.drop_one, List.tail_cons, placesOf_digits n 0 places stops]
      dsimp only
      rw [if_neg]
      · exact (fails _ _ _).1
      · simp only [List.length_append, List.length_map, Bool.and_eq_true, decide_eq_true_eq,
          beq_iff_eq]
        omega
    · exact .inr ⟨places, none_, exponent, after, rfl, ends, noMark⟩

namespace Literal

/-- What follows digits is refused as the end of a number, or a literal of these digits ends
there. -/
theorem exists_tail {rest : Bytes} (stops : NoDigit rest) {whole : List (Fin 10)}
    (written : whole ≠ []) (plain : whole.head? = some 0 → whole = [0]) (sign : Bool) :
    (∀ negative n, ∀ left : List (Fin 10), Fails (finishNumber negative n rest) ∧
        Fails (readLongWhole negative n (left.map digitByte ++ rest))) ∨
      ∃ l : Literal, l.negative = sign ∧ l.whole = whole ∧
        ∃ after, rest = l.tail after ∧ l.Ends after := by
  cases pointed : startsWith (· == 46) rest with
  | true =>
      obtain ⟨rest, rfl⟩ : ∃ tail, rest = 46 :: tail := by
        cases rest with
        | nil => cases pointed
        | cons byte tail => exact ⟨tail, congrArg (· :: tail) (eq_of_beq pointed)⟩
      rcases exists_places rest with fails | ⟨places, some_, exponent, after, rfl, ends, noMark⟩
      · refine .inl fun negative n left => ⟨(fails negative n 0).map _, ?_⟩
        rw [readLongWhole, takeWhile_digits left stops, dropWhile_digits left stops]
        exact fails negative n _
      · refine .inr ⟨⟨sign, whole, places, exponent, written, plain⟩, rfl, rfl, after, ?_, ?_⟩
        · rw [tail_of_places some_]
        · exact ⟨ends, noMark, fun whole => absurd whole.1 some_⟩
  | false =>
      rcases exists_exponent? stops with fails | ⟨exponent, after, rfl, ends, noMark⟩
      · refine .inl fun negative n left => ⟨?_, ?_⟩
        · rw [finishNumber, pointed, if_neg Bool.false_ne_true, if_pos (fails negative n 0).2.1]
          exact (fails negative n 0).2.2.map _
        · rw [readLongWhole, takeWhile_digits left stops, dropWhile_digits left stops, pointed]
          exact (fails negative n _).1
      · refine .inr ⟨⟨sign, whole, [], exponent, written, plain⟩, rfl, rfl, after, rfl,
          ends, noMark, fun whole => ?_⟩
        obtain rfl : exponent = none := Option.isNone_iff_eq_none.mp whole.2
        exact pointed

/-- What is read as a number starts with a literal. -/
theorem exists_of_readNumber {n : Num} {rest : Bytes}
    (read : readNumber negative rest = .ok (n, after)) :
    ∃ l : Literal, l.negative = negative ∧ rest = Utf8.encode l.unsigned ++ after ∧
      l.num? = some n := by
  obtain ⟨whole, beyond, rfl, stops⟩ := exists_digits rest
  rcases whole with _ | ⟨d, digits⟩
  · cases beyond with
    | nil => cases read
    | cons byte beyond =>
        rw [List.map_nil, List.nil_append, readNumber, stops.digitOf?] at read
        cases read
  by_cases plain : (d :: digits).head? = some 0 → d :: digits = [0]
  · rcases exists_tail stops (List.cons_ne_nil d digits) plain negative with
      fails | ⟨l, rfl, same, rest, rfl, ends⟩
    · rw [readNumber_digits _ (List.cons_ne_nil d digits) plain stops,
        readWhole_digits _ 0 (d :: digits) stops] at read
      obtain ⟨finish, long⟩ := fails negative (fit 0 (d :: digits)).1 (fit 0 (d :: digits)).2
      split at read
      · exact absurd read (finish.ne_ok _)
      · exact absurd read ((long.map _).ne_ok _)
    · have finds := ends.finds_readNumber
      rw [encode_unsigned, same, read] at finds
      cases found : l.num? with
      | none =>
          rw [found] at finds
          obtain ⟨unread, fault⟩ := finds
          cases fault
      | some m =>
          rw [found] at finds
          cases finds
          exact ⟨l, rfl, by rw [encode_unsigned, same], found⟩
  · -- A leading zero does not stand alone.
    obtain ⟨zero, more⟩ := Classical.not_imp.mp plain
    obtain rfl : d = 0 := Option.some.inj zero
    obtain ⟨e, digits, rfl⟩ : ∃ e rest, digits = e :: rest :=
      List.exists_cons_of_ne_nil fun none_ => more (congrArg _ none_)
    change (if startsWith isDigitByte (digitByte e :: _) then failNext .invalidNumber _
      else _) = _ at read
    rw [startsWith, if_pos (isDigitByte_digitByte e)] at read
    cases read

end Literal

/-! ## A text is that of one literal -/

/-- Digits and what follows them are told apart. -/
theorem digits_unique {first second : List (Fin 10)} {afterFirst afterSecond : Bytes}
    (firstStops : NoDigit afterFirst) (secondStops : NoDigit afterSecond)
    (same : first.map digitByte ++ afterFirst = second.map digitByte ++ afterSecond) :
    first = second ∧ afterFirst = afterSecond := by
  have injective : Function.Injective digitByte := by decide
  have digits := congrArg (List.takeWhile isDigitByte) same
  have rest := congrArg (List.dropWhile isDigitByte) same
  rw [takeWhile_digits _ firstStops, takeWhile_digits _ secondStops] at digits
  rw [dropWhile_digits _ firstStops, dropWhile_digits _ secondStops] at rest
  exact ⟨injective.list_map digits, rest⟩

theorem noDigit_nil : NoDigit [] :=
  rfl

theorem Exponent.chars_injective : Function.Injective Exponent.chars := by
  intro first second same
  have bytes := congrArg Utf8.encode same
  rw [Exponent.encode_chars, Exponent.encode_chars, List.cons.injEq] at bytes
  obtain ⟨mark, bytes⟩ := bytes
  obtain ⟨capital, sign, digits, written⟩ := first
  obtain ⟨capital', sign', digits', written'⟩ := second
  obtain ⟨d, rest, rfl⟩ := List.exists_cons_of_ne_nil written
  obtain ⟨d', rest', rfl⟩ := List.exists_cons_of_ne_nil written'
  dsimp only at mark bytes
  obtain rfl : capital = capital' := by
    cases capital <;> cases capital' <;> first | rfl | simp at mark
  -- A digit is not taken for a sign.
  have plus (d : Fin 10) : digitByte d ≠ 43 := by
    revert d
    decide
  have minus (d : Fin 10) : digitByte d ≠ 45 := by
    revert d
    decide
  have signs : sign = sign' := by
    rcases sign with _ | _ | _ <;> rcases sign' with _ | _ | _ <;>
      simp [signBytes, plus, minus, (plus _).symm, (minus _).symm] at bytes ⊢
  subst signs
  have digits := List.append_cancel_left bytes
  rw [← List.append_nil (List.map _ (d :: rest)), ← List.append_nil (List.map _ (d' :: rest'))]
    at digits
  rw [Exponent.mk.injEq]
  exact ⟨rfl, rfl, (digits_unique noDigit_nil noDigit_nil digits).1⟩

namespace Literal

/-- At the end of a text every literal ends. -/
theorem ends_nil (l : Literal) : l.Ends [] :=
  ⟨rfl, fun _ => rfl, fun _ => rfl⟩

theorem exponent_unique {first second : Option Exponent}
    (same : Utf8.encode (exponentChars first) = Utf8.encode (exponentChars second)) :
    first = second := by
  have same := Utf8.encode_injective same
  cases first with
  | none =>
      cases second with
      | none => rfl
      | some e => exact absurd same (by simp [exponentChars, Exponent.chars])
  | some e =>
      cases second with
      | none => exact absurd same (by simp [exponentChars, Exponent.chars])
      | some e' => exact congrArg some (Exponent.chars_injective same)

/-- What follows the digits before the point is told apart as well. -/
theorem tail_unique {first second : Literal} (same : first.tail [] = second.tail []) :
    first.places = second.places ∧ first.exponent = second.exponent := by
  have stops (l : Literal) : NoDigit (Utf8.encode (exponentChars l.exponent) ++ []) :=
    noDigit_exponent l.exponent noDigit_nil
  have pointed {l : Literal} (places : l.places ≠ []) :
      startsWith (· == 46) (l.tail []) = true := by
    rw [tail_of_places places]
    rfl
  by_cases none_ : first.places = []
  · have none' : second.places = [] := by
      by_contra some_
      have := pointed some_
      rw [← same, first.ends_nil.noPoint_tail none_] at this
      exact Bool.false_ne_true this
    rw [tail_of_no_places none_, tail_of_no_places none', List.append_nil, List.append_nil] at same
    exact ⟨by rw [none_, none'], exponent_unique same⟩
  · have some_ : second.places ≠ [] := by
      intro none'
      have := pointed none_
      rw [same, second.ends_nil.noPoint_tail none'] at this
      exact Bool.false_ne_true this
    rw [tail_of_places none_, tail_of_places some_, List.cons.injEq] at same
    obtain ⟨places, exponent⟩ := digits_unique (stops first) (stops second) same.2
    rw [List.append_nil, List.append_nil] at exponent
    exact ⟨places, exponent_unique exponent⟩

/-- A text is the text of one literal only. -/
theorem chars_injective : Function.Injective chars := by
  intro first second same
  have digitFirst (l : Literal) : ∃ d rest, l.unsigned = digitChar d :: rest := by
    obtain ⟨d, rest, whole⟩ := List.exists_cons_of_ne_nil l.written
    exact ⟨d, _, by rw [unsigned, whole]; rfl⟩
  have minus (d : Fin 10) : digitChar d ≠ '-' := by
    revert d
    decide
  obtain ⟨negative, unsigned_⟩ : first.negative = second.negative ∧
      first.unsigned = second.unsigned := by
    obtain ⟨d, rest, firstUnsigned⟩ := digitFirst first
    obtain ⟨d', rest', secondUnsigned⟩ := digitFirst second
    rw [chars, chars, firstUnsigned, secondUnsigned] at same
    rw [firstUnsigned, secondUnsigned]
    cases sign : first.negative <;> cases sign' : second.negative <;> rw [sign, sign'] at same
    · exact ⟨rfl, same⟩
    · exact absurd (List.cons.inj same).1 (minus d)
    · exact absurd (List.cons.inj same).1.symm (minus d')
    · exact ⟨rfl, (List.cons.inj same).2⟩
  have bytes : Utf8.encode first.unsigned ++ [] = Utf8.encode second.unsigned ++ [] := by
    rw [unsigned_]
  rw [encode_unsigned, encode_unsigned] at bytes
  obtain ⟨whole, tail⟩ := digits_unique first.ends_nil.noDigit_tail second.ends_nil.noDigit_tail
    bytes
  obtain ⟨places, exponent⟩ := tail_unique tail
  obtain ⟨_, _, _, _, _, _⟩ := first
  obtain ⟨_, _, _, _, _, _⟩ := second
  rw [Literal.mk.injEq]
  exact ⟨negative, whole, places, exponent⟩

end Literal

/-! ## Tokens and the blanks around them -/

/-- Whether a character is a blank between tokens. -/
def IsBlank (c : Char) : Prop :=
  c ∈ [' ', '\n', '\t', '\r']

instance IsBlank.decidable (c : Char) : Decidable (IsBlank c) :=
  inferInstanceAs (Decidable (c ∈ [' ', '\n', '\t', '\r']))

/-- A text is a token with blanks around it. -/
def Padded (token text : List Char) : Prop :=
  ∃ before after, (∀ c ∈ before, IsBlank c) ∧ (∀ c ∈ after, IsBlank c) ∧
    text = before ++ token ++ after

/-- Blanks are read as such. -/
theorem isSpace_encode {blanks : List Char} (all : ∀ c ∈ blanks, IsBlank c) :
    ∀ byte ∈ Utf8.encode blanks, isSpace byte = true := by
  intro byte within
  obtain ⟨c, here, inside⟩ := List.mem_flatMap.mp within
  have blank := all c here
  simp only [IsBlank, List.mem_cons, List.not_mem_nil, or_false] at blank
  rcases blank with rfl | rfl | rfl | rfl <;>
    (obtain rfl := List.mem_singleton.mp inside; rfl)

/-- Bytes that are read as blanks are blanks. -/
theorem exists_blanks (bytes : Bytes) (all : ∀ byte ∈ bytes, isSpace byte = true) :
    ∃ blanks : List Char, (∀ c ∈ blanks, IsBlank c) ∧ Utf8.encode blanks = bytes := by
  induction bytes with
  | nil => exact ⟨[], by simp, rfl⟩
  | cons byte bytes ih =>
      obtain ⟨blanks, are, same⟩ := ih fun b within => all b (List.mem_cons_of_mem _ within)
      obtain ⟨c, blank, single⟩ : ∃ c, IsBlank c ∧ String.utf8EncodeChar c = [byte] := by
        have space := all byte List.mem_cons_self
        simp only [isSpace, Bool.or_eq_true, beq_iff_eq] at space
        rcases space with ((rfl | rfl) | rfl) | rfl
        · exact ⟨' ', by decide, rfl⟩
        · exact ⟨'\n', by decide, rfl⟩
        · exact ⟨'\t', by decide, rfl⟩
        · exact ⟨'\r', by decide, rfl⟩
      refine ⟨c :: blanks, List.forall_mem_cons.mpr ⟨blank, are⟩, ?_⟩
      rw [Utf8.encode, List.flatMap_cons, single, ← Utf8.encode, same]
      rfl

/-- Reading drops the blanks before a token. -/
theorem skipSpace_blanks {blanks : List Char} (all : ∀ c ∈ blanks, IsBlank c) (rest : Bytes) :
    skipSpace (Utf8.encode blanks ++ rest) = skipSpace rest :=
  List.dropWhile_append_of_pos (isSpace_encode all)

/-- Nothing of a literal goes on in the blanks after it. -/
theorem Literal.ends_of_isSpace (l : Literal) (all : ∀ byte ∈ after, isSpace byte = true) :
    l.Ends after := by
  cases after with
  | nil => exact ⟨rfl, fun _ => rfl, fun _ => rfl⟩
  | cons byte after =>
      have space := all byte List.mem_cons_self
      simp only [isSpace, Bool.or_eq_true, beq_iff_eq] at space
      rcases space with ((rfl | rfl) | rfl) | rfl <;> exact ⟨rfl, fun _ => rfl, fun _ => rfl⟩

/-- The words and the literals, and the value that each is read as; a literal that is out of
range has none. -/
inductive Token : List Char → Option Value → Prop where
  | null : Token ['n', 'u', 'l', 'l'] (some .null)
  | true : Token ['t', 'r', 'u', 'e'] (some (.bool true))
  | false : Token ['f', 'a', 'l', 's', 'e'] (some (.bool false))
  | number (l : Literal) : Token l.chars (l.num?.map .number)

/-- Whether a value is null, a boolean or a number. -/
def Value.IsPlain : Value → Prop
  | .null | .bool _ | .number _ => True
  | .text _ | .list _ | .object _ => False

theorem readWord_eq_ok_iff {wanted rest : Bytes} :
    readWord wanted rest = .ok after ↔ rest = wanted ++ after := by
  induction wanted generalizing rest with
  | nil => exact ⟨fun same => (Except.ok.inj same), fun same => congrArg _ same⟩
  | cons want wanted ih =>
      cases rest with
      | nil => exact ⟨fun read => (by cases read), fun same => (by cases same)⟩
      | cons byte rest =>
          rw [readWord]
          by_cases same : want = byte
          · subst same
            rw [if_pos (beq_self_eq_true want), ih, List.cons_append, List.cons.injEq]
            exact ⟨fun h => ⟨rfl, h⟩, And.right⟩
          · rw [if_neg (by simpa using same)]
            exact ⟨fun read => (by cases read), fun h => absurd (List.cons.inj h).1.symm same⟩

/-- A literal is read as a value to its end. -/
theorem readValueFrom_literal (fuel depth : Nat) {before : List Char}
    (blank : ∀ c ∈ before, IsBlank c) {l : Literal} (ends : l.Ends after) :
    Finds (l.num?.map .number) after
      (readValueFrom (fuel + 1) depth (Utf8.encode before ++ (Utf8.encode l.chars ++ after))) := by
  have finds := ends.finds_readNumber.map Value.number
  rw [readValueFrom, skipSpace_blanks blank, Literal.chars]
  cases negative : l.negative with
  | true =>
      rw [negative] at finds
      exact finds
  | false =>
      obtain ⟨d, digits, whole⟩ := List.exists_cons_of_ne_nil l.written
      rw [negative, Literal.encode_unsigned, whole] at finds
      rw [if_neg Bool.false_ne_true, List.nil_append, Literal.encode_unsigned, whole]
      -- The first digit is no other mark that a value starts with.
      revert finds
      fin_cases d <;> exact id

/-- A word or a literal with blanks around it is read as its value. -/
theorem parse?_of_token {token : List Char} {value? : Option Value} (is : Token token value?)
    {text : String} (padded : Padded token text.toList) : parse? text = value? := by
  obtain ⟨before, behind, blankBefore, blankBehind, same⟩ := padded
  have blank := isSpace_encode blankBehind
  have ends : readEnd (Utf8.encode behind) = .ok () := by
    have := skipSpace_blanks blankBehind []
    rw [List.append_nil] at this
    rw [readEnd, this]
    rfl
  have finds : Finds value? (Utf8.encode behind) (readValue nestingBound (bytesOf text)) := by
    rw [readValue, bytesOf, same, Utf8.encode_append, Utf8.encode_append, List.append_assoc]
    cases is with
    | number l => exact readValueFrom_literal _ _ blankBefore (l.ends_of_isSpace blank)
    | null | true | false =>
        rw [readValueFrom, skipSpace_blanks blankBefore]
        rfl
  rw [parse?, readAll]
  cases value? with
  | some value =>
      have read : readValue nestingBound (bytesOf text) = .ok (value, Utf8.encode behind) := finds
      rw [read]
      dsimp only
      rw [ends]
      rfl
  | none =>
      obtain ⟨unread, read⟩ := finds
      rw [read]

/-- What is read as the value of a word starts with the word. -/
theorem of_readWord_map {wanted rest : Bytes} {word value : Value}
    (read : ((readWord wanted rest).map fun left => (word, left)) = .ok (value, after)) :
    value = word ∧ rest = wanted ++ after := by
  cases found : readWord wanted rest with
  | error fault =>
      rw [found] at read
      cases read
  | ok left =>
      rw [found] at read
      cases read
      exact ⟨rfl, readWord_eq_ok_iff.mp found⟩

/-- A null, a boolean or a number is read from a word or a literal. -/
theorem exists_token_of_readValueFrom {fuel depth : Nat} {rest : Bytes} {value : Value}
    (read : readValueFrom (fuel + 1) depth rest = .ok (value, after)) (plain : value.IsPlain) :
    ∃ token, Token token (some value) ∧ skipSpace rest = Utf8.encode token ++ after := by
  rw [readValueFrom] at read
  split at read
  case h_1 => cases read
  case h_2 byte beyond skipped =>
    rw [skipped]
    -- The first three are the words, the next two the literals; the others are not plain.
    split_ifs at read with isNull isTrue isFalse isMinus isDigit
    case pos =>
      obtain ⟨rfl, rfl⟩ := of_readWord_map read
      exact ⟨_, .null, congrArg (· :: _) (eq_of_beq isNull)⟩
    case pos =>
      obtain ⟨rfl, rfl⟩ := of_readWord_map read
      exact ⟨_, .true, congrArg (· :: _) (eq_of_beq isTrue)⟩
    case pos =>
      obtain ⟨rfl, rfl⟩ := of_readWord_map read
      exact ⟨_, .false, congrArg (· :: _) (eq_of_beq isFalse)⟩
    case pos =>
      obtain ⟨n, left, number, same⟩ := exists_of_map_eq_ok read
      cases same
      obtain ⟨l, negative, rfl, found⟩ := Literal.exists_of_readNumber number
      have is := Token.number l
      rw [found] at is
      refine ⟨l.chars, is, ?_⟩
      rw [Literal.chars, negative]
      exact congrArg (· :: _) (eq_of_beq isMinus)
    case pos =>
      obtain ⟨n, left, number, same⟩ := exists_of_map_eq_ok read
      cases same
      obtain ⟨l, negative, written, found⟩ := Literal.exists_of_readNumber number
      have is := Token.number l
      rw [found] at is
      refine ⟨l.chars, is, ?_⟩
      rw [Literal.chars, negative, written]
      rfl
    case pos =>
      obtain ⟨text, left, -, same⟩ := exists_of_map_eq_ok read
      cases same
      cases plain
    all_goals
      first
        | cases read
        | (split at read <;> cases read; cases plain)

/-- Only blanks are left at the end of a text. -/
theorem readEnd_eq_ok {rest : Bytes} {done : Unit} (ended : readEnd rest = .ok done) :
    ∀ byte ∈ rest, isSpace byte = true := by
  rw [readEnd] at ended
  split at ended
  case h_1 skipped => exact List.dropWhile_eq_nil_iff.mp skipped
  case h_2 => cases ended

/-- A null, a boolean or a number is a word or a literal with blanks around it. -/
theorem exists_token {text : String} {value : Value} (parsed : parse? text = some value)
    (plain : value.IsPlain) : ∃ token, Token token (some value) ∧ Padded token text.toList := by
  rw [parse?, readAll] at parsed
  cases read : readValue nestingBound (bytesOf text) with
  | error fault =>
      rw [read] at parsed
      cases parsed
  | ok found =>
      obtain ⟨value', rest⟩ := found
      rw [read] at parsed
      dsimp only at parsed
      cases ended : readEnd rest with
      | error fault =>
          rw [ended] at parsed
          cases parsed
      | ok done =>
          rw [ended] at parsed
          cases parsed
          obtain ⟨token, is, skipped⟩ := exists_token_of_readValueFrom read plain
          obtain ⟨before, blankBefore, same⟩ := exists_blanks
            ((bytesOf text).takeWhile isSpace) fun _ => List.mem_takeWhile_imp
          obtain ⟨behind, blankBehind, rfl⟩ := exists_blanks rest (readEnd_eq_ok ended)
          refine ⟨token, is, before, behind, blankBefore, blankBehind, ?_⟩
          apply Utf8.encode_injective
          rw [Utf8.encode_append, Utf8.encode_append, same, List.append_assoc, ← skipped]
          exact (List.takeWhile_append_dropWhile).symm

end UtilityBilling.Json
