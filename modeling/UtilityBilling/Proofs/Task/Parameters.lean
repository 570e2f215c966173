/-
# Parameters are sent as they are written

A parameter that is written as a whole number of 64 bits is sent as that number, so its digits
arrive as they stand. The three words and every other number literal are sent as what they are
read as, and all else is sent as text. A longer whole number is not sent as it is written: it
is rounded to a floating-point number as long as there is one of that size.
-/

import UtilityBilling.Proofs.Json.Grammar
import UtilityBilling.Proofs.Json.Magnitude
import UtilityBilling.Task.Job

namespace UtilityBilling.Task

open UtilityBilling.Json UtilityBilling.Number UtilityBilling.Number.Binary64

variable {raw : String}

/-- What is read as a null, a boolean or a number is sent as that, and all else as text. -/
theorem parameterValue_cases (raw : String) :
    (∃ value : Value, value.IsPlain ∧ parse? raw = some value ∧ parameterValue raw = value) ∨
      (∀ value : Value, value.IsPlain → parse? raw ≠ some value) ∧
        parameterValue raw = .text raw := by
  rw [parameterValue]
  cases parsed : parse? raw with
  | none => exact .inr ⟨fun _ _ same => (by cases same), rfl⟩
  | some value =>
      cases value with
      | number n => exact .inl ⟨.number n, trivial, rfl, rfl⟩
      | bool b => exact .inl ⟨.bool b, trivial, rfl, rfl⟩
      | null => exact .inl ⟨.null, trivial, rfl, rfl⟩
      | text _ | list _ | object _ =>
          exact .inr ⟨fun _ plain same => (by cases same; cases plain), rfl⟩

/-- A word or a literal in range is sent as its value, a literal out of range as text. -/
theorem parameterValue_of_token {token : List Char} {value? : Option Value}
    (is : Token token value?) (padded : Padded token raw.toList) :
    parameterValue raw = value?.getD (.text raw) := by
  have parsed := parse?_of_token is padded
  rw [parameterValue, parsed]
  cases is with
  | null | true | false => rfl
  | number l => cases l.num? <;> rfl

theorem parameterValue_of_literal {l : Literal} (padded : Padded l.chars raw.toList) :
    parameterValue raw = (l.num?.map Value.number).getD (.text raw) :=
  parameterValue_of_token (.number l) padded

/-- What is not sent as text is a word or a literal. -/
theorem exists_token_of_ne_text (typed : parameterValue raw ≠ .text raw) :
    ∃ token, Token token (some (parameterValue raw)) ∧ Padded token raw.toList := by
  rcases parameterValue_cases raw with ⟨value, plain, parsed, same⟩ | ⟨-, text⟩
  · rw [same]
    exact exists_token parsed plain
  · exact absurd text typed

theorem padded_self {token : List Char} (same : raw.toList = token) :
    Padded token raw.toList :=
  ⟨[], [], by simp, by simp, by rw [same, List.nil_append, List.append_nil]⟩

/-- A text stands for the same number as a literal. -/
def Denotes (text : List Char) (l : Literal) : Prop :=
  ∃ k : Literal, text = k.chars ∧ k.negative = l.negative ∧ k.magnitude = l.magnitude

/-- A negative zero is written with a place. -/
theorem denotes_negative_zero {l : Literal} (whole : l.IsWhole) (negative : l.negative = true)
    (zero : l.digits = 0) : Denotes (Num.float (Binary64.zero true)).chars l := by
  refine ⟨⟨true, [0], [0], none, by simp, fun _ => rfl⟩, by decide, negative.symm, ?_⟩
  rw [whole.magnitude_eq, zero, Literal.magnitude, Literal.mantissa]
  simp [continued]

/-- A whole literal of 64 bits is sent as the number that it stands for, and but for the
negative zero with the same digits. -/
theorem parameterValue_of_whole {l : Literal} (whole : l.IsWhole) (same : raw.toList = l.chars)
    (low : -(2 ^ 63 : Int) ≤ l.integer) (high : l.integer < 2 ^ 64) :
    ∃ n, parameterValue raw = .number n ∧ Denotes n.chars l ∧
      ((l.negative = true → 0 < l.digits) → n = .whole l.integer ∧ n.chars = raw.toList) := by
  rw [parameterValue_of_literal (padded_self same)]
  by_cases sign : l.negative = true → 0 < l.digits
  · rw [whole.num?_of_fits low high sign]
    have text := whole.chars_integer sign
    exact ⟨_, rfl, ⟨l, text, rfl, rfl⟩, fun _ => ⟨rfl, text.trans same.symm⟩⟩
  · obtain ⟨negative, zero⟩ := Classical.not_imp.mp sign
    have zero : l.digits = 0 := Nat.eq_zero_of_not_pos zero
    rw [whole.num?_of_zero negative zero]
    exact ⟨_, rfl, denotes_negative_zero whole negative zero, fun all => absurd all sign⟩

/-- A whole literal of more than 64 bits is sent as a floating-point number within one part in
`2 ^ 50`, or as text where there is none of its size. -/
theorem parameterValue_of_long {l : Literal} (whole : l.IsWhole) (same : raw.toList = l.chars)
    (long : l.integer < -(2 ^ 63 : Int) ∨ 2 ^ 64 ≤ l.integer) :
    (parameterValue raw = .text raw ∧ top - top / 2 ^ 50 < l.digits) ∨
      ∃ x, parameterValue raw = .number (.float x) ∧ x.isNegative = l.negative ∧
        |x.magnitude - l.digits| ≤ l.digits / 2 ^ 50 := by
  rw [parameterValue_of_literal (padded_self same)]
  cases found : l.num? with
  | none =>
      refine .inl ⟨rfl, not_le.mp fun bounded => ?_⟩
      rw [← whole.magnitude_eq] at bounded
      rcases Literal.num?_within bounded with some_ | large
      · rw [found] at some_
        cases some_
      · rw [Literal.shift, Option.isNone_iff_eq_none.mp whole.2] at large
        exact absurd large (by decide)
  | some n =>
      cases n with
      | whole value =>
          obtain ⟨low, high⟩ := whole.fits_of_num? found
          omega
      | float x => exact .inr ⟨x, rfl, whole.near found⟩

theorem lookup_cons_eq {α : Type} (key name : String) (value : α) (members : List (String × α)) :
    ((key, value) :: members).lookup name =
      if name = key then some value else members.lookup name := by
  rw [List.lookup_cons]
  by_cases same : name = key
  · rw [if_pos same, beq_iff_eq.mpr same]
  · rw [if_neg same, beq_eq_false_iff_ne.mpr same]

/-- Putting a member into an object changes what it holds under that name and no other. -/
theorem lookup_putMember (key name : String) (value : Value) (members : List (String × Value)) :
    (putMember key value members).lookup name =
      if name = key then some value else members.lookup name := by
  induction members with
  | nil => exact lookup_cons_eq key name value []
  | cons member members ih =>
      obtain ⟨other, held⟩ := member
      rw [putMember]
      split
      case isTrue => exact lookup_cons_eq key name value _
      case isFalse =>
        split
        case isTrue equal =>
          obtain rfl := eq_of_beq equal
          rw [lookup_cons_eq, lookup_cons_eq]
          split <;> rfl
        case isFalse different =>
          have different : key ≠ other := by simpa using different
          rw [lookup_cons_eq, lookup_cons_eq, ih]
          split_ifs with isOther isKey
          · exact absurd (isKey.symm.trans isOther) different
          · rfl
          · rfl
          · rfl

/-- The body holds the value of the last parameter of each name. -/
theorem get?_jobBody (parameters : List (String × String)) (name : String) :
    (jobBody parameters).get? name = (parameters.reverse.lookup name).map parameterValue := by
  rw [jobBody, Value.ofMembers, Value.get?]
  induction parameters using List.reverseRecOn with
  | nil => rfl
  | append_singleton parameters last ih =>
      obtain ⟨key, raw⟩ := last
      rw [List.map_append, List.foldl_append, List.reverse_append]
      change (putMember key (parameterValue raw) _).lookup name =
        (((key, raw) :: parameters.reverse).lookup name).map parameterValue
      rw [lookup_putMember, ih, lookup_cons_eq]
      split <;> rfl

/-- How the value that is sent for a parameter follows from its text. -/
structure SentFor (raw : String) (value : Value) : Prop where
  /-- A whole number of 64 bits is sent as it is written; the negative zero gets a place. -/
  whole : ∀ l : Literal, l.IsWhole → raw.toList = l.chars →
    -(2 ^ 63 : Int) ≤ l.integer → l.integer < 2 ^ 64 →
    ∃ n, value = .number n ∧ Denotes n.chars l ∧
      ((l.negative = true → 0 < l.digits) → n = .whole l.integer ∧ n.chars = raw.toList)
  /-- A longer one is rounded to one part in `2 ^ 50`, or sent as text where there is no
  floating-point number of its size. -/
  long : ∀ l : Literal, l.IsWhole → raw.toList = l.chars →
    (l.integer < -(2 ^ 63 : Int) ∨ 2 ^ 64 ≤ l.integer) →
    (value = .text raw ∧ top - top / 2 ^ 50 < l.digits) ∨
      ∃ x, value = .number (.float x) ∧ x.isNegative = l.negative ∧
        |x.magnitude - l.digits| ≤ l.digits / 2 ^ 50
  /-- Words and literals are sent typed, and a literal out of range as text. -/
  token : ∀ token value?, Token token value? → Padded token raw.toList →
    value = value?.getD (.text raw)
  /-- Up to one part in `2 ^ 50` below `2 ^ 1024` a literal is in range. -/
  within : ∀ l : Literal, Padded l.chars raw.toList → l.magnitude ≤ top - top / 2 ^ 50 →
    (∃ n, value = .number n) ∨ maxExponent < l.shift
  /-- From one part in `2 ^ 50` above `2 ^ 1024` on it is not. -/
  beyond : ∀ l : Literal, Padded l.chars raw.toList → top + top / 2 ^ 50 ≤ l.magnitude →
    value = .text raw ∨ l.shift < -maxExponent ∧ value = .number (.float (Binary64.zero l.negative))
  /-- All else is sent as text. -/
  otherwise : value ≠ .text raw → ∃ token, Token token (some value) ∧ Padded token raw.toList

/-- Parameters are sent as they are written, except that a whole number of more than 64 bits
is rounded: every member of the body follows from the text of its parameter. -/
theorem parameters_sent_for (parameters : List (String × String)) (name raw : String) :
    (jobBody parameters).get? name = (parameters.reverse.lookup name).map parameterValue ∧
      SentFor raw (parameterValue raw) := by
  refine ⟨get?_jobBody parameters name, ?_, ?_, ?_, ?_, ?_, ?_⟩
  · exact fun l whole same low high => parameterValue_of_whole whole same low high
  · exact fun l whole same long => parameterValue_of_long whole same long
  · exact fun token value? is padded => parameterValue_of_token is padded
  · intro l padded bounded
    rw [parameterValue_of_literal padded]
    refine (Literal.num?_within bounded).imp_left fun some_ => ?_
    obtain ⟨n, found⟩ := Option.isSome_iff_exists.mp some_
    exact ⟨n, by rw [found]; rfl⟩
  · intro l padded above
    rw [parameterValue_of_literal padded]
    rcases Literal.num?_beyond above with none_ | ⟨small, zero⟩
    · exact .inl (by rw [none_]; rfl)
    · exact .inr ⟨small, by rw [zero]; rfl⟩
  · exact exists_token_of_ne_text

/-- The greatest whole number of 64 bits. -/
def greatest : Literal :=
  ⟨false, [1, 8, 4, 4, 6, 7, 4, 4, 0, 7, 3, 7, 0, 9, 5, 5, 1, 6, 1, 5], [], none, by simp,
    fun zero => by cases zero⟩

/-- The greatest whole number of 64 bits is sent as it is written. -/
theorem parameters_sent_for_greatest :
    greatest.IsWhole ∧ "18446744073709551615".toList = greatest.chars ∧
      ∃ n, (jobBody [("meter", "18446744073709551615")]).get? "meter" = some (.number n) ∧
        Denotes n.chars greatest ∧ n.chars = "18446744073709551615".toList := by
  have whole : greatest.IsWhole := by decide
  have written : "18446744073709551615".toList = greatest.chars := by decide
  obtain ⟨body, sentFor⟩ := parameters_sent_for [("meter", "18446744073709551615")] "meter"
    "18446744073709551615"
  obtain ⟨n, sent, denotes, same⟩ :=
    sentFor.whole greatest whole written (by decide) (by decide)
  refine ⟨whole, written, n, ?_, denotes, (same fun negative => by cases negative).2⟩
  rw [body, ← sent]
  rfl

/-- A number that is two more. -/
def twoMore : Literal :=
  ⟨false, [1, 8, 4, 4, 6, 7, 4, 4, 0, 7, 3, 7, 0, 9, 5, 5, 1, 6, 1, 7], [], none, by simp,
    fun zero => by cases zero⟩

/-- What is sent in place of it. -/
def rounded : Literal :=
  ⟨false, [1], [8, 4, 4, 6, 7, 4, 4, 0, 7, 3, 7, 0, 9, 5, 5, 2],
    some ⟨false, some false, [1, 9], by simp⟩, by simp, fun zero => by cases zero⟩

/-- A whole number of more than 64 bits is sent neither as text nor as a number with the same
value. -/
theorem twoMore_altered :
    twoMore.IsWhole ∧ "18446744073709551617".toList = twoMore.chars ∧
      ¬ (parameterValue "18446744073709551617" = .text "18446744073709551617" ∨
        ∃ n, parameterValue "18446744073709551617" = .number n ∧ Denotes n.chars twoMore) := by
  have written : "18446744073709551617".toList = twoMore.chars := by decide
  refine ⟨by decide, written, ?_⟩
  have found : twoMore.num? = some (.float ⟨0x43F0000000000000⟩) := by decide +kernel
  have sent : parameterValue "18446744073709551617" = .number (.float ⟨0x43F0000000000000⟩) := by
    rw [parameterValue_of_literal (padded_self written), found]
    rfl
  have text : (Num.float ⟨0x43F0000000000000⟩).chars = rounded.chars := by decide +kernel
  rw [sent]
  rintro (asText | ⟨n, same, k, denoted, -, magnitude⟩)
  · cases asText
  · cases same
    obtain rfl : k = rounded := Literal.chars_injective (denoted.symm.trans text)
    rw [Literal.magnitude, Literal.magnitude, Literal.mantissa, Literal.mantissa] at magnitude
    simp [rounded, twoMore, continued, Literal.shift, Exponent.value, Exponent.isNegative,
      Exponent.size] at magnitude
    norm_num at magnitude

end UtilityBilling.Task
