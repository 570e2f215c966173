/-
# Labels come back from their Punycode

A number is written with the digits that its reader expects, since both know the threshold of each
place. While an encoding goes over a label, the reader of what it has written so far holds exactly
the characters that are placed: those of smaller code points, and those of the code point at hand
that it has passed. What the encoding has advanced since is the way from the reader's place to its
own, counted in code points and places together, so the next number leads the reader there.
-/

import Mathlib.Data.List.Induction
import Mathlib.Tactic.Ring
import UtilityBilling.Proofs.Text.Splitting
import UtilityBilling.Url.Punycode

namespace UtilityBilling.Url.Punycode

variable {label ascii held out rest before after : List Char} {code n i bias basic : Nat} {c : Char}

/-! ## Numbers -/

theorem threshold_bounds (k bias : Nat) : 1 ≤ threshold k bias ∧ threshold k bias ≤ 26 := by
  unfold threshold
  split
  · omega
  · split <;> omega

theorem digit?_digit (small : n < 36) : digit? (digit n) = some n := by
  have all : ∀ n : Fin 36, digit? (digit n) = some n.val := by decide
  exact all ⟨n, small⟩

/-- A number is read as it is written, if the sum stays within 32 bits. -/
theorem readNumber_digitsOf (bias k weight : Nat) (rest : List Char) {fuel : Nat}
    (enough : n < fuel) (small : i + n * weight < 2 ^ 32) :
    readNumber bias i weight k (digitsOf bias fuel k n ++ rest) = some (i + n * weight, rest) := by
  induction fuel generalizing k n i weight with
  | zero => exact absurd enough (Nat.not_lt_zero n)
  | succ fuel ih =>
      obtain ⟨t, same⟩ : ∃ t, threshold k bias = t := ⟨_, rfl⟩
      have bounds := same ▸ threshold_bounds k bias
      rw [digitsOf, same]
      split
      case isTrue last =>
        rw [List.cons_append, readNumber, digit?_digit (by omega), same]
        dsimp only
        rw [if_neg (show ¬Nat.pow 2 32 ≤ _ from Nat.not_le.mpr small), if_pos last]
        rfl
      case isFalse more =>
        have lower : (n - t) % (36 - t) < 36 - t := Nat.mod_lt _ (by omega)
        have fewer : (n - t) / (36 - t) ≤ n - t := Nat.div_le_self _ _
        have sum : i + (t + (n - t) % (36 - t)) * weight +
            (n - t) / (36 - t) * (weight * (36 - t)) = i + n * weight := by
          have whole : t + ((n - t) % (36 - t) + (36 - t) * ((n - t) / (36 - t))) = n := by
            rw [Nat.mod_add_div]
            omega
          calc _ = i + (t + ((n - t) % (36 - t) + (36 - t) * ((n - t) / (36 - t)))) * weight := by
                ring
            _ = i + n * weight := by rw [whole]
        have part : i + (t + (n - t) % (36 - t)) * weight ≤ i + n * weight :=
          sum ▸ Nat.le_add_right _ _
        rw [List.cons_append, readNumber, digit?_digit (by omega), same]
        dsimp only
        have within : ¬Nat.pow 2 32 ≤ i + (t + (n - t) % (36 - t)) * weight :=
          Nat.not_le.mpr (Nat.lt_of_le_of_lt part small)
        rw [if_neg within, if_neg (by omega), ih _ _ (by omega) (by rw [sum]; exact small), sum]

theorem digitsOf_ne_nil (bias k : Nat) {fuel : Nat} (enough : n < fuel) :
    digitsOf bias fuel k n ≠ [] := by
  obtain ⟨fuel, rfl⟩ := Nat.exists_eq_add_one_of_ne_zero (Nat.ne_of_gt (Nat.zero_lt_of_lt enough))
  rw [digitsOf]
  split <;> exact List.cons_ne_nil _ _

/-- Numbers are written with the digits of base 36. -/
theorem mem_digitsOf {fuel k : Nat} (within : c ∈ digitsOf bias fuel k n) :
    ∃ d < 36, c = digit d := by
  induction fuel generalizing k n with
  | zero => exact absurd within List.not_mem_nil
  | succ fuel ih =>
      have bounds := threshold_bounds k bias
      rw [digitsOf] at within
      split at within
      case isTrue last => exact ⟨n, by omega, List.mem_singleton.mp within⟩
      case isFalse =>
        rcases List.mem_cons.mp within with first | later
        · have := Nat.mod_lt (n - threshold k bias) (show 0 < 36 - threshold k bias by omega)
          exact ⟨_, by omega, first⟩
        · exact ih later

/-- The code point of a character is one that a reader accepts. -/
theorem isCodePoint (c : Char) :
    ¬(0x110000 ≤ c.toNat ∨ (0xD800 ≤ c.toNat ∧ c.toNat < 0xE000)) := by
  have valid : c.toNat < 0xD800 ∨ (0xDFFF < c.toNat ∧ c.toNat < 0x110000) := c.valid
  omega

/-- Reading a text from its start leads to a code point, a place, a bias and the characters
inserted so far. -/
def Leads (ascii out : List Char) (code i bias : Nat) (held : List Char) : Prop :=
  ∀ rest fuel, (out ++ rest).length ≤ fuel → ∃ left, rest.length ≤ left ∧
    decodeFrom fuel 0x80 0 72 ascii (out ++ rest) = decodeFrom left code i bias held rest

theorem Leads.nil (ascii : List Char) : Leads ascii [] 0x80 0 72 ascii :=
  fun _ fuel enough => ⟨fuel, enough, rfl⟩

/-- A number leads to the next character. -/
theorem Leads.number (leads : Leads ascii out code i bias held) {delta : Nat}
    (small : i + delta < 2 ^ 32) (char : c.toNat = code + (i + delta) / (held.length + 1)) :
    Leads ascii (out ++ digitsOf bias (delta + 1) 36 delta) c.toNat
      ((i + delta) % (held.length + 1) + 1)
      (adapt delta (held.length + 1) (i == 0 && code == 0x80))
      (insertAt ((i + delta) % (held.length + 1)) c held) := by
  intro rest fuel enough
  have digits := digitsOf_ne_nil bias 36 (Nat.lt_succ_self delta)
  rw [List.append_assoc] at enough ⊢
  obtain ⟨left, more, same⟩ := leads _ fuel enough
  obtain ⟨d, others, written⟩ := List.exists_cons_of_ne_nil digits
  have read := readNumber_digitsOf bias 36 1 rest
    (Nat.lt_succ_self delta) (by rwa [Nat.mul_one])
  rw [Nat.mul_one, written] at read
  rw [written, List.cons_append, List.length_cons, List.length_append] at more
  obtain ⟨left, rfl⟩ := Nat.exists_eq_add_one_of_ne_zero (show left ≠ 0 by omega)
  refine ⟨left, by omega, ?_⟩
  rw [same, written, List.cons_append, decodeFrom, ← List.cons_append, read]
  dsimp only
  rw [← char, if_neg (isCodePoint c), Nat.add_sub_cancel_left, Char.ofNat_toNat]

/-! ## The course of an encoding -/

/-- The characters that are placed when an encoding at a code point has gone over the first part of
a label. -/
def placed (n : Nat) (before after : List Char) : List Char :=
  before.filter (·.toNat ≤ n) ++ after.filter (·.toNat < n)

/-- How many characters stand before the place that an encoding has come to. -/
def place (n : Nat) (before : List Char) : Nat :=
  (before.filter (·.toNat ≤ n)).length

/-- An encoding that has gone over the first part of a label with a code point: the reader of its
text holds the characters placed, and has to advance as far as the encoding has since. In longer
labels the way may leave 32 bits. -/
structure Reached (ascii : List Char) (n : Nat) (before after : List Char) (e : Encoding) :
    Prop where
  done : e.done = (placed n before after).length
  basic : ascii.length ≤ e.done
  /-- At least one digit is written for each character that was not there at first. -/
  written : e.done ≤ ascii.length + e.out.length
  leads : (before ++ after).length < 3855 → ∃ code i,
    Leads ascii e.out code i e.bias (placed n before after) ∧
    e.delta + (code * (e.done + 1) + i) = n * (e.done + 1) + place n before ∧
    ((i = 0 ∧ code = 0x80) ↔ e.done = ascii.length)

variable {e : Encoding}

theorem place_le_length (n : Nat) (before after : List Char) :
    place n before ≤ (placed n before after).length := by
  rw [placed, List.length_append]
  exact Nat.le_add_right _ _

/-- A character of a smaller code point is placed before it is passed and after. -/
theorem placed_of_lt (before after : List Char) (smaller : c.toNat < n) :
    placed n (before ++ [c]) after = placed n before (c :: after) ∧
      place n (before ++ [c]) = place n before + 1 := by
  simp [placed, place, smaller, Nat.le_of_lt smaller]

/-- A character of a greater code point is not placed yet. -/
theorem placed_of_gt (before after : List Char) (greater : n < c.toNat) :
    placed n (before ++ [c]) after = placed n before (c :: after) ∧
      place n (before ++ [c]) = place n before := by
  simp [placed, place, Nat.not_le.mpr greater, Nat.not_lt.mpr (Nat.le_of_lt greater)]

/-- A character of the code point at hand is placed when it is passed. -/
theorem placed_of_eq (before after : List Char) (same : c.toNat = n) :
    placed n (before ++ [c]) after =
        insertAt (place n before) c (placed n before (c :: after)) ∧
      place n (before ++ [c]) = place n before + 1 := by
  simp [placed, place, insertAt, same]

theorem length_insertAt (place : Nat) (c : Char) (label : List Char) :
    (insertAt place c label).length = label.length + 1 := by
  rw [insertAt, List.length_append, List.length_cons, ← Nat.add_assoc, ← List.length_append,
    List.take_append_drop]

/-- The way to a place is made of code points and of places. -/
theorem way_parts {delta size place : Nat} (inside : place < size)
    (way : delta + (code * size + i) = n * size + place) :
    n = code + (i + delta) / size ∧ (i + delta) % size = place := by
  have reached : code ≤ n := by
    refine Nat.le_of_lt_succ (Nat.lt_of_mul_lt_mul_right (a := size) ?_)
    rw [Nat.succ_mul]
    omega
  have rest : i + delta = place + (n - code) * size := by
    rw [Nat.sub_mul]
    have := Nat.mul_le_mul_right size reached
    omega
  rw [rest, Nat.add_mul_div_right _ _ (Nat.zero_lt_of_lt inside), Nat.add_mul_mod_self_right,
    Nat.div_eq_of_lt inside, Nat.mod_eq_of_lt inside]
  exact ⟨by omega, rfl⟩

theorem length_placed_le (n : Nat) (before after : List Char) :
    (placed n before after).length ≤ (before ++ after).length := by
  rw [placed, List.length_append, List.length_append]
  exact Nat.add_le_add (List.length_filter_le _ _) (List.length_filter_le _ _)

/-- The number written for a character leads the reader to it. -/
theorem Reached.number (reached : Reached ascii n before (c :: after) e) (same : c.toNat = n)
    (short : (before ++ c :: after).length < 3855) :
    Leads ascii (e.out ++ digitsOf e.bias (e.delta + 1) 36 e.delta) n (place n before + 1)
      (adapt e.delta (e.done + 1) (e.done == ascii.length)) (placed n (before ++ [c]) after) := by
  obtain ⟨code, i, leads, way, first⟩ := reached.leads short
  have few := length_placed_le n before (c :: after)
  have inside := place_le_length n before (c :: after)
  have done := reached.done
  obtain ⟨char, where_⟩ := way_parts (Nat.lt_succ_of_le (done ▸ inside)) way
  have small : i + e.delta < 2 ^ 32 := by
    -- The way to a character is no longer than all places of all code points up to it.
    have := isCodePoint c
    have bound : (n + 1) * (e.done + 1) ≤ 0x110000 * 3855 :=
      Nat.mul_le_mul (by omega) (by omega)
    rw [Nat.succ_mul] at bound
    omega
  have start : (i == 0 && code == 0x80) = (e.done == ascii.length) := by
    rw [Bool.eq_iff_iff, Bool.and_eq_true, beq_iff_eq, beq_iff_eq, beq_iff_eq]
    exact first
  have next := leads.number (c := c) small (by rw [← done, same]; exact char)
  rwa [← done, where_, start, same, ← (placed_of_eq before after same).1] at next

/-- The place after one character more. -/
theorem Reached.pass (reached : Reached ascii n before (c :: after) e) :
    Reached ascii n (before ++ [c]) after (e.pass n ascii.length c) := by
  have whole : (before ++ [c] ++ after).length = (before ++ c :: after).length := by
    rw [← List.append_cons]
  rw [Encoding.pass]
  split
  case isTrue smaller =>
    obtain ⟨held, further⟩ := placed_of_lt before after smaller
    refine ⟨by rw [held]; exact reached.done, reached.basic, reached.written, fun short => ?_⟩
    obtain ⟨code, i, leads, way, first⟩ := reached.leads (whole ▸ short)
    refine ⟨code, i, by rw [held]; exact leads, ?_, first⟩
    rw [further]
    dsimp only
    omega
  case isFalse notSmaller =>
    split
    case isTrue same =>
      rw [beq_iff_eq] at same
      obtain ⟨held, further⟩ := placed_of_eq before after same
      have digits := List.length_pos_iff.mpr
        (digitsOf_ne_nil e.bias 36 (Nat.lt_add_one e.delta))
      refine ⟨by rw [held, length_insertAt, reached.done], Nat.le_succ_of_le reached.basic, ?_,
        fun short => ⟨n, place n before + 1, reached.number same (whole ▸ short), ?_, ?_⟩⟩
      · have := reached.written
        dsimp only
        rw [List.length_append]
        omega
      · rw [further]
        exact Nat.zero_add _
      · exact iff_of_false (fun zero => Nat.succ_ne_zero _ zero.1)
          (Nat.ne_of_gt (Nat.lt_succ_of_le reached.basic))
    case isFalse other =>
      rw [beq_iff_eq] at other
      obtain ⟨held, further⟩ :=
        placed_of_gt before after (show n < c.toNat by omega)
      refine ⟨by rw [held]; exact reached.done, reached.basic, reached.written, fun short => ?_⟩
      obtain ⟨code, i, leads, way, first⟩ := reached.leads (whole ▸ short)
      exact ⟨code, i, by rw [held]; exact leads, by rw [further]; exact way, first⟩

/-- All characters of the label are passed. -/
theorem Reached.passes (reached : Reached ascii n before after e) :
    Reached ascii n (before ++ after) [] (after.foldl (Encoding.pass n ascii.length) e) := by
  induction after generalizing before e with
  | nil => rwa [List.append_nil]
  | cons c after ih =>
      rw [List.append_cons]
      exact ih reached.pass

/-- The next code point starts over at the front of the label. -/
theorem Reached.turn (reached : Reached ascii n label [] e) :
    Reached ascii (n + 1) [] label { e with delta := e.delta + 1 } := by
  have same : placed (n + 1) [] label = placed n label [] := by
    simp only [placed, Nat.lt_succ_iff, List.filter_nil, List.nil_append, List.append_nil]
  have all : place n label = e.done := by
    rw [reached.done, placed, place, List.filter_nil, List.append_nil]
  refine ⟨by rw [same]; exact reached.done, reached.basic, reached.written, fun short => ?_⟩
  obtain ⟨code, i, leads, way, first⟩ := reached.leads (by rwa [List.append_nil])
  refine ⟨code, i, by rw [same]; exact leads, ?_, first⟩
  change e.delta + 1 + (code * (e.done + 1) + i) = (n + 1) * (e.done + 1) + 0
  rw [Nat.succ_mul]
  omega

/-- Code points that do not occur in the label are left out. -/
theorem Reached.skip (reached : Reached ascii n [] label e) {m : Nat} (forward : n ≤ m)
    (none_ : ∀ c ∈ label, n ≤ c.toNat → m ≤ c.toNat) :
    Reached ascii m [] label { e with delta := e.delta + (m - n) * (e.done + 1) } := by
  have same : placed m [] label = placed n [] label := by
    rw [placed, placed]
    refine congrArg (_ ++ ·) (List.filter_congr fun c within => ?_)
    have := none_ c within
    rw [decide_eq_decide]
    omega
  refine ⟨by rw [same]; exact reached.done, reached.basic, reached.written, fun short => ?_⟩
  obtain ⟨code, i, leads, way, first⟩ := reached.leads short
  refine ⟨code, i, by rw [same]; exact leads, ?_, first⟩
  change e.delta + (m - n) * (e.done + 1) + (code * (e.done + 1) + i) = m * (e.done + 1) + 0
  change _ = n * (e.done + 1) + 0 at way
  have := Nat.mul_le_mul_right (e.done + 1) forward
  rw [Nat.sub_mul]
  omega

/-- All code points of a sorted list are placed. -/
theorem Reached.placeAll {list : List Nat} (sorted : list.Pairwise (· < ·))
    (from_ : ∀ m ∈ list, n ≤ m) (listed : ∀ c ∈ label, n ≤ c.toNat → c.toNat ∈ list)
    (reached : Reached ascii n [] label e) :
    ∃ last, (∀ c ∈ label, c.toNat < last) ∧
      Reached ascii last [] label (e.placeAll label ascii.length list n) := by
  induction list generalizing n e with
  | nil =>
      refine ⟨n, fun c within => Nat.lt_of_not_le fun later => ?_, reached⟩
      exact absurd (listed c within later) List.not_mem_nil
  | cons m list ih =>
      obtain ⟨least, others⟩ := List.pairwise_cons.mp sorted
      -- Nothing is placed up to the next code point, for which the label is gone over once.
      have skipped := reached.skip (from_ m List.mem_cons_self) fun c within later =>
        (List.mem_cons.mp (listed c within later)).elim (fun same => Nat.le_of_eq same.symm)
          fun among => Nat.le_of_lt (least _ among)
      have turned := skipped.passes.turn
      exact ih others least (fun c within later => (List.mem_cons.mp (listed c within
        (Nat.le_trans (from_ m List.mem_cons_self) (Nat.le_of_lt later)))).resolve_left
          (Nat.ne_of_gt later)) turned

/-! ## Labels -/

theorem mem_insertSorted {m : Nat} {list : List Nat} :
    m ∈ insertSorted n list ↔ m = n ∨ m ∈ list := by
  induction list with
  | nil => simp [insertSorted]
  | cons k list ih =>
      rw [insertSorted]
      split
      · exact List.mem_cons
      · split
        case isTrue same =>
          rw [beq_iff_eq] at same
          simp [same]
        case isFalse => rw [List.mem_cons, ih, List.mem_cons, or_left_comm]

theorem pairwise_insertSorted {list : List Nat} (sorted : list.Pairwise (· < ·)) :
    (insertSorted n list).Pairwise (· < ·) := by
  induction list with
  | nil => exact List.pairwise_singleton _ n
  | cons m list ih =>
      obtain ⟨least, others⟩ := List.pairwise_cons.mp sorted
      rw [insertSorted]
      split
      case isTrue smaller =>
        refine List.pairwise_cons.mpr ⟨fun k among => ?_, sorted⟩
        rcases List.mem_cons.mp among with rfl | later
        · exact smaller
        · exact Nat.lt_trans smaller (least k later)
      case isFalse notSmaller =>
        split
        case isTrue => exact sorted
        case isFalse other =>
          rw [beq_iff_eq] at other
          refine List.pairwise_cons.mpr ⟨fun k among => ?_, ih others⟩
          rcases mem_insertSorted.mp among with rfl | later
          · omega
          · exact least k later

/-- The code points of the characters outside ASCII, each of them once and in their order. -/
def foreignCodes (label : List Char) : List Nat :=
  label.foldl (fun held c => if 0x80 ≤ c.toNat then insertSorted c.toNat held else held) []

theorem foreignCodes_spec (label : List Char) :
    (foreignCodes label).Pairwise (· < ·) ∧
      ∀ m, m ∈ foreignCodes label ↔ 0x80 ≤ m ∧ ∃ c ∈ label, c.toNat = m := by
  induction label using List.reverseRecOn with
  | nil => simp [foreignCodes]
  | append_singleton label c ih =>
      obtain ⟨sorted, listed⟩ := ih
      rw [foreignCodes, List.foldl_append, ← foreignCodes, List.foldl_cons, List.foldl_nil]
      split
      case isTrue foreign =>
        refine ⟨pairwise_insertSorted sorted, fun m => ?_⟩
        rw [mem_insertSorted, listed]
        simp only [List.mem_append, List.mem_singleton]
        grind
      case isFalse =>
        refine ⟨sorted, fun m => ?_⟩
        rw [listed]
        simp only [List.mem_append, List.mem_singleton]
        grind

/-- The ASCII characters of a label. -/
def asciiPart (label : List Char) : List Char :=
  label.filter fun c => c.toNat < 0x80

/-- The numbers that stand for the other characters of a label. -/
def numbers (label : List Char) : List Char :=
  (Encoding.placeAll label (asciiPart label).length (foreignCodes label) 0x80
    ⟨0, 72, (asciiPart label).length, []⟩).out

theorem encode_eq (label : List Char) :
    encode label =
      (if (asciiPart label).length = 0 then [] else asciiPart label ++ ['-']) ++ numbers label :=
  rfl

/-- Nothing is placed at first but the ASCII characters. -/
theorem reached_start (label : List Char) :
    Reached (asciiPart label) 0x80 [] label ⟨0, 72, (asciiPart label).length, []⟩ :=
  ⟨rfl, Nat.le_refl _, Nat.le_refl _,
    fun _ => ⟨0x80, 0, Leads.nil _, Nat.zero_add _, iff_of_true ⟨rfl, rfl⟩ rfl⟩⟩

/-- All of the label is placed in the end. -/
theorem exists_reached (label : List Char) :
    ∃ last e, e.out = numbers label ∧ placed last [] label = label ∧
      Reached (asciiPart label) last [] label e := by
  obtain ⟨sorted, listed⟩ := foreignCodes_spec label
  obtain ⟨last, bounded, reached⟩ := Reached.placeAll sorted
    (fun m among => ((listed m).mp among).1)
    (fun c within foreign => (listed _).mpr ⟨foreign, c, within, rfl⟩) (reached_start label)
  exact ⟨last, _, rfl, List.filter_eq_self.mpr fun c within => decide_eq_true (bounded c within),
    reached⟩

/-- Reading the numbers of a label puts the other characters back. -/
theorem decodeFrom_numbers (short : label.length < 3855) :
    decodeFrom (numbers label).length 0x80 0 72 (asciiPart label) (numbers label) =
      some label := by
  obtain ⟨last, e, written, all, reached⟩ := exists_reached label
  obtain ⟨code, i, leads, -, -⟩ := reached.leads short
  obtain ⟨left, -, read⟩ := leads [] _ (Nat.le_refl _)
  rw [List.append_nil, all, written] at read
  rw [read, decodeFrom]

/-- The form of a label is at least as long as the label. -/
theorem length_le_encode (label : List Char) : label.length ≤ (encode label).length := by
  obtain ⟨last, e, written, all, reached⟩ := exists_reached label
  have fewer := reached.written
  rw [reached.done, all, written] at fewer
  rw [encode_eq, List.length_append]
  refine Nat.le_trans fewer (Nat.add_le_add_right ?_ _)
  split
  case isTrue empty => exact Nat.le_of_eq empty
  case isFalse => exact List.length_append ▸ Nat.le_add_right _ _

/-- What an encoding has written consists of digits in base 36. -/
def Encoding.IsDigits (e : Encoding) : Prop :=
  ∀ c ∈ e.out, ∃ d < 36, c = digit d

theorem Encoding.IsDigits.pass (digits : e.IsDigits) (n basic : Nat) (c : Char) :
    (e.pass n basic c).IsDigits := by
  rw [Encoding.pass]
  split
  · exact digits
  · split
    · intro c within
      exact (List.mem_append.mp within).elim (digits c) mem_digitsOf
    · exact digits

theorem Encoding.IsDigits.passes (digits : e.IsDigits) (n basic : Nat) (label : List Char) :
    (label.foldl (Encoding.pass n basic) e).IsDigits := by
  induction label generalizing e with
  | nil => exact digits
  | cons c label ih => exact ih (digits.pass n basic c)

theorem Encoding.IsDigits.advance (digits : e.IsDigits) (delta : Nat) :
    { e with delta := delta }.IsDigits :=
  digits

theorem Encoding.IsDigits.placeAll (digits : e.IsDigits) (label : List Char) (basic : Nat)
    (list : List Nat) (n : Nat) : (e.placeAll label basic list n).IsDigits := by
  induction list generalizing n e with
  | nil => exact digits
  | cons m list ih => exact ih (((digits.advance _).passes m basic label).advance _) (m + 1)

/-- Numbers are written with the digits of base 36. -/
theorem mem_numbers (within : c ∈ numbers label) : ∃ d < 36, c = digit d :=
  Encoding.IsDigits.placeAll (fun _ within => absurd within List.not_mem_nil) label _ _ _ c within

/-- The form of a label consists of its ASCII characters, of digits, and of the sign between. -/
theorem mem_encode (within : c ∈ encode label) :
    (c ∈ label ∧ c.toNat < 0x80) ∨ c = '-' ∨ ∃ d < 36, c = digit d := by
  rw [encode_eq] at within
  rcases List.mem_append.mp within with ascii | number
  · split at ascii
    · exact absurd ascii List.not_mem_nil
    · rcases List.mem_append.mp ascii with kept | sign
      · obtain ⟨here, small⟩ := List.mem_filter.mp kept
        exact .inl ⟨here, of_decide_eq_true small⟩
      · exact .inr (.inl (List.mem_singleton.mp sign))
  · exact .inr (.inr (mem_numbers number))

/-- A label comes back from its form. The bound keeps the numbers within 32 bits. -/
theorem decode?_encode (short : label.length < 3855) : decode? (encode label) = some label := by
  have noSign : ∀ c ∈ (numbers label).reverse, c ≠ '-' := by
    intro c within
    obtain ⟨d, small, rfl⟩ := mem_numbers (List.mem_reverse.mp within)
    have all : ∀ d : Fin 36, digit d ≠ '-' := by decide
    exact all ⟨d, small⟩
  rw [← decodeFrom_numbers short, encode_eq, decode?]
  split
  case isTrue empty =>
    obtain ⟨taken, -⟩ := Text.takeWhile_ne_all noSign
    have none_ : (numbers label).contains '-' = false := by
      rw [List.contains_eq_mem, decide_eq_false_iff_not]
      exact fun within => noSign _ (List.mem_reverse.mpr within) rfl
    rw [List.nil_append, taken, none_, if_neg Bool.false_ne_true, List.reverse_reverse,
      List.eq_nil_of_length_eq_zero empty]
  case isFalse =>
    obtain ⟨taken, dropped⟩ := Text.takeWhile_ne noSign (asciiPart label).reverse
    have reversed : (asciiPart label ++ ['-'] ++ numbers label).reverse =
        (numbers label).reverse ++ '-' :: (asciiPart label).reverse := by
      simp
    have some_ : (asciiPart label ++ ['-'] ++ numbers label).contains '-' = true := by simp
    rw [reversed, taken, dropped, some_, if_pos rfl, List.drop_one, List.tail_cons,
      List.reverse_reverse, List.reverse_reverse]

end UtilityBilling.Url.Punycode
