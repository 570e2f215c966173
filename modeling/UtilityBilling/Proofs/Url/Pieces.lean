/-
# Addresses of eight pieces are read as they are written

A piece is written with up to four hexadecimal digits and read up to the next colon. The run of
zeros that is left out is as long as the pieces that are missing, so eight pieces come back.
-/

import UtilityBilling.Proofs.Url.Domain

namespace UtilityBilling.Url

open UtilityBilling.Text

variable {c : Char} {text rest after : List Char} {piece n : Nat} {pieces others : List Nat}

theorem digitChar_hex :
    ∀ d < 16, isDigitIn 16 d.digitChar = true ∧ valueIn 16 [d.digitChar] = d := by
  decide

/-- The digits of a number and their value. -/
theorem exists_digits (n : Nat) : ∃ digits : List Nat, (∀ d ∈ digits, d < 16) ∧
    Nat.toDigits 16 n = digits.map Nat.digitChar ∧ digits.foldl (· * 16 + ·) 0 = n := by
  induction n using Nat.strongRecOn with
  | ind n ih =>
      rw [Nat.toDigits_eq_if (by decide)]
      split
      case isTrue small => exact ⟨[n], by simpa using small, rfl, by simp⟩
      case isFalse large =>
        obtain ⟨digits, small, written, value⟩ :=
          ih (n / 16) (Nat.div_lt_self (by omega) (by decide))
        refine ⟨digits ++ [n % 16], fun d within => ?_, by rw [written, List.map_append]; rfl, ?_⟩
        · rcases List.mem_append.mp within with earlier | last
          · exact small d earlier
          · exact List.mem_singleton.mp last ▸ Nat.mod_lt n (by decide)
        · rw [List.foldl_append, value]
          exact Nat.div_add_mod' n 16

/-- Numbers start with a digit. -/
theorem exists_lead (n : Nat) : ∃ d < 16, ∃ more, Nat.toDigits 16 n = Nat.digitChar d :: more := by
  obtain ⟨digits, small, written, -⟩ := exists_digits n
  cases digits with
  | nil => exact absurd written Nat.toDigits_ne_nil
  | cons d digits => exact ⟨d, small d List.mem_cons_self, _, written⟩

/-- What may follow a piece: nothing, or a colon. -/
def EndsPiece (rest : List Char) : Prop :=
  rest = [] ∨ ∃ after, rest = ':' :: after

/-- The digits of a piece are read to their end. -/
theorem readPiece_digits {digits : List Nat} (small : ∀ d ∈ digits, d < 16) {most : Nat}
    (few : digits.length ≤ most) (value : Nat) (ended : EndsPiece rest) :
    readPiece most value (digits.map Nat.digitChar ++ rest) =
      (digits.length, digits.foldl (· * 16 + ·) value, rest) := by
  induction digits generalizing most value with
  | nil =>
      cases most with
      | zero => rfl
      | succ most => rcases ended with rfl | ⟨after, rfl⟩ <;> rfl
  | cons d digits ih =>
      obtain ⟨here, later⟩ := List.forall_mem_cons.mp small
      obtain ⟨most, rfl⟩ := Nat.exists_eq_add_one_of_ne_zero
        (Nat.ne_of_gt (Nat.lt_of_lt_of_le (Nat.zero_lt_succ _) few))
      obtain ⟨isDigit, digit⟩ := digitChar_hex d here
      rw [List.map_cons, List.cons_append, readPiece, if_pos isDigit, digit,
        ih later (Nat.le_of_succ_le_succ few)]
      rfl

/-- A piece is read as it is written. -/
theorem readPiece_piece (small : piece < 65536) (ended : EndsPiece rest) :
    readPiece 4 0 (Nat.toDigits 16 piece ++ rest) =
      ((Nat.toDigits 16 piece).length, piece, rest) := by
  obtain ⟨digits, hex, written, value⟩ := exists_digits piece
  have few : digits.length ≤ 4 := by
    have := (Nat.length_toDigits_le_iff (n := piece) (show 1 < 16 by decide)
      (show 0 < 4 by decide)).mpr small
    rwa [written, List.length_map] at this
  rw [written, readPiece_digits hex few 0 ended, value, List.length_map]

theorem piecesText_cons (piece : Nat) (others : List Nat) :
    piecesText (piece :: others) =
      Nat.toDigits 16 piece ++ others.flatMap fun other => ':' :: Nat.toDigits 16 other := by
  have same : (piece :: others).map (fun piece => String.ofList (Nat.toDigits 16 piece)) =
      (Nat.toDigits 16 piece :: others.map (Nat.toDigits 16)).map String.ofList := by
    simp
  rw [piecesText, same, toList_joinWith ':' rfl, List.flatMap_map]

theorem length_le_piecesText (pieces : List Nat) : pieces.length ≤ (piecesText pieces).length := by
  cases pieces with
  | nil => exact Nat.zero_le _
  | cons piece others =>
      have first := Nat.length_toDigits_pos (b := 16) (n := piece)
      have rest : others.length ≤
          (others.flatMap fun other => ':' :: Nat.toDigits 16 other).length := by
        induction others with
        | nil => exact Nat.zero_le _
        | cons other others ih =>
            rw [List.flatMap_cons, List.length_append, List.length_cons, List.length_cons]
            omega
      rw [piecesText_cons, List.length_append, List.length_cons]
      omega

/-- Pieces start with a digit, or not at all. -/
theorem head?_piecesText (pieces : List Nat) (rest : List Char) :
    pieces = [] ∨ (piecesText pieces ++ rest).head? ≠ some ':' := by
  cases pieces with
  | nil => exact .inl rfl
  | cons piece others =>
      obtain ⟨d, small, more, lead⟩ := exists_lead piece
      have noColon : ∀ d < 16, Nat.digitChar d ≠ ':' := by decide
      rw [piecesText_cons, lead]
      exact .inr fun colon => noColon d small (Option.some.inj colon)

/-- The text behind pieces: nothing, or a double colon and what follows it. -/
def doubled : Option (List Char) → List Char
  | none => []
  | some after => ':' :: ':' :: after

/-- A last piece is read as it is written. -/
theorem readPieces_last (small : piece < 65536) (behind : Option (List Char)) (fuel : Nat) :
    readPieces (fuel + 1) (Nat.toDigits 16 piece ++ doubled behind) =
      some ([piece], behind.isSome, behind.getD []) := by
  have some_ := Nat.ne_of_gt (Nat.length_toDigits_pos (b := 16) (n := piece))
  have ended : EndsPiece (doubled behind) := by
    cases behind with
    | none => exact .inl rfl
    | some after => exact .inr ⟨_, rfl⟩
  rw [readPieces, readPiece_piece small ended]
  dsimp only
  rw [if_neg some_]
  cases behind <;> rfl

/-- A piece before another one is read as it is written. -/
theorem readPieces_more (small : piece < 65536) (next : Nat) (rest : List Char) (fuel : Nat) :
    readPieces (fuel + 1) (Nat.toDigits 16 piece ++ ':' :: (Nat.toDigits 16 next ++ rest)) =
      (readPieces fuel (Nat.toDigits 16 next ++ rest)).map
        fun (pieces, double, left) => (piece :: pieces, double, left) := by
  have some_ := Nat.ne_of_gt (Nat.length_toDigits_pos (b := 16) (n := piece))
  obtain ⟨d, digit, more, lead⟩ := exists_lead next
  have noColon : ∀ d < 16, Nat.digitChar d ≠ ':' := by decide
  rw [readPieces, readPiece_piece small (.inr ⟨_, rfl⟩)]
  dsimp only
  rw [if_neg some_, lead, List.cons_append]
  split
  case h_1 same => cases same
  case h_2 same =>
    injection same with _ same
    injection same with colon _
    exact absurd colon (noColon d digit)
  case h_3 same =>
    injection same with _ same
    rw [same]
  case h_4 same =>
    injection same with colon _
    exact absurd colon (by decide)
  case h_5 noColon noDot => exact (noColon _ rfl).elim

/-- Pieces are read as they are written, up to a double colon. -/
theorem readPieces_piecesText (behind : Option (List Char)) {fuel : Nat}
    (small : ∀ p ∈ piece :: others, p < 65536) (enough : others.length < fuel) :
    readPieces fuel (piecesText (piece :: others) ++ doubled behind) =
      some (piece :: others, behind.isSome, behind.getD []) := by
  obtain ⟨fuel, rfl⟩ := Nat.exists_eq_add_one_of_ne_zero (Nat.ne_of_gt (Nat.zero_lt_of_lt enough))
  induction others generalizing piece fuel with
  | nil =>
      rw [piecesText_cons, List.flatMap_nil, List.append_nil]
      exact readPieces_last (small _ List.mem_cons_self) behind fuel
  | cons second others ih =>
      obtain ⟨here, later⟩ := List.forall_mem_cons.mp small
      obtain ⟨fuel, rfl⟩ := Nat.exists_eq_add_one_of_ne_zero
        (Nat.ne_of_gt (Nat.zero_lt_of_lt (Nat.lt_of_succ_lt_succ enough)))
      have next := ih later fuel (Nat.lt_of_succ_lt_succ enough)
      rw [piecesText_cons, List.append_assoc] at next
      rw [piecesText_cons, List.flatMap_cons, List.cons_append, List.append_assoc, List.cons_append,
        List.append_assoc, readPieces_more here, next]
      rfl

theorem replicate_of_le_zeroRun {run : Nat} (within : run ≤ zeroRun pieces) :
    pieces = List.replicate run 0 ++ pieces.drop run := by
  induction run generalizing pieces with
  | zero => rfl
  | succ run ih =>
      cases pieces with
      | nil => exact absurd within (by simp [zeroRun])
      | cons piece pieces =>
          cases piece with
          | zero =>
              rw [List.replicate_succ, List.drop_succ_cons, List.cons_append,
                ← ih (Nat.le_of_succ_le_succ within)]
          | succ piece => exact absurd within (by simp [zeroRun])

/-- The longest run of zeros is a run of zeros. -/
theorem longestZeroRun_le (pieces : List Nat) :
    (longestZeroRun pieces).2 ≤ zeroRun (pieces.drop (longestZeroRun pieces).1) := by
  refine List.foldlRecOn (motive := fun best : Nat × Nat =>
    best.2 ≤ zeroRun (pieces.drop best.1)) _ _ (Nat.zero_le _) fun best held place _ => ?_
  dsimp only
  split
  · exact Nat.le_refl _
  · exact held

/-- Eight pieces are those before the longest run of zeros, the zeros, and those behind it. -/
theorem pieces_eq (pieces : List Nat) :
    pieces = pieces.take (longestZeroRun pieces).1 ++
      (List.replicate (longestZeroRun pieces).2 0 ++
        pieces.drop ((longestZeroRun pieces).1 + (longestZeroRun pieces).2)) := by
  rw [← List.drop_drop, ← replicate_of_le_zeroRun (longestZeroRun_le pieces),
    List.take_append_drop]

/-- The pieces before a double colon and behind it, with the zeros that it stands for. -/
def filled (before after : List Nat) : Option (List Nat) :=
  if before.length + after.length < 8 then
    some (before ++ List.replicate (8 - (before.length + after.length)) 0 ++ after)
  else none

/-- The pieces with those that follow a double colon. -/
def tailOf (before : List Nat) (rest : List Char) : Option (List Nat) :=
  if rest.isEmpty then filled before []
  else match readPieces (rest.length + 1) rest with
    | some (after, false, _) => filled before after
    | _ => none

theorem ipv6Of?_of_lead (noColon : text.head? ≠ some ':') :
    ipv6Of? text = match readPieces (text.length + 1) text with
      | some (before, true, rest) => tailOf before rest
      | some (pieces, false, _) => if pieces.length = 8 then some pieces else none
      | none => none := by
  unfold ipv6Of?
  split
  case h_1 => exact absurd rfl noColon
  case h_2 => rfl

/-- The pieces behind a double colon are read as they are written. -/
theorem tailOf_piecesText (before : List Nat) (small : ∀ piece ∈ pieces, piece < 65536) :
    tailOf before (piecesText pieces) = filled before pieces := by
  cases pieces with
  | nil => rfl
  | cons piece others =>
      have some_ : (piecesText (piece :: others)).isEmpty = false :=
        List.isEmpty_eq_false_iff.mpr (List.ne_nil_of_length_pos
          (Nat.lt_of_lt_of_le (Nat.zero_lt_succ _) (length_le_piecesText (piece :: others))))
      have read := readPieces_piecesText none small
        (Nat.lt_succ_of_lt (length_le_piecesText (piece :: others)))
      rw [doubled, List.append_nil] at read
      rw [tailOf, some_, if_neg Bool.false_ne_true, read]
      rfl

/-- The zeros that are left out are those that are missing. -/
theorem filled_of_eight {before after : List Nat} {run : Nat} (long : 2 ≤ run)
    (eight : (before ++ (List.replicate run 0 ++ after)).length = 8) :
    filled before after = some (before ++ (List.replicate run 0 ++ after)) := by
  rw [List.length_append, List.length_append, List.length_replicate] at eight
  rw [filled, if_pos (by omega), show 8 - (before.length + after.length) = run by omega,
    List.append_assoc]

/-- Pieces at the start of an address are read as they are written. -/
theorem ipv6Of?_piecesText (small : ∀ p ∈ piece :: others, p < 65536)
    (behind : Option (List Char)) :
    ipv6Of? (piecesText (piece :: others) ++ doubled behind) = match behind with
      | some rest => tailOf (piece :: others) rest
      | none => if (piece :: others).length = 8 then some (piece :: others) else none := by
  have noColon := (head?_piecesText (piece :: others) (doubled behind)).resolve_left
    (List.cons_ne_nil _ _)
  have enough : others.length < (piecesText (piece :: others) ++ doubled behind).length + 1 := by
    have := length_le_piecesText (piece :: others)
    rw [List.length_append]
    rw [List.length_cons] at this
    omega
  rw [ipv6Of?_of_lead noColon, readPieces_piecesText behind small enough]
  cases behind <;> rfl

/-- An address of eight pieces is read as it is written. -/
theorem ipv6Of?_ipv6Text (eight : pieces.length = 8) (small : ∀ piece ∈ pieces, piece < 65536) :
    ipv6Of? (ipv6Text pieces) = some pieces := by
  have parts := pieces_eq pieces
  rw [ipv6Text]
  generalize longestZeroRun pieces = found at parts ⊢
  obtain ⟨place, run⟩ := found
  dsimp only at parts ⊢
  split
  case isTrue =>
    cases pieces with
    | nil => cases eight
    | cons piece others =>
        have read := ipv6Of?_piecesText small none
        rw [doubled, List.append_nil] at read
        exact read.trans (if_pos eight)
  case isFalse long =>
    generalize pieces.take place = before at parts ⊢
    generalize pieces.drop (place + run) = after at parts ⊢
    subst parts
    have smallAfter : ∀ piece ∈ after, piece < 65536 := fun piece within =>
      small piece (List.mem_append_right _ (List.mem_append_right _ within))
    rw [← filled_of_eight (Nat.not_lt.mp long) eight, ← tailOf_piecesText before smallAfter,
      List.append_assoc]
    cases before with
    | nil => rfl
    | cons piece others =>
        have smallBefore : ∀ p ∈ piece :: others, p < 65536 := fun p within =>
          small p (List.mem_append_left _ within)
        exact ipv6Of?_piecesText smallBefore (some (piecesText after))

/-- Pieces are written with hexadecimal digits and colons. -/
theorem mem_piecesText (within : c ∈ piecesText pieces) :
    c = ':' ∨ ∃ d < 16, c = Nat.digitChar d := by
  have digits (n : Nat) (within : c ∈ Nat.toDigits 16 n) : ∃ d < 16, c = Nat.digitChar d := by
    obtain ⟨digits, small, written, -⟩ := exists_digits n
    rw [written] at within
    obtain ⟨d, member, rfl⟩ := List.mem_map.mp within
    exact ⟨d, small d member, rfl⟩
  cases pieces with
  | nil => exact absurd within List.not_mem_nil
  | cons piece others =>
      rw [piecesText_cons] at within
      rcases List.mem_append.mp within with first | later
      · exact .inr (digits piece first)
      · obtain ⟨other, -, inside⟩ := List.mem_flatMap.mp later
        exact (List.mem_cons.mp inside).imp_right (digits other)

theorem mem_ipv6Text (within : c ∈ ipv6Text pieces) :
    c = ':' ∨ ∃ d < 16, c = Nat.digitChar d := by
  rw [ipv6Text] at within
  dsimp only at within
  split at within
  case isTrue => exact mem_piecesText within
  case isFalse =>
    rcases List.mem_append.mp within with early | late
    · rcases List.mem_append.mp early with first | colons
      · exact mem_piecesText first
      · exact .inl (by simpa using colons)
    · exact mem_piecesText late

theorem valueIn_lt (digit : isDigitIn 16 c = true) : valueIn 16 [c] < 16 := by
  rw [isDigitIn] at digit
  rw [valueIn, List.foldl_cons, List.foldl_nil]
  cases value : hexValue? (UInt8.ofNat c.toNat) with
  | none =>
      rw [value] at digit
      cases digit
  | some d =>
      rw [value] at digit
      simp only [Bool.and_eq_true, decide_eq_true_eq] at digit
      simpa using digit.2

/-- A piece that is read has no more digits than there is room for. -/
theorem readPiece_lt (most value : Nat) (text : List Char) :
    (readPiece most value text).2.1 < (value + 1) * 16 ^ most := by
  have grows : value < (value + 1) * 16 ^ most :=
    Nat.lt_of_lt_of_le (Nat.lt_succ_self value)
      (Nat.le_mul_of_pos_right _ (Nat.pow_pos (show 0 < 16 by decide)))
  induction text generalizing most value with
  | nil => cases most <;> exact grows
  | cons c text ih =>
      cases most with
      | zero => exact grows
      | succ most =>
          rw [readPiece]
          split
          case isTrue digit =>
            have lower := valueIn_lt digit
            have room : value * 16 + valueIn 16 [c] + 1 ≤ (value + 1) * 16 := by omega
            have later := ih most (value * 16 + valueIn 16 [c])
              (Nat.lt_of_lt_of_le (Nat.lt_succ_self _)
                (Nat.le_mul_of_pos_right _ (Nat.pow_pos (show 0 < 16 by decide))))
            rw [Nat.pow_succ', ← Nat.mul_assoc]
            exact Nat.lt_of_lt_of_le later (Nat.mul_le_mul_right _ room)
          case isFalse => exact grows

theorem le_of_decimalByte? {digits : List Char} (read : decimalByte? digits = some n) :
    n ≤ 255 := by
  unfold decimalByte? at read
  split at read
  case h_1 => cases read
  case h_2 => cases read
  case h_3 =>
    split at read
    case isTrue allowed =>
      simp only [Bool.and_eq_true, decide_eq_true_eq] at allowed
      exact Option.some.inj read ▸ allowed.2
    case isFalse => cases read

/-- Two bytes make a piece. -/
theorem lt_of_trailingIPv4? (read : trailingIPv4? text = some pieces) :
    ∀ piece ∈ pieces, piece < 65536 := by
  obtain ⟨bytes, mapped, read⟩ := Option.bind_eq_some_iff.mp read
  have small : ∀ byte ∈ bytes, byte ≤ 255 := fun byte within => by
    obtain ⟨digits, -, here⟩ := (of_mapM mapped).2 byte within
    exact le_of_decimalByte? here
  split at read
  case h_1 a b c d =>
    obtain rfl := Option.some.inj read
    simp only [List.forall_mem_cons] at small
    obtain ⟨ha, hb, hc, hd, -⟩ := small
    intro piece within
    simp only [List.mem_cons, List.not_mem_nil, or_false] at within
    omega
  case h_2 => cases read

/-- Every piece that is read has sixteen bits. -/
theorem lt_of_readPieces {fuel : Nat} {double : Bool} {left : List Char}
    (read : readPieces fuel text = some (pieces, double, left)) :
    ∀ piece ∈ pieces, piece < 65536 := by
  induction fuel generalizing text pieces with
  | zero => cases read
  | succ fuel ih =>
      have bound : (readPiece 4 0 text).2.1 < 65536 := by
        simpa using readPiece_lt 4 0 text
      rw [readPieces] at read
      dsimp only at read
      split at read
      case isTrue => cases read
      case isFalse =>
        split at read
        case h_1 =>
          cases read
          simpa using bound
        case h_2 =>
          cases read
          simpa using bound
        case h_3 =>
          obtain ⟨⟨others, more, rest⟩, later, same⟩ := Option.map_eq_some_iff.mp read
          cases same
          exact List.forall_mem_cons.mpr ⟨bound, ih later⟩
        case h_4 =>
          obtain ⟨trailing, here, same⟩ := Option.map_eq_some_iff.mp read
          cases same
          exact lt_of_trailingIPv4? here
        case h_5 => cases read

theorem of_filled {before after : List Nat} (read : filled before after = some pieces)
    (smallBefore : ∀ piece ∈ before, piece < 65536)
    (smallAfter : ∀ piece ∈ after, piece < 65536) :
    pieces.length = 8 ∧ ∀ piece ∈ pieces, piece < 65536 := by
  rw [filled] at read
  split at read
  case isTrue fewer =>
    obtain rfl := Option.some.inj read
    refine ⟨?_, fun piece within => ?_⟩
    · rw [List.length_append, List.length_append, List.length_replicate]
      omega
    · rcases List.mem_append.mp within with early | late
      · rcases List.mem_append.mp early with first | zero
        · exact smallBefore piece first
        · exact List.eq_of_mem_replicate zero ▸ Nat.zero_lt_succ _
      · exact smallAfter piece late
  case isFalse => cases read

theorem of_tailOf (before : List Nat) (read : tailOf before rest = some pieces)
    (small : ∀ piece ∈ before, piece < 65536) :
    pieces.length = 8 ∧ ∀ piece ∈ pieces, piece < 65536 := by
  rw [tailOf] at read
  split at read
  case isTrue => exact of_filled read small (by simp)
  case isFalse =>
    split at read
    case h_1 found => exact of_filled read small (lt_of_readPieces found)
    case h_2 => cases read

/-- An address that is read has eight pieces of sixteen bits. -/
theorem of_ipv6Of? (read : ipv6Of? text = some pieces) :
    pieces.length = 8 ∧ ∀ piece ∈ pieces, piece < 65536 := by
  unfold ipv6Of? at read
  split at read
  case h_1 => exact of_tailOf [] read (by simp)
  case h_2 =>
    split at read
    case h_1 found => exact of_tailOf _ read (lt_of_readPieces found)
    case h_2 found =>
      split at read
      case isTrue eight =>
        obtain rfl := Option.some.inj read
        exact ⟨eight, lt_of_readPieces found⟩
      case isFalse => cases read
    case h_3 => cases read

end UtilityBilling.Url
