/-
# Hosts are read as they are written

A host is kept in one of three forms: a domain of ASCII labels, an address of four numbers, or an
address of eight pieces in brackets. Its text is told apart from what stands around it, and is read
as the same host.
-/

import UtilityBilling.Proofs.Url.Authority
import UtilityBilling.Proofs.Url.Pieces

namespace UtilityBilling.Url

open UtilityBilling.Text

variable {c : Char} {text typed domain : List Char} {host : Host}

/-- A character of a domain neither ends a host nor is a sign around one. -/
theorem hostChar_of_domain (within : c = '.' ∨ IsLabelChar c) :
    (0x20 < c.toNat ∧ c ≠ '@' ∧ c ≠ '/' ∧ c ≠ '\\' ∧ c ≠ '?' ∧ c ≠ '#') ∧
      (c ≠ ':' ∧ c ≠ '[' ∧ c ≠ ']') ∧ c.toNat < 0x80 ∧ c ≠ '%' := by
  rcases within with rfl | ⟨ascii, free, -⟩
  · decide
  · have allowed : ∀ c : Char, c.toNat < 0x80 → isForbidden c = false →
        (0x20 < c.toNat ∧ c ≠ '@' ∧ c ≠ '/' ∧ c ≠ '\\' ∧ c ≠ '?' ∧ c ≠ '#') ∧
          (c ≠ ':' ∧ c ≠ '[' ∧ c ≠ ']') ∧ c.toNat < 0x80 ∧ c ≠ '%' :=
      Utf8.forall_ascii (by decide)
    exact allowed c ascii free

/-- The text of a domain that is the ASCII form of itself is read as a domain, or as an address if
it ends in a number. -/
theorem specialHost_domain (some_ : text ≠ []) (chars : ∀ c ∈ text, c = '.' ∨ IsLabelChar c)
    (again : asciiDomain? text = some text) :
    specialHost text =
      if endsInNumber text then
        match ipv4Of? text with
        | some address => .ok (.ipv4 address)
        | none => .error .badIPv4
      else .ok (.domain text) := by
  have plain : decodeBytes (Utf8.encode text) = Utf8.encode text :=
    decodeBytes_plain fun c within => (hostChar_of_domain (chars c within)).2.2
  have bracket : ∀ rest, text ≠ '[' :: rest := by
    rintro rest rfl
    exact (hostChar_of_domain (chars '[' List.mem_cons_self)).2.1.2.1 rfl
  unfold specialHost
  split
  case h_1 rest => exact absurd rfl (bracket rest)
  case h_2 =>
    rw [plain, Utf8.decode?_encode, Option.bind_some, again]
    cases text with
    | nil => exact absurd rfl some_
    | cons c text => rfl

/-- The four bytes of an address. -/
def bytesOfAddress (address : UInt32) : List Nat :=
  [address.toNat / Nat.pow 2 24, address.toNat / Nat.pow 2 16 % 256,
    address.toNat / Nat.pow 2 8 % 256, address.toNat % 256]

theorem bytesOfAddress_lt (address : UInt32) : ∀ byte ∈ bytesOfAddress address, byte < 256 := by
  have := address.toNat_lt
  intro byte within
  simp only [bytesOfAddress, List.mem_cons, List.not_mem_nil, or_false] at within
  rcases within with rfl | rfl | rfl | rfl
  · exact Nat.div_lt_of_lt_mul (by simpa using this)
  all_goals exact Nat.mod_lt _ (by decide)

/-- The labels of an address. -/
def numerals (address : UInt32) : List (List Char) :=
  (bytesOfAddress address).map (Nat.toDigits 10)

theorem ipv4Text_eq (address : UInt32) :
    ipv4Text address = (joinWith "." ((numerals address).map String.ofList)).toList := by
  rw [ipv4Text, numerals, List.map_map]
  rfl

/-- A byte is written with figures, and as a label it is the number of these. -/
theorem toDigits_byte : ∀ byte < 256, (Nat.toDigits 10 byte).all (IsLabelChar ·) = true ∧
    asciiLabel? (Nat.toDigits 10 byte) = some (Nat.toDigits 10 byte) ∧
    (!(Nat.toDigits 10 byte).isEmpty && (Nat.toDigits 10 byte).all Char.isDigit) = true ∧
    labelNumber? (Nat.toDigits 10 byte) = some byte := by
  decide +kernel

theorem numerals_spec (address : UInt32) : ∀ form ∈ numerals address,
    (∀ c ∈ form, IsLabelChar c) ∧ asciiLabel? form = some form ∧
      (!form.isEmpty && form.all Char.isDigit) = true := by
  intro form member
  obtain ⟨byte, within, rfl⟩ := List.mem_map.mp member
  obtain ⟨chars, again, digits, -⟩ := toDigits_byte byte (bytesOfAddress_lt address byte within)
  exact ⟨List.all_iff_forall_prop.mp chars, again, digits⟩

theorem addressLabels_ipv4Text (address : UInt32) :
    addressLabels (ipv4Text address) = numerals address := by
  have labels : splitAll (· == '.') (ipv4Text address) = numerals address := by
    rw [ipv4Text_eq]
    exact splitAll_forms (by simp [numerals, bytesOfAddress]) fun form member =>
      (numerals_spec address form member).1
  unfold addressLabels
  rw [labels]
  dsimp only
  split
  case h_1 empty =>
    have digits := (numerals_spec address [] (List.mem_of_getLast? empty)).2.2
    cases digits
  case h_2 => rfl

theorem endsInNumber_ipv4Text (address : UInt32) : endsInNumber (ipv4Text address) = true := by
  unfold endsInNumber
  rw [addressLabels_ipv4Text]
  split
  case h_1 last found =>
    rw [(numerals_spec address last (List.mem_of_getLast? found)).2.2, Bool.true_or]
  case h_2 none_ => simp [numerals, bytesOfAddress] at none_

/-- The numbers of an address are its bytes. -/
theorem mapM_numerals (address : UInt32) :
    (numerals address).mapM labelNumber? = some (bytesOfAddress address) := by
  have all := bytesOfAddress_lt address
  rw [numerals]
  generalize bytesOfAddress address = bytes at all ⊢
  induction bytes with
  | nil => rfl
  | cons byte bytes ih =>
      obtain ⟨here, rest⟩ := List.forall_mem_cons.mp all
      rw [List.map_cons, List.mapM_cons, (toDigits_byte byte here).2.2.2, ih rest]
      rfl

theorem leadingBytes_three {a b c : Nat} (ha : a < 256) (hb : b < 256) (hc : c < 256) :
    leadingBytes 3 [a, b, c] =
      some (a * Nat.pow 256 3 + (b * Nat.pow 256 2 + c * Nat.pow 256 1)) := by
  simp [leadingBytes, Nat.not_lt.mpr (Nat.le_of_lt_succ ha), Nat.not_lt.mpr (Nat.le_of_lt_succ hb),
    Nat.not_lt.mpr (Nat.le_of_lt_succ hc)]

/-- An address of four numbers is read as it is written. -/
theorem ipv4Of?_ipv4Text (address : UInt32) : ipv4Of? (ipv4Text address) = some address := by
  have few : ¬4 < (numerals address).length := by simp [numerals, bytesOfAddress]
  rw [ipv4Of?, addressLabels_ipv4Text]
  dsimp only
  rw [if_neg few, mapM_numerals]
  obtain ⟨ha, hb, hc, hd⟩ : _ ∧ _ ∧ _ ∧ _ := by
    simpa [bytesOfAddress] using bytesOfAddress_lt address
  have last : ¬Nat.pow 256 (4 - 3) ≤ address.toNat % 256 :=
    Nat.not_le.mpr (Nat.mod_lt _ (by decide))
  have whole : address.toNat / 2 ^ 24 * 256 ^ 3 + (address.toNat / 2 ^ 16 % 256 * 256 ^ 2 +
      address.toNat / 2 ^ 8 % 256 * 256 ^ 1) + address.toNat % 256 = address.toNat := by omega
  change (if Nat.pow 256 (4 - 3) ≤ address.toNat % 256 then none
    else (leadingBytes 3 [_, _, _]).bind fun sum =>
      some (UInt32.ofNat (sum + address.toNat % 256))) = some address
  rw [if_neg last, leadingBytes_three ha hb hc, Option.bind_some]
  exact congrArg some ((congrArg UInt32.ofNat whole).trans UInt32.ofNat_toNat)

theorem mem_ipv4Text {address : UInt32} (within : c ∈ ipv4Text address) :
    c = '.' ∨ IsLabelChar c := by
  rw [ipv4Text_eq] at within
  exact mem_forms (fun form member => (numerals_spec address form member).1) within

theorem ipv4Text_ne_nil (address : UInt32) : ipv4Text address ≠ [] := by
  intro empty
  have number := endsInNumber_ipv4Text address
  rw [empty] at number
  exact absurd number (by decide)

/-- The text of an address of four numbers is read as this address. -/
theorem specialHost_ipv4Text (address : UInt32) :
    specialHost (ipv4Text address) = .ok (.ipv4 address) := by
  have again : asciiDomain? (ipv4Text address) = some (ipv4Text address) := by
    rw [ipv4Text_eq]
    exact asciiDomain?_forms (by simp [numerals, bytesOfAddress])
      (fun form member => (numerals_spec address form member).1)
      fun form member => (numerals_spec address form member).2.1
  rw [specialHost_domain (ipv4Text_ne_nil address) (fun c => mem_ipv4Text) again,
    endsInNumber_ipv4Text, if_pos rfl, ipv4Of?_ipv4Text]

/-- A text in brackets ends where they do, whatever colons it holds. -/
theorem HostText.of_bracketed (chars : ∀ c ∈ text, 0x20 < c.toNat ∧ c ≠ '@' ∧ c ≠ '/' ∧ c ≠ '\\' ∧
    c ≠ '?' ∧ c ≠ '#') (plain : ∀ c ∈ text, c ≠ '[' ∧ c ≠ ']') :
    HostText ('[' :: (text ++ [']'])) := by
  refine ⟨List.cons_ne_nil _ _, fun c within => ?_, fun rest after => ?_⟩
  · rcases List.mem_cons.mp within with rfl | within
    · decide
    · rcases List.mem_append.mp within with inside | closing
      · exact chars c inside
      · obtain rfl := List.mem_singleton.mp closing
        decide
  · have ended : splitHost true false rest = ([], rest) := by
      rcases after with (rfl | ⟨path, rfl⟩) | ⟨port, rfl⟩ <;> rfl
    have inside : ∀ text : List Char, (∀ c ∈ text, endsAuthority true c = false) →
        (∀ c ∈ text, c ≠ '[' ∧ c ≠ ']') →
        splitHost true true (text ++ ']' :: rest) = (text ++ [']'], rest) := by
      intro text noEnd plain
      induction text with
      | nil =>
          rw [List.nil_append, splitHost, if_neg (by decide), if_neg (by decide),
            if_pos (by decide), ended]
          rfl
      | cons c text ih =>
          obtain ⟨here, later⟩ := List.forall_mem_cons.mp noEnd
          obtain ⟨⟨noOpening, noClosing⟩, others⟩ := List.forall_mem_cons.mp plain
          rw [List.cons_append, splitHost, here, if_neg (by simp),
            if_neg (by simpa using noOpening), if_neg (by simpa using noClosing), ih later others]
          rfl
    have noEnd : ∀ c ∈ text, endsAuthority true c = false := fun c within => by
      obtain ⟨-, -, noSlash, noBackslash, noQuery, noFragment⟩ := chars c within
      simp [endsAuthority, isSlash, noSlash, noBackslash, noQuery, noFragment]
    rw [List.cons_append, List.append_assoc, splitHost, if_neg (by decide), if_pos (by decide)]
    exact congrArg (fun found : List Char × List Char => ('[' :: found.1, found.2))
      (inside text noEnd plain)

/-- The labels of a host that are in their ASCII form are short enough for the numbers in them to
be read. -/
def Host.HasShortLabels (host : Host) : Prop :=
  ∀ label ∈ splitAll (· == '.') host.text, mark <+: label → label.length < 3855

/-- The ways in which a host is read. -/
theorem specialHost_cases (read : specialHost typed = .ok host) :
    (∃ domain text, asciiDomain? domain = some text ∧ text ≠ [] ∧ endsInNumber text = false ∧
      host = .domain text) ∨
    (∃ address, host = .ipv4 address) ∨
    ∃ pieces, pieces.length = 8 ∧ (∀ piece ∈ pieces, piece < 65536) ∧ host = .ipv6 pieces := by
  unfold specialHost at read
  split at read
  case h_1 rest =>
    unfold bracketed at read
    split at read
    case isTrue =>
      split at read
      case h_1 pieces found =>
        cases read
        obtain ⟨eight, small⟩ := of_ipv6Of? found
        exact .inr (.inr ⟨pieces, eight, small, rfl⟩)
      case h_2 => cases read
    case isFalse => cases read
  case h_2 =>
    split at read
    case h_1 => cases read
    case h_2 => cases read
    case h_3 text some_ found =>
      obtain ⟨domain, -, ascii⟩ := Option.bind_eq_some_iff.mp found
      split at read
      case isTrue =>
        split at read
        case h_1 address _ =>
          cases read
          exact .inr (.inl ⟨address, rfl⟩)
        case h_2 => cases read
      case isFalse noNumber =>
        cases read
        exact .inl ⟨domain, text, ascii, some_, Bool.eq_false_iff.mpr noNumber, rfl⟩

/-- A host that was read is told apart from what stands around it, and read as it is written.
Only labels that are too long for the numbers in their ASCII form are not. -/
theorem of_specialHost (read : specialHost typed = .ok host) :
    HostText host.text ∧ (host.HasShortLabels → specialHost host.text = .ok host) := by
  have domainText (text : List Char) (some_ : text ≠ [])
      (chars : ∀ c ∈ text, c = '.' ∨ IsLabelChar c) : HostText text :=
    .of_plain some_ (fun c within => (hostChar_of_domain (chars c within)).1)
      fun c within => (hostChar_of_domain (chars c within)).2.1
  rcases specialHost_cases read with
    ⟨domain, text, ascii, some_, noNumber, rfl⟩ | ⟨address, rfl⟩ | ⟨pieces, eight, small, rfl⟩
  · have chars : ∀ c ∈ text, c = '.' ∨ IsLabelChar c := fun c => mem_asciiDomain? ascii
    refine ⟨domainText text some_ chars, fun short => ?_⟩
    rw [Host.text, specialHost_domain some_ chars (asciiDomain?_again ascii short), noNumber,
      if_neg Bool.false_ne_true]
  · exact ⟨domainText _ (ipv4Text_ne_nil address) fun c => mem_ipv4Text,
      fun _ => specialHost_ipv4Text address⟩
  · have chars : ∀ c ∈ ipv6Text pieces, (0x20 < c.toNat ∧ c ≠ '@' ∧ c ≠ '/' ∧ c ≠ '\\' ∧ c ≠ '?' ∧
        c ≠ '#') ∧ c ≠ '[' ∧ c ≠ ']' := by
      have digits : ∀ d < 16, (0x20 < (Nat.digitChar d).toNat ∧ Nat.digitChar d ≠ '@' ∧
          Nat.digitChar d ≠ '/' ∧ Nat.digitChar d ≠ '\\' ∧ Nat.digitChar d ≠ '?' ∧
          Nat.digitChar d ≠ '#') ∧ Nat.digitChar d ≠ '[' ∧ Nat.digitChar d ≠ ']' := by
        decide
      intro c within
      rcases mem_ipv6Text within with rfl | ⟨d, small, rfl⟩
      · decide
      · exact digits d small
    refine ⟨.of_bracketed (fun c within => (chars c within).1) fun c within => (chars c within).2,
      fun _ => ?_⟩
    rw [Host.text, specialHost, bracketed, List.getLast?_concat, if_pos (beq_self_eq_true _),
      List.dropLast_concat, ipv6Of?_ipv6Text eight small]

end UtilityBilling.Url
