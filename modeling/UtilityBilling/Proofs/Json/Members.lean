/-
# The members of objects that are read

An object that is read holds its members in the strict order of their keys, and so does every
object within a value that is read. So no key has two members, and it does not matter whether a
member is looked for among all members or among some that are kept.
-/

import Mathlib.Data.String.Basic
import UtilityBilling.Proofs.Json.Records

namespace UtilityBilling.Json

open UtilityBilling.Text (Bytes)

/-- Members stand in the strict order of their keys. -/
def InOrder (members : List (String × Value)) : Prop :=
  members.Pairwise fun first second => first.1 < second.1

/-- Every object in a value holds its members in order. -/
inductive Value.Ordered : Value → Prop where
  | null : Ordered .null
  | bool (value : Bool) : Ordered (.bool value)
  | number (n : Num) : Ordered (.number n)
  | text (s : String) : Ordered (.text s)
  | list {items : List Value} (each : ∀ item ∈ items, item.Ordered) : Ordered (.list items)
  | object {members : List (String × Value)} (order : InOrder members)
      (each : ∀ member ∈ members, member.2.Ordered) : Ordered (.object members)

variable {key : String} {value : Value} {members : List (String × Value)}

theorem mem_putMember {member : String × Value} (within : member ∈ putMember key value members) :
    member = (key, value) ∨ member ∈ members := by
  induction members with
  | nil => exact .inl (List.mem_singleton.mp within)
  | cons first rest ih =>
      obtain ⟨other, held⟩ := first
      rw [putMember] at within
      split at within
      · exact List.mem_cons.mp within
      · split at within
        · exact (List.mem_cons.mp within).imp_right (List.mem_cons_of_mem _)
        · rcases List.mem_cons.mp within with rfl | later
          · exact .inr List.mem_cons_self
          · exact (ih later).imp_right (List.mem_cons_of_mem _)

/-- Putting a member among others keeps them in order. -/
theorem InOrder.put (order : InOrder members) (key : String) (value : Value) :
    InOrder (putMember key value members) := by
  induction members with
  | nil => exact List.pairwise_singleton _ _
  | cons first rest ih =>
      obtain ⟨other, held⟩ := first
      obtain ⟨least, sorted⟩ := List.pairwise_cons.mp order
      rw [putMember]
      split
      case isTrue before =>
        refine List.pairwise_cons.mpr ⟨?_, order⟩
        intro member within
        rcases List.mem_cons.mp within with rfl | later
        · exact before
        · exact before.trans (least member later)
      case isFalse notBefore =>
        split
        case isTrue same =>
          obtain rfl := eq_of_beq same
          exact List.pairwise_cons.mpr ⟨least, sorted⟩
        case isFalse different =>
          have behind : other < key :=
            lt_of_le_of_ne (not_lt.mp notBefore) fun same => different (beq_iff_eq.mpr same.symm)
          refine List.pairwise_cons.mpr ⟨?_, ih sorted⟩
          intro member within
          rcases mem_putMember within with rfl | later
          · exact behind
          · exact least member later

/-- An object is made with its members in order. -/
theorem ordered_ofMembers (each : ∀ member ∈ members, member.2.Ordered) :
    (Value.ofMembers members).Ordered := by
  have fold : ∀ held : List (String × Value), InOrder held →
      (∀ member ∈ held, member.2.Ordered) →
      (Value.object
        (members.foldl (fun held first => putMember first.1 first.2 held) held)).Ordered := by
    induction members with
    | nil => exact fun held order heldEach => .object order heldEach
    | cons first rest ih =>
        intro held order heldEach
        obtain ⟨firstOrdered, restOrdered⟩ := List.forall_mem_cons.mp each
        refine ih restOrdered _ (order.put first.1 first.2) ?_
        intro member within
        rcases mem_putMember within with rfl | earlier
        · exact firstOrdered
        · exact heldEach member earlier
  exact fold [] .nil (by simp)

/-- With some fuel, what is read is in order. -/
structure ReadsInOrder (fuel : Nat) : Prop where
  value : ∀ {depth rest value after},
    readValueFrom fuel depth rest = .ok (value, after) → value.Ordered
  items : ∀ {depth first rest items after},
    readItemsFrom fuel depth first rest = .ok (items, after) → ∀ item ∈ items, item.Ordered
  members : ∀ {depth first rest members after},
    readMembersFrom fuel depth first rest = .ok (members, after) →
      ∀ member ∈ members, member.2.Ordered

/-- A reading that makes one kind of value, whatever it reads, makes an ordered one. -/
theorem ordered_of_map {α : Type} {read : Read α} {make : α → Value} {after : Bytes}
    (ordered : ∀ found, (make found).Ordered)
    (done : (read.map fun (found, r) => (make found, r)) = .ok (value, after)) : value.Ordered := by
  obtain ⟨found, rest, -, same⟩ := exists_of_map_eq_ok done
  cases same
  exact ordered found

theorem ordered_of_word {wanted rest after : Bytes} {word : Value} (ordered : word.Ordered)
    (done : ((readWord wanted rest).map fun r => (word, r)) = .ok (value, after)) :
    value.Ordered := by
  cases read : readWord wanted rest with
  | error fault =>
      rw [read] at done
      cases done
  | ok left =>
      rw [read] at done
      cases done
      exact ordered

theorem readsInOrder (fuel : Nat) : ReadsInOrder fuel := by
  induction fuel with
  | zero => constructor <;> (intros; contradiction)
  | succ fuel ih =>
      constructor
      case value =>
        intro depth rest value after read
        rw [readValueFrom] at read
        split at read
        case h_1 => cases read
        case h_2 byte beyond =>
          -- The three words, the two kinds of numbers, texts, lists, objects, and nothing else.
          split_ifs at read
          · exact ordered_of_word .null read
          · exact ordered_of_word (.bool true) read
          · exact ordered_of_word (.bool false) read
          · exact ordered_of_map .number read
          · exact ordered_of_map .number read
          · exact ordered_of_map .text read
          · cases read
          · split at read
            · cases read
            case h_2 items r found =>
              cases read
              exact .list (ih.items found)
          · cases read
          · split at read
            · cases read
            case h_2 members r found =>
              cases read
              exact ordered_ofMembers (ih.members found)
          · cases read
      case items =>
        intro depth first rest items after read
        rw [readItemsFrom] at read
        split at read
        · cases read
        · cases read
          simp
        · split at read
          · cases read
          case h_2 item r foundItem =>
            split at read
            · cases read
            case h_2 others r foundOthers =>
              cases read
              exact List.forall_mem_cons.mpr ⟨ih.value foundItem, ih.items foundOthers⟩
      case members =>
        intro depth first rest members after read
        rw [readMembersFrom] at read
        split at read
        · cases read
        · cases read
          simp
        · split at read
          · cases read
          · split at read
            · cases read
            · split at read
              · cases read
              case h_2 value r foundValue =>
                split at read
                · cases read
                case h_2 others r foundOthers =>
                  cases read
                  exact List.forall_mem_cons.mpr ⟨ih.value foundValue, ih.members foundOthers⟩

/-- Every object in a value that is read holds its members in the order of their keys. -/
theorem ordered_of_parse? {text : String} (parsed : parse? text = some value) : value.Ordered := by
  unfold parse? readAll at parsed
  cases read : readValue nestingBound (Text.bytesOf text) with
  | error fault =>
      rw [read] at parsed
      cases parsed
  | ok found =>
      obtain ⟨found, rest⟩ := found
      have ordered : found.Ordered := (readsInOrder _).value read
      rw [read] at parsed
      dsimp only at parsed
      cases ended : readEnd rest with
      | error fault =>
          rw [ended] at parsed
          cases parsed
      | ok done =>
          rw [ended] at parsed
          cases parsed
          exact ordered

end UtilityBilling.Json
