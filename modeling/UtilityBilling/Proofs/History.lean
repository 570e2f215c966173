/-
# Histories

A system is watched by writing down what it does, the latest entry first. A law of a
history says of every entry how it has to fit the entries before it; what came later
plays no part in it, so that a law which one step keeps is kept by a whole run. And where
a system remembers one of its parts, and all parts of a kind are the one that it remembers,
there is at most one of that kind.
-/

import Mathlib.Data.List.Nodup

namespace UtilityBilling

universe u

variable {ε : Type u}

/-- Every entry of a history, the latest first, fits the entries before it. -/
def Lawful (law : ε → List ε → Prop) : List ε → Prop
  | [] => True
  | entry :: earlier => law entry earlier ∧ Lawful law earlier

namespace Lawful

variable {law : ε → List ε → Prop}

@[simp]
theorem nil : Lawful law [] := trivial

@[simp]
theorem cons_iff {entry : ε} {earlier : List ε} :
    Lawful law (entry :: earlier) ↔ law entry earlier ∧ Lawful law earlier := Iff.rfl

instance decidable [∀ entry earlier, Decidable (law entry earlier)] :
    (history : List ε) → Decidable (Lawful law history)
  | [] => inferInstanceAs (Decidable True)
  | entry :: earlier =>
    have := decidable earlier
    inferInstanceAs (Decidable (law entry earlier ∧ Lawful law earlier))

/-- A law of a history holds at every entry, wherever the history is cut. -/
theorem at_entry {later earlier : List ε} {entry : ε}
    (lawful : Lawful law (later ++ entry :: earlier)) : law entry earlier := by
  induction later with
  | nil => exact lawful.1
  | cons _ _ ih => exact ih lawful.2

end Lawful

universe v

/-- Among parts with keys of their own there is at most one whose key is remembered. -/
theorem length_le_one_of_remembered {α : Type u} {κ : Type v} {parts : List α} {key : α → κ}
    (nodup : (parts.map key).Nodup) {remembered : Option κ}
    (same : ∀ part ∈ parts, remembered = some (key part)) : parts.length ≤ 1 := by
  cases remembered with
  | none =>
      have nothing : parts = [] :=
        List.eq_nil_iff_forall_not_mem.mpr fun part member => nomatch same part member
      simp [nothing]
  | some one =>
      have alike : ∀ part ∈ parts, key part = one :=
        fun part member => (Option.some.inj (same part member)).symm
      rw [List.map_eq_replicate_iff.mpr alike] at nodup
      exact List.nodup_replicate.mp nodup

end UtilityBilling
