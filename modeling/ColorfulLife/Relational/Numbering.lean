/-
Rows numbered within groups.

A new row of a group takes one more than the greatest number of the group so far.
Without deletions the numbers of every group are then 1, 2, and so on, in the order
of insertion.
-/

import ColorfulLife.Relational.Table

namespace Relational

universe u

namespace Table

variable {ρ : Type u} (group number : ρ → Nat)

/-- The numbers of a group, in the order of insertion. -/
def numbers (t : Table ρ) (g : Nat) : List Nat :=
  (t.select fun _ r => decide (group r = g)).map fun e => number e.2

/-- The numbers of every group count up from one. -/
def Consecutive (t : Table ρ) : Prop :=
  ∀ g, t.numbers group number g = List.range' 1 (t.numbers group number g).length

variable {group number} {t : Table ρ} {r : ρ} {g : Nat}

theorem foldl_max_range' (n : Nat) : (List.range' 1 n).foldl max 0 = n := by
  induction n with
  | zero => rfl
  | succ n ih =>
      rw [List.range'_concat, List.foldl_append, ih]
      simp only [List.foldl_cons, List.foldl_nil]
      omega

theorem numbers_insert_of_ne (other : group r ≠ g) :
    (t.insert r).numbers group number g = t.numbers group number g := by
  simp [numbers, select, insert, other]

theorem numbers_insert_self :
    (t.insert r).numbers group number (group r) = t.numbers group number (group r) ++ [number r] := by
  simp [numbers, select, insert]

/-- The next number keeps counting. -/
theorem Consecutive.insert (h : t.Consecutive group number)
    (next : number r = (t.numbers group number (group r)).foldl max 0 + 1) :
    (t.insert r).Consecutive group number := by
  intro g
  by_cases own : group r = g
  · subst own
    have counted := h (group r)
    rw [counted, foldl_max_range'] at next
    rw [numbers_insert_self, List.length_append, List.length_singleton, List.range'_concat, ← counted,
      next]
    simp [Nat.add_comm]
  · rw [numbers_insert_of_ne own]
    exact h g

/-- Changes that leave the groups and the numbers alone leave the counting alone. -/
theorem numbers_modify {f : Nat → ρ → ρ} (sameGroup : ∀ k r, group (f k r) = group r)
    (sameNumber : ∀ k r, number (f k r) = number r) :
    (t.modify f).numbers group number g = t.numbers group number g := by
  simp [numbers, select, modify, List.filter_map, Function.comp_def, sameGroup, sameNumber]

theorem Consecutive.modify (h : t.Consecutive group number) {f : Nat → ρ → ρ}
    (sameGroup : ∀ k r, group (f k r) = group r) (sameNumber : ∀ k r, number (f k r) = number r) :
    (t.modify f).Consecutive group number := by
  intro g
  rw [numbers_modify sameGroup sameNumber]
  exact h g

end Table

end Relational
