/-
Apportionment by largest remainders.

An amount is split over weights: everybody gets the floor of the exact share,
and the units left go one each to a list of positions. Whatever the positions,
as long as there are enough of them the shares add up to the amount
(`sum_apportion`); the order by remainders (`byRemainder`) says who gets them.
-/

import Mathlib.Algebra.BigOperators.Group.List.Basic
import Mathlib.Algebra.Order.BigOperators.Group.List
import Mathlib.Data.List.Sort
import Mathlib.Tactic.Linarith
import Mathlib.Tactic.LinearCombination
import Mathlib.Tactic.Ring

namespace Apportion

/-- The floors of the exact shares. -/
def floors (total amount : Int) (weights : List Int) : List Int :=
  weights.map fun w => w * amount / total

def remainders (total amount : Int) (weights : List Int) : List Int :=
  weights.map fun w => w * amount % total

/-- One unit more at each of the positions. -/
def bump (positions : List Nat) (shares : List Int) : List Int :=
  positions.foldl (fun shares i => shares.modify i (· + 1)) shares

/-- The larger remainder first, and of equal ones the earlier. -/
def Precedes (remainders : List Int) (a b : Nat) : Prop :=
  remainders.getD b 0 < remainders.getD a 0 ∨
    (remainders.getD a 0 = remainders.getD b 0 ∧ a ≤ b)

instance (remainders : List Int) : DecidableRel (Precedes remainders) := fun a b => by
  unfold Precedes; infer_instance

/-- All positions in the order in which they are served. -/
def byRemainder (remainders : List Int) : List Nat :=
  (List.range remainders.length).insertionSort (Precedes remainders)

/-- The shares: floors, and one of the units left for each of the first. -/
def apportion (total amount : Int) (weights : List Int) : List Int :=
  let shares := floors total amount weights
  bump ((byRemainder (remainders total amount weights)).take (amount - shares.sum).toNat) shares

variable {total amount : Int} {weights shares : List Int} {positions : List Nat}

theorem sum_modify_succ {i : Nat} (h : i < shares.length) :
    (shares.modify i (· + 1)).sum = shares.sum + 1 := by
  induction shares generalizing i with
  | nil => cases h
  | cons s shares ih =>
      cases i with
      | zero =>
          rw [List.modify_zero_cons, List.sum_cons, List.sum_cons]
          ring
      | succ i =>
          rw [List.modify_succ_cons, List.sum_cons, List.sum_cons,
            ih (Nat.lt_of_succ_lt_succ h)]
          ring

@[simp] theorem length_bump : (bump positions shares).length = shares.length := by
  induction positions generalizing shares with
  | nil => rfl
  | cons i positions ih => exact ih.trans (List.length_modify ..)

theorem sum_bump (valid : ∀ i ∈ positions, i < shares.length) :
    (bump positions shares).sum = shares.sum + positions.length := by
  induction positions generalizing shares with
  | nil => simp [bump]
  | cons i positions ih =>
      have here := valid i List.mem_cons_self
      have rest : ∀ j ∈ positions, j < (shares.modify i (· + 1)).length := fun j hj => by
        rw [List.length_modify]
        exact valid j (List.mem_cons_of_mem _ hj)
      have sum := ih rest
      rw [sum_modify_succ here] at sum
      rw [bump, List.foldl_cons, ← bump, sum, List.length_cons]
      push_cast
      ring

@[simp] theorem length_floors (total amount : Int) (weights : List Int) :
    (floors total amount weights).length = weights.length :=
  List.length_map ..

@[simp] theorem length_remainders : (remainders total amount weights).length = weights.length :=
  List.length_map ..

@[simp] theorem length_apportion : (apportion total amount weights).length = weights.length := by
  rw [apportion, length_bump, length_floors]

theorem perm_byRemainder (rs : List Int) : (byRemainder rs).Perm (List.range rs.length) :=
  List.perm_insertionSort _ _

/-- Division, summed over the weights. -/
theorem floors_add_remainders (total amount : Int) (weights : List Int) :
    total * (floors total amount weights).sum + (remainders total amount weights).sum =
      weights.sum * amount := by
  induction weights with
  | nil => simp [floors, remainders]
  | cons w weights ih =>
      have division := Int.mul_ediv_add_emod (w * amount) total
      rw [floors, remainders, List.map_cons, List.map_cons, List.sum_cons, List.sum_cons,
        List.sum_cons, ← floors, ← remainders]
      linear_combination ih + division

/-- The remainders stay below as many totals as there are weights. -/
theorem remainders_bounds (pos : 0 < total) (amount : Int) (weights : List Int) :
    0 ≤ (remainders total amount weights).sum ∧
      (remainders total amount weights).sum ≤ total * weights.length := by
  induction weights with
  | nil => simp [remainders]
  | cons w weights ih =>
      have low := Int.emod_nonneg (w * amount) pos.ne'
      have high := Int.emod_lt_of_pos (w * amount) pos
      rw [remainders, List.map_cons, List.sum_cons, ← remainders, List.length_cons]
      push_cast
      constructor
      · linarith [ih.1]
      · linarith [ih.2]

/-- What the floors leave is at most one unit for each weight. -/
theorem left_bounds (amount : Int) (pos : 0 < total) (sum : weights.sum = total) :
    0 ≤ amount - (floors total amount weights).sum ∧
      amount - (floors total amount weights).sum ≤ weights.length := by
  have division := floors_add_remainders total amount weights
  have bounds := remainders_bounds pos amount weights
  rw [sum] at division
  have left : total * (amount - (floors total amount weights).sum) =
      (remainders total amount weights).sum := by
    linear_combination -division
  constructor
  · exact nonneg_of_mul_nonneg_right (left ▸ bounds.1) pos
  · exact le_of_mul_le_mul_left (left ▸ bounds.2) pos

/-- The shares add up to the amount. -/
theorem sum_apportion (pos : 0 < total) (sum : weights.sum = total) :
    (apportion total amount weights).sum = amount := by
  obtain ⟨low, high⟩ := left_bounds amount pos sum
  have perm := perm_byRemainder (remainders total amount weights)
  rw [apportion, sum_bump, List.length_take, perm.length_eq, List.length_range,
    length_remainders]
  · omega
  · intro i hi
    have mem := perm.mem_iff.mp (List.mem_of_mem_take hi)
    rwa [List.mem_range, length_remainders, ← length_floors total amount] at mem

end Apportion
