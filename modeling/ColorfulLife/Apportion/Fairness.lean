/-
What everybody gets under largest remainders.

The units left are fewer than the positions with a remainder, so that only these
are served (`remainder_pos_of_served`). From this every share is within one unit
of the exact one (`share_close`), and the shares are monotone in the weights
(`share_mono`, `share_mono_of_eq`).
-/

import ColorfulLife.Apportion.LargestRemainder

namespace Apportion

variable {rs weights shares : List Int} {positions : List Nat} {total amount : Int} {i j k : Nat}

/-! ### Bumping -/

/-- A position in the list gets one unit, and the others none. -/
theorem getElem?_bump (nodup : positions.Nodup) (i : Nat) :
    (bump positions shares)[i]? = shares[i]?.map fun s => if i ∈ positions then s + 1 else s := by
  induction positions generalizing shares with
  | nil => simp [bump]
  | cons j positions ih =>
      obtain ⟨fresh, rest⟩ := List.nodup_cons.mp nodup
      rw [bump, List.foldl_cons, ← bump, ih rest, List.getElem?_modify, Option.map_eq_map,
        Option.map_map]
      congr 1
      funext s
      by_cases here : j = i
      · subst here
        simp [fresh]
      · simp [here, Ne.symm here]

/-! ### The order of service -/

theorem Precedes.refl (rs : List Int) (a : Nat) : Precedes rs a a := Or.inr ⟨rfl, le_rfl⟩

instance (rs : List Int) : Std.Total (Precedes rs) where
  total a b := by
    unfold Precedes
    omega

instance (rs : List Int) : IsTrans Nat (Precedes rs) where
  trans a b c := by
    unfold Precedes
    omega

theorem Precedes.antisymm (h : Precedes rs i j) (h' : Precedes rs j i) : i = j := by
  unfold Precedes at h h'
  omega

theorem pairwise_byRemainder (rs : List Int) : (byRemainder rs).Pairwise (Precedes rs) :=
  List.pairwise_insertionSort _ _

theorem mem_byRemainder : i ∈ byRemainder rs ↔ i < rs.length := by
  rw [(perm_byRemainder rs).mem_iff, List.mem_range]

theorem nodup_byRemainder (rs : List Int) : (byRemainder rs).Nodup :=
  (perm_byRemainder rs).nodup_iff.mpr List.nodup_range

/-- Whoever precedes somebody served is served. -/
theorem mem_take_of_precedes (served : j ∈ (byRemainder rs).take k) (valid : i < rs.length)
    (first : Precedes rs i j) : i ∈ (byRemainder rs).take k := by
  have order := pairwise_byRemainder rs
  rw [← List.take_append_drop k (byRemainder rs), List.pairwise_append] at order
  have mem : i ∈ (byRemainder rs).take k ++ (byRemainder rs).drop k := by
    rw [List.take_append_drop]
    exact mem_byRemainder.mpr valid
  rcases List.mem_append.mp mem with front | back
  · exact front
  · have second : Precedes rs j i := order.2.2 j served i back
    exact first.antisymm second ▸ served

/-- How many positions are served before this one. -/
def rank (rs : List Int) (i : Nat) : Nat :=
  (List.range rs.length).countP fun j => decide (Precedes rs j i ∧ j ≠ i)

/-- The first `k` to be served are those of rank below `k`. -/
theorem mem_take_iff_rank (valid : i < rs.length) :
    i ∈ (byRemainder rs).take k ↔ rank rs i < k := by
  have order := pairwise_byRemainder rs
  have nodup := nodup_byRemainder rs
  obtain ⟨front, back, split⟩ := List.append_of_mem (mem_byRemainder.mpr valid)
  rw [split] at order nodup
  obtain ⟨-, later, before⟩ := List.pairwise_append.mp order
  have fresh : i ∉ front := fun mem =>
    (List.disjoint_of_nodup_append nodup) mem List.mem_cons_self
  have ahead : ∀ j ∈ front, Precedes rs j i ∧ j ≠ i := fun j mem =>
    ⟨before j mem i List.mem_cons_self, fun same => fresh (same ▸ mem)⟩
  have behind : ∀ j ∈ i :: back, ¬ (Precedes rs j i ∧ j ≠ i) := by
    rintro j mem ⟨first, other⟩
    rcases List.mem_cons.mp mem with same | mem
    · exact other same
    · exact other (first.antisymm ((List.pairwise_cons.mp later).1 j mem))
  have count : rank rs i = front.length := by
    rw [rank, ← (perm_byRemainder rs).countP_eq, split, List.countP_append,
      List.countP_eq_length.mpr fun j mem => decide_eq_true (ahead j mem),
      List.countP_eq_zero.mpr fun j mem => by simpa using behind j mem, Nat.add_zero]
  rw [count, split, List.take_append, List.mem_append]
  constructor
  · rintro (mem | mem)
    · exact absurd (List.mem_of_mem_take mem) fresh
    · by_contra short
      rw [Nat.sub_eq_zero_of_le (Nat.le_of_not_lt short)] at mem
      cases mem
  · intro long
    obtain ⟨n, more⟩ := Nat.exists_eq_add_of_lt long
    refine Or.inr ?_
    rw [show k - front.length = n + 1 by omega, List.take_succ_cons]
    exact List.mem_cons_self

/-- The remainders, in the order of service. -/
theorem sum_byRemainder (rs : List Int) : ((byRemainder rs).map (rs.getD · 0)).sum = rs.sum := by
  have inOrder : (List.range rs.length).map (rs.getD · 0) = rs := by
    apply List.ext_getElem
    · simp
    · intro n _ valid
      simp [valid]
  rw [((perm_byRemainder rs).map _).sum_eq, inOrder]

/-! ### Who is served -/

/-- The positions that get one of the units left. -/
def served (total amount : Int) (weights : List Int) : List Nat :=
  (byRemainder (remainders total amount weights)).take
    (amount - (floors total amount weights).sum).toNat

theorem apportion_eq_bump : apportion total amount weights =
    bump (served total amount weights) (floors total amount weights) := rfl

theorem nodup_served (total amount : Int) (weights : List Int) :
    (served total amount weights).Nodup :=
  (List.take_sublist _ _).nodup (nodup_byRemainder _)

/-- There are as many of them as units left. -/
theorem length_served (amount : Int) (pos : 0 < total) (sum : weights.sum = total) :
    ((served total amount weights).length : Int) =
      amount - (floors total amount weights).sum := by
  obtain ⟨low, high⟩ := left_bounds amount pos sum
  rw [served, List.length_take, (perm_byRemainder _).length_eq, List.length_range,
    length_remainders]
  omega

theorem getD_remainders_bounds (amount : Int) (weights : List Int) (pos : 0 < total) (i : Nat) :
    0 ≤ (remainders total amount weights).getD i 0 ∧
      (remainders total amount weights).getD i 0 < total := by
  rw [remainders, List.getD_eq_getElem?_getD, List.getElem?_map]
  cases weights[i]? with
  | none => exact ⟨le_rfl, pos⟩
  | some w => exact ⟨Int.emod_nonneg _ pos.ne', Int.emod_lt_of_pos _ pos⟩

/-- Only positions with a remainder are served: the others come last, and the
units left are fewer than the positions before them. -/
theorem remainder_pos_of_served (pos : 0 < total) (sum : weights.sum = total)
    (h : i ∈ served total amount weights) :
    0 < (remainders total amount weights).getD i 0 := by
  have bounds := getD_remainders_bounds amount weights pos
  have order := pairwise_byRemainder (remainders total amount weights)
  have sums := sum_byRemainder (remainders total amount weights)
  have division := floors_add_remainders total amount weights
  have count := length_served amount pos sum
  obtain ⟨front, mid, split⟩ := List.append_of_mem h
  have whole : byRemainder (remainders total amount weights) = front ++ i :: (mid ++
      (byRemainder (remainders total amount weights)).drop
        (amount - (floors total amount weights).sum).toNat) := by
    rw [← List.cons_append, ← List.append_assoc, ← split, served, List.take_append_drop]
  generalize mid ++ (byRemainder (remainders total amount weights)).drop
    (amount - (floors total amount weights).sum).toNat = back at whole
  rw [whole] at order sums
  by_contra zero
  have last : ∀ j ∈ back, (remainders total amount weights).getD j 0 = 0 := by
    intro j hj
    have after : Precedes _ i j := (List.pairwise_cons.mp (List.pairwise_append.mp order).2.1).1 j hj
    have low := (bounds j).1
    unfold Precedes at after
    omega
  have back_sum : (back.map ((remainders total amount weights).getD · 0)).sum = 0 := by
    apply List.sum_eq_zero
    intro x hx
    obtain ⟨j, hj, rfl⟩ := List.mem_map.mp hx
    exact last j hj
  have front_sum : (front.map ((remainders total amount weights).getD · 0)).sum ≤
      front.length * total := by
    have each := List.sum_le_card_nsmul (front.map ((remainders total amount weights).getD · 0))
      total fun x hx => by
        obtain ⟨j, -, rfl⟩ := List.mem_map.mp hx
        exact (bounds j).2.le
    simpa using each
  have shorter : (front.length : Int) + 1 ≤ (served total amount weights).length := by
    rw [split, List.length_append, List.length_cons]
    push_cast
    omega
  rw [List.map_append, List.map_cons, List.sum_append, List.sum_cons, back_sum] at sums
  have left : total * (amount - (floors total amount weights).sum) =
      (remainders total amount weights).sum := by
    rw [sum] at division
    linear_combination -division
  rw [← count] at left
  have more : (front.length + 1) * total ≤ (served total amount weights).length * total :=
    mul_le_mul_of_nonneg_right shorter pos.le
  have low := (bounds i).1
  linarith

/-! ### Shares -/

section Shares

variable {a b w v : Int}

/-- A share is the floor, and one unit more when the position is served. -/
theorem share_eq (share : (apportion total amount weights)[i]? = some a)
    (weight : weights[i]? = some w) :
    a = w * amount / total + if i ∈ served total amount weights then 1 else 0 := by
  rw [apportion_eq_bump, getElem?_bump (nodup_served total amount weights), floors,
    List.getElem?_map, weight, Option.map_some, Option.map_some, Option.some.injEq] at share
  rw [← share]
  split
  · rfl
  · exact (Int.add_zero _).symm

/-- The share of a position in closed form: the floor of the exact share, and one
unit more when fewer positions come first than units are left. -/
def shareAt (weights : List Int) (amount : Int) (i : Nat) : Int :=
  weights.getD i 0 * amount / weights.sum +
    if (rank (remainders weights.sum amount weights) i : Int) <
      amount - (floors weights.sum amount weights).sum then 1 else 0

theorem getElem?_apportion (weight : weights[i]? = some w) :
    (apportion weights.sum amount weights)[i]? = some (shareAt weights amount i) := by
  have valid : i < weights.length := (List.getElem?_eq_some_iff.mp weight).1
  have share := List.getElem?_eq_getElem (l := apportion weights.sum amount weights) (i := i)
    (by rwa [length_apportion])
  rw [share, share_eq share weight, shareAt, List.getD_eq_getElem?_getD, weight, Option.getD_some]
  have served_iff : i ∈ served weights.sum amount weights ↔
      (rank (remainders weights.sum amount weights) i : Int) <
        amount - (floors weights.sum amount weights).sum := by
    rw [served, mem_take_iff_rank (by rwa [length_remainders]), Int.lt_toNat]
  simp only [served_iff]

theorem getD_remainders (weight : weights[i]? = some w) :
    (remainders total amount weights).getD i 0 = w * amount % total := by
  rw [remainders, List.getD_eq_getElem?_getD, List.getElem?_map, weight]
  rfl

/-- Every share is within one unit of the exact one. -/
theorem share_close (pos : 0 < total) (sum : weights.sum = total)
    (share : (apportion total amount weights)[i]? = some a) (weight : weights[i]? = some w) :
    |a * total - w * amount| < total := by
  have division := Int.mul_ediv_add_emod (w * amount) total
  have low := Int.emod_nonneg (w * amount) pos.ne'
  have high := Int.emod_lt_of_pos (w * amount) pos
  have value := share_eq share weight
  rw [abs_lt]
  split at value
  · rename_i isServed
    have some_left := remainder_pos_of_served pos sum isServed
    rw [getD_remainders weight] at some_left
    rw [value]
    constructor <;> linarith
  · rw [value]
    constructor <;> linarith

/-- A weight of zero gets nothing. -/
theorem share_zero (pos : 0 < total) (sum : weights.sum = total)
    (share : (apportion total amount weights)[i]? = some a) (weight : weights[i]? = some 0) :
    a = 0 := by
  have close := abs_lt.mp (share_close pos sum share weight)
  rw [zero_mul, sub_zero] at close
  have upper : a < 1 := by nlinarith [close.2]
  have lower : -1 < a := by nlinarith [close.1]
  omega

/-- Shares of an amount that is not negative are not negative. -/
theorem share_nonneg (pos : 0 < total) (nonneg : 0 ≤ amount) (weight : weights[i]? = some w)
    (hw : 0 ≤ w) (share : (apportion total amount weights)[i]? = some a) : 0 ≤ a := by
  have floor : 0 ≤ w * amount / total := Int.ediv_nonneg (mul_nonneg hw nonneg) pos.le
  have value := share_eq share weight
  split at value <;> omega

/-- Nobody gets more than their weight of an amount within the total. -/
theorem share_le (pos : 0 < total) (sum : weights.sum = total) (within : amount ≤ total)
    (weight : weights[i]? = some w) (hw : 0 ≤ w)
    (share : (apportion total amount weights)[i]? = some a) : a ≤ w := by
  have close := (abs_lt.mp (share_close pos sum share weight)).2
  have exact_le : w * amount ≤ w * total := mul_le_mul_of_nonneg_left within hw
  have strict : a * total < (w + 1) * total := by linarith
  have := lt_of_mul_lt_mul_right strict pos.le
  omega

/-- A larger weight does not get less. -/
theorem share_mono (pos : 0 < total) (sum : weights.sum = total) (nonneg : 0 ≤ amount)
    (share : (apportion total amount weights)[i]? = some a) (weight : weights[i]? = some w)
    (share' : (apportion total amount weights)[j]? = some b) (weight' : weights[j]? = some v)
    (larger : v < w) : b ≤ a := by
  have value := share_eq share weight
  have value' := share_eq share' weight'
  have product : v * amount ≤ w * amount := mul_le_mul_of_nonneg_right larger.le nonneg
  have floors : v * amount / total ≤ w * amount / total := Int.ediv_le_ediv pos product
  by_cases tie : v * amount / total = w * amount / total
  · -- Equal floors: the larger weight has the larger remainder and is served first.
    have follows : j ∈ served total amount weights → i ∈ served total amount weights := by
      intro isServed
      have some_left := remainder_pos_of_served pos sum isServed
      have division := Int.mul_ediv_add_emod (v * amount) total
      have division' := Int.mul_ediv_add_emod (w * amount) total
      rw [tie] at division
      have valid : i < (remainders total amount weights).length := by
        rw [length_remainders]
        exact (List.getElem?_eq_some_iff.mp weight).1
      refine mem_take_of_precedes isServed valid (Or.inl ?_)
      rw [getD_remainders weight'] at some_left ⊢
      rw [getD_remainders weight]
      have strict : v * amount < w * amount := by
        rcases nonneg.lt_or_eq with positive | rfl
        · exact mul_lt_mul_of_pos_right larger positive
        · simp at some_left
      linarith
    split at value' <;> split at value
    · omega
    · exact absurd (follows ‹_›) ‹_›
    · omega
    · omega
  · split at value' <;> split at value <;> omega

/-- Of equal weights the earlier does not get less. -/
theorem share_mono_of_eq (share : (apportion total amount weights)[i]? = some a)
    (weight : weights[i]? = some w) (share' : (apportion total amount weights)[j]? = some b)
    (weight' : weights[j]? = some w) (earlier : i < j) : b ≤ a := by
  have value := share_eq share weight
  have value' := share_eq share' weight'
  have follows : j ∈ served total amount weights → i ∈ served total amount weights := by
    intro isServed
    have valid : i < (remainders total amount weights).length := by
      rw [length_remainders]
      exact (List.getElem?_eq_some_iff.mp weight).1
    refine mem_take_of_precedes isServed valid (Or.inr ⟨?_, earlier.le⟩)
    rw [getD_remainders weight, getD_remainders weight']
  split at value' <;> split at value
  · omega
  · exact absurd (follows ‹_›) ‹_›
  · omega
  · omega

/-- Nothing to split. -/
theorem apportion_zero (total : Int) (weights : List Int) :
    apportion total 0 weights = weights.map fun _ => 0 := by
  have none_left : floors total 0 weights = weights.map fun _ => 0 := by
    simp [floors]
  have zero : (weights.map fun _ => (0 : Int)).sum = 0 := by simp
  rw [apportion, none_left, zero]
  rfl

end Shares

end Apportion
