/-
Units with owners.

A pool is a list of units, each labelled with its owner or free. Free units
come before owned ones, and owned ones in the order of their owners; what is
taken off a pool is taken off in that order. The order in the list itself means
nothing: a pool is known by its length and by how many units each owner has.

A ledger is the other way to keep a pool: a length, and one block of units for
each owner. `resize` on the units and `takeOff` on the blocks agree.
-/

import Mathlib.Algebra.GroupWithZero.Nat
import Mathlib.Data.List.Sort
import Mathlib.Order.WithBot

namespace Labelled

universe u

/-- `⊥` is the label of a free unit. -/
abbrev Pool (ι : Type u) := List (WithBot ι)

variable {ι : Type u}

namespace Pool

variable (units : Pool ι)

/-! ### Operations -/

def add (n : Nat) : Pool ι := units ++ List.replicate n ⊥

@[simp] theorem length_add (n : Nat) : (units.add n).length = units.length + n := by simp [add]

variable [LinearOrder ι]

def free : Nat := units.count ⊥

def owned (i : ι) : Nat := units.count (i : WithBot ι)

/-- Give `n` free units to an owner. -/
def claim (i : ι) : Nat → Pool ι → Pool ι
  | _, [] => []
  | 0, units => units
  | n + 1, u :: units => if u = ⊥ then i :: claim i n units else u :: claim i (n + 1) units

/-- Take away the units of an owner. -/
def consume (i : ι) : Pool ι := units.filter fun u => decide (u ≠ i)

/-- Free the units of an owner. -/
def release (i : ι) : Pool ι := units.map fun u : WithBot ι => if u = i then ⊥ else u

/-- Take `n` units off: free ones first, then owned ones, first owner first. -/
def shrink (n : Nat) : Pool ι := (units.insertionSort (· ≤ ·)).drop n

/-- Bring the pool to `n` units. -/
def resize (n : Nat) : Pool ι :=
  if units.length < n then units.add (n - units.length) else units.shrink (units.length - n)

/-! ### What they do to the counts -/

@[simp] theorem owned_add (n : Nat) (i : ι) : (units.add n).owned i = units.owned i := by
  simp [add, owned, List.count_replicate]

@[simp] theorem length_claim (i : ι) (n : Nat) : (claim i n units).length = units.length := by
  induction units generalizing n with
  | nil => simp [claim]
  | cons u units ih =>
      cases n with
      | zero => simp [claim]
      | succ n =>
          rw [claim]
          split <;> simp [ih]

theorem owned_claim_of_ne {i j : ι} (h : j ≠ i) (n : Nat) :
    (claim i n units).owned j = units.owned j := by
  unfold owned
  induction units generalizing n with
  | nil => simp [claim]
  | cons u units ih =>
      cases n with
      | zero => simp [claim]
      | succ n =>
          rw [claim]
          split
          · simp [h.symm, *]
          · simp [List.count_cons, ih]

/-- The owner gets the units, if there are as many free ones. -/
theorem owned_claim {i : ι} {n : Nat} (enough : n ≤ units.free) :
    (claim i n units).owned i = units.owned i + n := by
  unfold free owned at *
  induction units generalizing n with
  | nil =>
      have none : n = 0 := by simpa using enough
      simp [claim, none]
  | cons u units ih =>
      cases n with
      | zero => simp [claim]
      | succ n =>
          rw [claim]
          split
          · subst u
            have rest : n ≤ units.count ⊥ := by simpa using enough
            simp [ih rest]
            omega
          · have rest : n + 1 ≤ units.count ⊥ := by simpa [List.count_cons, *] using enough
            simp only [List.count_cons, ih rest]
            omega

theorem length_consume (i : ι) : (units.consume i).length + units.owned i = units.length := by
  have split := List.length_eq_countP_add_countP (· == (i : WithBot ι)) (l := units)
  rw [consume, ← List.countP_eq_length_filter, owned, List.count, Nat.add_comm]
  simpa using split.symm

@[simp] theorem owned_consume_self (i : ι) : (units.consume i).owned i = 0 := by
  simp [consume, owned, List.count_eq_zero]

theorem owned_consume_of_ne {i j : ι} (h : j ≠ i) : (units.consume i).owned j = units.owned j := by
  rw [consume, owned, List.count_filter]
  · rfl
  · simpa using h

/-- No free unit is taken away. -/
@[simp] theorem free_consume (i : ι) : (units.consume i).free = units.free := by
  rw [consume, free, List.count_filter]
  · rfl
  · simp

@[simp] theorem length_release (i : ι) : (units.release i).length = units.length := by
  simp [release]

@[simp] theorem owned_release_self (i : ι) : (units.release i).owned i = 0 := by
  rw [release, owned, List.count_eq_zero]
  intro mem
  obtain ⟨u, -, h⟩ := List.mem_map.mp mem
  split at h
  · simp at h
  · contradiction

theorem owned_release_of_ne {i j : ι} (h : j ≠ i) : (units.release i).owned j = units.owned j := by
  unfold owned
  induction units with
  | nil => rfl
  | cons u units ih =>
      unfold release at ih ⊢
      by_cases own : u = i
      · subst own
        simp [ih, h.symm]
      · simp [List.count_cons, ih, own]

/-- Nobody gains by a resize. -/
theorem owned_resize_le (n : Nat) (i : ι) : (units.resize n).owned i ≤ units.owned i := by
  unfold resize
  split
  · exact le_of_eq (units.owned_add _ i)
  · have sorted : units.owned i = (units.insertionSort (· ≤ ·)).count (i : WithBot ι) :=
      ((List.perm_insertionSort _ units).count_eq _).symm
    rw [sorted]
    exact (List.drop_sublist _ _).count_le _

end Pool

/-! ### Ledgers -/

/-- One block of units for each entry. -/
abbrev Blocks (ι : Type u) := List (ι × Nat)

namespace Blocks

variable (blocks : Blocks ι)

/-- The units of the blocks. -/
def expand : Pool ι := blocks.flatMap fun b => List.replicate b.2 (b.1 : WithBot ι)

/-- The units of the owners that satisfy `P`. -/
def weight (P : ι → Bool) : Nat := ((blocks.filter fun b => P b.1).map Prod.snd).sum

def total : Nat := blocks.weight fun _ => true

/-- The units of one owner. -/
def share [DecidableEq ι] (i : ι) : Nat := blocks.weight fun j => decide (j = i)

/-- Take units off, block by block. -/
def takeOff : Blocks ι → Nat → Blocks ι
  | [], _ => []
  | b :: blocks, n => (b.1, b.2 - n) :: takeOff blocks (n - b.2)

@[simp] theorem expand_cons (b : ι × Nat) :
    expand (b :: blocks) = List.replicate b.2 (b.1 : WithBot ι) ++ expand blocks := by
  simp [expand]

@[simp] theorem weight_cons (P : ι → Bool) (b : ι × Nat) :
    weight (b :: blocks) P = (if P b.1 then b.2 else 0) + weight blocks P := by
  by_cases hp : P b.1 = true <;> simp [weight, hp]

theorem length_expand : (expand blocks).length = total blocks := by
  induction blocks with
  | nil => rfl
  | cons b blocks ih => simpa [total] using ih

theorem owned_expand [LinearOrder ι] (i : ι) :
    (expand blocks).count (i : WithBot ι) = share blocks i := by
  induction blocks with
  | nil => rfl
  | cons b blocks ih =>
      rw [expand_cons, List.count_append, ih, List.count_replicate]
      by_cases own : b.1 = i <;> simp [share, own]

/-- Block by block is unit by unit. -/
theorem expand_takeOff (n : Nat) : expand (takeOff blocks n) = (expand blocks).drop n := by
  induction blocks generalizing n with
  | nil => simp [takeOff, expand]
  | cons b blocks ih => simp [takeOff, List.drop_append, ih]

theorem total_takeOff (n : Nat) : (takeOff blocks n).total = blocks.total - n := by
  rw [← length_expand, expand_takeOff, List.length_drop, length_expand]

theorem takeOff_zero : takeOff blocks 0 = blocks := by
  induction blocks with
  | nil => rfl
  | cons b blocks ih => simp [takeOff, ih]

@[simp] theorem length_takeOff (n : Nat) : (takeOff blocks n).length = blocks.length := by
  induction blocks generalizing n with
  | nil => rfl
  | cons b blocks ih => simp [takeOff, ih]

/-- One block is cut; those before it are emptied, those after it are whole. -/
theorem takeOff_position (n : Nat) :
    ∃ position, ∀ (i : Nat) (b b' : ι × Nat), blocks[i]? = some b →
      (takeOff blocks n)[i]? = some b' →
      b'.2 ≤ b.2 ∧ (i < position → b'.2 = 0) ∧ (position < i → b' = b) := by
  induction blocks generalizing n with
  | nil => exact ⟨0, fun i b b' hb => by simp at hb⟩
  | cons block blocks ih =>
      by_cases enough : n ≤ block.2
      · refine ⟨0, fun i b b' hb hb' => ?_⟩
        rw [takeOff, Nat.sub_eq_zero_of_le enough, takeOff_zero] at hb'
        cases i with
        | zero =>
            obtain rfl := Option.some.inj hb
            obtain rfl := Option.some.inj hb'
            exact ⟨Nat.sub_le _ _, nofun, nofun⟩
        | succ i =>
            obtain rfl : b = b' := Option.some.inj (hb.symm.trans hb')
            exact ⟨le_rfl, nofun, fun _ => rfl⟩
      · obtain ⟨position, cut⟩ := ih (n - block.2)
        refine ⟨position + 1, fun i b b' hb hb' => ?_⟩
        cases i with
        | zero =>
            obtain rfl := Option.some.inj hb
            obtain rfl := Option.some.inj hb'
            exact ⟨Nat.sub_le _ _, fun _ => by dsimp only; omega, nofun⟩
        | succ i =>
            obtain ⟨le, earlier, later⟩ := cut i b b' hb hb'
            exact ⟨le, fun before => earlier (Nat.lt_of_succ_lt_succ before),
              fun after => later (Nat.lt_of_succ_lt_succ after)⟩

variable [LinearOrder ι]

/-- Blocks in the order of their owners. -/
def Ordered : Prop := blocks.Pairwise fun a b => a.1 ≤ b.1

theorem expand_sorted {blocks : Blocks ι} (ordered : Ordered blocks) :
    (expand blocks).Pairwise (· ≤ ·) := by
  induction blocks with
  | nil => exact List.Pairwise.nil
  | cons b blocks ih =>
      obtain ⟨first, rest⟩ := List.pairwise_cons.mp ordered
      rw [expand_cons, List.pairwise_append]
      refine ⟨List.pairwise_replicate.mpr (Or.inr le_rfl), ih rest, fun u hu v hv => ?_⟩
      obtain ⟨c, hc, hv⟩ := List.mem_flatMap.mp hv
      rw [List.eq_of_mem_replicate hu, List.eq_of_mem_replicate hv]
      exact WithBot.coe_le_coe.mpr (first c hc)

end Blocks

/-! ### A ledger of a pool -/

variable [LinearOrder ι]

/-- The blocks say how many units each owner has. -/
def Pool.KeptBy (units : Pool ι) (blocks : Blocks ι) : Prop := ∀ i, units.owned i = blocks.share i

namespace Pool.KeptBy

variable {units : Pool ι} {blocks : Blocks ι}

/-- The units are the free ones and the blocks'. -/
theorem perm (kept : units.KeptBy blocks) :
    units.Perm (List.replicate units.free ⊥ ++ blocks.expand) := by
  rw [List.perm_iff_count]
  intro u
  induction u using WithBot.recBotCoe with
  | bot =>
      have none : blocks.expand.count ⊥ = 0 := by
        simp [List.count_eq_zero, Blocks.expand]
      simp [none, free]
  | coe i =>
      have owned : units.count (i : WithBot ι) = blocks.share i := kept i
      simp [owned, Blocks.owned_expand, List.count_replicate]

theorem length (kept : units.KeptBy blocks) : units.length = units.free + blocks.total := by
  rw [kept.perm.length_eq, List.length_append, List.length_replicate, Blocks.length_expand]

/-- Free units go first, and then the blocks' in their order. -/
theorem resize (kept : units.KeptBy blocks) (ordered : blocks.Ordered) (n : Nat) :
    (units.resize n).length = n ∧
      (units.resize n).KeptBy (blocks.takeOff (blocks.total - n)) := by
  have whole := kept.length
  unfold Pool.resize
  split
  · refine ⟨by simp; omega, fun i => ?_⟩
    have none : blocks.total - n = 0 := by omega
    rw [none, Blocks.takeOff_zero, Pool.owned_add]
    exact kept i
  · have sorted : units.insertionSort (· ≤ ·) = List.replicate units.free ⊥ ++ blocks.expand := by
      refine List.Perm.eq_of_pairwise' (List.pairwise_insertionSort _ _) ?_
        ((List.perm_insertionSort _ _).trans kept.perm)
      refine List.pairwise_append.mpr
        ⟨List.pairwise_replicate.mpr (Or.inr le_rfl), Blocks.expand_sorted ordered,
          fun u hu v _ => ?_⟩
      rw [List.eq_of_mem_replicate hu]
      exact bot_le
    unfold Pool.shrink
    refine ⟨?_, fun i => ?_⟩
    · rw [List.length_drop, List.length_insertionSort]
      omega
    · have left : units.length - n - units.free = blocks.total - n := by omega
      rw [sorted, owned, List.drop_append, List.count_append, List.length_replicate, left,
        ← Blocks.expand_takeOff, Blocks.owned_expand]
      simp [List.count_replicate]

end Pool.KeptBy

end Labelled
