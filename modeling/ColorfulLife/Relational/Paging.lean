/-
Sorted selections and their pages.

A selection of a table has distinct keys, so sorting it and cutting it by
`OFFSET` and `LIMIT` puts every selected row on exactly one page.
-/

import ColorfulLife.Relational.Table
import Mathlib.Data.List.NodupEquivFin
import Mathlib.Data.PNat.Basic
import Mathlib.Data.Set.Card

namespace Relational

universe u

/-! ### Pages -/

section Pages

variable {α : Type u} {l : List α} {x : α} {size page : ℕ+}

/-- `OFFSET (page - 1) * size LIMIT size`. -/
def pageOf (l : List α) (size page : ℕ+) : List α :=
  (l.drop ((page - 1) * size : ℕ)).take size

theorem pageOf_sublist (l : List α) (size page : ℕ+) : (pageOf l size page).Sublist l :=
  (List.take_sublist _ _).trans (List.drop_sublist _ _)

/-- The positions on a page are those whose quotient by the page size is the
number of pages before it. -/
theorem mem_pageOf_iff :
    x ∈ pageOf l size page ↔ ∃ i, l[i]? = some x ∧ i / size = (page - 1 : ℕ) := by
  have pos : 0 < (size : ℕ) := size.pos
  rw [pageOf, List.mem_iff_getElem?]
  constructor
  · rintro ⟨i, hi⟩
    rw [List.getElem?_take] at hi
    split at hi
    · rename_i within
      rw [List.getElem?_drop] at hi
      refine ⟨_, hi, ?_⟩
      rw [mul_comm, Nat.mul_add_div pos, Nat.div_eq_of_lt within, add_zero]
    · cases hi
  · rintro ⟨i, hi, quotient⟩
    refine ⟨i % size, ?_⟩
    rw [List.getElem?_take, if_pos (Nat.mod_lt i pos), List.getElem?_drop, ← quotient,
      Nat.div_add_mod', hi]

/-- Everything on a list without repetitions is on exactly one of its pages. -/
theorem existsUnique_page (nodup : l.Nodup) (size : ℕ+) (mem : x ∈ l) :
    ∃! page : ℕ+, x ∈ pageOf l size page := by
  obtain ⟨i, hi⟩ := List.mem_iff_getElem?.mp mem
  refine ⟨⟨i / size + 1, Nat.succ_pos _⟩, mem_pageOf_iff.mpr ⟨i, hi, by simp⟩, ?_⟩
  intro page on
  obtain ⟨j, hj, quotient⟩ := mem_pageOf_iff.mp on
  have valid : i < l.length := (List.getElem?_eq_some_iff.mp hi).1
  have same : i = j := (List.getElem?_inj valid nodup).mp (hi.trans hj.symm)
  have numbers : (page : ℕ) = i / size + 1 := by
    have := page.pos
    rw [← same] at quotient
    omega
  exact PNat.eq numbers

/-- The first pages after one another are the front of the list. -/
theorem flatMap_pageOf (l : List α) (size : ℕ+) (n : ℕ) :
    (List.range n).flatMap (fun i => pageOf l size i.succPNat) = l.take (n * size) := by
  induction n with
  | zero => simp
  | succ n ih =>
      rw [List.range_succ, List.flatMap_append, ih, Nat.add_mul, Nat.one_mul, List.take_add]
      simp [pageOf]

/-- What a page of a sorted list leaves out comes after everything on it. -/
theorem rel_of_notMem_take {r : α → α → Prop} (sorted : l.Pairwise r) {n : ℕ} {y : α}
    (mem : x ∈ l) (out : x ∉ l.take n) (on : y ∈ l.take n) : r y x := by
  rw [← List.take_append_drop n l] at sorted mem
  have behind : x ∈ l.drop n := (List.mem_append.mp mem).resolve_left out
  exact (List.pairwise_append.mp sorted).2.2 y on x behind

/-- The first of a sorted list comes before everything in it. -/
theorem head?_insertionSort {r : α → α → Prop} [DecidableRel r] [Std.Total r] [IsTrans α r]
    {l : List α} {x : α} (first : (l.insertionSort r).head? = some x) : x ∈ l ∧ ∀ y ∈ l, r x y := by
  have sorted := List.pairwise_insertionSort r l
  have same := List.perm_insertionSort r l
  obtain ⟨rest, split⟩ := List.head?_eq_some_iff.mp first
  rw [split] at sorted same
  refine ⟨same.mem_iff.mp List.mem_cons_self, fun y mem => ?_⟩
  rcases List.mem_cons.mp (same.mem_iff.mpr mem) with rfl | later
  · rcases Std.Total.total (r := r) y y with own | own <;> exact own
  · exact (List.pairwise_cons.mp sorted).1 y later

end Pages

/-! ### Sorted selections -/

namespace Table

variable {ρ : Type u} {t : Table ρ} {p : Nat → ρ → Bool} {r : Nat × ρ → Nat × ρ → Prop}
  [DecidableRel r] {k : Nat} {row : ρ}

/-- `WHERE p ORDER BY r`. -/
def selectBy (t : Table ρ) (p : Nat → ρ → Bool) (r : Nat × ρ → Nat × ρ → Prop) [DecidableRel r] :
    List (Nat × ρ) :=
  (t.select p).insertionSort r

theorem mem_selectBy : (k, row) ∈ t.selectBy p r ↔ t.get? k = some row ∧ p k row := by
  rw [selectBy, List.mem_insertionSort, mem_select]

theorem nodup_keys_select (t : Table ρ) (p : Nat → ρ → Bool) :
    ((t.select p).map Prod.fst).Nodup :=
  t.nodup.sublist (List.filter_sublist.map Prod.fst)

theorem nodup_keys_selectBy (t : Table ρ) (p : Nat → ρ → Bool) :
    ((t.selectBy p r).map Prod.fst).Nodup :=
  (((t.select p).perm_insertionSort r).map Prod.fst).nodup_iff.mpr (nodup_keys_select t p)

theorem mem_keys_selectBy :
    k ∈ (t.selectBy p r).map Prod.fst ↔ ∃ row, t.get? k = some row ∧ p k row := by
  rw [List.mem_map]
  constructor
  · rintro ⟨⟨_, row⟩, mem, rfl⟩
    exact ⟨row, mem_selectBy.mp mem⟩
  · rintro ⟨row, hr⟩
    exact ⟨(k, row), mem_selectBy.mpr hr, rfl⟩

/-- A selection by key is in the strict order of its keys. -/
theorem pairwise_selectByKey (t : Table ρ) (p : Nat → ρ → Bool) :
    (t.selectByKey p).Pairwise fun a b => a.1 < b.1 := by
  have sorted : (t.selectByKey p).Pairwise fun a b => a.1 ≤ b.1 := by
    have total : Std.Total fun a b : Nat × ρ => a.1 ≤ b.1 := ⟨fun a b => Nat.le_total a.1 b.1⟩
    have trans : IsTrans (Nat × ρ) fun a b => a.1 ≤ b.1 := ⟨fun _ _ _ => Nat.le_trans⟩
    exact List.pairwise_insertionSort _ _
  have distinct := List.pairwise_map.mp (t.nodup_selectByKey p)
  exact sorted.imp₂ (fun _ _ le ne => Nat.lt_of_le_of_ne le ne) distinct

/-- `COUNT(*)`: the number of selected keys. -/
theorem length_select (t : Table ρ) (p : Nat → ρ → Bool) :
    (t.select p).length = {k | ∃ row, t.get? k = some row ∧ p k row}.ncard := by
  have keys : {k | ∃ row, t.get? k = some row ∧ p k row} =
      ↑((t.select p).map Prod.fst).toFinset := by
    ext k
    simp [mem_select]
  rw [keys, Set.ncard_coe_finset, List.toFinset_card_of_nodup (nodup_keys_select t p),
    List.length_map]

end Table

end Relational
