/-
Unique indexes of a table.

`clash r s` says that two rows may not stand in the table together: they agree
in the columns of a unique index. A write is refused when the row it would leave
under its key clashes with another row (`clashes`); `Unique` is the state that
such writes keep.
-/

import ColorfulLife.Relational.Table

namespace Relational.Table

universe u

variable {ρ : Type u} (clash : ρ → ρ → Bool)

/-- The row `r` under the key `k` would clash with a row under another key. -/
def clashes (t : Table ρ) (k : Nat) (r : ρ) : Bool :=
  (t.find? fun j s => decide (j ≠ k) && clash r s).isSome

/-- No two rows clash. -/
def Unique (t : Table ρ) : Prop :=
  ∀ j k r s, t.get? j = some r → t.get? k = some s → clash r s = true → j = k

variable {clash} {t : Table ρ} {k : Nat} {r : ρ}

/-- The place `k` is free for a row. -/
theorem clashes_eq_false : t.clashes clash k r = false ↔
    ∀ j s, t.get? j = some s → clash r s = true → j = k := by
  rw [clashes, Option.isSome_eq_false_iff, Option.isNone_iff_eq_none, find?_eq_none]
  refine forall₃_congr fun j s hs => ?_
  by_cases hj : j = k <;> simp [hj]

theorem Unique.empty : (Table.empty : Table ρ).Unique clash := by
  intro j k r s hr
  simp [get?, Table.empty] at hr

/-- A row written without a clash leaves the index unique. -/
theorem Unique.write {t' : Table ρ} (h : t.Unique clash)
    (symm : ∀ r s, clash r s = clash s r) (free : t.clashes clash k r = false)
    (row : ∀ j s, t'.get? j = some s → (j = k ∧ s = r) ∨ t.get? j = some s) :
    t'.Unique clash := by
  have free := clashes_eq_false.mp free
  intro i j x y hx hy hclash
  rcases row i x hx with ⟨rfl, rfl⟩ | hx <;> rcases row j y hy with ⟨rfl, rfl⟩ | hy
  · rfl
  · exact (free j y hy hclash).symm
  · exact free i x hx (symm x y ▸ hclash)
  · exact h i j x y hx hy hclash

/-- A row that clashes with none may go in. -/
theorem Unique.insert (h : t.Unique clash) (symm : ∀ r s, clash r s = clash s r)
    (free : t.clashes clash t.nextId r = false) : (t.insert r).Unique clash :=
  h.write symm free fun _ _ => insert_cases

/-- So may one in the place of a row. -/
theorem Unique.update {f : ρ → ρ} (h : t.Unique clash) (symm : ∀ r s, clash r s = clash s r)
    (hr : t.get? k = some r) (free : t.clashes clash k (f r) = false) :
    (t.update k f).Unique clash := by
  refine h.write symm free fun j s hs => ?_
  exact (update_cases hr hs).imp_right And.right

theorem Unique.eraseMany (h : t.Unique clash) (p : Nat → ρ → Bool) :
    (t.eraseMany p).Unique clash := by
  intro i j x y hx hy
  rw [get?_eraseMany] at hx hy
  exact h i j x y (Option.filter_eq_some_iff.mp hx).1 (Option.filter_eq_some_iff.mp hy).1

end Relational.Table
