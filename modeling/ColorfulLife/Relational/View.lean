/-
Columns of a table.

`t.view f` keeps the columns `f` of every row. Reads that look only at these
columns are functions of the view, so two tables with one view answer them
alike.
-/

import ColorfulLife.Relational.Table

namespace Relational.Table

universe u v

variable {ρ : Type u} {β : Type v} {f : ρ → β} {t : Table ρ}

/-- The columns `f` of the rows, under their keys. -/
def view (t : Table ρ) (f : ρ → β) : List (Nat × β) :=
  t.entries.map fun e => (e.1, f e.2)

/-! ### Writing -/

/-- A change outside the viewed columns cannot be seen. -/
theorem view_modify {g : Nat → ρ → ρ} (same : ∀ k r, f (g k r) = f r) :
    (t.modify g).view f = t.view f := by
  rw [view, modify, List.map_map]
  exact List.map_congr_left fun e _ => by simp [same]

theorem view_update {k : Nat} {g : ρ → ρ} (same : ∀ r, f (g r) = f r) :
    (t.update k g).view f = t.view f := by
  apply view_modify
  intro j r
  split
  · exact same r
  · rfl

/-- A new row comes last. -/
theorem view_insert (t : Table ρ) (r : ρ) : (t.insert r).view f = t.view f ++ [(t.nextId, f r)] := by
  simp [view, insert]

/-- The rows of an insertion are appended. -/
theorem view_insertAll (rows : List ρ) (t : Table ρ) : ∃ added : List (Nat × β),
    (rows.foldl insert t).view f = t.view f ++ added ∧ added.map Prod.snd = rows.map f := by
  induction rows generalizing t with
  | nil => exact ⟨[], by simp, rfl⟩
  | cons r rows ih =>
      obtain ⟨added, view, columns⟩ := ih (t.insert r)
      refine ⟨(t.nextId, f r) :: added, ?_, by simp [columns]⟩
      rw [List.foldl_cons, view, view_insert, List.append_assoc, List.singleton_append]

/-! ### Reading -/

theorem lookup_view (t : Table ρ) (k : Nat) : (t.view f).lookup k = (t.get? k).map f := by
  exact lookup_map_snd (fun _ => f) k

/-- A filter that only looks at viewed columns can be applied to the view. -/
theorem filter_view {p : Nat → ρ → Bool} {q : Nat → β → Bool} (same : ∀ k r, q k (f r) = p k r) :
    ((t.view f).filter fun e => q e.1 e.2) = (t.select p).map fun e => (e.1, f e.2) := by
  rw [view, select, List.filter_map]
  simp only [Function.comp_def, same]

theorem head?_filter_view {p : Nat → ρ → Bool} {q : Nat → β → Bool}
    (same : ∀ k r, q k (f r) = p k r) :
    ((t.view f).filter fun e => q e.1 e.2).head? = (t.find? p).map fun e => (e.1, f e.2) := by
  rw [filter_view same, List.head?_map, select, List.head?_filter]
  rfl

end Relational.Table
