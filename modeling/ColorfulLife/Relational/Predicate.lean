/-
Row predicates of a query, in three-valued logic.

A comparison with NULL is unknown, `AND` and `OR` carry unknown through, and a
`WHERE` or `FILTER` keeps a row only when its predicate is true. `holds` is that
last reading; its lemmas translate a predicate into the ordinary conditions that
the rest of a program checks.
-/

import ColorfulLife.Relational.Table

namespace Relational

universe u v

/-- A truth value; `none` is unknown. -/
abbrev Truth := Option Bool

namespace Truth

variable {a b : Truth}

/-- What a `WHERE` clause keeps. -/
def holds (a : Truth) : Bool := a == some true

/-- `AND`: false as soon as one side is. -/
def and : Truth → Truth → Truth
  | some false, _ => some false
  | _, some false => some false
  | some true, some true => some true
  | _, _ => none

/-- `OR`: true as soon as one side is. -/
def or : Truth → Truth → Truth
  | some true, _ => some true
  | _, some true => some true
  | some false, some false => some false
  | _, _ => none

/-- Conditions joined by `AND`. -/
def all (as : List Truth) : Truth := as.foldr and (some true)

/-- A comparison of two columns, unknown when one of them is NULL. -/
def compare {α : Type u} {β : Type v} (r : α → β → Bool) (x : Option α) (y : Option β) : Truth :=
  x.bind fun x => y.map (r x)

@[simp] theorem holds_some (b : Bool) : holds (some b) = b := by
  cases b <;> rfl

/-- A condition holds when it is true, not merely unknown. -/
@[simp] theorem holds_and : (and a b).holds = (a.holds && b.holds) := by
  rcases a with _ | _ | _ <;> rcases b with _ | _ | _ <;> rfl

@[simp] theorem holds_or : (or a b).holds = (a.holds || b.holds) := by
  rcases a with _ | _ | _ <;> rcases b with _ | _ | _ <;> rfl

/-- A conjunction of many. -/
theorem holds_all {as : List Truth} : (all as).holds ↔ ∀ a ∈ as, a.holds := by
  induction as with
  | nil => simp [all]
  | cons a as ih =>
      have joined : (all (a :: as)).holds = (a.holds && (all as).holds) := holds_and
      rw [joined, Bool.and_eq_true, ih, List.forall_mem_cons]

/-- A comparison holds of values that are there. -/
theorem holds_compare {α : Type u} {β : Type v} {r : α → β → Bool} {x : Option α} {y : Option β} :
    (compare r x y).holds ↔ ∃ a b, x = some a ∧ y = some b ∧ r a b := by
  cases x with
  | none => simp [compare, holds]
  | some a =>
      cases y with
      | none => simp [compare, holds]
      | some b => simp [compare]

end Truth

variable {ρ : Type u} {t : Table ρ} {p : Nat → ρ → Truth}

/-- `EXISTS (SELECT 1 FROM t WHERE p)`: never unknown. -/
def Table.exists (t : Table ρ) (p : Nat → ρ → Truth) : Truth :=
  some (t.entries.any fun e => (p e.1 e.2).holds)

/-- A subquery holds when a row satisfies its condition. -/
theorem Table.holds_exists :
    (t.exists p).holds ↔ ∃ k r, t.get? k = some r ∧ (p k r).holds := by
  rw [Table.exists, Truth.holds_some, List.any_eq_true]
  constructor
  · rintro ⟨⟨k, r⟩, mem, holds⟩
    exact ⟨k, r, mem_entries.mp mem, holds⟩
  · rintro ⟨k, r, hr, holds⟩
    exact ⟨(k, r), mem_entries.mpr hr, holds⟩

end Relational
