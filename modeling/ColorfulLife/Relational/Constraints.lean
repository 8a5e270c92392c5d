/-
Statements on a table, and the constraints a store declares for it.

`execute` is what a statement does on its own. A store that enforces constraints
also looks at the row a statement writes: at its columns (`check`), at how it came
about (`onInsert`, `onUpdate`: row triggers), at the other rows (`clash`: a unique
index), and at commit at the rows that are left (`deferred`). A script whose
statements all fit the constraints (`FitsAll`) never notices them:
`transact_eq` is the induction over the script, from `enforce_eq` for one
statement.
-/

import ColorfulLife.Relational.Transaction
import ColorfulLife.Relational.Unique

namespace Relational

universe u

variable {ρ : Type u}

/-- One write on a table: `UPDATE … WHERE id = key AND guard`, or `INSERT`. -/
inductive RowStatement (ρ : Type u) where
  | update (key : Nat) (guard : ρ → Bool) (set : ρ → ρ)
  | insert (row : ρ)

/-- Why a transaction stops. -/
inductive Refusal where
  | unmatched
  | violated
  deriving DecidableEq

/-- What the store declares about the rows of one table. -/
structure Constraints (ρ : Type u) where
  check : ρ → Bool
  onInsert : ρ → Bool
  onUpdate : ρ → ρ → Bool
  clash : ρ → ρ → Bool
  deferred : ρ → Bool
  clash_comm : ∀ r s, clash r s = clash s r

/-! ### Running statements -/

/-- The statement alone. The transaction throws when an update matches no row. -/
def RowStatement.execute : RowStatement ρ → Table ρ → Except Refusal (Table ρ)
  | .update key guard set, t => orThrow (t.updateIf key guard set) .unmatched
  | .insert row, t => .ok (t.insert row)

/-- A script without constraints. -/
def execute (script : List (RowStatement ρ)) (t : Table ρ) : Except Refusal (Table ρ) :=
  script.foldlM (fun t statement => statement.execute t) t

theorem execute_update {t t' : Table ρ} {key : Nat} {guard : ρ → Bool} {set : ρ → ρ} :
    (RowStatement.update key guard set).execute t = .ok t' ↔
      ∃ r, t.get? key = some r ∧ guard r = true ∧ t' = t.update key set := by
  rw [RowStatement.execute, orThrow_eq_ok, Table.updateIf_eq_some]

@[simp] theorem execute_nil (t : Table ρ) : execute [] t = .ok t := rfl

theorem execute_cons {t t' : Table ρ} {statement : RowStatement ρ} {script : List (RowStatement ρ)} :
    execute (statement :: script) t = .ok t' ↔
      ∃ t₁, statement.execute t = .ok t₁ ∧ execute script t₁ = .ok t' := by
  rw [execute, List.foldlM_cons, bind_eq_ok]
  rfl

theorem execute_singleton {t t' : Table ρ} {statement : RowStatement ρ} :
    execute [statement] t = .ok t' ↔ statement.execute t = .ok t' := by
  simp [execute_cons]

theorem execute_append {t t₁ t' : Table ρ} {first rest : List (RowStatement ρ)}
    (h : execute first t = .ok t₁) (h' : execute rest t₁ = .ok t') :
    execute (first ++ rest) t = .ok t' := by
  rw [execute, List.foldlM_append]
  exact bind_eq_ok.mpr ⟨t₁, h, h'⟩

/-- The script of a loop, from the scripts of its iterations. -/
theorem execute_loop {τ ε γ : Type} (view : τ → Table ρ) {writes : γ → List (RowStatement ρ)}
    {f : τ → γ → Except ε τ} {I : τ → Prop}
    (step : ∀ s e s', I s → f s e = .ok s' → I s' ∧ execute (writes e) (view s) = .ok (view s'))
    {items : List γ} {s s' : τ} (hs : I s) (h : items.foldlM f s = .ok s') :
    execute (items.flatMap writes) (view s) = .ok (view s') := by
  induction items generalizing s with
  | nil =>
      rw [List.foldlM_nil, pure_eq_ok] at h
      rw [h]
      rfl
  | cons e items ih =>
      rw [List.foldlM_cons, bind_eq_ok] at h
      obtain ⟨s₁, first, rest⟩ := h
      obtain ⟨hs₁, ran⟩ := step s e s₁ hs first
      exact execute_append ran (ih hs₁ rest)

namespace Constraints

variable (c : Constraints ρ)

/-- The checks on the row that a matching statement writes. -/
def admits : RowStatement ρ → Table ρ → Bool
  | .update key _ set, t => (t.get? key).all fun r =>
      c.onUpdate r (set r) && c.check (set r) && !t.clashes c.clash key (set r)
  | .insert row, t => c.onInsert row && c.check row && !t.clashes c.clash t.nextId row

def enforce (t : Table ρ) (statement : RowStatement ρ) : Except Refusal (Table ρ) := do
  let t' ← statement.execute t
  ensure (c.admits statement t) Refusal.violated
  return t'

/-- A script under the constraints. -/
def transact (script : List (RowStatement ρ)) (t : Table ρ) : Except Refusal (Table ρ) := do
  let t' ← script.foldlM c.enforce t
  ensure (∀ e ∈ t'.entries, c.deferred e.2) Refusal.violated
  return t'

/-! ### Statements that fit -/

/-- The constraints hold of a table. -/
structure Holds (t : Table ρ) : Prop where
  checked : ∀ k r, t.get? k = some r → c.check r = true
  settled : ∀ k r, t.get? k = some r → c.deferred r = true
  unique : t.Unique c.clash

/-- What a statement may be run for on `t` without the constraints noticing. -/
def Fits : RowStatement ρ → Table ρ → Prop
  | .update key guard set, t => ∀ r, t.get? key = some r → guard r = true →
      c.onUpdate r (set r) = true ∧ c.check (set r) = true ∧ c.deferred (set r) = true ∧
        ∀ s, c.clash (set r) s = true → c.clash r s = true
  | .insert row, t => c.onInsert row = true ∧ c.check row = true ∧ c.deferred row = true ∧
      ∀ k s, t.get? k = some s → c.clash row s = false

/-- Every statement fits the table that it finds. -/
def FitsAll : List (RowStatement ρ) → Table ρ → Prop
  | [], _ => True
  | statement :: script, t => c.Fits statement t ∧
      ∀ t', statement.execute t = .ok t' → FitsAll script t'

variable {c} {t t' : Table ρ} {statement : RowStatement ρ} {script : List (RowStatement ρ)}

/-- A statement that fits writes a row that clashes with no other. -/
theorem Fits.free {key : Nat} {guard : ρ → Bool} {set : ρ → ρ} {r : ρ}
    (fits : c.Fits (.update key guard set) t) (unique : t.Unique c.clash)
    (hr : t.get? key = some r) (matched : guard r = true) :
    t.clashes c.clash key (set r) = false := by
  refine Table.clashes_eq_false.mpr fun j s hs clash => ?_
  obtain ⟨-, -, -, older⟩ := fits r hr matched
  exact (unique key j r s hr hs (older s clash)).symm

theorem Fits.admitted (fits : c.Fits statement t) (unique : t.Unique c.clash)
    (run : statement.execute t = .ok t') : c.admits statement t = true := by
  cases statement with
  | update key guard set =>
      obtain ⟨r, hr, matched, -⟩ := execute_update.mp run
      obtain ⟨triggered, checked, -, -⟩ := fits r hr matched
      have free := fits.free unique hr matched
      simp [admits, hr, triggered, checked, free]
  | insert row =>
      obtain ⟨triggered, checked, -, free⟩ := fits
      have free : t.clashes c.clash t.nextId row = false :=
        Table.clashes_eq_false.mpr fun j s hs clash => by
          rw [free j s hs] at clash
          cases clash
      simp [admits, triggered, checked, free]

/-- A statement that fits runs as if nothing were declared. -/
theorem enforce_eq (fits : c.Fits statement t) (unique : t.Unique c.clash) :
    c.enforce t statement = statement.execute t := by
  cases run : statement.execute t with
  | error e => simp [enforce, run]
  | ok t' =>
      have admitted := fits.admitted unique run
      simp [enforce, run, ensure, admitted]

/-- A statement that fits keeps the constraints. -/
theorem Holds.step (h : c.Holds t) (fits : c.Fits statement t)
    (run : statement.execute t = .ok t') : c.Holds t' := by
  cases statement with
  | update key guard set =>
      obtain ⟨r, hr, matched, rfl⟩ := execute_update.mp run
      obtain ⟨-, checked, settled, -⟩ := fits r hr matched
      refine ⟨fun k s hs => ?_, fun k s hs => ?_,
        h.unique.update c.clash_comm hr (fits.free h.unique hr matched)⟩
      · rcases Table.update_cases hr hs with ⟨-, rfl⟩ | ⟨-, hs⟩
        · exact checked
        · exact h.checked k s hs
      · rcases Table.update_cases hr hs with ⟨-, rfl⟩ | ⟨-, hs⟩
        · exact settled
        · exact h.settled k s hs
  | insert row =>
      obtain rfl := Except.ok.inj run
      obtain ⟨-, checked, settled, free⟩ := fits
      refine ⟨fun k s hs => ?_, fun k s hs => ?_, h.unique.insert c.clash_comm ?_⟩
      · rcases Table.insert_cases hs with ⟨-, rfl⟩ | hs
        · exact checked
        · exact h.checked k s hs
      · rcases Table.insert_cases hs with ⟨-, rfl⟩ | hs
        · exact settled
        · exact h.settled k s hs
      · refine Table.clashes_eq_false.mpr fun j s hs clash => ?_
        rw [free j s hs] at clash
        cases clash

/-! ### Scripts that fit -/

/-- Statements that fit wherever the constraints and `J` hold fit one after the
other when each keeps `J`. -/
theorem FitsAll.of_forall {J : Table ρ → Prop}
    (fits : ∀ s ∈ script, ∀ t, J t → c.Holds t → c.Fits s t)
    (keeps : ∀ s ∈ script, ∀ t t', J t → s.execute t = .ok t' → J t') (hJ : J t)
    (h : c.Holds t) : c.FitsAll script t := by
  induction script generalizing t with
  | nil => trivial
  | cons s script ih =>
      have first := fits s List.mem_cons_self t hJ h
      refine ⟨first, fun t' run => ?_⟩
      exact ih (fun s hs => fits s (List.mem_cons_of_mem _ hs))
        (fun s hs => keeps s (List.mem_cons_of_mem _ hs))
        (keeps s List.mem_cons_self t t' hJ run) (h.step first run)

theorem FitsAll.single (fits : c.Fits statement t) : c.FitsAll [statement] t :=
  ⟨fits, fun _ _ => trivial⟩

/-- A script that fits commits under the constraints what it commits without
them, and stops where it stops without them. -/
theorem transact_eq (h : c.Holds t) (fits : c.FitsAll script t) :
    c.transact script t = execute script t := by
  have loop : script.foldlM c.enforce t = execute script t ∧
      ∀ t', execute script t = .ok t' → c.Holds t' := by
    induction script generalizing t with
    | nil => exact ⟨rfl, fun t' run => Except.ok.inj run ▸ h⟩
    | cons s script ih =>
        obtain ⟨first, rest⟩ := fits
        rw [execute, List.foldlM_cons, List.foldlM_cons, enforce_eq first h.unique]
        cases run : s.execute t with
        | error e => exact ⟨rfl, nofun⟩
        | ok t₁ => exact ih (h.step first run) (rest t₁ run)
  obtain ⟨same, holds⟩ := loop
  rw [transact, same]
  cases run : execute script t with
  | error e => rfl
  | ok t' =>
      have settled : ∀ e ∈ t'.entries, c.deferred e.2 = true :=
        fun e he => (holds t' run).settled e.1 e.2 (Table.mem_entries.mp he)
      change (ensure _ _ >>= fun _ => pure t') = _
      rw [ensure, if_pos settled]
      rfl

/-- A script that fits keeps the constraints, and takes every row through the
updates that the trigger allows. -/
theorem Holds.execute {R : ρ → ρ → Prop} (refl : ∀ r, R r r)
    (trans : ∀ {r s q}, R r s → R s q → R r q) (allowed : ∀ r s, c.onUpdate r s = true → R r s)
    (h : c.Holds t) (fits : c.FitsAll script t) (run : Relational.execute script t = .ok t') :
    c.Holds t' ∧ ∀ k r, t.get? k = some r → ∃ r', t'.get? k = some r' ∧ R r r' := by
  induction script generalizing t with
  | nil =>
      obtain rfl := Except.ok.inj run
      exact ⟨h, fun k r hr => ⟨r, hr, refl r⟩⟩
  | cons s script ih =>
      obtain ⟨first, rest⟩ := fits
      obtain ⟨t₁, step, run⟩ := execute_cons.mp run
      obtain ⟨holds, later⟩ := ih (h.step first step) (rest t₁ step) run
      refine ⟨holds, fun k r hr => ?_⟩
      have moved : ∃ r₁, t₁.get? k = some r₁ ∧ R r r₁ := by
        cases s with
        | update key guard set =>
            obtain ⟨q, hq, matched, rfl⟩ := execute_update.mp step
            by_cases same : k = key
            · subst same
              obtain rfl : q = r := Option.some.inj (hq.symm.trans hr)
              exact ⟨set q, by simp [hq], allowed _ _ (first q hq matched).1⟩
            · exact ⟨r, by rw [Table.get?_update_of_ne _ _ same, hr], refl r⟩
        | insert row =>
            obtain rfl := Except.ok.inj step
            exact ⟨r, Table.get?_insert_of_some hr, refl r⟩
      obtain ⟨r₁, hr₁, before⟩ := moved
      obtain ⟨r', hr', after⟩ := later k r₁ hr₁
      exact ⟨r', hr', trans before after⟩

/-! ### Scripts that commit -/

theorem enforce_eq_ok : c.enforce t statement = .ok t' ↔
    statement.execute t = .ok t' ∧ c.admits statement t = true := by
  simp only [enforce, bind_eq_ok, ensure_eq_ok, pure_eq_ok]
  constructor
  · rintro ⟨t₁, run, -, admitted, rfl⟩
    exact ⟨run, admitted⟩
  · rintro ⟨run, admitted⟩
    exact ⟨t', run, ⟨⟩, admitted, rfl⟩

theorem transact_eq_ok : c.transact script t = .ok t' ↔
    script.foldlM c.enforce t = .ok t' ∧ ∀ e ∈ t'.entries, c.deferred e.2 = true := by
  simp only [transact, bind_eq_ok, ensure_eq_ok, pure_eq_ok]
  constructor
  · rintro ⟨t₁, run, -, settled, rfl⟩
    exact ⟨run, settled⟩
  · rintro ⟨run, settled⟩
    exact ⟨t', run, ⟨⟩, settled, rfl⟩

/-- What commits under the constraints is what the statements alone do. -/
theorem execute_of_transact (run : c.transact script t = .ok t') :
    Relational.execute script t = .ok t' := by
  obtain ⟨loop, -⟩ := transact_eq_ok.mp run
  clear run
  induction script generalizing t with
  | nil => exact loop
  | cons s script ih =>
      rw [List.foldlM_cons, bind_eq_ok] at loop
      obtain ⟨t₁, step, rest⟩ := loop
      exact execute_cons.mpr ⟨t₁, (enforce_eq_ok.mp step).1, ih rest⟩

/-- A statement that the constraints admit writes a row that passes them. -/
theorem enforce_written (unique : t.Unique c.clash) (run : c.enforce t statement = .ok t') :
    t'.Unique c.clash ∧ ∀ k r, t'.get? k = some r → c.check r = true ∨ t.get? k = some r := by
  obtain ⟨step, admitted⟩ := enforce_eq_ok.mp run
  cases statement with
  | update key guard set =>
      obtain ⟨r, hr, -, rfl⟩ := execute_update.mp step
      simp only [admits, hr, Option.all_some, Bool.and_eq_true, Bool.not_eq_true'] at admitted
      obtain ⟨⟨-, checked⟩, free⟩ := admitted
      refine ⟨unique.update c.clash_comm hr free, fun k s hs => ?_⟩
      rcases Table.update_cases hr hs with ⟨-, rfl⟩ | ⟨-, hs⟩
      · exact Or.inl checked
      · exact Or.inr hs
  | insert row =>
      obtain rfl := Except.ok.inj step
      simp only [admits, Bool.and_eq_true, Bool.not_eq_true'] at admitted
      obtain ⟨⟨-, checked⟩, free⟩ := admitted
      refine ⟨unique.insert c.clash_comm free, fun k s hs => ?_⟩
      rcases Table.insert_cases hs with ⟨-, rfl⟩ | hs
      · exact Or.inl checked
      · exact Or.inr hs

/-- A transaction leaves a table that the constraints hold of. -/
theorem Holds.transact (h : c.Holds t) (run : c.transact script t = .ok t') : c.Holds t' := by
  obtain ⟨run, settled⟩ := transact_eq_ok.mp run
  have kept : t'.Unique c.clash ∧ ∀ k r, t'.get? k = some r → c.check r = true :=
    foldlM_invariant (I := fun t : Table ρ => t.Unique c.clash ∧
        ∀ k r, t.get? k = some r → c.check r = true)
      (fun _ _ _ ⟨unique, checked⟩ step => by
        obtain ⟨unique', written⟩ := enforce_written unique step
        exact ⟨unique', fun k r hr => (written k r hr).elim id (checked k r)⟩)
      script ⟨h.unique, h.checked⟩ run
  exact ⟨kept.2, fun k r hr => settled (k, r) (Table.mem_entries.mpr hr), kept.1⟩

end Constraints

end Relational
