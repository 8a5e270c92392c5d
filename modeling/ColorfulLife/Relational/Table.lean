/-
Keyed tables: rows under distinct natural primary keys, in insertion order, with
the sequence the next key is drawn from.

A table is the list of its entries together with the two facts every statement
relies on: keys are distinct, and every key lies below the sequence. The
operations are the ones a relational store offers on one table (lookup by key,
first match, selection, conditional update, insertion, deletion), so that no
operation can build a table with a duplicated key.

Each operation comes with its effect on lookup (`get?_modify`, `get?_insert`,
`get?_erase`, ...) and on sums over all rows (`sum_modify`, `sum_insert`,
`sum_update`); a client proof reads a table through `get?` and
`sum` and never unfolds the entry list.
-/

import Mathlib.Algebra.BigOperators.Group.List.Basic
import Mathlib.Algebra.Order.BigOperators.Group.List
import Mathlib.Data.List.Sort
import Mathlib.Tactic.Abel

namespace Relational

universe u v

/-- Rows under distinct primary keys. `nextId` is the sequence behind the key
column: every key in use lies below it, so a key is never handed out twice,
even after its row was deleted. -/
structure Table (ρ : Type u) where
  entries : List (Nat × ρ)
  nextId : Nat
  nodup : (entries.map Prod.fst).Nodup
  below : ∀ e ∈ entries, e.1 < nextId

namespace Table

variable {ρ : Type u} {M : Type v}

/-! ### Reading -/

/-- The row stored under `k`. -/
def get? (t : Table ρ) (k : Nat) : Option ρ := t.entries.lookup k

/-- The keys, in insertion order. -/
def keys (t : Table ρ) : List Nat := t.entries.map Prod.fst

/-- The first entry, in insertion order, that satisfies `p`. -/
def find? (t : Table ρ) (p : Nat → ρ → Bool) : Option (Nat × ρ) :=
  t.entries.find? fun e => p e.1 e.2

/-- All entries that satisfy `p`, in insertion order. -/
def select (t : Table ρ) (p : Nat → ρ → Bool) : List (Nat × ρ) :=
  t.entries.filter fun e => p e.1 e.2

/-- The entries that satisfy `p`, by increasing key. -/
def selectByKey (t : Table ρ) (p : Nat → ρ → Bool) : List (Nat × ρ) :=
  (t.select p).insertionSort fun a b => a.1 ≤ b.1

/-- The sum of `g` over all rows. -/
def sum [AddMonoid M] (t : Table ρ) (g : Nat → ρ → M) : M :=
  (t.entries.map fun e => g e.1 e.2).sum

/-! ### Writing -/

/-- The table without rows; the sequence starts at one. -/
def empty : Table ρ := ⟨[], 1, List.nodup_nil, by simp⟩

/-- Rewrite every row, keys unchanged. -/
def modify (t : Table ρ) (g : Nat → ρ → ρ) : Table ρ where
  entries := t.entries.map fun e => (e.1, g e.1 e.2)
  nextId := t.nextId
  nodup := by simpa [List.map_map, Function.comp_def] using t.nodup
  below := by
    intro e he
    obtain ⟨e', he', rfl⟩ := List.mem_map.mp he
    exact t.below e' he'

/-- The rows in another type, keys unchanged. -/
def mapRows {σ : Type v} (t : Table ρ) (g : Nat → ρ → σ) : Table σ where
  entries := t.entries.map fun e => (e.1, g e.1 e.2)
  nextId := t.nextId
  nodup := by simpa [List.map_map, Function.comp_def] using t.nodup
  below := by
    intro e he
    obtain ⟨e', he', rfl⟩ := List.mem_map.mp he
    exact t.below e' he'

/-- Rewrite the row under `k`, if there is one. -/
def update (t : Table ρ) (k : Nat) (f : ρ → ρ) : Table ρ :=
  t.modify fun j r => if j = k then f r else r

/-- Rewrite every row that satisfies `p`. -/
def updateMany (t : Table ρ) (p : Nat → ρ → Bool) (f : ρ → ρ) : Table ρ :=
  t.modify fun j r => if p j r then f r else r

/-- Rewrite the row under `k` if it is there and satisfies `p`; `none` when the
conditional update matches no row. -/
def updateIf (t : Table ρ) (k : Nat) (p : ρ → Bool) (f : ρ → ρ) : Option (Table ρ) :=
  match t.get? k with
  | some r => if p r then some (t.update k f) else none
  | none => none

/-- Append a row under the next key of the sequence. -/
def insert (t : Table ρ) (r : ρ) : Table ρ where
  entries := t.entries ++ [(t.nextId, r)]
  nextId := t.nextId + 1
  nodup := by
    rw [List.map_append, List.nodup_append]
    refine ⟨t.nodup, by simp, ?_⟩
    intro a ha b hb
    obtain ⟨e, he, rfl⟩ := List.mem_map.mp ha
    have hlt := t.below e he
    simp only [List.map_cons, List.map_nil, List.mem_singleton] at hb
    omega
  below := by
    intro e he
    rcases List.mem_append.mp he with h | h
    · have := t.below e h; omega
    · simp only [List.mem_singleton] at h
      subst h; simp

theorem keys_insertAt {t : Table ρ} {k : Nat} {r : ρ} (absent : k ∉ t.entries.map Prod.fst) :
    ((t.entries ++ [(k, r)]).map Prod.fst).Nodup := by
  rw [List.map_append, List.nodup_append]
  refine ⟨t.nodup, by simp, ?_⟩
  intro a ha b hb heq
  simp only [List.map_cons, List.map_nil, List.mem_singleton] at hb
  exact absent (hb ▸ heq ▸ ha)

/-- Append a row under the key `k`; `none` when the key is taken. -/
def insertAt (t : Table ρ) (k : Nat) (r : ρ) : Option (Table ρ) :=
  if absent : k ∉ t.entries.map Prod.fst then
    some
      { entries := t.entries ++ [(k, r)]
        nextId := max t.nextId (k + 1)
        nodup := keys_insertAt absent
        below := by
          intro e he
          rcases List.mem_append.mp he with h | h
          · have := t.below e h; omega
          · simp only [List.mem_singleton] at h
            subst h; simp }
  else none

/-- Delete every row that satisfies `p`. -/
def eraseMany (t : Table ρ) (p : Nat → ρ → Bool) : Table ρ where
  entries := t.entries.filter fun e => !p e.1 e.2
  nextId := t.nextId
  nodup := t.nodup.sublist (List.filter_sublist.map Prod.fst)
  below := fun e he => t.below e (List.mem_filter.mp he).1

/-- Delete the row under `k`. -/
def erase (t : Table ρ) (k : Nat) : Table ρ := t.eraseMany fun j _ => decide (j = k)

/-! ### Lookup -/

theorem lookup_eq_some_iff {l : List (Nat × ρ)} (nodup : (l.map Prod.fst).Nodup) {k : Nat} {r : ρ} :
    l.lookup k = some r ↔ (k, r) ∈ l := by
  induction l with
  | nil => simp
  | cons e l ih =>
      obtain ⟨j, s⟩ := e
      simp only [List.map_cons, List.nodup_cons] at nodup
      by_cases hk : k = j
      · subst hk
        have notin : ∀ x, (k, x) ∉ l := fun x hx => nodup.1 (List.mem_map.mpr ⟨_, hx, rfl⟩)
        simp [notin, eq_comm]
      · have hne : (k == j) = false := by simpa using hk
        simp [List.lookup_cons, hne, ih nodup.2, hk]

/-- Membership in the entry list is lookup. -/
theorem mem_entries {t : Table ρ} {k : Nat} {r : ρ} : (k, r) ∈ t.entries ↔ t.get? k = some r :=
  (lookup_eq_some_iff t.nodup).symm

theorem lookup_map_snd {β : Type v} {l : List (Nat × ρ)} (g : Nat → ρ → β) (k : Nat) :
    (l.map fun e => (e.1, g e.1 e.2)).lookup k = (l.lookup k).map (g k) := by
  induction l with
  | nil => rfl
  | cons e l ih =>
      obtain ⟨j, s⟩ := e
      by_cases hk : k = j
      · subst hk; simp
      · have hne : (k == j) = false := by simpa using hk
        simp [List.lookup_cons, hne, ih]

@[simp] theorem get?_empty (k : Nat) : (empty : Table ρ).get? k = none := rfl

@[simp] theorem get?_modify (t : Table ρ) (g : Nat → ρ → ρ) (k : Nat) :
    (t.modify g).get? k = (t.get? k).map (g k) :=
  lookup_map_snd g k

theorem get?_mapRows {σ : Type v} (t : Table ρ) (g : Nat → ρ → σ) (k : Nat) :
    (t.mapRows g).get? k = (t.get? k).map (g k) :=
  lookup_map_snd g k

theorem get?_update (t : Table ρ) (k : Nat) (f : ρ → ρ) (j : Nat) :
    (t.update k f).get? j = if j = k then (t.get? j).map f else t.get? j := by
  rw [update, get?_modify]
  split <;> simp

@[simp] theorem get?_update_self (t : Table ρ) (k : Nat) (f : ρ → ρ) :
    (t.update k f).get? k = (t.get? k).map f := by
  simp [get?_update]

theorem get?_update_of_ne (t : Table ρ) {j k : Nat} (f : ρ → ρ) (h : j ≠ k) :
    (t.update k f).get? j = t.get? j := by
  simp [get?_update, h]

/-- A row after an update is the one rewritten, or another one as it was. -/
theorem update_cases {t : Table ρ} {k j : Nat} {f : ρ → ρ} {r s : ρ} (hr : t.get? k = some r)
    (hs : (t.update k f).get? j = some s) : (j = k ∧ s = f r) ∨ (j ≠ k ∧ t.get? j = some s) := by
  rw [get?_update] at hs
  split at hs
  · rename_i same
    rw [same, hr] at hs
    exact Or.inl ⟨same, (Option.some.inj hs).symm⟩
  · exact Or.inr ⟨‹_›, hs⟩

theorem update_eq_self {t : Table ρ} {k : Nat} {f : ρ → ρ} (h : ∀ r, f r = r) :
    t.update k f = t := by
  obtain ⟨entries, nextId, nodup, below⟩ := t
  simp [update, modify, h]

theorem modify_id (t : Table ρ) : (t.modify fun _ r => r) = t := by
  obtain ⟨entries, nextId, nodup, below⟩ := t
  simp [modify]

theorem modify_modify (t : Table ρ) (f g : Nat → ρ → ρ) :
    (t.modify f).modify g = t.modify fun k r => g k (f k r) := by
  obtain ⟨entries, nextId, nodup, below⟩ := t
  simp [modify, List.map_map, Function.comp_def]

@[simp] theorem keys_modify (t : Table ρ) (g : Nat → ρ → ρ) : (t.modify g).keys = t.keys := by
  simp [keys, modify, List.map_map, Function.comp_def]

theorem keys_update (t : Table ρ) (k : Nat) (f : ρ → ρ) : (t.update k f).keys = t.keys :=
  keys_modify ..

theorem keys_updateMany (t : Table ρ) (p : Nat → ρ → Bool) (f : ρ → ρ) :
    (t.updateMany p f).keys = t.keys :=
  keys_modify ..

@[simp] theorem get?_updateMany (t : Table ρ) (p : Nat → ρ → Bool) (f : ρ → ρ) (k : Nat) :
    (t.updateMany p f).get? k = (t.get? k).map fun r => if p k r then f r else r :=
  get?_modify t _ k

/-- A conditional update succeeds exactly when the row is there and passes. -/
theorem updateIf_eq_some {t t' : Table ρ} {k : Nat} {p : ρ → Bool} {f : ρ → ρ} :
    t.updateIf k p f = some t' ↔ ∃ r, t.get? k = some r ∧ p r ∧ t' = t.update k f := by
  unfold updateIf
  cases h : t.get? k with
  | none => simp
  | some r =>
      by_cases hp : p r = true
      · simp only [hp, if_true, Option.some.injEq, exists_eq_left', true_and]
        exact eq_comm
      · simp [hp]

theorem updateIf_eq_none {t : Table ρ} {k : Nat} {p : ρ → Bool} {f : ρ → ρ} :
    t.updateIf k p f = none ↔ ∀ r, t.get? k = some r → p r = false := by
  unfold updateIf
  cases h : t.get? k with
  | none => simp
  | some r => by_cases hp : p r = true <;> simp [hp]

/-- A key at or above the sequence is unused. -/
theorem get?_of_nextId_le (t : Table ρ) {k : Nat} (h : t.nextId ≤ k) : t.get? k = none := by
  cases hk : t.get? k with
  | none => rfl
  | some r => exact absurd (t.below _ (mem_entries.mpr hk)) (Nat.not_lt.mpr h)

theorem lt_nextId {t : Table ρ} {k : Nat} {r : ρ} (h : t.get? k = some r) : k < t.nextId :=
  t.below _ (mem_entries.mpr h)

@[simp] theorem get?_nextId (t : Table ρ) : t.get? t.nextId = none :=
  t.get?_of_nextId_le le_rfl

@[simp] theorem get?_insert_self (t : Table ρ) (r : ρ) : (t.insert r).get? t.nextId = some r :=
  mem_entries.mp (List.mem_append_right _ (List.mem_singleton.mpr rfl))

theorem get?_append {t : Table ρ} {t' : Table ρ} {k : Nat} {r : ρ} (j : Nat)
    (entries : t'.entries = t.entries ++ [(k, r)]) (h : j ≠ k) : t'.get? j = t.get? j := by
  have iff : ∀ x, t'.get? j = some x ↔ t.get? j = some x := fun x => by
    rw [← mem_entries, ← mem_entries, entries, List.mem_append, List.mem_singleton]
    exact ⟨fun hx => hx.resolve_right fun e => h (congrArg Prod.fst e), Or.inl⟩
  cases hj : t'.get? j with
  | some x => exact ((iff x).mp hj).symm
  | none =>
      cases hi : t.get? j with
      | none => rfl
      | some x => exact absurd ((iff x).mpr hi) (by simp [hj])

theorem get?_insert (t : Table ρ) (r : ρ) (k : Nat) :
    (t.insert r).get? k = if k = t.nextId then some r else t.get? k := by
  split
  · subst_vars; exact get?_insert_self t r
  · exact get?_append k rfl ‹_›

/-- A row of the extended table is the inserted one or an old one. -/
theorem insert_cases {t : Table ρ} {r s : ρ} {k : Nat} (h : (t.insert r).get? k = some s) :
    (k = t.nextId ∧ s = r) ∨ t.get? k = some s := by
  rw [get?_insert] at h
  split at h
  · exact Or.inl ⟨‹_›, (Option.some.inj h).symm⟩
  · exact Or.inr h

/-- A row that was there before an insertion is still there. -/
theorem get?_insert_of_some {t : Table ρ} {r s : ρ} {k : Nat} (h : t.get? k = some s) :
    (t.insert r).get? k = some s := by
  rw [get?_insert, if_neg (lt_nextId h).ne, h]

theorem insertAt_eq_some {t t' : Table ρ} {k : Nat} {r : ρ} (h : t.insertAt k r = some t') :
    t.get? k = none ∧ t'.entries = t.entries ++ [(k, r)] := by
  unfold insertAt at h
  split at h
  · rename_i absent
    obtain rfl := Option.some.inj h
    refine ⟨?_, rfl⟩
    cases hk : t.get? k with
    | none => rfl
    | some s => exact absurd (List.mem_map.mpr ⟨_, mem_entries.mpr hk, rfl⟩) absent
  · exact absurd h (by simp)

theorem get?_insertAt {t t' : Table ρ} {k : Nat} {r : ρ} (h : t.insertAt k r = some t') (j : Nat) :
    t'.get? j = if j = k then some r else t.get? j := by
  obtain ⟨-, entries⟩ := insertAt_eq_some h
  split
  · subst_vars
    exact mem_entries.mp (by simp [entries])
  · exact get?_append j entries ‹_›

theorem get?_eraseMany (t : Table ρ) (p : Nat → ρ → Bool) (k : Nat) :
    (t.eraseMany p).get? k = (t.get? k).filter fun r => !p k r := by
  have iff : ∀ x, (t.eraseMany p).get? k = some x ↔ t.get? k = some x ∧ p k x = false :=
    fun x => by rw [← mem_entries, ← mem_entries, eraseMany, List.mem_filter]; simp
  cases h : t.get? k with
  | none =>
      cases h' : (t.eraseMany p).get? k with
      | none => rfl
      | some x => exact absurd ((iff x).mp h').1 (by simp [h])
  | some r =>
      by_cases hp : p k r = true
      · rw [Option.filter_some_neg (by simp [hp])]
        cases h' : (t.eraseMany p).get? k with
        | none => rfl
        | some x =>
            obtain ⟨hx, hpx⟩ := (iff x).mp h'
            obtain rfl : r = x := Option.some.inj (h.symm.trans hx)
            simp [hp] at hpx
      · rw [Option.filter_some_pos (by simpa using hp)]
        exact (iff r).mpr ⟨h, by simpa using hp⟩

/-- The rows that are there decide what is erased. -/
theorem eraseMany_congr {t : Table ρ} {p q : Nat → ρ → Bool}
    (same : ∀ k r, t.get? k = some r → p k r = q k r) : t.eraseMany p = t.eraseMany q := by
  have entries : t.entries.filter (fun e => !p e.1 e.2) = t.entries.filter fun e => !q e.1 e.2 :=
    List.filter_congr fun e mem => congrArg _ (same e.1 e.2 (mem_entries.mp mem))
  simp only [eraseMany, entries]

theorem get?_erase (t : Table ρ) (k j : Nat) :
    (t.erase k).get? j = if j = k then none else t.get? j := by
  rw [erase, get?_eraseMany]
  by_cases h : j = k <;> cases t.get? j <;> simp [h]

/-! ### First match and selection -/

theorem find?_eq_some {t : Table ρ} {p : Nat → ρ → Bool} {e : Nat × ρ} (h : t.find? p = some e) :
    t.get? e.1 = some e.2 ∧ p e.1 e.2 = true :=
  ⟨mem_entries.mp (List.mem_of_find?_eq_some h),
    (List.find?_eq_some_iff_append.mp h).1⟩

theorem find?_eq_none {t : Table ρ} {p : Nat → ρ → Bool} :
    t.find? p = none ↔ ∀ k r, t.get? k = some r → p k r = false := by
  rw [find?, List.find?_eq_none]
  constructor
  · intro h k r hk
    simpa using h (k, r) (mem_entries.mpr hk)
  · intro h e he
    simpa using h e.1 e.2 (mem_entries.mp he)

theorem mem_select {t : Table ρ} {p : Nat → ρ → Bool} {k : Nat} {r : ρ} :
    (k, r) ∈ t.select p ↔ t.get? k = some r ∧ p k r = true := by
  rw [select, List.mem_filter, mem_entries]

theorem mem_selectByKey {t : Table ρ} {p : Nat → ρ → Bool} {k : Nat} {r : ρ} :
    (k, r) ∈ t.selectByKey p ↔ t.get? k = some r ∧ p k r = true := by
  rw [selectByKey, (List.perm_insertionSort _ _).mem_iff, mem_select]

/-- Among rows with distinct keys, a key selects its row. -/
theorem filter_key {β : Type v} {key : β → Nat} {l : List β} (nodup : (l.map key).Nodup) {r : β}
    (mem : r ∈ l) : l.filter (fun e => decide (key e = key r)) = [r] := by
  induction l with
  | nil => cases mem
  | cons e l ih =>
      simp only [List.map_cons, List.nodup_cons] at nodup
      rcases List.mem_cons.mp mem with rfl | hl
      · have hnil : l.filter (fun e => decide (key e = key r)) = [] := by
          refine List.filter_eq_nil_iff.mpr fun e he hk => nodup.1 ?_
          exact List.mem_map.mpr ⟨e, he, by simpa using hk⟩
        simp [hnil]
      · have hne : ¬ key e = key r := fun hk => nodup.1 (List.mem_map.mpr ⟨_, hl, hk.symm⟩)
        simpa [hne] using ih nodup.2 hl

theorem nodup_selectByKey (t : Table ρ) (p : Nat → ρ → Bool) :
    ((t.selectByKey p).map Prod.fst).Nodup := by
  rw [selectByKey, ((List.perm_insertionSort _ _).map Prod.fst).nodup_iff]
  exact t.nodup.sublist (List.filter_sublist.map Prod.fst)

/-! ### Inserting many rows -/

/-- Inserted rows take consecutive keys from the sequence. -/
theorem get?_insertAll (rows : List ρ) : ∀ (t : Table ρ) (k : Nat),
    (rows.foldl insert t).get? k = if k < t.nextId then t.get? k else rows[k - t.nextId]? := by
  induction rows with
  | nil =>
      intro t k
      split
      · rfl
      · simpa using t.get?_of_nextId_le (Nat.not_lt.mp ‹_›)
  | cons r rows ih =>
      intro t k
      have hnext : (t.insert r).nextId = t.nextId + 1 := rfl
      rw [List.foldl_cons, ih, hnext, get?_insert]
      rcases Nat.lt_trichotomy k t.nextId with lt | rfl | gt
      · rw [if_pos (by omega), if_neg (by omega), if_pos lt]
      · simp
      · rw [if_neg (by omega), if_neg (by omega)]
        obtain ⟨d, rfl⟩ := Nat.exists_eq_add_of_lt gt
        have h₁ : t.nextId + d + 1 - (t.nextId + 1) = d := by omega
        have h₂ : t.nextId + d + 1 - t.nextId = d + 1 := by omega
        rw [h₁, h₂, List.getElem?_cons_succ]

/-- Updates one by one rewrite each row by those of its key, in order. -/
theorem updateAll_eq_modify {β : Type v} (key : β → Nat) (f : β → ρ → ρ) (es : List β) :
    ∀ t : Table ρ, es.foldl (fun t e => t.update (key e) (f e)) t = t.modify fun k r =>
      (es.filter fun e => decide (key e = k)).foldl (fun r e => f e r) r := by
  induction es with
  | nil => intro t; simp [modify]
  | cons e es ih =>
      intro t
      rw [List.foldl_cons, ih]
      simp only [update, modify, List.map_map, mk.injEq, and_true]
      refine List.map_congr_left fun row _ => ?_
      by_cases own : key e = row.1
      · simp [own]
      · simp [own, Ne.symm own]

/-- A row of the extended table is an old one or one of the inserted ones. -/
theorem mem_insertAll {rows : List ρ} {t : Table ρ} {k : Nat} {r : ρ}
    (h : (rows.foldl insert t).get? k = some r) :
    t.get? k = some r ∨ (t.nextId ≤ k ∧ r ∈ rows) := by
  rw [get?_insertAll] at h
  split at h
  · exact Or.inl h
  · exact Or.inr ⟨Nat.not_lt.mp ‹_›, List.mem_of_getElem? h⟩

/-- A row that was there before is still there. -/
theorem get?_insertAll_of_some {rows : List ρ} {t : Table ρ} {k : Nat} {r : ρ}
    (h : t.get? k = some r) : (rows.foldl insert t).get? k = some r := by
  rw [get?_insertAll, if_pos (lt_nextId h), h]

theorem entries_insertAll (rows : List ρ) : ∀ t : Table ρ,
    (rows.foldl insert t).entries =
      t.entries ++ (rows.zipIdx t.nextId).map fun e => (e.2, e.1) := by
  induction rows with
  | nil => intro t; simp
  | cons r rows ih =>
      intro t
      rw [List.foldl_cons, ih, List.zipIdx_cons, List.map_cons]
      exact List.append_assoc ..

/-! ### Selections by key -/

/-- A modification that keeps the selected rows selected rewrites the selection. -/
theorem select_modify {t : Table ρ} {p : Nat → ρ → Bool} {g : Nat → ρ → ρ}
    (same : ∀ k r, t.get? k = some r → p k (g k r) = p k r) :
    (t.modify g).select p = (t.select p).map fun e => (e.1, g e.1 e.2) := by
  rw [select, select, modify, List.filter_map]
  congr 1
  refine List.filter_congr fun e he => ?_
  exact same e.1 e.2 (mem_entries.mp he)

theorem selectByKey_modify {t : Table ρ} {p : Nat → ρ → Bool} {g : Nat → ρ → ρ}
    (same : ∀ k r, t.get? k = some r → p k (g k r) = p k r) :
    (t.modify g).selectByKey p = (t.selectByKey p).map fun e => (e.1, g e.1 e.2) := by
  rw [selectByKey, selectByKey, select_modify same]
  exact (List.map_insertionSort (r := fun a b : Nat × ρ => a.1 ≤ b.1)
    (s := fun a b : Nat × ρ => a.1 ≤ b.1) (fun e => (e.1, g e.1 e.2)) _
    fun _ _ _ _ => Iff.rfl).symm

/-- A table with the same keys is the old one with its rows rewritten. -/
theorem entries_of_keys {t t' : Table ρ} (keys : t'.keys = t.keys) :
    t'.entries = (t.modify fun k r => (t'.get? k).getD r).entries := by
  refine List.ext_getElem? fun i => ?_
  have key : t'.entries[i]?.map Prod.fst = t.entries[i]?.map Prod.fst := by
    rw [← List.getElem?_map, ← List.getElem?_map]
    exact congrArg (·[i]?) keys
  simp only [modify, List.getElem?_map]
  cases h : t.entries[i]? with
  | none => simpa [h] using key
  | some e =>
      rw [h, Option.map_some, Option.map_eq_some_iff] at key
      obtain ⟨e', he', same⟩ := key
      have row : t'.get? e'.1 = some e'.2 := mem_entries.mp (List.mem_of_getElem? he')
      rw [he', Option.map_some, ← same, row]
      rfl

theorem select_of_keys {t t' : Table ρ} (keys : t'.keys = t.keys) (p : Nat → ρ → Bool) :
    t'.select p = (t.modify fun k r => (t'.get? k).getD r).select p :=
  congrArg (List.filter _) (entries_of_keys keys)

theorem selectByKey_of_keys {t t' : Table ρ} (keys : t'.keys = t.keys) (p : Nat → ρ → Bool) :
    t'.selectByKey p = (t.modify fun k r => (t'.get? k).getD r).selectByKey p := by
  rw [selectByKey, selectByKey, select_of_keys keys]

/-- Old rows that are selected stay the selection when others are inserted. -/
theorem selectByKey_insertAll_of_none {rows : List ρ} {t : Table ρ} {p : Nat → ρ → Bool}
    (none : ∀ r ∈ rows, ∀ k, p k r = false) :
    (rows.foldl insert t).selectByKey p = t.selectByKey p := by
  rw [selectByKey, selectByKey, select, select, entries_insertAll, List.filter_append]
  congr 1
  rw [List.append_right_eq_self, List.filter_eq_nil_iff]
  intro e he
  obtain ⟨⟨r, k⟩, hr, rfl⟩ := List.mem_map.mp he
  simp [none r (List.fst_mem_of_mem_zipIdx hr) k]

/-- Inserted rows are selected in their order. -/
theorem selectByKey_insertAll {rows : List ρ} {t : Table ρ} {p : Nat → ρ → Bool}
    (old : ∀ k r, t.get? k = some r → p k r = false) (all : ∀ r ∈ rows, ∀ k, p k r = true) :
    ((rows.foldl insert t).selectByKey p).map Prod.snd = rows := by
  have selected : (rows.foldl insert t).select p =
      (rows.zipIdx t.nextId).map fun e => (e.2, e.1) := by
    rw [select, entries_insertAll, List.filter_append, List.filter_eq_nil_iff.mpr,
      List.nil_append, List.filter_eq_self.mpr]
    · intro e he
      obtain ⟨⟨r, k⟩, hr, rfl⟩ := List.mem_map.mp he
      exact all r (List.fst_mem_of_mem_zipIdx hr) k
    · intro e he
      simp [old e.1 e.2 (mem_entries.mp he)]
  have ascending : ((rows.zipIdx t.nextId).map fun e => (e.2, e.1)).Pairwise
      fun a b => a.1 ≤ b.1 := by
    have keys := List.pairwise_le_range' (s := t.nextId) (n := rows.length)
    rw [← List.zipIdx_map_snd t.nextId rows] at keys
    exact List.pairwise_map.mpr (List.pairwise_map.mp keys)
  rw [selectByKey, selected, ascending.insertionSort_eq, List.map_map]
  exact List.zipIdx_map_fst t.nextId rows

/-! ### Tables that agree row by row -/

/-- The two tables have rows under the same keys, related by `R`. -/
def Rows (R : Nat → ρ → ρ → Prop) (t t' : Table ρ) : Prop :=
  ∀ k, Option.Rel (R k) (t.get? k) (t'.get? k)

namespace Rows

variable {R S : Nat → ρ → ρ → Prop} {t t' t'' : Table ρ} {k : Nat} {r r' : ρ}

theorem refl (h : ∀ k r, R k r r) (t : Table ρ) : Rows R t t := by
  intro k
  cases t.get? k with
  | none => exact .none
  | some r => exact .some (h k r)

theorem comp {T : Nat → ρ → ρ → Prop} (h : ∀ k r₁ r₂ r₃, R k r₁ r₂ → S k r₂ r₃ → T k r₁ r₃)
    (first : Rows R t t') (second : Rows S t' t'') : Rows T t t'' := by
  intro k
  have h₁ := first k
  have h₂ := second k
  revert h₁ h₂
  generalize t.get? k = a, t'.get? k = b, t''.get? k = c
  rintro (⟨h₁⟩ | _) h₂
  · cases h₂ with
    | some h₂ => exact .some (h k _ _ _ h₁ h₂)
  · cases h₂
    exact .none

theorem mono (h : ∀ k r r', R k r r' → S k r r') (rows : Rows R t t') : Rows S t t' := by
  intro k
  have hk := rows k
  revert hk
  generalize t.get? k = a, t'.get? k = b
  rintro (⟨hR⟩ | _)
  · exact .some (h k _ _ hR)
  · exact .none

/-- The row a row of the first table became. -/
theorem forward (h : Rows R t t') (hr : t.get? k = some r) : ∃ r', t'.get? k = some r' ∧ R k r r' := by
  have hk := h k
  rw [hr] at hk
  cases hr' : t'.get? k with
  | none => rw [hr'] at hk; cases hk
  | some r' =>
      rw [hr'] at hk
      cases hk with
      | some hR => exact ⟨r', rfl, hR⟩

/-- The row a row of the second table was. -/
theorem backward (h : Rows R t t') (hr : t'.get? k = some r') :
    ∃ r, t.get? k = some r ∧ R k r r' := by
  have hk := h k
  rw [hr] at hk
  cases hr' : t.get? k with
  | none => rw [hr'] at hk; cases hk
  | some r =>
      rw [hr'] at hk
      cases hk with
      | some hR => exact ⟨r, rfl, hR⟩

end Rows

/-- An update relates the row it rewrites and leaves the others alone. -/
theorem rows_update {R : Nat → ρ → ρ → Prop} {t : Table ρ} {k : Nat} {f : ρ → ρ}
    (self : ∀ r, t.get? k = some r → R k r (f r)) (other : ∀ j r, j ≠ k → R j r r) :
    Rows R t (t.update k f) := by
  intro j
  rw [get?_update]
  by_cases h : j = k
  · subst h
    rw [if_pos rfl]
    cases hr : t.get? j with
    | none => exact .none
    | some r => exact .some (self r hr)
  · rw [if_neg h]
    cases t.get? j with
    | none => exact .none
    | some r => exact .some (other j r h)

/-! ### Sums -/

section Sums

variable [AddCommMonoid M]

@[simp] theorem sum_empty (g : Nat → ρ → M) : (empty : Table ρ).sum g = 0 := rfl

theorem sum_congr {t : Table ρ} {g h : Nat → ρ → M}
    (eq : ∀ k r, t.get? k = some r → g k r = h k r) : t.sum g = t.sum h := by
  unfold sum
  congr 1
  exact List.map_congr_left fun e he => eq e.1 e.2 (mem_entries.mp he)

theorem sum_eq_zero {t : Table ρ} {g : Nat → ρ → M}
    (zero : ∀ k r, t.get? k = some r → g k r = 0) : t.sum g = 0 := by
  rw [sum_congr zero, sum, List.map_const']
  simp

theorem sum_modify (t : Table ρ) (f : Nat → ρ → ρ) (g : Nat → ρ → M) :
    (t.modify f).sum g = t.sum fun k r => g k (f k r) := by
  simp [sum, modify, List.map_map, Function.comp_def]

theorem sum_append {t t' : Table ρ} {k : Nat} {r : ρ}
    (entries : t'.entries = t.entries ++ [(k, r)]) (g : Nat → ρ → M) :
    t'.sum g = t.sum g + g k r := by
  simp [sum, entries]

theorem sum_insert (t : Table ρ) (r : ρ) (g : Nat → ρ → M) :
    (t.insert r).sum g = t.sum g + g t.nextId r :=
  sum_append rfl g

theorem sum_insertAll (rows : List ρ) (g : ρ → M) :
    ∀ t : Table ρ, ((rows.foldl insert t).sum fun _ => g) = (t.sum fun _ => g) + (rows.map g).sum := by
  induction rows with
  | nil => intro t; simp
  | cons r rows ih =>
      intro t
      rw [List.foldl_cons, ih, sum_insert, List.map_cons, List.sum_cons, add_assoc]

theorem sum_add (t : Table ρ) (g h : Nat → ρ → M) :
    (t.sum fun k r => g k r + h k r) = t.sum g + t.sum h :=
  List.sum_map_add

/-- Summing over a selection is summing zero outside it. -/
theorem sum_select (t : Table ρ) (p : Nat → ρ → Bool) (g : Nat → ρ → M) :
    ((t.select p).map fun e => g e.1 e.2).sum = t.sum fun k r => if p k r then g k r else 0 := by
  unfold select sum
  induction t.entries with
  | nil => rfl
  | cons e l ih => by_cases h : p e.1 e.2 <;> simp [h, ih]

/-- One row's contribution and that of the others. -/
theorem sum_split {t : Table ρ} {k : Nat} {r : ρ} (hr : t.get? k = some r) (g : Nat → ρ → M) :
    t.sum g = g k r + t.sum fun j s => if j = k then 0 else g j s := by
  have split : t.sum g = t.sum fun j s => (if decide (j = k) = true then g j s else 0) +
      if j = k then 0 else g j s := by
    refine sum_congr fun j s _ => ?_
    by_cases h : j = k <;> simp [h]
  have own : t.select (fun j _ => decide (j = k)) = [(k, r)] :=
    filter_key t.nodup (mem_entries.mpr hr)
  rw [split, sum_add, ← sum_select, own]
  simp

theorem sum_erase (t : Table ρ) (k : Nat) (g : Nat → ρ → M) :
    (t.erase k).sum g = t.sum fun j s => if j = k then 0 else g j s := by
  have rest := t.sum_select (fun j _ => !decide (j = k)) g
  simp only [Bool.not_eq_true', decide_eq_false_iff_not, ite_not] at rest
  exact rest

theorem sum_erase_add {t : Table ρ} {k : Nat} {r : ρ} (hr : t.get? k = some r) (g : Nat → ρ → M) :
    (t.erase k).sum g + g k r = t.sum g := by
  rw [sum_erase, add_comm, ← sum_split hr g]

theorem sum_update_add {t : Table ρ} {k : Nat} {r : ρ} (hr : t.get? k = some r) (f : ρ → ρ)
    (g : Nat → ρ → M) : (t.update k f).sum g + g k r = t.sum g + g k (f r) := by
  have updated : (t.update k f).get? k = some (f r) := by simp [hr]
  have others : (t.sum fun j s => if j = k then 0 else g j (if j = k then f s else s)) =
      t.sum fun j s => if j = k then 0 else g j s :=
    sum_congr fun j s _ => by by_cases own : j = k <;> simp [own]
  rw [sum_split updated g, sum_split hr g, update, sum_modify, others]
  abel

end Sums

section Groups

variable [AddCommGroup M]

theorem sum_sub (t : Table ρ) (g h : Nat → ρ → M) :
    (t.sum fun k r => g k r - h k r) = t.sum g - t.sum h := by
  rw [eq_sub_iff_add_eq, ← sum_add]
  simp

/-- The sum of a function that lives on one key. -/
theorem sum_single {t : Table ρ} {k : Nat} {r : ρ} (hr : t.get? k = some r) (g : Nat → ρ → M) :
    (t.sum fun j s => if j = k then g j s else 0) = g k r := by
  have hsel : t.select (fun j _ => decide (j = k)) = [(k, r)] :=
    filter_key t.nodup (mem_entries.mpr hr)
  have hsum := t.sum_select (fun j _ => decide (j = k)) g
  rw [hsel] at hsum
  simpa using hsum.symm

/-- Rewriting one row changes the sum by that row's contribution. -/
theorem sum_update {t : Table ρ} {k : Nat} {r : ρ} (hr : t.get? k = some r) (f : ρ → ρ)
    (g : Nat → ρ → M) : (t.update k f).sum g = t.sum g - g k r + g k (f r) := by
  rw [update, sum_modify]
  have hsplit : (t.sum fun j s => g j (if j = k then f s else s)) =
      t.sum fun j s => g j s + (if j = k then g j (f s) - g j s else 0) := by
    refine sum_congr fun j s _ => ?_
    split <;> simp
  rw [hsplit, sum_add, sum_single hr fun j s => g j (f s) - g j s]
  abel

end Groups

section Ordered

variable [AddCommMonoid M] [PartialOrder M] [IsOrderedAddMonoid M]

theorem sum_nonneg {t : Table ρ} {g : Nat → ρ → M}
    (nonneg : ∀ k r, t.get? k = some r → 0 ≤ g k r) : 0 ≤ t.sum g := by
  refine List.sum_nonneg fun x hx => ?_
  obtain ⟨e, he, rfl⟩ := List.mem_map.mp hx
  exact nonneg e.1 e.2 (mem_entries.mp he)

theorem sum_le_sum {t : Table ρ} {g h : Nat → ρ → M}
    (le : ∀ k r, t.get? k = some r → g k r ≤ h k r) : t.sum g ≤ t.sum h :=
  List.sum_le_sum fun e he => le e.1 e.2 (mem_entries.mp he)

/-- One row's contribution is at most the whole sum of nonnegative terms. -/
theorem single_le_sum {t : Table ρ} {g : Nat → ρ → M}
    (nonneg : ∀ k r, t.get? k = some r → 0 ≤ g k r) {k : Nat} {r : ρ} (hr : t.get? k = some r) :
    g k r ≤ t.sum g := by
  have hmem : g k r ∈ t.entries.map fun e => g e.1 e.2 :=
    List.mem_map.mpr ⟨(k, r), mem_entries.mpr hr, rfl⟩
  refine List.single_le_sum (fun x hx => ?_) _ hmem
  obtain ⟨e, he, rfl⟩ := List.mem_map.mp hx
  exact nonneg e.1 e.2 (mem_entries.mp he)

end Ordered

end Table

end Relational
