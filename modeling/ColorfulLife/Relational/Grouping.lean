/-
Rows grouped by a key.

A map that keeps the order of insertion is filled row by row, each row added to
what its key has so far (`collect`). What comes out are the keys in the order of
their first rows, each with the fold of its own rows in their order
(`collect_eq`), and the groups together are the rows (`perm_flatMap_rowsAt`), so
that a sum over all rows is the sum over the groups of their sums.
-/

import Mathlib.Algebra.BigOperators.Group.List.Basic
import Mathlib.Data.List.Induction
import Mathlib.Data.List.Nodup

namespace Relational

universe u v w

variable {α : Type u} {κ : Type v} {β : Type w} [DecidableEq κ]

/-! ### First occurrences -/

theorem eraseDups_concat (l : List κ) (k : κ) :
    (l ++ [k]).eraseDups = if k ∈ l then l.eraseDups else l.eraseDups ++ [k] := by
  rw [List.eraseDups_append]
  by_cases mem : k ∈ l
  · simp [List.removeAll, mem]
  · simp [List.removeAll, mem, List.eraseDups_cons]

theorem nodup_eraseDups (l : List κ) : l.eraseDups.Nodup := by
  induction l using List.reverseRecOn with
  | nil => exact List.nodup_nil
  | append_singleton l k ih =>
      rw [eraseDups_concat]
      split
      · exact ih
      · rename_i fresh
        refine List.Nodup.append ih (List.nodup_singleton k) fun j mem own => fresh ?_
        exact List.mem_singleton.mp own ▸ List.mem_eraseDups.mp mem

/-! ### Maps that keep the order of insertion -/

/-- Replace what is stored under `k`, in its place, or append it. -/
def adjust (k : κ) (f : Option β → β) : List (κ × β) → List (κ × β)
  | [] => [(k, f none)]
  | e :: m => if e.1 = k then (e.1, f (some e.2)) :: m else e :: adjust k f m

/-- Fill a map row by row. -/
def collect (key : α → κ) (add : Option β → α → β) (rows : List α) : List (κ × β) :=
  rows.foldl (fun m a => adjust (key a) (fun old => add old a) m) []

/-- The keys of the rows, in the order of their first rows. -/
def firstKeys (key : α → κ) (rows : List α) : List κ := (rows.map key).eraseDups

/-- The rows of a key. -/
def rowsAt (key : α → κ) (rows : List α) (k : κ) : List α := rows.filter fun a => decide (key a = k)

theorem adjust_of_notMem {k : κ} (f : Option β → β) {m : List (κ × β)}
    (fresh : k ∉ m.map Prod.fst) : adjust k f m = m ++ [(k, f none)] := by
  induction m with
  | nil => rfl
  | cons e m ih =>
      rw [List.map_cons, List.mem_cons, not_or] at fresh
      rw [adjust, if_neg (Ne.symm fresh.1), ih fresh.2, List.cons_append]

theorem adjust_map {k : κ} (f : Option β → β) (g : κ → β) {ks : List κ} (nodup : ks.Nodup)
    (mem : k ∈ ks) : adjust k f (ks.map fun j => (j, g j)) =
      ks.map fun j => (j, if j = k then f (some (g j)) else g j) := by
  induction ks with
  | nil => cases mem
  | cons j ks ih =>
      obtain ⟨fresh, nodup⟩ := List.nodup_cons.mp nodup
      rw [List.map_cons, adjust, List.map_cons]
      by_cases same : j = k
      · subst same
        have others : ∀ i ∈ ks, (i, if i = j then f (some (g i)) else g i) = (i, g i) := by
          intro i hi
          rw [if_neg fun own : i = j => fresh (own ▸ hi)]
        rw [if_pos rfl, if_pos rfl, List.map_congr_left others]
      · rw [if_neg same, if_neg same, ih nodup ((List.mem_cons.mp mem).resolve_left (Ne.symm same))]

/-- Adding to what is stored adds to the sum over the map. -/
theorem sum_adjust {M : Type w} [AddCommMonoid M] {k : κ} {x : M} (m : List (κ × M)) :
    ((adjust k (fun old => old.getD 0 + x) m).map Prod.snd).sum = (m.map Prod.snd).sum + x := by
  induction m with
  | nil => simp [adjust]
  | cons e m ih =>
      rw [adjust]
      split
      · simp only [List.map_cons, List.sum_cons, Option.getD_some]
        rw [add_assoc, add_comm x, add_assoc]
      · rw [List.map_cons, List.sum_cons, ih, List.map_cons, List.sum_cons, add_assoc]

theorem firstKeys_concat (key : α → κ) (rows : List α) (a : α) : firstKeys key (rows ++ [a]) =
    if key a ∈ firstKeys key rows then firstKeys key rows else firstKeys key rows ++ [key a] := by
  rw [firstKeys, List.map_append, List.map_singleton, eraseDups_concat]
  simp only [firstKeys, List.mem_eraseDups]

theorem mem_firstKeys {key : α → κ} {rows : List α} {k : κ} :
    k ∈ firstKeys key rows ↔ ∃ a ∈ rows, key a = k := by
  rw [firstKeys, List.mem_eraseDups, List.mem_map]

theorem nodup_firstKeys (key : α → κ) (rows : List α) : (firstKeys key rows).Nodup :=
  nodup_eraseDups _

theorem mem_rowsAt {key : α → κ} {rows : List α} {k : κ} {a : α} :
    a ∈ rowsAt key rows k ↔ a ∈ rows ∧ key a = k := by
  rw [rowsAt, List.mem_filter, decide_eq_true_eq]

theorem rowsAt_concat (key : α → κ) (rows : List α) (a : α) (k : κ) : rowsAt key (rows ++ [a]) k =
    if k = key a then rowsAt key rows k ++ [a] else rowsAt key rows k := by
  rw [rowsAt, List.filter_append]
  by_cases own : k = key a
  · subst own
    simp [rowsAt]
  · simp [rowsAt, own, Ne.symm own]

/-- Keys may be renamed. -/
theorem firstKeys_rename {κ' : Type*} [DecidableEq κ'] {f : κ → κ'} (inj : Function.Injective f)
    (key : α → κ) (rows : List α) :
    firstKeys (fun a => f (key a)) rows = (firstKeys key rows).map f := by
  induction rows using List.reverseRecOn with
  | nil => rfl
  | append_singleton rows a ih =>
      have same := List.mem_map_of_injective inj (a := key a) (l := firstKeys key rows)
      rw [firstKeys_concat, firstKeys_concat, ih]
      by_cases mem : key a ∈ firstKeys key rows
      · rw [if_pos mem, if_pos (same.mpr mem)]
      · rw [if_neg mem, if_neg (same.not.mpr mem), List.map_append, List.map_singleton]

theorem rowsAt_rename {κ' : Type*} [DecidableEq κ'] {f : κ → κ'} (inj : Function.Injective f)
    (key : α → κ) (rows : List α) (k : κ) :
    rowsAt (fun a => f (key a)) rows (f k) = rowsAt key rows k :=
  List.filter_congr fun a _ => by rw [decide_eq_decide, inj.eq_iff]

/-- A filled map has the keys of the rows, each with the fold of its rows. -/
theorem collect_eq (key : α → κ) (step : β → α → β) (init : β) (rows : List α) :
    collect key (fun old a => step (old.getD init) a) rows =
      (firstKeys key rows).map fun k => (k, (rowsAt key rows k).foldl step init) := by
  induction rows using List.reverseRecOn with
  | nil => rfl
  | append_singleton rows a ih =>
      have before : collect key (fun old a => step (old.getD init) a) (rows ++ [a]) =
          adjust (key a) (fun old => step (old.getD init) a)
            (collect key (fun old a => step (old.getD init) a) rows) := by
        rw [collect, List.foldl_append]
        rfl
      rw [before, ih, firstKeys_concat]
      split
      · rename_i mem
        rw [adjust_map _ _ (nodup_firstKeys key rows) mem]
        refine List.map_congr_left fun k _ => ?_
        rw [rowsAt_concat]
        split
        · rw [List.foldl_append]
          rfl
        · rfl
      · rename_i fresh
        have keys : key a ∉ ((firstKeys key rows).map fun k =>
            (k, (rowsAt key rows k).foldl step init)).map Prod.fst := by
          rw [List.map_map]
          exact fun mem => fresh (by simpa using mem)
        have none : rowsAt key rows (key a) = [] := by
          refine List.eq_nil_iff_forall_not_mem.mpr fun b mem => fresh ?_
          exact mem_firstKeys.mpr ⟨b, mem_rowsAt.mp mem⟩
        rw [adjust_of_notMem _ keys, List.map_append]
        refine congrArg₂ (· ++ ·) (List.map_congr_left fun k mem => ?_) ?_
        · rw [rowsAt_concat, if_neg fun own : k = key a => fresh (own ▸ mem)]
        · rw [List.map_singleton, rowsAt_concat, if_pos rfl, none]
          rfl

theorem mem_collect (key : α → κ) (step : β → α → β) (init : β) {rows : List α} {k : κ} {b : β} :
    (k, b) ∈ collect key (fun old a => step (old.getD init) a) rows ↔
      (∃ a ∈ rows, key a = k) ∧ (rowsAt key rows k).foldl step init = b := by
  rw [collect_eq, List.mem_map]
  constructor
  · rintro ⟨_, mem, pair⟩
    obtain ⟨rfl, value⟩ := Prod.mk.inj pair
    exact ⟨mem_firstKeys.mp mem, value⟩
  · rintro ⟨mem, rfl⟩
    exact ⟨k, mem_firstKeys.mpr mem, rfl⟩

theorem nodup_keys_collect (key : α → κ) (step : β → α → β) (init : β) (rows : List α) :
    ((collect key (fun old a => step (old.getD init) a) rows).map Prod.fst).Nodup := by
  rw [collect_eq, List.map_map]
  exact (nodup_firstKeys key rows).map_on fun _ _ _ _ same => same

/-! ### The groups are the rows -/

/-- Every row is in the group of its key, once. -/
theorem perm_flatMap_rowsAt {key : α → κ} {rows : List α} {ks : List κ} (nodup : ks.Nodup)
    (all : ∀ a ∈ rows, key a ∈ ks) : (ks.flatMap (rowsAt key rows)).Perm rows := by
  induction rows with
  | nil => simp [rowsAt]
  | cons a rows ih =>
      obtain ⟨own, all⟩ := List.forall_mem_cons.mp all
      obtain ⟨pre, post, rfl⟩ := List.append_of_mem own
      have split := List.nodup_middle.mp nodup
      have apart : ∀ ks : List κ, (∀ k ∈ ks, k ≠ key a) →
          ks.flatMap (rowsAt key (a :: rows)) = ks.flatMap (rowsAt key rows) := by
        intro ks other
        refine List.flatMap_congr fun k hk => ?_
        rw [rowsAt, List.filter_cons_of_neg (by simpa using (other k hk).symm)]
        rfl
      have before := apart pre fun k hk same =>
        (List.nodup_cons.mp split).1 (same ▸ List.mem_append_left _ hk)
      have after := apart post fun k hk same =>
        (List.nodup_cons.mp split).1 (same ▸ List.mem_append_right _ hk)
      have here : rowsAt key (a :: rows) (key a) = a :: rowsAt key rows (key a) := by
        rw [rowsAt, List.filter_cons_of_pos (by simp)]
        rfl
      have rest := ih all
      rw [List.flatMap_append, List.flatMap_cons] at rest ⊢
      rw [before, after, here, List.cons_append]
      exact List.perm_middle.trans (rest.cons a)

variable {M : Type w} [AddCommMonoid M]

/-- A sum over the rows is the sum of the groups' sums. -/
theorem sum_rowsAt {key : α → κ} {rows : List α} {ks : List κ} (nodup : ks.Nodup)
    (all : ∀ a ∈ rows, key a ∈ ks) (g : α → M) :
    (ks.map fun k => ((rowsAt key rows k).map g).sum).sum = (rows.map g).sum := by
  have sums := ((perm_flatMap_rowsAt nodup all).map g).sum_eq
  rw [List.map_flatMap, List.flatMap_def, List.sum_flatten, List.map_map] at sums
  exact sums

theorem sum_groups (key : α → κ) (rows : List α) (g : α → M) :
    ((firstKeys key rows).map fun k => ((rowsAt key rows k).map g).sum).sum = (rows.map g).sum :=
  sum_rowsAt (nodup_firstKeys key rows) (fun a mem => mem_firstKeys.mpr ⟨a, mem, rfl⟩) g

/-! ### Queries that group -/

/-- `SELECT aggregate … GROUP BY key`, in the order of the first rows. -/
def groupBy (key : α → κ) (aggregate : κ → List α → β) (rows : List α) : List β :=
  (firstKeys key rows).map fun k => aggregate k (rowsAt key rows k)

theorem mem_groupBy {key : α → κ} {aggregate : κ → List α → β} {rows : List α} {b : β} :
    b ∈ groupBy key aggregate rows ↔
      ∃ k, (∃ a ∈ rows, key a = k) ∧ aggregate k (rowsAt key rows k) = b := by
  simp only [groupBy, List.mem_map, mem_firstKeys]

/-- What the groups sum up is what the rows sum up. -/
theorem sum_groupBy {key : α → κ} {aggregate : κ → List α → β} {g : β → M} {h : α → M}
    (sums : ∀ k own, (∀ a ∈ own, key a = k) → g (aggregate k own) = (own.map h).sum)
    (rows : List α) : ((groupBy key aggregate rows).map g).sum = (rows.map h).sum := by
  rw [groupBy, List.map_map, ← sum_groups key rows h]
  refine congrArg List.sum (List.map_congr_left fun k _ => sums k _ fun a mem => ?_)
  exact (mem_rowsAt.mp mem).2

theorem sum_filter {γ : Type*} (p : γ → Bool) (f : γ → M) (l : List γ) :
    ((l.filter p).map f).sum = (l.map fun c => if p c then f c else 0).sum := by
  induction l with
  | nil => rfl
  | cons c l ih =>
      rw [List.map_cons, List.sum_cons, ← ih]
      cases chosen : p c with
      | false => rw [List.filter_cons_of_neg (by simp [chosen]), if_neg Bool.false_ne_true, zero_add]
      | true => rw [List.filter_cons_of_pos chosen, List.map_cons, List.sum_cons, if_pos rfl]

/-- So do the groups and the rows that a condition on the key selects. -/
theorem sum_filter_groupBy {key : α → κ} {aggregate : κ → List α → β} {g : β → M} {h : α → M}
    {p : κ → Bool} {q : β → Bool} (sums : ∀ k own, g (aggregate k own) = (own.map h).sum)
    (selects : ∀ k own, q (aggregate k own) = p k) (rows : List α) :
    (((groupBy key aggregate rows).filter q).map g).sum =
      ((rows.filter fun a => p (key a)).map h).sum := by
  rw [sum_filter, sum_filter]
  refine sum_groupBy (fun k own keyed => ?_) rows
  rw [selects]
  have same : own.map (fun a => if p (key a) then h a else 0) =
      own.map fun a => if p k then h a else 0 :=
    List.map_congr_left fun a mem => by rw [keyed a mem]
  rw [same]
  cases p k with
  | false => simp
  | true => simpa using sums k own

/-- The order in which a query without `ORDER BY` returns its rows. -/
structure RowOrder (ρ : Type u) where
  arrange : List ρ → List ρ
  perm : ∀ rows, (arrange rows).Perm rows

/-- Two rows of a result come last, in this order. -/
def RowOrder.lastTwo {ρ : Type u} [DecidableEq ρ] (a b : ρ) : RowOrder ρ where
  arrange := fun rows =>
    if a ∈ rows ∧ b ∈ rows.erase a then (rows.erase a).erase b ++ [a, b] else rows
  perm := by
    intro rows
    split
    · rename_i mem
      have first := List.perm_cons_erase mem.1
      have second := List.perm_cons_erase mem.2
      calc (rows.erase a).erase b ++ [a, b]
        _ |>.Perm (a :: b :: (rows.erase a).erase b) := List.perm_append_comm
        _ |>.Perm (a :: rows.erase a) := second.symm.cons a
        _ |>.Perm rows := first.symm
    · exact .refl rows

theorem RowOrder.lastTwo_arrange {ρ : Type u} [DecidableEq ρ] {a b : ρ} {rows : List ρ}
    (first : a ∈ rows) (second : b ∈ rows) (differ : b ≠ a) :
    (RowOrder.lastTwo a b).arrange rows = (rows.erase a).erase b ++ [a, b] :=
  if_pos ⟨first, (List.mem_erase_of_ne differ).mpr second⟩

/-! ### Keys that occur more than once -/

/-- `GROUP BY key HAVING COUNT(*) > 1`. -/
def repeated (keys : List κ) : List κ := keys.eraseDups.filter fun k => decide (1 < keys.count k)

theorem mem_repeated {keys : List κ} {k : κ} : k ∈ repeated keys ↔ 1 < keys.count k := by
  rw [repeated, List.mem_filter, List.mem_eraseDups, decide_eq_true_eq]
  constructor
  · exact And.right
  · intro more
    exact ⟨List.count_pos_iff.mp (by omega), more⟩

theorem repeated_eq_nil_iff {keys : List κ} : repeated keys = [] ↔ keys.Nodup := by
  rw [List.nodup_iff_count_le_one, List.eq_nil_iff_forall_not_mem]
  simp only [mem_repeated, Nat.not_lt]

/-- `GROUP BY key HAVING COUNT(DISTINCT value) > 1`. -/
def ambiguous {ν : Type w} [DecidableEq ν] (pairs : List (κ × ν)) : List κ :=
  repeated (pairs.eraseDups.map Prod.fst)

/-- A key that is not ambiguous has one value. -/
theorem value_unique {ν : Type w} [DecidableEq ν] {pairs : List (κ × ν)} {k : κ} {v v' : ν}
    (single : k ∉ ambiguous pairs) (mem : (k, v) ∈ pairs) (mem' : (k, v') ∈ pairs) : v = v' := by
  rw [ambiguous, mem_repeated, Nat.not_lt, List.count, List.countP_map,
    List.countP_eq_length_filter] at single
  generalize own : pairs.eraseDups.filter ((fun j => j == k) ∘ Prod.fst) = rows at single
  have here : ∀ {u : ν}, (k, u) ∈ pairs → (k, u) ∈ rows := by
    intro u hu
    rw [← own]
    exact List.mem_filter.mpr ⟨List.mem_eraseDups.mpr hu, beq_self_eq_true k⟩
  match rows, single, here mem, here mem' with
  | [e], _, first, second =>
      have same := (List.mem_singleton.mp first).trans (List.mem_singleton.mp second).symm
      exact congrArg Prod.snd same

end Relational
