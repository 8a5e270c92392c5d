/-
Rows that carry their position.

`ORDER BY rank, id` reads the selected rows in the order of a column of numbers.
`Arranged` says which order of keys that is, and `Numbered` that the column counts
the rows from nought; a numbering is kept by appending a row and restored by
writing the positions of any list of the selected keys.
-/

import ColorfulLife.Relational.Paging

namespace Relational

namespace Table

universe u

variable {ρ : Type u} {t t' : Table ρ} {p : Nat → ρ → Bool} {rank : ρ → Nat} {ids : List Nat}
  {k : Nat} {r : ρ}

/-- `ORDER BY rank, id`. -/
def byRank (rank : ρ → Nat) (a b : Nat × ρ) : Prop :=
  rank a.2 < rank b.2 ∨ (rank a.2 = rank b.2 ∧ a.1 ≤ b.1)

instance (rank : ρ → Nat) : DecidableRel (byRank rank) := fun a b => by
  unfold byRank; infer_instance

instance (rank : ρ → Nat) : Std.Total (byRank rank) where
  total a b := by
    unfold byRank
    omega

instance (rank : ρ → Nat) : IsTrans (Nat × ρ) (byRank rank) where
  trans a b c := by
    unfold byRank
    omega

/-- `WHERE p ORDER BY rank, id`. -/
def ranked (t : Table ρ) (p : Nat → ρ → Bool) (rank : ρ → Nat) : List (Nat × ρ) :=
  t.selectBy p (byRank rank)

/-- The selected keys are `ids`, in the order of strictly growing ranks. -/
structure Arranged (t : Table ρ) (p : Nat → ρ → Bool) (rank : ρ → Nat) (ids : List Nat) : Prop where
  mem : ∀ k, k ∈ ids ↔ ∃ r, t.get? k = some r ∧ p k r = true
  sorted : ids.Pairwise fun k l =>
    ∀ r s, t.get? k = some r → t.get? l = some s → rank r < rank s

/-- The selected keys are `ids`, and each row's rank is its position. -/
structure Numbered (t : Table ρ) (p : Nat → ρ → Bool) (rank : ρ → Nat) (ids : List Nat) : Prop where
  nodup : ids.Nodup
  mem : ∀ k, k ∈ ids ↔ ∃ r, t.get? k = some r ∧ p k r = true
  position : ∀ (i : Nat) k r, ids[i]? = some k → t.get? k = some r → rank r = i

/-! ### Reading an arrangement -/

theorem Arranged.nodup (h : Arranged t p rank ids) : ids.Nodup := by
  refine h.sorted.imp_of_mem fun mem _ less same => ?_
  subst same
  obtain ⟨r, hr, -⟩ := (h.mem _).mp mem
  exact Nat.lt_irrefl _ (less r r hr hr)

/-- Of two keys of one rank each is the other. -/
theorem Arranged.eq_of_rank {l : Nat} {s : ρ} (h : Arranged t p rank ids) (hk : k ∈ ids)
    (hl : l ∈ ids) (hr : t.get? k = some r) (hs : t.get? l = some s) (same : rank r = rank s) :
    k = l := by
  obtain ⟨i, hi, rfl⟩ := List.mem_iff_getElem.mp hk
  obtain ⟨j, hj, rfl⟩ := List.mem_iff_getElem.mp hl
  have sorted := List.pairwise_iff_getElem.mp h.sorted
  rcases Nat.lt_trichotomy i j with less | rfl | more
  · have below := sorted i j hi hj less r s hr hs
    omega
  · rfl
  · have above := sorted j i hj hi more s r hs hr
    omega

/-- The rows are read in the order of the arrangement. -/
theorem Arranged.keys_ranked (h : Arranged t p rank ids) :
    (t.ranked p rank).map Prod.fst = ids := by
  have distinct : ((t.ranked p rank).map Prod.fst).Nodup := nodup_keys_selectBy t p
  have same : ((t.ranked p rank).map Prod.fst).Perm ids := by
    refine (List.perm_ext_iff_of_nodup distinct h.nodup).mpr fun k => ?_
    rw [ranked, mem_keys_selectBy, h.mem]
  have sorted : (t.ranked p rank).Pairwise (byRank rank) := List.pairwise_insertionSort _ _
  have keys : ((t.ranked p rank).map Prod.fst).Pairwise fun k l =>
      ∀ r s, t.get? k = some r → t.get? l = some s → rank r ≤ rank s := by
    refine List.pairwise_map.mpr (sorted.imp_of_mem fun {a b} ha hb le r s hr hs => ?_)
    obtain rfl := Option.some.inj ((mem_selectBy.mp ha).1.symm.trans hr)
    obtain rfl := Option.some.inj ((mem_selectBy.mp hb).1.symm.trans hs)
    unfold byRank at le
    omega
  have arranged : ids.Pairwise fun k l =>
      ∀ r s, t.get? k = some r → t.get? l = some s → rank r ≤ rank s :=
    h.sorted.imp fun less r s hr hs => (less r s hr hs).le
  refine same.eq_of_pairwise (fun k l hk hl first second => ?_) keys arranged
  have hk := same.mem_iff.mp hk
  obtain ⟨r, hr, -⟩ := (h.mem k).mp hk
  obtain ⟨s, hs, -⟩ := (h.mem l).mp hl
  exact h.eq_of_rank hk hl hr hs (Nat.le_antisymm (first r s hr hs) (second s r hs hr))

theorem Numbered.arranged (h : Numbered t p rank ids) : Arranged t p rank ids where
  mem := h.mem
  sorted := by
    refine List.pairwise_iff_getElem.mpr fun i j hi hj less r s hr hs => ?_
    rw [h.position i _ r (List.getElem?_eq_getElem hi) hr,
      h.position j _ s (List.getElem?_eq_getElem hj) hs]
    exact less

/-- The ranks of a numbering count from nought. -/
theorem Numbered.ranks (h : Numbered t p rank ids) :
    (t.ranked p rank).map (fun e => rank e.2) = List.range ids.length := by
  have keys := h.arranged.keys_ranked
  have length : (t.ranked p rank).length = ids.length := by rw [← keys, List.length_map]
  refine List.ext_getElem (by simp [length]) fun i valid _ => ?_
  rw [List.length_map] at valid
  have row := (mem_selectBy.mp (List.getElem_mem valid)).1
  have key : ids[i]? = some (t.ranked p rank)[i].1 := by
    rw [← keys, List.getElem?_map, List.getElem?_eq_getElem valid, Option.map_some]
  rw [List.getElem_map, List.getElem_range]
  exact h.position i _ _ key row

/-- Lists of rows of a table are equal when their keys are. -/
theorem eq_of_keys {l l' : List (Nat × ρ)} (keys : l.map Prod.fst = l'.map Prod.fst)
    (rows : ∀ e ∈ l, t.get? e.1 = some e.2) (rows' : ∀ e ∈ l', t.get? e.1 = some e.2) : l = l' := by
  induction l generalizing l' with
  | nil => exact (List.map_eq_nil_iff.mp keys.symm).symm
  | cons e l ih =>
      obtain ⟨e', l', rfl⟩ := List.exists_cons_of_ne_nil fun none_ : l' = [] => by
        rw [none_] at keys
        cases keys
      obtain ⟨first, rest⟩ := List.cons.inj keys
      obtain ⟨row, others⟩ := List.forall_mem_cons.mp rows
      obtain ⟨row', others'⟩ := List.forall_mem_cons.mp rows'
      rw [first, row'] at row
      rw [Prod.ext first (Option.some.inj row).symm, ih rest others others']

/-! ### Writing an arrangement -/

/-- Rows that are selected alike, with the ranks they had, are numbered alike. -/
theorem Numbered.congr (h : Numbered t p rank ids)
    (same : ∀ k, (∃ r, t'.get? k = some r ∧ p k r = true) ↔ ∃ r, t.get? k = some r ∧ p k r = true)
    (ranks : ∀ k r', t'.get? k = some r' → p k r' = true →
      ∃ r, t.get? k = some r ∧ rank r' = rank r) : Numbered t' p rank ids where
  nodup := h.nodup
  mem k := (h.mem k).trans (same k).symm
  position i k r' key hr' := by
    obtain ⟨s, hs, selected⟩ := (same k).mpr ((h.mem k).mp (List.mem_of_getElem? key))
    obtain rfl := Option.some.inj (hs.symm.trans hr')
    obtain ⟨r, hr, rank_eq⟩ := ranks k s hs selected
    rw [rank_eq]
    exact h.position i k r key hr

/-- A row appended behind the numbered ones. -/
theorem Numbered.insert (h : Numbered t p rank ids) (selected : p t.nextId r = true)
    (last : rank r = ids.length) : Numbered (t.insert r) p rank (ids ++ [t.nextId]) where
  nodup := by
    refine List.nodup_append.mpr ⟨h.nodup, List.nodup_singleton _, fun k hk l hl => ?_⟩
    obtain rfl := List.mem_singleton.mp hl
    obtain ⟨s, hs, -⟩ := (h.mem k).mp hk
    exact (lt_nextId hs).ne
  mem k := by
    rw [List.mem_append, List.mem_singleton, h.mem]
    constructor
    · rintro (⟨s, hs, hp⟩ | rfl)
      · exact ⟨s, get?_insert_of_some hs, hp⟩
      · exact ⟨r, get?_insert_self t r, selected⟩
    · rintro ⟨s, hs, hp⟩
      rcases insert_cases hs with ⟨rfl, rfl⟩ | old
      · exact Or.inr rfl
      · exact Or.inl ⟨s, old, hp⟩
  position i k s key hs := by
    rw [List.getElem?_append] at key
    by_cases early : i < ids.length
    · rw [if_pos early] at key
      obtain ⟨s', hs', -⟩ := (h.mem k).mp (List.mem_of_getElem? key)
      rw [get?_insert_of_some hs'] at hs
      obtain rfl := Option.some.inj hs
      exact h.position i k s' key hs'
    · rw [if_neg early] at key
      obtain ⟨at_, rfl⟩ := List.getElem?_eq_some_iff.mp key
      have here : i = ids.length := by
        rw [List.length_singleton] at at_
        omega
      rw [List.getElem_singleton, get?_insert_self] at hs
      obtain rfl := Option.some.inj hs
      exact last.trans here.symm

/-- An arrangement without one of its rows. -/
theorem Arranged.erase (h : Arranged t p rank ids) (k : Nat) :
    Arranged (t.erase k) p rank (ids.erase k) where
  mem l := by
    rw [h.nodup.mem_erase_iff, h.mem, get?_erase]
    by_cases same : l = k
    · simp [same]
    · simp [same]
  sorted := by
    refine (h.sorted.sublist List.erase_sublist).imp fun less r s hr hs => ?_
    rw [get?_erase] at hr hs
    split at hr <;> split at hs
    · cases hr
    · cases hr
    · cases hs
    · exact less r s hr hs

section Renumber

variable {setRank : Nat → ρ → ρ}

/-- Write to each of the rows its position in `ids`. -/
def renumber (setRank : Nat → ρ → ρ) (ids : List Nat) (t : Table ρ) : Table ρ :=
  ids.zipIdx.foldl (fun t e => t.update e.1 (setRank e.2)) t

theorem get?_renumber (nodup : ids.Nodup) (k : Nat) : (t.renumber setRank ids).get? k =
    (t.get? k).map fun r => if k ∈ ids then setRank (ids.idxOf k) r else r := by
  have keys : (ids.zipIdx.map Prod.fst).Nodup := by rwa [List.zipIdx_map_fst]
  rw [renumber, updateAll_eq_modify Prod.fst (fun e => setRank e.2), get?_modify]
  congr 1
  funext r
  by_cases mem : k ∈ ids
  · have here : (k, ids.idxOf k) ∈ ids.zipIdx :=
      List.mem_zipIdx_iff_getElem?.mpr (List.getElem?_idxOf mem)
    rw [if_pos mem, filter_key keys here]
    rfl
  · have none_ : (ids.zipIdx.filter fun e => decide (e.1 = k)) = [] := by
      refine List.filter_eq_nil_iff.mpr fun e he own => mem ?_
      rw [← of_decide_eq_true own]
      exact List.fst_mem_of_mem_zipIdx he
    rw [if_neg mem, none_]
    rfl

theorem nextId_renumber : (t.renumber setRank ids).nextId = t.nextId := by
  rw [renumber, updateAll_eq_modify Prod.fst (fun e => setRank e.2)]
  rfl

/-- The positions written to the rows of any list of the selected keys number it. -/
theorem numbered_renumber (nodup : ids.Nodup)
    (mem : ∀ k, k ∈ ids ↔ ∃ r, t.get? k = some r ∧ p k r = true)
    (ranks : ∀ n r, rank (setRank n r) = n) (keeps : ∀ k n r, p k (setRank n r) = p k r) :
    Numbered (t.renumber setRank ids) p rank ids where
  nodup := nodup
  mem k := by
    rw [mem, get?_renumber nodup]
    constructor
    · rintro ⟨r, hr, selected⟩
      refine ⟨_, by rw [hr, Option.map_some], ?_⟩
      split
      · rwa [keeps]
      · exact selected
    · rintro ⟨r', hr', selected⟩
      obtain ⟨r, hr, rfl⟩ := Option.map_eq_some_iff.mp hr'
      refine ⟨r, hr, ?_⟩
      split at selected
      · rwa [keeps] at selected
      · exact selected
  position i k r' key hr' := by
    rw [get?_renumber nodup] at hr'
    obtain ⟨r, hr, rfl⟩ := Option.map_eq_some_iff.mp hr'
    rw [if_pos (List.mem_of_getElem? key), ranks]
    obtain ⟨valid, rfl⟩ := List.getElem?_eq_some_iff.mp key
    exact nodup.idxOf_getElem i valid

/-- Rows read in their order and renumbered are the renumbered rows in theirs. -/
theorem ranked_renumber (h : Arranged t p rank ids) (ranks : ∀ n r, rank (setRank n r) = n)
    (keeps : ∀ k n r, p k (setRank n r) = p k r) :
    ((t.ranked p rank).zipIdx.map fun e => (e.1.1, setRank e.2 e.1.2)) =
      (t.renumber setRank ids).ranked p rank := by
  have numbered : Numbered (t.renumber setRank ids) p rank ids :=
    numbered_renumber h.nodup h.mem ranks keeps
  refine eq_of_keys (t := t.renumber setRank ids) ?_ (fun e mem => ?_) fun e mem =>
    (mem_selectBy.mp mem).1
  · have keys := congrArg (List.map Prod.fst) (List.zipIdx_map_fst 0 (t.ranked p rank))
    rw [List.map_map] at keys ⊢
    rw [numbered.arranged.keys_ranked, ← h.keys_ranked]
    exact keys
  · obtain ⟨⟨⟨k, r⟩, i⟩, here, rfl⟩ := List.mem_map.mp mem
    have at_ := List.mem_zipIdx_iff_getElem?.mp here
    have key : ids[i]? = some k := by
      rw [← h.keys_ranked, List.getElem?_map, at_, Option.map_some]
    obtain ⟨valid, rfl⟩ := List.getElem?_eq_some_iff.mp key
    have found := (mem_selectBy.mp (List.mem_of_getElem? at_)).1
    rw [get?_renumber h.nodup, found, Option.map_some, if_pos (List.getElem_mem valid),
      h.nodup.idxOf_getElem i valid]

end Renumber

end Table

end Relational
