/-
The reduction of allocations.

`reduceAllocations` goes through the allocations of a row, oldest order first,
and takes a number of units off them. That is `Blocks.takeOff` on the blocks of
those allocations, and the rest of the table stays.
-/

import ColorfulLife.Cart.Holdings

namespace ColorfulLife

open Relational Labelled

/-- The allocations as blocks, one for each. -/
def blocksOf (entries : List (Nat × OrderCartAllocation)) : Blocks Nat :=
  entries.map fun e => (e.2.orderId, e.2.visibleQuantity.toNat)

/-- The allocations of a row, in the order in which they are reduced. -/
def reducible (k : Nat) (db : Db) : List (Nat × OrderCartAllocation) :=
  (db.cartAllocations.select fun _ a => db.attachedTo k a).insertionSort allocationOrder

def OrderCartAllocation.lower (n : Int) (a : OrderCartAllocation) : OrderCartAllocation :=
  { a with visibleQuantity := a.visibleQuantity - n }

/-! ### The loop -/

section Loop

variable {entries : List (Nat × OrderCartAllocation)} {t : Table OrderCartAllocation} {excess : Int}

/-- One round of the loop. -/
theorem detach_cons (i : Nat) (a : OrderCartAllocation) :
    detach ((i, a) :: entries) excess t = detach entries (excess - min excess a.visibleQuantity)
      (t.update i (.lower (min excess a.visibleQuantity))) := by
  rw [detach]
  by_cases none : min excess a.visibleQuantity = 0
  · rw [if_neg (by simp [none]), none, Table.update_eq_self]
    intro a
    simp [OrderCartAllocation.lower]
  · rw [if_pos none]
    rfl

/-- The entries are rows of the table, each once. -/
def Current (entries : List (Nat × OrderCartAllocation)) (t : Table OrderCartAllocation) : Prop :=
  (entries.map Prod.fst).Nodup ∧
    ∀ e ∈ entries, t.get? e.1 = some e.2 ∧ 0 ≤ e.2.visibleQuantity

theorem Current.rest {i : Nat} {a : OrderCartAllocation} (h : Current ((i, a) :: entries) t)
    (f : OrderCartAllocation → OrderCartAllocation) : Current entries (t.update i f) := by
  obtain ⟨nodup, current⟩ := h
  obtain ⟨fresh, nodup⟩ := List.nodup_cons.mp nodup
  refine ⟨nodup, fun e he => ?_⟩
  obtain ⟨found, nonneg⟩ := current e (List.mem_cons_of_mem _ he)
  have other : e.1 ≠ i := fun same => fresh (List.mem_map.mpr ⟨e, he, same⟩)
  exact ⟨(Table.get?_update_of_ne _ _ other).trans found, nonneg⟩

/-- What the loop does to a sum that tells allocations of the entries by their
orders. -/
theorem visibleSum_detach {p : OrderCartAllocation → Bool} {P : Nat → Bool}
    (stable : ∀ a n, p (.lower n a) = p a) (current : Current entries t)
    (tells : ∀ e ∈ entries, p e.2 = P e.2.orderId) (nonneg : 0 ≤ excess) :
    visibleSum p (detach entries excess t) + (blocksOf entries).weight P =
      visibleSum p t + ((blocksOf entries).takeOff excess.toNat).weight P := by
  induction entries generalizing t excess with
  | nil => simp [detach, blocksOf, Blocks.takeOff, Blocks.weight]
  | cons e entries ih =>
      obtain ⟨i, a⟩ := e
      obtain ⟨found, positive⟩ := current.2 (i, a) List.mem_cons_self
      dsimp only at found positive
      have later := ih (current.rest (.lower (min excess a.visibleQuantity)))
        (fun e he => tells e (List.mem_cons_of_mem _ he))
        (show 0 ≤ excess - min excess a.visibleQuantity by omega)
      have rest : (excess - min excess a.visibleQuantity).toNat =
          excess.toNat - a.visibleQuantity.toNat := by omega
      have lowered : visibleSum p (t.update i (.lower (min excess a.visibleQuantity))) =
          visibleSum p t - if p a then min excess a.visibleQuantity else 0 := by
        unfold visibleSum
        rw [Table.sum_update found]
        simp only [stable]
        by_cases hp : p a = true <;> simp [hp, OrderCartAllocation.lower]
      have own : p a = P a.orderId := tells (i, a) List.mem_cons_self
      rw [rest, lowered] at later
      rw [detach_cons]
      by_cases hp : P a.orderId = true
      · simp only [own, hp, if_true, blocksOf, List.map_cons, Blocks.takeOff,
          Blocks.weight_cons] at later ⊢
        omega
      · simp only [own, hp, Bool.false_eq_true, if_false, blocksOf, List.map_cons, Blocks.takeOff,
          Blocks.weight_cons] at later ⊢
        omega

theorem detach_zero (nonneg : ∀ e ∈ entries, 0 ≤ e.2.visibleQuantity) :
    detach entries 0 t = t := by
  induction entries with
  | nil => rfl
  | cons e entries ih =>
      have none : min 0 e.2.visibleQuantity = 0 := min_eq_left (nonneg e List.mem_cons_self)
      rw [detach]
      simp only [none, ne_eq, not_true_eq_false, if_false, sub_zero]
      exact ih fun e he => nonneg e (List.mem_cons_of_mem _ he)

/-- A row that is not among the entries stays. -/
theorem get?_detach_of_notMem {j : Nat} (other : j ∉ entries.map Prod.fst) :
    (detach entries excess t).get? j = t.get? j := by
  induction entries generalizing t excess with
  | nil => rfl
  | cons e entries ih =>
      obtain ⟨i, a⟩ := e
      rw [List.map_cons, List.mem_cons, not_or] at other
      rw [detach_cons, ih other.2, Table.get?_update_of_ne _ _ other.1]

/-- An entry is left with what is left of its block. -/
theorem get?_detach (current : Current entries t) (nonneg : 0 ≤ excess) {i : Nat}
    {e : Nat × OrderCartAllocation} {block : Nat × Nat} (entry : entries[i]? = some e)
    (left : ((blocksOf entries).takeOff excess.toNat)[i]? = some block) :
    (detach entries excess t).get? e.1 = some { e.2 with visibleQuantity := block.2 } := by
  induction entries generalizing t excess i with
  | nil => simp at entry
  | cons head entries ih =>
      obtain ⟨j, a⟩ := head
      obtain ⟨found, positive⟩ := current.2 (j, a) List.mem_cons_self
      dsimp only at found positive
      rw [detach_cons]
      cases i with
      | zero =>
          obtain rfl := Option.some.inj entry
          obtain rfl := Option.some.inj left
          have rest : a.visibleQuantity - min excess a.visibleQuantity =
              ((a.visibleQuantity.toNat - excess.toNat : Nat) : Int) := by omega
          rw [get?_detach_of_notMem (List.nodup_cons.mp current.1).1, Table.get?_update_self, found,
            Option.map_some, OrderCartAllocation.lower, rest]
      | succ i =>
          refine ih (current.rest _) (by omega) entry ?_
          have taken : (excess - min excess a.visibleQuantity).toNat =
              excess.toNat - a.visibleQuantity.toNat := by omega
          rw [taken]
          exact left

/-- Each row keeps what it is about, and its visible quantity is at most lowered. -/
def Lowered (a a' : OrderCartAllocation) : Prop :=
  ∃ n, a' = a.lower n ∧ 0 ≤ n ∧ (0 ≤ a.visibleQuantity → n ≤ a.visibleQuantity)

theorem Lowered.refl (a : OrderCartAllocation) : Lowered a a :=
  ⟨0, by simp [OrderCartAllocation.lower], le_rfl, id⟩

theorem Lowered.trans {a b c : OrderCartAllocation} (h : Lowered a b) (h' : Lowered b c) :
    Lowered a c := by
  obtain ⟨m, rfl, hm, first⟩ := h
  obtain ⟨n, rfl, hn, second⟩ := h'
  refine ⟨m + n, ?_, by omega, fun nonneg => ?_⟩
  · simp [OrderCartAllocation.lower, sub_sub]
  · have left := first nonneg
    have rest : n ≤ a.visibleQuantity - m := second (by simp [OrderCartAllocation.lower, left])
    omega

theorem detach_lowered (current : Current entries t) (nonneg : 0 ≤ excess) :
    Table.Rows (fun _ => Lowered) t (detach entries excess t) := by
  induction entries generalizing t excess with
  | nil => exact Table.Rows.refl (fun _ => Lowered.refl) t
  | cons e entries ih =>
      obtain ⟨i, a⟩ := e
      obtain ⟨found, positive⟩ := current.2 (i, a) List.mem_cons_self
      dsimp only at found positive
      have first : Table.Rows (fun _ => Lowered) t
          (t.update i (.lower (min excess a.visibleQuantity))) := by
        refine Table.rows_update (fun b hb => ?_) fun _ b _ => Lowered.refl b
        obtain rfl := Option.some.inj (found.symm.trans hb)
        exact ⟨_, rfl, by omega, fun _ => by omega⟩
      rw [detach_cons]
      have rest := ih (current.rest (.lower (min excess a.visibleQuantity)))
        (show 0 ≤ excess - min excess a.visibleQuantity by omega)
      exact first.comp (fun _ _ _ _ h h' => h.trans h') rest

end Loop

/-! ### The allocations of a row -/

section Reducible

variable {db : Db} {k : Nat}

theorem mem_reducible {e : Nat × OrderCartAllocation} : e ∈ reducible k db ↔
    db.cartAllocations.get? e.1 = some e.2 ∧ db.attachedTo k e.2 = true := by
  rw [reducible, List.mem_insertionSort, Table.mem_select]

theorem current_reducible
    (nonneg : ∀ i a, db.cartAllocations.get? i = some a → 0 ≤ a.visibleQuantity) :
    Current (reducible k db) db.cartAllocations := by
  constructor
  · have keys : ((reducible k db).map Prod.fst).Perm
        ((db.cartAllocations.select fun _ a => db.attachedTo k a).map Prod.fst) :=
      (List.perm_insertionSort _ _).map _
    rw [keys.nodup_iff]
    exact db.cartAllocations.nodup.sublist (List.filter_sublist.map _)
  · intro e he
    obtain ⟨found, -⟩ := mem_reducible.mp he
    exact ⟨found, nonneg e.1 e.2 found⟩

theorem ProvenanceInv.current (h : ProvenanceInv db) :
    Current (reducible k db) db.cartAllocations :=
  current_reducible h.nonneg

theorem reducible_ordered : (blocksOf (reducible k db)).Ordered := by
  have total : Std.Total allocationOrder := ⟨fun a b => by unfold allocationOrder; omega⟩
  have trans : IsTrans _ allocationOrder := ⟨fun a b c => by unfold allocationOrder; omega⟩
  have sorted : (reducible k db).Pairwise allocationOrder := List.pairwise_insertionSort _ _
  refine List.pairwise_map.mpr (sorted.imp fun {a b} before => ?_)
  unfold allocationOrder at before
  dsimp only
  omega

theorem weight_blocksOf (P : Nat → Bool) {entries : List (Nat × OrderCartAllocation)}
    (nonneg : ∀ e ∈ entries, 0 ≤ e.2.visibleQuantity) :
    ((blocksOf entries).weight P : Int) =
      (entries.map fun e => if P e.2.orderId then e.2.visibleQuantity else 0).sum := by
  induction entries with
  | nil => rfl
  | cons e entries ih =>
      have positive := nonneg e List.mem_cons_self
      have rest := ih fun e he => nonneg e (List.mem_cons_of_mem _ he)
      simp only [blocksOf, List.map_cons, Blocks.weight_cons, List.sum_cons, Nat.cast_add] at rest ⊢
      rw [rest]
      by_cases hp : P e.2.orderId = true <;> simp [hp, positive]

/-- The blocks of a row weigh what its orders hold. -/
theorem ProvenanceInv.weight_reducible (h : ProvenanceInv db) (P : Nat → Bool) :
    ((blocksOf (reducible k db)).weight P : Int) =
      visibleSum (fun a => P a.orderId && decide (a.cartItemId = some k)) db.cartAllocations := by
  rw [weight_blocksOf P fun e he => (h.current.2 e he).2]
  have perm : ((reducible k db).map fun e => if P e.2.orderId then e.2.visibleQuantity else 0).Perm
      ((db.cartAllocations.select fun _ a => db.attachedTo k a).map fun e =>
        if P e.2.orderId then e.2.visibleQuantity else 0) :=
    (List.perm_insertionSort _ _).map _
  have selected := db.cartAllocations.sum_select (fun _ a => db.attachedTo k a)
    fun _ a => if P a.orderId then a.visibleQuantity else 0
  rw [perm.sum_eq]
  refine selected.trans ?_
  refine Table.sum_congr fun i a ha => ?_
  rcases (h.nonneg i a ha).lt_or_eq with positive | zero
  · obtain ⟨_, _, p, -, -, hp, attached, -⟩ := h.standing i a ha positive
    simp only [Db.attachedTo, Db.isAttached, hp, Option.any_some, attached, Bool.and_true]
    by_cases on : a.cartItemId = some k <;> simp [on]
  · simp [← zero]

/-! ### The reduction -/

theorem ProvenanceInv.held_reducible (h : ProvenanceInv db) :
    ((blocksOf (reducible k db)).total : Int) = heldOf k db := by
  have weighs := h.weight_reducible (k := k) fun _ => true
  simp only [Bool.true_and] at weighs
  exact weighs

theorem ProvenanceInv.share_reducible (h : ProvenanceInv db) (o : Nat) :
    ((blocksOf (reducible k db)).share o : Int) = visibleOf o k db := by
  have weighs := h.weight_reducible (k := k) fun o' => decide (o' = o)
  simp only [← Bool.decide_and] at weighs
  exact weighs

/-- What is left of the row's blocks under a target. -/
def reduced (k : Nat) (target : Int) (db : Db) : Blocks Nat :=
  (blocksOf (reducible k db)).takeOff ((blocksOf (reducible k db)).total - target.toNat)

theorem ProvenanceInv.reduceAllocations_eq (h : ProvenanceInv db) (target : Int) :
    reduceAllocations k target db = { db with
      cartAllocations := detach (reducible k db) (max 0 (heldOf k db - target))
        db.cartAllocations } := by
  have sum : ((reducible k db).map fun a => a.2.visibleQuantity).sum = heldOf k db := by
    rw [← h.held_reducible]
    have weighs := weight_blocksOf (fun _ => true) fun e he => (h.current (k := k).2 e he).2
    simp only [if_true] at weighs
    exact weighs.symm
  rw [← sum]
  rfl

/-- The reduction in a sum that tells the row's allocations by their orders. -/
theorem ProvenanceInv.visibleSum_reduce (h : ProvenanceInv db) {p : OrderCartAllocation → Bool}
    {P : Nat → Bool} (stable : ∀ a n, p (.lower n a) = p a)
    (tells : ∀ a : OrderCartAllocation, a.cartItemId = some k → p a = P a.orderId) {target : Int}
    (nonneg : 0 ≤ target) :
    visibleSum p (reduceAllocations k target db).cartAllocations +
        (blocksOf (reducible k db)).weight P =
      visibleSum p db.cartAllocations + (reduced k target db).weight P := by
  have on : ∀ e ∈ reducible k db, p e.2 = P e.2.orderId := by
    intro e he
    obtain ⟨-, attached⟩ := mem_reducible.mp he
    refine tells e.2 ?_
    simp only [Db.attachedTo, Bool.and_eq_true, decide_eq_true_eq] at attached
    exact attached.1
  have excess : (max 0 (heldOf k db - target)).toNat =
      (blocksOf (reducible k db)).total - target.toNat := by
    have held := h.held_reducible (k := k)
    omega
  rw [h.reduceAllocations_eq, reduced, ← excess]
  exact visibleSum_detach stable h.current on (le_max_left 0 _)

theorem ProvenanceInv.visibleOf_reduce (h : ProvenanceInv db) {target : Int} (nonneg : 0 ≤ target)
    (o : Nat) :
    visibleOf o k (reduceAllocations k target db) = (reduced k target db).share o := by
  have before := h.share_reducible (k := k) o
  have after := h.visibleSum_reduce (k := k)
    (p := fun a => decide (a.orderId = o ∧ a.cartItemId = some k)) (P := fun o' => decide (o' = o))
    (fun _ _ => rfl) (fun a on => by simp [on]) nonneg
  unfold visibleOf Blocks.share at *
  omega

/-- No more is held than the target. -/
theorem ProvenanceInv.heldOf_reduce (h : ProvenanceInv db) {target : Int} (nonneg : 0 ≤ target) :
    heldOf k (reduceAllocations k target db) = min (heldOf k db) target := by
  have before := h.held_reducible (k := k)
  have after := h.visibleSum_reduce (k := k) (p := fun a => decide (a.cartItemId = some k))
    (P := fun _ => true) (fun _ _ => rfl) (fun a on => by simp [on]) nonneg
  have left : (reduced k target db).total = _ := Blocks.total_takeOff ..
  unfold heldOf Blocks.total at *
  omega

/-- A sum over other rows stays. -/
theorem ProvenanceInv.visibleSum_reduce_other (h : ProvenanceInv db)
    {p : OrderCartAllocation → Bool} (stable : ∀ a n, p (.lower n a) = p a)
    (other : ∀ a : OrderCartAllocation, a.cartItemId = some k → p a = false) {target : Int}
    (nonneg : 0 ≤ target) :
    visibleSum p (reduceAllocations k target db).cartAllocations =
      visibleSum p db.cartAllocations := by
  have after := h.visibleSum_reduce (P := fun _ => false) stable other nonneg
  simpa [Blocks.weight] using after

theorem ProvenanceInv.reduce (h : ProvenanceInv db) {target : Int} (nonneg : 0 ≤ target) :
    ProvenanceInv (reduceAllocations k target db) := by
  have rows : Table.Rows (fun _ => Lowered) db.cartAllocations
      (reduceAllocations k target db).cartAllocations := by
    rw [h.reduceAllocations_eq]
    exact detach_lowered h.current (le_max_left 0 _)
  refine ⟨fun i a' ha' => ?_, fun i a' ha' positive => ?_, fun j row found => ?_⟩
  · obtain ⟨a, ha, n, rfl, lower, upper⟩ := rows.backward ha'
    obtain ⟨least, most⟩ := h.bounded i a ha
    have left := upper least
    simp only [OrderCartAllocation.lower]
    omega
  · obtain ⟨a, ha, n, rfl, lower, -⟩ := rows.backward ha'
    simp only [OrderCartAllocation.lower] at positive
    exact h.standing i a ha (by omega)
  · have covered := h.covered j row found
    by_cases same : j = k
    · subst same
      rw [h.heldOf_reduce nonneg]
      omega
    · have stays : heldOf j (reduceAllocations k target db) = heldOf j db := by
        refine h.visibleSum_reduce_other (fun _ _ => rfl) (fun a on => ?_) nonneg
        simp [on, Ne.symm same]
      rw [stays]
      exact covered

/-- The row's units, brought to the target, are what its orders hold after the
reduction. -/
theorem ProvenanceInv.resize_units (h : ProvenanceInv db) {units : Pool Nat}
    (counts : ∀ o, (units.owned o : Int) = visibleOf o k db) {target : Int} (nonneg : 0 ≤ target) :
    ((units.resize target.toNat).length : Int) = target ∧
      ∀ o, ((units.resize target.toNat).owned o : Int) =
        visibleOf o k (reduceAllocations k target db) := by
  have kept : units.KeptBy (blocksOf (reducible k db)) := by
    intro o
    have share := h.share_reducible (k := k) o
    have count := counts o
    omega
  obtain ⟨length, shares⟩ := kept.resize reducible_ordered target.toNat
  refine ⟨by omega, fun o => ?_⟩
  rw [h.visibleOf_reduce nonneg, shares o]
  rfl

end Reducible

/-! ### Oldest first -/

/-- `CHECK ("visibleQuantity" >= 0 AND "visibleQuantity" <= "quantity")`. -/
def Db.visibleQuantityCheck (db : Db) : Prop :=
  ∀ i a, db.cartAllocations.get? i = some a →
    0 ≤ a.visibleQuantity ∧ a.visibleQuantity ≤ a.quantity

/-- What the attached allocations of a cart row show. -/
def shownQuantities (k : Nat) (db : Db) : List Int :=
  (reducible k db).map fun e => e.2.visibleQuantity

/-- Units were detached from the oldest order on: what is `left` of each attached
allocation is written to it, everything before a position is gone and everything
after it is untouched. -/
structure OldestFirst (k : Nat) (target : Int) (db db' : Db) (left : List Int) (position : Nat) :
    Prop where
  length : left.length = (reducible k db).length
  rows : ∀ (i : Nat) e n, (reducible k db)[i]? = some e → left[i]? = some n →
    db'.cartAllocations.get? e.1 = some { e.2 with visibleQuantity := n }
  within : ∀ (i : Nat) old n, (shownQuantities k db)[i]? = some old → left[i]? = some n →
    0 ≤ n ∧ n ≤ old ∧ (i < position → n = 0) ∧ (position < i → n = old)
  sum : left.sum = min (shownQuantities k db).sum target
  others : ∀ j, j ∉ (reducible k db).map Prod.fst →
    db'.cartAllocations.get? j = db.cartAllocations.get? j
  frame : db' = { db with cartAllocations := db'.cartAllocations }

theorem sum_blocksOf {entries : List (Nat × OrderCartAllocation)}
    (nonneg : ∀ e ∈ entries, 0 ≤ e.2.visibleQuantity) :
    ((blocksOf entries).total : Int) = (entries.map fun e => e.2.visibleQuantity).sum := by
  have weighs := weight_blocksOf (fun _ => true) nonneg
  simp only [if_true] at weighs
  exact weighs

/-- A reduction detaches the oldest intent first, down to the target. -/
theorem reduceAllocations_oldestFirst {db : Db} (check : db.visibleQuantityCheck) (k : Nat)
    {target : Int} (nonneg : 0 ≤ target) :
    (∃ left position, OldestFirst k target db (reduceAllocations k target db) left position) ∧
      ((shownQuantities k db).sum ≤ target → reduceAllocations k target db = db) := by
  have current : Current (reducible k db) db.cartAllocations :=
    current_reducible fun i a found => (check i a found).1
  have sum : ((blocksOf (reducible k db)).total : Int) = (shownQuantities k db).sum :=
    sum_blocksOf fun e he => (current.2 e he).2
  set excess := max 0 ((shownQuantities k db).sum - target) with hexcess
  have reduce : reduceAllocations k target db =
      { db with cartAllocations := detach (reducible k db) excess db.cartAllocations } := rfl
  set blocks := (blocksOf (reducible k db)).takeOff excess.toNat with hblocks
  obtain ⟨position, cut⟩ := Blocks.takeOff_position (blocksOf (reducible k db)) excess.toNat
  have rows : ∀ (i : Nat) n, (blocks.map fun b => (b.2 : Int))[i]? = some n →
      ∃ b, blocks[i]? = some b ∧ n = b.2 := by
    intro i n hn
    rw [List.getElem?_map, Option.map_eq_some_iff] at hn
    obtain ⟨b, hb, rfl⟩ := hn
    exact ⟨b, hb, rfl⟩
  refine ⟨⟨blocks.map fun b => (b.2 : Int), position, ?_⟩, fun enough => ?_⟩
  · refine ⟨by simp [hblocks, blocksOf], fun i e n he hn => ?_, fun i old n hold hn => ?_, ?_,
      fun j other => get?_detach_of_notMem other, rfl⟩
    · obtain ⟨b, hb, rfl⟩ := rows i n hn
      exact get?_detach current (le_max_left 0 _) he hb
    · rw [shownQuantities, List.getElem?_map, Option.map_eq_some_iff] at hold
      obtain ⟨e, he, rfl⟩ := hold
      obtain ⟨b, hb, rfl⟩ := rows i n hn
      have block : (blocksOf (reducible k db))[i]? =
          some (e.2.orderId, e.2.visibleQuantity.toNat) := by
        rw [blocksOf, List.getElem?_map, he, Option.map_some]
      have positive := (current.2 e (List.mem_of_getElem? he)).2
      obtain ⟨le, earlier, later⟩ := cut i _ b block hb
      dsimp only at le
      refine ⟨by omega, by omega, fun before => by rw [earlier before]; rfl, fun after => ?_⟩
      rw [later after]
      exact Int.toNat_of_nonneg positive
    · have total := Blocks.total_takeOff (blocksOf (reducible k db)) excess.toNat
      have left : ((blocks.map fun b => (b.2 : Int)).sum) = (blocks.total : Int) := by
        have cast := map_list_sum (Nat.castAddMonoidHom Int) (blocks.map Prod.snd)
        rw [List.map_map] at cast
        rw [Blocks.total, Blocks.weight, List.filter_true]
        exact cast.symm
      rw [left, hblocks, total]
      omega
  · have none : excess = 0 := by omega
    rw [reduce, none, detach_zero fun e he => (current.2 e he).2]

/-- A row that three orders hold two, three and one unit of. -/
def sharedRow : Db :=
  let holds (orderId : Nat) (n : Int) : OrderCartAllocation := ⟨orderId, some 7, 1, n, n⟩
  { Db.empty with
    cartProvenance := ((Table.empty.insert ⟨1, .active, none, none⟩).insert
      ⟨1, .consumePending, none, none⟩).insert ⟨1, .releasePending, none, none⟩
    cartAllocations := ((Table.empty.insert (holds 2 3)).insert (holds 1 2)).insert (holds 3 1) }

/-- Brought down to three units, the oldest order shows none of them and the
second two. -/
theorem reduceAllocations_oldestFirst_sharedRow :
    (∃ left position, OldestFirst 7 3 sharedRow (reduceAllocations 7 3 sharedRow) left position) ∧
      shownQuantities 7 sharedRow = [2, 3, 1] ∧
      shownQuantities 7 (reduceAllocations 7 3 sharedRow) = [0, 2, 1] := by
  have check : sharedRow.visibleQuantityCheck := by
    have rows : ∀ e ∈ sharedRow.cartAllocations.entries,
        0 ≤ e.2.visibleQuantity ∧ e.2.visibleQuantity ≤ e.2.quantity := by decide
    exact fun i a found => rows (i, a) (Table.mem_entries.mpr found)
  exact ⟨(reduceAllocations_oldestFirst check 7 (by decide)).1, by decide, by decide⟩

end ColorfulLife
