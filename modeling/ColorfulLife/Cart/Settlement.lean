/-
Settlements never fail, and what they do.

A settlement works on tasks that were read before its first write. `Read` says
that what a task was read with still counts, and a settlement of another order
keeps it. Inside a task, `Consuming` is the invariant of the loop: each row
covers what the other orders hold of it and what the task has yet to take.
-/

import ColorfulLife.Cart.Holdings

namespace ColorfulLife

open Relational

/-! ### Taking units out of a row -/

/-- A row after `taken` units were taken out of it. -/
def CartItem.remaining (taken : Int) (row : CartItem) : Option CartItem :=
  if taken = 0 then some row
  else if row.quantity = taken then none
  else some { row with quantity := row.quantity - taken }

theorem CartItem.remaining_zero (row : CartItem) : row.remaining 0 = some row := if_pos rfl

theorem CartItem.remaining_add {row : CartItem} {m n : Int} (hm : 0 ≤ m) (hn : 0 ≤ n)
    (enough : m + n ≤ row.quantity) :
    (row.remaining m).bind (remaining n) = row.remaining (m + n) := by
  unfold remaining
  by_cases first : m = 0
  · simp [first]
  · have both : m + n ≠ 0 := by omega
    by_cases last : row.quantity = m
    · have none : n = 0 := by omega
      simp [first, last, none]
    · by_cases second : n = 0
      · simp [first, last, second]
      · by_cases all : row.quantity = m + n
        · have rest : row.quantity - m = n := by omega
          simp [first, second, both, all]
        · have rest : ¬ row.quantity - m = n := by omega
          simp [first, last, second, both, all, rest]
          omega

/-- What is left is in the same cart, for the same listing. -/
theorem CartItem.remaining_same {row row' : CartItem} {n : Int} (h : row.remaining n = some row') :
    row'.cartId = row.cartId ∧ row'.productListingId = row.productListingId ∧
      row'.quantity = row.quantity - n := by
  unfold remaining at h
  split at h
  · obtain rfl := Option.some.inj h
    exact ⟨rfl, rfl, by omega⟩
  · split at h
    · cases h
    · obtain rfl := Option.some.inj h
      exact ⟨rfl, rfl, rfl⟩

theorem CartItem.remaining_eq_none {row : CartItem} {n : Int} (h : row.remaining n = none) :
    row.quantity = n ∧ n ≠ 0 := by
  unfold remaining at h
  split at h
  · cases h
  · split at h
    · exact ⟨‹_›, ‹_›⟩
    · cases h

/-! ### Sums over a task -/

/-- What the allocations hold of a row. -/
def shareOf (k : Nat) (allocations : List OrderCartAllocation) : Int :=
  (allocations.map fun a => if a.cartItemId = some k then a.visibleQuantity else 0).sum

@[simp] theorem shareOf_nil (k : Nat) : shareOf k [] = 0 := rfl

@[simp] theorem shareOf_cons (k : Nat) (a : OrderCartAllocation) (rest : List OrderCartAllocation) :
    shareOf k (a :: rest) =
      (if a.cartItemId = some k then a.visibleQuantity else 0) + shareOf k rest := rfl

theorem shareOf_nonneg {k : Nat} {allocations : List OrderCartAllocation}
    (nonneg : ∀ a ∈ allocations, 0 ≤ a.visibleQuantity) : 0 ≤ shareOf k allocations := by
  refine List.sum_nonneg fun n hn => ?_
  obtain ⟨a, ha, rfl⟩ := List.mem_map.mp hn
  split
  · exact nonneg a ha
  · exact le_rfl

/-- What the other orders hold of a row. -/
def othersOf (o k : Nat) (db : Db) : Int :=
  visibleSum (fun a => decide (a.orderId ≠ o ∧ a.cartItemId = some k)) db.cartAllocations

theorem heldOf_split (o k : Nat) (db : Db) :
    visibleOf o k db + othersOf o k db = heldOf k db := by
  unfold visibleOf othersOf heldOf
  rw [visibleSum_add fun a => by simp; grind]
  congr
  funext a
  by_cases own : a.orderId = o <;> simp [own]

/-! ### The loop over a task's allocations -/

/-- The allocation holds something only of a row of the cart that is there. -/
def Takeable (cartId : Nat) (db : Db) (a : OrderCartAllocation) : Prop :=
  0 ≤ a.visibleQuantity ∧ (0 < a.visibleQuantity → ∃ k row, a.cartItemId = some k ∧
    db.cartItems.get? k = some row ∧ row.cartId = cartId ∧
    row.productListingId = a.productListingId)

structure Consuming (o cartId : Nat) (rest : List OrderCartAllocation) (db : Db) : Prop where
  bounded : ∀ i a, db.cartAllocations.get? i = some a →
    0 ≤ a.visibleQuantity ∧ a.visibleQuantity ≤ a.quantity
  others : ∀ i a, db.cartAllocations.get? i = some a → a.orderId ≠ o → 0 < a.visibleQuantity →
    Stands db a
  takeable : ∀ a ∈ rest, Takeable cartId db a
  covered : ∀ k row, db.cartItems.get? k = some row →
    othersOf o k db + shareOf k rest ≤ row.quantity

/-- `taken` says what went from each row; what other orders hold stayed. -/
structure Took (o : Nat) (taken : Nat → Int) (db db' : Db) : Prop where
  rows : ∀ k, db'.cartItems.get? k = (db.cartItems.get? k).bind (CartItem.remaining (taken k))
  holdings : ∀ o', o' ≠ o → ∀ k, visibleOf o' k db' = visibleOf o' k db
  provenance : db'.cartProvenance = db.cartProvenance

namespace Consuming

variable {o cartId : Nat} {a : OrderCartAllocation} {rest : List OrderCartAllocation} {db : Db}

theorem othersOf_nonneg (h : Consuming o cartId rest db) {k : Nat} : 0 ≤ othersOf o k db :=
  visibleSum_nonneg fun i a ha => (h.bounded i a ha).1

theorem share_nonneg (h : Consuming o cartId rest db) {k : Nat} : 0 ≤ shareOf k rest :=
  shareOf_nonneg fun a ha => (h.takeable a ha).1

/-- An allocation that takes nothing. -/
theorem skip (h : Consuming o cartId (a :: rest) db)
    (nothing : ∀ k, a.cartItemId = some k → a.visibleQuantity = 0) :
    Consuming o cartId rest db ∧ Took o (fun k => shareOf k [a]) db db := by
  have none : ∀ k, shareOf k [a] = 0 := by
    intro k
    by_cases on : a.cartItemId = some k
    · simp [nothing k on]
    · simp [on]
  refine ⟨⟨h.bounded, h.others, fun b hb => h.takeable b (List.mem_cons_of_mem _ hb),
    fun k row found => ?_⟩, fun k => ?_, fun _ _ _ => rfl, rfl⟩
  · have covered := h.covered k row found
    have zero := none k
    simp only [shareOf_cons, shareOf_nil] at covered zero
    omega
  · rw [none k]
    cases db.cartItems.get? k with
    | none => rfl
    | some row => exact (CartItem.remaining_zero row).symm

/-- An allocation that takes the whole row. -/
theorem takeAll (h : Consuming o cartId (a :: rest) db) {k : Nat} {row : CartItem}
    (on : a.cartItemId = some k) (found : db.cartItems.get? k = some row)
    (positive : 0 < a.visibleQuantity) (whole : row.quantity = a.visibleQuantity) :
    Consuming o cartId rest (deleteCartItem k db) ∧
      Took o (fun k => shareOf k [a]) db (deleteCartItem k db) := by
  have restTakeable : ∀ b ∈ rest, Takeable cartId db b :=
    fun b hb => h.takeable b (List.mem_cons_of_mem _ hb)
  have restShare : ∀ j, 0 ≤ shareOf j rest := fun j =>
    shareOf_nonneg fun b hb => (restTakeable b hb).1
  -- Nobody else holds anything of the row.
  have alone : othersOf o k db = 0 ∧ shareOf k rest = 0 := by
    have covered := h.covered k row found
    have others := h.othersOf_nonneg (k := k)
    have share := restShare k
    simp only [shareOf_cons, on, if_true] at covered
    omega
  have empty : ∀ i b, db.cartAllocations.get? i = some b → b.cartItemId = some k →
      b.orderId ≠ o → b.visibleQuantity = 0 := by
    intro i b hb onRow other
    have le := le_visibleSum (p := fun a => decide (a.orderId ≠ o ∧ a.cartItemId = some k))
      (fun i a ha => (h.bounded i a ha).1) hb (by simp [other, onRow])
    have least := (h.bounded i b hb).1
    have total : othersOf o k db = 0 := alone.1
    unfold othersOf at total
    omega
  have sums : ∀ p : OrderCartAllocation → Bool, (∀ b, b.orderId = o → p b = false) →
      visibleSum p (deleteCartItem k db).cartAllocations = visibleSum p db.cartAllocations := by
    intro p foreign
    refine visibleSum_detached fun i b hb onRow => ?_
    by_cases own : b.orderId = o
    · exact Or.inr ⟨foreign b own, foreign { b with cartItemId := none } own⟩
    · exact Or.inl (empty i b hb onRow own)
  have old : ∀ i b', (deleteCartItem k db).cartAllocations.get? i = some b' →
      ∃ b, db.cartAllocations.get? i = some b ∧
        b' = if b.cartItemId = some k then { b with cartItemId := none } else b := by
    intro i b' hb'
    rw [get?_deleteCartItem_allocations] at hb'
    obtain ⟨b, hb, rfl⟩ := Option.map_eq_some_iff.mp hb'
    exact ⟨b, hb, by simp⟩
  refine ⟨⟨fun i b' hb' => ?_, fun i b' hb' other holds => ?_, fun b hb => ?_,
    fun j row' found' => ?_⟩, fun j => ?_, fun o' other j => ?_, rfl⟩
  · obtain ⟨b, hb, rfl⟩ := old i b' hb'
    have bounds := h.bounded i b hb
    split <;> exact bounds
  · obtain ⟨b, hb, rfl⟩ := old i b' hb'
    split at other
    · rename_i onRow
      rw [if_pos onRow] at holds
      exact absurd (empty i b hb onRow other) (ne_of_gt holds)
    · rename_i elsewhere
      rw [if_neg elsewhere] at holds ⊢
      obtain ⟨j, row', p, onRow, found', same⟩ := h.others i b hb other holds
      refine ⟨j, row', p, onRow, ?_, same⟩
      have apart : j ≠ k := fun same => elsewhere (same ▸ onRow)
      rw [get?_deleteCartItem, if_neg apart, found']
  · obtain ⟨nonneg, takeable⟩ := restTakeable b hb
    refine ⟨nonneg, fun holds => ?_⟩
    obtain ⟨j, row', onRow, found', same⟩ := takeable holds
    refine ⟨j, row', onRow, ?_, same⟩
    have apart : j ≠ k := by
      rintro rfl
      have le : b.visibleQuantity ≤ shareOf j rest := by
        refine List.single_le_sum (fun n hn => ?_) _ (List.mem_map.mpr ⟨b, hb, if_pos onRow⟩)
        obtain ⟨c, hc, rfl⟩ := List.mem_map.mp hn
        have := (restTakeable c hc).1
        split <;> omega
      omega
    rw [get?_deleteCartItem, if_neg apart, found']
  · rw [get?_deleteCartItem] at found'
    split at found'
    · cases found'
    · have covered := h.covered j row' found'
      have stays : othersOf o j (deleteCartItem k db) = othersOf o j db :=
        sums _ fun b own => by simp [own]
      rw [stays]
      have apart : k ≠ j := fun same => ‹¬ j = k› same.symm
      simpa [on, apart] using covered
  · rw [get?_deleteCartItem]
    split
    · subst_vars
      have nonzero : a.visibleQuantity ≠ 0 := by omega
      simp [found, on, CartItem.remaining, nonzero, whole]
    · have apart : k ≠ j := fun same => ‹¬ j = k› same.symm
      simp [on, apart, CartItem.remaining_zero]
  · exact sums _ fun b own => by simp [own, Ne.symm other]

/-- An allocation that takes a part of the row. -/
theorem takePart (h : Consuming o cartId (a :: rest) db) {k : Nat} {row : CartItem}
    (on : a.cartItemId = some k) (found : db.cartItems.get? k = some row)
    (positive : 0 < a.visibleQuantity) (part : row.quantity ≠ a.visibleQuantity) :
    Consuming o cartId rest { db with
        cartItems := db.cartItems.update k fun r =>
          { r with quantity := r.quantity - a.visibleQuantity } } ∧
      Took o (fun k => shareOf k [a]) db { db with
        cartItems := db.cartItems.update k fun r =>
          { r with quantity := r.quantity - a.visibleQuantity } } := by
  have kept : RowsKept db.cartItems (db.cartItems.update k fun r =>
      { r with quantity := r.quantity - a.visibleQuantity }) := by
    intro j row' found'
    by_cases same : j = k
    · subst same
      exact ⟨_, (Table.get?_update_self ..).trans (congrArg _ found'), rfl, rfl⟩
    · exact ⟨row', (Table.get?_update_of_ne _ _ same).trans found', rfl, rfl⟩
  refine ⟨⟨h.bounded, fun i b hb other holds => ?_, fun b hb => ?_, fun j row' found' => ?_⟩,
    fun j => ?_, fun _ _ _ => rfl, rfl⟩
  · exact (h.others i b hb other holds).kept kept (AttachedKept.refl _)
  · obtain ⟨nonneg, takeable⟩ := h.takeable b (List.mem_cons_of_mem _ hb)
    refine ⟨nonneg, fun holds => ?_⟩
    obtain ⟨j, row', onRow, found', cart, listing⟩ := takeable holds
    obtain ⟨row'', found'', cart', listing'⟩ := kept j row' found'
    exact ⟨j, row'', onRow, found'', cart'.trans cart, listing'.trans listing⟩
  · have others : othersOf o j { db with cartItems := db.cartItems.update k fun r =>
      { r with quantity := r.quantity - a.visibleQuantity } } = othersOf o j db := rfl
    rcases Table.update_cases found found' with ⟨rfl, rfl⟩ | ⟨other, found'⟩
    · have covered := h.covered j row found
      simp only [shareOf_cons, on, if_true] at covered
      dsimp only
      omega
    · have covered := h.covered j row' found'
      have apart : k ≠ j := Ne.symm other
      simp only [shareOf_cons, on, Option.some.injEq, apart, if_false] at covered
      omega
  · rw [Table.get?_update]
    split
    · subst_vars
      have nonzero : a.visibleQuantity ≠ 0 := by omega
      simp [found, on, CartItem.remaining, nonzero, part]
    · have apart : k ≠ j := fun same => ‹¬ j = k› same.symm
      simp [on, apart, CartItem.remaining_zero]

/-- One allocation of a confirmed order is taken out of the cart. -/
theorem step (h : Consuming o cartId (a :: rest) db) :
    ∃ db', consumeAllocation cartId a db = .ok db' ∧ Consuming o cartId rest db' ∧
      Took o (fun k => shareOf k [a]) db db' := by
  obtain ⟨nonneg, takeable⟩ := h.takeable a List.mem_cons_self
  unfold consumeAllocation
  cases on : a.cartItemId with
  | none => exact ⟨db, rfl, h.skip fun k on' => by rw [on] at on'; cases on'⟩
  | some k =>
      dsimp only
      by_cases zero : a.visibleQuantity = 0
      · rw [if_pos zero]
        exact ⟨db, rfl, h.skip fun _ _ => zero⟩
      · have positive : 0 < a.visibleQuantity := by omega
        obtain ⟨k', row, on', found, cart, listing⟩ := takeable positive
        obtain rfl := Option.some.inj (on.symm.trans on')
        have enough : ¬ row.quantity < a.visibleQuantity := by
          have covered := h.covered k row found
          have others := h.othersOf_nonneg (k := k)
          have share := h.share_nonneg (k := k)
          have rest : 0 ≤ shareOf k rest :=
            shareOf_nonneg fun b hb => (h.takeable b (List.mem_cons_of_mem _ hb)).1
          simp only [shareOf_cons, on, if_true] at covered
          omega
        have read : ((db.cartItems.get? k).filter fun row =>
            decide (row.cartId = cartId ∧ row.productListingId = a.productListingId)) =
              some row := by
          rw [Option.filter_eq_some_iff]
          simp [found, cart, listing]
        simp only [if_neg zero, bind_eq_ok, orThrow_eq_ok, ensure_eq_ok, pure_eq_ok]
        by_cases whole : row.quantity = a.visibleQuantity
        · exact ⟨deleteCartItem k db, ⟨row, read, ⟨⟩, enough, if_pos whole⟩,
            h.takeAll on found positive whole⟩
        · exact ⟨_, ⟨row, read, ⟨⟩, enough, if_neg whole⟩, h.takePart on found positive whole⟩

/-- The whole loop. -/
theorem loop (h : Consuming o cartId rest db) :
    ∃ db', rest.foldlM (fun db a => consumeAllocation cartId a db) db = .ok db' ∧
      Consuming o cartId [] db' ∧ Took o (fun k => shareOf k rest) db db' := by
  induction rest generalizing db with
  | nil =>
      refine ⟨db, rfl, h, fun k => ?_, fun _ _ _ => rfl, rfl⟩
      cases db.cartItems.get? k with
      | none => rfl
      | some row => exact (CartItem.remaining_zero row).symm
  | cons a rest ih =>
      obtain ⟨db₁, hstep, h₁, first⟩ := h.step
      obtain ⟨db', hloop, h', second⟩ := ih h₁
      refine ⟨db', ?_, h', fun k => ?_, fun o' other k => ?_, ?_⟩
      · rw [List.foldlM_cons, hstep]
        exact hloop
      · rw [second.rows, first.rows]
        cases found : db.cartItems.get? k with
        | none => rfl
        | some row =>
            have own : 0 ≤ shareOf k [a] :=
              shareOf_nonneg fun b hb =>
                (List.mem_singleton.mp hb) ▸ (h.takeable a List.mem_cons_self).1
            have covered := h.covered k row found
            have others := h.othersOf_nonneg (k := k)
            simp only [shareOf_cons] at covered
            have enough : shareOf k [a] + shareOf k rest ≤ row.quantity := by
              simp only [shareOf_cons, shareOf_nil]
              omega
            have both := CartItem.remaining_add own h₁.share_nonneg enough
            simpa using both
      · exact (second.holdings o' other k).trans (first.holdings o' other k)
      · exact second.provenance.trans first.provenance

end Consuming

/-! ### One task -/

/-- What the task was read with still counts. -/
structure Read (task : CartTask) (db : Db) : Prop where
  provenance : db.cartProvenance.get? task.orderId = some task.provenance
  pending : task.provenance.state.isPending = true
  shares : ∀ k, shareOf k task.allocations = visibleOf task.orderId k db
  takeable : ∀ a ∈ task.allocations, Takeable task.provenance.cartId db a

/-- What a task takes from a row: a confirmed order's units go, a released
order's stay. -/
def CartTask.takes (task : CartTask) (db : Db) (k : Nat) : Int :=
  if task.provenance.state = .consumePending then visibleOf task.orderId k db else 0

def CartReconciliationState.isDone : CartReconciliationState → Bool
  | .consumed | .released => true
  | _ => false

/-- A task was settled. -/
structure Settled (task : CartTask) (db db' : Db) : Prop where
  read : db.cartProvenance.get? task.orderId = some task.provenance
  pending : task.provenance.state.isPending = true
  rows : ∀ k, db'.cartItems.get? k =
    (db.cartItems.get? k).bind (CartItem.remaining (task.takes db k))
  holdings : ∀ o k, visibleOf o k db' = if o = task.orderId then 0 else visibleOf o k db
  provenance : ∃ f : OrderCartProvenance → OrderCartProvenance,
    db'.cartProvenance = db.cartProvenance.update task.orderId f ∧
      ∀ p, (f p).cartId = p.cartId ∧ (f p).state.isDone = true
  frame : CartFrame db db'
  inv : ProvenanceInv db'

theorem ProvenanceInv.consuming {db : Db} {o cartId : Nat} {rest : List OrderCartAllocation}
    (h : ProvenanceInv db) (shares : ∀ k, shareOf k rest ≤ visibleOf o k db)
    (takeable : ∀ a ∈ rest, Takeable cartId db a) : Consuming o cartId rest db where
  bounded := h.bounded
  others := fun i a ha _ => h.standing i a ha
  takeable := takeable
  covered := fun k row found => by
    have covered := h.covered k row found
    have split := heldOf_split o k db
    have share := shares k
    omega

/-- The task's own loop, if it has one. -/
theorem Read.consume {task : CartTask} {db : Db} (read : Read task db) (h : ProvenanceInv db) :
    ∃ db', consumeTask db task = .ok db' ∧
      Consuming task.orderId task.provenance.cartId [] db' ∧
      Took task.orderId (task.takes db) db db' := by
  unfold consumeTask CartTask.takes
  by_cases consumes : task.provenance.state = .consumePending
  · simp only [if_pos consumes]
    have before : Consuming task.orderId task.provenance.cartId task.allocations db :=
      h.consuming (fun k => le_of_eq (read.shares k)) read.takeable
    obtain ⟨db', hloop, after, took⟩ := before.loop
    simp only [read.shares] at took
    exact ⟨db', hloop, after, took⟩
  · simp only [if_neg consumes]
    have before : Consuming task.orderId task.provenance.cartId [] db :=
      h.consuming (fun k => h.visibleOf_nonneg) fun a ha => by cases ha
    obtain ⟨db', hloop, after, took⟩ := before.loop
    obtain rfl := Except.ok.inj hloop
    exact ⟨_, rfl, before, took⟩

/-- The writes after the loop. -/
def closeTask (now : Time) (task : CartTask) (db : Db) : Db :=
  { db with
    cartAllocations := db.cartAllocations.updateMany
      (fun _ a => decide (a.orderId = task.orderId)) fun a => { a with visibleQuantity := 0 }
    cartProvenance := db.cartProvenance.update task.orderId fun p =>
      { p with
        state := if task.provenance.state = .consumePending then .consumed else .released
        completedAt := some now
        lastError := none } }

theorem visibleSum_close {now : Time} {task : CartTask} {db : Db}
    {p : OrderCartAllocation → Bool} :
    visibleSum p (closeTask now task db).cartAllocations = visibleSum
      (fun a => decide (a.orderId ≠ task.orderId) && p a) db.cartAllocations := by
  unfold visibleSum closeTask Table.updateMany
  rw [Table.sum_modify]
  refine Table.sum_congr fun i a _ => ?_
  by_cases own : a.orderId = task.orderId <;> simp [own]

theorem visibleOf_close {now : Time} {task : CartTask} {db : Db} (o k : Nat) :
    visibleOf o k (closeTask now task db) = if o = task.orderId then 0 else visibleOf o k db := by
  unfold visibleOf
  rw [visibleSum_close]
  split
  · subst_vars
    refine visibleSum_eq_zero fun i a _ own => ?_
    simp only [Bool.and_eq_true, decide_eq_true_eq] at own
    exact absurd own.2.1 own.1
  · rename_i other
    congr
    funext a
    by_cases own : a.orderId = o <;> simp [own, other]

/-- The order's own allocations are empty now, so that the others' cover is enough. -/
theorem Consuming.close {now : Time} {task : CartTask} {cartId : Nat} {db : Db}
    (h : Consuming task.orderId cartId [] db) : ProvenanceInv (closeTask now task db) := by
  have old : ∀ i a', (closeTask now task db).cartAllocations.get? i = some a' →
      ∃ a, db.cartAllocations.get? i = some a ∧
        a' = if a.orderId = task.orderId then { a with visibleQuantity := 0 } else a := by
    intro i a' ha'
    rw [closeTask, Table.get?_updateMany] at ha'
    obtain ⟨a, ha, rfl⟩ := Option.map_eq_some_iff.mp ha'
    exact ⟨a, ha, by simp⟩
  refine ⟨fun i a' ha' => ?_, fun i a' ha' positive => ?_, fun k row found => ?_⟩
  · obtain ⟨a, ha, rfl⟩ := old i a' ha'
    obtain ⟨least, most⟩ := h.bounded i a ha
    split
    · exact ⟨le_rfl, le_trans least most⟩
    · exact ⟨least, most⟩
  · obtain ⟨a, ha, rfl⟩ := old i a' ha'
    split at positive
    · exact absurd positive (lt_irrefl 0)
    · rename_i other
      obtain ⟨k, row, p, on, found, hp, rest⟩ := h.others i a ha other positive
      rw [if_neg other]
      exact ⟨k, row, p, on, found, (Table.get?_update_of_ne _ _ other).trans hp, rest⟩
  · have covered := h.covered k row found
    have others : heldOf k (closeTask now task db) = othersOf task.orderId k db := by
      unfold heldOf othersOf
      rw [visibleSum_close]
      congr
      funext a
      simp
    simp only [shareOf_nil] at covered
    omega

/-- A task that was read can be settled. -/
theorem Read.settle {task : CartTask} {db : Db} (read : Read task db) (h : ProvenanceInv db)
    (now : Time) : ∃ db', settleTask now db task = .ok db' ∧ Settled task db db' := by
  obtain ⟨db₁, hconsume, consumed, took⟩ := read.consume h
  have hsettle : settleTask now db task = .ok (closeTask now task db₁) := by
    unfold settleTask
    rw [hconsume]
    rfl
  refine ⟨_, hsettle, read.provenance, read.pending, took.rows, fun o k => ?_, ⟨fun p =>
      { p with
        state := if task.provenance.state = .consumePending then .consumed else .released
        completedAt := some now
        lastError := none }, ?_, fun p => ⟨rfl, ?_⟩⟩, settleTask_frame hsettle, consumed.close⟩
  · rw [visibleOf_close]
    split
    · rfl
    · exact took.holdings o ‹_› k
  · rw [← took.provenance]
    rfl
  · dsimp only
    split <;> rfl

/-- What another task was read with still counts after a settlement. -/
theorem Read.kept {task other : CartTask} {db db' : Db} (read : Read other db)
    (h : ProvenanceInv db) (settled : Settled task db db') (apart : other.orderId ≠ task.orderId) :
    Read other db' := by
  obtain ⟨f, provenance, -⟩ := settled.provenance
  refine ⟨?_, read.pending, fun k => ?_, fun a ha => ?_⟩
  · rw [provenance, Table.get?_update_of_ne _ _ apart, read.provenance]
  · rw [settled.holdings, if_neg apart, read.shares]
  · obtain ⟨nonneg, takeable⟩ := read.takeable a ha
    refine ⟨nonneg, fun holds => ?_⟩
    obtain ⟨k, row, on, found, cart, listing⟩ := takeable holds
    have left := settled.rows k
    rw [found, Option.bind_some] at left
    cases rest : row.remaining (task.takes db k) with
    | some row' =>
        obtain ⟨cart', listing', -⟩ := CartItem.remaining_same rest
        exact ⟨k, row', on, left.trans rest, cart'.trans cart, listing'.trans listing⟩
    | none =>
        -- A row that goes was the settled order's alone.
        obtain ⟨whole, -⟩ := CartItem.remaining_eq_none rest
        have covered := h.covered k row found
        have both := h.two_le_held (k := k) apart
        have taken : task.takes db k ≤ visibleOf task.orderId k db := by
          unfold CartTask.takes
          split
          · exact le_rfl
          · exact h.visibleOf_nonneg
        have le : a.visibleQuantity ≤ shareOf k other.allocations := by
          refine List.single_le_sum (fun n hn => ?_) _ (List.mem_map.mpr ⟨a, ha, if_pos on⟩)
          obtain ⟨b, hb, rfl⟩ := List.mem_map.mp hn
          have := (read.takeable b hb).1
          split <;> omega
        have share := read.shares k
        omega

/-! ### The settlement -/

/-- The tasks were settled in turn. -/
inductive SettledBy : List CartTask → Db → Db → Prop where
  | nil (db : Db) : SettledBy [] db db
  | cons {task : CartTask} {tasks : List CartTask} {db db₁ db' : Db} :
      Settled task db db₁ → SettledBy tasks db₁ db' → SettledBy (task :: tasks) db db'

theorem ProvenanceInv.settleTasks {now : Time} {tasks : List CartTask} {db : Db}
    (h : ProvenanceInv db) (apart : tasks.Pairwise fun a b => b.orderId ≠ a.orderId)
    (read : ∀ task ∈ tasks, Read task db) :
    ∃ db', tasks.foldlM (settleTask now) db = .ok db' ∧ SettledBy tasks db db' := by
  induction tasks generalizing db with
  | nil => exact ⟨db, rfl, .nil db⟩
  | cons task tasks ih =>
      obtain ⟨first, apart⟩ := List.pairwise_cons.mp apart
      obtain ⟨db₁, hsettle, settled⟩ := (read task List.mem_cons_self).settle h now
      have read₁ : ∀ other ∈ tasks, Read other db₁ := fun other ho =>
        (read other (List.mem_cons_of_mem _ ho)).kept h settled (first other ho)
      obtain ⟨db', hrest, rest⟩ := ih settled.inv apart read₁
      refine ⟨db', ?_, .cons settled rest⟩
      rw [List.foldlM_cons, hsettle]
      exact hrest

/-- The allocations of an order, as a task reads them. -/
theorem shareOf_select (o k : Nat) (db : Db) :
    shareOf k ((db.cartAllocations.select fun _ a => decide (a.orderId = o)).map Prod.snd) =
      visibleOf o k db := by
  have selected := db.cartAllocations.sum_select (fun _ a => decide (a.orderId = o))
    fun _ a => if a.cartItemId = some k then a.visibleQuantity else 0
  unfold shareOf
  rw [List.map_map]
  refine selected.trans ?_
  unfold visibleOf visibleSum
  refine Table.sum_congr fun i a _ => ?_
  by_cases own : a.orderId = o <;> simp [own]

/-- The tasks of a customer are read as they are. -/
theorem ProvenanceInv.read_pending {db : Db} (h : ProvenanceInv db) (userId : Nat) :
    ((pendingCartTasks userId db).Pairwise fun a b => b.orderId ≠ a.orderId) ∧
      ∀ task ∈ pendingCartTasks userId db, Read task db := by
  constructor
  · have nodup : (((db.cartProvenance.select fun _ p => p.state.isPending &&
        (db.carts.get? p.cartId).any fun cart => decide (cart.userId = userId)).insertionSort
          fun a b => a.1 ≤ b.1).map Prod.fst).Nodup := by
      rw [((List.perm_insertionSort _ _).map Prod.fst).nodup_iff]
      exact db.cartProvenance.nodup.sublist (List.filter_sublist.map _)
    exact List.pairwise_map.mpr ((List.pairwise_map.mp nodup).imp Ne.symm)
  · intro task ht
    obtain ⟨⟨o, p⟩, hp, rfl⟩ := List.mem_map.mp ht
    obtain ⟨found, pending⟩ := Table.mem_select.mp ((List.mem_insertionSort _).mp hp)
    simp only [Bool.and_eq_true] at pending
    refine ⟨found, pending.1, fun k => shareOf_select o k db, fun a ha => ?_⟩
    obtain ⟨⟨i, a⟩, hmem, rfl⟩ := List.mem_map.mp ha
    obtain ⟨ha, own⟩ := Table.mem_select.mp hmem
    refine ⟨h.nonneg i a ha, fun holds => ?_⟩
    obtain ⟨k, row, p', on, row_found, hp', -, cart, listing⟩ := h.standing i a ha holds
    rw [of_decide_eq_true own, found] at hp'
    obtain rfl := Option.some.inj hp'
    exact ⟨k, row, on, row_found, cart, listing⟩

/-- A settlement never fails. -/
theorem ProvenanceInv.settle {db : Db} (h : ProvenanceInv db) (userId : Nat) (now : Time) :
    ∃ db', settleCartReconciliation userId now db = .ok db' ∧
      SettledBy (pendingCartTasks userId db) db db' :=
  h.settleTasks (h.read_pending userId).1 (h.read_pending userId).2

end ColorfulLife
