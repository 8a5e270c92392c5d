/-
Every action keeps `Represents`.

The relation is kept listing by listing: `CountsAt` says that a pool counts one
customer's row for one listing, or is empty when there is no row. An action
changes one pool, the pools of one customer, or the units of one order in all of
them.
-/

import ColorfulLife.Cart.Refinement

namespace ColorfulLife

open Relational Labelled

/-! ### The relation -/

/-- The pool counts the row of the listing, if there is one. -/
structure CountsAt (db : Db) (u l : Nat) (pool : Pool Nat) : Prop where
  saved : ∀ k row, Saved db u l k row →
    (pool.length : Int) = row.quantity ∧ ∀ o, (pool.owned o : Int) = visibleOf o k db
  unsaved : (∀ k row, ¬ Saved db u l k row) → pool = []

/-- How an order with this provenance has ended. -/
def CartReconciliationState.Fated : CartReconciliationState → Fate → Prop
  | .active, fate => fate = .undecided
  | .consumePending, fate => fate = .confirmed
  | .releasePending, fate => fate = .released
  | .consumed, _ => True
  | .released, _ => True

structure Represents (db : Db) (s : UnitCart) : Prop where
  inv : ProvenanceInv db
  shape : CartShape db
  counts : ∀ u l, CountsAt db u l (s.units u l)
  fates : ∀ o p, db.cartProvenance.get? o = some p → p.state.Fated (s.fate o)
  orders : ∀ o p, db.cartProvenance.get? o = some p →
    ∃ order, db.orders.get? o = some order ∧ (p.state = .active → order.status = .pending)

section Counts

variable {db db' : Db} {u l : Nat} {pool : Pool Nat}

/-- Nothing differs for this listing. -/
theorem CountsAt.same (h : CountsAt db u l pool)
    (rows : ∀ k row, Saved db' u l k row ↔ Saved db u l k row)
    (holdings : ∀ k row, Saved db u l k row → ∀ o, visibleOf o k db' = visibleOf o k db) :
    CountsAt db' u l pool := by
  constructor
  · intro k row saved
    have before := (rows k row).mp saved
    obtain ⟨length, owned⟩ := h.saved k row before
    exact ⟨length, fun o => (owned o).trans (holdings k row before o).symm⟩
  · intro none
    exact h.unsaved fun k row saved => none k row ((rows k row).mpr saved)

/-- A row with these counts. -/
theorem CountsAt.of_saved (shape : CartShape db) {k : Nat} {row : CartItem}
    (saved : Saved db u l k row) (length : (pool.length : Int) = row.quantity)
    (owned : ∀ o, (pool.owned o : Int) = visibleOf o k db) : CountsAt db u l pool := by
  constructor
  · intro j row' saved'
    obtain ⟨rfl, rfl⟩ := saved.unique shape saved'
    exact ⟨length, owned⟩
  · intro none
    exact absurd saved (none k row)

theorem CountsAt.empty (none : ∀ k row, ¬ Saved db u l k row) : CountsAt db u l [] :=
  ⟨fun k row saved => absurd saved (none k row), fun _ => rfl⟩

/-- Either a row is saved, or the pool is empty. -/
theorem CountsAt.cases (h : CountsAt db u l pool) :
    (∃ k row, Saved db u l k row) ∨ (∀ k row, ¬ Saved db u l k row) ∧ pool = [] := by
  by_cases any : ∃ k row, Saved db u l k row
  · exact Or.inl any
  · have none : ∀ k row, ¬ Saved db u l k row := fun k row saved => any ⟨k, row, saved⟩
    exact Or.inr ⟨none, h.unsaved none⟩

/-- What the ledger calls left over is free. -/
theorem CountsAt.free (h : CountsAt db u l pool) (inv : ProvenanceInv db) {k : Nat}
    {row : CartItem} (saved : Saved db u l k row) :
    (pool.free : Int) = row.quantity - heldOf k db := by
  obtain ⟨length, owned⟩ := h.saved k row saved
  have kept : pool.KeptBy (blocksOf (reducible k db)) := by
    intro o
    have share := inv.share_reducible (k := k) o
    have count := owned o
    omega
  have total := inv.held_reducible (k := k)
  have split := kept.length
  omega

end Counts

/-! ### Keeping the shape -/

section Shape

variable {db db' : Db}

/-- Rows that are left are where they were. -/
def RowsOf (db db' : Db) : Prop :=
  ∀ k row', db'.cartItems.get? k = some row' → ∃ row, db.cartItems.get? k = some row ∧
    row.cartId = row'.cartId ∧ row.productListingId = row'.productListingId

theorem CartShape.of_rows (h : CartShape db) (carts : db'.carts = db.carts)
    (rows : RowsOf db db') : CartShape db' where
  carts := carts ▸ h.carts
  rows := by
    intro j k row row' hj hk cart listing
    obtain ⟨before, found, cart₁, listing₁⟩ := rows j row hj
    obtain ⟨before', found', cart₂, listing₂⟩ := rows k row' hk
    exact h.rows j k before before' found found' (cart₁.trans (cart.trans cart₂.symm))
      (listing₁.trans (listing.trans listing₂.symm))
  placed := by
    intro k row hk
    obtain ⟨before, found, cart, -⟩ := rows k row hk
    rw [carts, ← cart]
    exact h.placed k before found

theorem CartShape.insertRow (h : CartShape db) {row : CartItem}
    (placed : ∃ cart, db.carts.get? row.cartId = some cart)
    (new : findCartItem row.cartId row.productListingId db = none) :
    CartShape { db with cartItems := db.cartItems.insert row } := by
  have fresh := findCartItem_eq_none new
  refine ⟨h.carts, fun j k a b hj hk cart listing => ?_, fun k a hk => ?_⟩
  · dsimp only at hj hk
    rw [Table.get?_insert] at hj hk
    split at hj
    · obtain rfl := Option.some.inj hj
      split at hk
      · simp [*]
      · exact absurd listing.symm (fresh k b hk cart.symm)
    · split at hk
      · obtain rfl := Option.some.inj hk
        exact absurd listing (fresh j a hj cart)
      · exact h.rows j k a b hj hk cart listing
  · dsimp only at hk
    rcases Table.insert_cases hk with ⟨-, rfl⟩ | hk
    · exact placed
    · exact h.placed k a hk

end Shape

/-! ### Settlements -/

section Settlements

variable {db db' : Db} {s : UnitCart}

/-- What an ended order's settlement does to a pool. -/
def settlePool (fate : Fate) (orderId : Nat) (pool : Pool Nat) : Pool Nat :=
  match fate with
  | .undecided => pool
  | .confirmed => pool.consume orderId
  | .released => pool.release orderId

theorem units_settle (s : UnitCart) (o u l : Nat) :
    (unitStep s (.settle o)).units u l = settlePool (s.fate o) o (s.units u l) := by
  unfold unitStep settlePool
  cases h : s.fate o <;> simp [h]

theorem fate_settle (s : UnitCart) (o : Nat) : (unitStep s (.settle o)).fate = s.fate := by
  unfold unitStep
  cases h : s.fate o <;> simp [h]

theorem Settled.fate {task : CartTask} (settled : Settled task db db') (h : Represents db s) :
    s.fate task.orderId =
      if task.provenance.state = .consumePending then .confirmed else .released := by
  have pending := settled.pending
  have fated := h.fates task.orderId task.provenance settled.read
  cases state : task.provenance.state <;>
    simp_all [CartReconciliationState.isPending, CartReconciliationState.Fated]

theorem Settled.rowsOf {task : CartTask} (settled : Settled task db db') : RowsOf db db' := by
  intro k row' found'
  rw [settled.rows, Option.bind_eq_some_iff] at found'
  obtain ⟨row, found, rest⟩ := found'
  obtain ⟨cart, listing, -⟩ := CartItem.remaining_same rest
  exact ⟨row, found, cart.symm, listing.symm⟩

theorem Settled.countsAt {task : CartTask} (settled : Settled task db db') (h : Represents db s)
    (u l : Nat) : CountsAt db' u l (settlePool (s.fate task.orderId) task.orderId (s.units u l)) := by
  have carts : db'.carts = db.carts := by rw [settled.frame]
  have shape : CartShape db' := h.shape.of_rows carts settled.rowsOf
  have back : ∀ k row', Saved db' u l k row' → ∃ row, Saved db u l k row ∧
      row.remaining (task.takes db k) = some row' := by
    rintro k row' ⟨found', rfl, cart, placed, owner⟩
    rw [settled.rows, Option.bind_eq_some_iff] at found'
    obtain ⟨row, found, rest⟩ := found'
    obtain ⟨same, listing, -⟩ := CartItem.remaining_same rest
    exact ⟨row, ⟨found, listing.symm, cart, carts ▸ same ▸ placed, owner⟩, rest⟩
  rcases (h.counts u l).cases with ⟨k, row, saved⟩ | ⟨none, empty⟩
  · obtain ⟨length, owned⟩ := (h.counts u l).saved k row saved
    -- The pool after the settlement, counted.
    have left : ((settlePool (s.fate task.orderId) task.orderId (s.units u l)).length : Int) =
          row.quantity - task.takes db k ∧
        ∀ o, ((settlePool (s.fate task.orderId) task.orderId (s.units u l)).owned o : Int) =
          visibleOf o k db' := by
      have own := owned task.orderId
      rw [settled.fate h]
      unfold CartTask.takes
      split
      · have gone := Pool.length_consume (s.units u l) task.orderId
        refine ⟨?_, fun o => ?_⟩
        · dsimp only [settlePool]
          omega
        · rw [settled.holdings]
          split
          · subst o
            simp [settlePool]
          · simpa [settlePool, Pool.owned_consume_of_ne _ ‹¬ o = task.orderId›] using owned o
      · refine ⟨?_, fun o => ?_⟩
        · simpa [settlePool] using length
        · rw [settled.holdings]
          split
          · subst o
            simp [settlePool]
          · simpa [settlePool, Pool.owned_release_of_ne _ ‹¬ o = task.orderId›] using owned o
    cases rest : row.remaining (task.takes db k) with
    | some row' =>
        obtain ⟨same, listing, quantity⟩ := CartItem.remaining_same rest
        obtain ⟨found, rfl, cart, placed, owner⟩ := saved
        have found' : db'.cartItems.get? k = some row' := by
          rw [settled.rows, found, Option.bind_some, rest]
        refine CountsAt.of_saved shape ⟨found', listing, cart, ?_, owner⟩
          (left.1.trans quantity.symm) left.2
        rw [carts, same]
        exact placed
    | none =>
        -- The order had the whole row.
        obtain ⟨whole, -⟩ := CartItem.remaining_eq_none rest
        have zero : (settlePool (s.fate task.orderId) task.orderId (s.units u l)).length = 0 := by
          omega
        rw [List.eq_nil_of_length_eq_zero zero]
        refine CountsAt.empty fun j row' saved' => ?_
        obtain ⟨before, saved'', rest'⟩ := back j row' saved'
        obtain ⟨rfl, rfl⟩ := saved.unique h.shape saved''
        rw [rest] at rest'
        cases rest'
  · have still : settlePool (s.fate task.orderId) task.orderId (s.units u l) = [] := by
      rw [empty]
      cases s.fate task.orderId <;> rfl
    rw [still]
    refine CountsAt.empty fun k row' saved' => ?_
    obtain ⟨row, saved, -⟩ := back k row' saved'
    exact none k row saved

theorem Represents.settled {task : CartTask} (h : Represents db s) (settled : Settled task db db') :
    Represents db' (unitStep s (.settle task.orderId)) := by
  have carts : db'.carts = db.carts := by rw [settled.frame]
  have orders : db'.orders = db.orders := by rw [settled.frame]
  obtain ⟨f, provenance, done⟩ := settled.provenance
  refine ⟨settled.inv, h.shape.of_rows carts settled.rowsOf, fun u l => ?_, fun o p hp => ?_,
    fun o p hp => ?_⟩
  · rw [units_settle]
    exact settled.countsAt h u l
  · rw [fate_settle]
    rw [provenance, Table.get?_update] at hp
    split at hp
    · obtain ⟨p', -, rfl⟩ := Option.map_eq_some_iff.mp hp
      have finished := (done p').2
      cases state : (f p').state <;>
        simp_all [CartReconciliationState.isDone, CartReconciliationState.Fated]
    · exact h.fates o p hp
  · rw [orders]
    rw [provenance, Table.get?_update] at hp
    split at hp
    · obtain ⟨p', hp', rfl⟩ := Option.map_eq_some_iff.mp hp
      obtain ⟨order, found, -⟩ := h.orders o p' hp'
      refine ⟨order, found, fun active => ?_⟩
      have finished := (done p').2
      simp [active, CartReconciliationState.isDone] at finished
    · exact h.orders o p hp

theorem Represents.settledBy {tasks : List CartTask} (h : Represents db s)
    (settled : SettledBy tasks db db') :
    Represents db' (run unitStep s (tasks.map fun task => .settle task.orderId)) := by
  induction settled generalizing s with
  | nil db => exact h
  | cons first _ ih => exact ih (h.settled first)

/-- The settlement that an action begins with. -/
theorem Represents.settle {userId : Nat} {now : Time} (h : Represents db s)
    (tx : settleCartReconciliation userId now db = .ok db') :
    Represents db' (run unitStep s (settlements userId db)) :=
  h.settledBy (h.inv.settled tx)

end Settlements

/-! ### One row changes -/

section Rows

variable {db db' : Db} {s : UnitCart} {u l k : Nat}

theorem Represents.none_held (h : Represents db s) (missing : db.cartItems.get? k = none) (o : Nat) :
    visibleOf o k db = 0 := by
  have held := h.inv.heldOf_missing missing
  have le := h.inv.visibleOf_le_held (o := o) (k := k)
  have least := h.inv.visibleOf_nonneg (o := o) (k := k)
  omega

/-- Only the row `k` differs, before and after a row of this customer and
listing. -/
structure RowChange (u l k : Nat) (db db' : Db) : Prop where
  carts : db'.carts = db.carts
  provenance : db'.cartProvenance = db.cartProvenance
  orders : db'.orders = db.orders
  others : ∀ j, j ≠ k → db'.cartItems.get? j = db.cartItems.get? j
  holdings : ∀ j, j ≠ k → ∀ o, visibleOf o j db' = visibleOf o j db
  before : ∀ row, db.cartItems.get? k = some row → Saved db u l k row
  after : ∀ row, db'.cartItems.get? k = some row → Saved db' u l k row

theorem Saved.owner {u' l' : Nat} {row : CartItem} (h : Saved db u l k row)
    (h' : Saved db u' l' k row) : u' = u ∧ l' = l := by
  obtain ⟨found, rfl, cart, placed, rfl⟩ := h
  obtain ⟨found', rfl, cart', placed', rfl⟩ := h'
  obtain rfl := Option.some.inj (placed.symm.trans placed')
  exact ⟨rfl, rfl⟩

theorem Represents.change (h : Represents db s) (change : RowChange u l k db db')
    (inv : ProvenanceInv db') (shape : CartShape db') {pool : Pool Nat}
    (own : CountsAt db' u l pool) : Represents db' (s.put u l pool) := by
  refine ⟨inv, shape, fun u' l' => ?_, change.provenance ▸ h.fates, ?_⟩
  · dsimp only [UnitCart.put]
    split
    · rename_i same
      obtain ⟨rfl, rfl⟩ := same
      exact own
    · rename_i other
      -- The row that changed is not one of this listing.
      have apart : ∀ j row, Saved db u' l' j row → j ≠ k := by
        rintro j row saved rfl
        exact other ((change.before row saved.1).owner saved)
      have apart' : ∀ j row, Saved db' u' l' j row → j ≠ k := by
        rintro j row saved rfl
        exact other ((change.after row saved.1).owner saved)
      refine (h.counts u' l').same (fun j row => ?_) fun j row saved =>
        change.holdings j (apart j row saved)
      constructor
      · intro saved
        have away := apart' j row saved
        unfold Saved at saved ⊢
        rwa [change.others j away, change.carts] at saved
      · intro saved
        have away := apart j row saved
        unfold Saved at saved ⊢
        rwa [change.others j away, change.carts]
  · rw [change.provenance, change.orders]
    exact h.orders

/-- A cart is there for a customer who saves something. -/
theorem upsertCart_owner (userId : Nat) (db : Db) : ∃ cart,
    (upsertCart userId db).1.carts.get? (upsertCart userId db).2 = some cart ∧
      cart.userId = userId := by
  unfold upsertCart
  cases hfind : findCart userId db with
  | none => exact ⟨{ userId }, Table.get?_insert_self .., rfl⟩
  | some e => exact ⟨e.2, findCart_eq_some hfind⟩

theorem Represents.upsertCart (h : Represents db s) (userId : Nat) :
    Represents (upsertCart userId db).1 s := by
  unfold ColorfulLife.upsertCart
  cases hfind : findCart userId db with
  | some e => exact h
  | none =>
      have absent := Table.find?_eq_none.mp hfind
      have stays : ∀ k row, db.cartItems.get? k = some row →
          (db.carts.insert { userId }).get? row.cartId = db.carts.get? row.cartId := by
        intro k row found
        obtain ⟨cart, placed⟩ := h.shape.placed k row found
        rw [placed]
        exact Table.get?_insert_of_some placed
      refine ⟨?_, ⟨fun c d cart cart' hc hd same => ?_, h.shape.rows, fun k row found => ?_⟩,
        fun u l => ?_, h.fates, h.orders⟩
      · exact h.inv.same_allocations rfl (RowsKept.refl _) (AttachedKept.refl _) h.inv.covered
      · dsimp only at hc hd
        rw [Table.get?_insert] at hc hd
        split at hc
        · obtain rfl := Option.some.inj hc
          split at hd
          · simp [*]
          · have other := absent d cart' hd
            simp [← same] at other
        · split at hd
          · obtain rfl := Option.some.inj hd
            have other := absent c cart hc
            simp [same] at other
          · exact h.shape.carts c d cart cart' hc hd same
      · rw [stays k row found]
        exact h.shape.placed k row found
      · refine (h.counts u l).same (fun k row => ?_) fun _ _ _ _ => rfl
        unfold Saved
        constructor
        · rintro ⟨found, listing, owned⟩
          dsimp only at found owned
          rw [stays k row found] at owned
          exact ⟨found, listing, owned⟩
        · rintro ⟨found, listing, owned⟩
          dsimp only
          rw [stays k row found]
          exact ⟨found, listing, owned⟩

/-- The row of a listing gets a quantity, and the units with it. -/
theorem Represents.setQuantity (h : Represents db s) {row : CartItem} (saved : Saved db u l k row)
    {allocations : Table OrderCartAllocation} {q : Int}
    (inv : ProvenanceInv { db with
      cartItems := db.cartItems.update k fun r => { r with quantity := q }
      cartAllocations := allocations })
    (holdings : ∀ j, j ≠ k → ∀ o,
      visibleOf o j { db with cartAllocations := allocations } = visibleOf o j db)
    {pool : Pool Nat} (length : (pool.length : Int) = q)
    (owned : ∀ o, (pool.owned o : Int) = visibleOf o k { db with cartAllocations := allocations }) :
    Represents { db with
      cartItems := db.cartItems.update k fun r => { r with quantity := q }
      cartAllocations := allocations } (s.put u l pool) := by
  obtain ⟨found, listing, cart, placed, owner⟩ := saved
  have found' : (db.cartItems.update k fun r => { r with quantity := q }).get? k =
      some { row with quantity := q } := by simp [found]
  have shape : CartShape { db with
      cartItems := db.cartItems.update k fun r => { r with quantity := q }
      cartAllocations := allocations } := by
    refine h.shape.of_rows rfl fun j row' hj => ?_
    dsimp only at hj
    rw [Table.get?_update] at hj
    split at hj
    · obtain ⟨before, hbefore, rfl⟩ := Option.map_eq_some_iff.mp hj
      exact ⟨before, hbefore, rfl, rfl⟩
    · exact ⟨row', hj, rfl, rfl⟩
  have own := CountsAt.of_saved shape ⟨found', listing, cart, placed, owner⟩ length owned
  refine h.change (k := k) ?_ inv shape own
  refine ⟨rfl, rfl, rfl, fun j other => Table.get?_update_of_ne _ _ other, holdings,
    fun row' found'' => ?_, fun row' found'' => ?_⟩
  · obtain rfl := Option.some.inj (found.symm.trans found'')
    exact ⟨found, listing, cart, placed, owner⟩
  · obtain rfl := Option.some.inj (found'.symm.trans found'')
    exact ⟨found', listing, cart, placed, owner⟩

/-- A row for a listing that had none. -/
theorem Represents.insertRow (h : Represents db s) {row : CartItem} {cart : Cart}
    (placed : db.carts.get? row.cartId = some cart)
    (new : findCartItem row.cartId row.productListingId db = none) (nonneg : 0 ≤ row.quantity)
    {pool : Pool Nat} (length : (pool.length : Int) = row.quantity)
    (owned : ∀ o, pool.owned o = 0) :
    Represents { db with cartItems := db.cartItems.insert row }
      (s.put cart.userId row.productListingId pool) := by
  have shape := h.shape.insertRow ⟨cart, placed⟩ new
  have found : (db.cartItems.insert row).get? db.cartItems.nextId = some row :=
    Table.get?_insert_self ..
  have own : CountsAt { db with cartItems := db.cartItems.insert row } cart.userId
      row.productListingId pool := by
    refine CountsAt.of_saved shape ⟨found, rfl, cart, placed, rfl⟩ length fun o => ?_
    have none := h.none_held db.cartItems.get?_nextId o
    rw [owned o]
    exact none.symm
  refine h.change (k := db.cartItems.nextId) ?_ (h.inv.insertRow nonneg) shape own
  refine ⟨rfl, rfl, rfl, fun j other => ?_, fun _ _ _ => rfl, fun row' found' => ?_,
    fun row' found' => ?_⟩
  · exact (Table.get?_insert ..).trans (if_neg other)
  · rw [Table.get?_nextId] at found'
    cases found'
  · obtain rfl := Option.some.inj (found.symm.trans found')
    exact ⟨found, rfl, cart, placed, rfl⟩

/-- A row goes, after what is held of it. -/
theorem Represents.deleteRow (h : Represents db s) {row : CartItem} (saved : Saved db u l k row)
    {allocations : Table OrderCartAllocation}
    (inv : ProvenanceInv { db with cartAllocations := allocations })
    (zero : heldOf k { db with cartAllocations := allocations } = 0)
    (holdings : ∀ j, j ≠ k → ∀ o,
      visibleOf o j { db with cartAllocations := allocations } = visibleOf o j db) :
    Represents (deleteCartItem k { db with cartAllocations := allocations }) (s.put u l []) := by
  have sums := inv.visibleSum_delete zero
  have gone : (db.cartItems.erase k).get? k = none := by simp [Table.get?_erase]
  have others : ∀ j, j ≠ k → (db.cartItems.erase k).get? j = db.cartItems.get? j := by
    intro j other
    rw [Table.get?_erase, if_neg other]
  have rows : RowsOf db (deleteCartItem k { db with cartAllocations := allocations }) := by
    intro j row' found
    by_cases same : j = k
    · rw [same] at found
      cases gone.symm.trans found
    · exact ⟨row', (others j same).symm.trans found, rfl, rfl⟩
  have own : CountsAt (deleteCartItem k { db with cartAllocations := allocations }) u l [] := by
    refine CountsAt.empty fun j row' ⟨found, listing, cart, placed, owner⟩ => ?_
    obtain ⟨before, found', cart', listing'⟩ := rows j row' found
    obtain ⟨rfl, -⟩ := saved.unique h.shape
      ⟨found', listing'.trans listing, cart, cart' ▸ placed, owner⟩
    cases gone.symm.trans found
  refine h.change (k := k) ?_ (inv.deleteRow zero) (h.shape.of_rows rfl rows) own
  refine ⟨rfl, rfl, rfl, others, fun j other o => ?_, fun row' found => ?_, fun row' found => ?_⟩
  · exact (sums _).trans (holdings j other o)
  · obtain rfl := Option.some.inj (saved.1.symm.trans found)
    exact saved
  · cases gone.symm.trans found

/-- No row of the customer's cart is one for the listing. -/
theorem Represents.pool_of_none (h : Represents db s) {cartId : Nat} {cart : Cart}
    (placed : db.carts.get? cartId = some cart) (none : findCartItem cartId l db = none) :
    s.units cart.userId l = [] := by
  refine (h.counts _ _).unsaved ?_
  rintro k row ⟨found, rfl, cart', placed', owner⟩
  obtain rfl := h.shape.carts _ _ _ _ placed' placed owner
  exact findCartItem_eq_none none k row found rfl rfl

end Rows

/-! ### The cart requests -/

section Requests

variable {db db' : Db} {s : UnitCart} {userId : Nat} {now : Time}

theorem saved_of_found {cartId l k : Nat} {cart : Cart}
    {row : CartItem} (placed : db.carts.get? cartId = some cart)
    (hfind : findCartItem cartId l db = some (k, row)) : Saved db cart.userId l k row := by
  obtain ⟨found, rfl, listing⟩ := findCartItem_eq_some hfind
  exact ⟨found, listing, cart, placed, rfl⟩

theorem Represents.addCartItem (h : Represents db s) {itemId : Nat} {input : RequestLine}
    (tx : addCartItem userId input now db = .ok (db', itemId)) :
    Represents db' (run unitStep s (settlements userId db ++
      [.add userId input.productListingId input.quantity.toNat])) := by
  obtain ⟨settled, hsettle, writes⟩ := addCartItem_ok tx
  rw [run_append]
  have before := (h.settle hsettle).upsertCart userId
  have positive := input.positive
  obtain ⟨cart, placed, rfl⟩ := upsertCart_owner userId settled
  generalize run unitStep s (settlements cart.userId db) = t at before ⊢
  rw [run_cons, run_nil, unitStep]
  rcases writes with ⟨row, hfind, rfl⟩ | ⟨hfind, rfl⟩
  · have saved := saved_of_found placed hfind
    obtain ⟨length, owned⟩ := (before.counts _ _).saved itemId row saved
    have covered := before.inv.covered itemId row saved.1
    apply before.setQuantity saved
    · exact before.inv.setQuantity (by omega)
    · exact fun _ _ _ => rfl
    · rw [Pool.length_add]
      omega
    · intro o
      rw [Pool.owned_add]
      exact owned o
  · apply before.insertRow placed hfind (le_of_lt positive)
    · rw [Pool.length_add, before.pool_of_none placed hfind]
      simp only [List.length_nil]
      omega
    · intro o
      rw [Pool.owned_add, before.pool_of_none placed hfind]
      rfl

theorem SettledBy.rowsOf {tasks : List CartTask} (settled : SettledBy tasks db db') :
    RowsOf db db' ∧ db'.carts = db.carts ∧ db'.orders = db.orders := by
  induction settled with
  | nil db => exact ⟨fun k row found => ⟨row, found, rfl, rfl⟩, rfl, rfl⟩
  | cons first _ ih =>
      obtain ⟨rest, carts, orders⟩ := ih
      refine ⟨fun k row' found => ?_, ?_, ?_⟩
      · obtain ⟨row₁, found₁, cart₁, listing₁⟩ := rest k row' found
        obtain ⟨row, found, cart, listing⟩ := first.rowsOf k row₁ found₁
        exact ⟨row, found, cart.trans cart₁, listing.trans listing₁⟩
      · rw [carts, first.frame]
      · rw [orders, first.frame]

theorem Represents.updateCartItem (h : Represents db s) {input : RequestLine}
    (tx : updateCartItem userId input now db = .ok db') :
    Represents db' (run unitStep s (settlements userId db ++
      [.resize userId input.productListingId input.quantity.toNat])) := by
  obtain ⟨cartId, cart, settled, hcart, hsettle, writes⟩ := updateCartItem_ok tx
  obtain ⟨-, carts, -⟩ := (h.inv.settled hsettle).rowsOf
  rw [run_append]
  have before := h.settle hsettle
  have positive := input.positive
  obtain ⟨placed, rfl⟩ := findCart_eq_some hcart
  rw [← carts] at placed
  generalize run unitStep s (settlements cart.userId db) = t at before ⊢
  rw [run_cons, run_nil, unitStep]
  rcases writes with ⟨k, row, hfind, rfl⟩ | ⟨hfind, rfl⟩
  · have saved := saved_of_found placed hfind
    obtain ⟨-, owned⟩ := (before.counts _ _).saved k row saved
    obtain ⟨length, owned'⟩ := before.inv.resize_units owned (le_of_lt positive)
    have reduced := before.inv.reduce (k := k) (le_of_lt positive)
    apply before.setQuantity saved
    · refine reduced.setQuantity ?_
      rw [before.inv.heldOf_reduce (le_of_lt positive)]
      exact min_le_right _ _
    · intro j other o
      refine before.inv.visibleSum_reduce_other (fun _ _ => rfl) (fun a on => ?_) (le_of_lt positive)
      simp [on, Ne.symm other]
    · exact length
    · exact owned'
  · have missing : ∀ o, ((t.units cart.userId input.productListingId).owned o : Int) =
        visibleOf o settled.cartItems.nextId settled := by
      intro o
      rw [before.none_held settled.cartItems.get?_nextId o, before.pool_of_none placed hfind]
      rfl
    apply before.insertRow placed hfind (le_of_lt positive)
    · exact (before.inv.resize_units missing (le_of_lt positive)).1
    · intro o
      have le := Pool.owned_resize_le (t.units cart.userId input.productListingId)
        input.quantity.toNat o
      rw [before.pool_of_none placed hfind] at le ⊢
      exact Nat.le_zero.mp le

theorem Represents.removeCartItem (h : Represents db s) {productListingId : Nat}
    (tx : removeCartItem userId productListingId now db = .ok db') :
    Represents db' (run unitStep s (settlements userId db ++ [.remove userId productListingId])) := by
  obtain ⟨cartId, cart, k, original, settled, hcart, hrow, hsettle, writes⟩ := removeCartItem_ok tx
  obtain ⟨rows, carts, -⟩ := (h.inv.settled hsettle).rowsOf
  rw [run_append]
  have before := h.settle hsettle
  obtain ⟨placed, rfl⟩ := findCart_eq_some hcart
  have original_saved := saved_of_found placed hrow
  generalize run unitStep s (settlements cart.userId db) = t at before ⊢
  rw [run_cons, run_nil, unitStep]
  -- What is saved for the listing is still the row that was read first.
  have still : ∀ j row, Saved settled cart.userId productListingId j row → j = k := by
    rintro j row ⟨found, listing, cart', placed', owner⟩
    obtain ⟨row₀, found₀, cart₀, listing₀⟩ := rows j row found
    rw [carts, ← cart₀] at placed'
    exact (original_saved.unique h.shape
      ⟨found₀, listing₀.trans listing, cart', placed', owner⟩).1
  rcases writes with ⟨there, rfl⟩ | ⟨gone, rfl⟩
  · obtain ⟨row, found⟩ := Option.ne_none_iff_exists'.mp there
    obtain ⟨row₀, found₀, cart₀, listing₀⟩ := rows k row found
    obtain rfl := Option.some.inj (original_saved.1.symm.trans found₀)
    have saved : Saved settled cart.userId productListingId k row := by
      refine ⟨found, listing₀ ▸ original_saved.2.1, ?_⟩
      rw [carts, ← cart₀]
      exact original_saved.2.2
    have nonneg := before.inv.heldOf_nonneg (k := k)
    apply before.deleteRow saved
    · exact before.inv.reduce le_rfl
    · refine (before.inv.heldOf_reduce le_rfl).trans ?_
      omega
    · intro j other o
      refine before.inv.visibleSum_reduce_other (fun _ _ => rfl) (fun a on => ?_) le_rfl
      simp [on, Ne.symm other]
  · have empty : t.units cart.userId productListingId = [] := by
      refine (before.counts _ _).unsaved fun j row saved => ?_
      obtain rfl := still j row saved
      cases gone.symm.trans saved.1
    have same : t.put cart.userId productListingId [] = t := by
      unfold UnitCart.put
      congr
      funext u l
      split
      · rename_i same
        rw [same.1, same.2, empty]
      · rfl
    rw [same]
    exact before

theorem Represents.clearCart (h : Represents db s) (tx : clearCart userId now db = .ok db') :
    Represents db' (run unitStep s (settlements userId db ++ [.clear userId])) := by
  obtain ⟨settled, hsettle, writes⟩ := clearCart_ok tx
  rw [run_append]
  have before := h.settle hsettle
  generalize run unitStep s (settlements userId db) = t at before ⊢
  rw [run_cons, run_nil, unitStep]
  rcases writes with ⟨cartId, cart, hcart, rfl⟩ | ⟨hcart, rfl⟩
  · obtain ⟨placed, rfl⟩ := findCart_eq_some hcart
    obtain ⟨inv, rows, holdings⟩ := before.inv.emptyCart cartId
    have frame : (emptyCart cartId settled).carts = settled.carts ∧
        (emptyCart cartId settled).cartProvenance = settled.cartProvenance ∧
        (emptyCart cartId settled).orders = settled.orders := by
      rw [emptyCart_eq, deleteRows_frame, releaseRows_frame]
      exact ⟨rfl, rfl, rfl⟩
    have kept : RowsOf settled (emptyCart cartId settled) :=
      fun k row found => ⟨row, ((rows k row).mp found).1, rfl, rfl⟩
    -- A row is the customer's exactly when it is in the cart.
    have own : ∀ u l k row, Saved settled u l k row → (row.cartId = cartId ↔ u = cart.userId) := by
      rintro u l k row ⟨found, -, cart', placed', rfl⟩
      constructor
      · rintro rfl
        obtain rfl := Option.some.inj (placed.symm.trans placed')
        rfl
      · exact fun same => before.shape.carts _ _ _ _ placed' placed same
    have saved_iff : ∀ u l k row, Saved (emptyCart cartId settled) u l k row ↔
        Saved settled u l k row ∧ u ≠ cart.userId := by
      intro u l k row
      constructor
      · rintro ⟨found, listing, placed'⟩
        rw [frame.1] at placed'
        obtain ⟨found', other⟩ := (rows k row).mp found
        have saved : Saved settled u l k row := ⟨found', listing, placed'⟩
        exact ⟨saved, fun same => other ((own u l k row saved).mpr same)⟩
      · rintro ⟨saved, other⟩
        have elsewhere : row.cartId ≠ cartId := fun same => other ((own u l k row saved).mp same)
        refine ⟨(rows k row).mpr ⟨saved.1, elsewhere⟩, saved.2.1, ?_⟩
        rw [frame.1]
        exact saved.2.2
    refine ⟨inv, before.shape.of_rows frame.1 kept, fun u l => ?_, ?_, ?_⟩
    · dsimp only
      split
      · subst u
        exact CountsAt.empty fun k row saved => ((saved_iff _ _ _ _).mp saved).2 rfl
      · refine (before.counts u l).same (fun k row => ?_) fun k row saved o => ?_
        · simp [*]
        · exact holdings k row saved.1 (fun same => ‹¬ u = _› ((own u l k row saved).mp same)) o
    · rw [frame.2.1]
      exact before.fates
    · rw [frame.2.1, frame.2.2]
      exact before.orders
  · -- A customer without a cart has no units.
    have none : ∀ l, t.units userId l = [] := by
      intro l
      refine (before.counts userId l).unsaved ?_
      rintro k row ⟨-, -, cart, placed, owner⟩
      have absent := Table.find?_eq_none.mp hcart _ _ placed
      simp [owner] at absent
    have same : { t with units := fun u l => if u = userId then [] else t.units u l } = t := by
      congr
      funext u l
      split
      · subst u
        exact (none l).symm
      · rfl
    rw [same]
    exact before

theorem Represents.reconcileCart (h : Represents db s) (userId : Nat) (now : Time) :
    Represents (reconcileCart userId now db) (run unitStep s (settlements userId db)) := by
  obtain ⟨settled, hsettle, by_tasks⟩ := h.inv.settle userId now
  unfold ColorfulLife.reconcileCart
  rw [hsettle]
  exact h.settledBy by_tasks

end Requests

/-! ### Orders -/

section Orders

variable {db db' : Db} {s : UnitCart}

theorem CountsAt.sameCart {u l : Nat} {pool : Pool Nat} (h : CountsAt db u l pool)
    (same : SameCart db db') : CountsAt db' u l pool := by
  refine h.same (fun k row => ?_) fun k row _ o => ?_
  · unfold Saved
    rw [same.carts, same.rows]
  · unfold visibleOf
    rw [same.allocations]

/-- Nothing of the carts differs, and a new order does not matter yet. -/
theorem Represents.same (h : Represents db s) (same : SameCart db db')
    (orders : ∀ o order, db.orders.get? o = some order →
      db'.orders.get? o = some order) : Represents db' s := by
  refine ⟨h.inv.same same, ?_, fun u l => (h.counts u l).sameCart same,
    same.provenance ▸ h.fates, fun o p hp => ?_⟩
  · exact h.shape.of_rows same.carts fun k row found => ⟨row, same.rows ▸ found, rfl, rfl⟩
  · obtain ⟨order, found, pending⟩ := h.orders o p (same.provenance ▸ hp)
    exact ⟨order, orders o order found, pending⟩

/-- A decided fate stays. -/
theorem fated_of_decided {state : CartReconciliationState} {fate fate' : Fate}
    (fated : state.Fated fate) (decided : state ≠ .active) :
    state.Fated (if fate = .undecided then fate' else fate) := by
  cases state <;> simp_all [CartReconciliationState.Fated]

theorem Represents.ends (h : Represents db s) {o : Nat} {consume : Bool}
    (ends : Ends o consume db db') :
    Represents db' (s.decideFate o (if consume then .confirmed else .released)) := by
  obtain ⟨order, f, db₁, found, -, ended, same, orders, rfl⟩ := ends
  have read : ∀ j p', (queueCartReconciliation o consume db₁).cartProvenance.get? j = some p' →
      ∃ p, db.cartProvenance.get? j = some p ∧ p' = if j = o ∧ p.state = .active then
        { p with state := if consume then .consumePending else .releasePending } else p := by
    intro j p' hp'
    rw [queueCartReconciliation, Table.get?_updateMany, same.provenance] at hp'
    obtain ⟨p, hp, rfl⟩ := Option.map_eq_some_iff.mp hp'
    exact ⟨p, hp, by simp⟩
  refine ⟨(h.inv.same same).queue o consume, ?_, fun u l => ?_, fun j p' hp' => ?_,
    fun j p' hp' => ?_⟩
  · exact h.shape.of_rows same.carts fun k row found => ⟨row, same.rows ▸ found, rfl, rfl⟩
  · refine (h.counts u l).same (fun k row => ?_) fun k row _ o => ?_
    · unfold Saved queueCartReconciliation
      rw [same.carts, same.rows]
    · unfold visibleOf queueCartReconciliation
      rw [same.allocations]
  · obtain ⟨p, hp, rfl⟩ := read j p' hp'
    have fated := h.fates j p hp
    unfold UnitCart.decideFate
    dsimp only
    by_cases own : j = o
    · subst own
      by_cases active : p.state = .active
      · rw [active] at fated
        have undecided : s.fate j = .undecided := fated
        cases consume <;> simp [active, undecided, CartReconciliationState.Fated]
      · simpa [active] using fated_of_decided fated active
    · simpa [own] using fated
  · obtain ⟨p, hp, rfl⟩ := read j p' hp'
    obtain ⟨order', found', pending⟩ := h.orders j p hp
    change ∃ order, db₁.orders.get? j = some order ∧ _
    rw [orders, Table.get?_update]
    by_cases own : j = o
    · subst own
      refine ⟨f order', by simp [found'], fun active => ?_⟩
      -- The order's provenance was active, and was queued.
      by_cases before : p.state = .active
      · cases consume <;> simp [before] at active
      · simp [before] at active
    · exact ⟨order', by simp [own, found'], by simpa [own] using pending⟩

theorem Represents.cancelWith (h : Represents db s) {owner : Option Nat}
    {cancelledBy : CancellationInitiator} {performedBy o : Nat} {reason : CancellationReason}
    {now : Time} (tx : cancelWith owner cancelledBy performedBy o reason now db = .ok db') :
    Represents db' (s.decideFate o .released) := by
  rcases cancelWith_ends tx with ends | ⟨order, f, found, confirmed, ended, same, orders⟩
  · exact h.ends ends
  · -- A confirmed order is not waited for: its fate is decided.
    have active : ∀ j p, db.cartProvenance.get? j = some p → p.state = .active → j ≠ o := by
      rintro j p hp active rfl
      obtain ⟨order', found', pending⟩ := h.orders j p hp
      obtain rfl := Option.some.inj (found.symm.trans found')
      rw [pending active] at confirmed
      cases confirmed
    refine ⟨h.inv.same same, ?_, fun u l => (h.counts u l).sameCart same, fun j p hp => ?_,
      fun j p hp => ?_⟩
    · exact h.shape.of_rows same.carts fun k row found => ⟨row, same.rows ▸ found, rfl, rfl⟩
    · rw [same.provenance] at hp
      have fated := h.fates j p hp
      unfold UnitCart.decideFate
      dsimp only
      by_cases own : j = o
      · have decided : p.state ≠ .active := fun state => active j p hp state own
        simpa [own] using fated_of_decided (own ▸ fated) decided
      · simpa [own] using fated
    · rw [same.provenance] at hp
      obtain ⟨order', found', pending⟩ := h.orders j p hp
      rw [orders, Table.get?_update]
      by_cases own : j = o
      · subst own
        exact ⟨f order', by simp [found'], fun state => absurd rfl (active j p hp state)⟩
      · exact ⟨order', by simp [own, found'], pending⟩

/-! ### A new order -/

theorem lookup_unitLines {input : CreateOrderInput}
    (distinct : (input.items.map RequestLine.productListingId).Nodup) {line : RequestLine}
    (mem : line ∈ input.items) :
    (unitLines input).lookup line.productListingId = some line.quantity.toNat := by
  unfold unitLines
  generalize input.items = lines at distinct mem
  induction lines with
  | nil => cases mem
  | cons first lines ih =>
      obtain ⟨fresh, distinct⟩ := List.nodup_cons.mp distinct
      rcases List.mem_cons.mp mem with rfl | mem
      · simp
      · have other : line.productListingId ≠ first.productListingId :=
          fun same => fresh (same ▸ List.mem_map_of_mem mem)
        rw [List.map_cons, List.lookup_cons, beq_eq_false_iff_ne.mpr other]
        exact ih distinct mem

theorem lookup_unitLines_none {input : CreateOrderInput} {l : Nat}
    (absent : ∀ line ∈ input.items, line.productListingId ≠ l) :
    (unitLines input).lookup l = none := by
  rw [List.lookup_eq_none_iff]
  intro e he
  obtain ⟨line, hline, rfl⟩ := List.mem_map.mp he
  simpa using (absent line hline).symm

/-- The lines that a plan was made of are admitted. -/
theorem Represents.admits (h : Represents db s) {userId : Nat} {lines : List RequestLine}
    (enough : ∀ line ∈ lines, ∀ k row, Saved db userId line.productListingId k row →
      line.quantity ≤ row.quantity - allocatedQuantity k db) :
    s.admits userId (lines.map fun line => (line.productListingId, line.quantity.toNat)) = true := by
  unfold UnitCart.admits
  rw [List.all_eq_true]
  intro e he
  obtain ⟨line, hline, rfl⟩ := List.mem_map.mp he
  refine decide_eq_true ?_
  dsimp only
  rcases (h.counts userId line.productListingId).cases with ⟨k, row, saved⟩ | ⟨-, empty⟩
  · have fits := enough line hline k row saved
    have free := (h.counts _ _).free h.inv saved
    rw [h.inv.allocatedQuantity_eq] at fits
    exact Or.inr (by omega)
  · exact Or.inl empty

section Claim

variable {userId : Nat} {input : CreateOrderInput} {plan : List AllocationPlan}

/-- What the claim makes of the pools. -/
theorem units_claim (admitted : s.admits userId (unitLines input) = true) (o u l : Nat) :
    (unitStep s (.claim userId o (unitLines input))).units u l = if u = userId then
      ((unitLines input).lookup l).elim (s.units u l) fun n => (s.units u l).claim o n
    else s.units u l := by
  rw [unitStep, if_pos admitted]

theorem fate_claim (admitted : s.admits userId (unitLines input) = true) (o j : Nat) :
    (unitStep s (.claim userId o (unitLines input))).fate j =
      if j = o then .undecided else s.fate j := by
  rw [unitStep, if_pos admitted]

theorem plannedOn_saved (shape : CartShape db) {cartId l k : Nat} {cart : Cart} {row : CartItem}
    (distinct : (input.items.map RequestLine.productListingId).Nodup)
    (placed : db.carts.get? cartId = some cart) (saved : Saved db cart.userId l k row) :
    plannedOn k (input.items.filterMap (planOf cartId db)) =
      ((unitLines input).lookup l).elim 0 fun n => (n : Int) := by
  obtain ⟨found, rfl, cart', placed', owner⟩ := saved
  obtain rfl := shape.carts _ _ _ _ placed' placed owner
  have hfind := findCartItem_eq shape found
  by_cases asked : ∃ line ∈ input.items, line.productListingId = row.productListingId
  · obtain ⟨line, hline, same⟩ := asked
    have planned : (⟨k, line.productListingId, line.quantity, line.quantity⟩ : AllocationPlan) ∈
        input.items.filterMap (planOf row.cartId db) :=
      List.mem_filterMap.mpr ⟨line, hline, by simp [planOf, same, hfind]⟩
    have positive := line.positive
    rw [plannedOn_eq (planOf_once distinct) planned, ← same, lookup_unitLines distinct hline]
    simp only [Option.elim_some]
    omega
  · have absent : ∀ line ∈ input.items, line.productListingId ≠ row.productListingId :=
      fun line hline same => asked ⟨line, hline, same⟩
    rw [lookup_unitLines_none absent]
    refine plannedOn_eq_zero fun e he same => ?_
    obtain ⟨line, hline, planned⟩ := List.mem_filterMap.mp he
    simp only [planOf, Option.map_eq_some_iff] at planned
    obtain ⟨⟨j, row'⟩, hfind', rfl⟩ := planned
    obtain ⟨found', -, listing⟩ := findCartItem_eq_some hfind'
    dsimp only at same
    subst same
    obtain rfl := Option.some.inj (found.symm.trans found')
    exact absent line hline listing.symm

theorem plannedOn_foreign {cartId u l k : Nat} {cart : Cart} {row : CartItem}
    (placed : db.carts.get? cartId = some cart) (saved : Saved db u l k row)
    (other : u ≠ cart.userId) : plannedOn k (input.items.filterMap (planOf cartId db)) = 0 := by
  refine plannedOn_eq_zero fun e he same => ?_
  obtain ⟨line, hline, planned⟩ := List.mem_filterMap.mp he
  simp only [planOf, Option.map_eq_some_iff] at planned
  obtain ⟨⟨j, row'⟩, hfind, rfl⟩ := planned
  dsimp only at same
  subst same
  have mine := saved_of_found placed hfind
  obtain rfl := Option.some.inj (saved.1.symm.trans mine.1)
  exact other (saved.owner mine).1.symm

theorem Represents.unprovenanced (h : Represents db s) :
    db.cartProvenance.get? db.orders.nextId = none := by
  cases hp : db.cartProvenance.get? db.orders.nextId with
  | none => rfl
  | some p =>
      obtain ⟨order, found, -⟩ := h.orders _ p hp
      cases db.orders.get?_nextId.symm.trans found

/-- A new order holds what its lines ask of the saved rows. -/
structure Claimed (userId : Nat) (input : CreateOrderInput) (db db' : Db) : Prop where
  enough : ∀ line ∈ input.items, ∀ k row, Saved db userId line.productListingId k row →
    line.quantity ≤ row.quantity - allocatedQuantity k db
  inv : ProvenanceInv db'
  carts : db'.carts = db.carts
  rows : db'.cartItems = db.cartItems
  order : ∃ order, order.status = .pending ∧ db'.orders = db.orders.insert order
  provenance : ∀ o p, db'.cartProvenance.get? o = some p →
    (o = db.orders.nextId ∧ p.state = .active) ∨ db.cartProvenance.get? o = some p
  holdings : ∀ u l k row, Saved db u l k row → ∀ o, visibleOf o k db' = visibleOf o k db +
    if u = userId ∧ o = db.orders.nextId then
      ((unitLines input).lookup l).elim 0 fun n => (n : Int) else 0

theorem Represents.placeOrder (h : Represents db s) {digest : CanonicalRequest → String}
    {orderId : Nat} {key : Option String} {now : Time}
    (distinct : (input.items.map RequestLine.productListingId).Nodup)
    (tx : placeOrder digest userId input key now db = .ok (db', orderId)) :
    Claimed userId input db db' := by
  obtain ⟨db₁, same, rfl, ⟨order, pending, inserted⟩, writes⟩ := placeOrder_associates tx
  have stays : ∀ o k, visibleOf o k db₁ = visibleOf o k db := by
    intro o k
    unfold visibleOf
    rw [same.allocations]
  rcases writes with ⟨rfl, planned⟩ | ⟨cartId, cart, plan, hcart, hplan, halloc⟩
  · refine ⟨fun line hline k row saved => ?_, h.inv.same same, same.carts, same.rows,
      ⟨order, pending, inserted⟩, fun o p hp => Or.inr (same.provenance ▸ hp),
      fun u l k row saved o => ?_⟩
    · obtain ⟨found, listing, cart, placed, rfl⟩ := saved
      have enough := (planAllocations_ok (planned _ _ (findCart_eq h.shape placed))).2 line hline
      rw [← listing] at enough
      exact enough k row (findCartItem_eq h.shape found)
    · rw [stays]
      split
      · -- Nothing was planned, so that no line asks for this row.
        rename_i own
        obtain ⟨rfl, rfl⟩ := own
        obtain ⟨found, listing, cart, placed, rfl⟩ := saved
        obtain ⟨nothing, -⟩ := planAllocations_ok (planned _ _ (findCart_eq h.shape placed))
        have taken := plannedOn_saved h.shape distinct placed ⟨found, listing, cart, placed, rfl⟩
        rw [← nothing] at taken
        rw [← taken]
        exact (add_zero _).symm
      · exact (add_zero _).symm
  · obtain ⟨placed, rfl⟩ := findCart_eq_some hcart
    have fits := h.inv.plan_fits distinct hplan
    obtain ⟨inv, held⟩ := (h.inv.same same).allocate (fits.same same) halloc
    obtain ⟨rfl, enough⟩ := planAllocations_ok hplan
    obtain ⟨provenance, hinsert, hwrite⟩ := bind_eq_ok.mp halloc
    obtain rfl := pure_eq_ok.mp hwrite
    have recorded := Table.get?_insertAt (orThrow_eq_ok.mp hinsert)
    refine ⟨fun line hline k row saved => ?_, inv, same.carts, same.rows,
      ⟨order, pending, inserted⟩, fun o p hp => ?_, fun u l k row saved o => ?_⟩
    · obtain ⟨found, listing, cart', placed', owner⟩ := saved
      obtain rfl := h.shape.carts _ _ _ _ placed' placed owner
      have each := enough line hline
      rw [← listing] at each
      exact each k row (findCartItem_eq h.shape found)
    · have read := (recorded o).symm.trans hp
      split at read
      · obtain rfl := Option.some.inj read
        exact Or.inl ⟨‹_›, rfl⟩
      · exact Or.inr (same.provenance ▸ read)
    · rw [held, stays]
      by_cases own : u = cart.userId
      · subst own
        rw [plannedOn_saved h.shape distinct placed saved]
        simp
      · rw [plannedOn_foreign placed saved own]
        simp [own]

/-- The claim gives the order its lines' units. -/
theorem Claimed.countsAt (claimed : Claimed userId input db db') (h : Represents db s) (u l : Nat) :
    CountsAt db' u l
      ((unitStep s (.claim userId db.orders.nextId (unitLines input))).units u l) := by
  have shape : CartShape db' :=
    h.shape.of_rows claimed.carts fun k row found => ⟨row, claimed.rows ▸ found, rfl, rfl⟩
  have saved_iff : ∀ k row, Saved db' u l k row ↔ Saved db u l k row := by
    intro k row
    unfold Saved
    rw [claimed.carts, claimed.rows]
  rw [units_claim (h.admits claimed.enough)]
  rcases (h.counts u l).cases with ⟨k, row, saved⟩ | ⟨none, empty⟩
  · obtain ⟨length, owned⟩ := (h.counts u l).saved k row saved
    refine CountsAt.of_saved shape ((saved_iff k row).mpr saved) ?_ fun o => ?_
    · split
      · cases (unitLines input).lookup l with
        | none => exact length
        | some n => simpa using length
      · exact length
    · rw [claimed.holdings u l k row saved o]
      by_cases own : u = userId
      · subst own
        cases hlookup : (unitLines input).lookup l with
        | none => simpa using owned o
        | some n =>
            have fits : n ≤ (s.units u l).free := by
              obtain ⟨before, after, split, -⟩ := List.lookup_eq_some_iff.mp hlookup
              have mem : (l, n) ∈ unitLines input :=
                split ▸ List.mem_append_right _ List.mem_cons_self
              obtain ⟨line, hline, asked⟩ := List.mem_map.mp mem
              obtain ⟨rfl, rfl⟩ := Prod.mk.inj asked
              have left := claimed.enough line hline k row saved
              have free := (h.counts _ _).free h.inv saved
              rw [h.inv.allocatedQuantity_eq] at left
              omega
            simp only [if_true, Option.elim_some, true_and]
            split
            · subst o
              have count := owned db.orders.nextId
              rw [Pool.owned_claim _ fits]
              omega
            · rw [Pool.owned_claim_of_ne _ ‹¬ o = _›]
              simpa using owned o
      · simpa [own] using owned o
  · rw [empty]
    have still : (if u = userId then ((unitLines input).lookup l).elim [] fun n =>
        Pool.claim db.orders.nextId n [] else ([] : Pool Nat)) = [] := by
      split
      · cases (unitLines input).lookup l <;> simp [Pool.claim]
      · rfl
    rw [still]
    exact CountsAt.empty fun k row saved => none k row ((saved_iff k row).mp saved)

theorem Represents.claimed (h : Represents db s) (claimed : Claimed userId input db db') :
    Represents db' (unitStep s (.claim userId db.orders.nextId (unitLines input))) := by
  obtain ⟨order, pending, orders⟩ := claimed.order
  have admitted : s.admits userId (unitLines input) = true := h.admits claimed.enough
  refine ⟨claimed.inv, ?_, claimed.countsAt h, fun o p hp => ?_, fun o p hp => ?_⟩
  · exact h.shape.of_rows claimed.carts fun k row found => ⟨row, claimed.rows ▸ found, rfl, rfl⟩
  · rw [fate_claim admitted]
    rcases claimed.provenance o p hp with ⟨rfl, active⟩ | before
    · simp [active, CartReconciliationState.Fated]
    · have other : o ≠ db.orders.nextId := by
        rintro rfl
        cases h.unprovenanced.symm.trans before
      simpa [other] using h.fates o p before
  · rw [orders]
    rcases claimed.provenance o p hp with ⟨rfl, -⟩ | before
    · exact ⟨order, Table.get?_insert_self .., fun _ => pending⟩
    · obtain ⟨order', found, active⟩ := h.orders o p before
      exact ⟨order', Table.get?_insert_of_some found, active⟩

end Claim

/-- A creation claims its lines, or replays an order. -/
theorem Represents.createOrder (h : Represents db s) {digest : CanonicalRequest → String}
    {userId orderId : Nat} {input : CreateOrderInput} {key : Option String} {now : Time}
    (tx : createOrder digest userId input key now db = .ok (db', orderId)) :
    Represents db' (run unitStep s (match replayedOrder digest userId input key db with
      | .ok none => settlements userId db ++ [.claim userId db.orders.nextId (unitLines input)]
      | _ => [])) := by
  rcases createOrder_cases tx with ⟨rfl, replayed⟩ | ⟨settled, replayed, hsettle, hdup, hplace⟩
  · rw [replayed]
    exact h
  · obtain ⟨-, -, orders⟩ := (h.inv.settled hsettle).rowsOf
    have before := h.settle hsettle
    have claimed := before.placeOrder (firstDuplicate_eq_none hdup).1 hplace
    rw [replayed, run_append, ← orders]
    exact before.claimed claimed

theorem Represents.expireOrder (h : Represents db s) {o : Nat} {asOf : Time}
    (tx : expireOrderReservation o asOf db = .ok db') :
    Represents db' (run unitStep s
      (if (db.orders.get? o).any (decide <| ·.isExpirable o asOf db) then [.release o] else [])) := by
  cases found : db.orders.get? o with
  | none =>
      unfold expireOrderReservation at tx
      rw [found] at tx
      obtain rfl := Except.ok.inj tx
      exact h
  | some order =>
      by_cases expirable : order.isExpirable o asOf db
      · have reached : Option.any (decide <| ·.isExpirable o asOf db) (some order) = true := by
          simpa using expirable
        rw [if_pos reached]
        unfold expireOrderReservation at tx
        simp only [found, if_pos expirable, bind_eq_ok, pure_eq_ok] at tx
        obtain ⟨listings, -, rfl⟩ := tx
        exact h.ends ⟨order, Order.expire,
          { db with listings := listings }.updateOrder o Order.expire, found, expirable.1,
          fun x => by simp [Order.expire], ⟨rfl, rfl, rfl, rfl⟩, rfl, rfl⟩
      · have missed : ¬ Option.any (decide <| ·.isExpirable o asOf db) (some order) = true := by
          simpa using expirable
        rw [if_neg missed]
        unfold expireOrderReservation at tx
        simp only [found, if_neg expirable] at tx
        obtain rfl := Except.ok.inj tx
        exact h

end Orders

/-! ### Every action -/

theorem Represents.step {db : Db} {s : UnitCart} (digest : CanonicalRequest → String)
    (h : Represents db s) (op : CartOp) :
    Represents (cartStep digest db op) (run unitStep s (op.answer digest db)) := by
  unfold cartStep CartOp.answer
  cases tx : op.body digest db with
  | error e => exact h
  | ok db' =>
      rw [commit_ok]
      cases op with
      | getCart userId => exact Except.ok.inj tx ▸ h.upsertCart userId
      | addCartItem userId input now =>
          obtain ⟨⟨db₁, itemId⟩, hadd, rfl⟩ := map_eq_ok.mp tx
          exact h.addCartItem hadd
      | updateCartItem userId input now => exact h.updateCartItem tx
      | removeCartItem userId listing now => exact h.removeCartItem tx
      | clearCart userId now => exact h.clearCart tx
      | createOrder userId input key now =>
          obtain ⟨⟨db₁, orderId⟩, hcreate, rfl⟩ := map_eq_ok.mp tx
          exact h.createOrder hcreate
      | confirmOrder performedBy o => exact h.ends (confirmOrder_ends tx)
      | cancelOrder userId o reason now => exact h.cancelWith tx
      | cancelOrderByAdmin o reason admin now => exact h.cancelWith tx
      | expireOrderReservation o asOf => exact h.expireOrder tx
      | reconcileCart userId now => exact Except.ok.inj tx ▸ h.reconcileCart userId now

theorem CartStart.represents {db : Db} (start : CartStart db) :
    Represents db (.initial db) := by
  have shape : CartShape db := ⟨start.carts, start.rows, start.placed⟩
  have none_held : ∀ o k, visibleOf o k db = 0 := fun o k =>
    visibleSum_eq_zero fun i a ha _ => by simp [start.allocations] at ha
  refine ⟨start.inv, shape, fun u l => ⟨fun k row saved => ⟨?_, fun o => ?_⟩, fun none => ?_⟩,
    fun o p hp => ?_, fun o p hp => ?_⟩
  · have nonneg := start.quantities k row saved.1
    simp only [UnitCart.initial, quantityIn, (savedRow_eq_some shape).mpr saved, Option.elim_some,
      List.length_replicate]
    omega
  · rw [none_held]
    simp [UnitCart.initial, Pool.owned, List.count_replicate]
  · have empty : savedRow u l db = Option.none := by
      cases found : savedRow u l db with
      | none => rfl
      | some e => exact absurd ((savedRow_eq_some shape).mp found) (none e.1 e.2)
    simp [UnitCart.initial, quantityIn, empty]
  · cases (start.provenance o).symm.trans hp
  · cases (start.provenance o).symm.trans hp

theorem Represents.countedBy {db : Db} {s : UnitCart} (h : Represents db s) : s.CountedBy db := by
  intro u l
  unfold quantityIn visibleIn
  cases found : savedRow u l db with
  | none =>
      have empty : s.units u l = [] := by
        refine (h.counts u l).unsaved fun k row saved => ?_
        cases found.symm.trans ((savedRow_eq_some h.shape).mpr saved)
      rw [empty]
      exact ⟨rfl, fun _ => rfl⟩
  | some e => exact (h.counts u l).saved e.1 e.2 ((savedRow_eq_some h.shape).mp found)

/-- The unit cart follows a run. -/
theorem represents_follow (digest : CanonicalRequest → String) {db : Db} (start : CartStart db)
    (ops : List CartOp) :
    Represents (run (cartStep digest) db ops) (UnitCart.follow digest db ops) :=
  run_simulation (fun _ _ op h => h.step digest op) start.represents ops

/-! ### No order gains units -/

section Gain

variable {db db' : Db} {s : UnitCart} {digest : CanonicalRequest → String}

theorem mem_settlements {userId : Nat} {unit : UnitOp} (h : unit ∈ settlements userId db) :
    ∃ o, unit = .settle o := by
  obtain ⟨task, -, rfl⟩ := List.mem_map.mp h
  exact ⟨task.orderId, rfl⟩

/-- Units are claimed for the next order only. -/
theorem claim_mem_answer {op : CartOp} {u o : Nat} {lines : List (Nat × Nat)}
    (h : .claim u o lines ∈ op.answer digest db) : o = db.orders.nextId := by
  have settling : ∀ userId, .claim u o lines ∉ settlements userId db := by
    intro userId mem
    obtain ⟨o', same⟩ := mem_settlements mem
    cases same
  unfold CartOp.answer at h
  split at h
  · cases op with
    | createOrder userId input key now =>
        simp only [CartOp.accepted] at h
        split at h
        · rcases List.mem_append.mp h with mem | mem
          · exact absurd mem (settling userId)
          · cases List.mem_singleton.mp mem
            rfl
        · cases h
    | expireOrderReservation o' asOf =>
        simp only [CartOp.accepted] at h
        split at h <;> simp at h
    | _ => simp [CartOp.accepted, settling] at h
  · cases h

theorem owned_run_le {units : List UnitOp} {o : Nat}
    (unclaimed : ∀ userId lines, .claim userId o lines ∉ units) (u l : Nat) :
    ((run unitStep s units).units u l).owned o ≤ (s.units u l).owned o := by
  induction units generalizing s with
  | nil => exact le_rfl
  | cons unit units ih =>
      have first : ∀ userId lines, unit ≠ .claim userId o lines := fun userId lines same =>
        unclaimed userId lines (same ▸ List.mem_cons_self)
      have rest : ∀ userId lines, .claim userId o lines ∉ units := fun userId lines mem =>
        unclaimed userId lines (List.mem_cons_of_mem _ mem)
      exact (ih rest).trans (owned_unitStep_le s first u l)

theorem upsertCart_orders (userId : Nat) (db : Db) : (upsertCart userId db).1.orders = db.orders := by
  unfold upsertCart
  split <;> rfl

/-- Order ids are not given twice. -/
theorem Represents.nextId_le (h : Represents db s) (op : CartOp) :
    db.orders.nextId ≤ (cartStep digest db op).orders.nextId := by
  have settled : ∀ {userId now settled}, settleCartReconciliation userId now db = .ok settled →
      settled.orders = db.orders := fun hsettle => (h.inv.settled hsettle).rowsOf.2.2
  have ended : ∀ {o consume db'}, Ends o consume db db' → db.orders.nextId ≤ db'.orders.nextId := by
    rintro o consume db' ⟨order, f, db₁, -, -, -, -, orders, rfl⟩
    change _ ≤ db₁.orders.nextId
    rw [orders]
    exact le_rfl
  refine commit_invariant (I := fun db' : Db => db.orders.nextId ≤ db'.orders.nextId) le_rfl
    fun db' tx => ?_
  cases op with
  | getCart userId =>
      obtain rfl := Except.ok.inj tx
      exact le_of_eq (by rw [upsertCart_orders])
  | addCartItem userId input now =>
      obtain ⟨⟨db₁, itemId⟩, hadd, rfl⟩ := map_eq_ok.mp tx
      obtain ⟨db₂, hsettle, writes⟩ := addCartItem_ok hadd
      rcases writes with ⟨row, -, rfl⟩ | ⟨-, rfl⟩
      · exact le_of_eq (by simp [upsertCart_orders, settled hsettle])
      · exact le_of_eq (by simp [upsertCart_orders, settled hsettle])
  | updateCartItem userId input now =>
      obtain ⟨_, _, db₁, -, hsettle, ⟨k, row, -, rfl⟩ | ⟨-, rfl⟩⟩ := updateCartItem_ok tx
      · exact le_of_eq (by simp [reduceAllocations, settled hsettle])
      · exact le_of_eq (by simp [settled hsettle])
  | removeCartItem userId listing now =>
      obtain ⟨_, _, k, _, db₁, -, -, hsettle, ⟨-, rfl⟩ | ⟨-, rfl⟩⟩ := removeCartItem_ok tx
      · exact le_of_eq (by simp [deleteCartItem, reduceAllocations, settled hsettle])
      · exact le_of_eq (by rw [settled hsettle])
  | clearCart userId now =>
      obtain ⟨db₁, hsettle, ⟨cartId, cart, -, rfl⟩ | ⟨-, rfl⟩⟩ := clearCart_ok tx
      · rw [emptyCart_eq, deleteRows_frame, releaseRows_frame]
        exact le_of_eq (by simp [settled hsettle])
      · exact le_of_eq (by rw [settled hsettle])
  | createOrder userId input key now =>
      obtain ⟨⟨db₁, orderId⟩, hcreate, rfl⟩ := map_eq_ok.mp tx
      rcases createOrder_cases hcreate with ⟨rfl, -⟩ | ⟨db₂, -, hsettle, hdup, hplace⟩
      · exact le_rfl
      · have claimed := (h.settle hsettle).placeOrder (firstDuplicate_eq_none hdup).1 hplace
        obtain ⟨order, -, orders⟩ := claimed.order
        dsimp only at orders ⊢
        rw [orders, settled hsettle]
        exact Nat.le_succ _
  | confirmOrder performedBy o => exact ended (confirmOrder_ends tx)
  | cancelOrder userId o reason now =>
      rcases cancelWith_ends tx with ends | ⟨order, f, -, -, -, -, orders⟩
      · exact ended ends
      · rw [orders]
        exact le_rfl
  | cancelOrderByAdmin o reason admin now =>
      rcases cancelWith_ends tx with ends | ⟨order, f, -, -, -, -, orders⟩
      · exact ended ends
      · rw [orders]
        exact le_rfl
  | expireOrderReservation o asOf =>
      rcases expireOrder_ends tx with rfl | ends
      · exact le_rfl
      · exact ended ends
  | reconcileCart userId now =>
      obtain rfl := Except.ok.inj tx
      obtain ⟨db₁, hsettle, -⟩ := h.inv.settle userId now
      unfold ColorfulLife.reconcileCart
      rw [hsettle]
      exact le_of_eq (by rw [settled hsettle])

/-- No order that is there holds more of any row later. -/
def Shrinks (db db' : Db) : Prop :=
  db.orders.nextId ≤ db'.orders.nextId ∧
    ∀ o, o < db.orders.nextId → ∀ u l, visibleIn u l o db' ≤ visibleIn u l o db

theorem Represents.shrinks (h : Represents db s) (op : CartOp) :
    Shrinks db (cartStep digest db op) := by
  refine ⟨h.nextId_le op, fun o old u l => ?_⟩
  have unclaimed : ∀ userId lines, .claim userId o lines ∉ op.answer digest db :=
    fun userId lines mem => absurd (claim_mem_answer mem) (Nat.ne_of_lt old)
  have le := owned_run_le (s := s) unclaimed u l
  have before := (h.countedBy u l).2 o
  have after := ((h.step digest op).countedBy u l).2 o
  omega

end Gain

/-! ### Creations that are refused -/

section Refused

variable {db : Db} {s : UnitCart} {digest : CanonicalRequest → String} {userId l : Nat}
  {input : CreateOrderInput} {key : Option String} {now : Time}

theorem reserveLines_error {items : List OrderItem} {t : Table ProductListing} {e : DomainError}
    (h : items.foldlM reserveLine t = .error e) : ∃ id n, e = .insufficientAvailableStock id n := by
  induction items generalizing t with
  | nil => cases h
  | cons item items ih =>
      rw [List.foldlM_cons, bind_eq_error] at h
      rcases h with first | ⟨t', -, rest⟩
      · unfold reserveLine at first
        rw [orThrow_eq_error] at first
        exact ⟨_, _, first.2.symm⟩
      · exact ih rest

/-- Of the checks of a placement only the plan refuses cart quantity. -/
theorem placeOrder_refused
    (h : placeOrder digest userId input key now db = .error (.cartQuantityAllocated l)) :
    ∃ cartId cart, findCart userId db = some (cartId, cart) ∧
      planAllocations cartId db input.items = .error (.cartQuantityAllocated l) := by
  simp only [placeOrder, bind_eq_error, orReject_eq_error, pure_ne_error, and_false, exists_false,
    or_false] at h
  rcases h with billing | ⟨_, -, ⟨_, -, other⟩ | ⟨-, -, ⟨e, refused, other⟩ | ⟨-, -, planned | ⟨_, -,
    reserved | ⟨_, -, allocated⟩⟩⟩⟩⟩
  · unfold billingAddress at billing
    split at billing <;> simp at billing
  · cases other
  · obtain ⟨entry, -, refusal⟩ := List.exists_of_findSome?_eq_some refused
    unfold ProductListing.refusal at refusal
    split at refusal
    · obtain rfl := Option.some.inj refusal
      cases other
    · split at refusal
      · obtain rfl := Option.some.inj refusal
        cases other
      · cases refusal
  · unfold prepareOrderCartAllocation at planned
    cases hcart : findCart userId db with
    | none => simp [hcart] at planned
    | some e =>
        simp only [hcart, bind_eq_error, pure_ne_error, and_false, exists_false, or_false] at planned
        exact ⟨e.1, e.2, rfl, planned⟩
  · obtain ⟨_, _, other⟩ := reserveLines_error reserved
    cases other
  · unfold allocateOrderCart at allocated
    split at allocated
    · cases allocated
    · simp only [bind_eq_error, orThrow_eq_error, pure_ne_error, and_false, exists_false,
        or_false] at allocated
      cases allocated.2

/-- A creation is refused so after its settlement, and not as a replay. -/
theorem createOrder_refused (h : ProvenanceInv db)
    (refused : createOrder digest userId input key now db = .error (.cartQuantityAllocated l)) :
    ∃ settled cartId cart, settleCartReconciliation userId now db = .ok settled ∧
      findCart userId settled = some (cartId, cart) ∧
      planAllocations cartId settled input.items = .error (.cartQuantityAllocated l) := by
  obtain ⟨settled, hsettle, -⟩ := h.settle userId now
  simp only [createOrder, createOrderTransaction, bind_eq_error, ensure_eq_error,
    orReject_eq_error] at refused
  rcases refused with ⟨-, other⟩ | ⟨-, -, ⟨_, -, other⟩ | ⟨-, -, user | ⟨-, -, replay |
    ⟨replay, hreplay, placed⟩⟩⟩⟩
  · cases other
  · cases other
  · simp [verifiedUser] at user
  · cases replayedOrder_error replay
  · cases replay with
    | some id => cases placed
    | none =>
        simp only [bind_eq_error, hsettle, reduceCtorEq, Except.ok.injEq, false_or] at placed
        obtain ⟨_, rfl, hplace⟩ := placed
        obtain ⟨cartId, cart, hcart, hplan⟩ := placeOrder_refused hplace
        exact ⟨_, cartId, cart, hsettle, hcart, hplan⟩

/-- The pool of the refused line has too few free units. -/
theorem Represents.refused (h : Represents db s)
    (refused : ColorfulLife.createOrder digest userId input key now db =
      .error (.cartQuantityAllocated l)) :
    ∃ line ∈ input.items, line.productListingId = l ∧
      (((run unitStep s (settlements userId db)).units userId l).free : Int) < line.quantity := by
  obtain ⟨settled, cartId, cart, hsettle, hcart, hplan⟩ := createOrder_refused h.inv refused
  have before := h.settle hsettle
  obtain ⟨placed, rfl⟩ := findCart_eq_some hcart
  obtain ⟨line, hline, k, row, hfind, short, same⟩ := planAllocations_error hplan
  obtain rfl := DomainError.cartQuantityAllocated.inj same
  have free := (before.counts _ _).free before.inv (saved_of_found placed hfind)
  rw [before.inv.allocatedQuantity_eq] at short
  exact ⟨line, hline, rfl, by omega⟩

/-- A creation that places an order finds enough free units. -/
theorem Represents.admitted (h : Represents db s) {db' : Db} {orderId : Nat}
    (new : replayedOrder digest userId input key db = .ok none)
    (tx : ColorfulLife.createOrder digest userId input key now db = .ok (db', orderId)) :
    (run unitStep s (settlements userId db)).admits userId (unitLines input) = true := by
  rcases createOrder_cases tx with ⟨-, replayed⟩ | ⟨settled, -, hsettle, hdup, hplace⟩
  · cases new.symm.trans replayed
  · have before := h.settle hsettle
    exact before.admits (before.placeOrder (firstDuplicate_eq_none hdup).1 hplace).enough

end Refused

/-! ### The refinement -/

/-- After every run the code's pair is the counts of the unit cart, an order is
placed only on enough free units and refused for cart quantity only on too few,
and what an order holds of a row never grows: the units that its confirmation
takes were there when it was created. -/
theorem cart_refines_units (digest : CanonicalRequest → String) {db : Db} (start : CartStart db)
    (ops : List CartOp) :
    (UnitCart.follow digest db ops).CountedBy (run (cartStep digest) db ops) ∧
      (∀ userId input key now,
        (∀ placed, createOrder digest userId input key now (run (cartStep digest) db ops) =
            .ok placed →
          replayedOrder digest userId input key (run (cartStep digest) db ops) = .ok none →
          (run unitStep (UnitCart.follow digest db ops)
            (settlements userId (run (cartStep digest) db ops))).admits userId
              (unitLines input) = true) ∧
        ∀ l, createOrder digest userId input key now (run (cartStep digest) db ops) =
            .error (.cartQuantityAllocated l) →
          ∃ line ∈ input.items, line.productListingId = l ∧
            (((run unitStep (UnitCart.follow digest db ops)
              (settlements userId (run (cartStep digest) db ops))).units userId l).free : Int) <
                line.quantity) ∧
      ∀ later, Shrinks (run (cartStep digest) db ops) (run (cartStep digest) db (ops ++ later)) := by
  have represents := represents_follow digest start ops
  refine ⟨represents.countedBy, fun userId input key now => ⟨?_, fun l => represents.refused⟩,
    fun later => ?_⟩
  · rintro ⟨db', orderId⟩ tx new
    exact represents.admitted new tx
  · rw [run_append]
    refine run_rel (I := fun db => ∃ s, Represents db s) (fun db => ⟨le_rfl, fun _ _ _ _ => le_rfl⟩)
      ?_ ?_ ?_ ⟨_, represents⟩ later
    · rintro db₁ db₂ db₃ ⟨grows, first⟩ ⟨grows', second⟩
      refine ⟨grows.trans grows', fun o old u l => ?_⟩
      exact (second o (lt_of_lt_of_le old grows) u l).trans (first o old u l)
    · rintro db op ⟨s, h⟩
      exact ⟨_, h.step digest op⟩
    · rintro db op ⟨s, h⟩
      exact h.shrinks op

theorem cart_refines_units_sample :
    (UnitCart.follow (fun _ => "") sampleCart sampleShopping).CountedBy
        (run (cartStep fun _ => "") sampleCart sampleShopping) ∧
      (∀ userId input key now,
        (∀ placed, createOrder (fun _ => "") userId input key now
            (run (cartStep fun _ => "") sampleCart sampleShopping) = .ok placed →
          replayedOrder (fun _ => "") userId input key
            (run (cartStep fun _ => "") sampleCart sampleShopping) = .ok none →
          (run unitStep (UnitCart.follow (fun _ => "") sampleCart sampleShopping)
            (settlements userId (run (cartStep fun _ => "") sampleCart sampleShopping))).admits
              userId (unitLines input) = true) ∧
        ∀ l, createOrder (fun _ => "") userId input key now
            (run (cartStep fun _ => "") sampleCart sampleShopping) =
              .error (.cartQuantityAllocated l) →
          ∃ line ∈ input.items, line.productListingId = l ∧
            (((run unitStep (UnitCart.follow (fun _ => "") sampleCart sampleShopping)
              (settlements userId
                (run (cartStep fun _ => "") sampleCart sampleShopping))).units userId l).free
                  : Int) < line.quantity) ∧
      ∀ later, Shrinks (run (cartStep fun _ => "") sampleCart sampleShopping)
        (run (cartStep fun _ => "") sampleCart (sampleShopping ++ later)) :=
  cart_refines_units (fun _ => "") sampleCart_start sampleShopping

end ColorfulLife
