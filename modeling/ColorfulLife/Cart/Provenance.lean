/-
Cart provenance (`domain/cart/cartProvenanceService.ts`): which part of a cart
row an order was created from, and what becomes of it when the order ends.

An order that was created from saved cart rows has one provenance row and one
allocation for each of them. While the provenance is active or queued, the
allocation's `visibleQuantity` is the part of the row the order still stands
for. `lockCustomerCart` is an advisory lock and has no effect on the state.
-/

import ColorfulLife.Relational.Transaction
import ColorfulLife.Schema.Database
import ColorfulLife.Schema.Errors

namespace ColorfulLife

open Relational

/-! ### Validated request lines -/

/-- A listing and a positive quantity: one line of an order, or one cart
request. The request schemas admit no other quantity. -/
structure RequestLine where
  productListingId : Nat
  quantity : Int
  positive : 0 < quantity
  deriving DecidableEq

/-! ### Reading carts -/

def findCart (userId : Nat) (db : Db) : Option (Nat × Cart) :=
  db.carts.find? fun _ cart => decide (cart.userId = userId)

def findCartItem (cartId productListingId : Nat) (db : Db) : Option (Nat × CartItem) :=
  db.cartItems.find? fun _ item =>
    decide (item.cartId = cartId ∧ item.productListingId = productListingId)

def Db.ownsCart (db : Db) (userId cartId : Nat) : Bool :=
  (db.carts.get? cartId).any fun cart => decide (cart.userId = userId)

/-- The states in which an allocation still holds cart quantity. -/
def CartReconciliationState.isAttached : CartReconciliationState → Bool
  | .active | .consumePending | .releasePending => true
  | .consumed | .released => false

/-- The states that wait for the reconciliation worker. -/
def CartReconciliationState.isPending : CartReconciliationState → Bool
  | .consumePending | .releasePending => true
  | .active | .consumed | .released => false

/-- The allocation's provenance is in an attached state. -/
def Db.isAttached (db : Db) (allocation : OrderCartAllocation) : Bool :=
  (db.cartProvenance.get? allocation.orderId).any fun provenance => provenance.state.isAttached

/-- The allocations that hold quantity of a cart row. -/
def Db.attachedTo (db : Db) (cartItemId : Nat) (allocation : OrderCartAllocation) : Bool :=
  decide (allocation.cartItemId = some cartItemId) && db.isAttached allocation

def allocatedQuantity (cartItemId : Nat) (db : Db) : Int :=
  db.cartAllocations.sum fun _ allocation =>
    if db.attachedTo cartItemId allocation then allocation.visibleQuantity else 0

/-! ### Reducing allocations -/

/-- `orderBy: [{ orderId: "asc" }, { id: "asc" }]`. -/
def allocationOrder (a b : Nat × OrderCartAllocation) : Prop :=
  a.2.orderId < b.2.orderId ∨ (a.2.orderId = b.2.orderId ∧ a.1 ≤ b.1)

instance : DecidableRel allocationOrder := fun a b => by
  unfold allocationOrder; infer_instance

/-- The loop of `reduceAllocations`: take `excess` off the visible quantities in
the given order. -/
def detach : List (Nat × OrderCartAllocation) → Int → Table OrderCartAllocation →
    Table OrderCartAllocation
  | [], _, table => table
  | (id, allocation) :: rest, excess, table =>
      let reduction := min excess allocation.visibleQuantity
      let table :=
        if reduction ≠ 0 then
          table.update id fun a => { a with visibleQuantity := a.visibleQuantity - reduction }
        else table
      detach rest (excess - reduction) table

/-- Caller holds the customer cart lock. Reductions discard new intent first. -/
def reduceAllocations (cartItemId : Nat) (target : Int) (db : Db) : Db :=
  let allocations :=
    (db.cartAllocations.select fun _ a => db.attachedTo cartItemId a).insertionSort allocationOrder
  let excess := max 0 ((allocations.map fun a => a.2.visibleQuantity).sum - target)
  { db with cartAllocations := detach allocations excess db.cartAllocations }

/-! ### Order creation -/

structure AllocationPlan where
  cartItemId : Nat
  productListingId : Nat
  quantity : Int
  visibleQuantity : Int
  deriving DecidableEq, Repr

/-- The loop of `prepareOrderCartAllocation` over the requested lines. -/
def planAllocations (cartId : Nat) (db : Db) : List RequestLine → Result (List AllocationPlan)
  | [] => .ok []
  | line :: rest =>
      match findCartItem cartId line.productListingId db with
      | none => planAllocations cartId db rest
      | some (savedId, saved) => do
          ensure (¬ saved.quantity - allocatedQuantity savedId db < line.quantity)
            (DomainError.cartQuantityAllocated line.productListingId)
          let plan ← planAllocations cartId db rest
          return ⟨savedId, line.productListingId, line.quantity, line.quantity⟩ :: plan

/-- Missing cart lines are direct-order lines. -/
def prepareOrderCartAllocation (userId : Nat) (items : List RequestLine) (db : Db) :
    Result (Option (Nat × List AllocationPlan)) :=
  match findCart userId db with
  | none => .ok none
  | some (cartId, _) => do
      let allocations ← planAllocations cartId db items
      return if allocations = [] then none else some (cartId, allocations)

def allocationOf (orderId : Nat) (plan : AllocationPlan) : OrderCartAllocation where
  orderId := orderId
  cartItemId := some plan.cartItemId
  productListingId := plan.productListingId
  quantity := plan.quantity
  visibleQuantity := plan.visibleQuantity

def allocateOrderCart (orderId : Nat) (plan : Option (Nat × List AllocationPlan)) (db : Db) :
    Result Db :=
  match plan with
  | none => .ok db
  | some (cartId, allocations) => do
      let provenance ← orThrow
        (db.cartProvenance.insertAt orderId
          { cartId, state := .active, completedAt := none, lastError := none })
        DomainError.uniqueViolation
      return { db with
        cartProvenance := provenance
        cartAllocations :=
          (allocations.map (allocationOf orderId)).foldl Table.insert db.cartAllocations }

/-! ### Ending orders -/

/-- The financial transaction records only a durable task; an order without an
active provenance is a no-op. -/
def queueCartReconciliation (orderId : Nat) (consume : Bool) (db : Db) : Db :=
  { db with
    cartProvenance := db.cartProvenance.updateMany
      (fun id provenance => decide (id = orderId ∧ provenance.state = .active))
      fun provenance =>
        { provenance with state := if consume then .consumePending else .releasePending } }

/-- Delete a cart row; the foreign keys that point at it are set to null. -/
def deleteCartItem (cartItemId : Nat) (db : Db) : Db :=
  { db with
    cartItems := db.cartItems.erase cartItemId
    cartAllocations := db.cartAllocations.updateMany
      (fun _ a => decide (a.cartItemId = some cartItemId)) fun a => { a with cartItemId := none } }

theorem get?_deleteCartItem (k : Nat) (db : Db) (j : Nat) :
    (deleteCartItem k db).cartItems.get? j = if j = k then none else db.cartItems.get? j :=
  Table.get?_erase db.cartItems k j

/-- The foreign key of an allocation is set to null. -/
theorem get?_deleteCartItem_allocations (k : Nat) (db : Db) (i : Nat) :
    (deleteCartItem k db).cartAllocations.get? i = (db.cartAllocations.get? i).map fun a =>
      if decide (a.cartItemId = some k) then { a with cartItemId := none } else a :=
  Table.get?_updateMany db.cartAllocations _ _ i

/-- Take one allocation of a confirmed order out of its cart row. -/
def consumeAllocation (cartId : Nat) (allocation : OrderCartAllocation) (db : Db) : Result Db :=
  match allocation.cartItemId with
  | none => .ok db
  | some rowId =>
      if allocation.visibleQuantity = 0 then .ok db
      else do
        let row ← orThrow
          ((db.cartItems.get? rowId).filter fun row =>
            decide (row.cartId = cartId ∧ row.productListingId = allocation.productListingId))
          DomainError.cartRowIdentityInconsistency
        ensure (¬ row.quantity < allocation.visibleQuantity) DomainError.cartQuantityInconsistency
        return if row.quantity = allocation.visibleQuantity then deleteCartItem rowId db
          else { db with
            cartItems := db.cartItems.update rowId fun r =>
              { r with quantity := r.quantity - allocation.visibleQuantity } }

/-- One task of a settlement, with the allocations that were read with it. -/
structure CartTask where
  orderId : Nat
  provenance : OrderCartProvenance
  allocations : List OrderCartAllocation
  deriving DecidableEq

/-- The pending tasks of a customer, oldest order first. -/
def pendingCartTasks (userId : Nat) (db : Db) : List CartTask :=
  let pending := db.cartProvenance.select fun _ p =>
    p.state.isPending && (db.carts.get? p.cartId).any fun cart => decide (cart.userId = userId)
  (pending.insertionSort fun a b => a.1 ≤ b.1).map fun p =>
    { orderId := p.1
      provenance := p.2
      allocations :=
        (db.cartAllocations.select fun _ a => decide (a.orderId = p.1)).map Prod.snd }

/-- A confirmed order takes its allocations out of the cart; a released one
leaves them there. -/
def consumeTask (db : Db) (task : CartTask) : Result Db :=
  if task.provenance.state = .consumePending then
    task.allocations.foldlM (fun db a => consumeAllocation task.provenance.cartId a db) db
  else .ok db

def settleTask (now : Time) (db : Db) (task : CartTask) : Result Db := do
  let db ← consumeTask db task
  return { db with
    cartAllocations := db.cartAllocations.updateMany
      (fun _ a => decide (a.orderId = task.orderId)) fun a => { a with visibleQuantity := 0 }
    cartProvenance := db.cartProvenance.update task.orderId fun p =>
      { p with
        state := if task.provenance.state = .consumePending then .consumed else .released
        completedAt := some now
        lastError := none } }

/-- Caller holds the customer cart lock. The tasks and their allocations are
read once, before the first of them is settled. -/
def settleCartReconciliation (userId : Nat) (now : Time) (db : Db) : Result Db :=
  (pendingCartTasks userId db).foldlM (settleTask now) db

/-! ### Pending tasks -/

section Pending

variable {userId orderId : Nat} {db : Db} {task : CartTask} {p : OrderCartProvenance}

/-- A task is a pending provenance of the user's cart. -/
theorem mem_pendingCartTasks (mem : task ∈ pendingCartTasks userId db) :
    db.cartProvenance.get? task.orderId = some task.provenance ∧
      task.provenance.state.isPending = true ∧
      db.ownsCart userId task.provenance.cartId = true := by
  obtain ⟨⟨o, p⟩, listed, rfl⟩ := List.mem_map.mp mem
  obtain ⟨found, own⟩ := Table.mem_select.mp ((List.mem_insertionSort _).mp listed)
  rw [Bool.and_eq_true] at own
  exact ⟨found, own⟩

theorem exists_pendingCartTask (found : db.cartProvenance.get? orderId = some p)
    (pending : p.state.isPending = true) (own : db.ownsCart userId p.cartId = true) :
    ∃ task ∈ pendingCartTasks userId db, task.orderId = orderId := by
  refine ⟨_, List.mem_map.mpr ⟨(orderId, p), (List.mem_insertionSort _).mpr
    (Table.mem_select.mpr ⟨found, ?_⟩), rfl⟩, rfl⟩
  exact Bool.and_eq_true_iff.mpr ⟨pending, own⟩

end Pending

/-! ### What a settled task takes -/

/-- One allocation is consumed: nothing, or the row that it names goes or shrinks. -/
theorem consumeAllocation_cases {cartId : Nat} {a : OrderCartAllocation} {db db' : Db}
    (h : consumeAllocation cartId a db = .ok db') :
    db' = db ∨ ∃ rowId row, a.cartItemId = some rowId ∧ db.cartItems.get? rowId = some row ∧
      row.cartId = cartId ∧ (db' = deleteCartItem rowId db ∨ db' = { db with
        cartItems := db.cartItems.update rowId fun r =>
          { r with quantity := r.quantity - a.visibleQuantity } }) := by
  unfold consumeAllocation at h
  cases hrow : a.cartItemId with
  | none =>
      simp only [hrow] at h
      exact Or.inl (Except.ok.inj h).symm
  | some rowId =>
      simp only [hrow] at h
      split at h
      · exact Or.inl (Except.ok.inj h).symm
      · simp only [bind_eq_ok, orThrow_eq_ok, Option.filter_eq_some_iff, pure_eq_ok] at h
        obtain ⟨row, ⟨found, own⟩, -, -, rfl⟩ := h
        refine Or.inr ⟨rowId, row, rfl, found, (of_decide_eq_true own).1, ?_⟩
        split
        · exact Or.inl rfl
        · exact Or.inr rfl

/-- What holds before a task and through each of its allocations holds after it. -/
theorem consumeTask_invariant {I : Db → Prop} {task : CartTask} {db db' : Db}
    (step : ∀ {s a s'}, I s → consumeAllocation task.provenance.cartId a s = .ok s' → I s')
    (start : I db) (h : consumeTask db task = .ok db') : I db' := by
  unfold consumeTask at h
  split at h
  · exact foldlM_invariant (fun _ _ _ hs taken => step hs taken) _ start h
  · exact Except.ok.inj h ▸ start

/-! ### What settlements leave alone -/

/-- Only the cart tables differ. -/
def CartFrame (db db' : Db) : Prop :=
  db' = { db with
    cartItems := db'.cartItems
    cartProvenance := db'.cartProvenance
    cartAllocations := db'.cartAllocations }

namespace CartFrame

variable {db db' db'' : Db}

theorem refl (db : Db) : CartFrame db db := rfl

/-- Nothing but the three cart tables may differ. -/
theorem fields (h : CartFrame db db') : ∃ cartItems cartProvenance cartAllocations,
    db' = { db with
      cartItems := cartItems
      cartProvenance := cartProvenance
      cartAllocations := cartAllocations } :=
  ⟨_, _, _, h⟩

theorem trans (h : CartFrame db db') (h' : CartFrame db' db'') : CartFrame db db'' := by
  unfold CartFrame at h h' ⊢
  rw [h] at h'
  exact h'

end CartFrame

theorem consumeAllocation_frame {cartId : Nat} {allocation : OrderCartAllocation} {db db' : Db}
    (h : consumeAllocation cartId allocation db = .ok db') : CartFrame db db' := by
  rcases consumeAllocation_cases h with rfl | ⟨rowId, row, -, -, -, rfl | rfl⟩
  · exact CartFrame.refl _
  · rfl
  · rfl

/-- A settlement writes cart tables only. -/
theorem settleTask_frame {now : Time} {db db' : Db} {task : CartTask}
    (h : settleTask now db task = .ok db') : CartFrame db db' := by
  obtain ⟨db₁, hconsume, hrest⟩ := bind_eq_ok.mp h
  obtain rfl := pure_eq_ok.mp hrest
  have first : CartFrame db db₁ :=
    consumeTask_invariant (fun hs hstep => hs.trans (consumeAllocation_frame hstep))
      (CartFrame.refl db) hconsume
  exact first.trans rfl

/-- A settlement touches the cart tables only. -/
theorem settleCartReconciliation_frame {userId : Nat} {now : Time} {db db' : Db}
    (h : settleCartReconciliation userId now db = .ok db') : CartFrame db db' :=
  foldlM_invariant (I := CartFrame db) (fun _ _ _ hs hstep => hs.trans (settleTask_frame hstep)) _
    (CartFrame.refl db) h

theorem allocateOrderCart_frame {orderId : Nat} {plan : Option (Nat × List AllocationPlan)}
    {db db' : Db} (h : allocateOrderCart orderId plan db = .ok db') : CartFrame db db' := by
  cases plan with
  | none => exact Except.ok.inj h ▸ CartFrame.refl db
  | some plan =>
      simp only [allocateOrderCart, bind_eq_ok, pure_eq_ok] at h
      obtain ⟨provenance, -, rfl⟩ := h
      rfl

/-! ### The worker's failure path -/

/-- What `reconcilePendingCarts` does when a customer's settlement fails. -/
def recordCartError (userId : Nat) (message : String) (db : Db) : Db :=
  { db with
    cartProvenance := db.cartProvenance.updateMany
      (fun _ p =>
        p.state.isPending &&
          (db.carts.get? p.cartId).any fun cart => decide (cart.userId = userId))
      fun p => { p with lastError := some message } }

end ColorfulLife
