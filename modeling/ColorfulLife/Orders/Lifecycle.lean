/-
Order transitions after creation: confirmation, cancellation, expiry, dispatch
and completion (`domain/orders/order*Service.ts`). Each definition is the body
of one transaction, run under the order's row lock.

The inversion lemma of a transition (`confirmOrderInTransaction_eq_ok`, ...)
says everything a successful run of it checked and did.
-/

import ColorfulLife.Cart.Provenance
import ColorfulLife.Inventory.Stock

namespace ColorfulLife

open Relational

/-- An update of one order row. -/
def Db.updateOrder (db : Db) (orderId : Nat) (f : Order → Order) : Db :=
  { db with orders := db.orders.update orderId f }

/-! ### Confirmation -/

def Order.confirm (order : Order) : Order :=
  { order with status := .confirmed, reservationExpiresAt := none }

/-- Shared by the admin's confirmation and the payment reconciliations. -/
def confirmOrderInTransaction (performedByUserId orderId : Nat) (db : Db) : Result Db := do
  let order ← orThrow (db.orders.get? orderId) (DomainError.orderNotFound orderId)
  ensure (order.status = .pending) (DomainError.orderNotConfirmable orderId order.status)
  let stock ← (sortItems (db.itemsOf orderId)).foldlM
    (convertReservation performedByUserId orderId) db.stock
  return queueCartReconciliation orderId true
    ((db.withStock stock).updateOrder orderId Order.confirm)

/-! ### Cancellation -/

/-- `status: { in: cancellableStatuses }`. -/
def OrderStatus.isCancellable : OrderStatus → Bool
  | .pending | .confirmed => true
  | _ => false

def Order.cancel (cancelledBy : CancellationInitiator) (reason : CancellationReason) (now : Time)
    (order : Order) : Order :=
  { order with
    status := .cancelled
    cancelledAt := some now
    cancelledBy := some cancelledBy
    cancellationReason := some reason
    reservationExpiresAt := if order.status = .pending then none else order.reservationExpiresAt }

/-- The order a cancellation is for. The customer's names the `owner` the order
must have; the admin's does not. -/
def findCancelled (owner : Option Nat) (orderId : Nat) (db : Db) : Option Order :=
  (db.orders.get? orderId).filter fun o => owner.all fun userId => decide (o.userId = userId)

/-- Both cancellations. -/
def cancelWith (owner : Option Nat) (cancelledBy : CancellationInitiator)
    (performedByUserId orderId : Nat) (reason : CancellationReason) (now : Time) (db : Db) :
    Result Db := do
  let order ← orThrow (findCancelled owner orderId db) (DomainError.orderNotFoundOrNotOwned orderId)
  ensure (order.status.isCancellable = true ∧ order.cancelledAt = none)
    (DomainError.orderNotCancellable orderId order.status)
  let cancelled := db.updateOrder orderId (Order.cancel cancelledBy reason now)
  let items := sortItems (db.itemsOf orderId)
  if order.status = .pending then
    let listings ← items.foldlM releaseReservation db.listings
    return queueCartReconciliation orderId false { cancelled with listings := listings }
  else
    let stock ← items.foldlM (restockCancelled performedByUserId orderId) db.stock
    return cancelled.withStock stock

def cancelOrder (userId orderId : Nat) (reason : CancellationReason) (now : Time) (db : Db) :
    Result Db :=
  cancelWith (some userId) .customer userId orderId reason now db

def cancelOrderByAdmin (orderId : Nat) (reason : CancellationReason) (adminUserId : Nat)
    (now : Time) (db : Db) : Result Db :=
  cancelWith none .seller adminUserId orderId reason now db

/-! ### Expiry -/

/-- `payments: { some: { status: SUCCEEDED } }`. -/
def hasSucceededPayment (orderId : Nat) (db : Db) : Bool :=
  (db.payments.find? fun _ payment =>
    decide (payment.orderId = orderId ∧ payment.status = .succeeded)).isSome

/-- `reservationExpiresAt: { not: null, lte: asOf }`. -/
def Order.isElapsed (order : Order) (asOf : Time) : Bool :=
  order.reservationExpiresAt.any fun deadline => decide (deadline ≤ asOf)

/-- The condition of the expiry claim. -/
def Order.isExpirable (order : Order) (orderId : Nat) (asOf : Time) (db : Db) : Prop :=
  order.status = .pending ∧ order.isElapsed asOf = true ∧ hasSucceededPayment orderId db = false

instance (order : Order) (orderId : Nat) (asOf : Time) (db : Db) :
    Decidable (order.isExpirable orderId asOf db) := by
  unfold Order.isExpirable; infer_instance

def Order.expire (order : Order) : Order :=
  { order with status := .expired, reservationExpiresAt := none }

/-- Expire one unpaid pending order and release its reservation; an order the
claim does not match is left alone. -/
def expireOrderReservation (orderId : Nat) (asOf : Time) (db : Db) : Result Db :=
  match db.orders.get? orderId with
  | none => .ok db
  | some order =>
      if order.isExpirable orderId asOf db then do
        let listings ← (sortItems (db.itemsOf orderId)).foldlM releaseReservation db.listings
        return queueCartReconciliation orderId false
          ({ db with listings := listings }.updateOrder orderId Order.expire)
      else .ok db

/-! ### Dispatch and completion -/

def Order.dispatch (actualShippingCost : Pence) (shippingCarrier : String)
    (trackingNumber : Option String) (now : Time) (order : Order) : Order :=
  { order with
    status := .dispatched
    actualShippingCost := some actualShippingCost
    shippingCarrier := some shippingCarrier
    trackingNumber := if trackingNumber.isSome then trackingNumber else order.trackingNumber
    dispatchedAt := some now }

def dispatchOrder (orderId : Nat) (actualShippingCost : Pence) (shippingCarrier : String)
    (trackingNumber : Option String) (now : Time) (db : Db) : Result Db := do
  let order ← orThrow (db.orders.get? orderId) (DomainError.orderNotFound orderId)
  ensure (order.status = .confirmed) (DomainError.orderNotDispatchable orderId order.status)
  return db.updateOrder orderId
    (Order.dispatch actualShippingCost shippingCarrier trackingNumber now)

def Order.complete (now : Time) (order : Order) : Order :=
  { order with status := .completed, completedAt := some now }

def completeOrder (orderId : Nat) (now : Time) (db : Db) : Result Db := do
  let order ← orThrow (db.orders.get? orderId) (DomainError.orderNotFound orderId)
  ensure (order.status = .dispatched) (DomainError.orderNotCompletable orderId order.status)
  return db.updateOrder orderId (Order.complete now)

/-! ### Inversion -/

section Inversion

variable {db db' : Db} {orderId : Nat}

/-- A customer finds their own orders only, an administrator any. -/
theorem findCancelled_eq_some {owner : Option Nat} {order : Order} :
    findCancelled owner orderId db = some order ↔
      db.orders.get? orderId = some order ∧ ∀ userId, owner = some userId → order.userId = userId := by
  rw [findCancelled, Option.filter_eq_some_iff]
  cases owner <;> simp

/-- A confirmation takes a pending order, turns its reservations into sales and queues its
cart. -/
theorem confirmOrderInTransaction_eq_ok {performedByUserId : Nat} :
    confirmOrderInTransaction performedByUserId orderId db = .ok db' ↔
      ∃ order stock, db.orders.get? orderId = some order ∧ order.status = .pending ∧
        (sortItems (db.itemsOf orderId)).foldlM (convertReservation performedByUserId orderId)
          db.stock = .ok stock ∧
        db' = queueCartReconciliation orderId true
          ((db.withStock stock).updateOrder orderId Order.confirm) := by
  simp only [confirmOrderInTransaction, bind_eq_ok, orThrow_eq_ok, ensure_eq_ok, pure_eq_ok]
  constructor
  · rintro ⟨order, hget, -, hstatus, stock, hloop, rfl⟩
    exact ⟨order, stock, hget, hstatus, hloop, rfl⟩
  · rintro ⟨order, stock, hget, hstatus, hloop, rfl⟩
    exact ⟨order, hget, ⟨⟩, hstatus, stock, hloop, rfl⟩

/-- A cancellation releases what a pending order reserved, and restocks what a confirmed one
sold. -/
theorem cancelWith_eq_ok {owner : Option Nat} {cancelledBy : CancellationInitiator}
    {performedByUserId : Nat} {reason : CancellationReason} {now : Time} :
    cancelWith owner cancelledBy performedByUserId orderId reason now db = .ok db' ↔
      ∃ order, findCancelled owner orderId db = some order ∧ order.cancelledAt = none ∧
        ((order.status = .pending ∧ ∃ listings,
            (sortItems (db.itemsOf orderId)).foldlM releaseReservation db.listings =
              .ok listings ∧
            db' = queueCartReconciliation orderId false
              { db.updateOrder orderId (Order.cancel cancelledBy reason now) with
                listings := listings }) ∨
          (order.status = .confirmed ∧ ∃ stock,
            (sortItems (db.itemsOf orderId)).foldlM (restockCancelled performedByUserId orderId)
              db.stock = .ok stock ∧
            db' = (db.updateOrder orderId (Order.cancel cancelledBy reason now)).withStock
              stock)) := by
  simp only [cancelWith, bind_eq_ok, orThrow_eq_ok, ensure_eq_ok]
  constructor
  · rintro ⟨order, hget, -, ⟨hstatus, hnone⟩, hrest⟩
    refine ⟨order, hget, hnone, ?_⟩
    split at hrest
    · simp only [bind_eq_ok, pure_eq_ok] at hrest
      obtain ⟨listings, hloop, rfl⟩ := hrest
      exact Or.inl ⟨‹_›, listings, hloop, rfl⟩
    · simp only [bind_eq_ok, pure_eq_ok] at hrest
      obtain ⟨stock, hloop, rfl⟩ := hrest
      refine Or.inr ⟨?_, stock, hloop, rfl⟩
      cases hs : order.status <;> simp_all [OrderStatus.isCancellable]
  · rintro ⟨order, hget, hnone, ⟨hstatus, listings, hloop, rfl⟩ | ⟨hstatus, stock, hloop, rfl⟩⟩
    · refine ⟨order, hget, ⟨⟩, ⟨by rw [hstatus]; rfl, hnone⟩, ?_⟩
      simp [hstatus, hloop]
    · refine ⟨order, hget, ⟨⟩, ⟨by rw [hstatus]; rfl, hnone⟩, ?_⟩
      simp [hstatus, hloop]

/-- An expiry that claims its order. -/
def Expired (orderId : Nat) (asOf : Time) (db db' : Db) : Prop :=
  ∃ order listings, db.orders.get? orderId = some order ∧ order.isExpirable orderId asOf db ∧
    (sortItems (db.itemsOf orderId)).foldlM releaseReservation db.listings = .ok listings ∧
    db' = queueCartReconciliation orderId false
      ({ db with listings := listings }.updateOrder orderId Order.expire)

/-- An order that is not due, or no longer pending, is left alone. -/
theorem expireOrderReservation_cases {asOf : Time}
    (h : expireOrderReservation orderId asOf db = .ok db') :
    db' = db ∨ Expired orderId asOf db db' := by
  unfold expireOrderReservation at h
  cases hget : db.orders.get? orderId with
  | none => simp_all
  | some order =>
      simp only [hget] at h
      split at h
      · simp only [bind_eq_ok, pure_eq_ok] at h
        obtain ⟨listings, hloop, rfl⟩ := h
        exact Or.inr ⟨order, listings, hget, ‹_›, hloop, rfl⟩
      · exact Or.inl (Except.ok.inj h).symm

/-- Only a confirmed order is dispatched. -/
theorem dispatchOrder_eq_ok {cost : Pence} {carrier : String} {tracking : Option String}
    {now : Time} :
    dispatchOrder orderId cost carrier tracking now db = .ok db' ↔
      ∃ order, db.orders.get? orderId = some order ∧ order.status = .confirmed ∧
        db' = db.updateOrder orderId (Order.dispatch cost carrier tracking now) := by
  simp only [dispatchOrder, bind_eq_ok, orThrow_eq_ok, ensure_eq_ok, pure_eq_ok]
  constructor
  · rintro ⟨order, hget, -, hstatus, rfl⟩
    exact ⟨order, hget, hstatus, rfl⟩
  · rintro ⟨order, hget, hstatus, rfl⟩
    exact ⟨order, hget, ⟨⟩, hstatus, rfl⟩

/-- Only a dispatched order is completed. -/
theorem completeOrder_eq_ok {now : Time} :
    completeOrder orderId now db = .ok db' ↔
      ∃ order, db.orders.get? orderId = some order ∧ order.status = .dispatched ∧
        db' = db.updateOrder orderId (Order.complete now) := by
  simp only [completeOrder, bind_eq_ok, orThrow_eq_ok, ensure_eq_ok, pure_eq_ok]
  constructor
  · rintro ⟨order, hget, -, hstatus, rfl⟩
    exact ⟨order, hget, hstatus, rfl⟩
  · rintro ⟨order, hget, hstatus, rfl⟩
    exact ⟨order, hget, ⟨⟩, hstatus, rfl⟩

end Inversion

end ColorfulLife
