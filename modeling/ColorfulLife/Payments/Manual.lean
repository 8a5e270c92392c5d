/-
Manual payments (`domain/payments/paymentService.ts`).
-/

import ColorfulLife.Orders.Lifecycle
import ColorfulLife.Payments.Rows

namespace ColorfulLife

open Relational

/-- The payment with this reference of this provider. -/
def findByReference (provider : PaymentProvider) (reference : ProviderReference)
    (payments : Table Payment) : Option (Nat × Payment) :=
  payments.find? fun _ p => decide (p.provider = provider ∧ p.providerReference = reference)

/-- `payment.findUnique({ where: { orderId } })`. -/
def findByOrder (orderId : Nat) (payments : Table Payment) : Option (Nat × Payment) :=
  payments.find? fun _ p => decide (p.orderId = orderId)

def manualPayment (orderId : Nat) (amount : Pence) (reference : ProviderReference) (now : Time) :
    Payment where
  orderId := orderId
  amount := amount
  currency := "GBP"
  provider := .manual
  providerReference := reference
  idempotencyKey := none
  providerCaptureReference := none
  captureIdempotencyKey := none
  status := .succeeded
  paidAt := some now
  refundedAmount := 0
  reservedRefundAmount := 0

/-- The transaction, under the order's row lock. Replay detection precedes the
deadline check. -/
def createPaymentTransaction (orderId : Nat) (reference : ProviderReference) (now : Time)
    (db : Db) : Result (Db × Nat) := do
  let order ← orThrow (db.orders.get? orderId) (DomainError.paymentNotFound orderId)
  ensure (0 < order.totalAmount) DomainError.orderTotalNotPositive
  match findByReference .manual reference db.payments with
  | some (id, existing) => do
      ensure (existing.orderId = orderId) (DomainError.paymentConflict orderId existing.orderId)
      return (db, id)
  | none => do
      ensure (order.status ≠ .expired) (DomainError.paymentExpired orderId)
      ensure (order.isElapsed now = false) (DomainError.paymentExpired orderId)
      let payments ← createRow Payment.clash (manualPayment orderId order.totalAmount reference now)
        db.payments
      return ({ db with payments := payments }, db.payments.nextId)

/-- What a broken unique index turns into. -/
def manualConflict (orderId : Nat) (reference : ProviderReference) (db : Db) : Result (Db × Nat) :=
  match findByReference .manual reference db.payments with
  | some (id, conflict) =>
      if conflict.orderId = orderId then .ok (db, id)
      else .error (.paymentConflict orderId conflict.orderId)
  | none =>
      match findByOrder orderId db.payments with
      | some _ => .error (.paymentAlreadySucceeded orderId)
      | none => .error .uniqueViolation

def createPayment (orderId : Nat) (reference : ProviderReference) (now : Time) (db : Db) :
    Result (Db × Nat) :=
  match createPaymentTransaction orderId reference now db with
  | .error .uniqueViolation => manualConflict orderId reference db
  | result => result

section Inversion

variable {db db' : Db} {orderId id : Nat} {reference : ProviderReference} {now : Time}

/-- A manual payment is a replay, or a new row for an order that is neither
expired nor past its deadline. -/
theorem createPaymentTransaction_ok
    (h : createPaymentTransaction orderId reference now db = .ok (db', id)) :
    db' = db ∨ ∃ order, db.orders.get? orderId = some order ∧ order.status ≠ .expired ∧
      order.isElapsed now = false ∧
      db.payments.clashes Payment.clash db.payments.nextId
        (manualPayment orderId order.totalAmount reference now) = false ∧
      db' = { db with
        payments := db.payments.insert (manualPayment orderId order.totalAmount reference now) } := by
  simp only [createPaymentTransaction, bind_eq_ok, orThrow_eq_ok, ensure_eq_ok] at h
  obtain ⟨order, horder, -, -, h⟩ := h
  cases hfind : findByReference .manual reference db.payments with
  | some e =>
      rw [hfind] at h
      simp only [bind_eq_ok, ensure_eq_ok, pure_eq_ok, Prod.mk.injEq] at h
      obtain ⟨-, -, rfl, -⟩ := h
      exact Or.inl rfl
  | none =>
      rw [hfind] at h
      simp only [bind_eq_ok, ensure_eq_ok, pure_eq_ok, createRow_eq_ok, Prod.mk.injEq] at h
      obtain ⟨-, hstatus, -, helapsed, _, ⟨free, rfl⟩, rfl, -⟩ := h
      exact Or.inr ⟨order, horder, hstatus, helapsed, free, rfl⟩

theorem createPayment_ok (h : createPayment orderId reference now db = .ok (db', id)) :
    db' = db ∨ createPaymentTransaction orderId reference now db = .ok (db', id) := by
  unfold createPayment at h
  split at h
  · unfold manualConflict at h
    split at h
    · split at h
      · exact Or.inl (Prod.mk.inj (Except.ok.inj h)).1.symm
      · cases h
    · split at h <;> cases h
  · exact Or.inr h

end Inversion

end ColorfulLife
