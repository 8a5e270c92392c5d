/-
Manual refunds: `createRefund` (`domain/refunds/refundService.ts`) and the
handler that passes a refund request on to the service of the payment's provider
(`controllers/refunds.ts`).

`createRefund` reads without a lock and then claims the amount with one
conditional update, so other transactions may commit in between. Its reads, its
writes and its look at a broken unique index are three definitions.
-/

import ColorfulLife.Refunds.Provider

namespace ColorfulLife

open Relational

/-! ### Routing -/

/-- The body of a refund request that has passed its schema. -/
structure CreateRefundInput where
  paymentId : Nat
  amount : ℚ
  providerReference : Option String
  reason : Option String
  refundId : Option Nat
  deriving DecidableEq, Repr

/-- The arguments of `createRefund`. -/
structure ManualRefundInput where
  orderId : Nat
  paymentId : Nat
  amount : ℚ
  providerReference : String
  reason : Option String
  performedByUserId : Nat
  deriving DecidableEq, Repr

/-- The service that a request ends up with. -/
inductive RefundRoute where
  | provider (provider : PaymentProvider) (input : RefundInput)
  | manual (input : ManualRefundInput)
  deriving DecidableEq, Repr

/-- The handler, for an administrator and a well-formed order id. It looks at
the payment before any service starts its transaction. -/
def createRefundHandler (orderId userId : Nat) (body : CreateRefundInput) (db : Db) :
    Result RefundRoute := do
  let payment ← orThrow
    ((db.payments.get? body.paymentId).filter fun p => decide (p.orderId = orderId))
    (DomainError.refundRequest 404 "Payment not found for order")
  match payment.provider with
  | .manual => do
      ensure (body.refundId = none)
        (DomainError.refundRequest 400 "refundId is only valid for PayPal refunds")
      let providerReference ← orThrow body.providerReference
        (DomainError.refundRequest 400 "Refund provider reference cannot be empty")
      return .manual
        ⟨orderId, body.paymentId, body.amount, providerReference, body.reason, userId⟩
  | provider => do
      ensure (body.providerReference = none)
        (DomainError.refundRequest 400 "providerReference is only valid for manual refunds")
      return .provider provider
        ⟨orderId, body.paymentId, body.amount, body.reason, userId, body.refundId⟩

/-! ### The service -/

/-- A call of `createRefund` between its reads and its writes. -/
structure ManualRefundCall where
  orderId : Nat
  paymentId : Nat
  amount : Pence
  normalizedReference : String
  normalizedReason : Option String
  performedByUserId : Nat
  payment : Payment
  deriving DecidableEq, Repr

/-- What the reads lead to: the refund that has the reference already, or a
claim on the payment. -/
inductive RefundReading where
  | existing (refundId : Nat) (refund : Refund)
  | claim (call : ManualRefundCall)
  deriving DecidableEq, Repr

/-- `refund.findUnique` by the reference of a manual refund. -/
def findManualRefund (reference : String) (refunds : Table Refund) : Option (Nat × Refund) :=
  refunds.find? fun _ r =>
    decide (r.provider = .manual ∧ r.providerReference = .ofText reference)

/-- The checks on the arguments and the reads of the transaction. -/
def createRefundReads (input : ManualRefundInput) (db : Db) : Result RefundReading := do
  let amount ← orThrow (penceOf input.amount) DomainError.refundInvalidAmount
  let normalizedReference := trim input.providerReference
  ensure (normalizedReference ≠ "") DomainError.refundInvalidProviderReference
  let normalizedReason := input.reason.map trim
  ensure (normalizedReason ≠ some "") DomainError.refundInvalidReason
  let _ ← orThrow (db.orders.get? input.orderId) (DomainError.refundOrderNotFound input.orderId)
  let payment ← orThrow
    ((db.payments.get? input.paymentId).filter fun p => decide (p.orderId = input.orderId))
    (DomainError.refundPaymentNotFound input.paymentId input.orderId)
  ensure (payment.status = .succeeded) (DomainError.refundPaymentNotRefundable input.paymentId)
  match findManualRefund normalizedReference db.refunds with
  | some (id, existing) => do
      ensure (existing.paymentId = input.paymentId ∧ existing.amount = amount)
        (DomainError.refundProviderReferenceConflict normalizedReference)
      return .existing id existing
  | none =>
      return .claim
        { orderId := input.orderId
          paymentId := input.paymentId
          amount := amount
          normalizedReference := normalizedReference
          normalizedReason := normalizedReason
          performedByUserId := input.performedByUserId
          payment := payment }

def Payment.refund (amount : Pence) (payment : Payment) : Payment :=
  { payment with refundedAmount := payment.refundedAmount + amount }

/-- The condition of the claiming update: the amount it was computed from is the
one that was read. -/
def ManualRefundCall.claims (call : ManualRefundCall) (payment : Payment) : Bool :=
  decide (payment.orderId = call.orderId ∧ payment.status = .succeeded ∧
    payment.refundedAmount ≤ call.payment.amount - call.amount)

def ManualRefundCall.newRefund (call : ManualRefundCall) : Refund where
  orderId := call.orderId
  paymentId := call.paymentId
  amount := call.amount
  currency := call.payment.currency
  status := .succeeded
  provider := .manual
  providerReference := .ofText call.normalizedReference
  refundIdempotencyKey := none
  reason := call.normalizedReason
  performedByUserId := call.performedByUserId

/-- The claim and the new row. -/
def createRefundWrites (call : ManualRefundCall) (db : Db) : Result (Db × Nat) := do
  let payments ← orThrow
    (db.payments.updateIf call.paymentId call.claims (Payment.refund call.amount))
    (DomainError.refundAmountExceeded call.paymentId)
  let refunds ← createRow Refund.clash call.newRefund db.refunds
  return ({ db with payments := payments, refunds := refunds }, db.refunds.nextId)

/-- What a broken unique index turns into, once the transaction is rolled back. -/
def createRefundConflict (call : ManualRefundCall) (db : Db) : Result Nat :=
  match findManualRefund call.normalizedReference db.refunds with
  | some (id, existing) =>
      if existing.orderId = call.orderId ∧ existing.paymentId = call.paymentId ∧
          existing.amount = call.amount then .ok id
      else .error (.refundProviderReferenceConflict call.normalizedReference)
  | none => .error .uniqueViolation

/-! ### Inversion -/

section Inversion

variable {db db' : Db}

/-- Only requests for manual payments reach `createRefund`. -/
theorem createRefundHandler_manual {orderId userId : Nat} {body : CreateRefundInput}
    {input : ManualRefundInput}
    (h : createRefundHandler orderId userId body db = .ok (.manual input)) :
    ∃ payment, db.payments.get? input.paymentId = some payment ∧ payment.provider = .manual ∧
      payment.orderId = input.orderId := by
  simp only [createRefundHandler, bind_eq_ok, orThrow_eq_ok] at h
  obtain ⟨payment, found, h⟩ := h
  obtain ⟨hget, own⟩ := Option.filter_eq_some_iff.mp found
  cases hprovider : payment.provider with
  | manual =>
      simp only [hprovider, bind_eq_ok, ensure_eq_ok, orThrow_eq_ok, pure_eq_ok,
        RefundRoute.manual.injEq] at h
      obtain ⟨-, -, -, -, rfl⟩ := h
      exact ⟨payment, hget, hprovider, of_decide_eq_true own⟩
  | stripe =>
      simp only [hprovider, bind_eq_ok, pure_eq_ok] at h
      obtain ⟨-, -, h⟩ := h
      cases h
  | paypal =>
      simp only [hprovider, bind_eq_ok, pure_eq_ok] at h
      obtain ⟨-, -, h⟩ := h
      cases h

/-- A claim carries its payment as it was read. -/
theorem createRefundReads_claim {input : ManualRefundInput} {call : ManualRefundCall}
    (h : createRefundReads input db = .ok (.claim call)) :
    call.paymentId = input.paymentId ∧ 0 < call.amount ∧
      db.payments.get? call.paymentId = some call.payment ∧
      call.payment.orderId = call.orderId ∧ call.payment.status = .succeeded := by
  simp only [createRefundReads, bind_eq_ok, orThrow_eq_ok, ensure_eq_ok] at h
  obtain ⟨amount, hamount, -, -, -, -, -, -, payment, found, -, status, h⟩ := h
  obtain ⟨hget, own⟩ := Option.filter_eq_some_iff.mp found
  cases hfind : findManualRefund (trim input.providerReference) db.refunds with
  | some e =>
      rw [hfind] at h
      simp only [bind_eq_ok, pure_eq_ok] at h
      obtain ⟨-, -, h⟩ := h
      cases h
  | none =>
      rw [hfind] at h
      simp only [pure_eq_ok, RefundReading.claim.injEq] at h
      obtain rfl := h
      exact ⟨rfl, penceOf_pos hamount, hget, of_decide_eq_true own, status⟩

theorem createRefundWrites_ok {call : ManualRefundCall} {refundId : Nat}
    (h : createRefundWrites call db = .ok (db', refundId)) :
    ∃ payment, db.payments.get? call.paymentId = some payment ∧
      payment.refundedAmount ≤ call.payment.amount - call.amount ∧
      db.refunds.clashes Refund.clash db.refunds.nextId call.newRefund = false ∧
      refundId = db.refunds.nextId ∧
      db' = { db with
        payments := db.payments.update call.paymentId (Payment.refund call.amount)
        refunds := db.refunds.insert call.newRefund } := by
  simp only [createRefundWrites, bind_eq_ok, orThrow_eq_ok, Table.updateIf_eq_some, createRow_eq_ok,
    pure_eq_ok, Prod.mk.injEq, ManualRefundCall.claims, decide_eq_true_eq] at h
  obtain ⟨_, ⟨payment, hget, ⟨-, -, room⟩, rfl⟩, _, ⟨free, rfl⟩, rfl, rfl⟩ := h
  exact ⟨payment, hget, room, free, rfl, rfl⟩

end Inversion

end ColorfulLife
