/-
Refund capacity of a payment (`domain/refunds/refundCapacityService.ts`).

A provider refund first reserves its amount, and when the provider has answered
the reservation is either turned into refunded money or given back. Amounts are
whole pence here, so that of `parseAmount` only the sign is left to check.
-/

import ColorfulLife.Payments.Rows

namespace ColorfulLife

open Relational

/-- Reserve part of what is neither refunded nor reserved. -/
def Payment.reserveRefund (requested : Pence) (payment : Payment) : Payment :=
  { payment with reservedRefundAmount := payment.reservedRefundAmount + requested }

/-- Move reserved money: to refunded when `finalize`, else back. -/
def Payment.moveReserved (requested : Pence) (finalize : Bool) (payment : Payment) : Payment :=
  { payment with
    reservedRefundAmount := payment.reservedRefundAmount - requested
    refundedAmount := if finalize then payment.refundedAmount + requested
      else payment.refundedAmount }

def reserveRefundCapacity (paymentId : Nat) (requested : Pence) (payments : Table Payment) :
    Result (Table Payment) := do
  ensure (0 < requested) DomainError.refundCapacityInvalidAmount
  orThrow (payments.updateIf paymentId
    (fun p => decide (p.refundedAmount + p.reservedRefundAmount + requested ≤ p.amount))
    (Payment.reserveRefund requested)) DomainError.refundCapacityExceeded

def moveReserved (paymentId : Nat) (requested : Pence) (finalize : Bool)
    (payments : Table Payment) : Result (Table Payment) := do
  ensure (0 < requested) DomainError.refundCapacityInvalidAmount
  orThrow (payments.updateIf paymentId (fun p => decide (requested ≤ p.reservedRefundAmount))
    (Payment.moveReserved requested finalize)) DomainError.refundCapacityNotReserved

def finalizeRefundCapacity (paymentId : Nat) (amount : Pence) (payments : Table Payment) :
    Result (Table Payment) :=
  moveReserved paymentId amount true payments

def releaseRefundCapacity (paymentId : Nat) (amount : Pence) (payments : Table Payment) :
    Result (Table Payment) :=
  moveReserved paymentId amount false payments

section Inversion

variable {payments payments' : Table Payment} {paymentId : Nat} {requested : Pence}

/-- A reservation fits into what is left of the payment. -/
theorem reserveRefundCapacity_eq_ok :
    reserveRefundCapacity paymentId requested payments = .ok payments' ↔
      ∃ payment, payments.get? paymentId = some payment ∧ 0 < requested ∧
        payment.refundedAmount + payment.reservedRefundAmount + requested ≤ payment.amount ∧
        payments' = payments.update paymentId (Payment.reserveRefund requested) := by
  simp only [reserveRefundCapacity, bind_eq_ok, ensure_eq_ok, orThrow_eq_ok,
    Table.updateIf_eq_some, decide_eq_true_eq]
  constructor
  · rintro ⟨-, pos, payment, hget, room, rfl⟩
    exact ⟨payment, hget, pos, room, rfl⟩
  · rintro ⟨payment, hget, pos, room, rfl⟩
    exact ⟨⟨⟩, pos, payment, hget, room, rfl⟩

/-- A finalization or release takes no more than what is reserved. -/
theorem moveReserved_eq_ok {finalize : Bool} :
    moveReserved paymentId requested finalize payments = .ok payments' ↔
      ∃ payment, payments.get? paymentId = some payment ∧ 0 < requested ∧
        requested ≤ payment.reservedRefundAmount ∧
        payments' = payments.update paymentId (Payment.moveReserved requested finalize) := by
  simp only [moveReserved, bind_eq_ok, ensure_eq_ok, orThrow_eq_ok, Table.updateIf_eq_some,
    decide_eq_true_eq]
  constructor
  · rintro ⟨-, pos, payment, hget, reserved, rfl⟩
    exact ⟨payment, hget, pos, reserved, rfl⟩
  · rintro ⟨payment, hget, pos, reserved, rfl⟩
    exact ⟨⟨⟩, pos, payment, hget, reserved, rfl⟩

end Inversion

end ColorfulLife
