/-
Provider refunds: `stripeRefundService.ts`, `paypalRefundService.ts` and
`reconcileStripeRefundEvent` (`stripeReconciliationService.ts`).

A refund call runs a preparing transaction, asks the provider outside of any
transaction and settles the refund in a final one. The two services prepare in
the same way (`RefundService`); what they make of the provider's answer is the
pure part of each (`stripeDecision`, `paypalDecision`).
-/

import ColorfulLife.Refunds.Capacity

namespace ColorfulLife

open Relational

/-! ### Preparation -/

/-- What the preparing transactions of the two services differ in. -/
structure RefundService where
  provider : PaymentProvider
  refundProvider : RefundProvider
  available : Payment → Bool
  unavailable : String
  validationError : String → DomainError
  key : String → String

def stripeRefunds : RefundService where
  provider := .stripe
  refundProvider := .stripe
  available := fun payment =>
    decide (payment.providerReference.render ≠ "") && !payment.providerReference.isPending
  unavailable := "Stripe PaymentIntent is unavailable"
  validationError := DomainError.stripeRefundValidation
  key := fun uuid => s!"refund-{uuid}-stripe"

def paypalRefunds : RefundService where
  provider := .paypal
  refundProvider := .paypal
  available := fun payment => payment.providerCaptureReference.any (decide <| · ≠ "")
  unavailable := "PayPal capture is unavailable"
  validationError := DomainError.paypalRefundValidation
  key := fun uuid => s!"refund-{uuid}-paypal"

/-- A call between its preparing and its final transaction: `prepared.existing`
and `prepared.payment`. -/
structure RefundCall where
  paymentId : Nat
  refundId : Nat
  refund : Refund
  payment : Payment
  deriving DecidableEq, Repr

structure RefundInput where
  orderId : Nat
  paymentId : Nat
  amount : ℚ
  reason : Option String
  performedByUserId : Nat
  refundId : Option Nat
  deriving DecidableEq, Repr

def RefundService.newRefund (service : RefundService) (input : RefundInput) (uuid : String)
    (requested : Pence) (payment : Payment) : Refund where
  orderId := input.orderId
  paymentId := input.paymentId
  amount := requested
  currency := payment.currency
  status := .processing
  provider := service.refundProvider
  providerReference := .pending (service.key uuid)
  refundIdempotencyKey := some (service.key uuid)
  reason := trimmedOrNone input.reason
  performedByUserId := input.performedByUserId

/-- `refundId ? await tx.refund.findUnique(...) : null`. -/
def findRetried (refundId : Option Nat) (db : Db) : Option (Nat × Refund) :=
  (refundId.filter (decide <| · ≠ 0)).bind fun id => (db.refunds.get? id).map (Prod.mk id)

/-- What makes a stored attempt unfit for another provider call. -/
def Refund.retryable (payment : Payment) (refund : Refund) : Bool :=
  refund.refundIdempotencyKey.any (decide <| · ≠ "") && decide (0 < refund.amount) &&
    decide (refund.currency = payment.currency)

/-- Check a stored attempt that the caller names. -/
def RefundService.checkRetried (service : RefundService) (input : RefundInput) (payment : Payment)
    (existing : Refund) : Result Unit := do
  ensure (existing.orderId = input.orderId ∧ existing.paymentId = input.paymentId ∧
      existing.provider = service.refundProvider)
    (service.validationError "Refund attempt does not belong to this payment")
  ensure (existing.status ≠ .failed) (service.validationError "Refund attempt has failed")
  ensure (existing.status = .succeeded ∨ existing.retryable payment = true)
    (service.validationError "Refund attempt is invalid")

/-- The preparing transaction: reuse a stored attempt or reserve capacity for a
new one. -/
def RefundService.prepare (service : RefundService) (input : RefundInput) (uuid : String)
    (db : Db) : Result (Db × RefundCall) := do
  let requested ← orThrow (penceOf input.amount) (service.validationError "Invalid refund amount")
  let _ ← orThrow (db.orders.get? input.orderId) (DomainError.refundOrderNotFound input.orderId)
  let payment ← orThrow
    ((db.payments.get? input.paymentId).filter fun p => decide (p.orderId = input.orderId))
    (DomainError.refundPaymentNotFound input.paymentId input.orderId)
  ensure (payment.status = .succeeded) (DomainError.refundPaymentNotRefundable input.paymentId)
  ensure (payment.provider = service.provider ∧ service.available payment = true)
    (service.validationError service.unavailable)
  match findRetried input.refundId db with
  | some (id, existing) => do
      service.checkRetried input payment existing
      return (db, ⟨input.paymentId, id, existing, payment⟩)
  | none => do
      let payments ← reserveRefundCapacity input.paymentId requested db.payments
      let refund := service.newRefund input uuid requested payment
      let refunds ← createRow Refund.clash refund db.refunds
      return ({ db with payments := payments, refunds := refunds },
        ⟨input.paymentId, db.refunds.nextId, refund, payment⟩)

/-! ### The provider's answer -/

/-- What the code does after an answer it accepts. -/
inductive RefundDecision where
  | settle (finalize : Bool) (reference : Option ProviderReference)
  | remain (reference : ProviderReference)
  deriving DecidableEq, Repr

inductive StripeRefundStatus where
  | pending
  | requiresAction
  | succeeded
  | failed
  | canceled
  | other
  deriving DecidableEq, Repr

structure StripeRefundResponse where
  id : ProviderReference
  amount : Int
  currency : String
  status : StripeRefundStatus
  paymentIntent : Option ProviderReference
  deriving DecidableEq, Repr

/-- `none` is a provider call that threw. -/
def stripeDecision (call : RefundCall) (response : Option StripeRefundResponse) :
    Result RefundDecision := do
  ensure (call.refund.amount ≤ maxSafeInteger)
    (DomainError.stripeRefundProvider "Stripe refund operation failed")
  let response ← orThrow response
    (DomainError.stripeRefundProvider "Stripe refund operation failed")
  ensure (response.paymentIntent = some call.payment.providerReference ∧
      response.amount = call.refund.amount ∧
      toUpper response.currency = toUpper call.refund.currency)
    (DomainError.stripeRefundValidation "Stripe refund response did not match the local refund")
  match response.status with
  | .failed | .canceled => return .settle false (some response.id)
  | .pending | .requiresAction => return .remain response.id
  | .succeeded => do
      ensure (response.id.render ≠ "")
        (DomainError.stripeRefundValidation "Stripe refund response status is invalid")
      return .settle true (some response.id)
  | .other =>
      throw (DomainError.stripeRefundValidation "Stripe refund response status is invalid")

inductive PayPalRefundStatus where
  | completed
  | failed
  | denied
  | other
  deriving DecidableEq, Repr

structure PayPalRefundResponse where
  id : Option ProviderReference
  status : PayPalRefundStatus
  value : Option String
  currencyCode : Option String
  deriving DecidableEq, Repr

def paypalDecision (call : RefundCall) (response : Option PayPalRefundResponse) :
    Result RefundDecision := do
  let response ← orThrow response
    (DomainError.paypalRefundProvider "PayPal refund operation failed")
  if response.status = .failed ∨ response.status = .denied then
    return .settle false none
  else do
    ensure (response.status = .completed ∧ response.id.any (decide <| ·.render ≠ "") = true ∧
        response.value = some (toFixed call.refund.amount) ∧
        response.currencyCode.map toUpper = some (toUpper call.refund.currency))
      (DomainError.paypalRefundValidation "PayPal refund response did not match the local refund")
    return .settle true response.id

/-! ### The final transaction -/

def Refund.settle (finalize : Bool) (reference : Option ProviderReference) (refund : Refund) :
    Refund :=
  { refund with
    providerReference := reference.getD refund.providerReference
    status := if finalize then .succeeded else .failed }

/-- Move the reserved capacity, then record the outcome. -/
def settleRefund (paymentId refundId : Nat) (amount : Pence) (finalize : Bool)
    (reference : Option ProviderReference) (db : Db) : Result Db := do
  let payments ← (if finalize then finalizeRefundCapacity else releaseRefundCapacity)
    paymentId amount db.payments
  let refunds ← writeRow Refund.clash refundId (Refund.settle finalize reference) db.refunds
  return { db with payments := payments, refunds := refunds }

def Refund.refer (reference : ProviderReference) (refund : Refund) : Refund :=
  { refund with providerReference := reference }

/-- Record the provider's reference only. -/
def rememberReference (refundId : Nat) (reference : ProviderReference) (db : Db) : Result Db := do
  let refunds ← writeRow Refund.clash refundId (Refund.refer reference) db.refunds
  return { db with refunds := refunds }

/-- The stored status is not looked at again. -/
def RefundDecision.apply (call : RefundCall) (db : Db) : RefundDecision → Result Db
  | .settle finalize reference =>
      settleRefund call.paymentId call.refundId call.refund.amount finalize reference db
  | .remain reference => rememberReference call.refundId reference db

/-! ### Stripe refund events -/

structure StripeRefundEvent where
  id : String
  type : String
  refundId : ProviderReference
  paymentIntentId : Option ProviderReference
  amount : Int
  currency : String
  status : StripeRefundStatus
  localRefundId : Option String
  orderId : Option String
  deriving DecidableEq, Repr

section Events

-- `Number(text)` where that is a positive integer, else `none`.
variable (number : String → Option Nat)

/-- By the provider's reference, else by the local id in the metadata. -/
def findEventRefund (event : StripeRefundEvent) (db : Db) : Option (Nat × Refund) :=
  (db.refunds.find? fun _ r =>
    decide (r.provider = .stripe ∧ r.providerReference = event.refundId)).or
    ((event.localRefundId.bind number).bind fun id => (db.refunds.get? id).map (Prod.mk id))

/-- `valid`: the event is about this refund of this payment. -/
def StripeRefundEvent.matches (event : StripeRefundEvent) (refundId : Nat) (refund : Refund)
    (payment : Payment) : Bool :=
  decide (((given event.localRefundId).all fun text => decide (number text = some refundId)) ∧
    (refund.providerReference = event.refundId ∨ refund.providerReference.isPending) ∧
    refund.provider = .stripe ∧ payment.provider = .stripe ∧
    event.paymentIntentId = some payment.providerReference ∧ event.amount = refund.amount ∧
    toLower event.currency = toLower refund.currency ∧
    (given event.orderId).all fun text => decide (text = toString refund.orderId))

/-- The refund an event is about, once correlation and amounts are checked. -/
def correlatedRefund (event : StripeRefundEvent) (db : Db) : Option (Nat × Refund) :=
  (findEventRefund number event db).filter fun e =>
    (db.payments.get? e.2.paymentId).any (event.matches number e.1 e.2)

/-- What the event does to a refund that it has read as still processing. -/
def applyRefundEvent (event : StripeRefundEvent) (refundId : Nat) (refund : Refund) (db : Db) :
    Result Db :=
  if refund.status = .processing then
    match event.status with
    | .succeeded =>
        settleRefund refund.paymentId refundId refund.amount true (some event.refundId) db
    | .failed | .canceled =>
        settleRefund refund.paymentId refundId refund.amount false (some event.refundId) db
    | _ => rememberReference refundId event.refundId db
  else return db

/-- The writes of an event's transaction after it has read its refund. -/
def writeRefundEvent (event : StripeRefundEvent) (read : Option (Nat × Refund)) (now : Time)
    (db : Db) : Result (Db × WebhookResult) := do
  let receipt := db.webhookEvents.nextId
  let events ← createRow PaymentWebhookEvent.clash (newReceipt .stripe event.id event.type)
    db.webhookEvents
  match read with
  | none =>
      let events := events.update receipt (PaymentWebhookEvent.process now
        (some "Stripe refund correlation or financial validation failed"))
      return ({ db with webhookEvents := events }, ⟨false, false⟩)
  | some (refundId, refund) => do
      let settled ← applyRefundEvent event refundId refund db
      let events := events.update receipt (PaymentWebhookEvent.process now none)
      return ({ settled with webhookEvents := events }, ⟨false, true⟩)

/-- The transaction of a refund event, its reads and writes taken together. -/
def stripeRefundEventTransaction (event : StripeRefundEvent) (now : Time) (db : Db) :
    Result (Db × WebhookResult) :=
  writeRefundEvent event (correlatedRefund number event db) now db

/-- A broken unique index is taken for a redelivery. -/
def reconcileStripeRefundEvent (event : StripeRefundEvent) (now : Time) (db : Db) :
    Result (Db × WebhookResult) :=
  match stripeRefundEventTransaction number event now db with
  | .error .uniqueViolation => .ok (db, ⟨true, true⟩)
  | result => result

end Events

/-! ### Inversion -/

section Inversion

variable {db db' : Db}

/-- A prepared call reuses a stored attempt or has reserved its amount. -/
theorem RefundService.prepare_ok {service : RefundService} {input : RefundInput} {uuid : String}
    {call : RefundCall} (h : service.prepare input uuid db = .ok (db', call)) :
    ∃ payment, db.payments.get? input.paymentId = some payment ∧
      payment.provider = service.provider ∧ call.paymentId = input.paymentId ∧
      ((db' = db ∧ db.refunds.get? call.refundId = some call.refund ∧
          call.refund.paymentId = input.paymentId) ∨
        ∃ requested, 0 < requested ∧ call.refundId = db.refunds.nextId ∧
          call.refund = service.newRefund input uuid requested payment ∧
          db' = { db with
            payments := db.payments.update input.paymentId (Payment.reserveRefund requested)
            refunds := db.refunds.insert call.refund }) := by
  simp only [RefundService.prepare, bind_eq_ok, orThrow_eq_ok, ensure_eq_ok,
    Option.filter_eq_some_iff] at h
  obtain ⟨requested, hamount, order, -, payment, ⟨hpayment, -⟩, -, -, -, ⟨hprovider, -⟩, h⟩ := h
  refine ⟨payment, hpayment, hprovider, ?_⟩
  cases hfind : findRetried input.refundId db with
  | some e =>
      obtain ⟨id, existing⟩ := e
      rw [hfind] at h
      simp only [bind_eq_ok, pure_eq_ok, Prod.mk.injEq] at h
      obtain ⟨_, hcheck, rfl, rfl⟩ := h
      simp only [RefundService.checkRetried, bind_eq_ok, ensure_eq_ok] at hcheck
      obtain ⟨-, ⟨-, howner, -⟩, -⟩ := hcheck
      refine ⟨rfl, Or.inl ⟨rfl, ?_, howner⟩⟩
      simp only [findRetried, Option.bind_eq_some_iff, Option.map_eq_some_iff,
        Prod.mk.injEq] at hfind
      obtain ⟨_, -, row, hrow, rfl, rfl⟩ := hfind
      exact hrow
  | none =>
      rw [hfind] at h
      simp only [bind_eq_ok, pure_eq_ok, reserveRefundCapacity_eq_ok, createRow_eq_ok,
        Prod.mk.injEq] at h
      obtain ⟨_, ⟨_, -, pos, -, rfl⟩, _, ⟨-, rfl⟩, rfl, rfl⟩ := h
      exact ⟨rfl, Or.inr ⟨requested, pos, rfl, rfl, rfl⟩⟩

theorem settleRefund_eq_ok {paymentId refundId : Nat} {amount : Pence} {finalize : Bool}
    {reference : Option ProviderReference} :
    settleRefund paymentId refundId amount finalize reference db = .ok db' ↔
      ∃ payment refund, db.payments.get? paymentId = some payment ∧
        db.refunds.get? refundId = some refund ∧ 0 < amount ∧
        amount ≤ payment.reservedRefundAmount ∧
        db.refunds.clashes Refund.clash refundId (refund.settle finalize reference) = false ∧
        db' = { db with
          payments := db.payments.update paymentId (Payment.moveReserved amount finalize)
          refunds := db.refunds.update refundId (Refund.settle finalize reference) } := by
  have move : (if finalize then finalizeRefundCapacity else releaseRefundCapacity)
      paymentId amount db.payments = moveReserved paymentId amount finalize db.payments := by
    cases finalize <;> rfl
  simp only [settleRefund, move, bind_eq_ok, moveReserved_eq_ok, writeRow_eq_ok, pure_eq_ok]
  constructor
  · rintro ⟨_, ⟨payment, hp, pos, reserved, rfl⟩, _, ⟨refund, hr, free, rfl⟩, rfl⟩
    exact ⟨payment, refund, hp, hr, pos, reserved, free, rfl⟩
  · rintro ⟨payment, refund, hp, hr, pos, reserved, free, rfl⟩
    exact ⟨_, ⟨payment, hp, pos, reserved, rfl⟩, _, ⟨refund, hr, free, rfl⟩, rfl⟩

theorem rememberReference_eq_ok {refundId : Nat} {reference : ProviderReference} :
    rememberReference refundId reference db = .ok db' ↔
      ∃ refund, db.refunds.get? refundId = some refund ∧
        db.refunds.clashes Refund.clash refundId (refund.refer reference) = false ∧
        db' = { db with refunds := db.refunds.update refundId (Refund.refer reference) } := by
  simp only [rememberReference, bind_eq_ok, writeRow_eq_ok, pure_eq_ok]
  constructor
  · rintro ⟨_, ⟨refund, hr, free, rfl⟩, rfl⟩
    exact ⟨refund, hr, free, rfl⟩
  · rintro ⟨refund, hr, free, rfl⟩
    exact ⟨_, ⟨refund, hr, free, rfl⟩, rfl⟩

/-- How an event ends a refund, if it does: capacity is finalized or released. -/
def StripeRefundStatus.finalizes : StripeRefundStatus → Option Bool
  | .succeeded => some true
  | .failed | .canceled => some false
  | .pending | .requiresAction | .other => none

theorem applyRefundEvent_eq (event : StripeRefundEvent) (refundId : Nat) (refund : Refund)
    (db : Db) : applyRefundEvent event refundId refund db =
      if refund.status = .processing then
        match event.status.finalizes with
        | some finalize =>
            settleRefund refund.paymentId refundId refund.amount finalize (some event.refundId) db
        | none => rememberReference refundId event.refundId db
      else .ok db := by
  unfold applyRefundEvent
  cases event.status <;> rfl

/-- What an event commits: its receipt, with what it does to the refund it has read. -/
theorem writeRefundEvent_ok {event : StripeRefundEvent} {read : Option (Nat × Refund)} {now : Time}
    {result : WebhookResult} (h : writeRefundEvent event read now db = .ok (db', result)) :
    db.webhookEvents.clashes PaymentWebhookEvent.clash db.webhookEvents.nextId
        (newReceipt .stripe event.id event.type) = false ∧
      ∃ settled events, db' = { settled with webhookEvents := events } ∧
        match read with
        | none => settled = db
        | some (refundId, refund) => applyRefundEvent event refundId refund db = .ok settled := by
  simp only [writeRefundEvent, bind_eq_ok, createRow_eq_ok] at h
  obtain ⟨_, ⟨new, -⟩, h⟩ := h
  refine ⟨new, ?_⟩
  cases read with
  | none =>
      simp only [pure_eq_ok, Prod.mk.injEq] at h
      exact ⟨db, _, h.1.symm, rfl⟩
  | some e =>
      simp only [bind_eq_ok, pure_eq_ok, Prod.mk.injEq] at h
      obtain ⟨settled, applied, same, -⟩ := h
      exact ⟨settled, _, same.symm, applied⟩

/-- The receipt of a first delivery never stands in the way of what the event does. -/
theorem writeRefundEvent_isOk {event : StripeRefundEvent} {refundId : Nat} {refund : Refund}
    {settled : Db} (now : Time)
    (new : db.webhookEvents.clashes PaymentWebhookEvent.clash db.webhookEvents.nextId
      (newReceipt .stripe event.id event.type) = false)
    (applied : applyRefundEvent event refundId refund db = .ok settled) :
    ∃ db' result, writeRefundEvent event (some (refundId, refund)) now db = .ok (db', result) := by
  simp only [writeRefundEvent, bind_eq_ok, createRow_eq_ok, pure_eq_ok]
  exact ⟨_, _, _, ⟨new, rfl⟩, _, applied, rfl⟩

/-- A correlated refund is a stored Stripe refund of a stored Stripe payment. -/
theorem correlatedRefund_eq_some {number : String → Option Nat} {event : StripeRefundEvent}
    {refundId : Nat} {refund : Refund}
    (h : correlatedRefund number event db = some (refundId, refund)) :
    db.refunds.get? refundId = some refund ∧
      ∃ payment, db.payments.get? refund.paymentId = some payment ∧ payment.provider = .stripe := by
  obtain ⟨hfind, hvalid⟩ := Option.filter_eq_some_iff.mp h
  constructor
  · rcases Option.or_eq_some_iff.mp hfind with found | ⟨-, found⟩
    · exact (Table.find?_eq_some found).1
    · simp only [Option.bind_eq_some_iff, Option.map_eq_some_iff, Prod.mk.injEq] at found
      obtain ⟨_, -, row, hrow, rfl, rfl⟩ := found
      exact hrow
  · obtain ⟨payment, hp, hmatch⟩ := (Option.any_eq_true ..).mp hvalid
    simp only [StripeRefundEvent.matches, decide_eq_true_eq] at hmatch
    exact ⟨payment, hp, hmatch.2.2.2.1⟩

end Inversion

end ColorfulLife
