/-
Stripe payments: initiation (`stripePaymentService.ts`), events
(`stripeReconciliationService.ts`) and recovery
(`stripePaymentRecoveryService.ts`).

Initiation and recovery ask Stripe between two transactions; the value a first
transaction hands over to the second is a `StripeIntentCall` or a
`StripeRecoveryCall`. Recovery and events share `validateStripePaymentOutcome`
and `applyStripePaymentOutcome`.
-/

import ColorfulLife.Payments.Manual

namespace ColorfulLife

open Relational

/-! ### Initiation -/

/-- `local`: what the preparing transaction returns. -/
structure StripeIntentCall where
  orderId : Nat
  paymentId : Nat
  payment : Payment
  amount : Pence
  deriving DecidableEq, Repr

/-- The provider call that a prepared initiation makes. -/
inductive StripeRequest where
  | create (amount : Pence) (orderId : Nat) (idempotencyKey : String)
  | retrieve (reference : ProviderReference)
  deriving DecidableEq, Repr

/-- `order-${orderId}-stripe`. -/
def stripeIdempotencyKey (orderId : Nat) : String := s!"order-{orderId}-stripe"

def StripeIntentCall.request (call : StripeIntentCall) : StripeRequest :=
  if call.payment.providerReference.isPending then
    .create call.amount call.orderId
      (call.payment.idempotencyKey.getD (stripeIdempotencyKey call.orderId))
  else .retrieve call.payment.providerReference

def newStripePayment (orderId : Nat) (amount : Pence) : Payment where
  orderId := orderId
  amount := amount
  currency := "GBP"
  provider := .stripe
  providerReference := .pending (stripeIdempotencyKey orderId)
  idempotencyKey := some (stripeIdempotencyKey orderId)
  providerCaptureReference := none
  captureIdempotencyKey := none
  status := .processing
  paidAt := none
  refundedAmount := 0
  reservedRefundAmount := 0

/-- The preparing transaction of `createOrReuseStripePaymentIntent`. -/
def prepareStripeIntent (orderId userId : Nat) (now : Time) (db : Db) :
    Result (Db × StripeIntentCall) := do
  let order ← orThrow (db.orders.get? orderId) DomainError.stripePaymentOrderNotFound
  ensure (order.userId = userId) DomainError.stripePaymentOwnership
  ensure (order.status ≠ .expired ∧ order.isElapsed now = false) DomainError.stripePaymentExpired
  ensure (order.status = .pending) DomainError.stripePaymentNotPayable
  ensure (0 < order.totalAmount ∧ order.totalAmount ≤ maxSafeInteger)
    (DomainError.stripePaymentProvider "Invalid payment amount")
  match findByOrder orderId db.payments with
  | some (id, existing) => do
      ensure (existing.provider = .stripe ∧ existing.status ≠ .succeeded)
        DomainError.stripePaymentAlreadyCompleted
      return (db, ⟨orderId, id, existing, order.totalAmount⟩)
  | none => do
      let payment := newStripePayment orderId order.totalAmount
      let payments ← createRow Payment.clash payment db.payments
      return ({ db with payments := payments },
        ⟨orderId, db.payments.nextId, payment, order.totalAmount⟩)

def Payment.initiate (reference : ProviderReference) (payment : Payment) : Payment :=
  { payment with providerReference := reference, status := .processing }

/-- `updateMany({ where: { id, status: { not: SUCCEEDED } } })`: a webhook may
have finalized the payment while the request was in flight. -/
def recordStripeIntent (paymentId : Nat) (reference : ProviderReference)
    (payments : Table Payment) : Result (Table Payment) :=
  if (payments.get? paymentId).any (decide <| ·.status ≠ .succeeded) then
    writeRow Payment.clash paymentId (Payment.initiate reference) payments
  else .ok payments

/-- The final transaction; `intentId` is `none` when the provider call threw. -/
def finishStripeIntent (call : StripeIntentCall) (intentId : Option ProviderReference) (db : Db) :
    Result Db := do
  let intentId ← orThrow intentId
    (DomainError.stripePaymentProvider "Stripe payment operation failed")
  let payments ← recordStripeIntent call.paymentId intentId db.payments
  return { db with payments := payments }

/-- What the caller is told after the final transaction has committed. -/
def stripeIntentOutcome (call : StripeIntentCall) (db : Db) : Result Unit :=
  ensure ((db.payments.get? call.paymentId).any (decide <| ·.status ≠ .succeeded) = true)
    DomainError.stripePaymentAlreadyCompleted

/-! ### Outcomes -/

inductive StripeEventType where
  | succeeded
  | paymentFailed
  | canceled
  deriving DecidableEq, Repr

def StripeEventType.name : StripeEventType → String
  | .succeeded => "payment_intent.succeeded"
  | .paymentFailed => "payment_intent.payment_failed"
  | .canceled => "payment_intent.canceled"

/-- `StripePaymentOutcome`; `metadataOrderId` is `metadata.orderId`. -/
structure StripePaymentOutcome where
  type : StripeEventType
  paymentIntentId : ProviderReference
  amount : Int
  currency : String
  metadataOrderId : Option String
  deriving DecidableEq, Repr

/-- The checks shared by verified events and server retrieval: `some` error, or
`none` when the outcome is about this payment. -/
def validateStripePaymentOutcome (payment : Payment) (outcome : StripePaymentOutcome) :
    Option String :=
  if payment.providerReference ≠ outcome.paymentIntentId ∧
      payment.providerReference.isPending = false then
    some "Stripe payment reference mismatch"
  else if (given outcome.metadataOrderId).any (decide <| · ≠ toString payment.orderId) then
    some "Stripe order correlation mismatch"
  else if outcome.type = .succeeded ∧
      (outcome.amount ≠ payment.amount ∨ toLower outcome.currency ≠ "gbp") then
    some "Stripe payment amount or currency mismatch"
  else none

/-- The payment after an outcome, when it has not succeeded before. -/
def Payment.stripeOutcome (outcome : StripePaymentOutcome) (now : Time) (payment : Payment) :
    Payment :=
  match outcome.type with
  | .succeeded =>
      { payment with
        providerReference := outcome.paymentIntentId
        status := .succeeded
        paidAt := some (payment.paidAt.getD now) }
  | .paymentFailed => { payment with status := .failed }
  | .canceled => { payment with status := .canceled }

section Outcome

variable (payment : Payment) (outcome : StripePaymentOutcome) (now : Time)

@[simp] theorem Payment.stripeOutcome_orderId :
    (payment.stripeOutcome outcome now).orderId = payment.orderId := by
  unfold stripeOutcome
  split <;> rfl

@[simp] theorem Payment.stripeOutcome_provider :
    (payment.stripeOutcome outcome now).provider = payment.provider := by
  unfold stripeOutcome
  split <;> rfl

/-- Only a success makes a payment `SUCCEEDED`. -/
theorem Payment.stripeOutcome_succeeded
    (success : (payment.stripeOutcome outcome now).status = .succeeded) :
    outcome.type = .succeeded := by
  cases htype : outcome.type with
  | succeeded => rfl
  | paymentFailed => simp [stripeOutcome, htype] at success
  | canceled => simp [stripeOutcome, htype] at success

end Outcome

/-- A success is never overwritten. -/
def recordStripeOutcome (paymentId : Nat) (payment : Payment) (outcome : StripePaymentOutcome)
    (now : Time) (payments : Table Payment) : Result (Table Payment) :=
  if payment.status = .succeeded then .ok payments
  else writeRow Payment.clash paymentId (Payment.stripeOutcome outcome now) payments

/-- A success confirms an order that is still pending. -/
def confirmPaidOrder (orderId : Nat) (order : Order) (outcome : StripePaymentOutcome) (db : Db) :
    Result Db :=
  if outcome.type = .succeeded ∧ order.status = .pending then
    confirmOrderInTransaction order.userId orderId db
  else .ok db

/-- The states in which a success comes too late. -/
def OrderStatus.isLate : OrderStatus → Bool
  | .expired | .cancelled | .returned => true
  | .pending | .confirmed | .dispatched | .completed => false

/-- The exception a late success leaves. -/
def lateCapture (order : Order) (outcome : StripePaymentOutcome) : Option String :=
  if outcome.type = .succeeded ∧ order.status.isLate = true then
    some ("Captured payment for " ++ toLower order.status.name ++
      " order requires refund/reconciliation")
  else none

/-- The caller holds the order's row lock and has validated the evidence. -/
def applyStripePaymentOutcome (paymentId : Nat) (payment : Payment) (order : Order)
    (outcome : StripePaymentOutcome) (now : Time) (db : Db) : Result (Db × Option String) := do
  let payments ← recordStripeOutcome paymentId payment outcome now db.payments
  let confirmed ← confirmPaidOrder payment.orderId order outcome { db with payments := payments }
  return (confirmed, lateCapture order outcome)

/-- A payment with its order, as the `include` reads it. -/
def findPaymentWithOrder (paymentId : Nat) (db : Db) : Option (Payment × Order) := do
  let payment ← db.payments.get? paymentId
  let order ← db.orders.get? payment.orderId
  return (payment, order)

/-! ### Events -/

structure StripePaymentIntentEvent extends StripePaymentOutcome where
  id : String
  deriving DecidableEq, Repr

section Events

-- `Number(text)` where that is a positive safe integer, else `none`.
variable (number : String → Option Nat)

/-- By the provider's reference, or by the order in the metadata while the
payment still has its placeholder. -/
def findEventPayment (event : StripePaymentIntentEvent) (db : Db) : Option (Nat × Payment) :=
  let metadataOrderId := event.metadataOrderId.bind number
  db.payments.find? fun _ p => decide (p.provider = .stripe ∧
    (p.providerReference = event.paymentIntentId ∨
      metadataOrderId.any fun n =>
        decide (p.orderId = n ∧ p.providerReference = .pending (stripeIdempotencyKey n))))

def stripeEventTransaction (event : StripePaymentIntentEvent) (now : Time) (db : Db) :
    Result (Db × WebhookResult) := do
  let receipt := db.webhookEvents.nextId
  let events ← createRow PaymentWebhookEvent.clash (newReceipt .stripe event.id event.type.name)
    db.webhookEvents
  match (findEventPayment number event db).bind fun e =>
      (findPaymentWithOrder e.1 db).map (Prod.mk e.1) with
  | none =>
      let events := events.update receipt
        (PaymentWebhookEvent.process now (some "Unknown Stripe payment"))
      return ({ db with webhookEvents := events }, ⟨false, false⟩)
  | some (paymentId, payment, order) =>
      match validateStripePaymentOutcome payment event.toStripePaymentOutcome with
      | some mismatch =>
          let events := events.update receipt (PaymentWebhookEvent.process now (some mismatch))
          return ({ db with webhookEvents := events }, ⟨false, false⟩)
      | none => do
          let (applied, reconciliation) ← applyStripePaymentOutcome paymentId payment order
            event.toStripePaymentOutcome now db
          let events := events.update receipt (PaymentWebhookEvent.process now reconciliation)
          return ({ applied with webhookEvents := events }, ⟨false, true⟩)

/-- A broken unique index is a redelivery when the receipt is there. -/
def reconcileStripePaymentEvent (event : StripePaymentIntentEvent) (now : Time) (db : Db) :
    Result (Db × WebhookResult) :=
  match stripeEventTransaction number event now db with
  | .error .uniqueViolation =>
      if (db.webhookEvents.find? fun _ e =>
          decide (e.provider = .stripe ∧ e.providerEventId = event.id)).isSome
      then .ok (db, ⟨true, true⟩) else .error .uniqueViolation
  | result => result

end Events

/-! ### Recovery -/

/-- What the first read of a recovery hands over. -/
structure StripeRecoveryCall where
  orderId : Nat
  userId : Nat
  paymentId : Nat
  payment : Payment
  deriving DecidableEq, Repr

/-- Retrieve only the owner's local attempt with a real reference. -/
def readRecovery (orderId userId : Nat) (db : Db) : Result StripeRecoveryCall := do
  let _ ← orThrow ((db.orders.get? orderId).filter (decide <| ·.userId = userId))
    DomainError.stripeRecoveryOrderNotFound
  let e ← orThrow ((findByOrder orderId db.payments).filter fun e =>
      decide (e.2.provider = .stripe) && e.2.providerReference.isIntent)
    DomainError.stripeRecoveryUnavailable
  return ⟨orderId, userId, e.1, e.2⟩

structure StripePaymentIntent where
  id : ProviderReference
  amount : Int
  amountReceived : Int
  currency : String
  metadataOrderId : Option String
  succeeded : Bool
  deriving DecidableEq, Repr

def StripePaymentIntent.outcome (intent : StripePaymentIntent) : StripePaymentOutcome where
  type := .succeeded
  paymentIntentId := intent.id
  amount := intent.amount
  currency := intent.currency
  metadataOrderId := intent.metadataOrderId

/-- `recovery:${payment.id}:${intent.id}:succeeded`. -/
def recoveryEventId (paymentId : Nat) (intentId : ProviderReference) : String :=
  s!"recovery:{paymentId}:" ++ intentId.render ++ ":succeeded"

/-- `paymentWebhookEvent.upsert`. -/
def upsertRecovery (providerEventId : String) (now : Time) (reconciliation : Option String)
    (events : Table PaymentWebhookEvent) : Table PaymentWebhookEvent :=
  match events.find? fun _ e =>
      decide (e.provider = .stripe ∧ e.providerEventId = providerEventId) with
  | some e => events.update e.1 fun row => { row with processingError := reconciliation }
  | none => events.insert
      (PaymentWebhookEvent.process now reconciliation
        (newReceipt .stripe providerEventId "payment_intent.recovered"))

/-- The identity checks after the network call. -/
def StripeRecoveryCall.matches (call : StripeRecoveryCall) (intent : StripePaymentIntent)
    (payment : Payment) (order : Order) : Prop :=
  order.userId = call.userId ∧ payment.orderId = call.orderId ∧ payment.provider = .stripe ∧
    payment.providerReference = call.payment.providerReference ∧
    intent.id = payment.providerReference ∧
    intent.metadataOrderId = some (toString call.orderId) ∧
    payment.amount = order.totalAmount ∧ toUpper payment.currency = "GBP" ∧
    validateStripePaymentOutcome payment intent.outcome = none ∧
    (intent.succeeded = true → intent.amountReceived = intent.amount)

instance (call : StripeRecoveryCall) (intent : StripePaymentIntent) (payment : Payment)
    (order : Order) : Decidable (call.matches intent payment order) := by
  unfold StripeRecoveryCall.matches; infer_instance

/-- The final transaction; `intent` is `none` when the provider call threw. -/
def finishRecovery (call : StripeRecoveryCall) (intent : Option StripePaymentIntent) (now : Time)
    (db : Db) : Result Db := do
  let intent ← orThrow intent
    (DomainError.stripePaymentProvider "Stripe payment recovery unavailable")
  let found ← orThrow (findPaymentWithOrder call.paymentId db) DomainError.stripeRecoveryMismatch
  ensure (call.matches intent found.1 found.2) DomainError.stripeRecoveryMismatch
  if intent.succeeded = false then return db
  else do
    let (applied, reconciliation) ← applyStripePaymentOutcome call.paymentId found.1 found.2
      intent.outcome now db
    let events := upsertRecovery (recoveryEventId call.paymentId intent.id) now reconciliation
      applied.webhookEvents
    return { applied with webhookEvents := events }

/-! ### Inversion -/

section Inversion

variable {db db' : Db} {orderId userId paymentId : Nat} {now : Time}

theorem findByOrder_eq_some {payments : Table Payment} {e : Nat × Payment}
    (h : findByOrder orderId payments = some e) :
    payments.get? e.1 = some e.2 ∧ e.2.orderId = orderId := by
  obtain ⟨hget, horder⟩ := Table.find?_eq_some h
  exact ⟨hget, by simpa using horder⟩

theorem findPaymentWithOrder_eq_some {payment : Payment} {order : Order} :
    findPaymentWithOrder paymentId db = some (payment, order) ↔
      db.payments.get? paymentId = some payment ∧ db.orders.get? payment.orderId = some order := by
  simp only [findPaymentWithOrder, Option.bind_eq_bind, Option.bind_eq_some_iff, Option.pure_def,
    Option.some.injEq, Prod.mk.injEq]
  constructor
  · rintro ⟨p, hp, o, ho, rfl, rfl⟩
    exact ⟨hp, ho⟩
  · rintro ⟨hp, ho⟩
    exact ⟨payment, hp, order, ho, rfl, rfl⟩

/-- A prepared initiation: the order may be paid, and its payment is the stored
one, not succeeded, or new. -/
theorem prepareStripeIntent_ok {call : StripeIntentCall}
    (h : prepareStripeIntent orderId userId now db = .ok (db', call)) :
    ∃ order, db.orders.get? orderId = some order ∧ order.userId = userId ∧
      order.status = .pending ∧ order.isElapsed now = false ∧
      ((db' = db ∧ findByOrder orderId db.payments = some (call.paymentId, call.payment) ∧
          call.payment.status ≠ .succeeded) ∨
        (findByOrder orderId db.payments = none ∧
          db.payments.clashes Payment.clash db.payments.nextId
            (newStripePayment orderId order.totalAmount) = false ∧
          db' = { db with
            payments := db.payments.insert (newStripePayment orderId order.totalAmount) })) := by
  simp only [prepareStripeIntent, bind_eq_ok, orThrow_eq_ok, ensure_eq_ok] at h
  obtain ⟨order, horder, -, howner, -, ⟨-, helapsed⟩, -, hstatus, -, -, h⟩ := h
  refine ⟨order, horder, howner, hstatus, helapsed, ?_⟩
  cases hfind : findByOrder orderId db.payments with
  | some e =>
      rw [hfind] at h
      simp only [bind_eq_ok, ensure_eq_ok, pure_eq_ok, Prod.mk.injEq] at h
      obtain ⟨-, ⟨-, hopen⟩, rfl, rfl⟩ := h
      exact Or.inl ⟨rfl, rfl, hopen⟩
  | none =>
      rw [hfind] at h
      simp only [bind_eq_ok, createRow_eq_ok, pure_eq_ok, Prod.mk.injEq] at h
      obtain ⟨_, ⟨free, rfl⟩, rfl, -⟩ := h
      exact Or.inr ⟨rfl, free, rfl⟩

theorem finishStripeIntent_ok {call : StripeIntentCall} {intentId : Option ProviderReference}
    (h : finishStripeIntent call intentId db = .ok db') :
    db' = db ∨ ∃ reference payment, db.payments.get? call.paymentId = some payment ∧
      payment.status ≠ .succeeded ∧
      db.payments.clashes Payment.clash call.paymentId (payment.initiate reference) = false ∧
      db' = { db with
        payments := db.payments.update call.paymentId (Payment.initiate reference) } := by
  simp only [finishStripeIntent, bind_eq_ok, orThrow_eq_ok, pure_eq_ok] at h
  obtain ⟨reference, -, payments, hrecord, rfl⟩ := h
  unfold recordStripeIntent at hrecord
  split at hrecord
  · rename_i hopen
    obtain ⟨payment, hp, free, rfl⟩ := writeRow_eq_ok.mp hrecord
    simp only [hp, Option.any_some, decide_eq_true_eq] at hopen
    exact Or.inr ⟨reference, payment, hp, hopen, free, rfl⟩
  · obtain rfl := Except.ok.inj hrecord
    exact Or.inl rfl

theorem recordStripeOutcome_ok {payment : Payment} {outcome : StripePaymentOutcome}
    {payments payments' : Table Payment}
    (h : recordStripeOutcome paymentId payment outcome now payments = .ok payments') :
    (payment.status = .succeeded ∧ payments' = payments) ∨
      (payment.status ≠ .succeeded ∧ ∃ row, payments.get? paymentId = some row ∧
        payments.clashes Payment.clash paymentId (row.stripeOutcome outcome now) = false ∧
        payments' = payments.update paymentId (Payment.stripeOutcome outcome now)) := by
  unfold recordStripeOutcome at h
  split at h
  · exact Or.inl ⟨‹_›, (Except.ok.inj h).symm⟩
  · exact Or.inr ⟨‹_›, writeRow_eq_ok.mp h⟩

/-- What evidence about a payment changes: the payment, and, for a success, an
order that is still pending. -/
theorem applyStripePaymentOutcome_ok {payment : Payment} {order : Order}
    {outcome : StripePaymentOutcome} {reconciliation : Option String}
    (h : applyStripePaymentOutcome paymentId payment order outcome now db =
      .ok (db', reconciliation)) :
    reconciliation = lateCapture order outcome ∧
      ∃ payments, recordStripeOutcome paymentId payment outcome now db.payments = .ok payments ∧
        ((outcome.type = .succeeded ∧ order.status = .pending ∧
            confirmOrderInTransaction order.userId payment.orderId
              { db with payments := payments } = .ok db') ∨
          (¬ (outcome.type = .succeeded ∧ order.status = .pending) ∧
            db' = { db with payments := payments })) := by
  simp only [applyStripePaymentOutcome, bind_eq_ok, pure_eq_ok, Prod.mk.injEq] at h
  obtain ⟨payments, hrecord, confirmed, hconfirm, rfl, rfl⟩ := h
  refine ⟨rfl, payments, hrecord, ?_⟩
  unfold confirmPaidOrder at hconfirm
  split at hconfirm
  · rename_i due
    exact Or.inl ⟨due.1, due.2, hconfirm⟩
  · exact Or.inr ⟨‹_›, (Except.ok.inj hconfirm).symm⟩

theorem applyStripePaymentOutcome_payments {payment : Payment} {order : Order}
    {outcome : StripePaymentOutcome} {reconciliation : Option String}
    (h : applyStripePaymentOutcome paymentId payment order outcome now db =
      .ok (db', reconciliation)) :
    recordStripeOutcome paymentId payment outcome now db.payments = .ok db'.payments := by
  obtain ⟨-, payments, hrecord, ⟨-, -, hconfirm⟩ | ⟨-, rfl⟩⟩ := applyStripePaymentOutcome_ok h
  · obtain ⟨_, _, -, -, -, rfl⟩ := confirmOrderInTransaction_eq_ok.mp hconfirm
    exact hrecord
  · exact hrecord

theorem applyStripePaymentOutcome_receipts {payment : Payment} {order : Order}
    {outcome : StripePaymentOutcome} {reconciliation : Option String}
    (h : applyStripePaymentOutcome paymentId payment order outcome now db =
      .ok (db', reconciliation)) : db'.webhookEvents = db.webhookEvents := by
  obtain ⟨-, payments, -, ⟨-, -, hconfirm⟩ | ⟨-, rfl⟩⟩ := applyStripePaymentOutcome_ok h
  · obtain ⟨_, _, -, -, -, rfl⟩ := confirmOrderInTransaction_eq_ok.mp hconfirm
    rfl
  · rfl

/-- Evidence that was applied to a stored Stripe payment, and the receipt with
the id `receiptId` that it left; a recovery may rewrite a receipt, an event
always adds one. -/
inductive StripeEvidence (rewrites : Bool) (receiptId : String) (paymentId : Nat) (db : Db) :
    Db → Prop
  | intro {payment : Payment} {order : Order} {outcome : StripePaymentOutcome}
      {now : Time} {applied : Db} {events : Table PaymentWebhookEvent}
      (paid : db.payments.get? paymentId = some payment)
      (ordered : db.orders.get? payment.orderId = some order)
      (provider : payment.provider = .stripe)
      (applies : applyStripePaymentOutcome paymentId payment order outcome now db =
        .ok (applied, lateCapture order outcome))
      (receipt : ∃ k e, events.get? k = some e ∧ e.provider = .stripe ∧
        e.providerEventId = receiptId ∧ e.processingError = lateCapture order outcome ∧
        (rewrites = false → db.webhookEvents.get? k = none)) :
      StripeEvidence rewrites receiptId paymentId db { applied with webhookEvents := events }

theorem findEventPayment_eq_some {number : String → Option Nat} {event : StripePaymentIntentEvent}
    {e : Nat × Payment} (h : findEventPayment number event db = some e) :
    db.payments.get? e.1 = some e.2 ∧ e.2.provider = .stripe := by
  unfold findEventPayment at h
  obtain ⟨hget, hprovider⟩ := Table.find?_eq_some h
  simp only [decide_eq_true_eq] at hprovider
  exact ⟨hget, hprovider.1⟩

/-- An event leaves a receipt, and applies its evidence when it is correlated. -/
theorem stripeEventTransaction_ok {number : String → Option Nat}
    {event : StripePaymentIntentEvent} {result : WebhookResult}
    (h : stripeEventTransaction number event now db = .ok (db', result)) :
    (∃ events, db' = { db with webhookEvents := events }) ∨
      ∃ e, findEventPayment number event db = some e ∧ StripeEvidence false event.id e.1 db db' := by
  simp only [stripeEventTransaction, bind_eq_ok, createRow_eq_ok] at h
  obtain ⟨_, ⟨-, rfl⟩, h⟩ := h
  split at h
  · exact Or.inl ⟨_, (Prod.mk.inj (pure_eq_ok.mp h)).1.symm⟩
  · rename_i paymentId payment order hfound
    simp only [Option.bind_eq_some_iff, Option.map_eq_some_iff, Prod.mk.injEq] at hfound
    obtain ⟨e, hfind, both, hboth, rfl, rfl⟩ := hfound
    obtain ⟨hp, ho⟩ := findPaymentWithOrder_eq_some.mp hboth
    obtain ⟨hp', hprovider⟩ := findEventPayment_eq_some hfind
    split at h
    · exact Or.inl ⟨_, (Prod.mk.inj (pure_eq_ok.mp h)).1.symm⟩
    · simp only [bind_eq_ok, pure_eq_ok, Prod.mk.injEq] at h
      obtain ⟨⟨applied, reconciliation⟩, happly, rfl, -⟩ := h
      obtain ⟨rfl, -⟩ := applyStripePaymentOutcome_ok happly
      refine Or.inr ⟨e, hfind, .intro hp ho ?_ happly ?_⟩
      · obtain rfl := Option.some.inj (hp.symm.trans hp')
        exact hprovider
      · refine ⟨db.webhookEvents.nextId, PaymentWebhookEvent.process now (lateCapture order _)
          (newReceipt .stripe event.id event.type.name), ?_, rfl, rfl, rfl,
          fun _ => Table.get?_nextId _⟩
        rw [Table.get?_update_self, Table.get?_insert_self]
        rfl

theorem reconcileStripePaymentEvent_ok {number : String → Option Nat}
    {event : StripePaymentIntentEvent} {result : WebhookResult}
    (h : reconcileStripePaymentEvent number event now db = .ok (db', result)) :
    (∃ events, db' = { db with webhookEvents := events }) ∨
      ∃ e, findEventPayment number event db = some e ∧ StripeEvidence false event.id e.1 db db' := by
  unfold reconcileStripePaymentEvent at h
  split at h
  · split at h
    · exact Or.inl ⟨db.webhookEvents, (Prod.mk.inj (Except.ok.inj h)).1.symm⟩
    · cases h
  · exact stripeEventTransaction_ok h

theorem upsertRecovery_receipt (providerEventId : String) (now : Time)
    (reconciliation : Option String) (events : Table PaymentWebhookEvent) :
    ∃ k e, (upsertRecovery providerEventId now reconciliation events).get? k = some e ∧
      e.provider = .stripe ∧ e.providerEventId = providerEventId ∧
      e.processingError = reconciliation := by
  unfold upsertRecovery
  split
  · rename_i e hfind
    obtain ⟨hget, hkey⟩ := Table.find?_eq_some hfind
    simp only [decide_eq_true_eq] at hkey
    refine ⟨e.1, { e.2 with processingError := reconciliation }, ?_, hkey.1, hkey.2, rfl⟩
    rw [Table.get?_update_self, hget]
    rfl
  · exact ⟨events.nextId, _, Table.get?_insert_self .., rfl, rfl, rfl⟩

/-- The other receipts stay, and the upserted one keeps its id. -/
theorem upsertRecovery_kept {providerEventId : String} {reconciliation : Option String}
    {events : Table PaymentWebhookEvent} {k : Nat} {e : PaymentWebhookEvent}
    (he : events.get? k = some e) :
    ∃ e', (upsertRecovery providerEventId now reconciliation events).get? k = some e' ∧
      (e'.provider, e'.providerEventId) = (e.provider, e.providerEventId) ∧
      (e' = e ∨ (e.provider, e.providerEventId) = (.stripe, providerEventId) ∧
        e'.processingError = reconciliation) := by
  unfold upsertRecovery
  split
  · rename_i found hfind
    obtain ⟨hget, hkey⟩ := Table.find?_eq_some hfind
    rw [Table.get?_update, he]
    split
    · subst_vars
      obtain rfl := Option.some.inj (he.symm.trans hget)
      exact ⟨_, rfl, rfl, Or.inr ⟨by simpa using hkey, rfl⟩⟩
    · exact ⟨e, rfl, rfl, Or.inl rfl⟩
  · exact ⟨e, Table.get?_insert_of_some he, rfl, Or.inl rfl⟩

/-- A recovery changes nothing, or applies a success to the payment of its call. -/
theorem finishRecovery_ok {call : StripeRecoveryCall} {intent : Option StripePaymentIntent}
    (h : finishRecovery call intent now db = .ok db') :
    db' = db ∨ ∃ i, intent = some i ∧
      StripeEvidence true (recoveryEventId call.paymentId i.id) call.paymentId db db' := by
  simp only [finishRecovery, bind_eq_ok, orThrow_eq_ok, ensure_eq_ok] at h
  obtain ⟨i, rfl, ⟨payment, order⟩, hfound, -, hmatch, h⟩ := h
  obtain ⟨hp, ho⟩ := findPaymentWithOrder_eq_some.mp hfound
  split at h
  · exact Or.inl (pure_eq_ok.mp h).symm
  · simp only [bind_eq_ok, pure_eq_ok] at h
    obtain ⟨⟨applied, reconciliation⟩, happly, rfl⟩ := h
    obtain ⟨rfl, -⟩ := applyStripePaymentOutcome_ok happly
    obtain ⟨k, e, hget, provider, id, error⟩ := upsertRecovery_receipt
      (recoveryEventId call.paymentId i.id) now (lateCapture order i.outcome) applied.webhookEvents
    exact Or.inr ⟨i, rfl, .intro hp ho hmatch.2.2.1 happly
      ⟨k, e, hget, provider, id, error, fun h => by cases h⟩⟩

end Inversion

end ColorfulLife
