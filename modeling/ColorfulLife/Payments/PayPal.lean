/-
PayPal payments: initiation (`paypalOrderService.ts`), capture
(`paypalCaptureService.ts`) and events (`paypalReconciliationService.ts`).

An event is handled in two parts, what it decides from the rows it reads
(`decidePayPalEvent`) and what it then writes (`PayPalDecision.apply`): the rows
are read without a lock, so that other transactions may commit in between. The
map of captures in flight inside one process starts no call of its own and has
no counterpart here.
-/

import ColorfulLife.Payments.Stripe

namespace ColorfulLife

open Relational

/-! ### Initiation -/

/-- `local`: what the preparing transaction returns. -/
structure PayPalOrderCall where
  orderId : Nat
  paymentId : Nat
  payment : Payment
  value : String
  requestId : String
  deriving DecidableEq, Repr

/-- `order-${orderId}-paypal`. -/
def paypalRequestId (orderId : Nat) : String := s!"order-{orderId}-paypal"

def newPayPalPayment (orderId : Nat) (amount : Pence) : Payment where
  orderId := orderId
  amount := amount
  currency := "GBP"
  provider := .paypal
  providerReference := .pending (paypalRequestId orderId)
  idempotencyKey := some (paypalRequestId orderId)
  providerCaptureReference := none
  captureIdempotencyKey := none
  status := .pending
  paidAt := none
  refundedAmount := 0
  reservedRefundAmount := 0

/-- The preparing transaction of `createOrReusePayPalOrder`. Of the order's
status only EXPIRED is looked at. -/
def preparePayPalOrder (orderId userId : Nat) (now : Time) (db : Db) :
    Result (Db × PayPalOrderCall) := do
  let order ← orThrow (db.orders.get? orderId) DomainError.paypalOrderNotFound
  ensure (order.userId = userId) DomainError.paypalOrderOwnership
  ensure (order.status ≠ .expired ∧ order.isElapsed now = false) DomainError.paypalOrderExpired
  ensure (0 < order.totalAmount) (DomainError.paypalProvider "Invalid payment amount")
  let value := toFixed order.totalAmount
  match findByOrder orderId db.payments with
  | some (id, existing) => do
      ensure (existing.provider = .paypal ∧ existing.status ≠ .succeeded)
        DomainError.paypalOrderAlreadyCompleted
      return (db, ⟨orderId, id, existing, value,
        existing.idempotencyKey.getD (paypalRequestId orderId)⟩)
  | none => do
      let payment := newPayPalPayment orderId order.totalAmount
      let payments ← createRow Payment.clash payment db.payments
      return ({ db with payments := payments },
        ⟨orderId, db.payments.nextId, payment, value, paypalRequestId orderId⟩)

/-- A payment with a real reference is returned without asking PayPal. -/
def PayPalOrderCall.asksProvider (call : PayPalOrderCall) : Bool :=
  call.payment.providerReference.isPending

def Payment.resetPayPal (reference : ProviderReference) (payment : Payment) : Payment :=
  { payment with providerReference := reference, status := .pending, paidAt := none }

/-- The final update, on whatever the row has become; `createdId` is `none` when
the provider call threw. -/
def finishPayPalOrder (call : PayPalOrderCall) (createdId : Option ProviderReference) (db : Db) :
    Result Db := do
  let createdId ← orThrow createdId
    (DomainError.paypalProvider "PayPal order operation failed")
  let payments ← writeRow Payment.clash call.paymentId (Payment.resetPayPal createdId) db.payments
  return { db with payments := payments }

/-! ### Capture -/

/-- `prepared`. -/
structure PayPalCaptureCall where
  orderId : Nat
  paymentId : Nat
  paypalOrderId : ProviderReference
  requestId : String
  amount : Pence
  deriving DecidableEq, Repr

/-- `order-${orderId}-paypal-capture`. -/
def paypalCaptureKey (orderId : Nat) : String := s!"order-{orderId}-paypal-capture"

def Payment.keyCapture (requestId : String) (payment : Payment) : Payment :=
  { payment with captureIdempotencyKey := some requestId }

/-- Store the capture's idempotency key when there is none. -/
def recordCaptureKey (paymentId : Nat) (payment : Payment) (requestId : String)
    (payments : Table Payment) : Result (Table Payment) :=
  if (given payment.captureIdempotencyKey).isSome then .ok payments
  else writeRow Payment.clash paymentId (Payment.keyCapture requestId) payments

/-- The preparing transaction of a capture. Of the order's status only EXPIRED
is looked at. -/
def preparePayPalCapture (orderId userId : Nat) (now : Time) (db : Db) :
    Result (Db × PayPalCaptureCall) := do
  let order ← orThrow (db.orders.get? orderId) DomainError.paypalCaptureOrderNotFound
  ensure (order.userId = userId) DomainError.paypalCaptureOwnership
  ensure (order.status ≠ .expired ∧ order.isElapsed now = false) DomainError.paypalCaptureExpired
  let e ← orThrow (findByOrder orderId db.payments) DomainError.paypalCapturePaymentNotFound
  ensure (e.2.provider = .paypal) DomainError.paypalCaptureWrongProvider
  ensure (e.2.status ≠ .succeeded) DomainError.paypalCaptureAlreadyCompleted
  ensure (e.2.providerReference.render ≠ "" ∧ e.2.providerReference.isPending = false)
    (DomainError.paypalCaptureProvider "PayPal Order is not available")
  let requestId := e.2.captureIdempotencyKey.getD (paypalCaptureKey orderId)
  let payments ← recordCaptureKey e.1 e.2 requestId db.payments
  return ({ db with payments := payments },
    ⟨orderId, e.1, e.2.providerReference, requestId, e.2.amount⟩)

/-- The first capture of the response. -/
structure PayPalCapture where
  id : Option String
  completed : Bool
  value : Option String
  currencyCode : Option String
  deriving DecidableEq, Repr

structure PayPalCaptureResponse where
  id : ProviderReference
  completed : Bool
  capture : Option PayPalCapture
  deriving DecidableEq, Repr

/-- The id of a capture that matches the local payment. -/
def acceptCapture (call : PayPalCaptureCall) (response : Option PayPalCaptureResponse) :
    Result String := do
  let response ← orThrow response
    (DomainError.paypalCaptureProvider "PayPal capture operation failed")
  let capture ← orThrow response.capture
    (DomainError.paypalCaptureMismatch "PayPal capture did not match the local payment")
  let id ← orThrow (given capture.id)
    (DomainError.paypalCaptureMismatch "PayPal capture did not match the local payment")
  ensure (response.id = call.paypalOrderId ∧ response.completed = true ∧
      capture.completed = true ∧ capture.currencyCode.map toUpper = some "GBP" ∧
      capture.value = some (toFixed call.amount))
    (DomainError.paypalCaptureMismatch "PayPal capture did not match the local payment")
  return id

def Payment.capture (captureId : String) (now : Time) (payment : Payment) : Payment :=
  { payment with
    status := .succeeded, paidAt := some now, providerCaptureReference := some captureId }

def expiredCapture : String := "Captured payment for expired order requires refund/reconciliation"

/-- `expired`: the test the capture and the event make. -/
def Order.isExpiredAt (order : Order) (now : Time) : Bool :=
  decide (order.status = .expired) || order.isElapsed now

/-- The exception of a capture that came too late. -/
def recordLateCapture (order : Order) (captureId : String) (now : Time)
    (events : Table PaymentWebhookEvent) : Result (Table PaymentWebhookEvent) :=
  if order.isExpiredAt now then
    createRow PaymentWebhookEvent.clash
      (PaymentWebhookEvent.process now (some expiredCapture)
        (newReceipt .paypal ("capture:" ++ captureId) "PAYMENT.CAPTURE.COMPLETED")) events
  else .ok events

/-- The writes of a capture's final transaction. -/
def writeCapture (call : PayPalCaptureCall) (captureId : String) (order : Order) (now : Time)
    (db : Db) : Result Db := do
  let payments ← writeRow Payment.clash call.paymentId (Payment.capture captureId now) db.payments
  let events ← recordLateCapture order captureId now db.webhookEvents
  return { db with payments := payments, webhookEvents := events }

/-- The final transaction, under the order's row lock; a payment that has
succeeded meanwhile is returned as it is. -/
def finishPayPalCapture (call : PayPalCaptureCall) (response : Option PayPalCaptureResponse)
    (now : Time) (db : Db) : Result Db := do
  let captureId ← acceptCapture call response
  let order ← orThrow (db.orders.get? call.orderId) DomainError.paypalCaptureOrderNotFound
  let payment ← orThrow (db.payments.get? call.paymentId) DomainError.paypalCaptureOrderNotFound
  if payment.status = .succeeded then return db
  else writeCapture call captureId order now db

/-! ### Events -/

structure PayPalWebhookEvent where
  id : String
  eventType : String
  captureId : Option String
  paypalOrderId : Option ProviderReference
  amount : Option String
  currency : Option String
  deriving DecidableEq, Repr

/-- `captureEvents`. -/
def captureEvents : List String :=
  ["PAYMENT.CAPTURE.COMPLETED", "PAYMENT.CAPTURE.PENDING", "PAYMENT.CAPTURE.DENIED",
    "PAYMENT.CAPTURE.REFUNDED"]

/-- By the capture, else by the PayPal order. -/
def findPayPalPayment (event : PayPalWebhookEvent) (payments : Table Payment) :
    Option (Nat × Payment) :=
  ((given event.captureId).bind fun captureId => payments.find? fun _ p =>
    decide (p.provider = .paypal ∧ p.providerCaptureReference = some captureId)).or
  ((event.paypalOrderId.filter (decide <| ·.render ≠ "")).bind fun reference =>
    findByReference .paypal reference payments)

/-- What an event writes besides its receipt. -/
inductive PayPalDecision where
  | receipt (processingError : Option String) (handled : Bool)
  | succeed (paymentId : Nat) (payment : Payment) (order : Order) (captureId : String)
  | mark (paymentId : Nat) (status : PaymentStatus)
  deriving DecidableEq, Repr

/-- The capture id of a completed event that matches the payment. -/
def PayPalWebhookEvent.completes (event : PayPalWebhookEvent) (payment : Payment) :
    Option String :=
  (given event.captureId).filter fun _ =>
    decide (event.paypalOrderId = some payment.providerReference ∧
      event.currency.map toUpper = some "GBP" ∧ event.amount = some (toFixed payment.amount))

/-- The decision from the rows that are read. -/
def decidePayPalEvent (event : PayPalWebhookEvent) (db : Db) : PayPalDecision :=
  if event.eventType ∉ captureEvents then .receipt none false
  else
    match (findPayPalPayment event db.payments).bind fun e =>
        (findPaymentWithOrder e.1 db).map (Prod.mk e.1) with
    | none => .receipt (some "Unknown PayPal payment or capture") false
    | some (paymentId, payment, order) =>
        if event.eventType = "PAYMENT.CAPTURE.REFUNDED" then .receipt none true
        else if event.eventType = "PAYMENT.CAPTURE.COMPLETED" then
          match event.completes payment with
          | none => .receipt (some "PayPal capture amount, currency, or identity mismatch") false
          | some captureId => .succeed paymentId payment order captureId
        else if payment.status = .succeeded then .receipt none true
        else .mark paymentId
          (if event.eventType = "PAYMENT.CAPTURE.DENIED" then .failed else .processing)

/-- The row after a completed event that had read `read`. -/
def Payment.completeCapture (read : Payment) (captureId : String) (now : Time)
    (payment : Payment) : Payment :=
  { payment with
    status := .succeeded
    paidAt := some (read.paidAt.getD now)
    providerCaptureReference := some captureId }

def Payment.mark (status : PaymentStatus) (payment : Payment) : Payment :=
  { payment with status := status }

/-- The writes of an event whose receipt is `receipt`. -/
def PayPalDecision.apply (receipt : Nat) (now : Time) (db : Db) :
    PayPalDecision → Result (Db × WebhookResult)
  | .receipt processingError handled =>
      let events := db.webhookEvents.update receipt
        (PaymentWebhookEvent.process now processingError)
      return ({ db with webhookEvents := events }, ⟨false, handled⟩)
  | .succeed paymentId payment order captureId => do
      let payments ← writeRow Payment.clash paymentId
        (Payment.completeCapture payment captureId now) db.payments
      let events := db.webhookEvents.update receipt (PaymentWebhookEvent.process now
        (if order.isExpiredAt now then some expiredCapture else none))
      return ({ db with payments := payments, webhookEvents := events }, ⟨false, true⟩)
  | .mark paymentId status => do
      let payments ← writeRow Payment.clash paymentId (Payment.mark status) db.payments
      let events := db.webhookEvents.update receipt (PaymentWebhookEvent.process now none)
      return ({ db with payments := payments, webhookEvents := events }, ⟨false, true⟩)

/-- The writes of an event's transaction after it has decided. -/
def writePayPalEvent (event : PayPalWebhookEvent) (decision : PayPalDecision) (now : Time)
    (db : Db) : Result (Db × WebhookResult) := do
  let events ← createRow PaymentWebhookEvent.clash (newReceipt .paypal event.id event.eventType)
    db.webhookEvents
  decision.apply db.webhookEvents.nextId now { db with webhookEvents := events }

/-- The transaction of an event, its reads and writes taken together. -/
def paypalEventTransaction (event : PayPalWebhookEvent) (now : Time) (db : Db) :
    Result (Db × WebhookResult) :=
  writePayPalEvent event (decidePayPalEvent event db) now db

/-- A broken unique index is taken for a redelivery. -/
def reconcilePayPalWebhookEvent (event : PayPalWebhookEvent) (now : Time) (db : Db) :
    Result (Db × WebhookResult) :=
  match paypalEventTransaction event now db with
  | .error .uniqueViolation => .ok (db, ⟨true, true⟩)
  | result => result

/-! ### Inversion -/

section Inversion

variable {db db' : Db} {orderId userId : Nat} {now : Time}

/-- When the preparing transaction of an initiation commits. -/
theorem preparePayPalOrder_isOk : (∃ r, preparePayPalOrder orderId userId now db = .ok r) ↔
    ∃ order, db.orders.get? orderId = some order ∧ order.userId = userId ∧
      order.status ≠ .expired ∧ order.isElapsed now = false ∧ 0 < order.totalAmount ∧
      ((∃ e, findByOrder orderId db.payments = some e ∧ e.2.provider = .paypal ∧
          e.2.status ≠ .succeeded) ∨
        (findByOrder orderId db.payments = none ∧
          db.payments.clashes Payment.clash db.payments.nextId
            (newPayPalPayment orderId order.totalAmount) = false)) := by
  simp only [preparePayPalOrder, bind_eq_ok, orThrow_eq_ok, ensure_eq_ok]
  constructor
  · rintro ⟨r, order, horder, -, howner, -, ⟨hstatus, helapsed⟩, -, hamount, h⟩
    refine ⟨order, horder, howner, hstatus, helapsed, hamount, ?_⟩
    cases hfind : findByOrder orderId db.payments with
    | some e =>
        rw [hfind] at h
        simp only [bind_eq_ok, ensure_eq_ok] at h
        obtain ⟨-, ⟨hprovider, hopen⟩, -⟩ := h
        exact Or.inl ⟨e, rfl, hprovider, hopen⟩
    | none =>
        rw [hfind] at h
        simp only [bind_eq_ok, createRow_eq_ok] at h
        obtain ⟨_, ⟨free, -⟩, -⟩ := h
        exact Or.inr ⟨rfl, free⟩
  · rintro ⟨order, horder, howner, hstatus, helapsed, hamount, ⟨e, hfind, hpaypal⟩ | ⟨hfind, free⟩⟩
    · simp only [hfind]
      exact ⟨_, order, horder, ⟨⟩, howner, ⟨⟩, ⟨hstatus, helapsed⟩, ⟨⟩, hamount,
        bind_eq_ok.mpr ⟨⟨⟩, ensure_eq_ok.mpr hpaypal, rfl⟩⟩
    · simp only [hfind]
      exact ⟨_, order, horder, ⟨⟩, howner, ⟨⟩, ⟨hstatus, helapsed⟩, ⟨⟩, hamount,
        bind_eq_ok.mpr ⟨_, createRow_eq_ok.mpr ⟨free, rfl⟩, rfl⟩⟩

/-- A prepared initiation is about a stored PayPal payment of the order. -/
theorem preparePayPalOrder_ok {call : PayPalOrderCall}
    (h : preparePayPalOrder orderId userId now db = .ok (db', call)) :
    call.orderId = orderId ∧
      ((db' = db ∧ findByOrder orderId db.payments = some (call.paymentId, call.payment) ∧
          call.payment.provider = .paypal) ∨
        ∃ amount, db.payments.clashes Payment.clash db.payments.nextId
            (newPayPalPayment orderId amount) = false ∧
          call.paymentId = db.payments.nextId ∧
          db' = { db with payments := db.payments.insert (newPayPalPayment orderId amount) }) := by
  simp only [preparePayPalOrder, bind_eq_ok, orThrow_eq_ok, ensure_eq_ok] at h
  obtain ⟨order, -, -, -, -, -, -, -, h⟩ := h
  cases hfind : findByOrder orderId db.payments with
  | some e =>
      rw [hfind] at h
      simp only [bind_eq_ok, ensure_eq_ok, pure_eq_ok, Prod.mk.injEq] at h
      obtain ⟨-, ⟨hprovider, -⟩, rfl, rfl⟩ := h
      exact ⟨rfl, Or.inl ⟨rfl, rfl, hprovider⟩⟩
  | none =>
      rw [hfind] at h
      simp only [bind_eq_ok, createRow_eq_ok, pure_eq_ok, Prod.mk.injEq] at h
      obtain ⟨_, ⟨free, rfl⟩, rfl, rfl⟩ := h
      exact ⟨rfl, Or.inr ⟨order.totalAmount, free, rfl, rfl⟩⟩

theorem finishPayPalOrder_eq_ok {call : PayPalOrderCall} {createdId : Option ProviderReference} :
    finishPayPalOrder call createdId db = .ok db' ↔
      ∃ reference payment, createdId = some reference ∧
        db.payments.get? call.paymentId = some payment ∧
        db.payments.clashes Payment.clash call.paymentId (payment.resetPayPal reference) = false ∧
        db' = { db with
          payments := db.payments.update call.paymentId (Payment.resetPayPal reference) } := by
  simp only [finishPayPalOrder, bind_eq_ok, orThrow_eq_ok, writeRow_eq_ok, pure_eq_ok]
  constructor
  · rintro ⟨reference, hcreated, _, ⟨payment, hp, free, rfl⟩, rfl⟩
    exact ⟨reference, payment, hcreated, hp, free, rfl⟩
  · rintro ⟨reference, payment, hcreated, hp, free, rfl⟩
    exact ⟨reference, hcreated, _, ⟨payment, hp, free, rfl⟩, rfl⟩

/-- When the preparing transaction of a capture commits. -/
theorem preparePayPalCapture_isOk : (∃ r, preparePayPalCapture orderId userId now db = .ok r) ↔
    ∃ order e payments, db.orders.get? orderId = some order ∧ order.userId = userId ∧
      order.status ≠ .expired ∧ order.isElapsed now = false ∧
      findByOrder orderId db.payments = some e ∧ e.2.provider = .paypal ∧
      e.2.status ≠ .succeeded ∧ e.2.providerReference.render ≠ "" ∧
      e.2.providerReference.isPending = false ∧
      recordCaptureKey e.1 e.2 (e.2.captureIdempotencyKey.getD (paypalCaptureKey orderId))
        db.payments = .ok payments := by
  simp only [preparePayPalCapture, bind_eq_ok, orThrow_eq_ok, ensure_eq_ok, pure_eq_ok]
  constructor
  · rintro ⟨_, order, horder, -, howner, -, ⟨hstatus, helapsed⟩, e, hfind, -, hprovider, -, hopen,
      -, ⟨hreal, hpending⟩, payments, hkey, -⟩
    exact ⟨order, e, payments, horder, howner, hstatus, helapsed, hfind, hprovider, hopen, hreal,
      hpending, hkey⟩
  · rintro ⟨order, e, payments, horder, howner, hstatus, helapsed, hfind, hprovider, hopen, hreal,
      hpending, hkey⟩
    exact ⟨_, order, horder, ⟨⟩, howner, ⟨⟩, ⟨hstatus, helapsed⟩, e, hfind, ⟨⟩, hprovider, ⟨⟩,
      hopen, ⟨⟩, ⟨hreal, hpending⟩, payments, hkey, rfl⟩

/-- A prepared capture is about the stored PayPal payment of the order, whose
idempotency key is all that it may have changed. -/
theorem preparePayPalCapture_ok {call : PayPalCaptureCall}
    (h : preparePayPalCapture orderId userId now db = .ok (db', call)) :
    call.orderId = orderId ∧ ∃ payment, db.payments.get? call.paymentId = some payment ∧
      payment.provider = .paypal ∧ payment.orderId = orderId ∧
      (db' = db ∨
        (db.payments.clashes Payment.clash call.paymentId
            (payment.keyCapture call.requestId) = false ∧
          db' = { db with
            payments := db.payments.update call.paymentId
              (Payment.keyCapture call.requestId) })) := by
  simp only [preparePayPalCapture, bind_eq_ok, orThrow_eq_ok, ensure_eq_ok, pure_eq_ok,
    Prod.mk.injEq] at h
  obtain ⟨order, -, -, -, -, -, e, hfind, -, hprovider, -, -, -, -, payments, hkey, rfl, rfl⟩ := h
  obtain ⟨hp, howner⟩ := findByOrder_eq_some hfind
  refine ⟨rfl, e.2, hp, hprovider, howner, ?_⟩
  unfold recordCaptureKey at hkey
  split at hkey
  · obtain rfl := Except.ok.inj hkey
    exact Or.inl rfl
  · obtain ⟨payment, hp', free, rfl⟩ := writeRow_eq_ok.mp hkey
    obtain rfl := Option.some.inj (hp.symm.trans hp')
    exact Or.inr ⟨free, rfl⟩

theorem writeCapture_eq_ok {call : PayPalCaptureCall} {captureId : String} {order : Order} :
    writeCapture call captureId order now db = .ok db' ↔
      ∃ payment events, db.payments.get? call.paymentId = some payment ∧
        db.payments.clashes Payment.clash call.paymentId (payment.capture captureId now) = false ∧
        recordLateCapture order captureId now db.webhookEvents = .ok events ∧
        db' = { db with
          payments := db.payments.update call.paymentId (Payment.capture captureId now)
          webhookEvents := events } := by
  simp only [writeCapture, bind_eq_ok, writeRow_eq_ok, pure_eq_ok]
  constructor
  · rintro ⟨_, ⟨payment, hp, free, rfl⟩, events, hevents, rfl⟩
    exact ⟨payment, events, hp, free, hevents, rfl⟩
  · rintro ⟨payment, events, hp, free, hevents, rfl⟩
    exact ⟨_, ⟨payment, hp, free, rfl⟩, events, hevents, rfl⟩

/-- The final transaction of a capture finds a success, or records its own. -/
theorem finishPayPalCapture_eq_ok {call : PayPalCaptureCall}
    {response : Option PayPalCaptureResponse} :
    finishPayPalCapture call response now db = .ok db' ↔
      ∃ captureId order payment, acceptCapture call response = .ok captureId ∧
        db.orders.get? call.orderId = some order ∧
        db.payments.get? call.paymentId = some payment ∧
        ((payment.status = .succeeded ∧ db' = db) ∨
          (payment.status ≠ .succeeded ∧
            writeCapture call captureId order now db = .ok db')) := by
  simp only [finishPayPalCapture, bind_eq_ok, orThrow_eq_ok]
  constructor
  · rintro ⟨captureId, haccept, order, horder, payment, hp, h⟩
    refine ⟨captureId, order, payment, haccept, horder, hp, ?_⟩
    split at h
    · exact Or.inl ⟨‹_›, (pure_eq_ok.mp h).symm⟩
    · exact Or.inr ⟨‹_›, h⟩
  · rintro ⟨captureId, order, payment, haccept, horder, hp, ⟨hstatus, rfl⟩ | ⟨hstatus, hwrite⟩⟩
    · exact ⟨captureId, haccept, order, horder, payment, hp, by rw [if_pos hstatus]; rfl⟩
    · exact ⟨captureId, haccept, order, horder, payment, hp, by rw [if_neg hstatus]; exact hwrite⟩

theorem findByReference_eq_some {provider : PaymentProvider} {reference : ProviderReference}
    {payments : Table Payment} {e : Nat × Payment}
    (h : findByReference provider reference payments = some e) :
    payments.get? e.1 = some e.2 ∧ e.2.provider = provider ∧ e.2.providerReference = reference := by
  obtain ⟨hget, hkey⟩ := Table.find?_eq_some h
  exact ⟨hget, by simpa using hkey⟩

theorem findPayPalPayment_eq_some {event : PayPalWebhookEvent} {payments : Table Payment}
    {e : Nat × Payment} (h : findPayPalPayment event payments = some e) :
    payments.get? e.1 = some e.2 ∧ e.2.provider = .paypal := by
  rcases Option.or_eq_some_iff.mp h with found | ⟨-, found⟩
  · obtain ⟨captureId, -, hfind⟩ := Option.bind_eq_some_iff.mp found
    obtain ⟨hget, hkey⟩ := Table.find?_eq_some hfind
    simp only [decide_eq_true_eq] at hkey
    exact ⟨hget, hkey.1⟩
  · obtain ⟨reference, -, hfind⟩ := Option.bind_eq_some_iff.mp found
    obtain ⟨hget, hprovider, -⟩ := findByReference_eq_some hfind
    exact ⟨hget, hprovider⟩

/-- What a decision is based on: for a success the PayPal payment that was read
with its order, for a mark one that was not read as succeeded. -/
theorem decidePayPalEvent_reads (event : PayPalWebhookEvent) (db : Db) :
    (∃ error handled, decidePayPalEvent event db = .receipt error handled) ∨
      ∃ paymentId payment order, db.payments.get? paymentId = some payment ∧
        payment.provider = .paypal ∧ db.orders.get? payment.orderId = some order ∧
        ((∃ captureId, decidePayPalEvent event db = .succeed paymentId payment order captureId) ∨
          (payment.status ≠ .succeeded ∧
            ∃ status, status ≠ .succeeded ∧ decidePayPalEvent event db = .mark paymentId status)) := by
  unfold decidePayPalEvent
  split
  · exact Or.inl ⟨_, _, rfl⟩
  · split
    · exact Or.inl ⟨_, _, rfl⟩
    · rename_i paymentId payment order hfound
      simp only [Option.bind_eq_some_iff, Option.map_eq_some_iff, Prod.mk.injEq] at hfound
      obtain ⟨e, hfind, both, hboth, rfl, rfl⟩ := hfound
      obtain ⟨hp, ho⟩ := findPaymentWithOrder_eq_some.mp hboth
      obtain ⟨hp', hprovider⟩ := findPayPalPayment_eq_some hfind
      obtain rfl := Option.some.inj (hp'.symm.trans hp)
      split
      · exact Or.inl ⟨_, _, rfl⟩
      · split
        · split
          · exact Or.inl ⟨_, _, rfl⟩
          · exact Or.inr ⟨_, _, _, hp, hprovider, ho, Or.inl ⟨_, rfl⟩⟩
        · split
          · exact Or.inl ⟨_, _, rfl⟩
          · refine Or.inr ⟨_, _, _, hp, hprovider, ho, Or.inr ⟨‹_›, _, ?_, rfl⟩⟩
            split <;> decide

/-- What a decision writes. -/
def PayPalDecision.Writes (receipt : Nat) (now : Time) (db db' : Db) : PayPalDecision → Prop
  | .receipt error _ => db' = { db with
      webhookEvents := db.webhookEvents.update receipt (PaymentWebhookEvent.process now error) }
  | .succeed paymentId payment order captureId => ∃ row,
      db.payments.get? paymentId = some row ∧
      db.payments.clashes Payment.clash paymentId
        (Payment.completeCapture payment captureId now row) =
        false ∧
      db' = { db with
        payments := db.payments.update paymentId (Payment.completeCapture payment captureId now)
        webhookEvents := db.webhookEvents.update receipt (PaymentWebhookEvent.process now
          (if order.isExpiredAt now then some expiredCapture else none)) }
  | .mark paymentId status => ∃ row, db.payments.get? paymentId = some row ∧
      db.payments.clashes Payment.clash paymentId (row.mark status) = false ∧
      db' = { db with
        payments := db.payments.update paymentId (Payment.mark status)
        webhookEvents := db.webhookEvents.update receipt (PaymentWebhookEvent.process now none) }

theorem PayPalDecision.apply_isOk {receipt : Nat} {decision : PayPalDecision} :
    (∃ result, decision.apply receipt now db = .ok (db', result)) ↔
      decision.Writes receipt now db db' := by
  cases decision with
  | receipt error handled =>
      simp only [PayPalDecision.apply, PayPalDecision.Writes, pure_eq_ok, Prod.mk.injEq]
      constructor
      · rintro ⟨_, rfl, -⟩
        rfl
      · rintro rfl
        exact ⟨_, rfl, rfl⟩
  | succeed | mark =>
      simp only [PayPalDecision.apply, PayPalDecision.Writes, bind_eq_ok, writeRow_eq_ok,
        pure_eq_ok, Prod.mk.injEq]
      constructor
      · rintro ⟨_, _, ⟨row, hrow, free, rfl⟩, rfl, -⟩
        exact ⟨row, hrow, free, rfl⟩
      · rintro ⟨row, hrow, free, rfl⟩
        exact ⟨_, _, ⟨row, hrow, free, rfl⟩, rfl, rfl⟩

/-- A first delivery commits what its decision writes. -/
theorem writePayPalEvent_isOk {event : PayPalWebhookEvent} {decision : PayPalDecision} :
    (∃ result, writePayPalEvent event decision now db = .ok (db', result)) ↔
      db.webhookEvents.clashes PaymentWebhookEvent.clash db.webhookEvents.nextId
          (newReceipt .paypal event.id event.eventType) = false ∧
        decision.Writes db.webhookEvents.nextId now
          { db with webhookEvents :=
              db.webhookEvents.insert (newReceipt .paypal event.id event.eventType) } db' := by
  simp only [writePayPalEvent, bind_eq_ok, createRow_eq_ok, ← PayPalDecision.apply_isOk]
  constructor
  · rintro ⟨result, _, ⟨new, rfl⟩, happly⟩
    exact ⟨new, result, happly⟩
  · rintro ⟨new, result, happly⟩
    exact ⟨result, _, ⟨new, rfl⟩, happly⟩

theorem paypalEventTransaction_ok {event : PayPalWebhookEvent} {result : WebhookResult}
    (h : paypalEventTransaction event now db = .ok (db', result)) :
    db.webhookEvents.clashes PaymentWebhookEvent.clash db.webhookEvents.nextId
        (newReceipt .paypal event.id event.eventType) = false ∧
      (decidePayPalEvent event db).Writes db.webhookEvents.nextId now
        { db with webhookEvents :=
            db.webhookEvents.insert (newReceipt .paypal event.id event.eventType) } db' :=
  writePayPalEvent_isOk.mp ⟨result, h⟩

theorem reconcilePayPalWebhookEvent_ok {event : PayPalWebhookEvent} {result : WebhookResult}
    (h : reconcilePayPalWebhookEvent event now db = .ok (db', result)) :
    db' = db ∨ ∃ result, paypalEventTransaction event now db = .ok (db', result) := by
  unfold reconcilePayPalWebhookEvent at h
  split at h
  · exact Or.inl (Prod.mk.inj (Except.ok.inj h)).1.symm
  · exact Or.inr ⟨result, h⟩

end Inversion

end ColorfulLife
