/-
Checkout as a machine: the shop's requests, and the payment calls of both
providers cut at their transactions.

A call that waits for its provider is a row of one of the call tables, so that
any number of calls, of any process, can be under way and be answered in any
order, late or never. Provider answers and events are arguments of the actions
and so arbitrary; so are the instants, one for each transaction.

Two of PayPal's transactions read a payment without a lock and are cut once more,
between that read and their writes: the final one of a capture and the one of an
event, which reads its order as well. Stripe's hold the lock of the order before
they read.
-/

import ColorfulLife.Payments.PayPal
import ColorfulLife.Shop.Goods

namespace ColorfulLife

open Relational

/-- A capture whose answer is accepted, and which has read its payment as not
succeeded. -/
structure AcceptedCapture where
  call : PayPalCaptureCall
  captureId : String

/-- An event whose receipt is created and whose decision is taken. -/
structure PendingEvent where
  event : PayPalWebhookEvent
  decision : PayPalDecision

structure CheckoutState where
  db : Db
  stripeCalls : Table StripeIntentCall
  recoveries : Table StripeRecoveryCall
  paypalCalls : Table PayPalOrderCall
  captures : Table PayPalCaptureCall
  captureWrites : Table AcceptedCapture
  eventWrites : Table PendingEvent

inductive CheckoutOp where
  | shop (op : ShopOp)
  | createPayment (orderId : Nat) (reference : ProviderReference) (now : Time)
  | startStripe (orderId userId : Nat) (now : Time)
  | finishStripe (callId : Nat) (intentId : Option ProviderReference)
  | stripeEvent (event : StripePaymentIntentEvent) (now : Time)
  | startRecovery (orderId userId : Nat)
  | finishRecovery (callId : Nat) (intent : Option StripePaymentIntent) (now : Time)
  | startPayPal (orderId userId : Nat) (now : Time)
  | finishPayPal (callId : Nat) (createdId : Option ProviderReference)
  | startCapture (orderId userId : Nat) (now : Time)
  | readCapture (callId : Nat) (response : Option PayPalCaptureResponse)
  | writeCapture (pendingId : Nat) (now : Time)
  | readPayPalEvent (event : PayPalWebhookEvent)
  | writePayPalEvent (pendingId : Nat) (now : Time)

/-- The database after a transaction that also returns a value. -/
def commitFst {α : Type} (tx : Result (Db × α)) (db : Db) : Db := commit (tx.map Prod.fst) db

/-- The answer is checked and the payment read. -/
def readAcceptedCapture (call : PayPalCaptureCall) (response : Option PayPalCaptureResponse)
    (db : Db) : Option AcceptedCapture := do
  let captureId ← (acceptCapture call response).toOption
  let payment ← db.payments.get? call.paymentId
  if payment.status = .succeeded then none else some ⟨call, captureId⟩

/-- The writes of a capture. The order is as it was when its lock was taken, before
the payment was read. -/
def AcceptedCapture.write (pending : AcceptedCapture) (now : Time) (db : Db) : Result Db := do
  let order ← orThrow (db.orders.get? pending.call.orderId) DomainError.paypalCaptureOrderNotFound
  writeCapture pending.call pending.captureId order now db

theorem AcceptedCapture.write_eq_ok {pending : AcceptedCapture} {now : Time} {db db' : Db} :
    pending.write now db = .ok db' ↔
      ∃ order payment events, db.orders.get? pending.call.orderId = some order ∧
        db.payments.get? pending.call.paymentId = some payment ∧
        db.payments.clashes Payment.clash pending.call.paymentId
          (payment.capture pending.captureId now) = false ∧
        recordLateCapture order pending.captureId now db.webhookEvents = .ok events ∧
        db' = { db with
          payments := db.payments.update pending.call.paymentId
            (Payment.capture pending.captureId now)
          webhookEvents := events } := by
  simp only [AcceptedCapture.write, bind_eq_ok, orThrow_eq_ok, writeCapture_eq_ok,
    exists_and_left]

/-- The receipt of the event is written and not committed. -/
def CheckoutState.receiving (s : CheckoutState) (eventId : String) : Bool :=
  (s.eventWrites.find? fun _ pending => decide (pending.event.id = eventId)).isSome

section

variable (digest : CanonicalRequest → String) (number : String → Option Nat)

def checkoutStep (s : CheckoutState) : CheckoutOp → CheckoutState
  | .shop op => { s with db := shopStep digest s.db op }
  | .createPayment orderId reference now =>
      { s with db := commitFst (createPayment orderId reference now s.db) s.db }
  | .startStripe orderId userId now =>
      match prepareStripeIntent orderId userId now s.db with
      | .error _ => s
      | .ok (db, call) => { s with db := db, stripeCalls := s.stripeCalls.insert call }
  | .finishStripe callId intentId =>
      match s.stripeCalls.get? callId with
      | none => s
      | some call => { s with
          db := commit (finishStripeIntent call intentId s.db) s.db
          stripeCalls := s.stripeCalls.erase callId }
  | .stripeEvent event now =>
      { s with db := commitFst (reconcileStripePaymentEvent number event now s.db) s.db }
  | .startRecovery orderId userId =>
      match readRecovery orderId userId s.db with
      | .error _ => s
      | .ok call => { s with recoveries := s.recoveries.insert call }
  | .finishRecovery callId intent now =>
      match s.recoveries.get? callId with
      | none => s
      | some call => { s with
          db := commit (ColorfulLife.finishRecovery call intent now s.db) s.db
          recoveries := s.recoveries.erase callId }
  | .startPayPal orderId userId now =>
      match preparePayPalOrder orderId userId now s.db with
      | .error _ => s
      | .ok (db, call) =>
          if call.asksProvider then { s with db := db, paypalCalls := s.paypalCalls.insert call }
          else { s with db := db }
  | .finishPayPal callId createdId =>
      match s.paypalCalls.get? callId with
      | none => s
      | some call => { s with
          db := commit (finishPayPalOrder call createdId s.db) s.db
          paypalCalls := s.paypalCalls.erase callId }
  | .startCapture orderId userId now =>
      match preparePayPalCapture orderId userId now s.db with
      | .error _ => s
      | .ok (db, call) => { s with db := db, captures := s.captures.insert call }
  | .readCapture callId response =>
      match s.captures.get? callId with
      | none => s
      | some call =>
          match readAcceptedCapture call response s.db with
          | none => { s with captures := s.captures.erase callId }
          | some pending => { s with
              captures := s.captures.erase callId
              captureWrites := s.captureWrites.insert pending }
  | .writeCapture pendingId now =>
      match s.captureWrites.get? pendingId with
      | none => s
      | some pending => { s with
          db := commit (pending.write now s.db) s.db
          captureWrites := s.captureWrites.erase pendingId }
  | .readPayPalEvent event =>
      if s.receiving event.id then s
      else if s.db.webhookEvents.clashes PaymentWebhookEvent.clash s.db.webhookEvents.nextId
          (newReceipt .paypal event.id event.eventType) then s
      else { s with eventWrites := s.eventWrites.insert ⟨event, decidePayPalEvent event s.db⟩ }
  | .writePayPalEvent pendingId now =>
      match s.eventWrites.get? pendingId with
      | none => s
      | some pending => { s with
          db := commitFst (writePayPalEvent pending.event pending.decision now s.db) s.db
          eventWrites := s.eventWrites.erase pendingId }

/-! ### Against the transactions -/

variable {digest number} {s : CheckoutState}

/-- Read and written without another action in between, a capture is its final
transaction. -/
theorem finishPayPalCapture_run {callId : Nat} {call : PayPalCaptureCall}
    (found : s.captures.get? callId = some call) (response : Option PayPalCaptureResponse)
    (now : Time) :
    (run (checkoutStep digest number) s
        [.readCapture callId response, .writeCapture s.captureWrites.nextId now]).db =
      commit (finishPayPalCapture call response now s.db) s.db := by
  have absent : s.captureWrites.get? s.captureWrites.nextId = none := Table.get?_nextId _
  simp only [run_cons, run_nil, checkoutStep, found, readAcceptedCapture, finishPayPalCapture]
  cases accepted : acceptCapture call response with
  | error e => simp [Except.toOption, absent, bind, Except.bind]
  | ok captureId =>
      simp only [Except.toOption, bind, Except.bind, Option.bind_some]
      cases hp : s.db.payments.get? call.paymentId with
      | none => cases s.db.orders.get? call.orderId <;> simp [absent, orThrow]
      | some payment =>
          by_cases paid : payment.status = .succeeded
          · cases s.db.orders.get? call.orderId <;>
              simp [absent, orThrow, paid, pure, Except.pure]
          · cases horder : s.db.orders.get? call.orderId <;>
              simp [orThrow, paid, AcceptedCapture.write, horder, bind, Except.bind]

/-- Read and written without another action in between, an event is its
transaction. -/
theorem reconcilePayPalWebhookEvent_run {event : PayPalWebhookEvent} (now : Time)
    (idle : s.receiving event.id = false) :
    (run (checkoutStep digest number) s
        [.readPayPalEvent event, .writePayPalEvent s.eventWrites.nextId now]).db =
      commitFst (reconcilePayPalWebhookEvent event now s.db) s.db := by
  have absent : s.eventWrites.get? s.eventWrites.nextId = none := Table.get?_nextId _
  rw [run_cons, run_cons, run_nil, reconcilePayPalWebhookEvent, paypalEventTransaction]
  by_cases receipted : s.db.webhookEvents.clashes PaymentWebhookEvent.clash
      s.db.webhookEvents.nextId (newReceipt .paypal event.id event.eventType) = true
  · have taken : createRow PaymentWebhookEvent.clash (newReceipt .paypal event.id event.eventType)
        s.db.webhookEvents = .error .uniqueViolation := by
      rw [createRow, receipted]
      rfl
    have refused : writePayPalEvent event (decidePayPalEvent event s.db) now s.db =
        .error .uniqueViolation := by
      rw [writePayPalEvent, taken]
      rfl
    simp [checkoutStep, idle, receipted, absent, refused, commitFst, Except.map]
  · simp only [checkoutStep, idle, receipted, Bool.false_eq_true, if_false, Table.get?_insert_self]
    rcases writePayPalEvent event (decidePayPalEvent event s.db) now s.db with e | result
    · cases e <;> rfl
    · rfl

end

/-- A shop before its first order, without payments and calls. -/
structure FreshCheckout (s : CheckoutState) : Prop where
  shop : FreshShop s.db
  payments : ∀ p, s.db.payments.get? p = none
  stripeCalls : ∀ c, s.stripeCalls.get? c = none
  recoveries : ∀ c, s.recoveries.get? c = none
  paypalCalls : ∀ c, s.paypalCalls.get? c = none
  captures : ∀ c, s.captures.get? c = none
  captureWrites : ∀ c, s.captureWrites.get? c = none
  eventWrites : ∀ c, s.eventWrites.get? c = none

/-- The sample shop, nobody paying yet. -/
def sampleCheckout : CheckoutState where
  db := sampleShop
  stripeCalls := .empty
  recoveries := .empty
  paypalCalls := .empty
  captures := .empty
  captureWrites := .empty
  eventWrites := .empty

/-- The sample order's PayPal order. -/
def samplePayPalOrder : ProviderReference := .other "5O190127TN364715T" (by decide)

/-- PayPal reports the sample order's capture. -/
def sampleCaptured : PayPalCaptureResponse where
  id := samplePayPalOrder
  completed := true
  capture := some ⟨some "3C679366HH908993F", true, some "10.00", some "GBP"⟩

/-- The event of the sample order's capture. -/
def sampleCompleted : PayPalWebhookEvent where
  id := "WH-2WR32451HC0233532"
  eventType := "PAYMENT.CAPTURE.COMPLETED"
  captureId := some "3C679366HH908993F"
  paypalOrderId := some samplePayPalOrder
  amount := some "10.00"
  currency := some "GBP"

theorem sampleCheckout_fresh : FreshCheckout sampleCheckout where
  shop := sampleShop_fresh
  payments := fun _ => rfl
  stripeCalls := fun _ => rfl
  recoveries := fun _ => rfl
  paypalCalls := fun _ => rfl
  captures := fun _ => rfl
  captureWrites := fun _ => rfl
  eventWrites := fun _ => rfl

end ColorfulLife
