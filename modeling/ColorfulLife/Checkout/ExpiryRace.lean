/-
Expiry against the transactions that record a success, statement by statement.

A running transaction is a row of `RaceState.txs`: the point it has reached,
with what it has read. One action lets one transaction take its next statement.
A statement reads what is committed; what a transaction writes is committed with
its last statement, which is when others see it. A transaction that has taken
the order's row lock keeps it to its end, and a statement that needs a lock that
is held waits. The clock may move between any two statements.
-/

import ColorfulLife.Checkout.PayPalRace

namespace ColorfulLife

open Relational

/-! ### Transactions cut at their statements -/

/-- What follows a claim. -/
def finishExpiry (orderId : Nat) (db : Db) : Result Db := do
  let listings ← (sortItems (db.itemsOf orderId)).foldlM releaseReservation db.listings
  return queueCartReconciliation orderId false
    ({ db with listings := listings }.updateOrder orderId Order.expire)

theorem expireOrderReservation_cut (orderId : Nat) (asOf : Time) (db : Db) :
    expireOrderReservation orderId asOf db =
      if (db.orders.get? orderId).any (decide <| ·.isExpirable orderId asOf db) then
        finishExpiry orderId db
      else .ok db := by
  unfold expireOrderReservation
  cases db.orders.get? orderId with
  | none => rfl
  | some order =>
      by_cases claimed : order.isExpirable orderId asOf db
      · simp [claimed]
        rfl
      · simp [claimed]

/-- A manual payment up to its insert: `none` for a replay, else the amount. -/
def acceptManual (orderId : Nat) (reference : ProviderReference) (now : Time) (db : Db) :
    Result (Option Pence) := do
  let order ← orThrow (db.orders.get? orderId) (DomainError.paymentNotFound orderId)
  ensure (0 < order.totalAmount) DomainError.orderTotalNotPositive
  match findByReference .manual reference db.payments with
  | some (_, existing) => do
      ensure (existing.orderId = orderId) (DomainError.paymentConflict orderId existing.orderId)
      return none
  | none => do
      ensure (order.status ≠ .expired) (DomainError.paymentExpired orderId)
      ensure (order.isElapsed now = false) (DomainError.paymentExpired orderId)
      return some order.totalAmount

def insertManual (orderId : Nat) (reference : ProviderReference) (amount : Pence) (now : Time)
    (db : Db) : Result Db := do
  let payments ← createRow Payment.clash (manualPayment orderId amount reference now) db.payments
  return { db with payments := payments }

theorem createPaymentTransaction_cut (orderId : Nat) (reference : ProviderReference) (now : Time)
    (db : Db) : (createPaymentTransaction orderId reference now db).map Prod.fst =
      acceptManual orderId reference now db >>= fun accepted =>
        accepted.elim (.ok db) fun amount => insertManual orderId reference amount now db := by
  unfold createPaymentTransaction acceptManual
  cases db.orders.get? orderId with
  | none => rfl
  | some order =>
      by_cases positive : 0 < order.totalAmount
      · cases findByReference .manual reference db.payments with
        | some e =>
            by_cases own : e.2.orderId = orderId <;>
              simp [positive, own, ensure, orThrow, bind, Except.bind, pure, Except.pure, Except.map]
        | none =>
            by_cases expired : order.status = .expired <;>
              cases elapsed : order.isElapsed now <;>
              simp [positive, expired, elapsed, insertManual, ensure, orThrow, bind, Except.bind,
                pure, Except.pure, Except.map]
            cases createRow Payment.clash (manualPayment orderId order.totalAmount reference now)
              db.payments <;> rfl
      · simp [positive, ensure, orThrow, bind, Except.bind, Except.map]

/-! ### The machine -/

/-- How the success of a payment was reported. -/
inductive SuccessReport where
  | stripeEvent (id : String)
  | recovery (intentId : ProviderReference)
  | capture (captureId : String)
  | paypalEvent (id : String)
  deriving DecidableEq, Repr

/-- The receipt a report leaves, if it leaves one. -/
def SuccessReport.key (paymentId : Nat) : SuccessReport → PaymentProvider × String
  | .stripeEvent id => (.stripe, id)
  | .recovery intentId => (.stripe, recoveryEventId paymentId intentId)
  | .capture captureId => (.paypal, "capture:" ++ captureId)
  | .paypalEvent id => (.paypal, id)

/-- The success that an event reports by its decision. -/
def PayPalDecision.success (eventId : String) : PayPalDecision → Option (Nat × SuccessReport)
  | .succeed paymentId _ _ _ => some (paymentId, .paypalEvent eventId)
  | _ => none

/-- The point that a running transaction has reached. -/
inductive Tx where
  | expiryBegun (orderId : Nat) (asOf : Time)
  | expiryLocked (orderId : Nat) (asOf : Time)
  | expiryClaimed (orderId : Nat)
  | manualBegun (orderId : Nat) (reference : ProviderReference)
  | manualLocked (orderId : Nat) (reference : ProviderReference)
  | manualAccepted (orderId : Nat) (reference : ProviderReference) (amount : Pence)
  | stripeBegun (event : StripePaymentIntentEvent)
  | stripeCorrelated (event : StripePaymentIntentEvent) (paymentId orderId : Nat)
  | stripeLocked (event : StripePaymentIntentEvent) (paymentId orderId : Nat)
  | stripeRead (event : StripePaymentIntentEvent) (paymentId : Nat) (payment : Payment)
      (order : Order)
  | recoveryBegun (call : StripeRecoveryCall) (intent : StripePaymentIntent)
  | recoveryLocked (call : StripeRecoveryCall) (intent : StripePaymentIntent)
  | recoveryRead (call : StripeRecoveryCall) (intent : StripePaymentIntent) (payment : Payment)
      (order : Order)
  | captureBegun (call : PayPalCaptureCall) (captureId : String)
  | captureLocked (call : PayPalCaptureCall) (captureId : String)
  | captureRead (call : PayPalCaptureCall) (captureId : String) (order : Order)
  | captureTimed (call : PayPalCaptureCall) (captureId : String) (order : Order) (now : Time)
  | eventBegun (event : PayPalWebhookEvent)
  | eventRead (event : PayPalWebhookEvent) (decision : PayPalDecision)
  | eventTimed (event : PayPalWebhookEvent) (decision : PayPalDecision) (now : Time)

/-- The order whose row the transaction has locked. -/
def Tx.holds : Tx → Option Nat
  | .expiryLocked orderId _ | .expiryClaimed orderId | .manualLocked orderId _
  | .manualAccepted orderId _ _ | .stripeLocked _ _ orderId => some orderId
  | .stripeRead _ _ payment _ => some payment.orderId
  | .recoveryLocked call _ | .recoveryRead call _ _ _ => some call.orderId
  | .captureLocked call _ | .captureRead call _ _ | .captureTimed call _ _ _ => some call.orderId
  | _ => none

/-- The receipt the transaction has created. -/
def Tx.receipt : Tx → Option (PaymentProvider × String)
  | .stripeCorrelated event _ _ | .stripeLocked event _ _ | .stripeRead event _ _ _ =>
      some (.stripe, event.id)
  | .eventRead event _ | .eventTimed event _ _ => some (.paypal, event.id)
  | _ => none

/-- `reported` lists the committed reports of success, each with its payment; it
is looked at by no statement. -/
structure RaceState where
  db : Db
  clock : Time
  txs : Table Tx
  recoveries : Table StripeRecoveryCall
  captures : Table PayPalCaptureCall
  reported : List (Nat × SuccessReport)

/-- What a statement does to its transaction: it waits, goes on, or ends it with
a commit or a rollback. -/
inductive Statement where
  | blocked
  | next (tx : Tx)
  | ends (result : Result Db) (report : Option (Nat × SuccessReport))

namespace RaceState

variable (s : RaceState)

def locked (orderId : Nat) : Bool :=
  (s.txs.find? fun _ tx => decide (tx.holds = some orderId)).isSome

def receiving (provider : PaymentProvider) (eventId : String) : Bool :=
  (s.txs.find? fun _ tx => decide (tx.receipt = some (provider, eventId))).isSome

/-- `SELECT … FOR UPDATE`. -/
def lock (orderId : Nat) (tx : Tx) : Statement :=
  if s.locked orderId then .blocked else .next tx

/-- The receipt's insert waits for another one with the same id, and fails when
there is one already. -/
def receive (receipt : PaymentWebhookEvent) (next : Statement) : Statement :=
  if s.receiving receipt.provider receipt.providerEventId then .blocked
  else if s.db.webhookEvents.clashes PaymentWebhookEvent.clash s.db.webhookEvents.nextId receipt
  then .ends (.error .uniqueViolation) none
  else next

end RaceState

/-- A Stripe event that ends with its receipt. -/
def closeStripeEvent (event : StripePaymentIntentEvent) (error : Option String) (now : Time)
    (db : Db) : Result Db := do
  let events ← createRow PaymentWebhookEvent.clash (newReceipt .stripe event.id event.type.name)
    db.webhookEvents
  return { db with
    webhookEvents := events.update db.webhookEvents.nextId (PaymentWebhookEvent.process now error) }

/-- A Stripe event whose evidence is applied. -/
def applyStripeEvent (event : StripePaymentIntentEvent) (paymentId : Nat) (payment : Payment)
    (order : Order) (now : Time) (db : Db) : Result Db := do
  let events ← createRow PaymentWebhookEvent.clash (newReceipt .stripe event.id event.type.name)
    db.webhookEvents
  let applied ← applyStripePaymentOutcome paymentId payment order event.toStripePaymentOutcome now db
  return { applied.1 with
    webhookEvents := events.update db.webhookEvents.nextId
      (PaymentWebhookEvent.process now applied.2) }

/-- A recovery whose evidence is applied. -/
def applyRecovery (call : StripeRecoveryCall) (intent : StripePaymentIntent) (payment : Payment)
    (order : Order) (now : Time) (db : Db) : Result Db := do
  let applied ← applyStripePaymentOutcome call.paymentId payment order intent.outcome now db
  return { applied.1 with
    webhookEvents := upsertRecovery (recoveryEventId call.paymentId intent.id) now applied.2
      applied.1.webhookEvents }

/-- An event's transaction, taken in one go. -/
theorem stripeEventTransaction_cut (number : String → Option Nat)
    (event : StripePaymentIntentEvent) (now : Time) (db : Db) :
    (stripeEventTransaction number event now db).map Prod.fst =
      match (findEventPayment number event db).bind fun e =>
        (findPaymentWithOrder e.1 db).map (Prod.mk e.1) with
      | none => closeStripeEvent event (some "Unknown Stripe payment") now db
      | some (paymentId, payment, order) =>
          match validateStripePaymentOutcome payment event.toStripePaymentOutcome with
          | some mismatch => closeStripeEvent event (some mismatch) now db
          | none => applyStripeEvent event paymentId payment order now db := by
  unfold stripeEventTransaction closeStripeEvent applyStripeEvent
  generalize ((findEventPayment number event db).bind fun e =>
    (findPaymentWithOrder e.1 db).map (Prod.mk e.1)) = found
  cases createRow PaymentWebhookEvent.clash (newReceipt .stripe event.id event.type.name)
    db.webhookEvents with
  | error e =>
      cases found with
      | none => rfl
      | some found =>
          obtain ⟨paymentId, payment, order⟩ := found
          simp only [bind, Except.bind]
          cases validateStripePaymentOutcome payment event.toStripePaymentOutcome <;> rfl
  | ok events =>
      cases found with
      | none => rfl
      | some found =>
          obtain ⟨paymentId, payment, order⟩ := found
          simp only [bind, Except.bind]
          cases validateStripePaymentOutcome payment event.toStripePaymentOutcome with
          | some mismatch => rfl
          | none =>
              cases applyStripePaymentOutcome paymentId payment order
                event.toStripePaymentOutcome now db <;> rfl

/-- A recovery's final transaction, taken in one go. -/
theorem finishRecovery_cut (call : StripeRecoveryCall) (intent : StripePaymentIntent) (now : Time)
    (db : Db) : finishRecovery call (some intent) now db =
      match findPaymentWithOrder call.paymentId db with
      | none => .error .stripeRecoveryMismatch
      | some (payment, order) =>
          if call.matches intent payment order then
            if intent.succeeded = true then applyRecovery call intent payment order now db
            else .ok db
          else .error .stripeRecoveryMismatch := by
  unfold finishRecovery applyRecovery
  cases findPaymentWithOrder call.paymentId db with
  | none => rfl
  | some found =>
      by_cases same : call.matches intent found.1 found.2
      · cases hs : intent.succeeded <;>
          simp [same, hs, orThrow, ensure, bind, Except.bind, pure, Except.pure]
      · simp [same, orThrow, ensure, bind, Except.bind]

section

variable (number : String → Option Nat)

/-- The next statement of a transaction. -/
def Tx.statement (s : RaceState) : Tx → Statement
  | .expiryBegun orderId asOf => s.lock orderId (.expiryLocked orderId asOf)
  | .expiryLocked orderId asOf =>
      if (s.db.orders.get? orderId).any (decide <| ·.isExpirable orderId asOf s.db) then
        .next (.expiryClaimed orderId)
      else .ends (.ok s.db) none
  | .expiryClaimed orderId => .ends (finishExpiry orderId s.db) none
  | .manualBegun orderId reference => s.lock orderId (.manualLocked orderId reference)
  | .manualLocked orderId reference =>
      match acceptManual orderId reference s.clock s.db with
      | .error e => .ends (.error e) none
      | .ok none => .ends (.ok s.db) none
      | .ok (some amount) => .next (.manualAccepted orderId reference amount)
  | .manualAccepted orderId reference amount =>
      .ends (insertManual orderId reference amount s.clock s.db) none
  | .stripeBegun event =>
      s.receive (newReceipt .stripe event.id event.type.name)
        (match findEventPayment number event s.db with
        | none =>
            .ends (closeStripeEvent event (some "Unknown Stripe payment") s.clock s.db) none
        | some (paymentId, payment) => .next (.stripeCorrelated event paymentId payment.orderId))
  | .stripeCorrelated event paymentId orderId =>
      s.lock orderId (.stripeLocked event paymentId orderId)
  | .stripeLocked event paymentId _ =>
      match findPaymentWithOrder paymentId s.db with
      | none => .ends (closeStripeEvent event (some "Unknown Stripe payment") s.clock s.db) none
      | some (payment, order) =>
          match validateStripePaymentOutcome payment event.toStripePaymentOutcome with
          | some mismatch => .ends (closeStripeEvent event (some mismatch) s.clock s.db) none
          | none => .next (.stripeRead event paymentId payment order)
  | .stripeRead event paymentId payment order =>
      .ends (applyStripeEvent event paymentId payment order s.clock s.db)
        (if event.type = .succeeded then some (paymentId, .stripeEvent event.id) else none)
  | .recoveryBegun call intent => s.lock call.orderId (.recoveryLocked call intent)
  | .recoveryLocked call intent =>
      match findPaymentWithOrder call.paymentId s.db with
      | none => .ends (.error .stripeRecoveryMismatch) none
      | some (payment, order) =>
          if call.matches intent payment order then
            if intent.succeeded = true then .next (.recoveryRead call intent payment order)
            else .ends (.ok s.db) none
          else .ends (.error .stripeRecoveryMismatch) none
  | .recoveryRead call intent payment order =>
      .ends (applyRecovery call intent payment order s.clock s.db)
        (some (call.paymentId, .recovery intent.id))
  | .captureBegun call captureId => s.lock call.orderId (.captureLocked call captureId)
  | .captureLocked call captureId =>
      match s.db.orders.get? call.orderId, s.db.payments.get? call.paymentId with
      | some order, some payment =>
          if payment.status = .succeeded then .ends (.ok s.db) none
          else .next (.captureRead call captureId order)
      | _, _ => .ends (.error .paypalCaptureOrderNotFound) none
  | .captureRead call captureId order => .next (.captureTimed call captureId order s.clock)
  | .captureTimed call captureId order now =>
      .ends (writeCapture call captureId order now s.db) (some (call.paymentId, .capture captureId))
  | .eventBegun event =>
      s.receive (newReceipt .paypal event.id event.eventType)
        (.next (.eventRead event (decidePayPalEvent event s.db)))
  | .eventRead event decision => .next (.eventTimed event decision s.clock)
  | .eventTimed event decision now =>
      .ends ((writePayPalEvent event decision now s.db).map Prod.fst)
        (decision.success event.id)

inductive RaceOp where
  | tick (elapsed : Time)
  | beginExpiry (orderId : Nat)
  | beginManual (orderId : Nat) (reference : ProviderReference)
  | beginStripe (event : StripePaymentIntentEvent)
  | readRecovery (orderId userId : Nat)
  | beginRecovery (callId : Nat) (intent : StripePaymentIntent)
  | prepareCapture (orderId userId : Nat)
  | beginCapture (callId : Nat) (response : PayPalCaptureResponse)
  | beginPayPal (event : PayPalWebhookEvent)
  | advance (txId : Nat)

/-- The transaction that an action begins. -/
def RaceOp.begins (s : RaceState) : RaceOp → Option Tx
  | .beginExpiry orderId => some (.expiryBegun orderId s.clock)
  | .beginManual orderId reference => some (.manualBegun orderId reference)
  | .beginStripe event => some (.stripeBegun event)
  | .beginRecovery callId intent =>
      (s.recoveries.get? callId).map fun call => .recoveryBegun call intent
  | .beginCapture callId response => do
      let call ← s.captures.get? callId
      let captureId ← (acceptCapture call (some response)).toOption
      some (.captureBegun call captureId)
  | .beginPayPal event => some (.eventBegun event)
  | _ => none

def raceStep (s : RaceState) (op : RaceOp) : RaceState :=
  match op with
  | .tick elapsed => { s with clock := s.clock + elapsed }
  | .readRecovery orderId userId =>
      match ColorfulLife.readRecovery orderId userId s.db with
      | .error _ => s
      | .ok call => { s with recoveries := s.recoveries.insert call }
  | .prepareCapture orderId userId =>
      if s.locked orderId then s
      else match preparePayPalCapture orderId userId s.clock s.db with
        | .error _ => s
        | .ok (db, call) => { s with db := db, captures := s.captures.insert call }
  | .advance txId =>
      match s.txs.get? txId with
      | none => s
      | some tx =>
          match tx.statement number s with
          | .blocked => s
          | .next tx' => { s with txs := s.txs.update txId fun _ => tx' }
          | .ends (.error _) _ => { s with txs := s.txs.erase txId }
          | .ends (.ok db) report => { s with
              db := db
              txs := s.txs.erase txId
              reported := s.reported ++ report.toList }
  | op =>
      match op.begins s with
      | none => s
      | some tx => { s with txs := s.txs.insert tx }

end

end ColorfulLife
