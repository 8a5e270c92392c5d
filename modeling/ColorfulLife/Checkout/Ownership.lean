/-
Who is told the result of a payment call.

The calls of this machine have callers, and an answer for each. A capture keeps
a map of the operations in flight in its process, by order: a call that finds
one there waits for it and is given its result. The requests of the shop and the
providers' events come in between.
-/

import ColorfulLife.Payments.PayPal
import ColorfulLife.Shop.Effects
import ColorfulLife.Checkout.Machine

namespace ColorfulLife

open Relational

/-! ### Results -/

structure StripeIntentAnswer where
  id : ProviderReference
  clientSecret : Option String
  status : String
  deriving DecidableEq, Repr

structure PayPalOrderAnswer where
  id : ProviderReference
  approvalUrl : Option String
  deriving DecidableEq, Repr

structure CaptureResult where
  paymentId : Nat
  paypalOrderId : ProviderReference
  captureId : Option String
  deriving DecidableEq, Repr

/-- `getCustomerOrder`: the customer's own order, and how it was paid. -/
structure CustomerOrder where
  order : Order
  items : List (Nat × OrderItem)
  payment : Option (PaymentStatus × Option Time)
  deriving DecidableEq, Repr

def getCustomerOrder (userId orderId : Nat) (db : Db) : Option CustomerOrder :=
  ((db.orders.get? orderId).filter (decide <| ·.userId = userId)).map fun order =>
    { order
      items := db.itemsOf orderId
      payment := (findByOrder orderId db.payments).map fun e => (e.2.status, e.2.paidAt) }

inductive PaymentResult where
  | stripeIntent (paymentId : Nat) (intent : StripeIntentAnswer)
  | recovered (order : CustomerOrder)
  | paypalOrder (paymentId : Nat) (paypalOrderId : ProviderReference) (approvalUrl : Option String)
  | captured (result : CaptureResult)
  deriving DecidableEq, Repr

/-- The errors that say no more than that the caller has no such order. -/
def DomainError.deniesOwnership : DomainError → Bool
  | .stripePaymentOrderNotFound | .stripePaymentOwnership | .stripeRecoveryOrderNotFound
  | .paypalOrderNotFound | .paypalOrderOwnership
  | .paypalCaptureOrderNotFound | .paypalCaptureOwnership => true
  | _ => false

/-- What a caller was told about an order. -/
structure Answer where
  orderId : Nat
  userId : Nat
  result : Result PaymentResult

/-! ### The machine -/

/-- A provider call with the caller who waits for it. -/
structure Asked (κ : Type) where
  userId : Nat
  call : κ

inductive CaptureStage where
  | starting
  | asking (call : PayPalCaptureCall)
  | settled (result : Result CaptureResult)

/-- One execution of a capture, started by one of its callers. -/
structure CaptureOperation where
  orderId : Nat
  userId : Nat
  stage : CaptureStage

/-- A call of `capturePayPalOrder` that awaits an operation; `opened` when it
started it. -/
structure CaptureCaller where
  process : Nat
  orderId : Nat
  userId : Nat
  operation : Nat
  opened : Bool

structure CallState where
  db : Db
  stripeCalls : Table (Asked StripeIntentCall)
  recoveries : Table StripeRecoveryCall
  recovered : Table StripeRecoveryCall
  paypalCalls : Table (Asked PayPalOrderCall)
  operations : Table CaptureOperation
  captureCallers : Table CaptureCaller
  inFlight : Nat → Nat → Option Nat
  answers : List Answer

inductive CallOp where
  | shop (op : ShopOp)
  | createPayment (orderId : Nat) (reference : ProviderReference) (now : Time)
  | stripeEvent (event : StripePaymentIntentEvent) (now : Time)
  | paypalEvent (event : PayPalWebhookEvent) (now : Time)
  | createOrReuseStripePaymentIntent (orderId userId : Nat) (now : Time)
  | stripeAnswers (callId : Nat) (intent : Option StripeIntentAnswer)
  | recoverStripePayment (orderId userId : Nat)
  | recoveryAnswers (callId : Nat) (intent : Option StripePaymentIntent) (now : Time)
  | readRecovered (callId : Nat)
  | createOrReusePayPalOrder (orderId userId : Nat) (now : Time)
  | paypalAnswers (callId : Nat) (created : Option PayPalOrderAnswer)
  | capturePayPalOrder (process orderId userId : Nat)
  | prepareCapture (operationId : Nat) (now : Time)
  | captureAnswers (operationId : Nat) (response : Option PayPalCaptureResponse) (now : Time)
  | returnCapture (callerId : Nat)

namespace CallState

def tell (s : CallState) (orderId userId : Nat) (result : Result PaymentResult) : CallState :=
  { s with answers := s.answers ++ [⟨orderId, userId, result⟩] }

def withStage (s : CallState) (operationId : Nat) (stage : CaptureStage) : CallState :=
  { s with operations := s.operations.update operationId fun o => { o with stage := stage } }

/-- `inFlight.set(orderId, operation)`, or `inFlight.delete(orderId)`. -/
def setInFlight (s : CallState) (process orderId : Nat) (operation : Option Nat) : CallState :=
  { s with inFlight := fun p o =>
      if p = process ∧ o = orderId then operation else s.inFlight p o }

end CallState

/-- The final transaction of an initiation, and what its caller is told. -/
def closeStripeIntent (call : StripeIntentCall) (intent : Option StripeIntentAnswer) (db : Db) :
    Result (Db × PaymentResult) := do
  let closed ← finishStripeIntent call (intent.map (·.id)) db
  let intent ← orThrow intent (DomainError.stripePaymentProvider "Stripe payment operation failed")
  return (closed, .stripeIntent call.paymentId intent)

def closePayPalOrder (call : PayPalOrderCall) (created : Option PayPalOrderAnswer) (db : Db) :
    Result (Db × PaymentResult) := do
  let closed ← finishPayPalOrder call (created.map (·.id)) db
  let created ← orThrow created (DomainError.paypalProvider "PayPal order operation failed")
  return (closed, .paypalOrder call.paymentId created.id created.approvalUrl)

/-- The result of a capture is read off the payment row. -/
def closeCapture (call : PayPalCaptureCall) (response : Option PayPalCaptureResponse) (now : Time)
    (db : Db) : Result (Db × CaptureResult) := do
  let closed ← finishPayPalCapture call response now db
  let payment ← orThrow (closed.payments.get? call.paymentId)
    DomainError.paypalCaptureOrderNotFound
  return (closed, ⟨call.paymentId, payment.providerReference, payment.providerCaptureReference⟩)

section

variable (digest : CanonicalRequest → String) (number : String → Option Nat)

def callStep (s : CallState) : CallOp → CallState
  | .shop op => { s with db := shopStep digest s.db op }
  | .createPayment orderId reference now =>
      { s with db := commitFst (createPayment orderId reference now s.db) s.db }
  | .stripeEvent event now =>
      { s with db := commitFst (reconcileStripePaymentEvent number event now s.db) s.db }
  | .paypalEvent event now =>
      { s with db := commitFst (reconcilePayPalWebhookEvent event now s.db) s.db }
  | .createOrReuseStripePaymentIntent orderId userId now =>
      match prepareStripeIntent orderId userId now s.db with
      | .error e => s.tell orderId userId (.error e)
      | .ok (db, call) => { s with db := db, stripeCalls := s.stripeCalls.insert ⟨userId, call⟩ }
  | .stripeAnswers callId intent =>
      match s.stripeCalls.get? callId with
      | none => s
      | some ⟨userId, call⟩ =>
          let s := { s with stripeCalls := s.stripeCalls.erase callId }
          match closeStripeIntent call intent s.db with
          | .error e => s.tell call.orderId userId (.error e)
          | .ok (db, result) =>
              { s with db := db }.tell call.orderId userId
                ((stripeIntentOutcome call db).map fun _ => result)
  | .recoverStripePayment orderId userId =>
      match readRecovery orderId userId s.db with
      | .error e => s.tell orderId userId (.error e)
      | .ok call => { s with recoveries := s.recoveries.insert call }
  | .recoveryAnswers callId intent now =>
      match s.recoveries.get? callId with
      | none => s
      | some call =>
          let s := { s with recoveries := s.recoveries.erase callId }
          match finishRecovery call intent now s.db with
          | .error e => s.tell call.orderId call.userId (.error e)
          | .ok db => { s with db := db, recovered := s.recovered.insert call }
  | .readRecovered callId =>
      match s.recovered.get? callId with
      | none => s
      | some call =>
          { s with recovered := s.recovered.erase callId }.tell call.orderId call.userId
            ((orThrow (getCustomerOrder call.userId call.orderId s.db)
              DomainError.stripeRecoveryOrderNotFound).map .recovered)
  | .createOrReusePayPalOrder orderId userId now =>
      match preparePayPalOrder orderId userId now s.db with
      | .error e => s.tell orderId userId (.error e)
      | .ok (db, call) =>
          if call.asksProvider then
            { s with db := db, paypalCalls := s.paypalCalls.insert ⟨userId, call⟩ }
          else { s with db := db }.tell orderId userId
            (.ok (.paypalOrder call.paymentId call.payment.providerReference none))
  | .paypalAnswers callId created =>
      match s.paypalCalls.get? callId with
      | none => s
      | some ⟨userId, call⟩ =>
          let s := { s with paypalCalls := s.paypalCalls.erase callId }
          match closePayPalOrder call created s.db with
          | .error e => s.tell call.orderId userId (.error e)
          | .ok (db, result) => { s with db := db }.tell call.orderId userId (.ok result)
  | .capturePayPalOrder process orderId userId =>
      match s.inFlight process orderId with
      | some existing => { s with
          captureCallers := s.captureCallers.insert ⟨process, orderId, userId, existing, false⟩ }
      | none =>
          let operation := s.operations.nextId
          { s with
            operations := s.operations.insert ⟨orderId, userId, .starting⟩
            captureCallers :=
              s.captureCallers.insert ⟨process, orderId, userId, operation, true⟩ }.setInFlight
            process orderId (some operation)
  | .prepareCapture operationId now =>
      match s.operations.get? operationId with
      | some ⟨orderId, userId, .starting⟩ =>
          match preparePayPalCapture orderId userId now s.db with
          | .error e => s.withStage operationId (.settled (.error e))
          | .ok (db, call) => { s with db := db }.withStage operationId (.asking call)
      | _ => s
  | .captureAnswers operationId response now =>
      match s.operations.get? operationId with
      | some ⟨_, _, .asking call⟩ =>
          match closeCapture call response now s.db with
          | .error e => s.withStage operationId (.settled (.error e))
          | .ok (db, result) => { s with db := db }.withStage operationId (.settled (.ok result))
      | _ => s
  | .returnCapture callerId =>
      match s.captureCallers.get? callerId with
      | none => s
      | some caller =>
          match s.operations.get? caller.operation with
          | some ⟨_, _, .settled result⟩ =>
              let s := { s with captureCallers := s.captureCallers.erase callerId }
              -- `finally`: the call that started the operation removes it.
              let s := if caller.opened ∧
                  s.inFlight caller.process caller.orderId = some caller.operation then
                s.setInFlight caller.process caller.orderId none else s
              s.tell caller.orderId caller.userId (result.map .captured)
          | _ => s

end

/-! ### Owners -/

def Db.owns (db : Db) (orderId userId : Nat) : Prop :=
  ∃ order, db.orders.get? orderId = some order ∧ order.userId = userId

/-- A result, or an error other than a denial, goes to the owner only. -/
def Answer.Lawful (db : Db) (a : Answer) : Prop :=
  ((∃ r, a.result = .ok r) → db.owns a.orderId a.userId) ∧
    (¬ db.owns a.orderId a.userId → ∃ e, a.result = .error e ∧ e.deniesOwnership = true)

def OwnersOnly (s : CallState) : Prop := ∀ a ∈ s.answers, a.Lawful s.db

/-- The operation has found its user to be the owner. -/
def CaptureStage.passed : CaptureStage → Bool
  | .starting => false
  | .asking _ => true
  | .settled (.ok _) => true
  | .settled (.error e) => !e.deniesOwnership

/-- Whoever waits for a capture that its owner started is the owner: no call
joins one that has passed its check, and none has joined one that will pass. -/
def CallOp.KeepsCaptures (s : CallState) : CallOp → Prop
  | .capturePayPalOrder process orderId userId => ∀ k operation,
      s.inFlight process orderId = some k → s.operations.get? k = some operation →
      operation.stage.passed = true → userId = operation.userId
  | .prepareCapture k _ => ∀ operation, s.operations.get? k = some operation →
      operation.stage = .starting → s.db.owns operation.orderId operation.userId →
      ∀ c caller, s.captureCallers.get? c = some caller → caller.operation = k →
        caller.userId = operation.userId
  | _ => True

/-! ### Owners stay -/

def OwnersKept (db db' : Db) : Prop := ∀ o u, db.owns o u → db'.owns o u

namespace OwnersKept

variable {db db' db'' : Db}

theorem refl (db : Db) : OwnersKept db db := fun _ _ => id

theorem same (orders : db'.orders = db.orders) : OwnersKept db db' := by
  rintro o u ⟨order, found, owner⟩
  exact ⟨order, orders ▸ found, owner⟩

theorem update {o : Nat} {f : Order → Order} (owner : ∀ x, (f x).userId = x.userId)
    (orders : db'.orders = db.orders.update o f) : OwnersKept db db' := by
  rintro o' u ⟨order, found, rfl⟩
  unfold Db.owns
  rw [orders, Table.get?_update, found]
  split
  · exact ⟨f order, rfl, owner order⟩
  · exact ⟨order, rfl, rfl⟩

theorem insert {order : Order} (orders : db'.orders = db.orders.insert order) :
    OwnersKept db db' := by
  rintro o u ⟨order', found, owner⟩
  exact ⟨order', orders ▸ Table.get?_insert_of_some found, owner⟩

theorem confirm {performedBy o : Nat} (tx : confirmOrderInTransaction performedBy o db = .ok db') :
    OwnersKept db db' := by
  obtain ⟨order, stock, -, -, -, rfl⟩ := confirmOrderInTransaction_eq_ok.mp tx
  exact update (f := Order.confirm) (fun _ => rfl) rfl

theorem cancel {owner : Option Nat} {cancelledBy : CancellationInitiator} {performedBy o : Nat}
    {reason : CancellationReason} {now : Time}
    (tx : cancelWith owner cancelledBy performedBy o reason now db = .ok db') :
    OwnersKept db db' := by
  obtain ⟨order, -, -, ⟨-, listings, -, rfl⟩ | ⟨-, stock, -, rfl⟩⟩ := cancelWith_eq_ok.mp tx
  · exact update (f := Order.cancel cancelledBy reason now) (fun _ => rfl) rfl
  · exact update (f := Order.cancel cancelledBy reason now) (fun _ => rfl) rfl

/-- No request of the shop gives an order to somebody else. -/
theorem shop (digest : CanonicalRequest → String) (db : Db) (op : ShopOp) :
    OwnersKept db (shopStep digest db op) := by
  refine commit_rel (refl db) fun db' tx => ?_
  cases op with
  | createOrder userId input key now =>
      obtain ⟨⟨db₁, id⟩, hcreate, rfl⟩ := map_eq_ok.mp tx
      rcases createOrder_cases hcreate with ⟨rfl, -⟩ | ⟨settled, -, hsettle, -, hplace⟩
      · exact refl _
      · obtain ⟨-, _, _, _, -, -, -, -, -, halloc⟩ := placeOrder_eq_ok.mp hplace
        obtain ⟨_, _, _, rfl⟩ := (settleCartReconciliation_frame hsettle).fields
        obtain ⟨_, _, _, rfl⟩ := (allocateOrderCart_frame halloc).fields
        exact insert rfl
  | confirmOrder performedBy id => exact confirm tx
  | cancelOrder userId id reason now => exact cancel tx
  | cancelOrderByAdmin id reason admin now => exact cancel tx
  | expireOrderReservation id asOf =>
      rcases expireOrderReservation_cases tx with rfl | ⟨order, listings, -, -, -, rfl⟩
      · exact refl _
      · exact update (f := Order.expire) (fun _ => rfl) rfl
  | dispatchOrder id cost carrier tracking now =>
      obtain ⟨order, -, -, rfl⟩ := dispatchOrder_eq_ok.mp tx
      exact update (f := Order.dispatch cost carrier tracking now) (fun _ => rfl) rfl
  | completeOrder id now =>
      obtain ⟨order, -, -, rfl⟩ := completeOrder_eq_ok.mp tx
      exact update (f := Order.complete now) (fun _ => rfl) rfl
  | adjustInventory id quantity performedBy =>
      obtain ⟨l, -, -, -, -, rfl⟩ := adjustInventory_eq_ok.mp tx
      exact same rfl
  | writeOffInventory input =>
      obtain ⟨l, -, -, -, -, rfl⟩ := writeOffInventory_eq_ok.mp tx
      exact same rfl
  | reconcileStocktake input =>
      obtain ⟨l, -, -, -, -, -, ⟨-, rfl⟩ | ⟨-, rfl⟩⟩ := reconcileStocktake_eq_ok.mp tx
      · exact refl _
      · exact same rfl
  | createUsedOffer input uploaded =>
      obtain ⟨⟨db₁, id⟩, hcreate, rfl⟩ := map_eq_ok.mp tx
      obtain ⟨listings, product, -, -, rfl⟩ := persistUsedOffer_ok hcreate
      exact same rfl
  | convertToUsedOffer input uploaded =>
      obtain ⟨⟨db₁, id⟩, hconvert, rfl⟩ := map_eq_ok.mp tx
      obtain ⟨listings, product, -, -, rfl⟩ := persistUsedOffer_ok hconvert
      exact same rfl
  | receivePurchaseItem userId id now =>
      obtain ⟨item, listingId, l, -, -, -, -, -, -, -, rfl⟩ := receivePurchaseItem_eq_ok.mp tx
      exact same rfl
  | returnPurchaseItem userId id now =>
      obtain ⟨item, listingId, l, -, -, -, -, -, -, -, rfl⟩ := returnPurchaseItem_eq_ok.mp tx
      exact same rfl
  | requestOrderReturn orderId itemId request performedBy =>
      obtain ⟨item, -, -, -, -, -, -, rfl⟩ := requestOrderReturn_eq_ok.mp tx
      exact same rfl
  | cancelOrderReturn orderId ret now =>
      obtain ⟨row, item, -, -, -, rfl⟩ := cancelOrderReturn_eq_ok.mp tx
      exact same rfl
  | authorizeOrderReturn orderId ret now =>
      obtain ⟨row, item, -, -, rfl⟩ := advanceReturn_eq_ok.mp tx
      exact same rfl
  | receiveOrderReturn orderId ret now =>
      obtain ⟨row, item, -, -, rfl⟩ := advanceReturn_eq_ok.mp tx
      exact same rfl
  | inspectOrderReturn orderId ret inspection now =>
      obtain ⟨row, item, l, -, -, -, -, -, -, rfl⟩ := inspectOrderReturn_ok tx
      exact same rfl
  | completeOrderReturn orderId ret performedBy now =>
      obtain ⟨row, item, l, -, -, -, -, -, -, rfl⟩ := completeOrderReturn_eq_ok.mp tx
      exact same rfl

theorem commitFst {α : Type} {tx : Result (Db × α)}
    (body : ∀ db' a, tx = .ok (db', a) → OwnersKept db db') :
    OwnersKept db (ColorfulLife.commitFst tx db) := by
  refine commit_rel (refl db) fun db' h => ?_
  obtain ⟨⟨db₁, a⟩, htx, rfl⟩ := map_eq_ok.mp h
  exact body db₁ a htx

theorem evidence {rewrites : Bool} {receiptId : String} {paymentId : Nat}
    (h : StripeEvidence rewrites receiptId paymentId db db') : OwnersKept db db' := by
  obtain ⟨-, -, -, applies, -⟩ := h
  obtain ⟨-, payments, -, ⟨-, -, hconfirm⟩ | ⟨-, rfl⟩⟩ := applyStripePaymentOutcome_ok applies
  · have confirmed : OwnersKept { db with payments := payments } _ := confirm hconfirm
    exact confirmed
  · exact same rfl

theorem payPalDecision {receipt : Nat} {now : Time} {decision : PayPalDecision}
    (h : decision.Writes receipt now db db') : OwnersKept db db' := by
  cases decision with
  | receipt error handled =>
      obtain rfl := h
      exact same rfl
  | succeed paymentId payment order captureId =>
      obtain ⟨row, -, -, rfl⟩ := h
      exact same rfl
  | mark paymentId status =>
      obtain ⟨row, -, -, rfl⟩ := h
      exact same rfl

theorem payment {orderId : Nat} {reference : ProviderReference} {now : Time} {id : Nat}
    (tx : createPayment orderId reference now db = .ok (db', id)) : OwnersKept db db' := by
  rcases createPayment_ok tx with rfl | hcreate
  · exact refl _
  · rcases createPaymentTransaction_ok hcreate with rfl | ⟨order, -, -, -, -, rfl⟩
    · exact refl _
    · exact same rfl

theorem stripeEvent {number : String → Option Nat} {event : StripePaymentIntentEvent} {now : Time}
    {result : WebhookResult}
    (tx : reconcileStripePaymentEvent number event now db = .ok (db', result)) :
    OwnersKept db db' := by
  rcases reconcileStripePaymentEvent_ok tx with ⟨events, rfl⟩ | ⟨e, -, applied⟩
  · exact same rfl
  · exact evidence applied

theorem paypalEvent {event : PayPalWebhookEvent} {now : Time} {result : WebhookResult}
    (tx : reconcilePayPalWebhookEvent event now db = .ok (db', result)) : OwnersKept db db' := by
  rcases reconcilePayPalWebhookEvent_ok tx with rfl | ⟨result, htx⟩
  · exact refl _
  · have decided := payPalDecision (paypalEventTransaction_ok htx).2
    exact decided

theorem closeStripe {call : StripeIntentCall} {intent : Option StripeIntentAnswer}
    {result : PaymentResult} (tx : closeStripeIntent call intent db = .ok (db', result)) :
    OwnersKept db db' := by
  simp only [closeStripeIntent, bind_eq_ok, pure_eq_ok, Prod.mk.injEq] at tx
  obtain ⟨closed, hfinish, _, -, rfl, -⟩ := tx
  rcases finishStripeIntent_ok hfinish with rfl | ⟨reference, payment, -, -, -, rfl⟩
  · exact refl _
  · exact same rfl

theorem closePayPal {call : PayPalOrderCall} {created : Option PayPalOrderAnswer}
    {result : PaymentResult} (tx : closePayPalOrder call created db = .ok (db', result)) :
    OwnersKept db db' := by
  simp only [closePayPalOrder, bind_eq_ok, pure_eq_ok, Prod.mk.injEq] at tx
  obtain ⟨closed, hfinish, _, -, rfl, -⟩ := tx
  obtain ⟨reference, payment, -, -, -, rfl⟩ := finishPayPalOrder_eq_ok.mp hfinish
  exact same rfl

theorem closeCapture {call : PayPalCaptureCall} {response : Option PayPalCaptureResponse}
    {now : Time} {result : CaptureResult}
    (tx : closeCapture call response now db = .ok (db', result)) : OwnersKept db db' := by
  simp only [ColorfulLife.closeCapture, bind_eq_ok, pure_eq_ok, Prod.mk.injEq] at tx
  obtain ⟨closed, hfinish, _, -, rfl, -⟩ := tx
  obtain ⟨_, _, payment, -, -, -, ⟨-, rfl⟩ | ⟨-, hwrite⟩⟩ := finishPayPalCapture_eq_ok.mp hfinish
  · exact refl _
  · obtain ⟨payment, events, -, -, -, rfl⟩ := writeCapture_eq_ok.mp hwrite
    exact same rfl

theorem recovery {call : StripeRecoveryCall} {intent : Option StripePaymentIntent} {now : Time}
    (tx : finishRecovery call intent now db = .ok db') : OwnersKept db db' := by
  rcases finishRecovery_ok tx with rfl | ⟨i, -, applied⟩
  · exact refl _
  · exact evidence applied

end OwnersKept

/-! ### What the first transactions show -/

section Prepare

variable {db db' : Db} {orderId userId : Nat} {now : Time} {e : DomainError}

/-- Who is not the owner is refused as such. -/
def DeniesOthers (db : Db) (orderId userId : Nat) (e : DomainError) : Prop :=
  e.deniesOwnership = true ∨ db.owns orderId userId

/-- A request that first finds the order and compares its owner denies others. -/
theorem DeniesOthers.of_checks {β : Type} {missing foreign : DomainError} {rest : Order → Result β}
    (notFound : missing.deniesOwnership = true) (notOwned : foreign.deniesOwnership = true)
    (h : (orThrow (db.orders.get? orderId) missing >>= fun order =>
      ensure (order.userId = userId) foreign >>= fun _ => rest order) = .error e) :
    DeniesOthers db orderId userId e := by
  simp only [bind_eq_error, orThrow_eq_error, orThrow_eq_ok, ensure_eq_error, ensure_eq_ok] at h
  rcases h with ⟨-, rfl⟩ | ⟨order, found, ⟨-, rfl⟩ | ⟨-, owner, -⟩⟩
  · exact Or.inl notFound
  · exact Or.inl notOwned
  · exact Or.inr ⟨order, found, owner⟩

theorem prepareStripeIntent_owner {call : StripeIntentCall}
    (h : prepareStripeIntent orderId userId now db = .ok (db', call)) :
    db.owns orderId userId ∧ call.orderId = orderId ∧ OwnersKept db db' := by
  have asked : call.orderId = orderId := by
    simp only [prepareStripeIntent, bind_eq_ok] at h
    obtain ⟨order, -, -, -, -, -, -, -, -, -, h⟩ := h
    split at h <;> simp only [bind_eq_ok, pure_eq_ok, Prod.mk.injEq] at h
    · obtain ⟨-, -, -, rfl⟩ := h
      rfl
    · obtain ⟨_, -, -, rfl⟩ := h
      rfl
  obtain ⟨order, found, owner, -, -, ⟨rfl, -⟩ | ⟨-, -, rfl⟩⟩ := prepareStripeIntent_ok h
  · exact ⟨⟨order, found, owner⟩, asked, OwnersKept.refl _⟩
  · exact ⟨⟨order, found, owner⟩, asked, OwnersKept.same rfl⟩

theorem prepareStripeIntent_denies (h : prepareStripeIntent orderId userId now db = .error e) :
    DeniesOthers db orderId userId e :=
  .of_checks rfl rfl h

theorem readRecovery_owner {call : StripeRecoveryCall}
    (h : readRecovery orderId userId db = .ok call) :
    db.owns orderId userId ∧ call.orderId = orderId ∧ call.userId = userId := by
  simp only [readRecovery, bind_eq_ok, orThrow_eq_ok, pure_eq_ok] at h
  obtain ⟨order, found, e, -, rfl⟩ := h
  obtain ⟨found, owner⟩ := Option.filter_eq_some_iff.mp found
  exact ⟨⟨order, found, of_decide_eq_true owner⟩, rfl, rfl⟩

theorem readRecovery_denies (h : readRecovery orderId userId db = .error e) :
    DeniesOthers db orderId userId e := by
  simp only [readRecovery, bind_eq_error, orThrow_eq_error, orThrow_eq_ok] at h
  rcases h with ⟨-, rfl⟩ | ⟨order, found, -⟩
  · exact Or.inl rfl
  · obtain ⟨found, owner⟩ := Option.filter_eq_some_iff.mp found
    exact Or.inr ⟨order, found, of_decide_eq_true owner⟩

theorem preparePayPalOrder_owner {call : PayPalOrderCall}
    (h : preparePayPalOrder orderId userId now db = .ok (db', call)) :
    db.owns orderId userId ∧ call.orderId = orderId ∧ OwnersKept db db' := by
  obtain ⟨order, found, owner, -⟩ := preparePayPalOrder_isOk.mp ⟨_, h⟩
  obtain ⟨asked, ⟨rfl, -⟩ | ⟨amount, -, -, rfl⟩⟩ := preparePayPalOrder_ok h
  · exact ⟨⟨order, found, owner⟩, asked, OwnersKept.refl _⟩
  · exact ⟨⟨order, found, owner⟩, asked, OwnersKept.same rfl⟩

theorem preparePayPalOrder_denies (h : preparePayPalOrder orderId userId now db = .error e) :
    DeniesOthers db orderId userId e :=
  .of_checks rfl rfl h

theorem preparePayPalCapture_owner {call : PayPalCaptureCall}
    (h : preparePayPalCapture orderId userId now db = .ok (db', call)) :
    db.owns orderId userId ∧ OwnersKept db db' := by
  obtain ⟨order, e, payments, found, owner, -⟩ := preparePayPalCapture_isOk.mp ⟨_, h⟩
  obtain ⟨-, payment, -, -, -, rfl | ⟨-, rfl⟩⟩ := preparePayPalCapture_ok h
  · exact ⟨⟨order, found, owner⟩, OwnersKept.refl _⟩
  · exact ⟨⟨order, found, owner⟩, OwnersKept.same rfl⟩

theorem preparePayPalCapture_denies (h : preparePayPalCapture orderId userId now db = .error e) :
    DeniesOthers db orderId userId e :=
  .of_checks rfl rfl h

end Prepare

/-! ### The invariant -/

def Answer.Due (db : Db) (a : Answer) : Prop :=
  (∃ e, a.result = .error e ∧ e.deniesOwnership = true) ∨ db.owns a.orderId a.userId

theorem Answer.Due.lawful {db : Db} {a : Answer} (h : a.Due db) : a.Lawful db := by
  constructor
  · rintro ⟨r, ok⟩
    rcases h with ⟨e, error, -⟩ | owns
    · cases ok.symm.trans error
    · exact owns
  · intro foreign
    exact h.resolve_right foreign

/-- Whoever still waits for a provider is the owner, and so is everybody who
waits for an operation that has passed its check. -/
structure CallInv (s : CallState) : Prop where
  stripeCalls : ∀ c a, s.stripeCalls.get? c = some a → s.db.owns a.call.orderId a.userId
  recoveries : ∀ c a, s.recoveries.get? c = some a → s.db.owns a.orderId a.userId
  recovered : ∀ c a, s.recovered.get? c = some a → s.db.owns a.orderId a.userId
  paypalCalls : ∀ c a, s.paypalCalls.get? c = some a → s.db.owns a.call.orderId a.userId
  operations : ∀ k o, s.operations.get? k = some o → o.stage.passed = true →
    s.db.owns o.orderId o.userId
  callers : ∀ c a, s.captureCallers.get? c = some a →
    ∃ o, s.operations.get? a.operation = some o ∧ o.orderId = a.orderId ∧
      (o.stage.passed = true → a.userId = o.userId)
  inFlight : ∀ p i k, s.inFlight p i = some k →
    ∃ o, s.operations.get? k = some o ∧ o.orderId = i
  answers : ∀ a ∈ s.answers, a.Due s.db

theorem CallInv.ownersOnly {s : CallState} (h : CallInv s) : OwnersOnly s :=
  fun a ha => (h.answers a ha).lawful

namespace CallInv

variable {s : CallState} {db : Db}

theorem withDb (h : CallInv s) (kept : OwnersKept s.db db) : CallInv { s with db := db } where
  stripeCalls := fun c a ha => kept _ _ (h.stripeCalls c a ha)
  recoveries := fun c a ha => kept _ _ (h.recoveries c a ha)
  recovered := fun c a ha => kept _ _ (h.recovered c a ha)
  paypalCalls := fun c a ha => kept _ _ (h.paypalCalls c a ha)
  operations := fun k o ho passed => kept _ _ (h.operations k o ho passed)
  callers := h.callers
  inFlight := h.inFlight
  answers := fun a ha => (h.answers a ha).imp_right (kept _ _)

theorem tell (h : CallInv s) {orderId userId : Nat} {result : Result PaymentResult}
    (due : (Answer.mk orderId userId result).Due s.db) :
    CallInv (s.tell orderId userId result) := by
  refine { h with answers := fun a ha => ?_ }
  rcases List.mem_append.mp ha with ha | ha
  · exact h.answers a ha
  · rw [List.mem_singleton.mp ha]
    exact due

/-- A refused first transaction. -/
theorem refuse (h : CallInv s) {orderId userId : Nat} {e : DomainError}
    (denies : DeniesOthers s.db orderId userId e) : CallInv (s.tell orderId userId (.error e)) :=
  h.tell (denies.imp_left fun denied => ⟨e, rfl, denied⟩)

/-- Stages move; when one passes its check, only its own user waits. -/
theorem withStage (h : CallInv s) {k : Nat} {operation : CaptureOperation} {stage : CaptureStage}
    (found : s.operations.get? k = some operation)
    (owns : stage.passed = true → s.db.owns operation.orderId operation.userId)
    (alone : stage.passed = true → ∀ c caller, s.captureCallers.get? c = some caller →
      caller.operation = k → caller.userId = operation.userId) :
    CallInv (s.withStage k stage) := by
  have read : ∀ j o', (s.operations.update k fun o => { o with stage := stage }).get? j = some o' →
      ∃ o, s.operations.get? j = some o ∧ o' = if j = k then { o with stage := stage } else o := by
    intro j o' ho'
    rw [Table.get?_update] at ho'
    split at ho'
    · obtain ⟨o, ho, rfl⟩ := Option.map_eq_some_iff.mp ho'
      exact ⟨o, ho, by simp [*]⟩
    · exact ⟨o', ho', by simp [*]⟩
  refine { h with operations := fun j o' ho' passed => ?_, callers := fun c a ha => ?_,
                  inFlight := fun p i j hj => ?_ }
  · obtain ⟨o, ho, rfl⟩ := read j o' ho'
    by_cases same : j = k
    · subst same
      obtain rfl := Option.some.inj (found.symm.trans ho)
      rw [if_pos rfl] at passed ⊢
      exact owns passed
    · rw [if_neg same] at passed ⊢
      exact h.operations j o ho passed
  · obtain ⟨o, ho, order, own⟩ := h.callers c a ha
    dsimp only [CallState.withStage]
    rw [Table.get?_update, ho]
    by_cases same : a.operation = k
    · rw [same] at ho
      obtain rfl := Option.some.inj (found.symm.trans ho)
      rw [if_pos same]
      exact ⟨{ operation with stage := stage }, rfl, order,
        fun passed => alone passed c a ha same⟩
    · exact ⟨o, by rw [if_neg same], order, own⟩
  · obtain ⟨o, ho, order⟩ := h.inFlight p i j hj
    dsimp only [CallState.withStage]
    rw [Table.get?_update, ho]
    by_cases same : j = k
    · rw [if_pos same]
      exact ⟨{ o with stage := stage }, rfl, order⟩
    · exact ⟨o, by rw [if_neg same], order⟩

theorem erased {α : Type} {t : Table α} {P : α → Prop} {k : Nat}
    (h : ∀ c a, t.get? c = some a → P a) : ∀ c a, (t.erase k).get? c = some a → P a := by
  intro c a ha
  rw [Table.get?_erase] at ha
  split at ha
  · cases ha
  · exact h c a ha

theorem inserted {α : Type} {t : Table α} {P : α → Prop} {r : α}
    (h : ∀ c a, t.get? c = some a → P a) (new : P r) :
    ∀ c a, (t.insert r).get? c = some a → P a := by
  intro c a ha
  rw [Table.get?_insert] at ha
  split at ha
  · exact Option.some.inj ha ▸ new
  · exact h c a ha

/-- A call of a capture joins, or opens an operation. -/
theorem capture (h : CallInv s) {process orderId userId : Nat}
    (keeps : (CallOp.capturePayPalOrder process orderId userId).KeepsCaptures s)
    (digest : CanonicalRequest → String) (number : String → Option Nat) :
    CallInv (callStep digest number s (.capturePayPalOrder process orderId userId)) := by
  unfold callStep
  dsimp only
  cases flying : s.inFlight process orderId with
  | some existing =>
      obtain ⟨o, ho, order⟩ := h.inFlight _ _ _ flying
      refine { h with callers := inserted h.callers ⟨o, ho, order, fun passed => ?_⟩ }
      exact keeps existing o flying ho passed
  | none =>
      have old : ∀ k o, s.operations.get? k = some o →
          (s.operations.insert ⟨orderId, userId, .starting⟩).get? k = some o :=
        fun k o ho => Table.get?_insert_of_some ho
      have new : (s.operations.insert ⟨orderId, userId, .starting⟩).get? s.operations.nextId =
          some ⟨orderId, userId, .starting⟩ := Table.get?_insert_self ..
      refine { h with operations := ?_, callers := ?_, inFlight := fun p i k hk => ?_ }
      · intro k o ho passed
        dsimp only [CallState.setInFlight] at ho
        rcases Table.insert_cases ho with ⟨-, rfl⟩ | ho
        · cases passed
        · exact h.operations k o ho passed
      · refine inserted (fun c a ha => ?_) ⟨_, new, rfl, fun _ => rfl⟩
        obtain ⟨o, ho, rest⟩ := h.callers c a ha
        exact ⟨o, old _ o ho, rest⟩
      · dsimp only [CallState.setInFlight] at hk ⊢
        split at hk
        · rename_i same
          obtain rfl := Option.some.inj hk
          exact ⟨_, new, same.2.symm⟩
        · obtain ⟨o, ho, order⟩ := h.inFlight p i k hk
          exact ⟨o, old k o ho, order⟩

theorem setInFlight_none (h : CallInv s) (process orderId : Nat) :
    CallInv (s.setInFlight process orderId none) := by
  refine { h with inFlight := fun p i k hk => ?_ }
  dsimp only [CallState.setInFlight] at hk
  split at hk
  · cases hk
  · exact h.inFlight p i k hk

/-- A call returns what its operation settled with. -/
theorem returnCapture (h : CallInv s) (callerId : Nat) (digest : CanonicalRequest → String)
    (number : String → Option Nat) :
    CallInv (callStep digest number s (.returnCapture callerId)) := by
  unfold callStep
  dsimp only
  cases hcaller : s.captureCallers.get? callerId with
  | none => exact h
  | some caller =>
      obtain ⟨o, ho, order, own⟩ := h.callers callerId caller hcaller
      simp only [ho]
      split
      · rename_i result settled
        obtain rfl := Option.some.inj settled
        have left : CallInv { s with captureCallers := s.captureCallers.erase callerId } :=
          { h with callers := erased h.callers }
        have due : (Answer.mk caller.orderId caller.userId (result.map .captured)).Due s.db := by
          cases result with
          | ok captured =>
              have owns := h.operations _ _ ho rfl
              rw [order, ← own rfl] at owns
              exact Or.inr owns
          | error e =>
              by_cases denied : e.deniesOwnership = true
              · exact Or.inl ⟨e, rfl, denied⟩
              · have passed : (CaptureStage.settled (.error e)).passed = true := by
                  simpa [CaptureStage.passed] using denied
                have owns := h.operations _ _ ho passed
                rw [order, ← own passed] at owns
                exact Or.inr owns
        split
        · exact (left.setInFlight_none _ _).tell due
        · exact left.tell due
      · exact h

/-- An operation checks its user, and only then asks. -/
theorem prepareCapture (h : CallInv s) {k : Nat} {now : Time}
    (keeps : (CallOp.prepareCapture k now).KeepsCaptures s)
    (digest : CanonicalRequest → String) (number : String → Option Nat) :
    CallInv (callStep digest number s (.prepareCapture k now)) := by
  unfold callStep
  dsimp only
  split
  · rename_i orderId userId found
    split
    · rename_i e hprepare
      have denies := preparePayPalCapture_denies hprepare
      refine h.withStage found (fun passed => ?_) fun passed => ?_
      · exact denies.resolve_left (by simpa [CaptureStage.passed] using passed)
      · exact keeps _ found rfl (denies.resolve_left (by simpa [CaptureStage.passed] using passed))
    · rename_i db call hprepare
      obtain ⟨owns, kept⟩ := preparePayPalCapture_owner hprepare
      refine (h.withDb kept).withStage found (fun _ => kept _ _ owns) fun _ => ?_
      exact keeps _ found rfl owns
  · exact h

/-- An operation that was asking has passed already. -/
theorem captureAnswers (h : CallInv s) (k : Nat) (response : Option PayPalCaptureResponse)
    (now : Time) (digest : CanonicalRequest → String) (number : String → Option Nat) :
    CallInv (callStep digest number s (.captureAnswers k response now)) := by
  unfold callStep
  dsimp only
  split
  · rename_i orderId userId call found
    have owns := h.operations k _ found rfl
    have alone : ∀ c caller, s.captureCallers.get? c = some caller → caller.operation = k →
        caller.userId = userId := by
      intro c caller hc same
      obtain ⟨o, ho, -, own⟩ := h.callers c caller hc
      rw [same] at ho
      obtain rfl := Option.some.inj (found.symm.trans ho)
      exact own rfl
    split
    · exact h.withStage found (fun _ => owns) fun _ => alone
    · rename_i db result hclose
      have kept := OwnersKept.closeCapture hclose
      exact (h.withDb kept).withStage found (fun _ => kept _ _ owns) fun _ => alone
  · exact h

theorem step (digest : CanonicalRequest → String) (number : String → Option Nat) (h : CallInv s)
    (op : CallOp) (keeps : op.KeepsCaptures s) : CallInv (callStep digest number s op) := by
  cases op with
  | shop op => exact h.withDb (OwnersKept.shop digest s.db op)
  | createPayment orderId reference now =>
      exact h.withDb (OwnersKept.commitFst fun _ _ => OwnersKept.payment)
  | stripeEvent event now =>
      exact h.withDb (OwnersKept.commitFst fun _ _ => OwnersKept.stripeEvent)
  | paypalEvent event now =>
      exact h.withDb (OwnersKept.commitFst fun _ _ => OwnersKept.paypalEvent)
  | createOrReuseStripePaymentIntent orderId userId now =>
      unfold callStep
      dsimp only
      split
      · rename_i e hprepare
        exact h.refuse (prepareStripeIntent_denies hprepare)
      · rename_i db call hprepare
        obtain ⟨owns, rfl, kept⟩ := prepareStripeIntent_owner hprepare
        have before := h.withDb kept
        exact { before with stripeCalls := inserted before.stripeCalls (kept _ _ owns) }
  | stripeAnswers callId intent =>
      unfold callStep
      dsimp only
      split
      · exact h
      · rename_i userId call found
        have owns := h.stripeCalls callId _ found
        have left : CallInv { s with stripeCalls := s.stripeCalls.erase callId } :=
          { h with stripeCalls := erased h.stripeCalls }
        split
        · exact left.tell (Or.inr owns)
        · rename_i db result hclose
          have kept := OwnersKept.closeStripe hclose
          exact (left.withDb kept).tell (Or.inr (kept _ _ owns))
  | recoverStripePayment orderId userId =>
      unfold callStep
      dsimp only
      split
      · rename_i e hread
        exact h.refuse (readRecovery_denies hread)
      · rename_i call hread
        obtain ⟨owns, rfl, rfl⟩ := readRecovery_owner hread
        exact { h with recoveries := inserted h.recoveries owns }
  | recoveryAnswers callId intent now =>
      unfold callStep
      dsimp only
      split
      · exact h
      · rename_i call found
        have owns := h.recoveries callId _ found
        have left : CallInv { s with recoveries := s.recoveries.erase callId } :=
          { h with recoveries := erased h.recoveries }
        split
        · exact left.tell (Or.inr owns)
        · rename_i db hfinish
          have kept := OwnersKept.recovery hfinish
          have after := left.withDb kept
          exact { after with recovered := inserted after.recovered (kept _ _ owns) }
  | readRecovered callId =>
      unfold callStep
      dsimp only
      split
      · exact h
      · rename_i call found
        have left : CallInv { s with recovered := s.recovered.erase callId } :=
          { h with recovered := erased h.recovered }
        exact left.tell (Or.inr (h.recovered callId _ found))
  | createOrReusePayPalOrder orderId userId now =>
      unfold callStep
      dsimp only
      split
      · rename_i e hprepare
        exact h.refuse (preparePayPalOrder_denies hprepare)
      · rename_i db call hprepare
        obtain ⟨owns, rfl, kept⟩ := preparePayPalOrder_owner hprepare
        have before := h.withDb kept
        split
        · exact { before with paypalCalls := inserted before.paypalCalls (kept _ _ owns) }
        · exact before.tell (Or.inr (kept _ _ owns))
  | paypalAnswers callId created =>
      unfold callStep
      dsimp only
      split
      · exact h
      · rename_i userId call found
        have owns := h.paypalCalls callId _ found
        have left : CallInv { s with paypalCalls := s.paypalCalls.erase callId } :=
          { h with paypalCalls := erased h.paypalCalls }
        split
        · exact left.tell (Or.inr owns)
        · rename_i db result hclose
          have kept := OwnersKept.closePayPal hclose
          exact (left.withDb kept).tell (Or.inr (kept _ _ owns))
  | capturePayPalOrder process orderId userId => exact h.capture keeps digest number
  | prepareCapture k now => exact h.prepareCapture keeps digest number
  | captureAnswers k response now => exact h.captureAnswers k response now digest number
  | returnCapture callerId => exact h.returnCapture callerId digest number

end CallInv

/-! ### Runs -/

/-- Any shop in which nobody waits and nothing has been answered. -/
structure QuietCalls (s : CallState) : Prop where
  stripeCalls : ∀ c, s.stripeCalls.get? c = none
  recoveries : ∀ c, s.recoveries.get? c = none
  recovered : ∀ c, s.recovered.get? c = none
  paypalCalls : ∀ c, s.paypalCalls.get? c = none
  operations : ∀ c, s.operations.get? c = none
  captureCallers : ∀ c, s.captureCallers.get? c = none
  inFlight : ∀ p o, s.inFlight p o = none
  answers : s.answers = []

theorem QuietCalls.inv {s : CallState} (quiet : QuietCalls s) : CallInv s where
  stripeCalls := fun c a ha => by simp [quiet.stripeCalls c] at ha
  recoveries := fun c a ha => by simp [quiet.recoveries c] at ha
  recovered := fun c a ha => by simp [quiet.recovered c] at ha
  paypalCalls := fun c a ha => by simp [quiet.paypalCalls c] at ha
  operations := fun k o ho => by simp [quiet.operations k] at ho
  callers := fun c a ha => by simp [quiet.captureCallers c] at ha
  inFlight := fun p i k hk => by simp [quiet.inFlight p i] at hk
  answers := fun a ha => by simp [quiet.answers] at ha

/-- In every run that keeps captures, every answer of the four calls is lawful. -/
theorem owners_only (digest : CanonicalRequest → String) (number : String → Option Nat)
    {s : CallState} (quiet : QuietCalls s) (ops : List CallOp)
    (keeps : ∀ t ∈ transitions (callStep digest number) s ops, t.2.KeepsCaptures t.1) :
    ∀ xs, xs <+: ops → OwnersOnly (run (callStep digest number) s xs) := by
  intro xs hxs
  have inv : CallInv (run (callStep digest number) s xs) :=
    states_invariant_of (I := CallInv) (C := fun s op => op.KeepsCaptures s)
      (fun _ op h keeps => h.step digest number op keeps) quiet.inv keeps hxs
  exact inv.ownersOnly

/-- The sample shop with the pending order of its customer. -/
def sampleCalls : CallState where
  db := shopStep (fun _ => "") sampleShop sampleCreate
  stripeCalls := .empty
  recoveries := .empty
  recovered := .empty
  paypalCalls := .empty
  operations := .empty
  captureCallers := .empty
  inFlight := fun _ _ => none
  answers := []

theorem sampleCalls_quiet : QuietCalls sampleCalls where
  stripeCalls := fun _ => rfl
  recoveries := fun _ => rfl
  recovered := fun _ => rfl
  paypalCalls := fun _ => rfl
  operations := fun _ => rfl
  captureCallers := fun _ => rfl
  inFlight := fun _ _ => rfl
  answers := rfl

/-- The owner starts a PayPal order and captures it. -/
def ownCapture : List CallOp :=
  [.createOrReusePayPalOrder 1 1 1, .paypalAnswers 1 (some ⟨samplePayPalOrder, none⟩),
    .capturePayPalOrder 0 1 1, .prepareCapture 1 2]

/-- Customer 2 asks for the same capture while it is in flight. -/
def foreignCapture : List CallOp :=
  ownCapture ++ [.capturePayPalOrder 0 1 2, .captureAnswers 1 (some sampleCaptured) 3,
    .returnCapture 2]

/-- Customer 2 is given the result of the owner's capture. -/
theorem foreignCapture_told : QuietCalls sampleCalls ∧
    ¬ OwnersOnly (run (callStep (fun _ => "") fun _ => none) sampleCalls foreignCapture) := by
  refine ⟨sampleCalls_quiet, fun lawful => ?_⟩
  have told : (run (callStep (fun _ => "") fun _ => none) sampleCalls foreignCapture).answers =
      [⟨1, 1, .ok (.paypalOrder 1 samplePayPalOrder none)⟩,
        ⟨1, 2, .ok (.captured ⟨1, samplePayPalOrder, some "3C679366HH908993F"⟩)⟩] := rfl
  have mem : ⟨1, 2, .ok (.captured ⟨1, samplePayPalOrder, some "3C679366HH908993F"⟩)⟩ ∈
      (run (callStep (fun _ => "") fun _ => none) sampleCalls foreignCapture).answers := by
    rw [told]
    exact List.mem_cons_of_mem _ List.mem_cons_self
  obtain ⟨order, found, owner⟩ := (lawful _ mem).1 ⟨_, rfl⟩
  obtain rfl := Option.some.inj found
  cases owner

/-- Only the owner waits for the owner's capture. -/
theorem ownCapture_keeps : ∀ t ∈ transitions (callStep (fun _ => "") fun _ => none) sampleCalls
    ownCapture, t.2.KeepsCaptures t.1 := by
  simp only [ownCapture, transitions, List.forall_mem_cons, List.not_mem_nil, false_imp_iff,
    implies_true, and_true]
  refine ⟨trivial, trivial, fun k operation flying => ?_, fun operation found _ _ c caller hc _ => ?_⟩
  · cases (show (none : Option Nat) = some k from flying)
  · have callers : (Table.empty.insert (CaptureCaller.mk 0 1 1 1 true)).get? c = some caller := hc
    have operations : (Table.empty.insert (CaptureOperation.mk 1 1 .starting)).get? 1 =
        some operation := found
    obtain rfl := Option.some.inj ((Table.get?_insert_self ..).symm.trans operations)
    rw [Table.get?_insert] at callers
    split at callers
    · exact Option.some.inj callers ▸ rfl
    · cases callers

theorem owners_only_sample :
    OwnersOnly (run (callStep (fun _ => "") fun _ => none) sampleCalls ownCapture) :=
  owners_only (fun _ => "") (fun _ => none) sampleCalls_quiet ownCapture ownCapture_keeps
    ownCapture List.prefix_rfl

end ColorfulLife
