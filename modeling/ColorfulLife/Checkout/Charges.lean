/-
What an order costs, what its payment is over, and what is given back.

The till is the checkout with the refund calls of both providers, the manual
refunds and the edits of the catalogue, over one database. An order's price is
fixed when it is placed: `TillEffect` says what one action may do to orders,
items, payments and refunds, and none of its cases rewrites a term of an order
(`Order.terms`), of an item (`OrderItem.terms`) or of a charge. So the amounts
agree in every state of every run (`Charged`), however prices and requests
interleave.
-/

import ColorfulLife.Checkout.Effects
import ColorfulLife.Creation.Terms
import ColorfulLife.Products.FeatureProduct
import ColorfulLife.Refunds.Bound

namespace ColorfulLife

open Relational

/-! ### Terms -/

/-- The terms say what an item costs. -/
theorem OrderItem.terms_priced {i j : OrderItem} (same : i.terms = j.terms) :
    i.orderId = j.orderId ∧ i.quantity = j.quantity ∧ i.unitPrice = j.unitPrice ∧
      i.lineTotal = j.lineTotal := by
  obtain ⟨order, -, quantity, -, -, price, total, -⟩ := OrderItem.mk.inj same
  exact ⟨order, quantity, price, total⟩

/-- What a payment is over. -/
structure Charge where
  orderId : Nat
  amount : Pence
  currency : String
  provider : PaymentProvider

def Payment.charge (payment : Payment) : Charge :=
  ⟨payment.orderId, payment.amount, payment.currency, payment.provider⟩

structure RefundTerms where
  orderId : Nat
  paymentId : Nat
  amount : Pence
  currency : String

def Refund.terms (refund : Refund) : RefundTerms :=
  ⟨refund.orderId, refund.paymentId, refund.amount, refund.currency⟩

/-! ### Edits of a listing -/

/-- The body of `PATCH /products/:id` (`updateProduct` in `controllers/products.ts`),
whose schema omits the category; `currentStock` says whether it has one. -/
structure ProductUpdate where
  metadata : ProductMetadataUpdate
  condition : Option ListingCondition
  originalPrice : Option ℚ
  salePrice : Option ℚ
  currentStock : Bool
  deriving DecidableEq

/-- The issues of the schema, each with the field it is about. -/
def ProductUpdate.issues (body : ProductUpdate) : List (String × String) :=
  let filled (text : Option String) : Bool := text.all fun t => decide (t ≠ "")
  let checks : List (Bool × String × String) :=
    [(filled body.metadata.setNumber, "setNumber", "setNumber cannot be empty"),
      (filled body.metadata.title, "title", "title cannot be empty"),
      (filled body.metadata.theme, "theme", "theme cannot be empty"),
      (filled body.metadata.ageRecommendation, "ageRecommendation",
        "ageRecommendation cannot be empty"),
      (body.metadata.pieceCount.all fun count => decide (0 < count), "pieceCount",
        "pieceCount must be a positive integer"),
      (body.originalPrice.all fun price => decide (0 < price), "originalPrice",
        "originalPrice must be positive"),
      (body.salePrice.all fun price => decide (0 ≤ price), "salePrice",
        "Number must be greater than or equal to 0")]
  (checks.filter fun check => !check.1).map Prod.snd

/-- The metadata without a category. -/
def ProductUpdate.legoUpdate (body : ProductUpdate) : ProductMetadataUpdate :=
  { body.metadata with categoryId := none }

def ProductUpdate.apply (body : ProductUpdate) (l : ProductListing) : ProductListing :=
  { l with
    originalPrice := (body.originalPrice.map toColumn).getD l.originalPrice
    salePrice := body.salePrice.map toColumn <|> l.salePrice }

/-- The nested update of the listing and its product. -/
def updateProduct (id : Nat) (body : ProductUpdate) (db : Db) : Result Db := do
  ensure (body.currentStock = false)
    (DomainError.listing 400 "currentStock must be changed through an inventory operation")
  ensure (body.issues = []) (DomainError.invalidListing body.issues)
  ensure (¬ (body.legoUpdate = ⟨none, none, none, none, none, none, none, none⟩ ∧
      body.condition = none ∧ body.originalPrice = none ∧ body.salePrice = none))
    (DomainError.listing 400 "No updatable fields provided")
  let existing ← orThrow (db.listings.get? id) (DomainError.listing 404 "Listing not found")
  ensure (body.condition.all fun condition => decide (condition = existing.condition))
    (DomainError.listing 400 "Listing condition cannot be changed through generic product editing")
  let product ← orThrow (db.legoProducts.get? existing.legoProductId) DomainError.recordNotFound
  ensure (db.legoProducts.clashes LegoProduct.clash existing.legoProductId
      (body.legoUpdate.apply product) = false)
    (DomainError.listing 409 "setNumber already exists")
  return { db with
    listings := db.listings.update id body.apply
    legoProducts := db.legoProducts.update existing.legoProductId body.legoUpdate.apply }

/-! ### The till -/

structure TillState where
  checkout : CheckoutState
  stripeRefunds : Table RefundCall
  paypalRefunds : Table RefundCall
  refundEvents : Table PendingRefundEvent
  settled : List Nat
  requested : Table ManualRefundInput
  claiming : Table ManualRefundCall
  conflicting : Table ManualRefundCall

inductive TillOp where
  | checkout (op : CheckoutOp)
  | refund (op : RefundOp)
  | requestRefund (orderId userId : Nat) (body : CreateRefundInput)
  | readRefund (callId : Nat)
  | claimRefund (callId : Nat)
  | rereadRefund (callId : Nat)
  | createProduct (input : ProductInput)
  | createPurchaseListing (userId purchaseId : Nat) (body : PurchaseListingInput)
  | updateProduct (id : Nat) (body : ProductUpdate)
  | deactivateProduct (id : Nat)
  | reactivateProduct (id : Nat)

namespace TillState

def db (s : TillState) : Db := s.checkout.db

def withDb (s : TillState) (db : Db) : TillState :=
  { s with checkout := { s.checkout with db := db } }

/-- The part that the provider refunds work on. -/
def refunds (s : TillState) : RefundState :=
  ⟨s.db, s.stripeRefunds, s.paypalRefunds, s.refundEvents, s.settled⟩

def withRefunds (s : TillState) (r : RefundState) : TillState :=
  { s.withDb r.db with
    stripeRefunds := r.stripeCalls
    paypalRefunds := r.paypalCalls
    refundEvents := r.eventWrites
    settled := r.settled }

/-- The part that the manual refunds work on. -/
def desk (s : TillState) : RefundDesk := ⟨s.db, s.requested, s.claiming, s.conflicting⟩

def withDesk (s : TillState) (d : RefundDesk) : TillState :=
  { s.withDb d.db with
    requested := d.requested
    claiming := d.claiming
    conflicting := d.conflicting }

end TillState

section Machine

variable (digest : CanonicalRequest → String) (number : String → Option Nat)

def tillStep (s : TillState) : TillOp → TillState
  | .checkout op => { s with checkout := checkoutStep digest number s.checkout op }
  | .refund op => s.withRefunds (refundStep number s.refunds op)
  | .requestRefund orderId userId body => s.withDesk (deskStep s.desk (.request orderId userId body))
  | .readRefund callId => s.withDesk (deskStep s.desk (.read callId))
  | .claimRefund callId => s.withDesk (deskStep s.desk (.claim callId))
  | .rereadRefund callId => s.withDesk (deskStep s.desk (.reread callId))
  | .createProduct input => s.withDb (commit (createProduct input s.db) s.db)
  | .createPurchaseListing userId purchaseId body =>
      s.withDb (commit (createPurchaseListing userId purchaseId body s.db) s.db)
  | .updateProduct id body => s.withDb (commit (ColorfulLife.updateProduct id body s.db) s.db)
  | .deactivateProduct id => s.withDb (commit (ColorfulLife.deactivateProduct id s.db) s.db)
  | .reactivateProduct id => s.withDb (commit (ColorfulLife.reactivateProduct id s.db) s.db)

end Machine

/-- A shop before its first order, payment and refund. -/
structure FreshTill (s : TillState) : Prop where
  checkout : FreshCheckout s.checkout
  refunds : ∀ r, s.db.refunds.get? r = none
  requested : ∀ i, s.requested.get? i = none
  claiming : ∀ i, s.claiming.get? i = none

/-! ### What one action does to the books -/

/-- Every row keeps its terms. -/
def SameTerms {ρ τ : Type} (terms : ρ → τ) (t t' : Table ρ) : Prop :=
  ∃ f : Nat → ρ → ρ, t' = t.modify f ∧ ∀ k r, terms (f k r) = terms r

/-- A refund is new at most, and within what is left of its payment. -/
inductive RefundWrite (db : Db) : Table Refund → Prop where
  | keep {refunds : Table Refund} (same : SameTerms Refund.terms db.refunds refunds) :
      RefundWrite db refunds
  | insert {refund : Refund} {payment : Payment}
      (paid : db.payments.get? refund.paymentId = some payment)
      (order : refund.orderId = payment.orderId) (currency : refund.currency = payment.currency)
      (positive : 0 < refund.amount)
      (room : payment.refundedAmount + payment.reservedRefundAmount + refund.amount ≤
        payment.amount) : RefundWrite db (db.refunds.insert refund)

/-- The item costs what its listing is sold at: the sale price, else the original one. -/
def OrderItem.PricedAs (listings : Table ProductListing) (item : OrderItem) : Prop :=
  ∃ l, listings.get? item.productListingId = some l ∧
    item.unitPrice = l.salePrice.getD l.originalPrice

/-- One committed action. -/
inductive TillEffect (db db' : Db) : Prop where
  /-- Statuses, deadlines, returns and references. -/
  | keep (orders : SameTerms Order.terms db.orders db'.orders)
      (items : SameTerms OrderItem.terms db.orderItems db'.orderItems)
      (payments : SameTerms (fun p : Payment => (p.charge, p.refundedAmount, p.reservedRefundAmount))
        db.payments db'.payments)
      (refunds : db'.refunds = db.refunds)
  | place {order : Order} {rows : List OrderItem} (orders : db'.orders = db.orders.insert order)
      (items : db'.orderItems = rows.foldl Table.insert db.orderItems)
      (payments : db'.payments = db.payments) (refunds : db'.refunds = db.refunds)
      (total : order.totalAmount = (rows.map OrderItem.lineTotal).sum)
      (lines : ∀ i ∈ rows, i.orderId = db.orders.nextId ∧ 0 < i.quantity ∧
        i.lineTotal = i.unitPrice * i.quantity)
      (prices : ∀ i ∈ rows, i.PricedAs db.listings)
  | charge {order : Order} {payment : Payment} (orders : db'.orders = db.orders)
      (items : db'.orderItems = db.orderItems)
      (payments : db'.payments = db.payments.insert payment) (refunds : db'.refunds = db.refunds)
      (found : db.orders.get? payment.orderId = some order)
      (amount : payment.amount = order.totalAmount) (positive : 0 < payment.amount)
      (currency : payment.currency = "GBP") (refunded : payment.refundedAmount = 0)
      (reserved : payment.reservedRefundAmount = 0)
      (free : db.payments.clashes Payment.clash db.payments.nextId payment = false)
  | capacity (orders : db'.orders = db.orders) (items : db'.orderItems = db.orderItems)
      (payments : CapacityEffect db.payments db'.payments) (refunds : RefundWrite db db'.refunds)

namespace SameTerms

variable {ρ τ : Type} {terms : ρ → τ} {t t' : Table ρ} {k : Nat} {r r' : ρ}

theorem of_eq (h : t' = t) : SameTerms terms t t' :=
  ⟨fun _ r => r, h.trans (Table.modify_id t).symm, fun _ _ => rfl⟩

theorem update {f : ρ → ρ} (h : ∀ r, terms (f r) = terms r) (eq : t' = t.update k f) :
    SameTerms terms t t' := by
  refine ⟨fun j r => if j = k then f r else r, eq, fun j r => ?_⟩
  dsimp only
  split
  · exact h r
  · rfl

theorem forward (h : SameTerms terms t t') (hr : t.get? k = some r) :
    ∃ r', t'.get? k = some r' ∧ terms r' = terms r := by
  obtain ⟨f, rfl, same⟩ := h
  exact ⟨f k r, by simp [hr], same k r⟩

theorem backward (h : SameTerms terms t t') (hr : t'.get? k = some r') :
    ∃ r, t.get? k = some r ∧ terms r' = terms r := by
  obtain ⟨f, rfl, same⟩ := h
  rw [Table.get?_modify] at hr
  obtain ⟨r, found, rfl⟩ := Option.map_eq_some_iff.mp hr
  exact ⟨r, found, same k r⟩

theorem sum_eq (h : SameTerms terms t t') (g : τ → Int) :
    t'.sum (fun _ r => g (terms r)) = t.sum fun _ r => g (terms r) := by
  obtain ⟨f, rfl, same⟩ := h
  rw [Table.sum_modify]
  simp only [same]

end SameTerms

namespace TillEffect

variable {db db' : Db}

/-- Nothing is done to the books. -/
theorem none (orders : db'.orders = db.orders) (items : db'.orderItems = db.orderItems)
    (payments : db'.payments = db.payments) (refunds : db'.refunds = db.refunds) :
    TillEffect db db' :=
  .keep (.of_eq orders) (.of_eq items) (.of_eq payments) refunds

theorem refl (db : Db) : TillEffect db db := .none rfl rfl rfl rfl

theorem updateOrder {o : Nat} {f : Order → Order} (terms : ∀ r : Order, (f r).terms = r.terms)
    (orders : db'.orders = db.orders.update o f) (items : db'.orderItems = db.orderItems)
    (payments : db'.payments = db.payments) (refunds : db'.refunds = db.refunds) :
    TillEffect db db' :=
  .keep (.update terms orders) (.of_eq items) (.of_eq payments) refunds

/-- Returns of an item. -/
theorem addReturns {i : Nat} {returned reserved : Int} (orders : db'.orders = db.orders)
    (items : db'.orderItems = db.orderItems.update i (·.addReturns returned reserved))
    (payments : db'.payments = db.payments) (refunds : db'.refunds = db.refunds) :
    TillEffect db db' :=
  .keep (.of_eq orders) (.update (f := (·.addReturns returned reserved)) (fun _ => rfl) items)
    (.of_eq payments) refunds

/-- A payment's status, references or instants. -/
theorem updatePayment {p : Nat} {f : Payment → Payment}
    (charge : ∀ r : Payment, ((f r).charge, (f r).refundedAmount, (f r).reservedRefundAmount) =
      (r.charge, r.refundedAmount, r.reservedRefundAmount))
    (orders : db'.orders = db.orders) (items : db'.orderItems = db.orderItems)
    (payments : db'.payments = db.payments.update p f) (refunds : db'.refunds = db.refunds) :
    TillEffect db db' :=
  .keep (.of_eq orders) (.of_eq items) (.update charge payments) refunds

end TillEffect

/-! ### Requests of the shop -/

section Shop

variable {db db' : Db}

/-- The items of a placed order cost their quantity at their unit price. -/
theorem placedItems_lines (input : CreateOrderInput) (db : Db) :
    ∀ i ∈ placedItems input db, i.orderId = db.orders.nextId ∧ 0 < i.quantity ∧
      i.lineTotal = i.unitPrice * i.quantity := by
  intro i hi
  obtain ⟨line, -, l, -, rfl⟩ := mem_placedItems hi
  exact ⟨rfl, line.positive, rfl⟩

/-- The unit price is what the listing is sold at when the order is placed. -/
theorem placedItems_priced (input : CreateOrderInput) (db : Db) :
    ∀ i ∈ placedItems input db, i.PricedAs db.listings := by
  intro i hi
  obtain ⟨line, -, l, found, rfl⟩ := mem_placedItems hi
  exact ⟨l, found, rfl⟩

theorem createOrder_till {digest : CanonicalRequest → String} {userId orderId : Nat}
    {input : CreateOrderInput} {key : Option String} {now : Time}
    (tx : createOrder digest userId input key now db = .ok (db', orderId)) :
    TillEffect db db' := by
  rcases createOrder_cases tx with ⟨rfl, -⟩ | ⟨settled, -, hsettle, -, hplace⟩
  · exact .refl _
  · obtain ⟨-, billing, allocation, listings, -, -, -, -, -, halloc⟩ := placeOrder_eq_ok.mp hplace
    have lines := placedItems_lines input settled
    have prices := placedItems_priced input settled
    obtain ⟨_, _, _, rfl⟩ := (settleCartReconciliation_frame hsettle).fields
    obtain ⟨_, _, _, rfl⟩ := (allocateOrderCart_frame halloc).fields
    exact .place rfl rfl rfl rfl rfl lines prices

theorem cancelWith_till {owner : Option Nat} {cancelledBy : CancellationInitiator}
    {performedByUserId orderId : Nat} {reason : CancellationReason} {now : Time}
    (tx : cancelWith owner cancelledBy performedByUserId orderId reason now db = .ok db') :
    TillEffect db db' := by
  obtain ⟨order, -, -, ⟨-, listings, -, rfl⟩ | ⟨-, stock, -, rfl⟩⟩ := cancelWith_eq_ok.mp tx
  · exact .updateOrder (f := Order.cancel cancelledBy reason now) (fun _ => rfl) rfl rfl rfl rfl
  · exact .updateOrder (f := Order.cancel cancelledBy reason now) (fun _ => rfl) rfl rfl rfl rfl

theorem confirm_till {performedByUserId orderId : Nat}
    (tx : confirmOrderInTransaction performedByUserId orderId db = .ok db') : TillEffect db db' := by
  obtain ⟨order, stock, -, -, -, rfl⟩ := confirmOrderInTransaction_eq_ok.mp tx
  exact .updateOrder (f := Order.confirm) (fun _ => rfl) rfl rfl rfl rfl

theorem usedOffer_till {conversion : Bool} {input : UsedOfferInput}
    {uploaded : List UploadedPhoto} {listingId : Nat}
    (tx : persistUsedOffer conversion input uploaded db = .ok (db', listingId)) :
    TillEffect db db' := by
  obtain ⟨listings, product, -, -, rfl⟩ := persistUsedOffer_ok tx
  exact .none rfl rfl rfl rfl

theorem shopStep_till (digest : CanonicalRequest → String) (db : Db) (op : ShopOp) :
    TillEffect db (shopStep digest db op) := by
  refine commit_rel (.refl db) fun db' tx => ?_
  cases op with
  | createOrder userId input key now =>
      obtain ⟨⟨db₁, id⟩, hcreate, rfl⟩ := map_eq_ok.mp tx
      exact createOrder_till hcreate
  | confirmOrder performedBy id => exact confirm_till tx
  | cancelOrder userId id reason now => exact cancelWith_till tx
  | cancelOrderByAdmin id reason admin now => exact cancelWith_till tx
  | expireOrderReservation id asOf =>
      rcases expireOrderReservation_cases tx with rfl | ⟨order, listings, -, -, -, rfl⟩
      · exact .refl _
      · exact .updateOrder (f := Order.expire) (fun _ => rfl) rfl rfl rfl rfl
  | dispatchOrder id cost carrier tracking now =>
      obtain ⟨order, -, -, rfl⟩ := dispatchOrder_eq_ok.mp tx
      exact .updateOrder (f := Order.dispatch cost carrier tracking now) (fun _ => rfl) rfl rfl rfl rfl
  | completeOrder id now =>
      obtain ⟨order, -, -, rfl⟩ := completeOrder_eq_ok.mp tx
      exact .updateOrder (f := Order.complete now) (fun _ => rfl) rfl rfl rfl rfl
  | adjustInventory id quantity performedBy =>
      obtain ⟨l, -, -, -, -, rfl⟩ := adjustInventory_eq_ok.mp tx
      exact .none rfl rfl rfl rfl
  | writeOffInventory input =>
      obtain ⟨l, -, -, -, -, rfl⟩ := writeOffInventory_eq_ok.mp tx
      exact .none rfl rfl rfl rfl
  | reconcileStocktake input =>
      obtain ⟨l, -, -, -, -, -, ⟨-, rfl⟩ | ⟨-, rfl⟩⟩ := reconcileStocktake_eq_ok.mp tx
      · exact .refl _
      · exact .none rfl rfl rfl rfl
  | createUsedOffer input uploaded =>
      obtain ⟨⟨db₁, id⟩, hcreate, rfl⟩ := map_eq_ok.mp tx
      exact usedOffer_till hcreate
  | convertToUsedOffer input uploaded =>
      obtain ⟨⟨db₁, id⟩, hconvert, rfl⟩ := map_eq_ok.mp tx
      exact usedOffer_till hconvert
  | receivePurchaseItem userId id now =>
      obtain ⟨item, listingId, l, -, -, -, -, -, -, -, rfl⟩ := receivePurchaseItem_eq_ok.mp tx
      exact .none rfl rfl rfl rfl
  | returnPurchaseItem userId id now =>
      obtain ⟨item, listingId, l, -, -, -, -, -, -, -, rfl⟩ := returnPurchaseItem_eq_ok.mp tx
      exact .none rfl rfl rfl rfl
  | requestOrderReturn orderId itemId request performedBy =>
      obtain ⟨item, -, -, -, -, -, -, rfl⟩ := requestOrderReturn_eq_ok.mp tx
      exact .addReturns rfl rfl rfl rfl
  | cancelOrderReturn orderId ret now =>
      obtain ⟨row, item, -, -, -, rfl⟩ := cancelOrderReturn_eq_ok.mp tx
      exact .addReturns rfl rfl rfl rfl
  | authorizeOrderReturn orderId ret now =>
      obtain ⟨row, item, -, -, rfl⟩ := advanceReturn_eq_ok.mp tx
      exact .none rfl rfl rfl rfl
  | receiveOrderReturn orderId ret now =>
      obtain ⟨row, item, -, -, rfl⟩ := advanceReturn_eq_ok.mp tx
      exact .none rfl rfl rfl rfl
  | inspectOrderReturn orderId ret inspection now =>
      obtain ⟨row, item, l, -, -, -, -, -, -, rfl⟩ := inspectOrderReturn_ok tx
      exact .none rfl rfl rfl rfl
  | completeOrderReturn orderId ret performedBy now =>
      obtain ⟨row, item, l, -, -, -, -, -, -, rfl⟩ := completeOrderReturn_eq_ok.mp tx
      exact .addReturns rfl rfl rfl rfl

end Shop

/-! ### Payments -/

section Payments

variable {db db' : Db}

theorem createPayment_till {orderId id : Nat} {reference : ProviderReference} {now : Time}
    (tx : createPayment orderId reference now db = .ok (db', id)) : TillEffect db db' := by
  rcases createPayment_ok tx with rfl | tx
  · exact .refl _
  · simp only [createPaymentTransaction, bind_eq_ok, orThrow_eq_ok, ensure_eq_ok] at tx
    obtain ⟨order, found, -, positive, tx⟩ := tx
    split at tx
    · simp only [bind_eq_ok, ensure_eq_ok, pure_eq_ok, Prod.mk.injEq] at tx
      obtain ⟨-, -, rfl, -⟩ := tx
      exact .refl _
    · simp only [bind_eq_ok, ensure_eq_ok, pure_eq_ok, createRow_eq_ok, Prod.mk.injEq] at tx
      obtain ⟨-, -, -, -, _, ⟨free, rfl⟩, rfl, -⟩ := tx
      exact .charge rfl rfl rfl rfl found rfl positive rfl rfl rfl free

theorem prepareStripeIntent_till {orderId userId : Nat} {now : Time} {call : StripeIntentCall}
    (tx : prepareStripeIntent orderId userId now db = .ok (db', call)) : TillEffect db db' := by
  simp only [prepareStripeIntent, bind_eq_ok, orThrow_eq_ok, ensure_eq_ok] at tx
  obtain ⟨order, found, -, -, -, -, -, -, -, ⟨positive, -⟩, tx⟩ := tx
  split at tx
  · simp only [bind_eq_ok, ensure_eq_ok, pure_eq_ok, Prod.mk.injEq] at tx
    obtain ⟨-, -, rfl, -⟩ := tx
    exact .refl _
  · simp only [bind_eq_ok, createRow_eq_ok, pure_eq_ok, Prod.mk.injEq] at tx
    obtain ⟨_, ⟨free, rfl⟩, rfl, -⟩ := tx
    exact .charge rfl rfl rfl rfl found rfl positive rfl rfl rfl free

theorem preparePayPalOrder_till {orderId userId : Nat} {now : Time} {call : PayPalOrderCall}
    (tx : preparePayPalOrder orderId userId now db = .ok (db', call)) : TillEffect db db' := by
  simp only [preparePayPalOrder, bind_eq_ok, orThrow_eq_ok, ensure_eq_ok] at tx
  obtain ⟨order, found, -, -, -, -, -, positive, tx⟩ := tx
  split at tx
  · simp only [bind_eq_ok, ensure_eq_ok, pure_eq_ok, Prod.mk.injEq] at tx
    obtain ⟨-, -, rfl, -⟩ := tx
    exact .refl _
  · simp only [bind_eq_ok, createRow_eq_ok, pure_eq_ok, Prod.mk.injEq] at tx
    obtain ⟨_, ⟨free, rfl⟩, rfl, -⟩ := tx
    exact .charge rfl rfl rfl rfl found rfl positive rfl rfl rfl free

theorem Payment.stripeOutcome_charge (outcome : StripePaymentOutcome) (now : Time)
    (payment : Payment) : ((payment.stripeOutcome outcome now).charge,
      (payment.stripeOutcome outcome now).refundedAmount,
      (payment.stripeOutcome outcome now).reservedRefundAmount) =
        (payment.charge, payment.refundedAmount, payment.reservedRefundAmount) := by
  unfold stripeOutcome
  split <;> rfl

/-- Evidence rewrites its payment and may confirm the order. -/
theorem evidence_till {rewrites : Bool} {receiptId : String} {paymentId : Nat}
    (evidence : StripeEvidence rewrites receiptId paymentId db db') : TillEffect db db' := by
  cases evidence with
  | @intro payment order outcome now applied events paid ordered provider applies receipt =>
      obtain ⟨-, payments, record, rest⟩ := applyStripePaymentOutcome_ok applies
      have kept : SameTerms
          (fun p : Payment => (p.charge, p.refundedAmount, p.reservedRefundAmount))
          db.payments payments := by
        rcases recordStripeOutcome_ok record with ⟨-, same⟩ | ⟨-, row, -, -, written⟩
        · exact .of_eq same
        · exact .update (Payment.stripeOutcome_charge outcome now) written
      rcases rest with ⟨-, -, confirmed⟩ | ⟨-, rfl⟩
      · obtain ⟨order', stock, -, -, -, rfl⟩ := confirmOrderInTransaction_eq_ok.mp confirmed
        exact .keep (.update (f := Order.confirm) (fun _ => rfl) rfl) (.of_eq rfl) kept rfl
      · exact .keep (.of_eq rfl) (.of_eq rfl) kept rfl

theorem writePayPalEvent_till {event : PayPalWebhookEvent} {decision : PayPalDecision} {now : Time}
    {result : WebhookResult} (tx : writePayPalEvent event decision now db = .ok (db', result)) :
    TillEffect db db' := by
  obtain ⟨-, written⟩ := writePayPalEvent_isOk.mp ⟨result, tx⟩
  cases decision with
  | receipt error handled =>
      obtain rfl : db' = _ := written
      exact .none rfl rfl rfl rfl
  | succeed paymentId payment order captureId =>
      obtain ⟨row, -, -, rfl⟩ := written
      exact .updatePayment (f := Payment.completeCapture payment captureId now) (fun _ => rfl)
        rfl rfl rfl rfl
  | mark paymentId status =>
      obtain ⟨row, -, -, rfl⟩ := written
      exact .updatePayment (f := Payment.mark status) (fun _ => rfl) rfl rfl rfl rfl

variable {s : CheckoutState} {digest : CanonicalRequest → String} {number : String → Option Nat}

theorem commitFst_till {α : Type} {tx : Result (Db × α)}
    (body : ∀ db' a, tx = .ok (db', a) → TillEffect db db') : TillEffect db (commitFst tx db) := by
  cases h : tx with
  | error e => exact .refl db
  | ok result => exact body result.1 result.2 h

theorem checkoutStep_till (s : CheckoutState) (op : CheckoutOp) :
    TillEffect s.db (checkoutStep digest number s op).db := by
  cases op with
  | shop op => exact shopStep_till digest s.db op
  | createPayment orderId reference now => exact commitFst_till fun db' id tx => createPayment_till tx
  | startStripe orderId userId now =>
      simp only [checkoutStep]
      split
      · exact .refl _
      · exact prepareStripeIntent_till ‹_›
  | finishStripe callId intentId =>
      simp only [checkoutStep]
      split
      · exact .refl _
      · refine commit_rel (.refl _) fun db' tx => ?_
        rcases finishStripeIntent_ok tx with rfl | ⟨reference, payment, -, -, -, rfl⟩
        · exact .refl _
        · exact .updatePayment (f := Payment.initiate reference) (fun _ => rfl) rfl rfl rfl rfl
  | stripeEvent event now =>
      refine commitFst_till fun db' result tx => ?_
      rcases reconcileStripePaymentEvent_ok tx with ⟨events, rfl⟩ | ⟨e, -, evidence⟩
      · exact .none rfl rfl rfl rfl
      · exact evidence_till evidence
  | startRecovery orderId userId =>
      simp only [checkoutStep]
      split <;> exact .refl _
  | finishRecovery callId intent now =>
      simp only [checkoutStep]
      split
      · exact .refl _
      · refine commit_rel (.refl _) fun db' tx => ?_
        rcases finishRecovery_ok tx with rfl | ⟨i, -, evidence⟩
        · exact .refl _
        · exact evidence_till evidence
  | startPayPal orderId userId now =>
      simp only [checkoutStep]
      split
      · exact .refl _
      · split <;> exact preparePayPalOrder_till ‹_›
  | finishPayPal callId createdId =>
      simp only [checkoutStep]
      split
      · exact .refl _
      · refine commit_rel (.refl _) fun db' tx => ?_
        obtain ⟨reference, payment, -, -, -, rfl⟩ := finishPayPalOrder_eq_ok.mp tx
        exact .updatePayment (f := Payment.resetPayPal reference) (fun _ => rfl) rfl rfl rfl rfl
  | startCapture orderId userId now =>
      simp only [checkoutStep]
      split
      · exact .refl _
      · rename_i db' call tx
        obtain ⟨-, payment, -, -, -, rfl | ⟨-, rfl⟩⟩ := preparePayPalCapture_ok tx
        · exact .refl _
        · exact .updatePayment (f := Payment.keyCapture call.requestId) (fun _ => rfl) rfl rfl rfl rfl
  | readCapture callId response =>
      simp only [checkoutStep]
      split
      · exact .refl _
      · split <;> exact .refl _
  | writeCapture pendingId now =>
      simp only [checkoutStep]
      split
      · exact .refl _
      · rename_i pending hpending
        refine commit_rel (.refl _) fun db' tx => ?_
        obtain ⟨order, row, events, -, -, -, -, rfl⟩ := AcceptedCapture.write_eq_ok.mp tx
        exact .updatePayment (f := Payment.capture pending.captureId now) (fun _ => rfl) rfl rfl rfl
          rfl
  | readPayPalEvent event =>
      simp only [checkoutStep]
      split
      · exact .refl _
      · split <;> exact .refl _
  | writePayPalEvent pendingId now =>
      simp only [checkoutStep]
      split
      · exact .refl _
      · exact commitFst_till fun db' result tx => writePayPalEvent_till tx

end Payments

/-! ### The books -/

/-- An order costs its items, each its quantity at the price it was placed at; its one
payment is over that amount, and what is refunded or reserved for refunds stays within. -/
structure Charged (db : Db) : Prop where
  totals : ∀ o order, db.orders.get? o = some order →
    order.totalAmount = db.orderItems.sum fun _ i => if i.orderId = o then i.lineTotal else 0
  lines : ∀ i item, db.orderItems.get? i = some item →
    (∃ order, db.orders.get? item.orderId = some order) ∧ 0 < item.quantity ∧
      item.lineTotal = item.unitPrice * item.quantity
  payments : ∀ p payment, db.payments.get? p = some payment →
    ∃ order, db.orders.get? payment.orderId = some order ∧ payment.amount = order.totalAmount ∧
      0 < payment.amount ∧ payment.currency = "GBP"
  single : ∀ p q a b, db.payments.get? p = some a → db.payments.get? q = some b →
    a.orderId = b.orderId → p = q
  sound : AllSound db.payments
  refunds : ∀ r refund, db.refunds.get? r = some refund →
    ∃ payment, db.payments.get? refund.paymentId = some payment ∧
      refund.orderId = payment.orderId ∧ refund.currency = payment.currency ∧
      0 < refund.amount ∧ refund.amount ≤ payment.amount

/-- Orders, items and charges are there with the terms they had, and no order has got
another item. -/
structure BooksKept (db db' : Db) : Prop where
  orders : ∀ o order, db.orders.get? o = some order →
    ∃ order', db'.orders.get? o = some order' ∧ order'.terms = order.terms
  items : ∀ i item, db.orderItems.get? i = some item →
    ∃ item', db'.orderItems.get? i = some item' ∧ item'.terms = item.terms
  added : ∀ i item', db'.orderItems.get? i = some item' →
    (∃ order, db.orders.get? item'.orderId = some order) →
      ∃ item, db.orderItems.get? i = some item ∧ item'.terms = item.terms
  payments : ∀ p payment, db.payments.get? p = some payment →
    ∃ payment', db'.payments.get? p = some payment' ∧ payment'.charge = payment.charge

theorem CapacityEffect.charges {payments payments' : Table Payment}
    (happened : CapacityEffect payments payments') :
    SameTerms Payment.charge payments payments' := by
  cases happened with
  | keep => exact .of_eq rfl
  | @reserve p payment requested hp provider pos room =>
      exact .update (f := Payment.reserveRefund requested) (fun _ => rfl) rfl
  | @move p payment requested finalize hp provider pos covered =>
      exact .update (f := Payment.moveReserved requested finalize) (fun _ => rfl) rfl
  | @refund p payment amount hp provider pos room =>
      exact .update (f := Payment.refund amount) (fun _ => rfl) rfl

namespace BooksKept

variable {db db' db'' : Db}

theorem refl (db : Db) : BooksKept db db where
  orders := fun _ order found => ⟨order, found, rfl⟩
  items := fun _ item found => ⟨item, found, rfl⟩
  added := fun _ item found _ => ⟨item, found, rfl⟩
  payments := fun _ payment found => ⟨payment, found, rfl⟩

theorem trans (h : BooksKept db db') (h' : BooksKept db' db'') : BooksKept db db'' where
  orders := by
    intro o order found
    obtain ⟨order', found', same⟩ := h.orders o order found
    obtain ⟨order'', found'', same'⟩ := h'.orders o order' found'
    exact ⟨order'', found'', same'.trans same⟩
  items := by
    intro i item found
    obtain ⟨item', found', same⟩ := h.items i item found
    obtain ⟨item'', found'', same'⟩ := h'.items i item' found'
    exact ⟨item'', found'', same'.trans same⟩
  added := by
    intro i item'' found'' old
    obtain ⟨order, placed⟩ := old
    obtain ⟨order', placed', -⟩ := h.orders _ order placed
    obtain ⟨item', found', same'⟩ := h'.added i item'' found'' ⟨order', placed'⟩
    obtain ⟨owner, -, -, -⟩ := OrderItem.terms_priced same'
    obtain ⟨item, found, same⟩ := h.added i item' found' ⟨order, owner ▸ placed⟩
    exact ⟨item, found, same'.trans same⟩
  payments := by
    intro p payment found
    obtain ⟨payment', found', same⟩ := h.payments p payment found
    obtain ⟨payment'', found'', same'⟩ := h'.payments p payment' found'
    exact ⟨payment'', found'', same'.trans same⟩

/-- Rows that keep their terms. -/
theorem of_same (orders : SameTerms Order.terms db.orders db'.orders)
    (items : SameTerms OrderItem.terms db.orderItems db'.orderItems)
    (payments : ∀ p payment, db.payments.get? p = some payment →
      ∃ payment', db'.payments.get? p = some payment' ∧ payment'.charge = payment.charge) :
    BooksKept db db' where
  orders := fun _ _ found => orders.forward found
  items := fun _ _ found => items.forward found
  added := fun _ _ found _ => items.backward found
  payments := payments

end BooksKept

theorem TillEffect.kept {db db' : Db} (happened : TillEffect db db') : BooksKept db db' := by
  cases happened with
  | keep orders items payments refunds =>
      refine .of_same orders items fun p payment found => ?_
      obtain ⟨payment', found', same⟩ := payments.forward found
      exact ⟨payment', found', congrArg Prod.fst same⟩
  | @place order rows orders items payments refunds total lines prices =>
      refine ⟨fun o old found => ?_, fun i item found => ?_, fun i item' found old => ?_,
        fun p payment found => ⟨payment, payments ▸ found, rfl⟩⟩
      · exact ⟨old, orders ▸ Table.get?_insert_of_some found, rfl⟩
      · exact ⟨item, items ▸ Table.get?_insertAll_of_some found, rfl⟩
      · rw [items] at found
        rcases Table.mem_insertAll found with before | ⟨-, row⟩
        · exact ⟨item', before, rfl⟩
        · obtain ⟨order, placed⟩ := old
          rw [(lines item' row).1, Table.get?_nextId] at placed
          cases placed
  | charge orders items payments refunds found amount positive currency refunded reserved free =>
      refine .of_same (.of_eq orders) (.of_eq items) fun p payment old => ?_
      exact ⟨payment, payments ▸ Table.get?_insert_of_some old, rfl⟩
  | capacity orders items payments refunds =>
      exact .of_same (.of_eq orders) (.of_eq items) fun p payment old => payments.charges.forward old

/-- An item that is new costs what its listing is sold at. -/
theorem TillEffect.priced {db db' : Db} (happened : TillEffect db db') {i : Nat} {item : OrderItem}
    (new : db.orderItems.get? i = Option.none) (found : db'.orderItems.get? i = some item) :
    item.PricedAs db.listings := by
  -- only a placement adds items
  have same : ∀ {items : Table OrderItem}, SameTerms OrderItem.terms db.orderItems items →
      items.get? i = some item → False := by
    intro items same found
    obtain ⟨old, before, -⟩ := same.backward found
    rw [new] at before
    cases before
  cases happened with
  | keep orders items payments refunds => exact (same items found).elim
  | place orders items payments refunds total lines prices =>
      rw [items] at found
      rcases Table.mem_insertAll found with before | ⟨-, row⟩
      · rw [new] at before
        cases before
      · exact prices item row
  | charge orders items payments refunds _ _ _ _ _ _ _ => exact (same (.of_eq items) found).elim
  | capacity orders items payments refunds => exact (same (.of_eq items) found).elim

/-! ### Every action keeps the amounts in agreement -/

namespace Charged

variable {db db' : Db}

/-- An order that is not placed yet has no items. -/
theorem sum_items_nextId (h : Charged db) : (db.orderItems.sum fun _ i =>
    if i.orderId = db.orders.nextId then i.lineTotal else 0) = 0 := by
  refine Table.sum_eq_zero fun i item found => if_neg fun own => ?_
  obtain ⟨⟨order, placed⟩, -⟩ := h.lines i item found
  rw [own, Table.get?_nextId] at placed
  cases placed

theorem keep (h : Charged db) (orders : SameTerms Order.terms db.orders db'.orders)
    (items : SameTerms OrderItem.terms db.orderItems db'.orderItems)
    (payments : SameTerms Payment.charge db.payments db'.payments) (sound : AllSound db'.payments)
    (refunds : ∀ r refund, db'.refunds.get? r = some refund →
      ∃ payment, db.payments.get? refund.paymentId = some payment ∧
        refund.orderId = payment.orderId ∧ refund.currency = payment.currency ∧
        0 < refund.amount ∧ refund.amount ≤ payment.amount) : Charged db' where
  totals := by
    intro o order' found'
    obtain ⟨order, found, same⟩ := orders.backward found'
    have total : order'.totalAmount = order.totalAmount := congrArg OrderTerms.totalAmount same
    have sums := items.sum_eq fun terms => if terms.orderId = o then terms.lineTotal else 0
    exact total.trans ((h.totals o order found).trans sums.symm)
  lines := by
    intro i item' found'
    obtain ⟨item, found, same⟩ := items.backward found'
    obtain ⟨⟨order, placed⟩, positive, line⟩ := h.lines i item found
    obtain ⟨order', placed', -⟩ := orders.forward placed
    obtain ⟨owner, quantity, price, total⟩ := OrderItem.terms_priced same
    refine ⟨⟨order', owner ▸ placed'⟩, quantity ▸ positive, ?_⟩
    rw [total, price, quantity, line]
  payments := by
    intro p payment' found'
    obtain ⟨payment, found, same⟩ := payments.backward found'
    obtain ⟨order, placed, amount, positive, currency⟩ := h.payments p payment found
    obtain ⟨order', placed', terms⟩ := orders.forward placed
    obtain ⟨owner, sameAmount, sameCurrency, -⟩ := Charge.mk.inj same
    have total : order'.totalAmount = order.totalAmount := congrArg OrderTerms.totalAmount terms
    exact ⟨order', owner ▸ placed', sameAmount.trans (amount.trans total.symm),
      sameAmount ▸ positive, sameCurrency.trans currency⟩
  single := by
    intro p q a' b' ha hb own
    obtain ⟨a, foundA, sameA⟩ := payments.backward ha
    obtain ⟨b, foundB, sameB⟩ := payments.backward hb
    have ownA : a'.orderId = a.orderId := congrArg Charge.orderId sameA
    have ownB : b'.orderId = b.orderId := congrArg Charge.orderId sameB
    exact h.single p q a b foundA foundB (ownA.symm.trans (own.trans ownB))
  sound := sound
  refunds := by
    intro r refund found
    obtain ⟨payment, paid, order, currency, positive, within⟩ := refunds r refund found
    obtain ⟨payment', paid', same⟩ := payments.forward paid
    obtain ⟨sameOrder, sameAmount, sameCurrency, -⟩ := Charge.mk.inj same
    exact ⟨payment', paid', order.trans sameOrder.symm, currency.trans sameCurrency.symm, positive,
      sameAmount ▸ within⟩

theorem place (h : Charged db) {order : Order} {rows : List OrderItem}
    (orders : db'.orders = db.orders.insert order)
    (items : db'.orderItems = rows.foldl Table.insert db.orderItems)
    (payments : db'.payments = db.payments) (refunds : db'.refunds = db.refunds)
    (total : order.totalAmount = (rows.map OrderItem.lineTotal).sum)
    (lines : ∀ i ∈ rows, i.orderId = db.orders.nextId ∧ 0 < i.quantity ∧
      i.lineTotal = i.unitPrice * i.quantity) : Charged db' where
  totals := by
    intro o placed found
    rw [orders] at found
    rw [items, Table.sum_insertAll rows fun i => if i.orderId = o then i.lineTotal else 0]
    rcases Table.insert_cases found with ⟨rfl, rfl⟩ | old
    · rw [h.sum_items_nextId, zero_add, total]
      refine congrArg List.sum (List.map_congr_left fun i mem => ?_)
      rw [if_pos (lines i mem).1]
    · have none_ : (rows.map fun i => if i.orderId = o then i.lineTotal else 0).sum = 0 := by
        refine List.sum_eq_zero fun x mem => ?_
        obtain ⟨i, row, rfl⟩ := List.mem_map.mp mem
        refine if_neg fun own => ?_
        rw [← own, (lines i row).1, Table.get?_nextId] at old
        cases old
      rw [none_, add_zero]
      exact h.totals o placed old
  lines := by
    intro i item found
    rw [items] at found
    rcases Table.mem_insertAll found with old | ⟨-, row⟩
    · obtain ⟨⟨before, placed⟩, line⟩ := h.lines i item old
      exact ⟨⟨before, orders ▸ Table.get?_insert_of_some placed⟩, line⟩
    · obtain ⟨owner, line⟩ := lines item row
      exact ⟨⟨order, by rw [orders, owner, Table.get?_insert_self]⟩, line⟩
  payments := by
    intro p payment found
    obtain ⟨before, placed, rest⟩ := h.payments p payment (payments ▸ found)
    exact ⟨before, orders ▸ Table.get?_insert_of_some placed, rest⟩
  single := payments ▸ h.single
  sound := payments ▸ h.sound
  refunds := payments ▸ refunds ▸ h.refunds

theorem charge (h : Charged db) {order : Order} {payment : Payment}
    (orders : db'.orders = db.orders) (items : db'.orderItems = db.orderItems)
    (payments : db'.payments = db.payments.insert payment) (refunds : db'.refunds = db.refunds)
    (found : db.orders.get? payment.orderId = some order)
    (amount : payment.amount = order.totalAmount) (positive : 0 < payment.amount)
    (currency : payment.currency = "GBP") (refunded : payment.refundedAmount = 0)
    (reserved : payment.reservedRefundAmount = 0)
    (free : db.payments.clashes Payment.clash db.payments.nextId payment = false) : Charged db' where
  totals := orders ▸ items ▸ h.totals
  lines := orders ▸ items ▸ h.lines
  payments := by
    intro p row hrow
    rw [payments] at hrow
    rw [orders]
    rcases Table.insert_cases hrow with ⟨-, rfl⟩ | old
    · exact ⟨order, found, amount, positive, currency⟩
    · exact h.payments p row old
  single := by
    have apart : ∀ q b, db.payments.get? q = some b → payment.orderId ≠ b.orderId := by
      intro q b hb same
      have key := Table.clashes_eq_false.mp free q b hb (by simp [Payment.clash, same])
      rw [key, Table.get?_nextId] at hb
      cases hb
    intro p q a b ha hb own
    rw [payments] at ha hb
    rcases Table.insert_cases ha with ⟨rfl, rfl⟩ | oldA <;>
      rcases Table.insert_cases hb with ⟨rfl, rfl⟩ | oldB
    · rfl
    · exact absurd own (apart q b oldB)
    · exact absurd own.symm (apart p a oldA)
    · exact h.single p q a b oldA oldB own
  sound := by
    intro p row hrow
    rw [payments] at hrow
    rcases Table.insert_cases hrow with ⟨-, rfl⟩ | old
    · refine ⟨⟨refunded.ge, reserved.ge, ?_⟩, fun _ => reserved⟩
      rw [refunded, reserved, add_zero]
      exact positive.le
    · exact h.sound p row old
  refunds := by
    intro r refund hrefund
    obtain ⟨row, paid, rest⟩ := h.refunds r refund (refunds ▸ hrefund)
    exact ⟨row, payments ▸ Table.get?_insert_of_some paid, rest⟩

theorem step (h : Charged db) (happened : TillEffect db db') : Charged db' := by
  cases happened with
  | keep orders items payments refunds =>
      have charges : SameTerms Payment.charge db.payments db'.payments := by
        obtain ⟨f, eq, same⟩ := payments
        exact ⟨f, eq, fun k r => congrArg Prod.fst (same k r)⟩
      refine h.keep orders items charges (fun p payment' found' => ?_) (refunds ▸ h.refunds)
      obtain ⟨payment, found, same⟩ := payments.backward found'
      obtain ⟨sameCharge, refunded, reserved⟩ : payment'.charge = payment.charge ∧
          payment'.refundedAmount = payment.refundedAmount ∧
          payment'.reservedRefundAmount = payment.reservedRefundAmount := by
        simpa only [Prod.mk.injEq] using same
      obtain ⟨-, amount, -, provider⟩ := Charge.mk.inj sameCharge
      have old := h.sound p payment found
      refine ⟨⟨refunded ▸ old.refunded_nonneg, reserved ▸ old.reserved_nonneg, ?_⟩, fun manual => ?_⟩
      · rw [refunded, reserved, amount]
        exact old.within
      · exact reserved.trans (old.manual (provider.symm.trans manual))
  | place orders items payments refunds total lines prices =>
      exact h.place orders items payments refunds total lines
  | charge orders items payments refunds found amount positive currency refunded reserved free =>
      exact h.charge orders items payments refunds found amount positive currency refunded reserved
        free
  | capacity orders items payments refunds =>
      refine h.keep (.of_eq orders) (.of_eq items) payments.charges (payments.sound h.sound)
        fun r refund' found' => ?_
      generalize db'.refunds = after at refunds found'
      cases refunds with
      | keep same =>
          obtain ⟨refund, found, terms⟩ := same.backward found'
          obtain ⟨payment, paid, order, currency, positive, within⟩ := h.refunds r refund found
          obtain ⟨sameOrder, samePayment, sameAmount, sameCurrency⟩ := RefundTerms.mk.inj terms
          exact ⟨payment, samePayment ▸ paid, sameOrder.trans order, sameCurrency.trans currency,
            sameAmount ▸ positive, sameAmount ▸ within⟩
      | @insert refund payment paid order currency positive room =>
          rcases Table.insert_cases found' with ⟨-, rfl⟩ | old
          · have sound := h.sound _ payment paid
            refine ⟨payment, paid, order, currency, positive, ?_⟩
            have refunded := sound.refunded_nonneg
            have reserved := sound.reserved_nonneg
            linarith
          · exact h.refunds r refund' old

end Charged

/-! ### Refunds and the catalogue -/

section Refunds

variable {db db' : Db} {s : RefundState} {number : String → Option Nat}

theorem prepare_till {service : RefundService} (provider : service.provider ≠ .manual)
    {input : RefundInput} {uuid : String} {call : RefundCall}
    (tx : service.prepare input uuid db = .ok (db', call)) : TillEffect db db' := by
  simp only [RefundService.prepare, bind_eq_ok, orThrow_eq_ok, ensure_eq_ok] at tx
  obtain ⟨requested, -, -, -, payment, found, -, -, -, ⟨own, -⟩, tx⟩ := tx
  obtain ⟨paid, order⟩ := Option.filter_eq_some_iff.mp found
  split at tx
  · simp only [bind_eq_ok, pure_eq_ok, Prod.mk.injEq] at tx
    obtain ⟨-, -, rfl, -⟩ := tx
    exact .refl _
  · simp only [bind_eq_ok, createRow_eq_ok, pure_eq_ok, Prod.mk.injEq] at tx
    obtain ⟨payments, reserve, _, ⟨-, rfl⟩, rfl, -⟩ := tx
    obtain ⟨row, hrow, positive, room, rfl⟩ := reserveRefundCapacity_eq_ok.mp reserve
    obtain rfl := Option.some.inj (paid.symm.trans hrow)
    exact .capacity rfl rfl (.reserve paid (own ▸ provider) positive room)
      (.insert paid (of_decide_eq_true order).symm rfl positive room)

/-- Capacity moves on payments that have some reserved, so never on a manual one. -/
theorem settleRefund_till (sound : AllSound db.payments) {paymentId refundId : Nat} {amount : Pence}
    {finalize : Bool} {reference : Option ProviderReference}
    (tx : settleRefund paymentId refundId amount finalize reference db = .ok db') :
    TillEffect db db' := by
  obtain ⟨payment, refund, paid, -, positive, covered, -, rfl⟩ := settleRefund_eq_ok.mp tx
  have provider : payment.provider ≠ .manual := by
    intro manual
    have reserved := (sound paymentId payment paid).manual manual
    linarith
  exact .capacity rfl rfl (.move finalize paid provider positive covered)
    (.keep (.update (f := Refund.settle finalize reference) (fun _ => rfl) rfl))

theorem rememberReference_till {refundId : Nat} {reference : ProviderReference}
    (tx : rememberReference refundId reference db = .ok db') : TillEffect db db' := by
  obtain ⟨refund, -, -, rfl⟩ := rememberReference_eq_ok.mp tx
  exact .capacity rfl rfl .keep (.keep (.update (f := Refund.refer reference) (fun _ => rfl) rfl))

theorem finish_till (sound : AllSound s.db.payments) (call : RefundCall)
    (decision : Result RefundDecision) : TillEffect s.db (s.finish call decision).db := by
  cases decision with
  | error e => exact .refl _
  | ok d =>
      rw [RefundState.finish]
      split
      · exact .refl _
      · rename_i db' tx
        cases d with
        | settle finalize reference => exact settleRefund_till sound tx
        | remain reference => exact rememberReference_till tx

theorem applyRefundEvent_till (sound : AllSound db.payments) {event : StripeRefundEvent}
    {refundId : Nat} {refund : Refund} (tx : applyRefundEvent event refundId refund db = .ok db') :
    TillEffect db db' := by
  rw [applyRefundEvent] at tx
  split at tx
  · split at tx
    · exact settleRefund_till sound tx
    · exact settleRefund_till sound tx
    · exact settleRefund_till sound tx
    · exact rememberReference_till tx
  · obtain rfl := pure_eq_ok.mp tx
    exact .refl _

theorem writeRefundEvent_till (sound : AllSound db.payments) {event : StripeRefundEvent}
    {read : Option (Nat × Refund)} {now : Time} {result : WebhookResult}
    (tx : writeRefundEvent event read now db = .ok (db', result)) : TillEffect db db' := by
  obtain ⟨-, settled, events, rfl, applied⟩ := writeRefundEvent_ok tx
  cases read with
  | none =>
      obtain rfl : settled = db := applied
      exact .none rfl rfl rfl rfl
  | some e =>
      cases applyRefundEvent_till sound applied with
      | keep orders items payments refunds => exact .keep orders items payments refunds
      | place orders items payments refunds total lines prices =>
          exact .place orders items payments refunds total lines prices
      | charge orders items payments refunds found amount positive currency refunded reserved free =>
          exact .charge orders items payments refunds found amount positive currency refunded
            reserved free
      | capacity orders items payments refunds => exact .capacity orders items payments refunds

theorem refundStep_till (sound : AllSound s.db.payments) (op : RefundOp) :
    TillEffect s.db (refundStep number s op).db := by
  cases op with
  | startStripe input uuid =>
      have provider : stripeRefunds.provider ≠ .manual := by decide
      simp only [refundStep]
      split
      · exact .refl _
      · exact prepare_till provider ‹_›
  | startPayPal input uuid =>
      have provider : paypalRefunds.provider ≠ .manual := by decide
      simp only [refundStep]
      split
      · exact .refl _
      · exact prepare_till provider ‹_›
  | answerStripe callId response =>
      simp only [refundStep]
      split
      · exact .refl _
      · exact finish_till sound _ _
  | answerPayPal callId response =>
      simp only [refundStep]
      split
      · exact .refl _
      · exact finish_till sound _ _
  | readRefundEvent event =>
      simp only [refundStep]
      split
      · exact .refl _
      · split <;> exact .refl _
  | writeRefundEvent pendingId now =>
      simp only [refundStep]
      split
      · exact .refl _
      · rw [RefundState.write]
        split
        · exact .refl _
        · exact writeRefundEvent_till sound ‹_›

theorem listed_till {currentStock : Int} (listed : Listed currentStock db db') :
    TillEffect db db' := by
  obtain ⟨_, _, _, _, rfl⟩ := listed
  exact .none rfl rfl rfl rfl

theorem switched_till (switched : Switched db db') : TillEffect db db' := by
  obtain ⟨_, _, rfl⟩ := switched
  exact .none rfl rfl rfl rfl

theorem updateProduct_till {id : Nat} {body : ProductUpdate}
    (tx : updateProduct id body db = .ok db') : TillEffect db db' := by
  simp only [updateProduct, bind_eq_ok, orThrow_eq_ok, ensure_eq_ok, pure_eq_ok] at tx
  obtain ⟨-, -, -, -, -, -, existing, -, -, -, product, -, -, -, rfl⟩ := tx
  exact .none rfl rfl rfl rfl

end Refunds

/-! ### Manual refunds -/

/-- The calls under way concern manual payments, over what these still are. -/
structure DeskCalls (s : TillState) : Prop where
  requested : ∀ i input, s.requested.get? i = some input →
    ∃ payment, s.db.payments.get? input.paymentId = some payment ∧ payment.provider = .manual
  claiming : ∀ i call, s.claiming.get? i = some call → 0 < call.amount ∧
    call.orderId = call.payment.orderId ∧
    ∃ payment, s.db.payments.get? call.paymentId = some payment ∧ payment.provider = .manual ∧
      payment.charge = call.payment.charge

namespace DeskCalls

variable {s s' : TillState}

/-- Charges stay, and no call is new. -/
theorem mono (h : DeskCalls s) (kept : BooksKept s.db s'.db) (requested : s'.requested = s.requested)
    (claiming : s'.claiming = s.claiming) : DeskCalls s' where
  requested := by
    intro i input hi
    obtain ⟨payment, paid, provider⟩ := h.requested i input (requested ▸ hi)
    obtain ⟨payment', paid', same⟩ := kept.payments _ payment paid
    have sameProvider : payment'.provider = payment.provider := congrArg Charge.provider same
    exact ⟨payment', paid', sameProvider.trans provider⟩
  claiming := by
    intro i call hi
    obtain ⟨positive, order, payment, paid, provider, charge⟩ := h.claiming i call (claiming ▸ hi)
    obtain ⟨payment', paid', same⟩ := kept.payments _ payment paid
    have sameProvider : payment'.provider = payment.provider := congrArg Charge.provider same
    exact ⟨positive, order, payment', paid', sameProvider.trans provider, same.trans charge⟩

/-- A call is new when the handler passes it on, or when it has read its payment. -/
theorem proceed (h : DeskCalls s) (op : DeskOp) :
    DeskCalls (s.withDesk { op.proceed s.desk with db := s.db }) where
  requested := by
    intro i input hi
    rcases (proceed_proceeds op).requested i input hi with old | ⟨_, _, _, routed⟩
    · exact h.requested i input old
    · obtain ⟨payment, paid, provider, -⟩ := createRefundHandler_manual routed
      exact ⟨payment, paid, provider⟩
  claiming := by
    intro i call hi
    rcases (proceed_proceeds op).claiming i call hi with old | ⟨j, input, asked, read⟩
    · exact h.claiming i call old
    · obtain ⟨same, positive, paid, order, -⟩ := createRefundReads_claim read
      obtain ⟨payment, found, provider⟩ := h.requested j input asked
      obtain rfl : call.payment = payment := Option.some.inj (paid.symm.trans (same ▸ found))
      exact ⟨positive, order.symm, call.payment, paid, provider, rfl⟩

/-- A claim refunds a payment that has not been refunded further than it may. -/
theorem claim_till (h : DeskCalls s) (sound : AllSound s.db.payments) (callId : Nat) :
    TillEffect s.db (deskStep s.desk (.claim callId)).db := by
  refine commit_rel (.refl _) fun db' tx => ?_
  rcases onCall_eq_ok.mp tx with ⟨-, rfl⟩ | ⟨call, asked, claim⟩
  · exact .refl _
  · obtain ⟨⟨db₁, refundId⟩, writes, rfl⟩ := map_eq_ok.mp claim
    obtain ⟨row, found, room, -, -, rfl⟩ := createRefundWrites_ok writes
    obtain ⟨positive, order, payment, paid, provider, charge⟩ := h.claiming callId call asked
    obtain rfl : row = payment := Option.some.inj (found.symm.trans paid)
    obtain ⟨sameOrder, sameAmount, sameCurrency, -⟩ := Charge.mk.inj charge
    have within : row.refundedAmount ≤ row.amount - call.amount := sameAmount ▸ room
    have reserved := (sound call.paymentId row paid).manual provider
    refine .capacity rfl rfl (.refund paid provider positive within)
      (.insert paid (order.trans sameOrder.symm) sameCurrency.symm positive ?_)
    show row.refundedAmount + row.reservedRefundAmount + call.amount ≤ row.amount
    linarith

end DeskCalls

/-! ### The till keeps its books -/

/-- The amounts agree, and the refunds under way are for manual payments. -/
structure TillInv (s : TillState) : Prop where
  books : Charged s.db
  calls : DeskCalls s

section Steps

variable {digest : CanonicalRequest → String} {number : String → Option Nat} {s : TillState}

theorem tillStep_effect (inv : TillInv s) (op : TillOp) :
    TillEffect s.db (tillStep digest number s op).db := by
  have sound := inv.books.sound
  cases op with
  | checkout op => exact checkoutStep_till s.checkout op
  | refund op => exact refundStep_till (s := s.refunds) sound op
  | requestRefund orderId userId body =>
      have same : (deskStep s.desk (.request orderId userId body)).db = s.db := deskStep_reads rfl
      exact same ▸ .refl _
  | readRefund callId =>
      have same : (deskStep s.desk (.read callId)).db = s.db := deskStep_reads rfl
      exact same ▸ .refl _
  | claimRefund callId => exact inv.calls.claim_till sound callId
  | rereadRefund callId =>
      have same : (deskStep s.desk (.reread callId)).db = s.db := deskStep_reads rfl
      exact same ▸ .refl _
  | createProduct input =>
      exact commit_rel (.refl _) fun db' tx => listed_till (createProduct_ok tx).2
  | createPurchaseListing userId purchaseId body =>
      exact commit_rel (.refl _) fun db' tx => listed_till (createPurchaseListing_ok tx)
  | updateProduct id body => exact commit_rel (.refl _) fun db' tx => updateProduct_till tx
  | deactivateProduct id =>
      exact commit_rel (.refl _) fun db' tx => switched_till (deactivateProduct_ok tx)
  | reactivateProduct id =>
      exact commit_rel (.refl _) fun db' tx => switched_till (reactivateProduct_ok tx)

theorem TillInv.step (inv : TillInv s) (op : TillOp) : TillInv (tillStep digest number s op) := by
  have happened : TillEffect s.db (tillStep digest number s op).db := tillStep_effect inv op
  refine ⟨inv.books.step happened, ?_⟩
  -- the refund desk proceeds first, then its transaction commits
  cases op with
  | requestRefund orderId userId body =>
      exact (inv.calls.proceed (.request orderId userId body)).mono happened.kept rfl rfl
  | readRefund callId => exact (inv.calls.proceed (.read callId)).mono happened.kept rfl rfl
  | claimRefund callId => exact (inv.calls.proceed (.claim callId)).mono happened.kept rfl rfl
  | rereadRefund callId => exact (inv.calls.proceed (.reread callId)).mono happened.kept rfl rfl
  | _ => exact inv.calls.mono happened.kept rfl rfl

theorem FreshTill.inv (fresh : FreshTill s) : TillInv s := by
  have orders : ∀ o, s.db.orders.get? o = none := fresh.checkout.shop.orders
  have items : ∀ i, s.db.orderItems.get? i = none := fresh.checkout.shop.orderItems
  have payments : ∀ p, s.db.payments.get? p = none := fresh.checkout.payments
  constructor
  · constructor
    · intro o order found
      rw [orders] at found
      cases found
    · intro i item found
      rw [items] at found
      cases found
    · intro p payment found
      rw [payments] at found
      cases found
    · intro p q a b found
      rw [payments] at found
      cases found
    · intro p payment found
      rw [payments] at found
      cases found
    · intro r refund found
      rw [fresh.refunds] at found
      cases found
  · constructor
    · intro i input found
      rw [fresh.requested] at found
      cases found
    · intro i call found
      rw [fresh.claiming] at found
      cases found

theorem TillInv.run (inv : TillInv s) (ops : List TillOp) :
    TillInv (Relational.run (tillStep digest number) s ops) :=
  run_invariant (fun _ op inv => inv.step op) inv ops

theorem BooksKept.run (inv : TillInv s) (ops : List TillOp) :
    BooksKept s.db (Relational.run (tillStep digest number) s ops).db :=
  run_rel (R := fun a b : TillState => BooksKept a.db b.db) (fun a => .refl a.db) .trans
    (fun _ op (inv : TillInv _) => inv.step op) (fun _ op inv => (tillStep_effect inv op).kept) inv
    ops

/-- The refunds of a payment, paid out or reserved, stay within what its order's items cost. -/
theorem Charged.refundable {db : Db} (h : Charged db) {p : Nat} {payment : Payment}
    (paid : db.payments.get? p = some payment) :
    payment.refundedAmount + payment.reservedRefundAmount ≤
      db.orderItems.sum fun _ i => if i.orderId = payment.orderId then i.lineTotal else 0 := by
  obtain ⟨order, placed, amount, -, -⟩ := h.payments p payment paid
  calc payment.refundedAmount + payment.reservedRefundAmount ≤ payment.amount :=
        (h.sound p payment paid).within
    _ = order.totalAmount := amount
    _ = _ := h.totals _ order placed

end Steps

/-- In every state of every run, an order costs the sum of its items, its one payment is over
that sum, and its refunds stay within; what was ordered, charged and priced before
stays as it was in every state that comes after, whatever the prices become; and an item
is priced, in the step that places it, as its listing is sold then. -/
theorem order_money (digest : CanonicalRequest → String) (number : String → Option Nat)
    {s₀ : TillState} (fresh : FreshTill s₀) (before after : List TillOp) :
    let s := run (tillStep digest number) s₀ before
    let s' := run (tillStep digest number) s after
    Charged s'.db ∧ BooksKept s.db s'.db ∧
      (∀ p payment, s'.db.payments.get? p = some payment →
        payment.refundedAmount + payment.reservedRefundAmount ≤
          s'.db.orderItems.sum fun _ i => if i.orderId = payment.orderId then i.lineTotal else 0) ∧
      ∀ t ∈ transitions (tillStep digest number) s₀ (before ++ after), ∀ i item,
        t.1.db.orderItems.get? i = none →
        (tillStep digest number t.1 t.2).db.orderItems.get? i = some item →
        item.PricedAs t.1.db.listings := by
  intro s s'
  have inv : TillInv s := fresh.inv.run before
  have inv' : TillInv s' := inv.run after
  refine ⟨inv'.books, .run inv after, fun p payment paid => inv'.books.refundable paid, ?_⟩
  intro t ht i item new found
  have held : TillInv t.1 :=
    transitions_invariant (fun _ op inv => inv.step op) fresh.inv (before ++ after) t ht
  exact (tillStep_effect held t.2).priced new found

/-! ### A small till -/

/-- The sample shop's till, with the product of its listing. -/
def sampleTill : TillState where
  checkout := { sampleCheckout with
    db := { sampleShop with
      legoProducts := Table.empty.insert
        { setNumber := "10300", categoryId := none, title := "DeLorean", description := none
          theme := "Icons", ageRecommendation := "18+", pieceCount := 1872, isRetired := false
          isFeatureProduct := false } } }
  stripeRefunds := .empty
  paypalRefunds := .empty
  refundEvents := .empty
  settled := []
  requested := .empty
  claiming := .empty
  conflicting := .empty

theorem sampleTill_fresh : FreshTill sampleTill where
  checkout := { sampleCheckout_fresh with shop := { sampleShop_fresh with } }
  refunds := fun _ => rfl
  requested := fun _ => rfl
  claiming := fun _ => rfl

/-- Two units are ordered and paid with PayPal. -/
def paidTill : List TillOp :=
  [.checkout (.shop (.createOrder 1 (.single ⟨1, 2, two_units_pos⟩) none 0)),
    .checkout (.startPayPal 1 1 1), .checkout (.finishPayPal 1 (some samplePayPalOrder)),
    .checkout (.startCapture 1 1 2), .checkout (.readCapture 1 (some sampleCaptured)),
    .checkout (.writeCapture 1 3)]

/-- Half of it is refunded, the listing's price is put up, and one more unit is ordered. -/
def repricedTill : List TillOp :=
  [.refund (.startPayPal ⟨1, 1, 5, none, 7, none⟩ "a"),
    .refund (.answerPayPal 1 (some ⟨some samplePayPalOrder, .completed, some "5.00", some "GBP"⟩)),
    .updateProduct 1 ⟨⟨none, none, none, none, none, none, none, none⟩, none, some 9, none, false⟩,
    .checkout (.shop (.createOrder 1 (.single ⟨1, 1, Int.zero_lt_one⟩) none 4))]

/-- The first order and its refund keep their amounts; the second order has the new price. -/
theorem order_money_sample :
    let s := run (tillStep (fun _ => "") fun _ => none) sampleTill paidTill
    let s' := run (tillStep (fun _ => "") fun _ => none) s repricedTill
    (Charged s'.db ∧ BooksKept s.db s'.db ∧
      (∀ p payment, s'.db.payments.get? p = some payment →
        payment.refundedAmount + payment.reservedRefundAmount ≤
          s'.db.orderItems.sum fun _ i => if i.orderId = payment.orderId then i.lineTotal else 0) ∧
      ∀ t ∈ transitions (tillStep (fun _ => "") fun _ => none) sampleTill
          (paidTill ++ repricedTill), ∀ i item,
        t.1.db.orderItems.get? i = none →
        (tillStep (fun _ => "") (fun _ => none) t.1 t.2).db.orderItems.get? i = some item →
        item.PricedAs t.1.db.listings) ∧
      s'.db.orderItems.entries.map (fun e => (e.2.orderId, e.2.unitPrice, e.2.lineTotal)) =
        [(1, 500, 1000), (2, 900, 900)] ∧
      s'.db.payments.entries.map (fun e => (e.2.amount, e.2.refundedAmount)) = [(1000, 500)] ∧
      s'.db.refunds.entries.map (fun e => (e.2.status, e.2.amount)) = [(.succeeded, 500)] :=
  ⟨order_money (fun _ => "") (fun _ => none) sampleTill_fresh paidTill repricedTill,
    by decide +kernel, by decide +kernel, by decide +kernel⟩

end ColorfulLife
