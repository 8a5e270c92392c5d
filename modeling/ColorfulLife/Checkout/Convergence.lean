/-
Stripe payments converge.

The evidence about a Stripe payment arrives through events, recoveries and the
final transactions of initiations, in any order and any number of times. It is
applied to the order at most once, never to an order that was released, and a
success is the last word about the payment.
-/

import ColorfulLife.Checkout.Effects

namespace ColorfulLife

open Relational

/-! ### Conversions -/

/-- Orders, listings and movements are as before. -/
structure SameGoods (db db' : Db) : Prop where
  orders : db'.orders = db.orders
  listings : db'.listings = db.listings
  movements : db'.movements = db.movements

/-- The pending order `o` is confirmed, and its reservations become sales. -/
def Converted (o : Nat) (db db' : Db) : Prop :=
  ∃ order performedByUserId stock, db.orders.get? o = some order ∧ order.status = .pending ∧
    (sortItems (db.itemsOf o)).foldlM (convertReservation performedByUserId o) db.stock =
      .ok stock ∧
    db'.orders = db.orders.update o Order.confirm ∧ db'.listings = stock.listings ∧
    db'.movements = stock.movements

def orderStatus (db : Db) (o : Nat) : Option OrderStatus := (db.orders.get? o).map Order.status

/-- The order goes from PENDING to CONFIRMED. -/
def Confirms (o : Nat) (db db' : Db) : Prop :=
  orderStatus db o = some .pending ∧ orderStatus db' o = some .confirmed

instance (o : Nat) (db db' : Db) : Decidable (Confirms o db db') := by
  unfold Confirms; infer_instance

theorem Converted.confirms {o : Nat} {db db' : Db} (h : Converted o db db') :
    Confirms o db db' := by
  obtain ⟨order, -, -, found, pending, -, orders, -, -⟩ := h
  constructor
  · simp [orderStatus, found, pending]
  · simp [orderStatus, orders, found, Order.confirm]

theorem confirmOrderInTransaction_converted {performedByUserId o : Nat} {db db' : Db}
    (h : confirmOrderInTransaction performedByUserId o db = .ok db') : Converted o db db' := by
  obtain ⟨order, stock, found, pending, hloop, rfl⟩ := confirmOrderInTransaction_eq_ok.mp h
  exact ⟨order, performedByUserId, stock, found, pending, hloop, rfl, rfl, rfl⟩

/-- Evidence leaves the goods alone, or converts the order of its payment. -/
theorem StripeEvidence.goods {rewrites : Bool} {receiptId : String} {paymentId : Nat} {db db' : Db}
    (evidence : StripeEvidence rewrites receiptId paymentId db db') :
    SameGoods db db' ∨ ∃ payment, db.payments.get? paymentId = some payment ∧
      Converted payment.orderId db db' := by
  cases evidence with
  | @intro payment order outcome now applied events paid ordered provider applies receipt =>
      obtain ⟨-, payments, -, ⟨-, -, confirmed⟩ | ⟨-, rfl⟩⟩ := applyStripePaymentOutcome_ok applies
      · obtain ⟨order', performedBy, stock, found, pending, hloop, orders, listings, movements⟩ :=
          confirmOrderInTransaction_converted confirmed
        exact Or.inr ⟨payment, paid, order', performedBy, stock, found, pending, hloop, orders,
          listings, movements⟩
      · exact Or.inl ⟨rfl, rfl, rfl⟩

/-! ### Evidence -/

section Evidence

variable (number : String → Option Nat)

/-- The order that the evidence of an action is about: the one of the payment the
event is correlated with, or of the payment being recovered. The admin's
confirmation names its order. -/
def CheckoutOp.evidenceFor (s : CheckoutState) : CheckoutOp → Option Nat
  | .shop (.confirmOrder _ orderId) => some orderId
  | .stripeEvent event _ => (findEventPayment number event s.db).map (·.2.orderId)
  | .finishRecovery callId _ _ => (s.recoveries.get? callId).bind fun call =>
      (s.db.payments.get? call.paymentId).map Payment.orderId
  | _ => none

/-- The actions of the Stripe services, and the admin's confirmation. -/
def CheckoutOp.confirming : CheckoutOp → Bool
  | .shop (.confirmOrder _ _) | .startStripe _ _ _ | .finishStripe _ _ | .stripeEvent _ _
  | .startRecovery _ _ | .finishRecovery _ _ _ => true
  | _ => false

variable {number} {digest : CanonicalRequest → String}

/-- A Stripe action leaves the goods alone, or converts the order its evidence is
about. -/
theorem checkoutStep_goods (s : CheckoutState) (op : CheckoutOp) (confirming : op.confirming = true) :
    SameGoods s.db (checkoutStep digest number s op).db ∨
      ∃ o, op.evidenceFor number s = some o ∧
        Converted o s.db (checkoutStep digest number s op).db := by
  have same : SameGoods s.db s.db := ⟨rfl, rfl, rfl⟩
  cases op with
  | shop op =>
      cases op with
      | confirmOrder performedBy o =>
          simp only [checkoutStep, shopStep, ShopOp.body]
          cases tx : confirmOrderInTransaction performedBy o s.db with
          | error e => exact Or.inl same
          | ok db' => exact Or.inr ⟨o, rfl, confirmOrderInTransaction_converted tx⟩
      | _ => cases confirming
  | startStripe orderId userId now =>
      simp only [checkoutStep]
      split
      · exact Or.inl same
      · rename_i db' call tx
        obtain ⟨order, -, -, -, -, ⟨rfl, -⟩ | ⟨-, -, rfl⟩⟩ := prepareStripeIntent_ok tx
        · exact Or.inl same
        · exact Or.inl ⟨rfl, rfl, rfl⟩
  | finishStripe callId intentId =>
      simp only [checkoutStep]
      split
      · exact Or.inl same
      · rename_i call hcall
        cases tx : finishStripeIntent call intentId s.db with
        | error e => exact Or.inl same
        | ok db' =>
            rcases finishStripeIntent_ok tx with rfl | ⟨reference, payment, -, -, -, rfl⟩
            · exact Or.inl same
            · exact Or.inl ⟨rfl, rfl, rfl⟩
  | stripeEvent event now =>
      simp only [checkoutStep, commitFst]
      cases tx : reconcileStripePaymentEvent number event now s.db with
      | error e => exact Or.inl same
      | ok result =>
          obtain ⟨db', result⟩ := result
          rcases reconcileStripePaymentEvent_ok tx with ⟨events, rfl⟩ | ⟨e, hfind, evidence⟩
          · exact Or.inl ⟨rfl, rfl, rfl⟩
          · rcases evidence.goods with same | ⟨payment, paid, converted⟩
            · exact Or.inl same
            · obtain ⟨hget, -⟩ := findEventPayment_eq_some hfind
              obtain rfl := Option.some.inj (paid.symm.trans hget)
              exact Or.inr ⟨e.2.orderId, by simp [CheckoutOp.evidenceFor, hfind], converted⟩
  | startRecovery orderId userId =>
      simp only [checkoutStep]
      split <;> exact Or.inl same
  | finishRecovery callId intent now =>
      simp only [checkoutStep]
      split
      · exact Or.inl same
      · rename_i call hcall
        cases tx : finishRecovery call intent now s.db with
        | error e => exact Or.inl same
        | ok db' =>
            rcases finishRecovery_ok tx with rfl | ⟨i, -, evidence⟩
            · exact Or.inl same
            · rcases evidence.goods with same | ⟨payment, paid, converted⟩
              · exact Or.inl same
              · exact Or.inr ⟨payment.orderId, by simp [CheckoutOp.evidenceFor, hcall, paid],
                  converted⟩
  | _ => cases confirming

end Evidence

/-! ### Over runs -/

/-- The sales that were recorded for an order item. -/
def websiteSales (db : Db) (item : OrderItem) : List InventoryMovement :=
  (orderMovements db.movements item).filter fun m => decide (m.type = .websiteSale)

theorem ShopInv.websiteSales_le_one {db : Db} (h : ShopInv db) {j : Nat} {item : OrderItem}
    (hitem : db.orderItems.get? j = some item) : (websiteSales db item).length ≤ 1 := by
  obtain ⟨order, horder⟩ := Option.isSome_iff_exists.mp (h.stock.ordered j item hitem)
  have recorded := h.sales.recorded j item order hitem horder
  unfold websiteSales
  cases hs : order.status <;> rw [hs] at recorded <;> simp only [RecordedFor] at recorded
  case pending | expired => simp [recorded]
  case confirmed | dispatched | completed =>
    obtain ⟨p, hp⟩ := recorded
    simp [hp, saleMovement]
  case cancelled =>
    rcases recorded with none | ⟨p, p', hp⟩
    · simp [none]
    · rw [hp]
      split <;> simp [saleMovement, cancellationMovement]

section Runs

variable (digest : CanonicalRequest → String) (number : String → Option Nat) {s : CheckoutState}

/-- Across a run, orders move on and successes stay as they are. -/
theorem CheckoutInv.run_later (h : CheckoutInv s) (ops : List CheckoutOp) :
    OrdersLater s.db (run (checkoutStep digest number) s ops).db ∧
      ∀ p payment, s.db.payments.get? p = some payment → payment.isStripeSuccess →
        ∃ payment', (run (checkoutStep digest number) s ops).db.payments.get? p = some payment' ∧
          payment'.provider = payment.provider ∧ SameSettlement payment payment' := by
  constructor
  · apply run_rel (I := CheckoutInv) (R := fun s s' => OrdersLater s.db s'.db)
    · exact fun s => OrdersLater.refl s.db
    · exact fun h h' => h.trans h'
    · exact fun _ op inv => inv.step op
    · exact fun _ op inv => (checkoutStep_effect inv op).ordersLater
    · exact h
  · apply run_rel (I := CheckoutInv) (R := fun s s' => ∀ p payment,
      s.db.payments.get? p = some payment → payment.isStripeSuccess →
        ∃ payment', s'.db.payments.get? p = some payment' ∧
          payment'.provider = payment.provider ∧ SameSettlement payment payment')
    · exact fun s p payment hp _ => ⟨payment, hp, rfl, SameSettlement.refl payment⟩
    · intro s₁ s₂ s₃ before after p payment hp success
      obtain ⟨payment', hp', provider, status, paidAt, reference⟩ := before p payment hp success
      obtain ⟨payment'', hp'', provider', status', paidAt', reference'⟩ :=
        after p payment' hp' ⟨provider.trans success.1, status.trans success.2⟩
      exact ⟨payment'', hp'', provider'.trans provider, status'.trans status,
        paidAt'.trans paidAt, reference'.trans reference⟩
    · exact fun _ op inv => inv.step op
    · intro s op inv p payment hp success
      obtain ⟨payment', hp', -, provider, frozen⟩ := (checkoutStep_effect inv op).payment_kept hp
      exact ⟨payment', hp', provider, frozen success⟩
    · exact h

/-- An order is confirmed at most once. -/
theorem CheckoutInv.confirms_once (h : CheckoutInv s) (o : Nat) (ops : List CheckoutOp) :
    (transitions (checkoutStep digest number) s ops).countP (fun t =>
      decide (Confirms o t.1.db (checkoutStep digest number t.1 t.2).db)) ≤ 1 := by
  apply transitions_once (I := CheckoutInv)
    (N := fun s => ∃ order, s.db.orders.get? o = some order ∧ order.status ≠ .pending)
  · exact fun _ op inv => inv.step op
  · rintro s op inv ⟨order, horder, left⟩
    obtain ⟨order', horder', left', -⟩ := (checkoutStep_effect inv op).ordersLater o order horder
    exact ⟨order', horder', left' left⟩
  · rintro s op ⟨order, horder, left⟩
    simp [Confirms, orderStatus, horder, left]
  · intro s op inv confirms
    obtain ⟨order', horder', confirmed⟩ := Option.map_eq_some_iff.mp (of_decide_eq_true confirms).2
    exact ⟨order', horder', by simp [confirmed]⟩
  · exact h

/-- Stripe payments converge, whatever the interleaving of initiations, events,
recoveries, confirmations, cancellations and expiries: (a) a success keeps its
status, time and reference; (b) its order is not pending; (c) an order is
confirmed at most once, only by evidence about it, and sells each of its items
at most once; (d) an expired or cancelled order stays so, and evidence about it
moves no goods. -/
theorem stripe_convergence (fresh : FreshCheckout s) (xs ys : List CheckoutOp) :
    let reached := run (checkoutStep digest number) s
    (∀ p payment, (reached xs).db.payments.get? p = some payment → payment.isStripeSuccess →
      ∃ payment', (reached (xs ++ ys)).db.payments.get? p = some payment' ∧
        SameSettlement payment payment') ∧
    (∀ p payment, (reached xs).db.payments.get? p = some payment → payment.isStripeSuccess →
      ∃ order, (reached xs).db.orders.get? payment.orderId = some order ∧
        order.status ≠ .pending) ∧
    ((∀ o, (transitions (checkoutStep digest number) s xs).countP (fun t =>
        decide (Confirms o t.1.db (checkoutStep digest number t.1 t.2).db)) ≤ 1) ∧
      (∀ t ∈ transitions (checkoutStep digest number) s xs, t.2.confirming = true →
        SameGoods t.1.db (checkoutStep digest number t.1 t.2).db ∨
          ∃ o, t.2.evidenceFor number t.1 = some o ∧
            Converted o t.1.db (checkoutStep digest number t.1 t.2).db) ∧
      ∀ j item, (reached xs).db.orderItems.get? j = some item →
        (websiteSales (reached xs).db item).length ≤ 1) ∧
    ∀ o order, (reached xs).db.orders.get? o = some order →
      order.status = .expired ∨ order.status = .cancelled →
      (∃ order', (reached (xs ++ ys)).db.orders.get? o = some order' ∧
        order'.status = order.status) ∧
      ∀ t ∈ transitions (checkoutStep digest number) (reached xs) ys, t.2.confirming = true →
        t.2.evidenceFor number t.1 = some o →
        SameGoods t.1.db (checkoutStep digest number t.1 t.2).db := by
  intro reached
  have inv : CheckoutInv (reached xs) :=
    run_invariant (I := CheckoutInv) (fun _ op inv => inv.step op) fresh.inv xs
  have after : reached (xs ++ ys) = run (checkoutStep digest number) (reached xs) ys :=
    run_append xs ys
  obtain ⟨later, settled⟩ := inv.run_later digest number ys
  refine ⟨fun p payment hp success => ?_, inv.paid, ⟨fun o => ?_, fun t _ => ?_, ?_⟩, ?_⟩
  · obtain ⟨payment', hp', -, same⟩ := settled p payment hp success
    exact ⟨payment', by rw [after, hp'], same⟩
  · exact fresh.inv.confirms_once digest number o xs
  · exact checkoutStep_goods t.1 t.2
  · exact fun j item hitem => inv.shop.websiteSales_le_one hitem
  · intro o order horder closed
    constructor
    · obtain ⟨order', horder', -, stays⟩ := later o order horder
      exact ⟨order', by rw [after, horder'], stays closed⟩
    · intro t ht confirming about
      -- The order is still closed where the evidence arrives, so it cannot be converted.
      have still : ∃ order', t.1.db.orders.get? o = some order' ∧ order'.status ≠ .pending := by
        apply transitions_invariant (I := fun s => CheckoutInv s ∧
          ∃ order', s.db.orders.get? o = some order' ∧ order'.status ≠ .pending) _ _ ys t ht |>.2
        · rintro s op ⟨inv, order', horder', left⟩
          obtain ⟨order'', horder'', left', -⟩ :=
            (checkoutStep_effect inv op).ordersLater o order' horder'
          exact ⟨inv.step op, order'', horder'', left' left⟩
        · refine ⟨inv, order, horder, ?_⟩
          rcases closed with closed | closed <;> simp [closed]
      rcases checkoutStep_goods t.1 t.2 confirming with same | ⟨o', about', converted⟩
      · exact same
      · obtain rfl := Option.some.inj (about.symm.trans about')
        obtain ⟨order', -, -, found, pending, -⟩ := converted
        obtain ⟨order'', horder'', left⟩ := still
        obtain rfl := Option.some.inj (found.symm.trans horder'')
        exact absurd pending left

end Runs

/-- Stripe reports the sample order's payment. -/
def stripePaid (id : String) : StripePaymentIntentEvent where
  type := .succeeded
  paymentIntentId := .intent "1"
  amount := 1000
  currency := "gbp"
  metadataOrderId := none
  id := id

/-- The sample order is paid through Stripe at 2. -/
def paidByStripe : List CheckoutOp :=
  [.shop sampleCreate, .startStripe 1 1 1, .finishStripe 1 (some (.intent "1")),
    .stripeEvent (stripePaid "evt_1") 2]

/-- A second event and a recovery find it paid at 2. -/
theorem stripe_convergence_sample : ∃ payment,
    (run (checkoutStep (fun _ => "") fun _ => none) sampleCheckout
        (paidByStripe ++ [.stripeEvent (stripePaid "evt_2") 3, .startRecovery 1 1])).db.payments.get?
      1 = some payment ∧ payment.status = .succeeded ∧ payment.paidAt = some 2 := by
  have converged := stripe_convergence (fun _ => "") (fun _ => none) sampleCheckout_fresh
    paidByStripe [.stripeEvent (stripePaid "evt_2") 3, .startRecovery 1 1]
  obtain ⟨payment, hp, status, paidAt, -⟩ := converged.1 1 _ rfl ⟨rfl, rfl⟩
  exact ⟨payment, hp, status, paidAt⟩

end ColorfulLife
