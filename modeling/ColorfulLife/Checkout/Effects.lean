/-
What one checkout action can do, and the invariant of checkout runs.

Every action changes the shop's tables by at most one `ShopEffect`, writes at
most one payment row (`PaymentWrite`) and adds receipts (`CheckoutEffect`). A
Stripe payment that has succeeded is written by none of them, and a payment
becomes a Stripe success only together with an order that has left PENDING.
-/

import ColorfulLife.Checkout.Machine

namespace ColorfulLife

open Relational

/-! ### Orders only move on -/

/-- No order disappears or becomes pending again, and an expired or cancelled
one keeps its status. -/
def OrdersLater (db db' : Db) : Prop :=
  ∀ o order, db.orders.get? o = some order → ∃ order', db'.orders.get? o = some order' ∧
    (order.status ≠ .pending → order'.status ≠ .pending) ∧
    (order.status = .expired ∨ order.status = .cancelled → order'.status = order.status)

namespace OrdersLater

variable {db db' db'' : Db}

theorem refl (db : Db) : OrdersLater db db := fun _ order horder => ⟨order, horder, id, fun _ => rfl⟩

theorem trans (h : OrdersLater db db') (h' : OrdersLater db' db'') : OrdersLater db db'' := by
  intro o order horder
  obtain ⟨order', horder', left, closed⟩ := h o order horder
  obtain ⟨order'', horder'', left', closed'⟩ := h' o order' horder'
  refine ⟨order'', horder'', left' ∘ left, fun hclosed => ?_⟩
  have same := closed hclosed
  rw [← same] at hclosed
  exact (closed' hclosed).trans same

/-- An update of one open order that leaves PENDING behind. -/
theorem update {o : Nat} {order : Order} {f : Order → Order}
    (horder : db.orders.get? o = some order) (open_ : order.status ≠ .expired ∧
      order.status ≠ .cancelled) (left : (f order).status ≠ .pending)
    (orders : db'.orders = db.orders.update o f) : OrdersLater db db' := by
  intro o' order' horder'
  rw [orders, Table.get?_update, horder']
  split
  · subst_vars
    obtain rfl := Option.some.inj (horder.symm.trans horder')
    refine ⟨_, rfl, fun _ => left, fun closed => ?_⟩
    rcases closed with closed | closed
    · exact absurd closed open_.1
    · exact absurd closed open_.2
  · exact ⟨order', rfl, id, fun _ => rfl⟩

end OrdersLater

theorem ShopEffect.ordersLater {db db' : Db} {event : ShopEvent}
    (happened : ShopEffect db event db') : OrdersLater db db' := by
  cases happened with
  | stock corrected notes => exact OrdersLater.refl db
  | @place listings order rows _ _ _ placed reserved =>
      intro o order' horder'
      exact ⟨order', Table.get?_insert_of_some horder', id, fun _ => rfl⟩
  | confirm found pending converted =>
      exact OrdersLater.update found (by simp [pending]) (by simp [Order.confirm]) rfl
  | release found pending closed deadline released =>
      refine OrdersLater.update found (by simp [pending]) ?_ rfl
      rcases closed with closed | ⟨closed, -⟩ <;> simp [closed]
  | cancelSale found confirmed restocked =>
      exact OrdersLater.update found (by simp [confirmed]) (by simp [Order.cancel]) rfl
  | forward found moves deadline cancelledAt =>
      refine OrdersLater.update found ?_ ?_ rfl <;>
        rcases moves with ⟨before, after⟩ | ⟨before, after⟩ <;> simp [before, after]
  | request found owner positive room => exact OrdersLater.refl db
  | advance found moves restock quantity itemId => exact OrdersLater.refl db
  | cancelReturn found requested room => exact OrdersLater.refl db
  | completeReturn found inspected listing new reserved room => exact OrdersLater.refl db

theorem ShopEffect.payments {db db' : Db} {event : ShopEvent} (happened : ShopEffect db event db') :
    db'.payments = db.payments := by
  cases happened <;> rfl

/-! ### Payment rows -/

/-- The columns of a payment that are final once it has succeeded. -/
def SameSettlement (payment payment' : Payment) : Prop :=
  payment'.status = payment.status ∧ payment'.paidAt = payment.paidAt ∧
    payment'.providerReference = payment.providerReference

theorem SameSettlement.refl (payment : Payment) : SameSettlement payment payment :=
  ⟨rfl, rfl, rfl⟩

/-- The payment is a success recorded for Stripe. -/
def Payment.isStripeSuccess (payment : Payment) : Prop :=
  payment.provider = .stripe ∧ payment.status = .succeeded

/-- At most one row is written, and no Stripe success. -/
inductive PaymentWrite (payments : Table Payment) : Table Payment → Prop
  | same : PaymentWrite payments payments
  | insert {payment : Payment}
      (free : payments.clashes Payment.clash payments.nextId payment = false) :
      PaymentWrite payments (payments.insert payment)
  | update {k : Nat} {payment : Payment} {f : Payment → Payment}
      (found : payments.get? k = some payment)
      (free : payments.clashes Payment.clash k (f payment) = false)
      (owner : (f payment).orderId = payment.orderId)
      (provider : (f payment).provider = payment.provider)
      (frozen : payment.isStripeSuccess → SameSettlement payment (f payment)) :
      PaymentWrite payments (payments.update k f)

namespace PaymentWrite

variable {payments payments' : Table Payment}

theorem unique (write : PaymentWrite payments payments') (h : payments.Unique Payment.clash) :
    payments'.Unique Payment.clash := by
  cases write with
  | same => exact h
  | insert free => exact h.insert Payment.clash_comm free
  | update found free => exact h.update Payment.clash_comm found free

/-- Rows stay, with their order and provider, and a Stripe success as it is. -/
theorem kept (write : PaymentWrite payments payments') {p : Nat} {payment : Payment}
    (hp : payments.get? p = some payment) :
    ∃ payment', payments'.get? p = some payment' ∧ payment'.orderId = payment.orderId ∧
      payment'.provider = payment.provider ∧
      (payment.isStripeSuccess → SameSettlement payment payment') := by
  cases write with
  | same => exact ⟨payment, hp, rfl, rfl, fun _ => SameSettlement.refl payment⟩
  | insert free =>
      exact ⟨payment, Table.get?_insert_of_some hp, rfl, rfl, fun _ => SameSettlement.refl payment⟩
  | update found free owner provider frozen =>
      rw [Table.get?_update, hp]
      split
      · subst_vars
        obtain rfl := Option.some.inj (found.symm.trans hp)
        exact ⟨_, rfl, owner, provider, frozen⟩
      · exact ⟨payment, rfl, rfl, rfl, fun _ => SameSettlement.refl payment⟩

end PaymentWrite

/-- Rows stay, with their order and provider. -/
def PaymentsKept (payments payments' : Table Payment) : Prop :=
  ∀ p payment, payments.get? p = some payment → ∃ payment', payments'.get? p = some payment' ∧
    payment'.orderId = payment.orderId ∧ payment'.provider = payment.provider

/-- The payment row is the provider's, for the order. -/
def PaymentOf (provider : PaymentProvider) (payments : Table Payment) (p o : Nat) : Prop :=
  ∃ payment, payments.get? p = some payment ∧ payment.provider = provider ∧ payment.orderId = o

theorem PaymentOf.kept {provider : PaymentProvider} {payments payments' : Table Payment} {p o : Nat}
    (h : PaymentOf provider payments p o) (kept : PaymentsKept payments payments') :
    PaymentOf provider payments' p o := by
  obtain ⟨payment, hp, hprovider, owner⟩ := h
  obtain ⟨payment', hp', owner', provider'⟩ := kept p payment hp
  exact ⟨payment', hp', provider'.trans hprovider, owner'.trans owner⟩

/-- What an event is about to write concerns a PayPal payment, and a mark is never
SUCCEEDED. -/
def PayPalDecision.About (payments : Table Payment) : PayPalDecision → Prop
  | .receipt _ _ => True
  | .succeed paymentId read _ _ => PaymentOf .paypal payments paymentId read.orderId
  | .mark paymentId status => status ≠ .succeeded ∧ ∃ o, PaymentOf .paypal payments paymentId o

theorem PayPalDecision.About.kept {decision : PayPalDecision} {payments payments' : Table Payment}
    (h : decision.About payments) (kept : PaymentsKept payments payments') :
    decision.About payments' := by
  cases decision with
  | receipt error handled => trivial
  | succeed paymentId read order captureId => exact PaymentOf.kept h kept
  | mark paymentId status =>
      obtain ⟨open_, o, of⟩ := h
      exact ⟨open_, o, of.kept kept⟩

theorem decidePayPalEvent_about (event : PayPalWebhookEvent) (db : Db) :
    (decidePayPalEvent event db).About db.payments := by
  rcases decidePayPalEvent_reads event db with ⟨error, handled, hdecide⟩ |
    ⟨paymentId, payment, order, hp, provider, -, ⟨captureId, hdecide⟩ |
      ⟨-, status, open_, hdecide⟩⟩
  · rw [hdecide]
    trivial
  · rw [hdecide]
    exact ⟨payment, hp, provider, rfl⟩
  · rw [hdecide]
    exact ⟨open_, payment.orderId, payment, hp, provider, rfl⟩

/-! ### Effects -/

/-- A new Stripe success is of an order that has left PENDING. -/
def SuccessesOrdered (db : Db) (payments : Table Payment) (orders : Table Order) : Prop :=
  ∀ p payment', payments.get? p = some payment' → payment'.isStripeSuccess →
    (∃ payment, db.payments.get? p = some payment ∧ payment.isStripeSuccess ∧
      payment.orderId = payment'.orderId) ∨
    ∃ order, orders.get? payment'.orderId = some order ∧ order.status ≠ .pending

/-- One action on the database. -/
inductive CheckoutEffect (db : Db) : Db → Prop
  | intro {core : Db} {payments : Table Payment} {events : Table PaymentWebhookEvent}
      (shop : core = db ∨ ∃ event, ShopEffect db event core)
      (write : PaymentWrite db.payments payments)
      (paid : SuccessesOrdered db payments core.orders) :
      CheckoutEffect db { core with payments := payments, webhookEvents := events }

section SuccessesOrdered

variable {db : Db} {orders : Table Order}

theorem SuccessesOrdered.same : SuccessesOrdered db db.payments orders :=
  fun _ payment hp success => Or.inl ⟨payment, hp, success, rfl⟩

theorem SuccessesOrdered.insert {payment : Payment} (unpaid : ¬ payment.isStripeSuccess) :
    SuccessesOrdered db (db.payments.insert payment) orders := by
  intro p payment' hp success
  rw [Table.get?_insert] at hp
  split at hp
  · exact absurd (Option.some.inj hp ▸ success) unpaid
  · exact Or.inl ⟨payment', hp, success, rfl⟩

theorem SuccessesOrdered.update {k : Nat} {payment : Payment} {f : Payment → Payment}
    (found : db.payments.get? k = some payment)
    (row : (f payment).isStripeSuccess →
      (payment.isStripeSuccess ∧ payment.orderId = (f payment).orderId) ∨
        ∃ order, orders.get? (f payment).orderId = some order ∧ order.status ≠ .pending) :
    SuccessesOrdered db (db.payments.update k f) orders := by
  intro p payment' hp success
  rcases Table.update_cases found hp with ⟨rfl, rfl⟩ | ⟨-, hp⟩
  · rcases row success with ⟨before, owner⟩ | left
    · exact Or.inl ⟨payment, found, before, owner⟩
    · exact Or.inr left
  · exact Or.inl ⟨payment', hp, success, rfl⟩

end SuccessesOrdered

namespace CheckoutEffect

variable {db db' : Db}

theorem refl (db : Db) : CheckoutEffect db db :=
  @intro db db db.payments db.webhookEvents (Or.inl rfl) .same .same

/-- Receipts only. -/
theorem receipts (db : Db) (events : Table PaymentWebhookEvent) :
    CheckoutEffect db { db with webhookEvents := events } :=
  @intro db db db.payments events (Or.inl rfl) .same .same

theorem ofShop {event : ShopEvent} (happened : ShopEffect db event db') :
    CheckoutEffect db db' := by
  have same : { db' with payments := db.payments, webhookEvents := db'.webhookEvents } = db' := by
    rw [← happened.payments]
  rw [← same]
  exact .intro (Or.inr ⟨event, happened⟩) .same .same

theorem insert {payment : Payment}
    (free : db.payments.clashes Payment.clash db.payments.nextId payment = false)
    (unpaid : ¬ payment.isStripeSuccess) :
    CheckoutEffect db { db with payments := db.payments.insert payment } :=
  @intro db db _ db.webhookEvents (Or.inl rfl) (.insert free) (.insert unpaid)

/-- A write to a payment that is not Stripe's, or that is and stays open. -/
theorem update {k : Nat} {payment : Payment} {f : Payment → Payment}
    (events : Table PaymentWebhookEvent) (found : db.payments.get? k = some payment)
    (free : db.payments.clashes Payment.clash k (f payment) = false)
    (owner : (f payment).orderId = payment.orderId)
    (provider : (f payment).provider = payment.provider)
    (frozen : payment.isStripeSuccess → SameSettlement payment (f payment))
    (unpaid : (f payment).isStripeSuccess → payment.isStripeSuccess) :
    CheckoutEffect db { db with
      payments := db.payments.update k f
      webhookEvents := events } :=
  .intro (Or.inl rfl) (.update found free owner provider frozen)
    (.update found fun success => Or.inl ⟨unpaid success, owner.symm⟩)

/-- A write to a PayPal row, which is never a success of Stripe's. -/
theorem paypalRow {k : Nat} {payment : Payment} {f : Payment → Payment}
    (events : Table PaymentWebhookEvent) (paypal : payment.provider = .paypal)
    (found : db.payments.get? k = some payment)
    (free : db.payments.clashes Payment.clash k (f payment) = false)
    (owner : (f payment).orderId = payment.orderId)
    (provider : (f payment).provider = payment.provider) :
    CheckoutEffect db { db with
      payments := db.payments.update k f
      webhookEvents := events } :=
  .update events found free owner provider
    (fun success => by simp [Payment.isStripeSuccess, paypal] at success)
    (fun success => by simp [Payment.isStripeSuccess, provider, paypal] at success)

theorem ordersLater (happened : CheckoutEffect db db') : OrdersLater db db' := by
  cases happened with
  | intro shop write paid =>
      rcases shop with rfl | ⟨event, happened⟩
      · exact OrdersLater.refl _
      · exact happened.ordersLater

theorem payment_kept (happened : CheckoutEffect db db') {p : Nat} {payment : Payment}
    (hp : db.payments.get? p = some payment) :
    ∃ payment', db'.payments.get? p = some payment' ∧ payment'.orderId = payment.orderId ∧
      payment'.provider = payment.provider ∧
      (payment.isStripeSuccess → SameSettlement payment payment') := by
  cases happened with
  | intro shop write paid => exact write.kept hp

/-- Evidence about a Stripe payment. -/
theorem ofEvidence {rewrites : Bool} {receiptId : String} {paymentId : Nat}
    (evidence : StripeEvidence rewrites receiptId paymentId db db') : CheckoutEffect db db' := by
  cases evidence with
  | @intro payment order outcome now applied events paid ordered provider applies receipt =>
      obtain ⟨-, payments, hrecord, hrest⟩ := applyStripePaymentOutcome_ok applies
      -- The row is written unless it has succeeded, and its order and provider stay.
      have write : PaymentWrite db.payments payments := by
        rcases recordStripeOutcome_ok hrecord with ⟨-, rfl⟩ | ⟨unpaid, row, hrow, free, rfl⟩
        · exact .same
        · obtain rfl := Option.some.inj (paid.symm.trans hrow)
          exact .update hrow free (payment.stripeOutcome_orderId outcome now)
            (payment.stripeOutcome_provider outcome now) fun success => absurd success.2 unpaid
      have successes : ∀ orders : Table Order,
          (outcome.type = .succeeded → ∃ order, orders.get? payment.orderId = some order ∧
            order.status ≠ .pending) → SuccessesOrdered db payments orders := by
        intro orders left
        rcases recordStripeOutcome_ok hrecord with ⟨-, rfl⟩ | ⟨unpaid, row, hrow, free, rfl⟩
        · exact .same
        · obtain rfl := Option.some.inj (paid.symm.trans hrow)
          refine .update hrow fun success => Or.inr ?_
          rw [Payment.stripeOutcome_orderId]
          exact left (payment.stripeOutcome_succeeded outcome now success.2)
      rcases hrest with ⟨success, pending, hconfirm⟩ | ⟨notDue, rfl⟩
      · obtain ⟨order', stock, horder', pending', hloop, rfl⟩ :=
          confirmOrderInTransaction_eq_ok.mp hconfirm
        have confirmed : ShopEffect db .other (queueCartReconciliation payment.orderId true
            ((db.withStock stock).updateOrder payment.orderId Order.confirm)) :=
          .confirm horder' pending' hloop
        have left : ∃ order, (db.orders.update payment.orderId Order.confirm).get?
            payment.orderId = some order ∧ order.status ≠ .pending := by
          have found : db.orders.get? payment.orderId = some order' := horder'
          exact ⟨order'.confirm, by simp [found], by simp [Order.confirm]⟩
        have effect := @intro db _ payments events (Or.inr ⟨_, confirmed⟩) write
          (successes _ fun _ => left)
        exact effect
      · refine @intro db db payments events (Or.inl rfl) write
          (successes _ fun success => ⟨order, ordered, ?_⟩)
        exact fun pending => notDue ⟨success, pending⟩

/-- A PayPal event writes its receipt and at most one PayPal payment. -/
theorem ofPayPalEvent {event : PayPalWebhookEvent} {decision : PayPalDecision} {now : Time}
    {result : WebhookResult} (about : decision.About db.payments)
    (tx : writePayPalEvent event decision now db = .ok (db', result)) : CheckoutEffect db db' := by
  obtain ⟨-, written⟩ := writePayPalEvent_isOk.mp ⟨result, tx⟩
  cases decision with
  | receipt error handled =>
      obtain rfl : db' = _ := written
      exact .receipts db _
  | succeed paymentId read order captureId =>
      obtain ⟨row, hrow, free, rfl⟩ := written
      obtain ⟨payment, hp, provider, -⟩ := about
      obtain rfl := Option.some.inj (hp.symm.trans hrow)
      exact .paypalRow _ provider hp free rfl rfl
  | mark paymentId status =>
      obtain ⟨row, hrow, free, rfl⟩ := written
      obtain ⟨-, -, payment, hp, provider, -⟩ := about
      obtain rfl := Option.some.inj (hp.symm.trans hrow)
      exact .paypalRow _ provider hp free rfl rfl

end CheckoutEffect

/-! ### The invariant -/

structure CheckoutInv (s : CheckoutState) : Prop where
  shop : ShopInv s.db
  unique : s.db.payments.Unique Payment.clash
  paid : ∀ p payment, s.db.payments.get? p = some payment → payment.isStripeSuccess →
    ∃ order, s.db.orders.get? payment.orderId = some order ∧ order.status ≠ .pending
  paypalCalls : ∀ c call, s.paypalCalls.get? c = some call →
    PaymentOf .paypal s.db.payments call.paymentId call.orderId
  captures : ∀ c call, s.captures.get? c = some call →
    PaymentOf .paypal s.db.payments call.paymentId call.orderId
  captureWrites : ∀ c pending, s.captureWrites.get? c = some pending →
    PaymentOf .paypal s.db.payments pending.call.paymentId pending.call.orderId
  eventWrites : ∀ c pending, s.eventWrites.get? c = some pending →
    pending.decision.About s.db.payments

/-- The shop's invariants do not look at payments and receipts. -/
theorem ShopInv.withPayments {db : Db} (h : ShopInv db) (payments : Table Payment)
    (events : Table PaymentWebhookEvent) :
    ShopInv { db with payments := payments, webhookEvents := events } where
  stock := { h.stock with }
  returns := { h.returns with sound := fun r ret hret => { h.returns.sound r ret hret with } }
  sales := { h.sales with }

theorem FreshCheckout.inv {s : CheckoutState} (h : FreshCheckout s) : CheckoutInv s where
  shop := h.shop.shopInv
  unique := fun j k r r' hr => by simp [h.payments j] at hr
  paid := fun p payment hp => by simp [h.payments p] at hp
  paypalCalls := fun c call hc => by simp [h.paypalCalls c] at hc
  captures := fun c call hc => by simp [h.captures c] at hc
  captureWrites := fun c pending hc => by simp [h.captureWrites c] at hc
  eventWrites := fun c pending hc => by simp [h.eventWrites c] at hc

/-- The rows of a table of calls are old ones, or have the property. -/
def CallsFrom {α : Type} (calls calls' : Table α) (P : α → Prop) : Prop :=
  ∀ c call, calls'.get? c = some call → (∃ c, calls.get? c = some call) ∨ P call

namespace CallsFrom

variable {α : Type} {calls : Table α} {P : α → Prop}

theorem refl : CallsFrom calls calls P := fun c _ hc => Or.inl ⟨c, hc⟩

theorem erase (k : Nat) : CallsFrom calls (calls.erase k) P := by
  intro c call hc
  rw [Table.get?_erase] at hc
  split at hc
  · cases hc
  · exact Or.inl ⟨c, hc⟩

theorem insert {call : α} (new : P call) : CallsFrom calls (calls.insert call) P := by
  intro c call' hc
  rcases Table.insert_cases hc with ⟨-, rfl⟩ | old
  · exact Or.inr new
  · exact Or.inl ⟨c, old⟩

/-- A property of all rows that one step preserves. -/
theorem all {calls' : Table α} {Q : α → Prop} (h : CallsFrom calls calls' P)
    (old : ∀ c call, calls.get? c = some call → Q call) (kept : ∀ call, Q call → P call) :
    ∀ c call, calls'.get? c = some call → P call := by
  intro c call hc
  rcases h c call hc with ⟨c', hold⟩ | new
  · exact kept call (old c' call hold)
  · exact new

end CallsFrom

section Step

variable {s s' : CheckoutState} {digest : CanonicalRequest → String}
  {number : String → Option Nat}

/-- The PayPal calls after a step are old ones, or about a PayPal payment of their
order. -/
structure PayPalCallsFrom (s s' : CheckoutState) : Prop where
  paypalCalls : CallsFrom s.paypalCalls s'.paypalCalls fun call =>
    PaymentOf .paypal s'.db.payments call.paymentId call.orderId
  captures : CallsFrom s.captures s'.captures fun call =>
    PaymentOf .paypal s'.db.payments call.paymentId call.orderId
  captureWrites : CallsFrom s.captureWrites s'.captureWrites fun pending =>
    PaymentOf .paypal s'.db.payments pending.call.paymentId pending.call.orderId
  eventWrites : CallsFrom s.eventWrites s'.eventWrites fun pending =>
    pending.decision.About s'.db.payments

/-- The invariant across an effect. -/
theorem CheckoutInv.effect (h : CheckoutInv s) (happened : CheckoutEffect s.db s'.db)
    (calls : PayPalCallsFrom s s') : CheckoutInv s' := by
  have later := happened.ordersLater
  have kept : PaymentsKept s.db.payments s'.db.payments := by
    intro p payment hp
    obtain ⟨payment', hp', owner, provider, -⟩ := happened.payment_kept hp
    exact ⟨payment', hp', owner, provider⟩
  have ofKept : ∀ {p o : Nat}, PaymentOf .paypal s.db.payments p o →
      PaymentOf .paypal s'.db.payments p o := fun of => of.kept kept
  have paypalCalls := calls.paypalCalls.all h.paypalCalls fun _ of => ofKept of
  have captures := calls.captures.all h.captures fun _ of => ofKept of
  have captureWrites := calls.captureWrites.all h.captureWrites fun _ of => ofKept of
  have eventWrites := calls.eventWrites.all h.eventWrites fun _ about => about.kept kept
  generalize hdb : s'.db = db' at happened
  cases happened with
  | @intro core payments events shop write paid =>
      have core_inv : ShopInv core := by
        rcases shop with rfl | ⟨event, happened⟩
        · exact h.shop
        · exact h.shop.effect happened
      have hpayments : s'.db.payments = payments := by rw [hdb]
      refine ⟨?_, ?_, ?_, paypalCalls, captures, captureWrites, eventWrites⟩
      · rw [hdb]
        exact core_inv.withPayments payments events
      · rw [hpayments]
        exact write.unique h.unique
      · intro p payment' hp success
        rw [hpayments] at hp
        rcases paid p payment' hp success with ⟨payment, hold, before, owner⟩ | left
        · obtain ⟨order, horder, left⟩ := h.paid p payment hold before
          obtain ⟨order', horder', left', -⟩ := later payment.orderId order horder
          exact ⟨order', owner ▸ horder', left' left⟩
        · rw [hdb]
          exact left

theorem commitFst_effect {α : Type} {db : Db} {tx : Result (Db × α)}
    (body : ∀ db' a, tx = .ok (db', a) → CheckoutEffect db db') :
    CheckoutEffect db (commitFst tx db) := by
  cases h : tx with
  | error e => exact .refl db
  | ok result => exact body result.1 result.2 h

theorem commit_effect {db : Db} {tx : Result Db}
    (body : ∀ db', tx = .ok db' → CheckoutEffect db db') : CheckoutEffect db (commit tx db) := by
  cases h : tx with
  | error e => exact .refl db
  | ok db' => exact body db' h

/-- The preparing transaction of a PayPal initiation. -/
theorem preparePayPalOrder_effect {orderId userId : Nat} {now : Time} {db db' : Db}
    {call : PayPalOrderCall} (tx : preparePayPalOrder orderId userId now db = .ok (db', call)) :
    CheckoutEffect db db' ∧ PaymentOf .paypal db'.payments call.paymentId call.orderId := by
  obtain ⟨rfl, ⟨rfl, hfind, provider⟩ | ⟨amount, free, hid, rfl⟩⟩ := preparePayPalOrder_ok tx
  · obtain ⟨hp, owner⟩ := findByOrder_eq_some hfind
    exact ⟨.refl _, _, hp, provider, owner⟩
  · refine ⟨.insert free (by simp [Payment.isStripeSuccess, newPayPalPayment]),
      newPayPalPayment call.orderId amount, ?_, rfl, rfl⟩
    rw [hid]
    exact Table.get?_insert_self ..

/-- The preparing transaction of a capture. -/
theorem preparePayPalCapture_effect {orderId userId : Nat} {now : Time} {db db' : Db}
    {call : PayPalCaptureCall}
    (tx : preparePayPalCapture orderId userId now db = .ok (db', call)) :
    CheckoutEffect db db' ∧ PaymentOf .paypal db'.payments call.paymentId call.orderId := by
  obtain ⟨rfl, payment, hp, provider, owner, rfl | ⟨free, rfl⟩⟩ := preparePayPalCapture_ok tx
  · exact ⟨.refl _, payment, hp, provider, owner⟩
  · exact ⟨.paypalRow db.webhookEvents provider hp free rfl rfl,
      payment.keyCapture call.requestId, by simp [hp], provider, owner⟩

/-- Every action has an effect. -/
theorem checkoutStep_effect (h : CheckoutInv s) (op : CheckoutOp) :
    CheckoutEffect s.db (checkoutStep digest number s op).db := by
  cases op with
  | shop op =>
      rcases shopStep_effect digest s.db op with same | ⟨event, -, happened⟩
      · exact same.symm ▸ .refl s.db
      · exact .ofShop happened
  | createPayment orderId reference now =>
      refine commitFst_effect fun db' id tx => ?_
      rcases createPayment_ok tx with rfl | tx
      · exact .refl _
      · rcases createPaymentTransaction_ok tx with rfl | ⟨order, -, -, -, free, rfl⟩
        · exact .refl _
        · exact .insert free (by simp [Payment.isStripeSuccess, manualPayment])
  | startStripe orderId userId now =>
      simp only [checkoutStep]
      split
      · exact .refl _
      · rename_i db' call tx
        obtain ⟨order, -, -, -, -, ⟨rfl, -⟩ | ⟨-, free, rfl⟩⟩ := prepareStripeIntent_ok tx
        · exact .refl _
        · exact .insert free (by simp [Payment.isStripeSuccess, newStripePayment])
  | finishStripe callId intentId =>
      simp only [checkoutStep]
      split
      · exact .refl _
      · refine commit_effect fun db' tx => ?_
        rcases finishStripeIntent_ok tx with rfl | ⟨reference, payment, hp, unpaid, free, rfl⟩
        · exact .refl _
        · exact .update s.db.webhookEvents hp free rfl rfl
            (fun success => absurd success.2 unpaid)
            (by simp [Payment.isStripeSuccess, Payment.initiate])
  | stripeEvent event now =>
      refine commitFst_effect fun db' result tx => ?_
      rcases reconcileStripePaymentEvent_ok tx with ⟨events, rfl⟩ | ⟨e, -, evidence⟩
      · exact .receipts s.db events
      · exact .ofEvidence evidence
  | startRecovery orderId userId =>
      simp only [checkoutStep]
      split <;> exact .refl _
  | finishRecovery callId intent now =>
      simp only [checkoutStep]
      split
      · exact .refl _
      · refine commit_effect fun db' tx => ?_
        rcases finishRecovery_ok tx with rfl | ⟨i, -, evidence⟩
        · exact .refl _
        · exact .ofEvidence evidence
  | startPayPal orderId userId now =>
      simp only [checkoutStep]
      split
      · exact .refl _
      · rename_i db' call tx
        obtain ⟨happened, -⟩ := preparePayPalOrder_effect tx
        split <;> exact happened
  | finishPayPal callId createdId =>
      simp only [checkoutStep]
      split
      · exact .refl _
      · rename_i call hcall
        refine commit_effect fun db' tx => ?_
        obtain ⟨reference, payment, -, hp, free, rfl⟩ := finishPayPalOrder_eq_ok.mp tx
        obtain ⟨payment', hp', provider, -⟩ := h.paypalCalls callId call hcall
        obtain rfl := Option.some.inj (hp.symm.trans hp')
        exact .paypalRow s.db.webhookEvents provider hp free rfl rfl
  | startCapture orderId userId now =>
      simp only [checkoutStep]
      split
      · exact .refl _
      · rename_i db' call tx
        exact (preparePayPalCapture_effect tx).1
  | readCapture callId response =>
      simp only [checkoutStep]
      split
      · exact .refl _
      · split <;> exact .refl _
  | writeCapture pendingId now =>
      simp only [checkoutStep]
      split
      · exact .refl _
      · rename_i pending hpending
        refine commit_effect fun db' tx => ?_
        obtain ⟨order, row, events, -, hrow, free, -, rfl⟩ := AcceptedCapture.write_eq_ok.mp tx
        obtain ⟨payment', hp', provider, -⟩ := h.captureWrites pendingId pending hpending
        obtain rfl := Option.some.inj (hrow.symm.trans hp')
        exact .paypalRow events provider hrow free rfl rfl
  | readPayPalEvent event =>
      simp only [checkoutStep]
      split
      · exact .refl _
      · split <;> exact .refl _
  | writePayPalEvent pendingId now =>
      simp only [checkoutStep]
      split
      · exact .refl _
      · rename_i pending hpending
        exact commitFst_effect fun db' result tx =>
          .ofPayPalEvent (h.eventWrites pendingId pending hpending) tx

/-- What a capture reads is about its call's payment. -/
theorem readAcceptedCapture_call {call : PayPalCaptureCall} {response : Option PayPalCaptureResponse}
    {db : Db} {pending : AcceptedCapture}
    (read : readAcceptedCapture call response db = some pending) : pending.call = call := by
  simp only [readAcceptedCapture, bind, Option.bind_eq_some_iff] at read
  obtain ⟨captureId, -, payment, -, read⟩ := read
  split at read
  · cases read
  · obtain rfl := Option.some.inj read
    rfl

theorem CheckoutInv.step (h : CheckoutInv s) (op : CheckoutOp) :
    CheckoutInv (checkoutStep digest number s op) := by
  refine h.effect (checkoutStep_effect h op) ?_
  -- Only PayPal's actions touch the tables of PayPal calls.
  cases op with
  | shop _ | createPayment _ _ _ | stripeEvent _ _ => exact ⟨.refl, .refl, .refl, .refl⟩
  | startStripe _ _ _ | finishStripe _ _ | startRecovery _ _ | finishRecovery _ _ _ =>
      simp only [checkoutStep]
      split <;> exact ⟨.refl, .refl, .refl, .refl⟩
  | startPayPal orderId userId now =>
      simp only [checkoutStep]
      split
      · exact ⟨.refl, .refl, .refl, .refl⟩
      · split
        · exact ⟨.insert (preparePayPalOrder_effect ‹_›).2, .refl, .refl, .refl⟩
        · exact ⟨.refl, .refl, .refl, .refl⟩
  | finishPayPal callId createdId =>
      simp only [checkoutStep]
      split
      · exact ⟨.refl, .refl, .refl, .refl⟩
      · exact ⟨.erase callId, .refl, .refl, .refl⟩
  | startCapture orderId userId now =>
      simp only [checkoutStep]
      split
      · exact ⟨.refl, .refl, .refl, .refl⟩
      · exact ⟨.refl, .insert (preparePayPalCapture_effect ‹_›).2, .refl, .refl⟩
  | readCapture callId response =>
      simp only [checkoutStep]
      split
      · exact ⟨.refl, .refl, .refl, .refl⟩
      · rename_i call hcall
        split
        · exact ⟨.refl, .erase callId, .refl, .refl⟩
        · rename_i pending read
          refine ⟨.refl, .erase callId, .insert ?_, .refl⟩
          rw [readAcceptedCapture_call read]
          exact h.captures callId call hcall
  | writeCapture pendingId now =>
      simp only [checkoutStep]
      split
      · exact ⟨.refl, .refl, .refl, .refl⟩
      · exact ⟨.refl, .refl, .erase pendingId, .refl⟩
  | readPayPalEvent event =>
      simp only [checkoutStep]
      split
      · exact ⟨.refl, .refl, .refl, .refl⟩
      · split
        · exact ⟨.refl, .refl, .refl, .refl⟩
        · exact ⟨.refl, .refl, .refl, .insert (decidePayPalEvent_about event s.db)⟩
  | writePayPalEvent pendingId now =>
      simp only [checkoutStep]
      split
      · exact ⟨.refl, .refl, .refl, .refl⟩
      · exact ⟨.refl, .refl, .refl, .erase pendingId⟩

end Step

end ColorfulLife
