/-
Who may start a provider's charge.

The three services that ask a provider about an order test the order in a
preparing transaction. Stripe's tests for PENDING; PayPal's two test for EXPIRED
only, so that an order that was cancelled or confirmed passes.
`eligibility_iff` says in which runs every charge is of a payable order.
-/

import ColorfulLife.Checkout.Effects

namespace ColorfulLife

open Relational

/-! ### The rule -/

/-- The caller may pay for the order now. -/
def Payable (orderId userId : Nat) (now : Time) (db : Db) : Prop :=
  (∃ order, db.orders.get? orderId = some order ∧ order.userId = userId ∧
    order.status = .pending ∧ order.isElapsed now = false) ∧
  ∀ p payment, db.payments.get? p = some payment → payment.orderId = orderId →
    payment.status ≠ .succeeded

/-- The requests that ask a provider: the order, the caller and the instant. -/
def CheckoutOp.charge : CheckoutOp → Option (Nat × Nat × Time)
  | .startStripe orderId userId now | .startPayPal orderId userId now
  | .startCapture orderId userId now => some (orderId, userId, now)
  | _ => none

/-- The preparing transaction of the request commits. -/
def CheckoutOp.Prepares (s : CheckoutState) : CheckoutOp → Prop
  | .startStripe orderId userId now => ∃ r, prepareStripeIntent orderId userId now s.db = .ok r
  | .startPayPal orderId userId now => ∃ r, preparePayPalOrder orderId userId now s.db = .ok r
  | .startCapture orderId userId now => ∃ r, preparePayPalCapture orderId userId now s.db = .ok r
  | _ => False

/-- A request about an order that is not payable fails, and no call is started
and no row written. -/
def CheckoutOp.RefusesUnpayable (digest : CanonicalRequest → String)
    (number : String → Option Nat) (s : CheckoutState) (op : CheckoutOp) : Prop :=
  ∀ orderId userId now, op.charge = some (orderId, userId, now) →
    ¬ Payable orderId userId now s.db → ¬ op.Prepares s ∧ checkoutStep digest number s op = s

/-- What the initiation tests besides the status. -/
def PayPalInitiable (orderId userId : Nat) (now : Time) (db : Db) (order : Order) : Prop :=
  order.userId = userId ∧ order.isElapsed now = false ∧ 0 < order.totalAmount ∧
    ((∃ e, findByOrder orderId db.payments = some e ∧ e.2.provider = .paypal ∧
        e.2.status ≠ .succeeded) ∨
      (findByOrder orderId db.payments = none ∧
        db.payments.clashes Payment.clash db.payments.nextId
          (newPayPalPayment orderId order.totalAmount) = false))

/-- What the capture tests besides the status. -/
def PayPalCapturable (orderId userId : Nat) (now : Time) (db : Db) (order : Order) : Prop :=
  order.userId = userId ∧ order.isElapsed now = false ∧
    ∃ e payments, findByOrder orderId db.payments = some e ∧ e.2.provider = .paypal ∧
      e.2.status ≠ .succeeded ∧ e.2.providerReference.render ≠ "" ∧
      e.2.providerReference.isPending = false ∧
      recordCaptureKey e.1 e.2 (e.2.captureIdempotencyKey.getD (paypalCaptureKey orderId))
        db.payments = .ok payments

/-- PayPal is not asked about an order that is neither PENDING nor EXPIRED and
passes the other tests. -/
def CheckoutOp.AsksPayPalPending (s : CheckoutState) : CheckoutOp → Prop
  | .startPayPal orderId userId now => ∀ order, s.db.orders.get? orderId = some order →
      PayPalInitiable orderId userId now s.db order →
      order.status = .pending ∨ order.status = .expired
  | .startCapture orderId userId now => ∀ order, s.db.orders.get? orderId = some order →
      PayPalCapturable orderId userId now s.db order →
      order.status = .pending ∨ order.status = .expired
  | _ => True

/-! ### One request -/

section Step

variable {s : CheckoutState} {digest : CanonicalRequest → String} {number : String → Option Nat}
  {orderId userId : Nat} {now : Time}

/-- An order has one payment. -/
theorem findByOrder_only {payments : Table Payment} (h : payments.Unique Payment.clash)
    {e : Nat × Payment} (hfind : findByOrder orderId payments = some e) {p : Nat}
    {payment : Payment} (hp : payments.get? p = some payment) (owner : payment.orderId = orderId) :
    payment = e.2 := by
  obtain ⟨he, howner⟩ := findByOrder_eq_some hfind
  have same : p = e.1 := h p e.1 payment e.2 hp he (by simp [Payment.clash, owner, howner])
  rw [same] at hp
  exact Option.some.inj (hp.symm.trans he)

theorem findByOrder_absent {payments : Table Payment}
    (hfind : findByOrder orderId payments = none) {p : Nat} {payment : Payment}
    (hp : payments.get? p = some payment) : payment.orderId ≠ orderId := by
  have := Table.find?_eq_none.mp hfind p payment hp
  simpa using this

/-- A request that fails leaves everything as it was. -/
theorem checkoutStep_refused {op : CheckoutOp} {request : Nat × Nat × Time}
    (asks : op.charge = some request) (fails : ¬ op.Prepares s) :
    checkoutStep digest number s op = s := by
  cases op with
  | startStripe orderId userId now =>
      simp only [checkoutStep]
      split
      · rfl
      · exact absurd ⟨_, ‹_›⟩ fails
  | startPayPal orderId userId now =>
      simp only [checkoutStep]
      split
      · rfl
      · exact absurd ⟨_, ‹_›⟩ fails
  | startCapture orderId userId now =>
      simp only [checkoutStep]
      split
      · rfl
      · exact absurd ⟨_, ‹_›⟩ fails
  | _ => cases asks

/-- The rule says that a request is prepared for payable orders only. -/
theorem refusesUnpayable_iff {op : CheckoutOp} :
    op.RefusesUnpayable digest number s ↔ ∀ orderId userId now,
      op.charge = some (orderId, userId, now) → op.Prepares s → Payable orderId userId now s.db := by
  constructor
  · intro refuses orderId userId now asks prepares
    by_contra unpayable
    exact (refuses orderId userId now asks unpayable).1 prepares
  · intro payable orderId userId now asks unpayable
    have fails : ¬ op.Prepares s := fun prepares =>
      unpayable (payable orderId userId now asks prepares)
    exact ⟨fails, checkoutStep_refused asks fails⟩

/-- Stripe's test is the rule's. -/
theorem prepareStripeIntent_payable (h : CheckoutInv s)
    (prepares : ∃ r, prepareStripeIntent orderId userId now s.db = .ok r) :
    Payable orderId userId now s.db := by
  obtain ⟨⟨db', call⟩, tx⟩ := prepares
  obtain ⟨order, horder, owner, pending, inTime, found⟩ := prepareStripeIntent_ok tx
  refine ⟨⟨order, horder, owner, pending, inTime⟩, fun p payment hp howner => ?_⟩
  rcases found with ⟨-, hfind, unpaid⟩ | ⟨hfind, -⟩
  · exact findByOrder_only h.unique hfind hp howner ▸ unpaid
  · exact absurd howner (findByOrder_absent hfind hp)

/-- A PayPal initiation follows the rule unless the status slips through. -/
theorem startPayPal_payable_iff (h : CheckoutInv s) :
    ((∃ r, preparePayPalOrder orderId userId now s.db = .ok r) → Payable orderId userId now s.db) ↔
      (CheckoutOp.startPayPal orderId userId now).AsksPayPalPending s := by
  constructor
  · intro payable order horder ⟨owner, inTime, amount, found⟩
    by_cases expired : order.status = .expired
    · exact Or.inr expired
    · have prepares := preparePayPalOrder_isOk.mpr
        ⟨order, horder, owner, expired, inTime, amount, found⟩
      obtain ⟨⟨order', horder', -, pending, -⟩, -⟩ := payable prepares
      obtain rfl := Option.some.inj (horder.symm.trans horder')
      exact Or.inl pending
  · intro pending prepares
    obtain ⟨order, horder, owner, active, inTime, amount, found⟩ :=
      preparePayPalOrder_isOk.mp prepares
    have status := (pending order horder ⟨owner, inTime, amount, found⟩).resolve_right active
    refine ⟨⟨order, horder, owner, status, inTime⟩, fun p payment hp howner => ?_⟩
    rcases found with ⟨e, hfind, -, unpaid⟩ | ⟨hfind, -⟩
    · exact findByOrder_only h.unique hfind hp howner ▸ unpaid
    · exact absurd howner (findByOrder_absent hfind hp)

/-- A capture follows the rule unless the status slips through. -/
theorem startCapture_payable_iff (h : CheckoutInv s) :
    ((∃ r, preparePayPalCapture orderId userId now s.db = .ok r) →
        Payable orderId userId now s.db) ↔
      (CheckoutOp.startCapture orderId userId now).AsksPayPalPending s := by
  constructor
  · intro payable order horder ⟨owner, inTime, e, payments, found⟩
    by_cases expired : order.status = .expired
    · exact Or.inr expired
    · have prepares := preparePayPalCapture_isOk.mpr
        ⟨order, e, payments, horder, owner, expired, inTime, found⟩
      obtain ⟨⟨order', horder', -, pending, -⟩, -⟩ := payable prepares
      obtain rfl := Option.some.inj (horder.symm.trans horder')
      exact Or.inl pending
  · intro pending prepares
    obtain ⟨order, e, payments, horder, owner, active, inTime, found⟩ :=
      preparePayPalCapture_isOk.mp prepares
    have status := (pending order horder ⟨owner, inTime, e, payments, found⟩).resolve_right active
    refine ⟨⟨order, horder, owner, status, inTime⟩, fun p payment hp howner => ?_⟩
    obtain ⟨hfind, -, unpaid, -⟩ := found
    exact findByOrder_only h.unique hfind hp howner ▸ unpaid

/-- Every request follows the rule unless PayPal is asked about an order that is
neither pending nor expired. -/
theorem refuses_iff_asksPending (h : CheckoutInv s) (op : CheckoutOp) :
    op.RefusesUnpayable digest number s ↔ op.AsksPayPalPending s := by
  rw [refusesUnpayable_iff]
  cases op with
  | startStripe orderId userId now =>
      refine iff_of_true (fun o u t asks prepares => ?_) trivial
      cases asks
      exact prepareStripeIntent_payable h prepares
  | startPayPal orderId userId now =>
      rw [← startPayPal_payable_iff h]
      simp [CheckoutOp.charge, CheckoutOp.Prepares]
  | startCapture orderId userId now =>
      rw [← startCapture_payable_iff h]
      simp [CheckoutOp.charge, CheckoutOp.Prepares]
  | _ => exact iff_of_true (fun _ _ _ asks => by cases asks) trivial

end Step

/-! ### Over runs -/

/-- The customer cancels the sample order and then starts to pay for it. -/
def paidAfterCancel : List CheckoutOp :=
  [.shop sampleCreate, .shop (.cancelOrder 1 1 .other 1), .startPayPal 1 1 2]

/-- PayPal is asked to charge the cancelled order. -/
theorem paidAfterCancel_charged : FreshCheckout sampleCheckout ∧
    ¬ ∀ t ∈ transitions (checkoutStep (fun _ => "") fun _ => none) sampleCheckout paidAfterCancel,
      t.2.RefusesUnpayable (fun _ => "") (fun _ => none) t.1 := by
  refine ⟨sampleCheckout_fresh, fun all => ?_⟩
  have refuses := all _ (List.mem_cons_of_mem _ (List.mem_cons_of_mem _ List.mem_cons_self))
  have unpayable : ¬ Payable 1 1 2 (run (checkoutStep (fun _ => "") fun _ => none) sampleCheckout
      [.shop sampleCreate, .shop (.cancelOrder 1 1 .other 1)]).db := by
    rintro ⟨⟨order, horder, -, pending, -⟩, -⟩
    obtain rfl := Option.some.inj horder
    cases pending
  exact (refuses 1 1 2 rfl unpayable).1 ⟨_, rfl⟩

/-- Along a run no charge of an unpayable order is started exactly when PayPal is
never asked about an order that is neither pending nor expired. -/
theorem eligibility_iff (digest : CanonicalRequest → String) (number : String → Option Nat)
    {s : CheckoutState} (fresh : FreshCheckout s) (ops : List CheckoutOp) :
    (∀ t ∈ transitions (checkoutStep digest number) s ops,
        t.2.RefusesUnpayable digest number t.1) ↔
      ∀ t ∈ transitions (checkoutStep digest number) s ops, t.2.AsksPayPalPending t.1 :=
  transitions_forall_iff (I := CheckoutInv)
    (P := CheckoutOp.RefusesUnpayable digest number) (C := CheckoutOp.AsksPayPalPending)
    (fun _ op inv => inv.step op) (fun _ op inv => refuses_iff_asksPending inv op) fresh.inv ops

theorem eligibility_sample :
    (∀ t ∈ transitions (checkoutStep (fun _ => "") fun _ => none) sampleCheckout paidAfterCancel,
        t.2.RefusesUnpayable (fun _ => "") (fun _ => none) t.1) ↔
      ∀ t ∈ transitions (checkoutStep (fun _ => "") fun _ => none) sampleCheckout paidAfterCancel,
        t.2.AsksPayPalPending t.1 :=
  eligibility_iff (fun _ => "") (fun _ => none) sampleCheckout_fresh paidAfterCancel

end ColorfulLife
