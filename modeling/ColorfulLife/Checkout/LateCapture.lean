/-
Successes that come too late.

A payment that succeeds when its order has been released must leave an exception
for the refund. Stripe's transactions test for every terminal state; PayPal's
test for EXPIRED and for an elapsed deadline only, and a cancellation clears the
deadline. An event makes that test on the order as it has read it, before it
writes, so an expiry in between escapes it as well. `late_captures_iff` says in
which runs the rule holds.
-/

import ColorfulLife.Checkout.Convergence

namespace ColorfulLife

open Relational

/-! ### The rule -/

/-- The transactions that record what a provider reports. -/
def CheckoutOp.reports : CheckoutOp → Bool
  | .stripeEvent _ _ | .finishRecovery _ _ _ | .writeCapture _ _ | .writePayPalEvent _ _ => true
  | _ => false

/-- A payment succeeds although its order is EXPIRED, CANCELLED or RETURNED. -/
def LateSuccess (db db' : Db) : Prop :=
  ∃ p payment payment' order, db.payments.get? p = some payment ∧ payment.status ≠ .succeeded ∧
    db'.payments.get? p = some payment' ∧ payment'.status = .succeeded ∧
    db.orders.get? payment.orderId = some order ∧ order.status.isLate = true

/-- The id of the receipt that a recovery upserts. -/
def CheckoutOp.upserted (s : CheckoutState) : CheckoutOp → Option String
  | .finishRecovery callId (some intent) _ =>
      (s.recoveries.get? callId).map fun call => recoveryEventId call.paymentId intent.id
  | _ => none

/-- One of the receipts that were written carries an error: a receipt that is new
or has changed, or the upserted one. -/
def LeavesException (upserted : Option String) (db db' : Db) : Prop :=
  ∃ k e, db'.webhookEvents.get? k = some e ∧ e.processingError ≠ none ∧
    (db.webhookEvents.get? k ≠ some e ∨ e.provider = .stripe ∧ upserted = some e.providerEventId)

section Rule

variable (digest : CanonicalRequest → String) (number : String → Option Nat)

/-- A late success leaves an exception and no other trace. -/
def CheckoutOp.RecordsLateSuccess (s : CheckoutState) (op : CheckoutOp) : Prop :=
  op.reports = true → LateSuccess s.db (checkoutStep digest number s op).db →
    LeavesException (op.upserted s) s.db (checkoutStep digest number s op).db ∧
      SameGoods s.db (checkoutStep digest number s op).db

end Rule

/-- A PayPal success that is about to be written does not meet a released order that
its test lets pass. A capture tests the order as it is: it must not be CANCELLED or
RETURNED, unless with a deadline that has elapsed. An event tests the order that it
has read: where the order is EXPIRED, CANCELLED or RETURNED by now, it must have read
it as EXPIRED or with a deadline that has elapsed by now. -/
def CheckoutOp.CapturesUncancelled (s : CheckoutState) : CheckoutOp → Prop
  | .writeCapture pendingId now => ∀ pending order payment,
      s.captureWrites.get? pendingId = some pending →
      s.db.orders.get? pending.call.orderId = some order →
      s.db.payments.get? pending.call.paymentId = some payment → payment.status ≠ .succeeded →
      s.db.payments.clashes Payment.clash pending.call.paymentId
        (payment.capture pending.captureId now) = false →
      order.status = .cancelled ∨ order.status = .returned → order.isElapsed now = true
  | .writePayPalEvent pendingId now => ∀ pending paymentId read readOrder captureId order payment,
      s.eventWrites.get? pendingId = some pending →
      pending.decision = .succeed paymentId read readOrder captureId →
      s.db.orders.get? read.orderId = some order →
      s.db.payments.get? paymentId = some payment → payment.status ≠ .succeeded →
      s.db.webhookEvents.clashes PaymentWebhookEvent.clash s.db.webhookEvents.nextId
        (newReceipt .paypal pending.event.id pending.event.eventType) = false →
      s.db.payments.clashes Payment.clash paymentId
        (read.completeCapture captureId now payment) = false →
      order.status.isLate = true → readOrder.status = .expired ∨ readOrder.isElapsed now = true
  | _ => True

/-! ### One action -/

section Rows

variable {db : Db} {p k : Nat} {payment payment' : Payment} {f : Payment → Payment}

/-- The row that a write moves to SUCCEEDED is the written one. -/
theorem succeeded_update (hp : db.payments.get? p = some payment)
    (unpaid : payment.status ≠ .succeeded)
    (hp' : (db.payments.update k f).get? p = some payment') (paid : payment'.status = .succeeded) :
    p = k ∧ payment' = f payment := by
  rw [Table.get?_update, hp] at hp'
  split at hp'
  · exact ⟨‹_›, (Option.some.inj hp').symm⟩
  · obtain rfl := Option.some.inj hp'
    exact absurd paid unpaid

theorem OrderStatus.isLate_eq_true {status : OrderStatus} : status.isLate = true ↔
    status = .expired ∨ status = .cancelled ∨ status = .returned := by
  cases status <;> simp [OrderStatus.isLate]

/-- The order of a late success is late for PayPal, too, when a cancelled or
returned one has an elapsed deadline. -/
theorem Order.isExpiredAt_of_late {order : Order} {now : Time} (late : order.status.isLate = true)
    (elapsed : order.status = .cancelled ∨ order.status = .returned → order.isElapsed now = true) :
    order.isExpiredAt now = true := by
  unfold Order.isExpiredAt
  rcases OrderStatus.isLate_eq_true.mp late with expired | released
  · simp [expired]
  · simp [elapsed released]

theorem Order.isExpiredAt_of_released {order : Order} {now : Time}
    (released : order.status = .cancelled ∨ order.status = .returned)
    (notElapsed : ¬ order.isElapsed now = true) : order.isExpiredAt now = false := by
  unfold Order.isExpiredAt
  rcases released with released | released <;> simpa [released] using notElapsed

end Rows

/-- Evidence that a late payment has succeeded leaves the exception. -/
theorem StripeEvidence.late {rewrites : Bool} {receiptId : String} {paymentId : Nat} {db db' : Db}
    (evidence : StripeEvidence rewrites receiptId paymentId db db') (late : LateSuccess db db') :
    (∃ k e, db'.webhookEvents.get? k = some e ∧ e.processingError ≠ none ∧ e.provider = .stripe ∧
      e.providerEventId = receiptId ∧ (rewrites = false → db.webhookEvents.get? k = none)) ∧
      SameGoods db db' := by
  obtain ⟨p, payment, payment', order, hp, unpaid, hp', success, horder, hlate⟩ := late
  cases evidence with
  | @intro read readOrder outcome now applied events paid ordered provider applies receipt =>
      obtain ⟨-, payments, hrecord, hrest⟩ := applyStripePaymentOutcome_ok applies
      have written : applied.payments = payments :=
        Except.ok.inj ((applyStripePaymentOutcome_payments applies).symm.trans hrecord)
      -- The payment that moved is the one the evidence was applied to.
      rcases recordStripeOutcome_ok hrecord with ⟨-, rfl⟩ | ⟨-, row, hrow, -, rfl⟩
      · have same : db.payments.get? p = some payment' := written ▸ hp'
        obtain rfl := Option.some.inj (hp.symm.trans same)
        exact absurd success unpaid
      · obtain ⟨rfl, rfl⟩ := succeeded_update hp unpaid (written ▸ hp') success
        obtain rfl := Option.some.inj (hp.symm.trans paid)
        obtain rfl := Option.some.inj (horder.symm.trans ordered)
        have succeeded : outcome.type = .succeeded :=
          payment.stripeOutcome_succeeded outcome now success
        constructor
        · obtain ⟨k, e, hget, hprovider, hid, herror, hnew⟩ := receipt
          refine ⟨k, e, hget, ?_, hprovider, hid, hnew⟩
          simp [herror, lateCapture, succeeded, hlate]
        · rcases hrest with ⟨-, pending, -⟩ | ⟨-, rfl⟩
          · rw [pending] at hlate
            cases hlate
          · exact ⟨rfl, rfl, rfl⟩

section Step

variable {s : CheckoutState} {digest : CanonicalRequest → String} {number : String → Option Nat}

theorem not_lateSuccess_self (db : Db) : ¬ LateSuccess db db := by
  rintro ⟨p, payment, payment', order, hp, unpaid, hp', paid, -⟩
  obtain rfl := Option.some.inj (hp.symm.trans hp')
  exact unpaid paid

/-- Only a transaction that commits can record a success. -/
theorem LateSuccess.committed {db : Db} {tx : Result Db} (late : LateSuccess db (commit tx db)) :
    ∃ db', tx = .ok db' := by
  cases htx : tx with
  | error e =>
      rw [htx] at late
      exact absurd late (not_lateSuccess_self db)
  | ok db' => exact ⟨db', rfl⟩

theorem LateSuccess.committedFst {α : Type} {db : Db} {tx : Result (Db × α)}
    (late : LateSuccess db (commitFst tx db)) : ∃ db' a, tx = .ok (db', a) := by
  obtain ⟨db', h⟩ := late.committed
  obtain ⟨⟨_, a⟩, htx, rfl⟩ := map_eq_ok.mp h
  exact ⟨_, a, htx⟩

/-- Stripe's transactions follow the rule. -/
theorem stripeEvent_records (event : StripePaymentIntentEvent) (now : Time) :
    (CheckoutOp.stripeEvent event now).RecordsLateSuccess digest number s := by
  intro _ late
  simp only [checkoutStep] at late ⊢
  obtain ⟨db', result, tx⟩ := late.committedFst
  simp only [tx, commitFst, Except.map, commit_ok] at late ⊢
  rcases reconcileStripePaymentEvent_ok tx with ⟨events, rfl⟩ | ⟨e, -, evidence⟩
  · exact absurd late (not_lateSuccess_self s.db)
  · obtain ⟨⟨k, e, hget, herror, -, -, hnew⟩, same⟩ := evidence.late late
    refine ⟨⟨k, e, hget, herror, Or.inl ?_⟩, same⟩
    simp [hnew rfl]

theorem finishRecovery_records (callId : Nat) (intent : Option StripePaymentIntent) (now : Time) :
    (CheckoutOp.finishRecovery callId intent now).RecordsLateSuccess digest number s := by
  intro _ late
  simp only [checkoutStep] at late ⊢
  cases hcall : s.recoveries.get? callId with
  | none =>
      rw [hcall] at late
      exact absurd late (not_lateSuccess_self s.db)
  | some call =>
      simp only [hcall] at late ⊢
      obtain ⟨db', tx⟩ := late.committed
      simp only [tx, commit_ok] at late ⊢
      rcases finishRecovery_ok tx with rfl | ⟨i, rfl, evidence⟩
      · exact absurd late (not_lateSuccess_self _)
      · obtain ⟨⟨k, e, hget, herror, provider, id, -⟩, same⟩ := evidence.late late
        refine ⟨⟨k, e, hget, herror, Or.inr ⟨provider, ?_⟩⟩, same⟩
        simp [CheckoutOp.upserted, hcall, id]

/-- A capture follows the rule unless it meets a cancelled order. -/
theorem writeCapture_records_iff (h : CheckoutInv s) (pendingId : Nat) (now : Time) :
    (CheckoutOp.writeCapture pendingId now).RecordsLateSuccess digest number s ↔
      (CheckoutOp.writeCapture pendingId now).CapturesUncancelled s := by
  simp only [CheckoutOp.RecordsLateSuccess, CheckoutOp.CapturesUncancelled, checkoutStep]
  constructor
  · intro records pending order payment hpending horder hp unpaid free released
    by_contra notElapsed
    have inTime := Order.isExpiredAt_of_released released notElapsed
    have tx : pending.write now s.db = .ok { s.db with
        payments := s.db.payments.update pending.call.paymentId
          (Payment.capture pending.captureId now) } :=
      AcceptedCapture.write_eq_ok.mpr ⟨order, payment, s.db.webhookEvents, horder, hp, free,
        by simp [recordLateCapture, inTime], rfl⟩
    obtain ⟨payment', hp', -, owner⟩ := h.captureWrites pendingId pending hpending
    obtain rfl := Option.some.inj (hp.symm.trans hp')
    simp only [hpending, tx, commit_ok] at records
    -- The payment succeeds, and no receipt is written.
    obtain ⟨⟨k, e, hget, -, hnew | ⟨-, none⟩⟩, -⟩ := records rfl ⟨pending.call.paymentId, payment,
      payment.capture pending.captureId now, order, hp, unpaid, by simp [hp], rfl,
      by rw [owner, horder], OrderStatus.isLate_eq_true.mpr (Or.inr released)⟩
    · exact hnew hget
    · cases none
  · intro uncancelled _ late
    cases hpending : s.captureWrites.get? pendingId with
    | none =>
        rw [hpending] at late
        exact absurd late (not_lateSuccess_self s.db)
    | some pending =>
        simp only [hpending] at late ⊢
        obtain ⟨db', tx⟩ := late.committed
        simp only [tx, commit_ok] at late ⊢
        obtain ⟨order, row, events, horder, hp, free, hevents, rfl⟩ :=
          AcceptedCapture.write_eq_ok.mp tx
        obtain ⟨q, read, read', readOrder, hq, unpaid, hq', success, hreadOrder, hlate⟩ := late
        obtain ⟨rfl, rfl⟩ := succeeded_update hq unpaid hq' success
        obtain rfl := Option.some.inj (hp.symm.trans hq)
        obtain ⟨payment', hp', -, owner⟩ := h.captureWrites pendingId pending hpending
        obtain rfl := Option.some.inj (hp.symm.trans hp')
        rw [owner] at hreadOrder
        obtain rfl := Option.some.inj (horder.symm.trans hreadOrder)
        have expired := Order.isExpiredAt_of_late hlate
          (uncancelled pending order row hpending horder hp unpaid free)
        simp only [recordLateCapture, expired, if_true, createRow_eq_ok] at hevents
        obtain ⟨-, rfl⟩ := hevents
        refine ⟨⟨s.db.webhookEvents.nextId, _, Table.get?_insert_self .., ?_, Or.inl ?_⟩,
          rfl, rfl, rfl⟩
        · simp [PaymentWebhookEvent.process]
        · simp [Table.get?_nextId]

/-- The receipts after an event: the old ones and the processed new one. -/
theorem get?_processed {events : Table PaymentWebhookEvent} {receipt : PaymentWebhookEvent}
    {now : Time} {error : Option String} (k : Nat) :
    ((events.insert receipt).update events.nextId (PaymentWebhookEvent.process now error)).get? k =
      if k = events.nextId then some (receipt.process now error) else events.get? k := by
  rw [Table.get?_update]
  split
  · subst_vars
    rw [Table.get?_insert_self]
    rfl
  · rw [Table.get?_insert, if_neg ‹_›]

theorem Order.isExpiredAt_eq_true {order : Order} {now : Time} : order.isExpiredAt now = true ↔
    order.status = .expired ∨ order.isElapsed now = true := by
  simp [Order.isExpiredAt]

/-- An event follows the rule unless it meets a released order that it has read as
open. -/
theorem writePayPalEvent_records_iff (h : CheckoutInv s) (pendingId : Nat) (now : Time) :
    (CheckoutOp.writePayPalEvent pendingId now).RecordsLateSuccess digest number s ↔
      (CheckoutOp.writePayPalEvent pendingId now).CapturesUncancelled s := by
  simp only [CheckoutOp.RecordsLateSuccess, CheckoutOp.CapturesUncancelled, checkoutStep]
  constructor
  · intro records pending paymentId read readOrder captureId order payment hpending hdecide horder
      hp unpaid new free hlate
    by_contra passes
    have inTime : readOrder.isExpiredAt now = false := by
      rw [← Bool.not_eq_true, Order.isExpiredAt_eq_true]
      exact passes
    have about := h.eventWrites pendingId pending hpending
    rw [hdecide] at about
    obtain ⟨payment', hp', -, owner⟩ := about
    obtain rfl := Option.some.inj (hp.symm.trans hp')
    have writes : pending.decision.Writes s.db.webhookEvents.nextId now
        { s.db with webhookEvents :=
            s.db.webhookEvents.insert (newReceipt .paypal pending.event.id pending.event.eventType) }
        { s.db with
          payments := s.db.payments.update paymentId (Payment.completeCapture read captureId now)
          webhookEvents := (s.db.webhookEvents.insert
              (newReceipt .paypal pending.event.id pending.event.eventType)).update
            s.db.webhookEvents.nextId (PaymentWebhookEvent.process now none) } := by
      rw [hdecide]
      exact ⟨payment, hp, free, by simp [inTime]⟩
    obtain ⟨result, tx⟩ := writePayPalEvent_isOk.mpr ⟨new, writes⟩
    simp only [hpending, tx, commitFst, Except.map, commit_ok] at records
    -- The payment succeeds, and the only receipt that is written has no error.
    obtain ⟨⟨k, e, hget, herror, hnew | ⟨-, none⟩⟩, -⟩ := records rfl ⟨paymentId, payment,
      read.completeCapture captureId now payment, order, hp, unpaid, by simp [hp], rfl,
      owner ▸ horder, hlate⟩
    · rw [get?_processed] at hget
      split at hget
      · obtain rfl := Option.some.inj hget
        exact herror rfl
      · exact hnew hget
    · cases none
  · intro uncancelled _ late
    cases hpending : s.eventWrites.get? pendingId with
    | none =>
        rw [hpending] at late
        exact absurd late (not_lateSuccess_self s.db)
    | some pending =>
        simp only [hpending] at late ⊢
        obtain ⟨db', result, tx⟩ := late.committedFst
        simp only [tx, commitFst, Except.map, commit_ok] at late ⊢
        obtain ⟨new, written⟩ := writePayPalEvent_isOk.mp ⟨result, tx⟩
        have about := h.eventWrites pendingId pending hpending
        cases hdecide : pending.decision with
        | receipt error handled =>
            rw [hdecide] at written
            obtain rfl : db' = _ := written
            exact absurd late (not_lateSuccess_self s.db)
        | succeed paymentId read readOrder captureId =>
            rw [hdecide] at written about
            obtain ⟨row, hrow, free, rfl⟩ := written
            obtain ⟨payment, hp, -, owner⟩ := about
            obtain rfl := Option.some.inj (hp.symm.trans hrow)
            obtain ⟨q, before, after, order, hq, unpaid, hq', success, horder, hlate⟩ := late
            obtain ⟨rfl, rfl⟩ := succeeded_update hq unpaid hq' success
            obtain rfl := Option.some.inj (hp.symm.trans hq)
            have expired := Order.isExpiredAt_eq_true.mpr (uncancelled pending _ read readOrder
              captureId order payment hpending hdecide (owner ▸ horder) hp unpaid new free hlate)
            refine ⟨⟨s.db.webhookEvents.nextId,
              (newReceipt .paypal pending.event.id pending.event.eventType).process now
                (some expiredCapture), ?_, ?_, Or.inl ?_⟩, rfl, rfl, rfl⟩
            · rw [expired]
              exact (get?_processed _).trans (if_pos rfl)
            · simp [PaymentWebhookEvent.process]
            · simp [Table.get?_nextId]
        | mark paymentId status =>
            rw [hdecide] at written about
            obtain ⟨row, hrow, free, rfl⟩ := written
            obtain ⟨q, before, after, order, hq, unpaid, hq', success, -⟩ := late
            obtain ⟨rfl, rfl⟩ := succeeded_update hq unpaid hq' success
            exact absurd success about.1

/-- Every action follows the rule unless it is a PayPal success that meets a released
order which its test lets pass. -/
theorem records_iff_uncancelled (h : CheckoutInv s) (op : CheckoutOp) :
    op.RecordsLateSuccess digest number s ↔ op.CapturesUncancelled s := by
  cases op with
  | stripeEvent event now => exact iff_of_true (stripeEvent_records event now) trivial
  | finishRecovery callId intent now =>
      exact iff_of_true (finishRecovery_records callId intent now) trivial
  | writeCapture pendingId now => exact writeCapture_records_iff h pendingId now
  | writePayPalEvent pendingId now => exact writePayPalEvent_records_iff h pendingId now
  | _ => exact iff_of_true (fun reports => by cases reports) trivial

end Step

/-! ### Over runs -/

/-- The customer cancels while the capture is with PayPal. -/
def cancelledInFlight : List CheckoutOp :=
  [.shop sampleCreate, .startPayPal 1 1 1, .finishPayPal 1 (some samplePayPalOrder),
    .startCapture 1 1 2, .shop (.cancelOrder 1 1 .other 3), .readCapture 1 (some sampleCaptured)]

/-- The capture of the cancelled order succeeds, and no receipt tells of it. -/
theorem cancelledInFlight_unrecorded : FreshCheckout sampleCheckout ∧
    ¬ ∀ t ∈ transitions (checkoutStep (fun _ => "") fun _ => none) sampleCheckout
        (cancelledInFlight ++ [.writeCapture 1 4]),
      t.2.RecordsLateSuccess (fun _ => "") (fun _ => none) t.1 := by
  refine ⟨sampleCheckout_fresh, fun all => ?_⟩
  have records := all _ (by
    rw [transitions_append]
    exact List.mem_append_right _ List.mem_cons_self)
  have late : ∃ payment payment' order,
      (run (checkoutStep (fun _ => "") fun _ => none) sampleCheckout
        cancelledInFlight).db.payments.get? 1 = some payment ∧ payment.status ≠ .succeeded ∧
      (run (checkoutStep (fun _ => "") fun _ => none) sampleCheckout
        (cancelledInFlight ++ [.writeCapture 1 4])).db.payments.get? 1 =
          some payment' ∧ payment'.status = .succeeded ∧
      (run (checkoutStep (fun _ => "") fun _ => none) sampleCheckout
        cancelledInFlight).db.orders.get? payment.orderId = some order ∧
      order.status.isLate = true :=
    ⟨_, _, _, rfl, by decide, rfl, rfl, rfl, rfl⟩
  obtain ⟨⟨k, e, hget, -⟩, -⟩ := records rfl ⟨1, late⟩
  have unrecorded : (run (checkoutStep (fun _ => "") fun _ => none) sampleCheckout
      (cancelledInFlight ++ [.writeCapture 1 4])).db.webhookEvents.get? k =
        none := rfl
  exact Option.some_ne_none e (hget.symm.trans unrecorded)

/-- Nor is there an error where the order expires between the read and the writes of an
event. -/
example :
    let s := run (checkoutStep (fun _ => "") fun _ => none) sampleCheckout
      [.shop sampleCreate, .startPayPal 1 1 1, .finishPayPal 1 (some samplePayPalOrder),
        .readPayPalEvent sampleCompleted, .shop (.expireOrderReservation 1 reservationMillis),
        .writePayPalEvent 1 4]
    (s.db.orders.get? 1).map Order.status = some .expired ∧
      (s.db.payments.get? 1).map Payment.status = some .succeeded ∧
      s.db.webhookEvents.entries.map (fun e => e.2.processingError) = [none] := by
  decide +kernel

/-- Along a run every late success leaves its exception exactly when no PayPal
success meets a released order which its test lets pass. -/
theorem late_captures_iff (digest : CanonicalRequest → String) (number : String → Option Nat)
    {s : CheckoutState} (fresh : FreshCheckout s) (ops : List CheckoutOp) :
    (∀ t ∈ transitions (checkoutStep digest number) s ops,
        t.2.RecordsLateSuccess digest number t.1) ↔
      ∀ t ∈ transitions (checkoutStep digest number) s ops, t.2.CapturesUncancelled t.1 := by
  exact transitions_forall_iff (I := CheckoutInv)
    (P := CheckoutOp.RecordsLateSuccess digest number) (C := CheckoutOp.CapturesUncancelled)
    (fun _ op inv => inv.step op) (fun _ op inv => records_iff_uncancelled inv op) fresh.inv ops

theorem late_captures_sample :
    (∀ t ∈ transitions (checkoutStep (fun _ => "") fun _ => none) sampleCheckout cancelledInFlight,
        t.2.RecordsLateSuccess (fun _ => "") (fun _ => none) t.1) ↔
      ∀ t ∈ transitions (checkoutStep (fun _ => "") fun _ => none) sampleCheckout cancelledInFlight,
        t.2.CapturesUncancelled t.1 :=
  late_captures_iff (fun _ => "") (fun _ => none) sampleCheckout_fresh cancelledInFlight

end ColorfulLife
