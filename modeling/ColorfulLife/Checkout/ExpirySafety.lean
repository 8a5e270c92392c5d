/-
Expiry and success, statement by statement.

`Closing` orders are those that are expired or claimed by an expiry under way.
The invariant is that every success on a closing order has left its exception:
a claim finds no success, and whoever records one later either holds the order's
row lock, and so sees the expiry, or is a PayPal event. An event that has read
the order as open and taken its time before the deadline is not stopped by a
claim: that is the one race in which both win, and the condition of
`expiry_race_safe` excludes it.
-/

import ColorfulLife.Checkout.ExpiryRace
import ColorfulLife.Checkout.LateCapture

namespace ColorfulLife

open Relational

/-! ### Receipt ids -/

theorem recoveryEventId_toList (p : Nat) (i : ProviderReference) :
    (recoveryEventId p i).toList = "recovery:".toList ++ (Nat.toDigits 10 p ++
      ':' :: (i.render.toList ++ ":succeeded".toList)) := by
  have digits : (toString p).toList = Nat.toDigits 10 p := by simp
  simp only [recoveryEventId, String.toList_append, digits, List.append_assoc]
  rfl

/-- What precedes the first colon is determined. -/
theorem before_colon_inj {a b r s : List Char} (ha : ':' ∉ a) (hb : ':' ∉ b)
    (h : a ++ ':' :: r = b ++ ':' :: s) : a = b := by
  induction a generalizing b with
  | nil =>
      cases b with
      | nil => rfl
      | cons c b => simp_all
  | cons c a ih =>
      cases b with
      | nil => simp_all
      | cons d b =>
          obtain ⟨rfl, hrest⟩ := List.cons.inj h
          rw [ih (fun hmem => ha (List.mem_cons_of_mem _ hmem))
            (fun hmem => hb (List.mem_cons_of_mem _ hmem)) hrest]

theorem colon_notMem_digits (n : Nat) : ':' ∉ Nat.toDigits 10 n := by
  intro h
  have digit := Nat.isDigit_of_mem_toDigits (by decide) (by decide) h
  revert digit
  decide

/-- A recovery's receipt tells its payment. -/
theorem recoveryEventId_inj {p q : Nat} {i j : ProviderReference}
    (h : recoveryEventId p i = recoveryEventId q j) : p = q := by
  have h := congrArg String.toList h
  rw [recoveryEventId_toList, recoveryEventId_toList, List.append_cancel_left_eq] at h
  have digits := before_colon_inj (colon_notMem_digits p) (colon_notMem_digits q) h
  have value := congrArg (Nat.ofDigitChars 10 · 0) digits
  simpa using value

/-- The id of a Stripe event is not made like a recovery's receipt. -/
def NamedByStripe (id : String) : Prop := ¬ "recovery:".toList <+: id.toList

theorem NamedByStripe.ne_recovery {id : String} (named : NamedByStripe id) (p : Nat)
    (i : ProviderReference) : id ≠ recoveryEventId p i := by
  rintro rfl
  apply named
  rw [recoveryEventId_toList]
  exact List.prefix_append ..

/-! ### The invariant -/

namespace RaceState

variable (s : RaceState)

/-- Expired, or claimed by an expiry that has not committed. -/
def Closing (o : Nat) : Prop :=
  orderStatus s.db o = some .expired ∨ ∃ k, s.txs.get? k = some (.expiryClaimed o)

/-- A committed transaction reported the success of the payment, and its receipt
carries an error. -/
def Reported (p : Nat) : Prop :=
  ∃ report k e, (p, report) ∈ s.reported ∧ s.db.webhookEvents.get? k = some e ∧
    (e.provider, e.providerEventId) = report.key p ∧ e.processingError ≠ none

theorem locked_eq_false {s : RaceState} {o : Nat} :
    s.locked o = false ↔ ∀ k tx, s.txs.get? k = some tx → tx.holds ≠ some o := by
  rw [locked, Option.isSome_eq_false_iff, Option.isNone_iff_eq_none, Table.find?_eq_none]
  simp

/-- The order is not closing, and while it is pending its deadline is the one
that was read. -/
def StillOpen (o : Nat) (read : Order) : Prop :=
  ¬ s.Closing o ∧ ∃ order, s.db.orders.get? o = some order ∧
    (order.status = .pending → order.reservationExpiresAt = read.reservationExpiresAt)

end RaceState

/-- A decision is about a PayPal payment of its order, and a success knows
(`sees`) what has become of that order; a mark is no success. -/
def PayPalDecision.Ok (payments : Table Payment) (sees : Nat → Order → Prop) :
    PayPalDecision → Prop
  | .receipt _ _ => True
  | .succeed p payment order _ =>
      PaymentOf .paypal payments p payment.orderId ∧ sees payment.orderId order
  | .mark p status => (∃ o, PaymentOf .paypal payments p o) ∧ status ≠ .succeeded

/-- What a running transaction has read is still true. -/
def Tx.Ok (s : RaceState) : Tx → Prop
  | .expiryBegun _ asOf | .expiryLocked _ asOf => asOf ≤ s.clock
  | .expiryClaimed orderId =>
      ∃ order, s.db.orders.get? orderId = some order ∧ order.isElapsed s.clock = true
  | .manualBegun _ _ | .manualLocked _ _ | .recoveryBegun _ _ | .recoveryLocked _ _
  | .eventBegun _ => True
  | .manualAccepted orderId _ _ => orderStatus s.db orderId ≠ some .expired
  | .stripeBegun event => NamedByStripe event.id
  | .stripeCorrelated event p o | .stripeLocked event p o =>
      NamedByStripe event.id ∧ PaymentOf .stripe s.db.payments p o
  | .stripeRead event p payment order =>
      NamedByStripe event.id ∧ PaymentOf .stripe s.db.payments p payment.orderId ∧
        s.db.orders.get? payment.orderId = some order
  | .recoveryRead call _ payment order =>
      payment.orderId = call.orderId ∧
        PaymentOf .stripe s.db.payments call.paymentId call.orderId ∧
        s.db.orders.get? call.orderId = some order
  | .captureBegun call _ | .captureLocked call _ =>
      PaymentOf .paypal s.db.payments call.paymentId call.orderId
  | .captureRead call _ order | .captureTimed call _ order _ =>
      PaymentOf .paypal s.db.payments call.paymentId call.orderId ∧
        s.db.orders.get? call.orderId = some order
  | .eventRead _ decision => decision.Ok s.db.payments fun o order =>
      order.isExpiredAt s.clock = true ∨ s.StillOpen o order
  | .eventTimed _ decision now => decision.Ok s.db.payments fun o order =>
      order.isExpiredAt now = true ∨ ¬ s.Closing o

structure RaceInv (s : RaceState) : Prop where
  exclusive : ∀ j k tx tx' o, s.txs.get? j = some tx → s.txs.get? k = some tx' →
    tx.holds = some o → tx'.holds = some o → j = k
  running : ∀ k tx, s.txs.get? k = some tx → tx.Ok s
  captures : ∀ c call, s.captures.get? c = some call →
    PaymentOf .paypal s.db.payments call.paymentId call.orderId
  settled : ∀ p payment, s.db.payments.get? p = some payment → payment.status = .succeeded →
    s.Closing payment.orderId → payment.provider ≠ .manual ∧ s.Reported p
  named : ∀ p id, (p, .stripeEvent id) ∈ s.reported → NamedByStripe id

/-! ### Keeping what was read -/

theorem Order.isElapsed_mono {order : Order} {now now' : Time} (later : now ≤ now')
    (h : order.isElapsed now = true) : order.isElapsed now' = true := by
  unfold Order.isElapsed at h ⊢
  cases hd : order.reservationExpiresAt with
  | none => rw [hd] at h; cases h
  | some deadline =>
      rw [hd] at h
      simp only [Option.any_some, decide_eq_true_eq] at h ⊢
      exact Nat.le_trans h later

theorem Order.isExpiredAt_mono {order : Order} {now now' : Time} (later : now ≤ now')
    (h : order.isExpiredAt now = true) : order.isExpiredAt now' = true := by
  unfold Order.isExpiredAt at h ⊢
  rcases Bool.or_eq_true_iff.mp h with expired | elapsed
  · simp [expired]
  · simp [Order.isElapsed_mono later elapsed]

theorem PayPalDecision.Ok.imp {decision : PayPalDecision} {payments payments' : Table Payment}
    {sees sees' : Nat → Order → Prop} (h : decision.Ok payments sees)
    (kept : PaymentsKept payments payments') (imp : ∀ o order, sees o order → sees' o order) :
    decision.Ok payments' sees' := by
  cases decision with
  | receipt _ _ => trivial
  | succeed p payment order captureId => exact ⟨h.1.kept kept, imp _ _ h.2⟩
  | mark p status => exact ⟨h.1.imp fun _ row => row.kept kept, h.2⟩

/-- What an action shows to the transactions that it does not belong to:
`holder` is the order whose lock the action has. -/
structure Later (s : RaceState) (holder : Option Nat) (s' : RaceState) : Prop where
  clock : s.clock ≤ s'.clock
  payments : PaymentsKept s.db.payments s'.db.payments
  orders : ∀ o, s'.db.orders.get? o = s.db.orders.get? o ∨ (holder = some o ∧
    (s.Closing o ∨ ∃ order, s'.db.orders.get? o = some order ∧ order.status = .confirmed))
  closing : ∀ o, s'.Closing o → s.Closing o

theorem Tx.Ok.later {s s' : RaceState} {tx : Tx} {holder : Option Nat} (ok : tx.Ok s)
    (later : Later s holder s') (apart : ∀ o, holder = some o → tx.holds ≠ some o) : tx.Ok s' := by
  have row : ∀ o, tx.holds = some o → s'.db.orders.get? o = s.db.orders.get? o := by
    intro o holds
    rcases later.orders o with same | ⟨held, -⟩
    · exact same
    · exact absurd holds (apart o held)
  cases tx with
  | expiryBegun o asOf | expiryLocked o asOf => exact Nat.le_trans ok later.clock
  | manualAccepted o reference amount =>
      have same : orderStatus s'.db o = orderStatus s.db o := by
        unfold orderStatus
        rw [row o rfl]
      exact fun expired => ok (same.symm.trans expired)
  | stripeCorrelated event p o | stripeLocked event p o => exact ⟨ok.1, ok.2.kept later.payments⟩
  | stripeRead event p payment order =>
      exact ⟨ok.1, ok.2.1.kept later.payments, (row _ rfl).trans ok.2.2⟩
  | recoveryRead call intent payment order =>
      exact ⟨ok.1, ok.2.1.kept later.payments, (row _ rfl).trans ok.2.2⟩
  | captureBegun call captureId | captureLocked call captureId =>
      exact PaymentOf.kept ok later.payments
  | captureRead call captureId order => exact ⟨ok.1.kept later.payments, (row _ rfl).trans ok.2⟩
  | captureTimed call captureId order now =>
      exact ⟨ok.1.kept later.payments, (row _ rfl).trans ok.2⟩
  | eventRead event decision =>
      simp only [Tx.Ok] at ok ⊢
      refine ok.imp later.payments fun o order sees => ?_
      rcases sees with late | ⟨notClosing, current, hcurrent, deadline⟩
      · exact Or.inl (Order.isExpiredAt_mono later.clock late)
      · refine Or.inr ⟨fun closing => notClosing (later.closing o closing), ?_⟩
        rcases later.orders o with same | ⟨-, closing | ⟨order', horder', confirmed⟩⟩
        · exact ⟨current, same.trans hcurrent, deadline⟩
        · exact absurd closing notClosing
        · exact ⟨order', horder', fun pending => by rw [confirmed] at pending; cases pending⟩
  | eventTimed event decision now =>
      simp only [Tx.Ok] at ok ⊢
      refine ok.imp later.payments fun o order sees => ?_
      exact sees.imp_right fun notClosing closing => notClosing (later.closing o closing)
  | stripeBegun event => exact ok
  | expiryClaimed o =>
      obtain ⟨order, found, elapsed⟩ := ok
      exact ⟨order, (row o rfl).trans found, Order.isElapsed_mono later.clock elapsed⟩
  | manualBegun _ _ | manualLocked _ _ | recoveryBegun _ _ | recoveryLocked _ _ | eventBegun _ =>
      trivial

/-! ### Commits -/

/-- What a commit under the lock of `holder` does. A new success on a closing
order is reported with an exception, and an exception is only ever rewritten by
the recovery of a payment whose order is not closing. -/
structure Commits (s : RaceState) (holder : Option Nat) (db' : Db)
    (report : Option (Nat × SuccessReport)) : Prop where
  payments : PaymentsKept s.db.payments db'.payments
  orders : ∀ o, db'.orders.get? o = s.db.orders.get? o ∨ (holder = some o ∧
    (s.Closing o ∨ ∃ order, db'.orders.get? o = some order ∧ order.status = .confirmed))
  successes : ∀ p payment', db'.payments.get? p = some payment' → payment'.status = .succeeded →
    (∃ payment, s.db.payments.get? p = some payment ∧ payment.status = .succeeded ∧
      payment.orderId = payment'.orderId ∧ payment.provider = payment'.provider) ∨
    (s.Closing payment'.orderId → payment'.provider ≠ .manual ∧ ∃ r k e, report = some (p, r) ∧
      db'.webhookEvents.get? k = some e ∧ (e.provider, e.providerEventId) = r.key p ∧
      e.processingError ≠ none)
  receipts : ∀ k e, s.db.webhookEvents.get? k = some e → e.processingError ≠ none →
    ∃ e', db'.webhookEvents.get? k = some e' ∧
      (e'.provider, e'.providerEventId) = (e.provider, e.providerEventId) ∧
      (e'.processingError ≠ none ∨ ∃ p i payment,
        (e.provider, e.providerEventId) = (.stripe, recoveryEventId p i) ∧
        s.db.payments.get? p = some payment ∧ ¬ s.Closing payment.orderId)
  named : ∀ p id, report = some (p, .stripeEvent id) → NamedByStripe id

theorem PaymentsKept.refl (payments : Table Payment) : PaymentsKept payments payments :=
  fun _ payment hp => ⟨payment, hp, rfl, rfl⟩

theorem Commits.same (s : RaceState) (holder : Option Nat) : Commits s holder s.db none where
  payments := PaymentsKept.refl _
  orders := fun _ => Or.inl rfl
  successes := fun _ payment hp success => Or.inl ⟨payment, hp, success, rfl, rfl⟩
  receipts := fun _ e he error => ⟨e, he, rfl, Or.inl error⟩
  named := fun _ _ h => by cases h

namespace RaceInv

variable {s : RaceState} {holder : Option Nat} {db' : Db} {report : Option (Nat × SuccessReport)}

/-- An exception of a closing order survives a commit. -/
theorem reported_kept (h : RaceInv s) (commits : Commits s holder db' report) {p : Nat}
    {payment : Payment} (hp : s.db.payments.get? p = some payment)
    (closing : s.Closing payment.orderId) (reported : s.Reported p) {s' : RaceState}
    (hdb : s'.db = db') (hreported : s'.reported = s.reported ++ report.toList) :
    s'.Reported p := by
  obtain ⟨r, k, e, mem, hget, key, error⟩ := reported
  obtain ⟨e', hget', same, kept | ⟨q, i, payment', recovered, hq, open_⟩⟩ :=
    commits.receipts k e hget error
  · exact ⟨r, k, e', hreported ▸ List.mem_append_left _ mem, hdb ▸ hget', same.trans key, kept⟩
  · -- The receipt is a recovery's, so it is about this payment, whose order is closing.
    have about : q = p := by
      rw [recovered] at key
      cases r with
      | stripeEvent id =>
          exact absurd (Prod.mk.inj key).2.symm ((h.named p id mem).ne_recovery q i)
      | recovery intentId => exact recoveryEventId_inj (Prod.mk.inj key).2
      | capture captureId => cases (Prod.mk.inj key).1
      | paypalEvent id => cases (Prod.mk.inj key).1
    rw [about] at hq
    obtain rfl := Option.some.inj (hp.symm.trans hq)
    exact absurd closing open_

/-- A commit keeps the invariant; the transactions that stay do not hold the lock
it was made under. -/
theorem commit (h : RaceInv s) (commits : Commits s holder db' report) {txs : Table Tx}
    {captures : Table PayPalCaptureCall}
    (stay : ∀ j tx, txs.get? j = some tx → s.txs.get? j = some tx ∧
      ∀ o, holder = some o → tx.holds ≠ some o)
    (calls : ∀ c call, captures.get? c = some call → (∃ c, s.captures.get? c = some call) ∨
      PaymentOf .paypal db'.payments call.paymentId call.orderId) :
    RaceInv { s with
      db := db', txs := txs, captures := captures, reported := s.reported ++ report.toList } := by
  have closing : ∀ o, RaceState.Closing { s with
      db := db', txs := txs, captures := captures, reported := s.reported ++ report.toList } o →
      s.Closing o := by
    rintro o (expired | ⟨k, hk⟩)
    · rcases commits.orders o with same | ⟨-, closing | ⟨order, horder, confirmed⟩⟩
      · unfold orderStatus at expired
        rw [same] at expired
        exact Or.inl expired
      · exact closing
      · simp [orderStatus, horder, confirmed] at expired
    · exact Or.inr ⟨k, (stay k _ hk).1⟩
  have later : Later s holder { s with
      db := db', txs := txs, captures := captures, reported := s.reported ++ report.toList } :=
    ⟨Nat.le_refl _, commits.payments, commits.orders, closing⟩
  refine ⟨?_, ?_, ?_, ?_, ?_⟩
  · intro j k tx tx' o hj hk
    exact h.exclusive j k tx tx' o (stay j tx hj).1 (stay k tx' hk).1
  · intro k tx hk
    exact (h.running k tx (stay k tx hk).1).later later (stay k tx hk).2
  · intro c call hc
    rcases calls c call hc with ⟨c', old⟩ | new
    · exact (h.captures c' call old).kept commits.payments
    · exact new
  · intro p payment' hp' success closes
    rcases commits.successes p payment' hp' success with
      ⟨payment, hp, before, owner, provider⟩ | new
    · have closed : s.Closing payment.orderId := owner ▸ closing _ closes
      obtain ⟨other, reported⟩ := h.settled p payment hp before closed
      exact ⟨provider ▸ other, h.reported_kept commits hp closed reported rfl rfl⟩
    · obtain ⟨other, r, k, e, hreport, hget, key, error⟩ := new (closing _ closes)
      exact ⟨other, r, k, e, by simp [hreport], hget, key, error⟩
  · intro p id mem
    rcases List.mem_append.mp mem with old | new
    · exact h.named p id old
    · exact commits.named p id (Option.mem_toList.mp new)

/-! ### Statements that go on -/

/-- The transaction takes a statement that reads, and perhaps a free lock. -/
theorem next (h : RaceInv s) {k : Nat} {tx tx' : Tx} (hk : s.txs.get? k = some tx)
    (ok : tx'.Ok s) (lock : ∀ o, tx'.holds = some o → tx.holds = some o ∨ s.locked o = false)
    (unclaimed : ∀ o, tx' ≠ .expiryClaimed o) :
    RaceInv { s with txs := s.txs.update k fun _ => tx' } := by
  have old : ∀ j tx₁, (s.txs.update k fun _ => tx').get? j = some tx₁ →
      (j = k ∧ tx₁ = tx') ∨ (j ≠ k ∧ s.txs.get? j = some tx₁) := by
    intro j tx₁ hj
    exact Table.update_cases hk hj
  have closing : ∀ o, RaceState.Closing { s with txs := s.txs.update k fun _ => tx' } o →
      s.Closing o := by
    rintro o (expired | ⟨j, hj⟩)
    · exact Or.inl expired
    · rcases old j _ hj with ⟨-, claimed⟩ | ⟨-, hold⟩
      · exact absurd claimed.symm (unclaimed o)
      · exact Or.inr ⟨j, hold⟩
  have later : Later s none { s with txs := s.txs.update k fun _ => tx' } :=
    ⟨Nat.le_refl _, PaymentsKept.refl _, fun _ => Or.inl rfl, closing⟩
  -- The lock of an order is free or the transaction's own.
  have alone : ∀ j tx₁ o, j ≠ k → s.txs.get? j = some tx₁ → tx₁.holds = some o →
      tx'.holds ≠ some o := by
    intro j tx₁ o hne hj held holds
    rcases lock o holds with own | free
    · exact hne (h.exclusive j k tx₁ tx o hj hk held own)
    · exact RaceState.locked_eq_false.mp free j tx₁ hj held
  refine ⟨?_, ?_, h.captures, ?_, h.named⟩
  · intro i j tx₁ tx₂ o hi hj holds₁ holds₂
    rcases old i tx₁ hi with ⟨rfl, rfl⟩ | ⟨hne, before⟩ <;>
      rcases old j tx₂ hj with ⟨rfl, rfl⟩ | ⟨hne', before'⟩
    · rfl
    · exact absurd holds₁ (alone j tx₂ o hne' before' holds₂)
    · exact absurd holds₂ (alone i tx₁ o hne before holds₁)
    · exact h.exclusive i j tx₁ tx₂ o before before' holds₁ holds₂
  · intro j tx₁ hj
    rcases old j tx₁ hj with ⟨-, rfl⟩ | ⟨-, hj⟩
    · exact ok.later later fun o held => by cases held
    · exact (h.running j tx₁ hj).later later fun o held => by cases held
  · exact fun p payment hp success closes => h.settled p payment hp success (closing _ closes)

/-- A new transaction has read nothing yet. -/
theorem begin (h : RaceInv s) {tx : Tx} (ok : tx.Ok s) (free : tx.holds = none)
    (unclaimed : ∀ o, tx ≠ .expiryClaimed o) : RaceInv { s with txs := s.txs.insert tx } := by
  have closing : ∀ o, RaceState.Closing { s with txs := s.txs.insert tx } o → s.Closing o := by
    rintro o (expired | ⟨j, hj⟩)
    · exact Or.inl expired
    · rw [Table.get?_insert] at hj
      split at hj
      · exact absurd (Option.some.inj hj) (unclaimed o)
      · exact Or.inr ⟨j, hj⟩
  have later : Later s none { s with txs := s.txs.insert tx } :=
    ⟨Nat.le_refl _, PaymentsKept.refl _, fun _ => Or.inl rfl, closing⟩
  refine ⟨?_, ?_, h.captures, ?_, h.named⟩
  · intro i j tx₁ tx₂ o hi hj holds₁ holds₂
    rw [Table.get?_insert] at hi hj
    split at hi
    · obtain rfl := Option.some.inj hi
      rw [free] at holds₁
      cases holds₁
    · split at hj
      · obtain rfl := Option.some.inj hj
        rw [free] at holds₂
        cases holds₂
      · exact h.exclusive i j tx₁ tx₂ o hi hj holds₁ holds₂
  · intro j tx₁ hj
    rcases Table.insert_cases hj with ⟨-, rfl⟩ | hj
    · exact ok.later later fun o held => by cases held
    · exact (h.running j tx₁ hj).later later fun o held => by cases held
  · exact fun p payment hp success closes => h.settled p payment hp success (closing _ closes)

/-- The claim of an expiry: the order is pending, its deadline has elapsed and
none of its payments has succeeded. No event that took its time before the
deadline is about to commit. -/
theorem claim (h : RaceInv s) {k o : Nat} {asOf : Time} {order : Order}
    (hk : s.txs.get? k = some (.expiryLocked o asOf)) (found : s.db.orders.get? o = some order)
    (expirable : order.isExpirable o asOf s.db)
    (decided : ∀ j event p payment read captureId now,
      s.txs.get? j = some (.eventTimed event (.succeed p payment read captureId) now) →
      payment.orderId = o → read.isExpiredAt now = true) :
    RaceInv { s with txs := s.txs.update k fun _ => .expiryClaimed o } := by
  obtain ⟨pending, elapsed, unpaid⟩ := expirable
  have inTime : asOf ≤ s.clock := h.running k _ hk
  have old : ∀ j tx, (s.txs.update k fun _ => Tx.expiryClaimed o).get? j = some tx →
      (j = k ∧ tx = .expiryClaimed o) ∨ (j ≠ k ∧ s.txs.get? j = some tx) := by
    intro j tx hj
    exact Table.update_cases hk hj
  have closing : ∀ o', RaceState.Closing
      { s with txs := s.txs.update k fun _ => .expiryClaimed o } o' → o' = o ∨ s.Closing o' := by
    rintro o' (expired | ⟨j, hj⟩)
    · exact Or.inr (Or.inl expired)
    · rcases old j _ hj with ⟨-, claimed⟩ | ⟨-, hj⟩
      · cases claimed
        exact Or.inl rfl
      · exact Or.inr (Or.inr ⟨j, hj⟩)
  refine ⟨?_, ?_, h.captures, ?_, h.named⟩
  · intro i j tx₁ tx₂ o' hi hj holds₁ holds₂
    -- The lock was the transaction's before.
    have before : ∀ j tx, (s.txs.update k fun _ => Tx.expiryClaimed o).get? j = some tx →
        tx.holds = some o' → ∃ tx', s.txs.get? j = some tx' ∧ tx'.holds = some o' := by
      intro j tx hj holds
      rcases old j tx hj with ⟨rfl, rfl⟩ | ⟨-, hj⟩
      · exact ⟨_, hk, holds⟩
      · exact ⟨tx, hj, holds⟩
    obtain ⟨tx₁', hi', holds₁'⟩ := before i tx₁ hi holds₁
    obtain ⟨tx₂', hj', holds₂'⟩ := before j tx₂ hj holds₂
    exact h.exclusive i j tx₁' tx₂' o' hi' hj' holds₁' holds₂'
  · intro j tx hj
    rcases old j tx hj with ⟨-, rfl⟩ | ⟨hne, hj⟩
    · exact ⟨order, found, Order.isElapsed_mono inTime elapsed⟩
    · have ok := h.running j tx hj
      cases tx with
      | eventRead event decision =>
          simp only [Tx.Ok] at ok ⊢
          refine ok.imp (PaymentsKept.refl _) fun o' read sees => ?_
          rcases sees with late | ⟨notClosing, current, hcurrent, deadline⟩
          · exact Or.inl late
          · by_cases about : o' = o
            · -- The deadline that was read is the claimed order's, which has elapsed.
              subst about
              obtain rfl := Option.some.inj (found.symm.trans hcurrent)
              have readElapsed : read.isElapsed asOf = true := by
                unfold Order.isElapsed at elapsed ⊢
                rw [← deadline pending]
                exact elapsed
              refine Or.inl (Order.isExpiredAt_mono inTime ?_)
              simp [Order.isExpiredAt, readElapsed]
            · refine Or.inr ⟨fun closes => ?_, current, hcurrent, deadline⟩
              exact (closing o' closes).elim about notClosing
      | eventTimed event decision now =>
          simp only [Tx.Ok] at ok ⊢
          cases decision with
          | receipt _ _ => trivial
          | mark _ _ => exact ok
          | succeed p payment read captureId =>
              refine ⟨ok.1, ?_⟩
              by_cases about : payment.orderId = o
              · exact Or.inl (decided j event p payment read captureId now hj about)
              · exact ok.2.imp_right fun notClosing closes =>
                  (closing _ closes).elim about notClosing
      | _ => exact ok
  · intro p payment hp success closes
    rcases closing _ closes with about | closed
    · have none := Table.find?_eq_none.mp
        (Option.isNone_iff_eq_none.mp (Option.isSome_eq_false_iff.mp unpaid)) p payment hp
      simp [about, success] at none
    · exact h.settled p payment hp success closed

/-- For the holder of an order's lock that has not claimed it, closing is
EXPIRED. -/
theorem closing_expired (h : RaceInv s) {k o : Nat} {tx : Tx} (hk : s.txs.get? k = some tx)
    (holds : tx.holds = some o) (unclaimed : ∀ o, tx ≠ .expiryClaimed o) (closing : s.Closing o) :
    orderStatus s.db o = some .expired := by
  rcases closing with expired | ⟨j, hj⟩
  · exact expired
  · obtain rfl := h.exclusive j k _ tx o hj hk rfl holds
    rw [hk] at hj
    exact absurd (Option.some.inj hj) (unclaimed o)

end RaceInv

/-! ### The statements -/

section Statements

variable {s : RaceState} {number : String → Option Nat} {tx tx' : Tx}

theorem RaceState.lock_eq_next {o : Nat} :
    s.lock o tx = .next tx' ↔ s.locked o = false ∧ tx' = tx := by
  unfold RaceState.lock
  cases s.locked o <;> simp [eq_comm]

theorem RaceState.lock_ne_ends {o : Nat} {result : Result Db}
    {report : Option (Nat × SuccessReport)} : s.lock o tx ≠ .ends result report := by
  unfold RaceState.lock
  split <;> simp

theorem RaceState.receive_next {receipt : PaymentWebhookEvent} {next : Statement}
    (h : s.receive receipt next = .next tx') : next = .next tx' := by
  unfold RaceState.receive at h
  split at h
  · cases h
  · split at h
    · cases h
    · exact h

theorem RaceState.receive_commits {receipt : PaymentWebhookEvent} {next : Statement} {db' : Db}
    {report : Option (Nat × SuccessReport)}
    (h : s.receive receipt next = .ends (.ok db') report) : next = .ends (.ok db') report := by
  unfold RaceState.receive at h
  split at h
  · cases h
  · split at h
    · cases h
    · exact h

theorem acceptManual_some {orderId : Nat} {reference : ProviderReference} {now : Time} {db : Db}
    {amount : Pence} (h : acceptManual orderId reference now db = .ok (some amount)) :
    ∃ order, db.orders.get? orderId = some order ∧ order.status ≠ .expired := by
  simp only [acceptManual, bind_eq_ok, orThrow_eq_ok, ensure_eq_ok] at h
  obtain ⟨order, horder, -, -, h⟩ := h
  cases hfind : findByReference .manual reference db.payments with
  | some e =>
      rw [hfind] at h
      simp only [bind_eq_ok, ensure_eq_ok, pure_eq_ok] at h
      obtain ⟨-, -, h⟩ := h
      cases h
  | none =>
      rw [hfind] at h
      simp only [bind_eq_ok, ensure_eq_ok] at h
      obtain ⟨-, active, -⟩ := h
      exact ⟨order, horder, active⟩

/-- What an event reads is about the order as it is. -/
theorem decidePayPalEvent_ok (h : RaceInv s) (event : PayPalWebhookEvent) :
    (decidePayPalEvent event s.db).Ok s.db.payments fun o order =>
      order.isExpiredAt s.clock = true ∨ s.StillOpen o order := by
  rcases decidePayPalEvent_reads event s.db with ⟨error, handled, hdecide⟩ |
    ⟨p, payment, order, hp, provider, found, ⟨captureId, hdecide⟩ | ⟨-, status, open_, hdecide⟩⟩
  · rw [hdecide]
    trivial
  · rw [hdecide]
    refine ⟨⟨payment, hp, provider, rfl⟩, ?_⟩
    by_cases closing : s.Closing payment.orderId
    · refine Or.inl ?_
      rcases closing with expired | ⟨k, claimed⟩
      · simp only [orderStatus, found, Option.map_some, Option.some.injEq] at expired
        simp [Order.isExpiredAt, expired]
      · obtain ⟨order', found', elapsed⟩ := h.running k _ claimed
        obtain rfl := Option.some.inj (found.symm.trans found')
        simp [Order.isExpiredAt, elapsed]
    · exact Or.inr ⟨closing, order, found, fun _ => rfl⟩
  · rw [hdecide]
    exact ⟨⟨payment.orderId, payment, hp, provider, rfl⟩, open_⟩

/-- A statement that goes on reads the truth, and takes a lock only when it is
free; only the expiry's claims. -/
theorem Tx.statement_next (h : RaceInv s) {k : Nat} (hk : s.txs.get? k = some tx)
    (hst : tx.statement number s = .next tx') :
    (tx'.Ok s ∧ (∀ o, tx'.holds = some o → tx.holds = some o ∨ s.locked o = false) ∧
      ∀ o, tx' ≠ .expiryClaimed o) ∨
    ∃ o asOf order, tx = .expiryLocked o asOf ∧ s.db.orders.get? o = some order ∧
      order.isExpirable o asOf s.db ∧ tx' = .expiryClaimed o := by
  have ok := h.running k tx hk
  -- A transaction that takes the lock of `o` and goes on as `tx'`.
  have locks : ∀ {o : Nat}, s.locked o = false → tx'.holds = some o → ∀ o',
      tx'.holds = some o' → tx.holds = some o' ∨ s.locked o' = false := by
    intro o free holds o' holds'
    obtain rfl := Option.some.inj (holds.symm.trans holds')
    exact Or.inr free
  cases tx with
  | expiryBegun o asOf =>
      obtain ⟨free, rfl⟩ := RaceState.lock_eq_next.mp hst
      exact Or.inl ⟨ok, locks free rfl, fun _ => by simp⟩
  | expiryLocked o asOf =>
      simp only [Tx.statement] at hst
      split at hst
      · rename_i claimed
        cases hst
        obtain ⟨order, found, expirable⟩ := (Option.any_eq_true _ _).mp claimed
        exact Or.inr ⟨o, asOf, order, rfl, found, of_decide_eq_true expirable, rfl⟩
      · cases hst
  | manualBegun o reference =>
      obtain ⟨free, rfl⟩ := RaceState.lock_eq_next.mp hst
      exact Or.inl ⟨trivial, locks free rfl, fun _ => by simp⟩
  | manualLocked o reference =>
      simp only [Tx.statement] at hst
      split at hst
      · cases hst
      · cases hst
      · rename_i amount accepted
        cases hst
        obtain ⟨order, found, active⟩ := acceptManual_some accepted
        refine Or.inl ⟨?_, fun _ holds => Or.inl holds, fun _ => by simp⟩
        simp [Tx.Ok, orderStatus, found, active]
  | stripeBegun event =>
      have hst := RaceState.receive_next hst
      split at hst
      · cases hst
      · rename_i p payment hfind
        cases hst
        obtain ⟨hp, provider⟩ := findEventPayment_eq_some hfind
        exact Or.inl ⟨⟨ok, payment, hp, provider, rfl⟩, fun _ holds => (by cases holds),
          fun _ => by simp⟩
  | stripeCorrelated event p o =>
      obtain ⟨free, rfl⟩ := RaceState.lock_eq_next.mp hst
      exact Or.inl ⟨ok, locks free rfl, fun _ => by simp⟩
  | stripeLocked event p o =>
      simp only [Tx.statement] at hst
      split at hst
      · cases hst
      · rename_i payment order hfound
        split at hst
        · cases hst
        · cases hst
          obtain ⟨hp, found⟩ := findPaymentWithOrder_eq_some.mp hfound
          obtain ⟨named, row, hrow, provider, owner⟩ := ok
          obtain rfl := Option.some.inj (hp.symm.trans hrow)
          refine Or.inl ⟨⟨named, ⟨payment, hp, provider, rfl⟩, found⟩, fun o' holds => ?_,
            fun _ => by simp⟩
          exact Or.inl (owner ▸ holds)
  | recoveryBegun call intent =>
      obtain ⟨free, rfl⟩ := RaceState.lock_eq_next.mp hst
      exact Or.inl ⟨trivial, locks free rfl, fun _ => by simp⟩
  | recoveryLocked call intent =>
      simp only [Tx.statement] at hst
      split at hst
      · cases hst
      · rename_i payment order hfound
        split at hst
        · rename_i same
          split at hst
          · cases hst
            obtain ⟨hp, found⟩ := findPaymentWithOrder_eq_some.mp hfound
            have owner := same.2.1
            refine Or.inl ⟨⟨owner, ⟨payment, hp, same.2.2.1, owner⟩, owner ▸ found⟩,
              fun _ holds => Or.inl holds, fun _ => by simp⟩
          · cases hst
        · cases hst
  | captureBegun call captureId =>
      obtain ⟨free, rfl⟩ := RaceState.lock_eq_next.mp hst
      exact Or.inl ⟨ok, locks free rfl, fun _ => by simp⟩
  | captureLocked call captureId =>
      simp only [Tx.statement] at hst
      split at hst
      · rename_i order payment found hp
        split at hst
        · cases hst
        · cases hst
          exact Or.inl ⟨⟨ok, found⟩, fun _ holds => Or.inl holds, fun _ => by simp⟩
      · cases hst
  | captureRead call captureId order =>
      cases hst
      exact Or.inl ⟨ok, fun _ holds => Or.inl holds, fun _ => by simp⟩
  | eventBegun event =>
      cases RaceState.receive_next hst
      exact Or.inl ⟨decidePayPalEvent_ok h event, fun _ holds => (by cases holds),
        fun _ => by simp⟩
  | eventRead event decision =>
      cases hst
      refine Or.inl ⟨?_, fun _ holds => Or.inl holds, fun _ => by simp⟩
      simp only [Tx.Ok] at ok ⊢
      exact ok.imp (PaymentsKept.refl _) fun o order sees => sees.imp_right And.left
  | expiryClaimed _ | manualAccepted _ _ _ | stripeRead _ _ _ _ | recoveryRead _ _ _ _
  | captureTimed _ _ _ _ | eventTimed _ _ _ => cases hst

/-! ### What the statements commit -/

theorem Commits.receiptsOnly {holder : Option Nat} {events : Table PaymentWebhookEvent}
    (kept : ∀ k e, s.db.webhookEvents.get? k = some e → events.get? k = some e) :
    Commits s holder { s.db with webhookEvents := events } none where
  payments := PaymentsKept.refl _
  orders := fun _ => Or.inl rfl
  successes := fun _ payment hp success => Or.inl ⟨payment, hp, success, rfl, rfl⟩
  receipts := fun k e he error => ⟨e, kept k e he, rfl, Or.inl error⟩
  named := fun _ _ h => by cases h

/-- The receipts before an event are there after it. -/
theorem get?_processed_of_some {events : Table PaymentWebhookEvent}
    {receipt : PaymentWebhookEvent} {now : Time} {error : Option String} {k : Nat}
    {e : PaymentWebhookEvent} (he : events.get? k = some e) :
    ((events.insert receipt).update events.nextId (PaymentWebhookEvent.process now error)).get? k =
      some e := by
  rw [get?_processed, if_neg (Nat.ne_of_lt (Table.lt_nextId he)), he]

theorem closeStripeEvent_commits {event : StripePaymentIntentEvent} {error : Option String}
    {now : Time} {db' : Db} {holder : Option Nat}
    (h : closeStripeEvent event error now s.db = .ok db') : Commits s holder db' none := by
  simp only [closeStripeEvent, bind_eq_ok, createRow_eq_ok, pure_eq_ok] at h
  obtain ⟨_, ⟨-, rfl⟩, rfl⟩ := h
  exact Commits.receiptsOnly fun k e he => get?_processed_of_some he

/-- The write of one payment row. -/
theorem PaymentsKept.update {payments : Table Payment} {p : Nat} {payment : Payment}
    {f : Payment → Payment} (hp : payments.get? p = some payment)
    (owner : (f payment).orderId = payment.orderId)
    (provider : (f payment).provider = payment.provider) :
    PaymentsKept payments (payments.update p f) := by
  intro q row hq
  rw [Table.get?_update, hq]
  split
  · subst_vars
    obtain rfl := Option.some.inj (hp.symm.trans hq)
    exact ⟨_, rfl, owner, provider⟩
  · exact ⟨row, rfl, rfl, rfl⟩

/-- Evidence about a Stripe payment, applied under the lock of its order. -/
theorem Commits.stripe (h : RaceInv s) {k p : Nat} {payment : Payment} {order : Order}
    {outcome : StripePaymentOutcome} {now : Time} {applied : Db} {reconciliation : Option String}
    {events : Table PaymentWebhookEvent} {report : Option (Nat × SuccessReport)}
    (hk : s.txs.get? k = some tx) (holds : tx.holds = some payment.orderId)
    (unclaimed : ∀ o, tx ≠ .expiryClaimed o)
    (row : PaymentOf .stripe s.db.payments p payment.orderId)
    (found : s.db.orders.get? payment.orderId = some order)
    (applies : applyStripePaymentOutcome p payment order outcome now s.db =
      .ok (applied, reconciliation))
    (receipt : outcome.type = .succeeded → ∃ r k e, report = some (p, r) ∧
      events.get? k = some e ∧ (e.provider, e.providerEventId) = r.key p ∧
      e.processingError = reconciliation)
    (receipts : ∀ k e, s.db.webhookEvents.get? k = some e → e.processingError ≠ none →
      ∃ e', events.get? k = some e' ∧
        (e'.provider, e'.providerEventId) = (e.provider, e.providerEventId) ∧
        (e'.processingError ≠ none ∨ ∃ p i payment,
          (e.provider, e.providerEventId) = (.stripe, recoveryEventId p i) ∧
          s.db.payments.get? p = some payment ∧ ¬ s.Closing payment.orderId))
    (named : ∀ p id, report = some (p, .stripeEvent id) → NamedByStripe id) :
    Commits s tx.holds { applied with webhookEvents := events } report := by
  obtain ⟨rfl, payments, hrecord, hrest⟩ := applyStripePaymentOutcome_ok applies
  obtain ⟨current, hp, provider, owner⟩ := row
  have written : applied.payments = payments :=
    Except.ok.inj ((applyStripePaymentOutcome_payments applies).symm.trans hrecord)
  have kept : PaymentsKept s.db.payments payments := by
    rcases recordStripeOutcome_ok hrecord with ⟨-, rfl⟩ | ⟨-, read, hread, -, rfl⟩
    · exact PaymentsKept.refl _
    · obtain rfl := Option.some.inj (hp.symm.trans hread)
      exact PaymentsKept.update hp (current.stripeOutcome_orderId outcome now)
        (current.stripeOutcome_provider outcome now)
  refine ⟨?_, ?_, ?_, receipts, named⟩
  · exact written ▸ kept
  · intro o
    rcases hrest with ⟨-, -, hconfirm⟩ | ⟨-, rfl⟩
    · obtain ⟨order', stock, hget, pending, -, rfl⟩ := confirmOrderInTransaction_eq_ok.mp hconfirm
      by_cases about : o = payment.orderId
      · subst about
        have found' : s.db.orders.get? payment.orderId = some order' := hget
        have confirmed : (s.db.orders.update payment.orderId Order.confirm).get? payment.orderId =
            some order'.confirm := by simp [found']
        exact Or.inr ⟨holds, Or.inr ⟨order'.confirm, confirmed, rfl⟩⟩
      · exact Or.inl (Table.get?_update_of_ne _ _ about)
    · exact Or.inl rfl
  · intro q payment' hq success
    have hq : payments.get? q = some payment' := written ▸ hq
    rcases recordStripeOutcome_ok hrecord with ⟨-, rfl⟩ | ⟨-, read, hread, -, rfl⟩
    · exact Or.inl ⟨payment', hq, success, rfl, rfl⟩
    · rcases Table.update_cases hp hq with ⟨rfl, rfl⟩ | ⟨-, hq⟩
      · -- Only a success makes the row SUCCEEDED, and its order is seen as it is.
        refine Or.inr fun closing => ⟨by simp [provider], ?_⟩
        have succeeded : outcome.type = .succeeded :=
          current.stripeOutcome_succeeded outcome now success
        rw [Payment.stripeOutcome_orderId, owner] at closing
        have expired := h.closing_expired hk holds unclaimed closing
        simp only [orderStatus, found, Option.map_some, Option.some.injEq] at expired
        obtain ⟨r, j, e, hreport, hget, key, error⟩ := receipt succeeded
        refine ⟨r, j, e, hreport, hget, key, ?_⟩
        simp [error, lateCapture, succeeded, expired, OrderStatus.isLate]
      · exact Or.inl ⟨payment', hq, success, rfl, rfl⟩

/-- A capture or an event writes one PayPal row; on a closing order it reports
the success with an exception. -/
theorem Commits.paypal {holder : Option Nat} {p : Nat} {row : Payment} {f : Payment → Payment}
    {events : Table PaymentWebhookEvent} {report : Option (Nat × SuccessReport)}
    (hp : s.db.payments.get? p = some row) (provider : row.provider = .paypal)
    (same : (f row).orderId = row.orderId ∧ (f row).provider = row.provider)
    (receipt : (f row).status = .succeeded → s.Closing row.orderId → ∃ r k e,
      report = some (p, r) ∧ events.get? k = some e ∧
      (e.provider, e.providerEventId) = r.key p ∧ e.processingError ≠ none)
    (kept : ∀ k e, s.db.webhookEvents.get? k = some e → events.get? k = some e)
    (named : ∀ p id, report ≠ some (p, .stripeEvent id)) :
    Commits s holder
      { s.db with payments := s.db.payments.update p f, webhookEvents := events } report where
  payments := PaymentsKept.update hp same.1 same.2
  orders := fun _ => Or.inl rfl
  successes := by
    intro q payment' hq success
    rcases Table.update_cases hp hq with ⟨rfl, rfl⟩ | ⟨-, hq⟩
    · refine Or.inr fun closing => ⟨by rw [same.2, provider]; simp, ?_⟩
      exact receipt success (same.1 ▸ closing)
    · exact Or.inl ⟨payment', hq, success, rfl, rfl⟩
  receipts := fun k e he error => ⟨e, kept k e he, rfl, Or.inl error⟩
  named := fun p id h => absurd h (named p id)

theorem insertManual_commits (h : RaceInv s) {k o : Nat} {reference : ProviderReference}
    {amount : Pence} {now : Time} {db' : Db}
    (hk : s.txs.get? k = some (.manualAccepted o reference amount))
    (tx : insertManual o reference amount now s.db = .ok db') :
    Commits s (some o) db' none := by
  simp only [insertManual, bind_eq_ok, createRow_eq_ok, pure_eq_ok] at tx
  obtain ⟨_, ⟨-, rfl⟩, rfl⟩ := tx
  refine ⟨?_, fun _ => Or.inl rfl, ?_, fun k e he error => ⟨e, he, rfl, Or.inl error⟩,
    fun _ _ h => by cases h⟩
  · exact fun p payment hp => ⟨payment, Table.get?_insert_of_some hp, rfl, rfl⟩
  · intro p payment' hp success
    rcases Table.insert_cases hp with ⟨-, rfl⟩ | hp
    · -- The order is not expired, and nobody else can have claimed it.
      refine Or.inr fun closing => ?_
      have expired := h.closing_expired hk rfl (fun _ => by simp) closing
      exact absurd expired (h.running k _ hk)
    · exact Or.inl ⟨payment', hp, success, rfl, rfl⟩

theorem finishExpiry_commits {k o : Nat} {db' : Db} (hk : s.txs.get? k = some (.expiryClaimed o))
    (tx : finishExpiry o s.db = .ok db') : Commits s (some o) db' none := by
  simp only [finishExpiry, bind_eq_ok, pure_eq_ok] at tx
  obtain ⟨listings, -, rfl⟩ := tx
  refine ⟨PaymentsKept.refl _, fun o' => ?_,
    fun _ payment hp success => Or.inl ⟨payment, hp, success, rfl, rfl⟩,
    fun k e he error => ⟨e, he, rfl, Or.inl error⟩, fun _ _ h => by cases h⟩
  by_cases about : o' = o
  · exact Or.inr ⟨by rw [about], Or.inl (about ▸ Or.inr ⟨k, hk⟩)⟩
  · exact Or.inl (Table.get?_update_of_ne _ _ about)

theorem applyStripeEvent_commits (h : RaceInv s) {k p : Nat} {event : StripePaymentIntentEvent}
    {payment : Payment} {order : Order} {now : Time} {db' : Db}
    (hk : s.txs.get? k = some (.stripeRead event p payment order))
    (tx : applyStripeEvent event p payment order now s.db = .ok db') :
    Commits s (some payment.orderId) db'
      (if event.type = .succeeded then some (p, .stripeEvent event.id) else none) := by
  obtain ⟨named, row, found⟩ := h.running k _ hk
  simp only [applyStripeEvent, bind_eq_ok, createRow_eq_ok, pure_eq_ok] at tx
  obtain ⟨_, ⟨-, rfl⟩, ⟨applied, reconciliation⟩, applies, rfl⟩ := tx
  refine Commits.stripe h hk rfl (fun _ => by simp) row found applies (fun succeeded => ?_)
    (fun k e he error => ⟨e, get?_processed_of_some he, rfl, Or.inl error⟩) (fun q id hreport => ?_)
  · exact ⟨.stripeEvent event.id, s.db.webhookEvents.nextId,
      (newReceipt .stripe event.id event.type.name).process now reconciliation, if_pos succeeded,
      (get?_processed _).trans (if_pos rfl), rfl, rfl⟩
  · split at hreport
    · cases hreport
      exact named
    · cases hreport

theorem applyRecovery_commits (h : RaceInv s) {k : Nat} {call : StripeRecoveryCall}
    {intent : StripePaymentIntent} {payment : Payment} {order : Order} {now : Time} {db' : Db}
    (hk : s.txs.get? k = some (.recoveryRead call intent payment order))
    (tx : applyRecovery call intent payment order now s.db = .ok db') :
    Commits s (some call.orderId) db' (some (call.paymentId, .recovery intent.id)) := by
  obtain ⟨owner, row, found⟩ := h.running k _ hk
  simp only [applyRecovery, bind_eq_ok, pure_eq_ok] at tx
  obtain ⟨⟨applied, reconciliation⟩, applies, rfl⟩ := tx
  have receipts := applyStripePaymentOutcome_receipts applies
  obtain ⟨rfl, -⟩ := applyStripePaymentOutcome_ok applies
  refine Commits.stripe h hk (congrArg some owner.symm) (fun _ => by simp) (owner.symm ▸ row)
    (owner.symm ▸ found) applies (fun _ => ?_) (fun j e he error => ?_) (fun q id hreport => ?_)
  · obtain ⟨j, e, hget, provider, id, error⟩ := upsertRecovery_receipt
      (recoveryEventId call.paymentId intent.id) now (lateCapture order intent.outcome)
      applied.webhookEvents
    exact ⟨.recovery intent.id, j, e, rfl, hget, Prod.ext provider id, error⟩
  · obtain ⟨e', hget, same, rfl | ⟨key, rewritten⟩⟩ := upsertRecovery_kept (receipts ▸ he)
    · exact ⟨e', hget, rfl, Or.inl error⟩
    · refine ⟨e', hget, same, ?_⟩
      by_cases closing : s.Closing call.orderId
      · have expired := h.closing_expired hk rfl (fun _ => by simp) closing
        simp only [orderStatus, found, Option.map_some, Option.some.injEq] at expired
        refine Or.inl ?_
        simp [rewritten, lateCapture, StripePaymentIntent.outcome, expired, OrderStatus.isLate]
      · obtain ⟨read, hread, -, about⟩ := row
        exact Or.inr ⟨call.paymentId, intent.id, read, key, hread, about.symm ▸ closing⟩
  · cases hreport

theorem writeCapture_commits (h : RaceInv s) {k : Nat} {call : PayPalCaptureCall}
    {captureId : String} {order : Order} {now : Time} {db' : Db}
    (hk : s.txs.get? k = some (.captureTimed call captureId order now))
    (tx : writeCapture call captureId order now s.db = .ok db') :
    Commits s (some call.orderId) db' (some (call.paymentId, .capture captureId)) := by
  obtain ⟨⟨row, hp, provider, owner⟩, found⟩ := h.running k _ hk
  obtain ⟨payment, events, hpayment, -, late, rfl⟩ := writeCapture_eq_ok.mp tx
  obtain rfl := Option.some.inj (hp.symm.trans hpayment)
  refine Commits.paypal hp provider ⟨rfl, rfl⟩ (fun _ closing => ?_) (fun j e he => ?_)
    fun _ _ => by simp
  · rw [owner] at closing
    have expired := h.closing_expired hk rfl (fun _ => by simp) closing
    simp only [orderStatus, found, Option.map_some, Option.some.injEq] at expired
    have tooLate : order.isExpiredAt now = true := by simp [Order.isExpiredAt, expired]
    simp only [recordLateCapture, tooLate, if_true, createRow_eq_ok] at late
    obtain ⟨-, rfl⟩ := late
    exact ⟨.capture captureId, _, _, rfl, Table.get?_insert_self .., rfl,
      by simp [PaymentWebhookEvent.process]⟩
  · unfold recordLateCapture at late
    split at late
    · obtain ⟨-, rfl⟩ := createRow_eq_ok.mp late
      exact Table.get?_insert_of_some he
    · obtain rfl := Except.ok.inj late
      exact he

theorem writePayPalEvent_commits (h : RaceInv s) {k : Nat} {event : PayPalWebhookEvent}
    {decision : PayPalDecision} {now : Time} {db' : Db} {result : WebhookResult}
    (hk : s.txs.get? k = some (.eventTimed event decision now))
    (tx : writePayPalEvent event decision now s.db = .ok (db', result)) :
    Commits s none db' (decision.success event.id) := by
  have ok := h.running k _ hk
  simp only [Tx.Ok] at ok
  obtain ⟨-, writes⟩ := writePayPalEvent_isOk.mp ⟨result, tx⟩
  cases decision with
  | receipt error handled =>
      obtain rfl : db' = _ := writes
      exact Commits.receiptsOnly fun j e he => get?_processed_of_some he
  | succeed p payment order captureId =>
      obtain ⟨⟨row, hp, provider, owner⟩, sees⟩ := ok
      obtain ⟨current, hcurrent, -, rfl⟩ := writes
      obtain rfl := Option.some.inj (hp.symm.trans hcurrent)
      refine Commits.paypal hp provider ⟨rfl, rfl⟩ (fun _ closing => ?_)
        (fun j e he => get?_processed_of_some he) fun _ _ => by simp [PayPalDecision.success]
      rw [owner] at closing
      have tooLate : order.isExpiredAt now = true := sees.resolve_right (not_not_intro closing)
      refine ⟨.paypalEvent event.id, s.db.webhookEvents.nextId,
        (newReceipt .paypal event.id event.eventType).process now (some expiredCapture), rfl, ?_, rfl,
        by simp [PaymentWebhookEvent.process]⟩
      rw [tooLate]
      exact (get?_processed _).trans (if_pos rfl)
  | mark p status =>
      obtain ⟨⟨o, row, hp, provider, -⟩, unsuccessful⟩ := ok
      obtain ⟨current, hcurrent, -, rfl⟩ := writes
      obtain rfl := Option.some.inj (hp.symm.trans hcurrent)
      exact Commits.paypal hp provider ⟨rfl, rfl⟩ (fun success => absurd success unsuccessful)
        (fun j e he => get?_processed_of_some he) fun _ _ => by simp [PayPalDecision.success]

/-- A transaction that commits keeps its word under the lock it holds. -/
theorem Tx.statement_commits (h : RaceInv s) {k : Nat} (hk : s.txs.get? k = some tx) {db' : Db}
    {report : Option (Nat × SuccessReport)}
    (hst : tx.statement number s = .ends (.ok db') report) : Commits s tx.holds db' report := by
  cases tx with
  | expiryBegun o asOf => exact absurd hst RaceState.lock_ne_ends
  | manualBegun o reference => exact absurd hst RaceState.lock_ne_ends
  | stripeCorrelated event p o => exact absurd hst RaceState.lock_ne_ends
  | recoveryBegun call intent => exact absurd hst RaceState.lock_ne_ends
  | captureBegun call captureId => exact absurd hst RaceState.lock_ne_ends
  | captureRead call captureId order => cases hst
  | eventRead event decision => cases hst
  | expiryLocked o asOf =>
      simp only [Tx.statement] at hst
      split at hst
      · cases hst
      · cases hst
        exact Commits.same s _
  | expiryClaimed o =>
      simp only [Tx.statement, Statement.ends.injEq] at hst
      obtain ⟨finished, rfl⟩ := hst
      exact finishExpiry_commits hk finished
  | manualLocked o reference =>
      simp only [Tx.statement] at hst
      split at hst
      · cases hst
      · cases hst
        exact Commits.same s _
      · cases hst
  | manualAccepted o reference amount =>
      simp only [Tx.statement, Statement.ends.injEq] at hst
      obtain ⟨inserted, rfl⟩ := hst
      exact insertManual_commits h hk inserted
  | stripeBegun event =>
      have hst := RaceState.receive_commits hst
      split at hst
      · simp only [Statement.ends.injEq] at hst
        obtain ⟨closed, rfl⟩ := hst
        exact closeStripeEvent_commits closed
      · cases hst
  | stripeLocked event p o =>
      simp only [Tx.statement] at hst
      split at hst
      · simp only [Statement.ends.injEq] at hst
        obtain ⟨closed, rfl⟩ := hst
        exact closeStripeEvent_commits closed
      · split at hst
        · simp only [Statement.ends.injEq] at hst
          obtain ⟨closed, rfl⟩ := hst
          exact closeStripeEvent_commits closed
        · cases hst
  | stripeRead event p payment order =>
      simp only [Tx.statement, Statement.ends.injEq] at hst
      obtain ⟨applied, rfl⟩ := hst
      exact applyStripeEvent_commits h hk applied
  | recoveryLocked call intent =>
      simp only [Tx.statement] at hst
      split at hst
      · cases hst
      · split at hst
        · split at hst
          · cases hst
          · cases hst
            exact Commits.same s _
        · cases hst
  | recoveryRead call intent payment order =>
      simp only [Tx.statement, Statement.ends.injEq] at hst
      obtain ⟨applied, rfl⟩ := hst
      exact applyRecovery_commits h hk applied
  | captureLocked call captureId =>
      simp only [Tx.statement] at hst
      split at hst
      · split at hst
        · cases hst
          exact Commits.same s _
        · cases hst
      · cases hst
  | captureTimed call captureId order now =>
      simp only [Tx.statement, Statement.ends.injEq] at hst
      obtain ⟨written, rfl⟩ := hst
      exact writeCapture_commits h hk written
  | eventBegun event => cases RaceState.receive_commits hst
  | eventTimed event decision now =>
      simp only [Tx.statement, Statement.ends.injEq] at hst
      obtain ⟨written, rfl⟩ := hst
      cases hwrite : writePayPalEvent event decision now s.db with
      | error e => rw [hwrite] at written; cases written
      | ok r =>
          obtain ⟨db₁, result⟩ := r
          rw [hwrite] at written
          cases written
          exact writePayPalEvent_commits h hk hwrite

end Statements

end ColorfulLife
