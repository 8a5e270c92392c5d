/-
PayPal's payment row under races.

The machine of this file is finer than the checkout machine: the final
transaction of a capture and the transaction of an event are cut between their
read of the payment and their write to it, since that read takes no lock. The
capture's transaction holds the order's row lock in between, an event's holds
its receipt. A write and its commit are one action.

`paid_for_good_iff` says in which runs a payment that has succeeded stays so.
-/

import ColorfulLife.Checkout.Effects

namespace ColorfulLife

open Relational

/-! ### The machine -/

/-- A capture that has read the payment as not succeeded. -/
structure PendingCapture where
  call : PayPalCaptureCall
  captureId : String
  order : Order

structure PayPalState where
  db : Db
  orderCalls : Table PayPalOrderCall
  captureCalls : Table PayPalCaptureCall
  captureWrites : Table PendingCapture
  eventWrites : Table PendingEvent

inductive PayPalOp where
  | startOrder (orderId userId : Nat) (now : Time)
  | finishOrder (callId : Nat) (createdId : Option ProviderReference)
  | startCapture (orderId userId : Nat) (now : Time)
  | readCapture (callId : Nat) (response : Option PayPalCaptureResponse)
  | writeCapture (pendingId : Nat) (now : Time)
  | readEvent (event : PayPalWebhookEvent)
  | writeEvent (pendingId : Nat) (now : Time)

namespace PayPalState

/-- A capture's final transaction holds the order's row lock. -/
def locked (s : PayPalState) (orderId : Nat) : Bool :=
  (s.captureWrites.find? fun _ pending => decide (pending.call.orderId = orderId)).isSome

/-- The receipt of the event is written and not committed. -/
def receiving (s : PayPalState) (eventId : String) : Bool :=
  (s.eventWrites.find? fun _ pending => decide (pending.event.id = eventId)).isSome

/-- The capture's answer is checked, and the order and the payment are read. -/
def readCapture (s : PayPalState) (call : PayPalCaptureCall)
    (response : Option PayPalCaptureResponse) : Option PendingCapture := do
  let captureId ← (acceptCapture call response).toOption
  let order ← s.db.orders.get? call.orderId
  let payment ← s.db.payments.get? call.paymentId
  if payment.status = .succeeded then none else some ⟨call, captureId, order⟩

end PayPalState

/-- An action that needs a lock which is held is not enabled. -/
def paypalStep (s : PayPalState) : PayPalOp → PayPalState
  | .startOrder orderId userId now =>
      if s.locked orderId then s
      else match preparePayPalOrder orderId userId now s.db with
        | .error _ => s
        | .ok (db, call) =>
            if call.asksProvider then { s with db := db, orderCalls := s.orderCalls.insert call }
            else { s with db := db }
  | .finishOrder callId createdId =>
      match s.orderCalls.get? callId with
      | none => s
      | some call => { s with
          db := commit (finishPayPalOrder call createdId s.db) s.db
          orderCalls := s.orderCalls.erase callId }
  | .startCapture orderId userId now =>
      if s.locked orderId then s
      else match preparePayPalCapture orderId userId now s.db with
        | .error _ => s
        | .ok (db, call) => { s with db := db, captureCalls := s.captureCalls.insert call }
  | .readCapture callId response =>
      match s.captureCalls.get? callId with
      | none => s
      | some call =>
          if s.locked call.orderId then s
          else match s.readCapture call response with
            | none => { s with captureCalls := s.captureCalls.erase callId }
            | some pending => { s with
                captureCalls := s.captureCalls.erase callId
                captureWrites := s.captureWrites.insert pending }
  | .writeCapture pendingId now =>
      match s.captureWrites.get? pendingId with
      | none => s
      | some pending => { s with
          db := commit
            (ColorfulLife.writeCapture pending.call pending.captureId pending.order now s.db) s.db
          captureWrites := s.captureWrites.erase pendingId }
  | .readEvent event =>
      if s.receiving event.id then s
      else if s.db.webhookEvents.clashes PaymentWebhookEvent.clash s.db.webhookEvents.nextId
          (newReceipt .paypal event.id event.eventType) then s
      else { s with eventWrites := s.eventWrites.insert ⟨event, decidePayPalEvent event s.db⟩ }
  | .writeEvent pendingId now =>
      match s.eventWrites.get? pendingId with
      | none => s
      | some pending => { s with
          db := commitFst (writePayPalEvent pending.event pending.decision now s.db) s.db
          eventWrites := s.eventWrites.erase pendingId }

/-- Any shop with nobody waiting for PayPal. -/
structure QuietPayPal (s : PayPalState) : Prop where
  orderCalls : ∀ c, s.orderCalls.get? c = none
  captureCalls : ∀ c, s.captureCalls.get? c = none
  captureWrites : ∀ c, s.captureWrites.get? c = none
  eventWrites : ∀ c, s.eventWrites.get? c = none

/-! ### Against the transactions -/

/-- Read and written without another action in between, a capture is the final
transaction. -/
theorem finishPayPalCapture_cut (s : PayPalState) (call : PayPalCaptureCall)
    (response : Option PayPalCaptureResponse) (now : Time) :
    commit (finishPayPalCapture call response now s.db) s.db =
      match s.readCapture call response with
      | none => s.db
      | some pending => commit
          (writeCapture pending.call pending.captureId pending.order now s.db) s.db := by
  unfold finishPayPalCapture PayPalState.readCapture
  cases accepted : acceptCapture call response with
  | error e => rfl
  | ok captureId =>
      cases horder : s.db.orders.get? call.orderId with
      | none => rfl
      | some order =>
          cases hp : s.db.payments.get? call.paymentId with
          | none => rfl
          | some payment =>
              by_cases paid : payment.status = .succeeded <;>
                simp [paid, Except.toOption, orThrow, bind, Except.bind, pure, Except.pure]

/-- Read and written without another action in between, an event is its
transaction. -/
theorem paypalEventTransaction_cut (event : PayPalWebhookEvent) (now : Time) (db : Db) :
    paypalEventTransaction event now db =
      writePayPalEvent event (decidePayPalEvent event db) now db := rfl

/-! ### Paid rows -/

/-- SUCCEEDED, with a time. -/
def Payment.isPaid (payment : Payment) : Prop :=
  payment.status = .succeeded ∧ payment.paidAt ≠ none

/-- A paid row stays SUCCEEDED, with the same time. -/
def PaidForGood (payments payments' : Table Payment) : Prop :=
  ∀ p payment, payments.get? p = some payment → payment.isPaid →
    ∃ payment', payments'.get? p = some payment' ∧ payment'.status = .succeeded ∧
      payment'.paidAt = payment.paidAt

namespace PaidForGood

variable {payments payments' payments'' : Table Payment}

theorem refl (payments : Table Payment) : PaidForGood payments payments :=
  fun _ payment hp paid => ⟨payment, hp, paid.1, rfl⟩

theorem trans (h : PaidForGood payments payments') (h' : PaidForGood payments' payments'') :
    PaidForGood payments payments'' := by
  intro p payment hp paid
  obtain ⟨payment', hp', status, paidAt⟩ := h p payment hp paid
  obtain ⟨payment'', hp'', status', paidAt'⟩ := h' p payment' hp' ⟨status, paidAt ▸ paid.2⟩
  exact ⟨payment'', hp'', status', paidAt'.trans paidAt⟩

theorem insert (payment : Payment) : PaidForGood payments (payments.insert payment) :=
  fun _ payment' hp paid => ⟨payment', Table.get?_insert_of_some hp, paid.1, rfl⟩

/-- A write of one row concerns that row only. -/
theorem update_iff {k : Nat} {payment : Payment} {f : Payment → Payment}
    (hp : payments.get? k = some payment) : PaidForGood payments (payments.update k f) ↔
      (payment.isPaid → (f payment).status = .succeeded ∧ (f payment).paidAt = payment.paidAt) := by
  constructor
  · intro kept paid
    obtain ⟨payment', hp', status, paidAt⟩ := kept k payment hp paid
    rw [Table.get?_update_self, hp] at hp'
    obtain rfl := Option.some.inj hp'
    exact ⟨status, paidAt⟩
  · intro row p read hread paid
    rw [Table.get?_update, hread]
    split
    · subst_vars
      obtain rfl := Option.some.inj (hp.symm.trans hread)
      exact ⟨f payment, rfl, row paid⟩
    · exact ⟨read, rfl, paid.1, rfl⟩

end PaidForGood

/-! ### One action -/

/-- The write of an event spares a paid row: a mark finds none, and a completed
event only one whose time it has read. -/
def PayPalDecision.SparesPaid (db : Db) (now : Time) : PayPalDecision → Prop
  | .receipt _ _ => True
  | .succeed paymentId read _ captureId => ∀ payment, db.payments.get? paymentId = some payment →
      db.payments.clashes Payment.clash paymentId (read.completeCapture captureId now payment) =
        false →
      payment.isPaid → payment.paidAt = some (read.paidAt.getD now)
  | .mark paymentId status => ∀ payment, db.payments.get? paymentId = some payment →
      db.payments.clashes Payment.clash paymentId (payment.mark status) = false →
      ¬ payment.isPaid

/-- The write that an action is about to make spares a paid row: an initiation
finds none, and a capture only one paid at the same instant. -/
def PayPalOp.SparesPaid (s : PayPalState) : PayPalOp → Prop
  | .finishOrder callId createdId => ∀ call reference payment,
      s.orderCalls.get? callId = some call → createdId = some reference →
      s.db.payments.get? call.paymentId = some payment →
      s.db.payments.clashes Payment.clash call.paymentId (payment.resetPayPal reference) = false →
      ¬ payment.isPaid
  | .writeCapture pendingId now => ∀ pending payment events,
      s.captureWrites.get? pendingId = some pending →
      s.db.payments.get? pending.call.paymentId = some payment →
      s.db.payments.clashes Payment.clash pending.call.paymentId
        (payment.capture pending.captureId now) = false →
      recordLateCapture pending.order pending.captureId now s.db.webhookEvents = .ok events →
      payment.isPaid → payment.paidAt = some now
  | .writeEvent pendingId now => ∀ pending, s.eventWrites.get? pendingId = some pending →
      s.db.webhookEvents.clashes PaymentWebhookEvent.clash s.db.webhookEvents.nextId
        (newReceipt .paypal pending.event.id pending.event.eventType) = false →
      pending.decision.SparesPaid s.db now
  | _ => True

/-- No event is about to mark a payment SUCCEEDED without its time. -/
def MarksOpen (s : PayPalState) : Prop :=
  ∀ c pending paymentId status, s.eventWrites.get? c = some pending →
    pending.decision = .mark paymentId status → status ≠ .succeeded

section Step

variable {s : PayPalState}

theorem decidePayPalEvent_mark {event : PayPalWebhookEvent} {db : Db} {paymentId : Nat}
    {status : PaymentStatus} (h : decidePayPalEvent event db = .mark paymentId status) :
    status ≠ .succeeded := by
  rcases decidePayPalEvent_reads event db with ⟨error, handled, hdecide⟩ |
    ⟨id, payment, order, -, -, -, ⟨captureId, hdecide⟩ | ⟨-, status', open_, hdecide⟩⟩
  · rw [h] at hdecide
    cases hdecide
  · rw [h] at hdecide
    cases hdecide
  · rw [h] at hdecide
    cases hdecide
    exact open_

theorem MarksOpen.step (h : MarksOpen s) (op : PayPalOp) : MarksOpen (paypalStep s op) := by
  cases op with
  | readEvent event =>
      simp only [paypalStep]
      split
      · exact h
      · split
        · exact h
        · intro c pending paymentId status hc hmark
          rcases Table.insert_cases hc with ⟨-, rfl⟩ | old
          · exact decidePayPalEvent_mark hmark
          · exact h c pending paymentId status old hmark
  | writeEvent pendingId now =>
      simp only [paypalStep]
      split
      · exact h
      · intro c pending paymentId status hc hmark
        rw [Table.get?_erase] at hc
        split at hc
        · cases hc
        · exact h c pending paymentId status hc hmark
  | startOrder orderId userId now =>
      simp only [paypalStep]
      split
      · exact h
      · split
        · exact h
        · split <;> exact h
  | startCapture orderId userId now =>
      simp only [paypalStep]
      split
      · exact h
      · split <;> exact h
  | finishOrder callId createdId => 
      simp only [paypalStep]
      split <;> exact h
  | readCapture callId response =>
      simp only [paypalStep]
      split
      · exact h
      · split
        · exact h
        · split <;> exact h
  | writeCapture pendingId now =>
      simp only [paypalStep]
      split <;> exact h

/-- What the two preparing transactions write leaves paid rows alone. -/
theorem startOrder_paidForGood (orderId userId : Nat) (now : Time) :
    PaidForGood s.db.payments (paypalStep s (.startOrder orderId userId now)).db.payments := by
  simp only [paypalStep]
  split
  · exact PaidForGood.refl _
  · split
    · exact PaidForGood.refl _
    · rename_i db call tx
      have kept : PaidForGood s.db.payments db.payments := by
        obtain ⟨-, ⟨rfl, -⟩ | ⟨amount, -, -, rfl⟩⟩ := preparePayPalOrder_ok tx
        · exact PaidForGood.refl _
        · exact PaidForGood.insert _
      split <;> exact kept

theorem startCapture_paidForGood (orderId userId : Nat) (now : Time) :
    PaidForGood s.db.payments (paypalStep s (.startCapture orderId userId now)).db.payments := by
  simp only [paypalStep]
  split
  · exact PaidForGood.refl _
  · split
    · exact PaidForGood.refl _
    · rename_i db call tx
      obtain ⟨-, payment, hp, -, -, rfl | ⟨-, rfl⟩⟩ := preparePayPalCapture_ok tx
      · exact PaidForGood.refl _
      · exact (PaidForGood.update_iff hp).mpr fun paid => ⟨paid.1, rfl⟩

/-- A transaction leaves paid rows alone when what it commits does. -/
theorem commit_paidForGood_iff {db : Db} {tx : Result Db} :
    PaidForGood db.payments (commit tx db).payments ↔
      ∀ db', tx = .ok db' → PaidForGood db.payments db'.payments := by
  cases tx with
  | error e => exact iff_of_true (PaidForGood.refl _) fun db' h => by cases h
  | ok db' =>
      constructor
      · rintro kept _ ⟨⟩
        exact kept
      · exact fun kept => kept db' rfl

theorem finishOrder_paidForGood_iff (callId : Nat) (createdId : Option ProviderReference) :
    PaidForGood s.db.payments (paypalStep s (.finishOrder callId createdId)).db.payments ↔
      (PayPalOp.finishOrder callId createdId).SparesPaid s := by
  simp only [paypalStep, PayPalOp.SparesPaid]
  cases hcall : s.orderCalls.get? callId with
  | none => exact iff_of_true (PaidForGood.refl _) fun call _ _ h => by cases h
  | some call =>
      refine commit_paidForGood_iff.trans ?_
      simp only [finishPayPalOrder_eq_ok]
      constructor
      · rintro kept call' reference payment h hcreated hp free paid
        obtain rfl := Option.some.inj h
        have row := (PaidForGood.update_iff hp).mp
          (kept _ ⟨reference, payment, hcreated, hp, free, rfl⟩) paid
        cases row.1
      · rintro spares db' ⟨reference, payment, hcreated, hp, free, rfl⟩
        exact (PaidForGood.update_iff hp).mpr fun paid =>
          absurd paid (spares call reference payment rfl hcreated hp free)

theorem writeCapture_paidForGood_iff (pendingId : Nat) (now : Time) :
    PaidForGood s.db.payments (paypalStep s (.writeCapture pendingId now)).db.payments ↔
      (PayPalOp.writeCapture pendingId now).SparesPaid s := by
  simp only [paypalStep, PayPalOp.SparesPaid]
  cases hpending : s.captureWrites.get? pendingId with
  | none => exact iff_of_true (PaidForGood.refl _) fun pending _ _ h => by cases h
  | some pending =>
      refine commit_paidForGood_iff.trans ?_
      simp only [writeCapture_eq_ok]
      constructor
      · rintro kept pending' payment events h hp free late paid
        obtain rfl := Option.some.inj h
        exact ((PaidForGood.update_iff hp).mp
          (kept _ ⟨payment, events, hp, free, late, rfl⟩) paid).2.symm
      · rintro spares db' ⟨payment, events, hp, free, late, rfl⟩
        exact (PaidForGood.update_iff hp).mpr fun paid =>
          ⟨rfl, (spares pending payment events rfl hp free late paid).symm⟩

/-- What an event commits leaves paid rows alone exactly when its write spares
them. -/
theorem writes_paidForGood_iff {db : Db} {receipt : Nat} {now : Time} {decision : PayPalDecision}
    (open_ : ∀ paymentId status, decision = .mark paymentId status → status ≠ .succeeded)
    (events : Table PaymentWebhookEvent) :
    (∀ db', decision.Writes receipt now { db with webhookEvents := events } db' →
        PaidForGood db.payments db'.payments) ↔ decision.SparesPaid db now := by
  cases decision with
  | receipt error handled =>
      refine iff_of_true (fun db' writes => ?_) trivial
      obtain rfl : db' = _ := writes
      exact PaidForGood.refl _
  | succeed paymentId read order captureId =>
      constructor
      · intro kept payment hp free paid
        exact ((PaidForGood.update_iff hp).mp (kept _ ⟨payment, hp, free, rfl⟩) paid).2.symm
      · rintro spares db' ⟨payment, hp, free, rfl⟩
        exact (PaidForGood.update_iff hp).mpr fun paid => ⟨rfl, (spares payment hp free paid).symm⟩
  | mark paymentId status =>
      constructor
      · intro kept payment hp free paid
        have row := (PaidForGood.update_iff hp).mp (kept _ ⟨payment, hp, free, rfl⟩) paid
        exact open_ paymentId status rfl row.1
      · rintro spares db' ⟨payment, hp, free, rfl⟩
        exact (PaidForGood.update_iff hp).mpr fun paid => absurd paid (spares payment hp free)

theorem writeEvent_paidForGood_iff (h : MarksOpen s) (pendingId : Nat) (now : Time) :
    PaidForGood s.db.payments (paypalStep s (.writeEvent pendingId now)).db.payments ↔
      (PayPalOp.writeEvent pendingId now).SparesPaid s := by
  simp only [paypalStep, PayPalOp.SparesPaid]
  cases hpending : s.eventWrites.get? pendingId with
  | none => exact iff_of_true (PaidForGood.refl _) fun pending h => by cases h
  | some pending =>
      have open_ := fun paymentId status => h pendingId pending paymentId status hpending
      refine commit_paidForGood_iff.trans ?_
      simp only [Option.some.injEq, forall_eq', map_eq_ok]
      rw [← writes_paidForGood_iff open_ (s.db.webhookEvents.insert
        (newReceipt .paypal pending.event.id pending.event.eventType))]
      constructor
      · intro kept new db' writes
        obtain ⟨result, tx⟩ := writePayPalEvent_isOk.mpr ⟨new, writes⟩
        exact kept db' ⟨(db', result), tx, rfl⟩
      · rintro kept db' ⟨⟨_, result⟩, tx, rfl⟩
        obtain ⟨new, writes⟩ := writePayPalEvent_isOk.mp ⟨result, tx⟩
        exact kept new _ writes

/-- Every action leaves paid rows alone exactly when its write spares them. -/
theorem paypalStep_paidForGood_iff (h : MarksOpen s) (op : PayPalOp) :
    PaidForGood s.db.payments (paypalStep s op).db.payments ↔ op.SparesPaid s := by
  cases op with
  | startOrder orderId userId now =>
      exact iff_of_true (startOrder_paidForGood orderId userId now) trivial
  | finishOrder callId createdId => exact finishOrder_paidForGood_iff callId createdId
  | startCapture orderId userId now =>
      exact iff_of_true (startCapture_paidForGood orderId userId now) trivial
  | readCapture callId response =>
      refine iff_of_true ?_ trivial
      simp only [paypalStep]
      split
      · exact PaidForGood.refl _
      · split
        · exact PaidForGood.refl _
        · split <;> exact PaidForGood.refl _
  | writeCapture pendingId now => exact writeCapture_paidForGood_iff pendingId now
  | readEvent event =>
      refine iff_of_true ?_ trivial
      simp only [paypalStep]
      split
      · exact PaidForGood.refl _
      · split <;> exact PaidForGood.refl _
  | writeEvent pendingId now => exact writeEvent_paidForGood_iff h pendingId now

end Step

/-! ### Over runs -/

theorem QuietPayPal.marksOpen {s : PayPalState} (quiet : QuietPayPal s) : MarksOpen s :=
  fun c pending paymentId status hc => by simp [quiet.eventWrites c] at hc

/-- The sample shop with one pending order. -/
def samplePayPal : PayPalState where
  db := shopStep (fun _ => "") sampleShop sampleCreate
  orderCalls := .empty
  captureCalls := .empty
  captureWrites := .empty
  eventWrites := .empty

theorem samplePayPal_quiet : QuietPayPal samplePayPal where
  orderCalls := fun _ => rfl
  captureCalls := fun _ => rfl
  captureWrites := fun _ => rfl
  eventWrites := fun _ => rfl

/-- Two initiations are under way; the customer pays with the order of the
first. -/
def paidBetween : List PayPalOp :=
  [.startOrder 1 1 1, .startOrder 1 1 2, .finishOrder 1 (some samplePayPalOrder),
    .startCapture 1 1 3, .readCapture 1 (some sampleCaptured), .writeCapture 1 4]

/-- The final update of the second initiation makes the paid row pending. -/
theorem paidBetween_reset : QuietPayPal samplePayPal ∧
    ¬ PaidForGood (run paypalStep samplePayPal paidBetween).db.payments
      (run paypalStep samplePayPal
        (paidBetween ++ [.finishOrder 2 (some samplePayPalOrder)])).db.payments := by
  refine ⟨samplePayPal_quiet, fun kept => ?_⟩
  obtain ⟨payment', hp', status, -⟩ := kept 1 _ rfl ⟨rfl, Option.some_ne_none 4⟩
  obtain rfl := Option.some.inj hp'
  cases status

/-- Along a run a paid PayPal row stays as it is, from any state on, exactly when
every write of the run spares paid rows. -/
theorem paid_for_good_iff {s : PayPalState} (quiet : QuietPayPal s) (ops : List PayPalOp) :
    (∀ xs ys, xs ++ ys <+: ops → PaidForGood (run paypalStep s xs).db.payments
        (run paypalStep s (xs ++ ys)).db.payments) ↔
      ∀ t ∈ transitions paypalStep s ops, t.2.SparesPaid t.1 :=
  run_rel_iff (I := MarksOpen) (R := fun s s' => PaidForGood s.db.payments s'.db.payments)
    (C := fun s op => op.SparesPaid s) (fun s => PaidForGood.refl s.db.payments)
    (fun h h' => h.trans h') (fun _ op marks => marks.step op)
    (fun _ op marks => paypalStep_paidForGood_iff marks op) quiet.marksOpen ops

theorem paid_for_good_sample :
    (∀ xs ys, xs ++ ys <+: paidBetween → PaidForGood (run paypalStep samplePayPal xs).db.payments
        (run paypalStep samplePayPal (xs ++ ys)).db.payments) ↔
      ∀ t ∈ transitions paypalStep samplePayPal paidBetween, t.2.SparesPaid t.1 :=
  paid_for_good_iff samplePayPal_quiet paidBetween

end ColorfulLife
