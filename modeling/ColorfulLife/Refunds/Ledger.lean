/-
Refund accounting over all interleavings.

`RefundState` is the database with the refund calls and events that are under
way: an action is one transaction of one call, or one half of an event's, which
is cut between its reads and its writes, since the reads take no lock. Two
counters of a payment mirror its refund rows (`Balanced`), and every refund moves
its capacity once (`Accounts`). Neither the final transaction of a call nor the
writes of an event look at the stored status again, so this depends on the order
of steps: `refund_accounts_iff` says on which.
-/

import ColorfulLife.Refunds.Provider
import ColorfulLife.Relational.Run

namespace ColorfulLife

open Relational

/-! ### The machine -/

/-- An event whose receipt is created, with the refund it has read. -/
structure PendingRefundEvent where
  event : StripeRefundEvent
  read : Option (Nat × Refund)

structure RefundState where
  db : Db
  stripeCalls : Table RefundCall
  paypalCalls : Table RefundCall
  eventWrites : Table PendingRefundEvent
  /-- The refund of every committed move out of reserved capacity. -/
  settled : List Nat

inductive RefundOp where
  | startStripe (input : RefundInput) (uuid : String)
  | startPayPal (input : RefundInput) (uuid : String)
  | answerStripe (callId : Nat) (response : Option StripeRefundResponse)
  | answerPayPal (callId : Nat) (response : Option PayPalRefundResponse)
  | readRefundEvent (event : StripeRefundEvent)
  | writeRefundEvent (pendingId : Nat) (now : Time)

/-- The refund whose capacity a decision moves. -/
def RefundDecision.settledBy (refundId : Nat) : RefundDecision → List Nat
  | .settle _ _ => [refundId]
  | .remain _ => []

/-- The refund whose capacity an event moves: it has read it as processing. -/
def PendingRefundEvent.settles (pending : PendingRefundEvent) : List Nat :=
  match pending.read with
  | none => []
  | some (refundId, refund) =>
      if refund.status = .processing ∧ pending.event.status.finalizes.isSome then [refundId] else []

namespace RefundState

/-- The rest of a call once the provider has answered. -/
def finish (call : RefundCall) (decision : Result RefundDecision) (s : RefundState) :
    RefundState :=
  match decision with
  | .error _ => s
  | .ok d =>
      match d.apply call s.db with
      | .error _ => s
      | .ok db => { s with db := db, settled := s.settled ++ d.settledBy call.refundId }

/-- The calls after a preparing transaction: a succeeded refund is returned as
it is, without asking the provider. -/
def register (call : RefundCall) (calls : Table RefundCall) : Table RefundCall :=
  if call.refund.status = .succeeded then calls else calls.insert call

/-- The receipt of the event is written and not committed. -/
def receiving (s : RefundState) (eventId : String) : Bool :=
  (s.eventWrites.find? fun _ pending => decide (pending.event.id = eventId)).isSome

/-- The rest of an event once it has read. -/
def write (pending : PendingRefundEvent) (now : Time) (s : RefundState) : RefundState :=
  match writeRefundEvent pending.event pending.read now s.db with
  | .error _ => s
  | .ok (db, _) => { s with db := db, settled := s.settled ++ pending.settles }

end RefundState

/-- A redelivery finds the receipt of the first delivery: it waits for it while
it is uncommitted, and does nothing once it is. -/
def refundStep (number : String → Option Nat) (s : RefundState) : RefundOp → RefundState
  | .startStripe input uuid =>
      match stripeRefunds.prepare input uuid s.db with
      | .error _ => s
      | .ok (db, call) =>
          { s with db := db, stripeCalls := RefundState.register call s.stripeCalls }
  | .startPayPal input uuid =>
      match paypalRefunds.prepare input uuid s.db with
      | .error _ => s
      | .ok (db, call) =>
          { s with db := db, paypalCalls := RefundState.register call s.paypalCalls }
  | .answerStripe callId response =>
      match s.stripeCalls.get? callId with
      | none => s
      | some call => { s.finish call (stripeDecision call response) with
          stripeCalls := s.stripeCalls.erase callId }
  | .answerPayPal callId response =>
      match s.paypalCalls.get? callId with
      | none => s
      | some call => { s.finish call (paypalDecision call response) with
          paypalCalls := s.paypalCalls.erase callId }
  | .readRefundEvent event =>
      if s.receiving event.id then s
      else if s.db.webhookEvents.clashes PaymentWebhookEvent.clash s.db.webhookEvents.nextId
          (newReceipt .stripe event.id event.type) then s
      else { s with eventWrites := s.eventWrites.insert ⟨event, correlatedRefund number event s.db⟩ }
  | .writeRefundEvent pendingId now =>
      match s.eventWrites.get? pendingId with
      | none => s
      | some pending => { s.write pending now with
          eventWrites := s.eventWrites.erase pendingId }

/-- Read and written without another action in between, an event is its
transaction. -/
theorem reconcileStripeRefundEvent_cut (number : String → Option Nat) {s : RefundState}
    {event : StripeRefundEvent} (now : Time) (idle : s.receiving event.id = false) :
    (run (refundStep number) s
        [.readRefundEvent event, .writeRefundEvent s.eventWrites.nextId now]).db =
      commit ((reconcileStripeRefundEvent number event now s.db).map Prod.fst) s.db := by
  have absent : s.eventWrites.get? s.eventWrites.nextId = none := Table.get?_nextId _
  rw [run_cons, run_cons, run_nil, reconcileStripeRefundEvent, stripeRefundEventTransaction]
  by_cases receipted : s.db.webhookEvents.clashes PaymentWebhookEvent.clash
      s.db.webhookEvents.nextId (newReceipt .stripe event.id event.type) = true
  · have taken : createRow PaymentWebhookEvent.clash (newReceipt .stripe event.id event.type)
        s.db.webhookEvents = .error .uniqueViolation := by
      rw [createRow, receipted]
      rfl
    have refused : writeRefundEvent event (correlatedRefund number event s.db) now s.db =
        .error .uniqueViolation := by
      rw [writeRefundEvent, taken]
      rfl
    simp [refundStep, idle, receipted, absent, refused, Except.map]
  · simp only [refundStep, idle, receipted, Bool.false_eq_true, if_false, Table.get?_insert_self,
      RefundState.write]
    rcases writeRefundEvent event (correlatedRefund number event s.db) now s.db with e | ⟨db, result⟩
    · cases e <;> rfl
    · rfl

/-! ### The accounts -/

/-- What a refund contributes to the two counters of payment `p`. -/
def Refund.processingFor (p : Nat) (refund : Refund) : Pence :=
  if refund.paymentId = p ∧ refund.status = .processing then refund.amount else 0

def Refund.succeededFor (p : Nat) (refund : Refund) : Pence :=
  if refund.paymentId = p ∧ refund.status = .succeeded then refund.amount else 0

/-- The counters of every Stripe and PayPal payment are the sums of its refunds. -/
def Balanced (payments : Table Payment) (refunds : Table Refund) : Prop :=
  ∀ p payment, payments.get? p = some payment → payment.provider ≠ .manual →
    payment.reservedRefundAmount = refunds.sum (fun _ refund => refund.processingFor p) ∧
      payment.refundedAmount = refunds.sum fun _ refund => refund.succeededFor p

/-- The counters agree with the rows, and a refund's capacity was moved once if
it is settled and never if it is not. -/
structure RefundState.Accounts (s : RefundState) : Prop where
  balanced : Balanced s.db.payments s.db.refunds
  once : ∀ r refund, s.db.refunds.get? r = some refund →
    s.settled.count r = if refund.status = .processing then 0 else 1

section Balanced

variable {payments : Table Payment} {refunds : Table Refund} {p r : Nat} {payment : Payment}
  {refund : Refund}

theorem sum_processing_update (hr : refunds.get? r = some refund) (f : Refund → Refund) :
    (refunds.update r f).sum (fun _ refund => refund.processingFor p) =
      refunds.sum (fun _ refund => refund.processingFor p) - refund.processingFor p +
        (f refund).processingFor p :=
  Table.sum_update hr f _

theorem sum_succeeded_update (hr : refunds.get? r = some refund) (f : Refund → Refund) :
    (refunds.update r f).sum (fun _ refund => refund.succeededFor p) =
      refunds.sum (fun _ refund => refund.succeededFor p) - refund.succeededFor p +
        (f refund).succeededFor p :=
  Table.sum_update hr f _

/-- A new provider reference. -/
theorem Balanced.remember (h : Balanced payments refunds) (hr : refunds.get? r = some refund)
    (reference : ProviderReference) :
    Balanced payments (refunds.update r (Refund.refer reference)) := by
  intro p payment hp hprovider
  have processing : (refund.refer reference).processingFor p = refund.processingFor p := rfl
  have succeeded : (refund.refer reference).succeededFor p = refund.succeededFor p := rfl
  rw [sum_processing_update hr, sum_succeeded_update hr, processing, succeeded, sub_add_cancel,
    sub_add_cancel]
  exact h p payment hp hprovider

/-- A new refund with its amount reserved. -/
theorem Balanced.reserve (h : Balanced payments refunds) (hp : payments.get? p = some payment)
    (owner : refund.paymentId = p) (processing : refund.status = .processing) :
    Balanced (payments.update p (Payment.reserveRefund refund.amount)) (refunds.insert refund) := by
  intro p' payment' hp' hprovider
  rw [Table.sum_insert, Table.sum_insert]
  rw [Table.get?_update] at hp'
  split at hp'
  · subst_vars
    rw [hp] at hp'
    obtain rfl := Option.some.inj hp'
    obtain ⟨reserved, refunded⟩ := h _ payment hp hprovider
    simp [Refund.processingFor, Refund.succeededFor, processing, Payment.reserveRefund, reserved,
      refunded]
  · have other : refund.paymentId ≠ p' := fun heq => ‹¬ p' = p› (heq.symm.trans owner)
    simpa [Refund.processingFor, Refund.succeededFor, other] using h p' payment' hp' hprovider

/-- Settling a refund keeps the balance exactly when it was still processing. -/
theorem Balanced.settle_iff (h : Balanced payments refunds) (hp : payments.get? p = some payment)
    (hprovider : payment.provider ≠ .manual) (hr : refunds.get? r = some refund)
    (owner : refund.paymentId = p) (positive : 0 < refund.amount) (finalize : Bool)
    (reference : Option ProviderReference) :
    Balanced (payments.update p (Payment.moveReserved refund.amount finalize))
        (refunds.update r (Refund.settle finalize reference)) ↔
      refund.status = .processing := by
  obtain ⟨reserved, refunded⟩ := h p payment hp hprovider
  constructor
  · intro after
    by_contra settled
    have := (after p (payment.moveReserved refund.amount finalize) (by simp [hp]) hprovider).1
    rw [sum_processing_update hr, ← reserved] at this
    have unprocessed : ((refund.settle finalize reference).processingFor p) = 0 := by
      cases finalize <;> simp [Refund.processingFor, Refund.settle]
    have before : refund.processingFor p = 0 := by simp [Refund.processingFor, settled]
    rw [unprocessed, before, Payment.moveReserved] at this
    linarith
  · intro processing p' payment' hp' hprovider'
    rw [sum_processing_update hr, sum_succeeded_update hr]
    rw [Table.get?_update] at hp'
    split at hp'
    · subst_vars
      rw [hp] at hp'
      obtain rfl := Option.some.inj hp'
      cases finalize <;>
        simp [Refund.processingFor, Refund.succeededFor, Refund.settle, processing,
          Payment.moveReserved, reserved, refunded]
    · have other : refund.paymentId ≠ p' := fun heq => ‹¬ p' = p› (heq.symm.trans owner)
      simpa [Refund.processingFor, Refund.succeededFor, Refund.settle, other] using
        h p' payment' hp' hprovider'

end Balanced

/-! ### What one action does -/

/-- The effect of one committed transaction on payments, refunds and receipts;
the list is the refund whose capacity it moved. -/
inductive RefundEffect (db : Db) : List Nat → Db → Prop
  | keep {events : Table PaymentWebhookEvent} :
      RefundEffect db [] { db with webhookEvents := events }
  | remember {events : Table PaymentWebhookEvent} {r : Nat} {refund : Refund}
      {reference : ProviderReference} (found : db.refunds.get? r = some refund) :
      RefundEffect db [] { db with
        refunds := db.refunds.update r (Refund.refer reference)
        webhookEvents := events }
  | reserve {p : Nat} {payment : Payment} {refund : Refund}
      (paid : db.payments.get? p = some payment) (provider : payment.provider ≠ .manual)
      (owner : refund.paymentId = p) (processing : refund.status = .processing)
      (positive : 0 < refund.amount) :
      RefundEffect db [] { db with
        payments := db.payments.update p (Payment.reserveRefund refund.amount)
        refunds := db.refunds.insert refund }
  | settle {events : Table PaymentWebhookEvent} {p r : Nat} {refund : Refund} {finalize : Bool}
      {reference : Option ProviderReference} (found : db.refunds.get? r = some refund)
      (owner : refund.paymentId = p) :
      RefundEffect db [r] { db with
        payments := db.payments.update p (Payment.moveReserved refund.amount finalize)
        refunds := db.refunds.update r (Refund.settle finalize reference)
        webhookEvents := events }

/-- A call under way of either provider. -/
def RefundState.InFlight (s : RefundState) (call : RefundCall) : Prop :=
  (∃ c, s.stripeCalls.get? c = some call) ∨ ∃ c, s.paypalCalls.get? c = some call

/-- The call carries the stored refund's payment and amount. -/
def RefundCall.Stored (refunds : Table Refund) (call : RefundCall) : Prop :=
  ∃ refund, refunds.get? call.refundId = some refund ∧ refund.paymentId = call.paymentId ∧
    refund.amount = call.refund.amount

/-- An event under way has read a stored refund's payment and amount. -/
def PendingRefundEvent.Stored (refunds : Table Refund) (pending : PendingRefundEvent) : Prop :=
  ∀ refundId read, pending.read = some (refundId, read) →
    ∃ refund, refunds.get? refundId = some refund ∧ refund.paymentId = read.paymentId ∧
      refund.amount = read.amount

structure RefundInv (s : RefundState) : Prop where
  positive : ∀ r refund, s.db.refunds.get? r = some refund → 0 < refund.amount
  paid : ∀ r refund, s.db.refunds.get? r = some refund →
    ∃ payment, s.db.payments.get? refund.paymentId = some payment ∧ payment.provider ≠ .manual
  stored : ∀ call, s.InFlight call → call.Stored s.db.refunds
  reads : ∀ c pending, s.eventWrites.get? c = some pending → pending.Stored s.db.refunds
  known : ∀ r ∈ s.settled, (s.db.refunds.get? r).isSome

/-- Payment and amount of a refund never change. -/
def SameRefund (refund refund' : Refund) : Prop :=
  refund'.paymentId = refund.paymentId ∧ refund'.amount = refund.amount

namespace RefundEffect

variable {db db' : Db} {settled : List Nat}

/-- Old refunds stay with their payment and amount. -/
theorem refunds_kept (happened : RefundEffect db settled db') {r : Nat} {refund : Refund}
    (hr : db.refunds.get? r = some refund) :
    ∃ refund', db'.refunds.get? r = some refund' ∧ SameRefund refund refund' := by
  have updated : ∀ (k : Nat) (f : Refund → Refund), SameRefund refund (f refund) →
      ∃ refund', (db.refunds.update k f).get? r = some refund' ∧ SameRefund refund refund' := by
    intro k f same
    rw [Table.get?_update, hr]
    split
    · exact ⟨_, rfl, same⟩
    · exact ⟨_, rfl, rfl, rfl⟩
  cases happened with
  | keep => exact ⟨refund, hr, rfl, rfl⟩
  | remember found => exact updated _ _ ⟨rfl, rfl⟩
  | reserve paid provider owner processing positive =>
      exact ⟨refund, Table.get?_insert_of_some hr, rfl, rfl⟩
  | settle found owner => exact updated _ _ ⟨rfl, rfl⟩

/-- A refund after the effect is an old one or has just been reserved. -/
theorem refunds_new (happened : RefundEffect db settled db') {r : Nat} {refund' : Refund}
    (hr : db'.refunds.get? r = some refund') :
    (∃ refund, db.refunds.get? r = some refund ∧ SameRefund refund refund') ∨
      (0 < refund'.amount ∧ ∃ payment, db.payments.get? refund'.paymentId = some payment ∧
        payment.provider ≠ .manual) := by
  have updated : ∀ (k : Nat) (f : Refund → Refund),
      (db.refunds.update k f).get? r = some refund' → (∀ x, SameRefund x (f x)) →
      ∃ refund, db.refunds.get? r = some refund ∧ SameRefund refund refund' := by
    intro k f hr same
    rw [Table.get?_update] at hr
    split at hr
    · obtain ⟨refund, hrefund, rfl⟩ := Option.map_eq_some_iff.mp hr
      exact ⟨refund, hrefund, same refund⟩
    · exact ⟨refund', hr, rfl, rfl⟩
  cases happened with
  | keep => exact Or.inl ⟨refund', hr, rfl, rfl⟩
  | remember found => exact Or.inl (updated _ _ hr fun _ => ⟨rfl, rfl⟩)
  | reserve paid provider owner processing positive =>
      rcases Table.insert_cases hr with ⟨-, rfl⟩ | hr
      · exact Or.inr ⟨positive, _, owner ▸ paid, provider⟩
      · exact Or.inl ⟨refund', hr, rfl, rfl⟩
  | settle found owner => exact Or.inl (updated _ _ hr fun _ => ⟨rfl, rfl⟩)

/-- The provider of a payment never changes. -/
theorem payments_kept (happened : RefundEffect db settled db') {p : Nat} {payment : Payment}
    (hp : db.payments.get? p = some payment) :
    ∃ payment', db'.payments.get? p = some payment' ∧ payment'.provider = payment.provider := by
  have updated : ∀ (k : Nat) (f : Payment → Payment), (∀ x, (f x).provider = x.provider) →
      ∃ payment', (db.payments.update k f).get? p = some payment' ∧
        payment'.provider = payment.provider := by
    intro k f same
    rw [Table.get?_update, hp]
    split
    · exact ⟨_, rfl, same payment⟩
    · exact ⟨_, rfl, rfl⟩
  cases happened with
  | keep => exact ⟨payment, hp, rfl⟩
  | remember found => exact ⟨payment, hp, rfl⟩
  | reserve paid provider owner processing positive => exact updated _ _ fun _ => rfl
  | settle found owner => exact updated _ _ fun _ => rfl

theorem settled_found (happened : RefundEffect db settled db') :
    ∀ r ∈ settled, (db.refunds.get? r).isSome := by
  cases happened with
  | settle found owner =>
      intro r hr
      rw [List.mem_singleton.mp hr, found]
      rfl
  | _ => simp

/-- The effect keeps the invariant when the calls and events after it are old or
stored. -/
theorem inv {s s' : RefundState} (h : RefundInv s) (happened : RefundEffect s.db settled s'.db)
    (history : s'.settled = s.settled ++ settled)
    (calls : ∀ call, s'.InFlight call → s.InFlight call ∨ call.Stored s'.db.refunds)
    (reads : ∀ c pending, s'.eventWrites.get? c = some pending →
      (∃ c, s.eventWrites.get? c = some pending) ∨ pending.Stored s'.db.refunds) :
    RefundInv s' where
  positive := by
    intro r refund' hr
    rcases happened.refunds_new hr with ⟨refund, hrefund, -, amount⟩ | ⟨positive, -⟩
    · exact amount ▸ h.positive r refund hrefund
    · exact positive
  paid := by
    intro r refund' hr
    have old : ∃ payment, s.db.payments.get? refund'.paymentId = some payment ∧
        payment.provider ≠ .manual := by
      rcases happened.refunds_new hr with ⟨refund, hrefund, owner, -⟩ | ⟨-, paid⟩
      · exact owner ▸ h.paid r refund hrefund
      · exact paid
    obtain ⟨payment, hp, provider⟩ := old
    obtain ⟨payment', hp', same⟩ := happened.payments_kept hp
    exact ⟨payment', hp', same ▸ provider⟩
  stored := by
    intro call hcall
    rcases calls call hcall with hold | hnew
    · obtain ⟨refund, hr, owner, amount⟩ := h.stored call hold
      obtain ⟨refund', hr', owner', amount'⟩ := happened.refunds_kept hr
      exact ⟨refund', hr', owner'.trans owner, amount'.trans amount⟩
    · exact hnew
  reads := by
    intro c pending hc
    rcases reads c pending hc with ⟨c', hold⟩ | hnew
    · intro refundId read hread
      obtain ⟨refund, hr, owner, amount⟩ := h.reads c' pending hold refundId read hread
      obtain ⟨refund', hr', owner', amount'⟩ := happened.refunds_kept hr
      exact ⟨refund', hr', owner'.trans owner, amount'.trans amount⟩
    · exact hnew
  known := by
    intro r hr
    rw [history] at hr
    have there : (s.db.refunds.get? r).isSome := by
      rcases List.mem_append.mp hr with hr | hr
      · exact h.known r hr
      · exact happened.settled_found r hr
    obtain ⟨refund, hrefund⟩ := Option.isSome_iff_exists.mp there
    obtain ⟨refund', hrefund', -⟩ := happened.refunds_kept hrefund
    rw [hrefund']
    rfl

/-- The accounts after a transaction agree exactly when the refund it settled
was still processing. -/
theorem accounts_iff {s s' : RefundState} (h : RefundInv s) (acc : s.Accounts)
    (happened : RefundEffect s.db settled s'.db) (history : s'.settled = s.settled ++ settled) :
    s'.Accounts ↔ ∀ r ∈ settled, ∀ refund, s.db.refunds.get? r = some refund →
      refund.status = .processing := by
  have unsettled : settled = [] → Balanced s'.db.payments s'.db.refunds →
      (∀ r refund', s'.db.refunds.get? r = some refund' →
        (∃ refund, s.db.refunds.get? r = some refund ∧ refund.status = refund'.status) ∨
          (s.db.refunds.get? r = none ∧ refund'.status = .processing)) →
      (s'.Accounts ↔ ∀ r ∈ settled, ∀ refund, s.db.refunds.get? r = some refund →
        refund.status = .processing) := by
    rintro rfl balanced status
    refine iff_of_true ⟨balanced, fun r refund' hr => ?_⟩ (by simp)
    rw [history, List.append_nil]
    rcases status r refund' hr with ⟨refund, hrefund, same⟩ | ⟨absent, processing⟩
    · rw [acc.once r refund hrefund, same]
    · rw [if_pos processing, List.count_eq_zero]
      intro mem
      have := h.known r mem
      rw [absent] at this
      cases this
  generalize hdb : s'.db = db' at happened unsettled
  cases happened with
  | keep =>
      refine unsettled rfl acc.balanced fun r refund' hr => Or.inl ⟨refund', hr, rfl⟩
  | @remember events k refund reference found =>
      refine unsettled rfl (acc.balanced.remember found reference) fun r refund' hr => Or.inl ?_
      rw [Table.get?_update] at hr
      split at hr
      · obtain ⟨old, hold, rfl⟩ := Option.map_eq_some_iff.mp hr
        exact ⟨old, hold, rfl⟩
      · exact ⟨refund', hr, rfl⟩
  | @reserve p payment refund paid provider owner processing positive =>
      refine unsettled rfl (acc.balanced.reserve paid owner processing) fun r refund' hr => ?_
      rcases Table.insert_cases hr with ⟨rfl, rfl⟩ | hr
      · exact Or.inr ⟨Table.get?_nextId _, processing⟩
      · exact Or.inl ⟨refund', hr, rfl⟩
  | @settle events p k refund finalize reference found owner =>
      obtain ⟨payment, hp, provider⟩ := h.paid k refund found
      have iff := acc.balanced.settle_iff (owner ▸ hp) provider found owner
        (h.positive k refund found) finalize reference
      constructor
      · intro after r hr refund' hrefund'
        obtain rfl := List.mem_singleton.mp hr
        obtain rfl := Option.some.inj (found.symm.trans hrefund')
        have balanced := after.balanced
        rw [hdb] at balanced
        exact iff.mp balanced
      · intro all
        have processing := all k (List.mem_singleton_self k) refund found
        refine ⟨?_, fun r refund' hr => ?_⟩
        · rw [hdb]
          exact iff.mpr processing
        rw [hdb] at hr
        simp only at hr
        rw [history, List.count_append]
        rw [Table.get?_update] at hr
        split at hr
        · subst_vars
          rw [found] at hr
          obtain rfl := Option.some.inj hr
          rw [acc.once _ _ found, if_pos processing]
          cases finalize <;> simp [Refund.settle]
        · rw [acc.once r refund' hr, List.count_singleton]
          simp [Ne.symm ‹¬ r = k›]

theorem refl (db : Db) : RefundEffect db [] db := @keep db db.webhookEvents

end RefundEffect

/-! ### The actions -/

/-- A transaction that is about to move the capacity of a refund finds it still
processing, or it is refused: the payment has less reserved than the refund's
amount, or the provider's reference belongs to another refund. -/
def FindsProcessing (db : Db) (paymentId refundId : Nat) (amount : Pence) (finalize : Bool)
    (reference : Option ProviderReference) : Prop :=
  ∀ refund payment, db.refunds.get? refundId = some refund →
    db.payments.get? paymentId = some payment →
    refund.status = .processing ∨ payment.reservedRefundAmount < amount ∨
      db.refunds.clashes Refund.clash refundId (refund.settle finalize reference) = true

/-- The condition on the rest of a call: it concerns the answers that end a refund. -/
def SettlesProcessing (db : Db) (call : RefundCall) (decision : Result RefundDecision) : Prop :=
  ∀ finalize reference, decision = .ok (.settle finalize reference) →
    FindsProcessing db call.paymentId call.refundId call.refund.amount finalize reference

/-- The condition on the writes of an event: it concerns a first delivery that has
read its refund as processing and ends it. -/
def PendingRefundEvent.SettlesProcessing (db : Db) (pending : PendingRefundEvent) : Prop :=
  ∀ refundId read finalize, pending.read = some (refundId, read) → read.status = .processing →
    pending.event.status.finalizes = some finalize →
    db.webhookEvents.clashes PaymentWebhookEvent.clash db.webhookEvents.nextId
      (newReceipt .stripe pending.event.id pending.event.type) = false →
    FindsProcessing db read.paymentId refundId read.amount finalize (some pending.event.refundId)

/-- The condition on one action. -/
def RefundOp.SettlesProcessing (s : RefundState) : RefundOp → Prop
  | .answerStripe callId response => ∀ call, s.stripeCalls.get? callId = some call →
      ColorfulLife.SettlesProcessing s.db call (stripeDecision call response)
  | .answerPayPal callId response => ∀ call, s.paypalCalls.get? callId = some call →
      ColorfulLife.SettlesProcessing s.db call (paypalDecision call response)
  | .writeRefundEvent pendingId _ => ∀ pending, s.eventWrites.get? pendingId = some pending →
      pending.SettlesProcessing s.db
  | _ => True

section Actions

variable {s : RefundState}

theorem finish_calls (call : RefundCall) (decision : Result RefundDecision) :
    (s.finish call decision).stripeCalls = s.stripeCalls ∧
      (s.finish call decision).paypalCalls = s.paypalCalls ∧
      (s.finish call decision).eventWrites = s.eventWrites := by
  cases decision with
  | error e => exact ⟨rfl, rfl, rfl⟩
  | ok d => cases tx : d.apply call s.db <;> simp [RefundState.finish, tx]

theorem write_calls (pending : PendingRefundEvent) (now : Time) :
    (s.write pending now).stripeCalls = s.stripeCalls ∧
      (s.write pending now).paypalCalls = s.paypalCalls := by
  unfold RefundState.write
  split <;> exact ⟨rfl, rfl⟩

/-- A preparing transaction settles nothing and leaves a stored call. -/
theorem prepare_effect {service : RefundService} (provider : service.provider ≠ .manual)
    {input : RefundInput} {uuid : String} {db' : Db} {call : RefundCall}
    (tx : service.prepare input uuid s.db = .ok (db', call)) :
    RefundEffect s.db [] db' ∧ call.Stored db'.refunds := by
  obtain ⟨payment, hp, hprovider, hpaymentId, ⟨rfl, hstored, howner⟩ |
    ⟨requested, positive, hid, hrefund, rfl⟩⟩ := RefundService.prepare_ok tx
  · exact ⟨RefundEffect.refl _, call.refund, hstored, howner.trans hpaymentId.symm, rfl⟩
  · have amount : call.refund.amount = requested := by rw [hrefund]; rfl
    have owner : call.refund.paymentId = input.paymentId := by rw [hrefund]; rfl
    refine ⟨?_, call.refund, ?_, owner.trans hpaymentId.symm, rfl⟩
    · rw [← amount] at positive ⊢
      exact RefundEffect.reserve hp (hprovider ▸ provider) owner (by rw [hrefund]; rfl) positive
    · rw [hid]
      exact Table.get?_insert_self ..

section Settling

variable {db db' : Db} {refundId : Nat} {amount : Pence} {refund : Refund}

/-- Where a final transaction commits, it finds its refund processing. -/
theorem findsProcessing_iff (paymentId : Nat) (finalize : Bool)
    (reference : Option ProviderReference) (positive : 0 < refund.amount)
    (found : db.refunds.get? refundId = some refund) (same : refund.amount = amount) :
    FindsProcessing db paymentId refundId amount finalize reference ↔
      ∀ db', settleRefund paymentId refundId amount finalize reference db = .ok db' →
        refund.status = .processing := by
  constructor
  · intro finds db' tx
    obtain ⟨payment, refund', paid, found', -, reserved, free, -⟩ := settleRefund_eq_ok.mp tx
    obtain rfl := Option.some.inj (found.symm.trans found')
    rcases finds refund payment found paid with processing | short | taken
    · exact processing
    · exact absurd reserved (not_le.mpr short)
    · rw [free] at taken
      cases taken
  · intro committed refund' payment found' paid
    obtain rfl := Option.some.inj (found.symm.trans found')
    by_contra accepted
    rw [not_or, not_or, not_lt, Bool.not_eq_true] at accepted
    obtain ⟨settled, reserved, free⟩ := accepted
    exact settled (committed _
      (settleRefund_eq_ok.mpr ⟨payment, refund, paid, found, same ▸ positive, reserved, free, rfl⟩))

variable {paymentId : Nat} {finalize : Bool} {reference : Option ProviderReference}

theorem settleRefund_effect (found : db.refunds.get? refundId = some refund)
    (owner : refund.paymentId = paymentId) (same : refund.amount = amount)
    (tx : settleRefund paymentId refundId amount finalize reference db = .ok db')
    (events : Table PaymentWebhookEvent) :
    RefundEffect db [refundId] { db' with webhookEvents := events } := by
  obtain ⟨payment, refund', -, found', -, -, -, rfl⟩ := settleRefund_eq_ok.mp tx
  obtain rfl := Option.some.inj (found.symm.trans found')
  subst same
  exact .settle found owner

theorem rememberReference_effect {reference : ProviderReference}
    (tx : rememberReference refundId reference db = .ok db') (events : Table PaymentWebhookEvent) :
    RefundEffect db [] { db' with webhookEvents := events } := by
  obtain ⟨refund, found, -, rfl⟩ := rememberReference_eq_ok.mp tx
  exact .remember found

end Settling

/-- What the rest of a call does, and when it settles a processing refund. -/
theorem finish_effect (h : RefundInv s) {call : RefundCall} (stored : call.Stored s.db.refunds)
    (decision : Result RefundDecision) :
    ∃ settled, RefundEffect s.db settled (s.finish call decision).db ∧
      (s.finish call decision).settled = s.settled ++ settled ∧
      ((∀ r ∈ settled, ∀ refund, s.db.refunds.get? r = some refund →
          refund.status = .processing) ↔ SettlesProcessing s.db call decision) := by
  obtain ⟨refund, hr, owner, amount⟩ := stored
  have pos := h.positive call.refundId refund hr
  have idle : RefundEffect s.db [] s.db ∧ s.settled = s.settled ++ [] :=
    ⟨RefundEffect.refl _, (List.append_nil _).symm⟩
  cases decision with
  | error e =>
      refine ⟨[], idle.1, idle.2, iff_of_true (by simp) ?_⟩
      intro finalize reference hdecision
      cases hdecision
  | ok d =>
      cases d with
      | remain reference =>
          have met : SettlesProcessing s.db call (.ok (.remain reference)) := by
            intro finalize reference hdecision
            cases hdecision
          cases tx : RefundDecision.apply call s.db (.remain reference) with
          | error e =>
              simp only [RefundState.finish, tx]
              exact ⟨[], idle.1, idle.2, iff_of_true (by simp) met⟩
          | ok db' =>
              simp only [RefundState.finish, tx]
              exact ⟨[], rememberReference_effect tx db'.webhookEvents, rfl,
                iff_of_true (by simp) met⟩
      | settle finalize reference =>
          have finds := findsProcessing_iff call.paymentId finalize reference pos hr amount
          have met : SettlesProcessing s.db call (.ok (.settle finalize reference)) ↔
              FindsProcessing s.db call.paymentId call.refundId call.refund.amount finalize
                reference :=
            ⟨fun settles => settles finalize reference rfl, by
              rintro finds _ _ ⟨⟩
              exact finds⟩
          cases tx : RefundDecision.apply call s.db (.settle finalize reference) with
          | error e =>
              simp only [RefundState.finish, tx]
              refine ⟨[], idle.1, idle.2, iff_of_true (by simp) (met.mpr (finds.mpr ?_))⟩
              intro db' committed
              rw [RefundDecision.apply, committed] at tx
              cases tx
          | ok db' =>
              simp only [RefundState.finish, tx]
              refine ⟨[call.refundId], settleRefund_effect hr owner amount tx db'.webhookEvents, rfl,
                ?_⟩
              rw [met, finds]
              constructor
              · exact fun all _ _ => all _ (List.mem_singleton_self _) refund hr
              · intro committed r hmem refund' hrefund'
                obtain rfl := List.mem_singleton.mp hmem
                obtain rfl := Option.some.inj (hr.symm.trans hrefund')
                exact committed db' tx

/-- What the writes of an event do, and when they settle a processing refund. -/
theorem write_effect (h : RefundInv s) {pending : PendingRefundEvent}
    (stored : pending.Stored s.db.refunds) (now : Time) :
    ∃ settled, RefundEffect s.db settled (s.write pending now).db ∧
      (s.write pending now).settled = s.settled ++ settled ∧
      ((∀ r ∈ settled, ∀ refund, s.db.refunds.get? r = some refund →
          refund.status = .processing) ↔ pending.SettlesProcessing s.db) := by
  obtain ⟨event, read⟩ := pending
  cases read with
  | none =>
      have met : (PendingRefundEvent.mk event none).SettlesProcessing s.db := by
        intro refundId read finalize hread
        cases hread
      cases tx : writeRefundEvent event none now s.db with
      | error e =>
          simp only [RefundState.write, tx]
          exact ⟨[], RefundEffect.refl _, (List.append_nil _).symm, iff_of_true (by simp) met⟩
      | ok result =>
          simp only [RefundState.write, tx]
          obtain ⟨-, _, events, same, rfl⟩ := writeRefundEvent_ok tx
          exact ⟨[], same ▸ .keep, rfl, iff_of_true (by simp) met⟩
  | some e =>
      obtain ⟨refundId, read⟩ := e
      obtain ⟨refund, hr, owner, amount⟩ := stored refundId read rfl
      have pos := h.positive refundId refund hr
      by_cases ends : read.status = .processing ∧ event.status.finalizes.isSome
      · obtain ⟨processing, hfinalize⟩ := ends
        obtain ⟨finalize, hfinalize⟩ := Option.isSome_iff_exists.mp hfinalize
        have applies : applyRefundEvent event refundId read s.db = settleRefund read.paymentId
            refundId read.amount finalize (some event.refundId) s.db := by
          rw [applyRefundEvent_eq, if_pos processing, hfinalize]
        have finds := findsProcessing_iff read.paymentId finalize (some event.refundId) pos hr
          amount
        have met : (PendingRefundEvent.mk event (some (refundId, read))).SettlesProcessing s.db ↔
            (s.db.webhookEvents.clashes PaymentWebhookEvent.clash s.db.webhookEvents.nextId
                (newReceipt .stripe event.id event.type) = false →
              FindsProcessing s.db read.paymentId refundId read.amount finalize
                (some event.refundId)) := by
          constructor
          · exact fun settles => settles refundId read finalize rfl processing hfinalize
          · rintro finds _ _ finalize' ⟨⟩ - hfinalize' new
            obtain rfl := Option.some.inj (hfinalize.symm.trans hfinalize')
            exact finds new
        cases tx : writeRefundEvent event (some (refundId, read)) now s.db with
        | error e =>
            simp only [RefundState.write, tx]
            refine ⟨[], RefundEffect.refl _, (List.append_nil _).symm,
              iff_of_true (by simp) (met.mpr fun new => finds.mpr fun db' committed => ?_)⟩
            obtain ⟨_, _, ok⟩ := writeRefundEvent_isOk now new (applies.trans committed)
            rw [ok] at tx
            cases tx
        | ok result =>
            simp only [RefundState.write, tx]
            obtain ⟨new, db', events, same, applied⟩ := writeRefundEvent_ok tx
            have settles : (PendingRefundEvent.mk event (some (refundId, read))).settles =
                [refundId] := by
              simp [PendingRefundEvent.settles, processing, hfinalize]
            refine ⟨[refundId], same ▸ settleRefund_effect hr owner amount (applies.symm.trans applied)
                events,
              by rw [settles], ?_⟩
            rw [met, finds]
            constructor
            · exact fun all _ _ _ => all _ (List.mem_singleton_self _) refund hr
            · intro committed r hmem refund' hrefund'
              obtain rfl := List.mem_singleton.mp hmem
              obtain rfl := Option.some.inj (hr.symm.trans hrefund')
              exact committed new db' (applies.symm.trans applied)
      · have met : (PendingRefundEvent.mk event (some (refundId, read))).SettlesProcessing s.db := by
          rintro _ _ finalize ⟨⟩ processing hfinalize
          exact absurd ⟨processing, by rw [hfinalize]; rfl⟩ ends
        have settles : (PendingRefundEvent.mk event (some (refundId, read))).settles = [] := by
          simp only [PendingRefundEvent.settles]
          exact if_neg ends
        cases tx : writeRefundEvent event (some (refundId, read)) now s.db with
        | error e =>
            simp only [RefundState.write, tx]
            exact ⟨[], RefundEffect.refl _, (List.append_nil _).symm, iff_of_true (by simp) met⟩
        | ok result =>
            simp only [RefundState.write, tx, settles]
            obtain ⟨-, db', events, same, applied⟩ := writeRefundEvent_ok tx
            refine ⟨[], ?_, rfl, iff_of_true (by simp) met⟩
            rw [same]
            dsimp only at applied
            rw [applyRefundEvent_eq] at applied
            split at applied
            · split at applied
              · rename_i processing _ _ hfinalize
                exact absurd ⟨processing, by rw [hfinalize]; rfl⟩ ends
              · exact rememberReference_effect applied events
            · obtain rfl := Except.ok.inj applied
              exact .keep

/-- One action: its effect, its calls, and when it keeps the accounts. -/
theorem refundStep_effect (number : String → Option Nat) (op : RefundOp) (h : RefundInv s) :
    ∃ settled, RefundEffect s.db settled (refundStep number s op).db ∧
      (refundStep number s op).settled = s.settled ++ settled ∧
      (∀ call, (refundStep number s op).InFlight call →
        s.InFlight call ∨ call.Stored (refundStep number s op).db.refunds) ∧
      (∀ c pending, (refundStep number s op).eventWrites.get? c = some pending →
        (∃ c, s.eventWrites.get? c = some pending) ∨
          pending.Stored (refundStep number s op).db.refunds) ∧
      ((∀ r ∈ settled, ∀ refund, s.db.refunds.get? r = some refund →
        refund.status = .processing) ↔ op.SettlesProcessing s) := by
  have idle : ∃ settled, RefundEffect s.db settled s.db ∧ s.settled = s.settled ++ settled ∧
      (∀ call, s.InFlight call → s.InFlight call ∨ call.Stored s.db.refunds) ∧
      (∀ c pending, s.eventWrites.get? c = some pending →
        (∃ c, s.eventWrites.get? c = some pending) ∨ pending.Stored s.db.refunds) ∧
      ((∀ r ∈ settled, ∀ refund, s.db.refunds.get? r = some refund →
        refund.status = .processing) ↔ True) :=
    ⟨[], RefundEffect.refl _, (List.append_nil _).symm, fun _ hcall => Or.inl hcall,
      fun c _ hc => Or.inl ⟨c, hc⟩, by simp⟩
  have registered : ∀ {calls : Table RefundCall} {call call' : RefundCall} {c : Nat},
      (RefundState.register call calls).get? c = some call' →
      (∃ c, calls.get? c = some call') ∨ call' = call := by
    intro calls call call' c hcall
    unfold RefundState.register at hcall
    split at hcall
    · exact Or.inl ⟨c, hcall⟩
    · rcases Table.insert_cases hcall with ⟨-, same⟩ | hcall
      · exact Or.inr same
      · exact Or.inl ⟨c, hcall⟩
  have erased : ∀ {α : Type} {calls : Table α} {call : α} {c k : Nat},
      (calls.erase k).get? c = some call → ∃ c, calls.get? c = some call := by
    intro α calls call c k hcall
    rw [Table.get?_erase] at hcall
    split at hcall
    · cases hcall
    · exact ⟨c, hcall⟩
  cases op with
  | startStripe input uuid =>
      simp only [refundStep]
      cases tx : stripeRefunds.prepare input uuid s.db with
      | error e => exact idle
      | ok result =>
          obtain ⟨db', call⟩ := result
          obtain ⟨happened, stored⟩ := prepare_effect (by simp [stripeRefunds]) tx
          refine ⟨[], happened, (List.append_nil _).symm, ?_, fun c _ hc => Or.inl ⟨c, hc⟩,
            by simp [RefundOp.SettlesProcessing]⟩
          rintro call' (⟨c, hcall⟩ | hcall)
          · rcases registered hcall with old | rfl
            · exact Or.inl (Or.inl old)
            · exact Or.inr stored
          · exact Or.inl (Or.inr hcall)
  | startPayPal input uuid =>
      simp only [refundStep]
      cases tx : paypalRefunds.prepare input uuid s.db with
      | error e => exact idle
      | ok result =>
          obtain ⟨db', call⟩ := result
          obtain ⟨happened, stored⟩ := prepare_effect (by simp [paypalRefunds]) tx
          refine ⟨[], happened, (List.append_nil _).symm, ?_, fun c _ hc => Or.inl ⟨c, hc⟩,
            by simp [RefundOp.SettlesProcessing]⟩
          rintro call' (hcall | ⟨c, hcall⟩)
          · exact Or.inl (Or.inl hcall)
          · rcases registered hcall with old | rfl
            · exact Or.inl (Or.inr old)
            · exact Or.inr stored
  | answerStripe callId response =>
      simp only [refundStep, RefundOp.SettlesProcessing]
      cases hcall : s.stripeCalls.get? callId with
      | none => simpa using idle
      | some call =>
          obtain ⟨settled, happened, history, iff⟩ := finish_effect h
            (h.stored call (Or.inl ⟨callId, hcall⟩)) (stripeDecision call response)
          obtain ⟨-, paypalCalls, eventWrites⟩ :=
            finish_calls (s := s) call (stripeDecision call response)
          refine ⟨settled, happened, history, ?_, fun c _ hc => Or.inl ⟨c, eventWrites ▸ hc⟩,
            by simpa using iff⟩
          rintro call' (⟨c, hc⟩ | ⟨c, hc⟩)
          · exact Or.inl (Or.inl (erased hc))
          · exact Or.inl (Or.inr ⟨c, paypalCalls ▸ hc⟩)
  | answerPayPal callId response =>
      simp only [refundStep, RefundOp.SettlesProcessing]
      cases hcall : s.paypalCalls.get? callId with
      | none => simpa using idle
      | some call =>
          obtain ⟨settled, happened, history, iff⟩ := finish_effect h
            (h.stored call (Or.inr ⟨callId, hcall⟩)) (paypalDecision call response)
          obtain ⟨stripeCalls, -, eventWrites⟩ :=
            finish_calls (s := s) call (paypalDecision call response)
          refine ⟨settled, happened, history, ?_, fun c _ hc => Or.inl ⟨c, eventWrites ▸ hc⟩,
            by simpa using iff⟩
          rintro call' (⟨c, hc⟩ | ⟨c, hc⟩)
          · exact Or.inl (Or.inl ⟨c, stripeCalls ▸ hc⟩)
          · exact Or.inl (Or.inr (erased hc))
  | readRefundEvent event =>
      simp only [refundStep]
      split
      · exact idle
      · split
        · exact idle
        · refine ⟨[], RefundEffect.refl _, (List.append_nil _).symm, fun _ hcall => Or.inl hcall, ?_,
            by simp [RefundOp.SettlesProcessing]⟩
          intro c pending hc
          rcases Table.insert_cases hc with ⟨-, rfl⟩ | old
          · refine Or.inr fun refundId read hread => ?_
            exact ⟨read, (correlatedRefund_eq_some hread).1, rfl, rfl⟩
          · exact Or.inl ⟨c, old⟩
  | writeRefundEvent pendingId now =>
      simp only [refundStep, RefundOp.SettlesProcessing]
      cases hpending : s.eventWrites.get? pendingId with
      | none => simpa using idle
      | some pending =>
          obtain ⟨settled, happened, history, iff⟩ :=
            write_effect h (h.reads pendingId pending hpending) now
          obtain ⟨stripeCalls, paypalCalls⟩ := write_calls (s := s) pending now
          refine ⟨settled, happened, history, ?_, fun c _ hc => Or.inl (erased hc), by simpa using iff⟩
          rintro call (⟨c, hc⟩ | ⟨c, hc⟩)
          · exact Or.inl (Or.inl ⟨c, stripeCalls ▸ hc⟩)
          · exact Or.inl (Or.inr ⟨c, paypalCalls ▸ hc⟩)

theorem RefundInv.step (number : String → Option Nat) (op : RefundOp) (h : RefundInv s) :
    RefundInv (refundStep number s op) := by
  obtain ⟨settled, happened, history, calls, reads, -⟩ := refundStep_effect number op h
  exact happened.inv h history calls reads

theorem refundStep_accounts_iff (number : String → Option Nat) (op : RefundOp) (h : RefundInv s)
    (acc : s.Accounts) : (refundStep number s op).Accounts ↔ op.SettlesProcessing s := by
  obtain ⟨settled, happened, history, -, -, iff⟩ := refundStep_effect number op h
  exact (happened.accounts_iff h acc history).trans iff

end Actions

/-! ### Over runs -/

/-- No refund yet, nothing reserved or refunded on a Stripe or PayPal payment. -/
structure FreshRefunds (s : RefundState) : Prop where
  refunds : ∀ r, s.db.refunds.get? r = none
  payments : ∀ p payment, s.db.payments.get? p = some payment → payment.provider ≠ .manual →
    payment.reservedRefundAmount = 0 ∧ payment.refundedAmount = 0
  stripeCalls : ∀ c, s.stripeCalls.get? c = none
  paypalCalls : ∀ c, s.paypalCalls.get? c = none
  eventWrites : ∀ c, s.eventWrites.get? c = none
  settled : s.settled = []

namespace FreshRefunds

variable {s : RefundState}

theorem inv (h : FreshRefunds s) : RefundInv s where
  positive := fun r refund hr => by simp [h.refunds r] at hr
  paid := fun r refund hr => by simp [h.refunds r] at hr
  stored := by
    rintro call (⟨c, hc⟩ | ⟨c, hc⟩)
    · simp [h.stripeCalls c] at hc
    · simp [h.paypalCalls c] at hc
  reads := fun c pending hc => by simp [h.eventWrites c] at hc
  known := fun r hr => by simp [h.settled] at hr

theorem accounts (h : FreshRefunds s) : s.Accounts where
  balanced := by
    intro p payment hp hprovider
    obtain ⟨reserved, refunded⟩ := h.payments p payment hp hprovider
    rw [reserved, refunded, Table.sum_eq_zero, Table.sum_eq_zero]
    · exact ⟨rfl, rfl⟩
    · intro r refund hr
      simp [h.refunds r] at hr
    · intro r refund hr
      simp [h.refunds r] at hr
  once := fun r refund hr => by simp [h.refunds r] at hr

end FreshRefunds

/-! ### Two outstanding refunds -/

def samplePayment : Payment where
  orderId := 1
  amount := 3000
  currency := "GBP"
  provider := .stripe
  providerReference := .intent "1"
  idempotencyKey := some "order-1-stripe"
  providerCaptureReference := none
  captureIdempotencyKey := none
  status := .succeeded
  paidAt := some 5
  refundedAmount := 0
  reservedRefundAmount := 0

def sampleOrder : Order where
  userId := 1
  status := .confirmed
  creationIdempotencyKey := none
  creationRequestHash := none
  billing := ⟨"Ada", "1 Brick Lane", none, "London", none, "E1 6RF", "GB", none⟩
  delivery := ⟨"Ada", "1 Brick Lane", none, "London", none, "E1 6RF", "GB", none⟩
  totalAmount := 3000
  actualShippingCost := none
  shippingCarrier := none
  trackingNumber := none
  dispatchedAt := none
  reservationExpiresAt := none
  createdAt := 0
  cancelledAt := none
  cancelledBy := none
  cancellationReason := none
  completedAt := none

/-- A confirmed order paid with Stripe. -/
def sampleRefunds : RefundState where
  db := { Db.empty with
    orders := Table.empty.insert sampleOrder
    payments := Table.empty.insert samplePayment }
  stripeCalls := .empty
  paypalCalls := .empty
  eventWrites := .empty
  settled := []

theorem sampleRefunds_fresh : FreshRefunds sampleRefunds := by
  refine ⟨fun _ => rfl, fun p payment hp _ => ?_, fun _ => rfl, fun _ => rfl, fun _ => rfl, rfl⟩
  rw [sampleRefunds, Table.get?_insert] at hp
  split at hp
  · obtain rfl := Option.some.inj hp
    exact ⟨rfl, rfl⟩
  · cases hp

/-- The provider's answer for ten pounds. -/
def sampleAnswer : StripeRefundResponse :=
  ⟨.other "re_1" (by decide), 1000, "gbp", .succeeded, some (.intent "1")⟩

/-- Two refunds of ten pounds; the call for the first is repeated while it is
under way, and both of its calls settle. -/
def settledTwice : List RefundOp :=
  [.startStripe ⟨1, 1, 10, none, 7, none⟩ "a", .startStripe ⟨1, 1, 10, none, 7, none⟩ "b",
    .startStripe ⟨1, 1, 10, none, 7, some 1⟩ "c",
    .answerStripe 1 (some sampleAnswer), .answerStripe 3 (some sampleAnswer)]

/-- The second settlement takes the reservation of the other refund. -/
theorem settledTwice_unbalanced : FreshRefunds sampleRefunds ∧
    ¬ (run (refundStep fun _ => none) sampleRefunds settledTwice).Accounts := by
  refine ⟨sampleRefunds_fresh, fun acc => ?_⟩
  have row : ((run (refundStep fun _ => none) sampleRefunds settledTwice).db.payments.get? 1).map
      (fun payment => (payment.provider, payment.reservedRefundAmount)) = some (.stripe, 0) := by
    decide +kernel
  have processing : (run (refundStep fun _ => none) sampleRefunds settledTwice).db.refunds.sum
      (fun _ refund => refund.processingFor 1) = 1000 := by
    decide +kernel
  obtain ⟨payment, hp, hrow⟩ := Option.map_eq_some_iff.mp row
  obtain ⟨provider, reserved⟩ := Prod.mk.inj hrow
  have balanced := (acc.balanced 1 payment hp (by simp [provider])).1
  rw [processing, reserved] at balanced
  cases balanced

/-- Stripe reports the first of the two refunds as succeeded. -/
def sampleRefundEvent (id : String) : StripeRefundEvent :=
  ⟨id, "refund.updated", .other "re_1" (by decide), some (.intent "1"), 1000, "gbp", .succeeded,
    some "1", none⟩

/-- Two events about one refund that overlap settle it twice as well. -/
example : (run (refundStep fun _ => some 1) sampleRefunds
    [.startStripe ⟨1, 1, 10, none, 7, none⟩ "a", .startStripe ⟨1, 1, 10, none, 7, none⟩ "b",
      .readRefundEvent (sampleRefundEvent "evt_1"), .readRefundEvent (sampleRefundEvent "evt_2"),
      .writeRefundEvent 1 2, .writeRefundEvent 2 3]).settled = [1, 1] := by
  decide +kernel

/-- Along a run the counters agree with the refunds, each settled once, after
every action, exactly when every transaction that settles a refund finds it still
processing. -/
theorem refund_accounts_iff (number : String → Option Nat) {s : RefundState}
    (fresh : FreshRefunds s) (ops : List RefundOp) :
    (∀ xs, xs <+: ops → (run (refundStep number) s xs).Accounts) ↔
      ∀ t ∈ transitions (refundStep number) s ops, t.2.SettlesProcessing t.1 :=
  states_forall_iff (I := RefundInv) (P := RefundState.Accounts) (fun _ op inv => inv.step number op)
    (fun _ op inv acc => refundStep_accounts_iff number op inv acc) fresh.inv fresh.accounts ops

theorem refund_accounts_sample :
    (∀ xs, xs <+: settledTwice → (run (refundStep fun _ => none) sampleRefunds xs).Accounts) ↔
      ∀ t ∈ transitions (refundStep fun _ => none) sampleRefunds settledTwice,
        t.2.SettlesProcessing t.1 :=
  refund_accounts_iff (fun _ => none) sampleRefunds_fresh settledTwice

end ColorfulLife
