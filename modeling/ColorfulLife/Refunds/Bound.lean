/-
The bound on what a payment refunds.

Provider refunds move an amount through the reserved counter under a row lock;
manual refunds raise the refunded counter by a conditional update that looks at
that counter only. Both leave `refundedAmount + reservedRefundAmount` within the
amount of the payment, the second because the handler sends it manual payments
alone and nothing is ever reserved on those (`DeskInv`).
-/

import ColorfulLife.Refunds.Ledger
import ColorfulLife.Refunds.Manual

namespace ColorfulLife

open Relational

/-! ### The machine -/

/-- The database with the `createRefund` calls that are under way. A call stays
in its table when it goes on. -/
structure RefundDesk where
  db : Db
  /-- Passed on by the handler. -/
  requested : Table ManualRefundInput
  /-- Between the reads and the writes. -/
  claiming : Table ManualRefundCall
  /-- Rolled back by the unique index. -/
  conflicting : Table ManualRefundCall

/-- One transaction, or one read of a call outside of any. -/
inductive DeskOp where
  | reserve (paymentId : Nat) (amount : ℚ)
  | finalize (paymentId : Nat) (amount : ℚ)
  | release (paymentId : Nat) (amount : ℚ)
  | request (orderId userId : Nat) (body : CreateRefundInput)
  | read (callId : Nat)
  | claim (callId : Nat)
  | reread (callId : Nat)
  deriving DecidableEq, Repr

/-- A capacity function on an amount from outside: its `parseAmount`, then the
transaction. -/
def capacityTransaction (amount : ℚ) (work : Pence → Table Payment → Result (Table Payment))
    (db : Db) : Result Db := do
  let requested ← orThrow (penceOf amount) DomainError.refundCapacityInvalidAmount
  let payments ← work requested db.payments
  return { db with payments := payments }

/-- Carry on with a call, if there is one. -/
def onCall {γ : Type} (call : Option γ) (db : Db) (tx : γ → Result Db) : Result Db :=
  match call with
  | some c => tx c
  | none => .ok db

/-- What an action makes of the database; an error is a rejected call. -/
def DeskOp.transaction (s : RefundDesk) : DeskOp → Result Db
  | .reserve paymentId amount => capacityTransaction amount (reserveRefundCapacity paymentId) s.db
  | .finalize paymentId amount => capacityTransaction amount (finalizeRefundCapacity paymentId) s.db
  | .release paymentId amount => capacityTransaction amount (releaseRefundCapacity paymentId) s.db
  | .request orderId userId body =>
      (createRefundHandler orderId userId body s.db).map fun _ => s.db
  | .read callId => onCall (s.requested.get? callId) s.db fun input =>
      (createRefundReads input s.db).map fun _ => s.db
  | .claim callId => onCall (s.claiming.get? callId) s.db fun call =>
      (createRefundWrites call s.db).map Prod.fst
  | .reread callId => onCall (s.conflicting.get? callId) s.db fun call =>
      (createRefundConflict call s.db).map fun _ => s.db

/-- Where the calls stand after an action. -/
def DeskOp.proceed (s : RefundDesk) : DeskOp → RefundDesk
  | .request orderId userId body =>
      match createRefundHandler orderId userId body s.db with
      | .ok (.manual input) => { s with requested := s.requested.insert input }
      | _ => s
  | .read callId =>
      match (s.requested.get? callId).map fun input => createRefundReads input s.db with
      | some (.ok (.claim call)) => { s with claiming := s.claiming.insert call }
      | _ => s
  | .claim callId =>
      match s.claiming.get? callId with
      | some call =>
          match createRefundWrites call s.db with
          | .error .uniqueViolation => { s with conflicting := s.conflicting.insert call }
          | _ => s
      | none => s
  | _ => s

def deskStep (s : RefundDesk) (op : DeskOp) : RefundDesk :=
  { op.proceed s with db := commit (op.transaction s) s.db }

/-- The services that reserve, finalize and release do so on payments of their
own provider, never on a manual payment. -/
def DeskOp.ForProvider (s : RefundDesk) : DeskOp → Prop
  | .reserve paymentId _ | .finalize paymentId _ | .release paymentId _ =>
      ∀ payment ∈ s.db.payments.get? paymentId, payment.provider ≠ .manual
  | _ => True

instance (s : RefundDesk) : (op : DeskOp) → Decidable (op.ForProvider s)
  | .reserve _ _ | .finalize _ _ | .release _ _ => by unfold DeskOp.ForProvider; infer_instance
  | .request _ _ _ | .read _ | .claim _ | .reread _ => inferInstanceAs (Decidable True)

/-- The actions that write to payments. -/
def DeskOp.writes : DeskOp → Bool
  | .reserve _ _ | .finalize _ _ | .release _ _ | .claim _ => true
  | .request _ _ _ | .read _ | .reread _ => false

/-! ### The bound -/

structure Payment.CapacityBounded (payment : Payment) : Prop where
  refunded_nonneg : 0 ≤ payment.refundedAmount
  reserved_nonneg : 0 ≤ payment.reservedRefundAmount
  within : payment.refundedAmount + payment.reservedRefundAmount ≤ payment.amount

/-- A bounded payment; a manual one holds no reservation either. -/
structure Payment.Sound (payment : Payment) : Prop extends payment.CapacityBounded where
  manual : payment.provider = .manual → payment.reservedRefundAmount = 0

def AllSound (payments : Table Payment) : Prop :=
  ∀ p payment, payments.get? p = some payment → payment.Sound

/-- What one transaction does to the payments. -/
inductive CapacityEffect (payments : Table Payment) : Table Payment → Prop where
  | keep : CapacityEffect payments payments
  | reserve {p : Nat} {payment : Payment} {requested : Pence}
      (hp : payments.get? p = some payment) (provider : payment.provider ≠ .manual)
      (pos : 0 < requested)
      (room : payment.refundedAmount + payment.reservedRefundAmount + requested ≤ payment.amount) :
      CapacityEffect payments (payments.update p (Payment.reserveRefund requested))
  | move {p : Nat} {payment : Payment} {requested : Pence} (finalize : Bool)
      (hp : payments.get? p = some payment) (provider : payment.provider ≠ .manual)
      (pos : 0 < requested) (covered : requested ≤ payment.reservedRefundAmount) :
      CapacityEffect payments (payments.update p (Payment.moveReserved requested finalize))
  | refund {p : Nat} {payment : Payment} {amount : Pence}
      (hp : payments.get? p = some payment) (provider : payment.provider = .manual)
      (pos : 0 < amount) (room : payment.refundedAmount ≤ payment.amount - amount) :
      CapacityEffect payments (payments.update p (Payment.refund amount))

section Effects

variable {payments payments' : Table Payment}

theorem AllSound.update {p : Nat} {payment : Payment} {f : Payment → Payment}
    (sound : AllSound payments) (hp : payments.get? p = some payment) (row : (f payment).Sound) :
    AllSound (payments.update p f) := by
  intro q payment' hq
  rw [Table.get?_update] at hq
  split at hq
  · subst_vars
    rw [hp, Option.map_some, Option.some.injEq] at hq
    exact hq ▸ row
  · exact sound q payment' hq

/-- Every transaction leaves the counters of every payment within bounds. -/
theorem CapacityEffect.sound (happened : CapacityEffect payments payments')
    (sound : AllSound payments) : AllSound payments' := by
  cases happened with
  | keep => exact sound
  | @reserve p payment requested hp provider pos room =>
      have old := sound p payment hp
      apply sound.update hp
      refine ⟨⟨old.refunded_nonneg, ?_, ?_⟩, fun manual => absurd manual provider⟩
      · have := old.reserved_nonneg
        simp only [Payment.reserveRefund]
        linarith
      · simp only [Payment.reserveRefund]
        linarith
  | @move p payment requested finalize hp provider pos covered =>
      have old := sound p payment hp
      have refunded := old.refunded_nonneg
      have within := old.within
      apply sound.update hp
      cases finalize with
      | true =>
          refine ⟨⟨?_, ?_, ?_⟩, fun manual => absurd manual provider⟩ <;>
            simp only [Payment.moveReserved, if_true] <;> linarith
      | false =>
          refine ⟨⟨refunded, ?_, ?_⟩, fun manual => absurd manual provider⟩ <;>
            simp only [Payment.moveReserved, Bool.false_eq_true, if_false] <;> linarith
  | @refund p payment amount hp provider pos room =>
      -- the update looks at one counter; the other one is zero
      have old := sound p payment hp
      have refunded := old.refunded_nonneg
      have reserved := old.manual provider
      apply sound.update hp
      refine ⟨⟨?_, old.reserved_nonneg, ?_⟩, fun _ => reserved⟩ <;>
        simp only [Payment.refund] <;> linarith

/-- No transaction changes the amount or the provider of a payment. -/
theorem CapacityEffect.kept (happened : CapacityEffect payments payments') {p : Nat}
    {payment : Payment} (hp : payments.get? p = some payment) :
    ∃ payment', payments'.get? p = some payment' ∧ payment'.amount = payment.amount ∧
      payment'.provider = payment.provider := by
  have updated : ∀ q (f : Payment → Payment),
      (∀ payment, (f payment).amount = payment.amount ∧ (f payment).provider = payment.provider) →
      ∃ payment', (payments.update q f).get? p = some payment' ∧
        payment'.amount = payment.amount ∧ payment'.provider = payment.provider := by
    intro q f same
    rw [Table.get?_update, hp]
    split
    · exact ⟨f payment, rfl, same payment⟩
    · exact ⟨payment, rfl, rfl, rfl⟩
  cases happened with
  | keep => exact ⟨payment, hp, rfl, rfl⟩
  | reserve _ _ _ _ =>
      apply updated
      intro _
      exact ⟨rfl, rfl⟩
  | move _ _ _ _ _ =>
      apply updated
      intro _
      exact ⟨rfl, rfl⟩
  | refund _ _ _ _ =>
      apply updated
      intro _
      exact ⟨rfl, rfl⟩

end Effects

/-! ### What keeps it -/

/-- The calls that are under way concern manual payments. -/
structure DeskInv (s : RefundDesk) : Prop where
  sound : AllSound s.db.payments
  requested : ∀ i input, s.requested.get? i = some input →
    ∃ payment, s.db.payments.get? input.paymentId = some payment ∧ payment.provider = .manual
  claiming : ∀ i call, s.claiming.get? i = some call → 0 < call.amount ∧
    ∃ payment, s.db.payments.get? call.paymentId = some payment ∧ payment.provider = .manual ∧
      payment.amount = call.payment.amount

section Steps

variable {s : RefundDesk} {db : Db}

theorem capacityTransaction_eq_ok {amount : ℚ}
    {work : Pence → Table Payment → Result (Table Payment)} {db' : Db} :
    capacityTransaction amount work db = .ok db' ↔
      ∃ requested payments, penceOf amount = some requested ∧
        work requested db.payments = .ok payments ∧ db' = { db with payments := payments } := by
  simp only [capacityTransaction, bind_eq_ok, orThrow_eq_ok, pure_eq_ok]
  constructor
  · rintro ⟨requested, hrequested, payments, hwork, rfl⟩
    exact ⟨requested, payments, hrequested, hwork, rfl⟩
  · rintro ⟨requested, payments, hrequested, hwork, rfl⟩
    exact ⟨requested, hrequested, payments, hwork, rfl⟩

theorem onCall_eq_ok {γ : Type} {call : Option γ} {tx : γ → Result Db} {db' : Db} :
    onCall call db tx = .ok db' ↔
      (call = none ∧ db' = db) ∨ ∃ c, call = some c ∧ tx c = .ok db' := by
  cases call with
  | none => simp [onCall, eq_comm]
  | some c => simp [onCall]

/-- The moves of the two callers that settle a reservation. -/
theorem move_effect {paymentId : Nat} {amount : ℚ} {finalize : Bool} {db' : Db}
    (used : ∀ payment ∈ db.payments.get? paymentId, payment.provider ≠ .manual)
    (h : capacityTransaction amount (fun requested => moveReserved paymentId requested finalize) db =
      .ok db') : CapacityEffect db.payments db'.payments := by
  obtain ⟨requested, payments, -, hwork, rfl⟩ := capacityTransaction_eq_ok.mp h
  obtain ⟨payment, hp, pos, covered, rfl⟩ := moveReserved_eq_ok.mp hwork
  exact .move finalize hp (used payment hp) pos covered

/-- A committed transaction has one of the four effects. -/
theorem transaction_effect (op : DeskOp) (inv : DeskInv s) (used : op.ForProvider s) {db' : Db}
    (h : op.transaction s = .ok db') : CapacityEffect s.db.payments db'.payments := by
  cases op with
  | reserve paymentId amount =>
      obtain ⟨requested, payments, -, hwork, rfl⟩ := capacityTransaction_eq_ok.mp h
      obtain ⟨payment, hp, pos, room, rfl⟩ := reserveRefundCapacity_eq_ok.mp hwork
      exact .reserve hp (used payment hp) pos room
  | finalize paymentId amount => exact move_effect used h
  | release paymentId amount => exact move_effect used h
  | request orderId userId body =>
      obtain ⟨_, -, rfl⟩ := map_eq_ok.mp h
      exact .keep
  | read callId =>
      rcases onCall_eq_ok.mp h with ⟨-, rfl⟩ | ⟨input, -, hread⟩
      · exact .keep
      · obtain ⟨_, -, rfl⟩ := map_eq_ok.mp hread
        exact .keep
  | claim callId =>
      rcases onCall_eq_ok.mp h with ⟨-, rfl⟩ | ⟨call, hcall, hclaim⟩
      · exact .keep
      · obtain ⟨⟨db₁, refundId⟩, hwrites, rfl⟩ := map_eq_ok.mp hclaim
        obtain ⟨payment, hp, room, -, -, rfl⟩ := createRefundWrites_ok hwrites
        obtain ⟨pos, row, hrow, provider, amount⟩ := inv.claiming callId call hcall
        obtain rfl : payment = row := Option.some.inj (hp.symm.trans hrow)
        exact .refund hp provider pos (amount ▸ room)
  | reread callId =>
      rcases onCall_eq_ok.mp h with ⟨-, rfl⟩ | ⟨call, -, hreread⟩
      · exact .keep
      · obtain ⟨_, -, rfl⟩ := map_eq_ok.mp hreread
        exact .keep

theorem deskStep_effect (op : DeskOp) (inv : DeskInv s) (used : op.ForProvider s) :
    CapacityEffect s.db.payments (deskStep s op).db.payments :=
  commit_rel (R := fun db db' => CapacityEffect db.payments db'.payments) .keep
    fun _ h => transaction_effect op inv used h

/-- Where calls come from: the handler passed on a call that is under way, one that goes
on to its writes has read its payment, and one that met a conflict had come to its
writes. -/
structure Proceeds (s s' : RefundDesk) : Prop where
  requested : ∀ i input, s'.requested.get? i = some input → s.requested.get? i = some input ∨
    ∃ orderId userId body, createRefundHandler orderId userId body s.db = .ok (.manual input)
  claiming : ∀ i call, s'.claiming.get? i = some call → s.claiming.get? i = some call ∨
    ∃ j input, s.requested.get? j = some input ∧ createRefundReads input s.db = .ok (.claim call)
  conflicting : ∀ i call, s'.conflicting.get? i = some call → s.conflicting.get? i = some call ∨
    ∃ j, s.claiming.get? j = some call

theorem Proceeds.refl (s : RefundDesk) : Proceeds s s :=
  ⟨fun _ _ => Or.inl, fun _ _ => Or.inl, fun _ _ => Or.inl⟩

theorem proceed_proceeds (op : DeskOp) : Proceeds s (op.proceed s) := by
  cases op with
  | request orderId userId body =>
      simp only [DeskOp.proceed]
      split
      · rename_i routed
        refine ⟨fun i input h => ?_, fun _ _ => Or.inl, fun _ _ => Or.inl⟩
        rcases Table.insert_cases h with ⟨-, rfl⟩ | h
        · exact Or.inr ⟨_, _, _, routed⟩
        · exact Or.inl h
      · exact .refl s
  | read callId =>
      simp only [DeskOp.proceed]
      split
      · rename_i reading
        obtain ⟨input, hinput, hread⟩ := Option.map_eq_some_iff.mp reading
        refine ⟨fun _ _ => Or.inl, fun i call h => ?_, fun _ _ => Or.inl⟩
        rcases Table.insert_cases h with ⟨-, rfl⟩ | h
        · exact Or.inr ⟨callId, input, hinput, hread⟩
        · exact Or.inl h
      · exact .refl s
  | claim callId =>
      simp only [DeskOp.proceed]
      split
      · rename_i claiming
        split
        · refine ⟨fun _ _ => Or.inl, fun _ _ => Or.inl, fun i call h => ?_⟩
          rcases Table.insert_cases h with ⟨-, rfl⟩ | h
          · exact Or.inr ⟨callId, claiming⟩
          · exact Or.inl h
        · exact .refl s
      · exact .refl s
  | _ => exact .refl s

/-- An action that only reads. -/
theorem deskStep_reads {op : DeskOp} (reads : op.writes = false) : (deskStep s op).db = s.db := by
  refine commit_rel (R := fun db db' : Db => db' = db) rfl fun db' h => ?_
  cases op with
  | request orderId userId body =>
      obtain ⟨_, -, rfl⟩ := map_eq_ok.mp h
      rfl
  | read callId =>
      rcases onCall_eq_ok.mp h with ⟨-, rfl⟩ | ⟨input, -, hread⟩
      · rfl
      · obtain ⟨_, -, rfl⟩ := map_eq_ok.mp hread
        rfl
  | reread callId =>
      rcases onCall_eq_ok.mp h with ⟨-, rfl⟩ | ⟨call, -, hreread⟩
      · rfl
      · obtain ⟨_, -, rfl⟩ := map_eq_ok.mp hreread
        rfl
  | reserve _ _ => cases reads
  | finalize _ _ => cases reads
  | release _ _ => cases reads
  | claim _ => cases reads

/-- An action that only reads, or whose transaction throws, leaves the payments
alone. -/
theorem deskStep_unchanged {op : DeskOp}
    (h : op.writes = false ∨ ∃ e, op.transaction s = .error e) :
    (deskStep s op).db.payments = s.db.payments := by
  rcases h with reads | ⟨e, thrown⟩
  · rw [deskStep_reads reads]
  · rw [deskStep, thrown, commit_error]

/-- Finalizing moves money between the two counters. -/
theorem finalize_sum (paymentId : Nat) (amount : ℚ) {p : Nat} {payment : Payment}
    (hp : s.db.payments.get? p = some payment) :
    ∃ payment', (deskStep s (.finalize paymentId amount)).db.payments.get? p = some payment' ∧
      payment'.refundedAmount + payment'.reservedRefundAmount =
        payment.refundedAmount + payment.reservedRefundAmount := by
  refine commit_invariant (I := fun db : Db => ∃ payment', db.payments.get? p = some payment' ∧
      payment'.refundedAmount + payment'.reservedRefundAmount =
        payment.refundedAmount + payment.reservedRefundAmount) ⟨payment, hp, rfl⟩ fun db' h => ?_
  obtain ⟨requested, payments, -, hwork, rfl⟩ := capacityTransaction_eq_ok.mp h
  obtain ⟨_, -, -, -, rfl⟩ := moveReserved_eq_ok.mp hwork
  show ∃ payment', (s.db.payments.update paymentId _).get? p = some payment' ∧ _
  rw [Table.get?_update, hp]
  split
  · refine ⟨payment.moveReserved requested true, rfl, ?_⟩
    simp only [Payment.moveReserved, if_true]
    ring
  · exact ⟨payment, rfl, rfl⟩

theorem DeskInv.step (op : DeskOp) (inv : DeskInv s) (used : op.ForProvider s) :
    DeskInv (deskStep s op) := by
  have happened := deskStep_effect op inv used
  have manual : ∀ p, (∃ payment, s.db.payments.get? p = some payment ∧
        payment.provider = .manual) →
      ∃ payment, (deskStep s op).db.payments.get? p = some payment ∧ payment.provider = .manual := by
    rintro p ⟨payment, hp, provider⟩
    obtain ⟨payment', hp', -, provider'⟩ := happened.kept hp
    exact ⟨payment', hp', provider'.trans provider⟩
  refine ⟨happened.sound inv.sound, fun i input hi => ?_, fun i call hi => ?_⟩
  · rcases (proceed_proceeds op).requested i input hi with old | ⟨_, _, _, routed⟩
    · exact manual _ (inv.requested i input old)
    · obtain ⟨payment, hp, provider, -⟩ := createRefundHandler_manual routed
      exact manual _ ⟨payment, hp, provider⟩
  · have read : 0 < call.amount ∧ ∃ payment, s.db.payments.get? call.paymentId = some payment ∧
        payment.provider = .manual ∧ payment.amount = call.payment.amount := by
      rcases (proceed_proceeds op).claiming i call hi with old | ⟨j, input, hinput, hread⟩
      · exact inv.claiming i call old
      · obtain ⟨same, pos, hp, -⟩ := createRefundReads_claim hread
        obtain ⟨payment, hget, provider⟩ := inv.requested j input hinput
        obtain rfl : call.payment = payment := Option.some.inj (hp.symm.trans (same ▸ hget))
        exact ⟨pos, _, hp, provider, rfl⟩
    obtain ⟨pos, payment, hp, provider, amount⟩ := read
    obtain ⟨payment', hp', amount', provider'⟩ := happened.kept hp
    exact ⟨pos, payment', hp', provider'.trans provider, amount'.trans amount⟩

end Steps

/-! ### Runs -/

/-- No call is under way and the counters are within bounds, as they are when a
payment is created. -/
structure RefundDesk.Opened (s : RefundDesk) : Prop where
  bounded : ∀ p payment, s.db.payments.get? p = some payment → payment.CapacityBounded
  manual : ∀ p payment, s.db.payments.get? p = some payment → payment.provider = .manual →
    payment.reservedRefundAmount = 0
  requested : ∀ i, s.requested.get? i = none
  claiming : ∀ i, s.claiming.get? i = none

theorem RefundDesk.Opened.inv {s : RefundDesk} (h : s.Opened) : DeskInv s where
  sound := fun p payment hp => ⟨h.bounded p payment hp, h.manual p payment hp⟩
  requested := fun i input hi => by simp [h.requested i] at hi
  claiming := fun i call hi => by simp [h.claiming i] at hi

/-- Whatever is reserved, finalized, released and manually refunded, and in
whatever order: every payment stays within its amount, a rejected call changes
no counter, and finalizing changes no sum. -/
theorem refund_capacity_bound {s : RefundDesk} (opened : s.Opened) (ops : List DeskOp)
    (used : ∀ t ∈ transitions deskStep s ops, t.2.ForProvider t.1) :
    (∀ xs, xs <+: ops → ∀ p payment, (run deskStep s xs).db.payments.get? p = some payment →
      payment.CapacityBounded) ∧
    ∀ t ∈ transitions deskStep s ops,
      ((t.2.writes = false ∨ ∃ e, t.2.transaction t.1 = .error e) →
        (deskStep t.1 t.2).db.payments = t.1.db.payments) ∧
      ∀ paymentId amount, t.2 = .finalize paymentId amount →
        ∀ p payment, t.1.db.payments.get? p = some payment →
          ∃ payment', (deskStep t.1 t.2).db.payments.get? p = some payment' ∧
            payment'.refundedAmount + payment'.reservedRefundAmount =
              payment.refundedAmount + payment.reservedRefundAmount := by
  refine ⟨fun xs hxs p payment hp => ?_, fun t _ => ⟨deskStep_unchanged, ?_⟩⟩
  · have inv : DeskInv (run deskStep s xs) :=
      states_invariant_of (fun _ op inv met => inv.step op met) opened.inv used hxs
    exact (inv.sound p payment hp).toCapacityBounded
  · rintro paymentId amount op p payment hp
    rw [op]
    exact finalize_sum paymentId amount hp

/-! ### A desk with both kinds of payment -/

def sampleManualPayment : Payment where
  orderId := 2
  amount := 2000
  currency := "GBP"
  provider := .manual
  providerReference := .other "bank-1" (by decide)
  idempotencyKey := none
  providerCaptureReference := none
  captureIdempotencyKey := none
  status := .succeeded
  paidAt := some 6
  refundedAmount := 0
  reservedRefundAmount := 0

/-- Payment 1 is Stripe's, payment 2 is manual. -/
def sampleDesk : RefundDesk where
  db := { Db.empty with
    orders := (Table.empty.insert sampleOrder).insert sampleOrder
    payments := (Table.empty.insert samplePayment).insert sampleManualPayment }
  requested := .empty
  claiming := .empty
  conflicting := .empty

theorem sampleDesk_opened : sampleDesk.Opened := by
  have zero : ∀ p payment, sampleDesk.db.payments.get? p = some payment →
      payment.refundedAmount = 0 ∧ payment.reservedRefundAmount = 0 ∧ 0 ≤ payment.amount := by
    intro p payment hp
    rw [sampleDesk, Table.get?_insert, Table.get?_insert] at hp
    split at hp
    · obtain rfl := Option.some.inj hp
      decide
    · split at hp
      · obtain rfl := Option.some.inj hp
        decide
      · cases hp
  refine ⟨fun p payment hp => ?_, fun p payment hp _ => (zero p payment hp).2.1,
    fun _ => rfl, fun _ => rfl⟩
  obtain ⟨refunded, reserved, amount⟩ := zero p payment hp
  exact ⟨refunded.ge, reserved.ge, by rw [refunded, reserved]; exact amount⟩

/-- A reservation settled in two parts beside a manual refund that is claimed
twice. -/
def sampleRefunding : List DeskOp :=
  [.reserve 1 20, .request 2 7 ⟨2, 15, some " R-1 ", none, none⟩, .reserve 1 (25 / 2), .read 1,
    .read 1, .claim 1, .finalize 1 (15 / 2), .claim 2, .release 1 (25 / 2), .release 1 (1 / 3)]

theorem refund_capacity_bound_sample :
    (∀ xs, xs <+: sampleRefunding → ∀ p payment,
      (run deskStep sampleDesk xs).db.payments.get? p = some payment → payment.CapacityBounded) ∧
    ∀ t ∈ transitions deskStep sampleDesk sampleRefunding,
      ((t.2.writes = false ∨ ∃ e, t.2.transaction t.1 = .error e) →
        (deskStep t.1 t.2).db.payments = t.1.db.payments) ∧
      ∀ paymentId amount, t.2 = .finalize paymentId amount →
        ∀ p payment, t.1.db.payments.get? p = some payment →
          ∃ payment', (deskStep t.1 t.2).db.payments.get? p = some payment' ∧
            payment'.refundedAmount + payment'.reservedRefundAmount =
              payment.refundedAmount + payment.reservedRefundAmount :=
  refund_capacity_bound sampleDesk_opened sampleRefunding (by decide +kernel)

end ColorfulLife
