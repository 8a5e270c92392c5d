/-
Repeated and conflicting manual refunds.

The refunds of a payment are booked exactly once under every interleaving
(`BooksInv`). What a call answers depends on where it stands: a call that reads
after the row was committed returns it, and so does one that runs into the
unique index. Only a claim that was overtaken by its own duplicate, on a payment
with too little left for the amount, is refused (`DeskOp.Overtaken`).
-/

import ColorfulLife.Refunds.Bound

namespace ColorfulLife

open Relational

/-! ### Questions and answers -/

/-- What a call asks for. -/
structure RefundAsk where
  paymentId : Nat
  amount : Pence
  reference : String
  deriving DecidableEq, Repr

/-- The arguments of a call that passes its checks on them. -/
def ManualRefundInput.ask (input : ManualRefundInput) : Option RefundAsk :=
  if trim input.providerReference = "" ∨ input.reason.map trim = some "" then none
  else (penceOf input.amount).map fun amount =>
    ⟨input.paymentId, amount, trim input.providerReference⟩

def ManualRefundCall.ask (call : ManualRefundCall) : RefundAsk :=
  ⟨call.paymentId, call.amount, call.normalizedReference⟩

theorem ManualRefundInput.ask_paymentId {input : ManualRefundInput} {ask : RefundAsk}
    (h : input.ask = some ask) : ask.paymentId = input.paymentId := by
  unfold ManualRefundInput.ask at h
  split at h
  · cases h
  · obtain ⟨amount, -, rfl⟩ := Option.map_eq_some_iff.mp h
    rfl

/-- What the call asks for that an action carries on with. -/
def DeskOp.ask (s : RefundDesk) : DeskOp → Option RefundAsk
  | .read callId => (s.requested.get? callId).bind ManualRefundInput.ask
  | .claim callId => (s.claiming.get? callId).map ManualRefundCall.ask
  | .reread callId => (s.conflicting.get? callId).map ManualRefundCall.ask
  | _ => none

/-- `{ refund, created }`, or the error that a call ends with; `none` while it
goes on. -/
def DeskOp.answer (s : RefundDesk) : DeskOp → Option (Result (Nat × Bool))
  | .read callId =>
      match (s.requested.get? callId).map fun input => createRefundReads input s.db with
      | some (.ok (.existing id _)) => some (.ok (id, false))
      | some (.error e) => some (.error e)
      | _ => none
  | .claim callId =>
      match (s.claiming.get? callId).map fun call => createRefundWrites call s.db with
      | some (.ok (_, id)) => some (.ok (id, true))
      | some (.error .uniqueViolation) => none
      | some (.error e) => some (.error e)
      | none => none
  | .reread callId => (s.conflicting.get? callId).map fun call =>
      (createRefundConflict call s.db).map fun id => (id, false)
  | _ => none

/-! ### The books -/

/-- The refunds of a payment. -/
def refundsOf (paymentId : Nat) (refunds : Table Refund) : Pence :=
  refunds.sum fun _ r => if r.paymentId = paymentId then r.amount else 0

/-- A manual payment that succeeded. -/
def Payment.Refundable (payment : Payment) : Prop :=
  payment.provider = .manual ∧ payment.status = .succeeded

instance (payment : Payment) : Decidable payment.Refundable := by
  unfold Payment.Refundable; infer_instance

/-- What a payment counts as refunded is what its refunds sum up to. -/
def RefundDesk.Accounted (s : RefundDesk) : Prop :=
  ∀ p payment, s.db.payments.get? p = some payment → payment.Refundable →
    payment.refundedAmount = refundsOf p s.db.refunds ∧ payment.refundedAmount ≤ payment.amount

/-- A reference has one refund. -/
def RefundDesk.OneEach (s : RefundDesk) : Prop :=
  ∀ reference i j r r', s.db.refunds.get? i = some r → s.db.refunds.get? j = some r' →
    r.provider = .manual → r'.provider = .manual → r.providerReference = .ofText reference →
    r'.providerReference = .ofText reference → i = j

/-- A call that meets a refund with its reference changes nothing. It returns
that refund if it is the one that was asked for, and fails otherwise. -/
def DeskOp.Honours (s : RefundDesk) (op : DeskOp) : Prop :=
  ∀ ask ∈ op.ask s, ∀ payment ∈ s.db.payments.get? ask.paymentId, payment.Refundable →
    ∀ id row, findManualRefund ask.reference s.db.refunds = some (id, row) →
      (deskStep s op).db = s.db ∧
      ∀ answer ∈ op.answer s,
        if row.paymentId = ask.paymentId ∧ row.amount = ask.amount then answer = .ok (id, false)
        else ∃ e, answer = .error e

/-- What manual refunds promise about a run. -/
structure RefundsKept (s : RefundDesk) (ops : List DeskOp) : Prop where
  accounted : ∀ xs, xs <+: ops → (run deskStep s xs).Accounted
  oneEach : ∀ xs, xs <+: ops → (run deskStep s xs).OneEach
  honoured : ∀ t ∈ transitions deskStep s ops, t.2.Honours t.1

/-- A call claims an amount that the payment has not left, and its own duplicate
was committed since its reads. -/
def DeskOp.Overtaken (s : RefundDesk) : DeskOp → Prop
  | .claim callId =>
      ∃ call ∈ s.claiming.get? callId, ∃ payment ∈ s.db.payments.get? call.paymentId,
        ∃ e ∈ findManualRefund call.normalizedReference s.db.refunds,
          payment.Refundable ∧ e.2.paymentId = call.paymentId ∧ e.2.amount = call.amount ∧
            payment.amount < payment.refundedAmount + call.amount
  | _ => False

instance (s : RefundDesk) : (op : DeskOp) → Decidable (op.Overtaken s)
  | .claim _ => by unfold DeskOp.Overtaken; infer_instance
  | .reserve _ _ | .finalize _ _ | .release _ _ | .request _ _ _ | .read _ | .reread _ =>
      inferInstanceAs (Decidable False)

/-! ### The invariant -/

/-- The payment of a call, as the call read it. -/
def ManualRefundCall.Stands (call : ManualRefundCall) (payments : Table Payment) : Prop :=
  ∃ payment, payments.get? call.paymentId = some payment ∧ payment.orderId = call.orderId ∧
    payment.Refundable ∧ payment.amount = call.payment.amount

structure BooksInv (s : RefundDesk) : Prop where
  desk : DeskInv s
  sums : ∀ p payment, s.db.payments.get? p = some payment → payment.Refundable →
    payment.refundedAmount = refundsOf p s.db.refunds
  unique : s.db.refunds.Unique Refund.clash
  placed : ∀ i r, s.db.refunds.get? i = some r → r.provider = .manual →
    ∃ payment, s.db.payments.get? r.paymentId = some payment ∧ r.orderId = payment.orderId
  orders : ∀ p payment, s.db.payments.get? p = some payment →
    ∃ order, s.db.orders.get? payment.orderId = some order
  requested : ∀ i input, s.requested.get? i = some input →
    ∃ payment, s.db.payments.get? input.paymentId = some payment ∧
      payment.orderId = input.orderId
  claiming : ∀ i call, s.claiming.get? i = some call → call.Stands s.db.payments
  conflicting : ∀ i call, s.conflicting.get? i = some call → call.Stands s.db.payments

/-- The columns of a payment that no refund touches. -/
def SamePayment (_ : Nat) (p p' : Payment) : Prop :=
  p'.orderId = p.orderId ∧ p'.amount = p.amount ∧ p'.provider = p.provider ∧ p'.status = p.status

section Steps

variable {s : RefundDesk} {op : DeskOp} {db' : Db} {payments payments' : Table Payment}

/-- What an action does to the books. -/
inductive BooksEffect (s : RefundDesk) : DeskOp → Db → Prop where
  | keep (op : DeskOp) : BooksEffect s op s.db
  | foreign {op : DeskOp} {p : Nat} {f : Payment → Payment} (same : ∀ j r, SamePayment j r (f r))
      (provider : ∀ payment ∈ s.db.payments.get? p, payment.provider ≠ .manual) :
      BooksEffect s op { s.db with payments := s.db.payments.update p f }
  | refund {callId : Nat} {call : ManualRefundCall} {payment : Payment}
      (hcall : s.claiming.get? callId = some call)
      (hp : s.db.payments.get? call.paymentId = some payment)
      (free : s.db.refunds.clashes Refund.clash s.db.refunds.nextId call.newRefund = false) :
      BooksEffect s (.claim callId)
        { s.db with
          payments := s.db.payments.update call.paymentId (Payment.refund call.amount)
          refunds := s.db.refunds.insert call.newRefund }

theorem transaction_books (used : op.ForProvider s) (h : op.transaction s = .ok db') :
    BooksEffect s op db' := by
  have moves : ∀ paymentId amount finalize,
      (∀ payment ∈ s.db.payments.get? paymentId, payment.provider ≠ .manual) →
      capacityTransaction amount (fun requested => moveReserved paymentId requested finalize) s.db =
        .ok db' → BooksEffect s op db' := by
    intro paymentId amount finalize used h
    obtain ⟨requested, payments, -, hwork, rfl⟩ := capacityTransaction_eq_ok.mp h
    obtain ⟨payment, hp, -, -, rfl⟩ := moveReserved_eq_ok.mp hwork
    exact .foreign (fun _ _ => ⟨rfl, rfl, rfl, rfl⟩) used
  cases op with
  | reserve paymentId amount =>
      obtain ⟨requested, payments, -, hwork, rfl⟩ := capacityTransaction_eq_ok.mp h
      obtain ⟨payment, hp, -, -, rfl⟩ := reserveRefundCapacity_eq_ok.mp hwork
      exact .foreign (fun _ _ => ⟨rfl, rfl, rfl, rfl⟩) used
  | finalize paymentId amount => exact moves paymentId amount true used h
  | release paymentId amount => exact moves paymentId amount false used h
  | request orderId userId body =>
      obtain ⟨_, -, rfl⟩ := map_eq_ok.mp h
      exact .keep _
  | read callId =>
      rcases onCall_eq_ok.mp h with ⟨-, rfl⟩ | ⟨input, -, hread⟩
      · exact .keep _
      · obtain ⟨_, -, rfl⟩ := map_eq_ok.mp hread
        exact .keep _
  | claim callId =>
      rcases onCall_eq_ok.mp h with ⟨-, rfl⟩ | ⟨call, hcall, hclaim⟩
      · exact .keep _
      · obtain ⟨⟨db₁, refundId⟩, hwrites, rfl⟩ := map_eq_ok.mp hclaim
        obtain ⟨payment, hp, -, free, -, rfl⟩ := createRefundWrites_ok hwrites
        exact .refund hcall hp free
  | reread callId =>
      rcases onCall_eq_ok.mp h with ⟨-, rfl⟩ | ⟨call, -, hreread⟩
      · exact .keep _
      · obtain ⟨_, -, rfl⟩ := map_eq_ok.mp hreread
        exact .keep _

theorem deskStep_books (used : op.ForProvider s) : BooksEffect s op (deskStep s op).db :=
  commit_rel (R := fun _ db' => BooksEffect s op db') (.keep op)
    fun _ h => transaction_books used h

/-- Every payment keeps its order, amount, provider and status. -/
theorem BooksEffect.rows (happened : BooksEffect s op db') :
    Table.Rows SamePayment s.db.payments db'.payments := by
  have refl : ∀ j r, SamePayment j r r := fun _ _ => ⟨rfl, rfl, rfl, rfl⟩
  cases happened with
  | keep => exact .refl refl _
  | foreign same _ => exact Table.rows_update (fun r _ => same _ r) fun j r _ => refl j r
  | refund _ _ _ =>
      exact Table.rows_update (fun _ _ => ⟨rfl, rfl, rfl, rfl⟩) fun j r _ => refl j r

theorem ManualRefundCall.Stands.kept {call : ManualRefundCall} (h : call.Stands payments)
    (rows : Table.Rows SamePayment payments payments') : call.Stands payments' := by
  obtain ⟨payment, hp, order, ⟨provider, status⟩, amount⟩ := h
  obtain ⟨payment', hp', order', amount', provider', status'⟩ := rows.forward hp
  exact ⟨payment', hp', order'.trans order, ⟨provider'.trans provider, status'.trans status⟩,
    amount'.trans amount⟩

theorem refundsOf_insert (p : Nat) (refunds : Table Refund) (r : Refund) :
    refundsOf p (refunds.insert r) =
      refundsOf p refunds + if r.paymentId = p then r.amount else 0 :=
  Table.sum_insert refunds r _

/-- A payment that counts its refunds goes on counting them. -/
theorem BooksEffect.sums (happened : BooksEffect s op db') (inv : BooksInv s) {p : Nat}
    {payment : Payment} (hp : db'.payments.get? p = some payment) (refundable : payment.Refundable) :
    payment.refundedAmount = refundsOf p db'.refunds := by
  cases happened with
  | keep => exact inv.sums p payment hp refundable
  | @foreign _ q f same provider =>
      rw [Table.get?_update] at hp
      split at hp
      · rename_i own
        obtain ⟨payment, old, rfl⟩ := Option.map_eq_some_iff.mp hp
        obtain ⟨-, -, kept, -⟩ := same p payment
        exact absurd (kept.symm.trans refundable.1) (provider payment (own ▸ old))
      · exact inv.sums p payment hp refundable
  | @refund callId call old hcall hold free =>
      change payment.refundedAmount = refundsOf p (s.db.refunds.insert call.newRefund)
      rw [refundsOf_insert]
      rcases Table.update_cases hold hp with ⟨rfl, rfl⟩ | ⟨other, kept⟩
      · have booked := inv.sums _ old hold refundable
        simp only [ManualRefundCall.newRefund, if_true, Payment.refund, booked]
      · have elsewhere : call.newRefund.paymentId ≠ p := Ne.symm other
        rw [if_neg elsewhere, add_zero]
        exact inv.sums p payment kept refundable

theorem BooksEffect.unique (happened : BooksEffect s op db') (inv : BooksInv s) :
    db'.refunds.Unique Refund.clash := by
  cases happened with
  | keep => exact inv.unique
  | foreign _ _ => exact inv.unique
  | refund _ _ free => exact inv.unique.insert Refund.clash_comm free

/-- A manual refund belongs to the order of its payment. -/
theorem BooksEffect.placed (happened : BooksEffect s op db') (inv : BooksInv s) {i : Nat}
    {r : Refund} (hr : db'.refunds.get? i = some r) (manual : r.provider = .manual) :
    ∃ payment, db'.payments.get? r.paymentId = some payment ∧ r.orderId = payment.orderId := by
  have rows := happened.rows
  have old : s.db.refunds.get? i = some r → ∃ payment,
      db'.payments.get? r.paymentId = some payment ∧ r.orderId = payment.orderId := by
    intro hr
    obtain ⟨payment, hp, order⟩ := inv.placed i r hr manual
    obtain ⟨payment', hp', order', -⟩ := rows.forward hp
    exact ⟨payment', hp', order.trans order'.symm⟩
  cases happened with
  | keep => exact old hr
  | foreign _ _ => exact old hr
  | @refund callId call _ hcall _ _ =>
      rcases Table.insert_cases hr with ⟨-, rfl⟩ | hr
      · obtain ⟨payment, hp, order, -⟩ := (inv.claiming callId call hcall).kept rows
        exact ⟨payment, hp, order.symm⟩
      · exact old hr

theorem BooksEffect.orders (happened : BooksEffect s op db') : db'.orders = s.db.orders := by
  cases happened <;> rfl

theorem BooksInv.step (inv : BooksInv s) (op : DeskOp) (used : op.ForProvider s) :
    BooksInv (deskStep s op) := by
  have happened := deskStep_books used
  have rows := happened.rows
  refine ⟨inv.desk.step op used, fun p payment => happened.sums inv, happened.unique inv,
    fun i r => happened.placed inv, fun p payment hp => ?_, fun i input hi => ?_,
    fun i call hi => ?_, fun i call hi => ?_⟩
  · obtain ⟨old, hold, order, -⟩ := rows.backward hp
    rw [happened.orders, order]
    exact inv.orders p old hold
  · have placed : ∃ payment, s.db.payments.get? input.paymentId = some payment ∧
        payment.orderId = input.orderId := by
      rcases (proceed_proceeds op).requested i input hi with old | ⟨_, _, _, routed⟩
      · exact inv.requested i input old
      · obtain ⟨payment, hp, -, order⟩ := createRefundHandler_manual routed
        exact ⟨payment, hp, order⟩
    obtain ⟨payment, hp, order⟩ := placed
    obtain ⟨payment', hp', order', -⟩ := rows.forward hp
    exact ⟨payment', hp', order'.trans order⟩
  · rcases (proceed_proceeds op).claiming i call hi with old | ⟨j, input, hinput, hread⟩
    · exact (inv.claiming i call old).kept rows
    · obtain ⟨same, -, hp, order, status⟩ := createRefundReads_claim hread
      obtain ⟨payment, hget, provider⟩ := inv.desk.requested j input hinput
      obtain rfl : call.payment = payment := Option.some.inj (hp.symm.trans (same ▸ hget))
      have stands : call.Stands s.db.payments := ⟨_, hp, order, ⟨provider, status⟩, rfl⟩
      exact stands.kept rows
  · rcases (proceed_proceeds op).conflicting i call hi with old | ⟨j, claiming⟩
    · exact (inv.conflicting i call old).kept rows
    · exact (inv.claiming j call claiming).kept rows

end Steps

/-! ### What a call meets -/

theorem findManualRefund_eq_some {reference : String} {refunds : Table Refund} {id : Nat}
    {row : Refund} (h : findManualRefund reference refunds = some (id, row)) :
    refunds.get? id = some row ∧ row.provider = .manual ∧
      row.providerReference = .ofText reference := by
  obtain ⟨hget, found⟩ := Table.find?_eq_some h
  exact ⟨hget, of_decide_eq_true found⟩

section Answers

variable {s : RefundDesk} {op : DeskOp} {db : Db} {call : ManualRefundCall} {id : Nat} {row : Refund}

/-- A claim whose reference has a refund already. -/
theorem createRefundWrites_refused {payment : Payment}
    (hp : db.payments.get? call.paymentId = some payment) (order : payment.orderId = call.orderId)
    (refundable : payment.Refundable) (amount : payment.amount = call.payment.amount)
    (found : findManualRefund call.normalizedReference db.refunds = some (id, row)) :
    createRefundWrites call db = .error (if payment.refundedAmount + call.amount ≤ payment.amount
      then .uniqueViolation else .refundAmountExceeded call.paymentId) := by
  obtain ⟨hrow, provider, reference⟩ := findManualRefund_eq_some found
  have taken : db.refunds.clashes Refund.clash db.refunds.nextId call.newRefund = true := by
    by_contra free
    have clashes := Table.clashes_eq_false.mp (Bool.eq_false_iff.mpr free) id row hrow
      (by simp [Refund.clash, ManualRefundCall.newRefund, provider, reference])
    rw [clashes, Table.get?_nextId] at hrow
    cases hrow
  have claims : call.claims payment =
      decide (payment.refundedAmount + call.amount ≤ payment.amount) := by
    unfold ManualRefundCall.claims
    rw [decide_eq_decide, amount]
    constructor
    · rintro ⟨-, -, room⟩
      linarith
    · intro room
      exact ⟨order, refundable.2, by linarith⟩
  by_cases room : payment.refundedAmount + call.amount ≤ payment.amount
  · have claimed : db.payments.updateIf call.paymentId call.claims (Payment.refund call.amount) =
        some (db.payments.update call.paymentId (Payment.refund call.amount)) :=
      Table.updateIf_eq_some.mpr ⟨payment, hp, claims.trans (decide_eq_true room), rfl⟩
    have refused : createRow Refund.clash call.newRefund db.refunds =
        .error DomainError.uniqueViolation := by
      refine bind_eq_error.mpr (Or.inl (ensure_eq_error.mpr ⟨?_, rfl⟩))
      simp [taken]
    rw [if_pos room]
    exact bind_eq_error.mpr (Or.inr ⟨_, orThrow_eq_ok.mpr claimed,
      bind_eq_error.mpr (Or.inl refused)⟩)
  · have exceeded : db.payments.updateIf call.paymentId call.claims (Payment.refund call.amount) =
        none := by
      rw [Table.updateIf, hp]
      exact if_neg (by rw [claims, decide_eq_true_eq]; exact room)
    rw [if_neg room]
    exact bind_eq_error.mpr (Or.inl (orThrow_eq_error.mpr ⟨exceeded, rfl⟩))

/-- A read whose reference has a refund already. -/
theorem createRefundReads_met {input : ManualRefundInput} {ask : RefundAsk} {payment : Payment}
    {order : Order} (asked : input.ask = some ask)
    (hp : db.payments.get? ask.paymentId = some payment)
    (own : payment.orderId = input.orderId) (ordered : db.orders.get? payment.orderId = some order)
    (refundable : payment.Refundable)
    (found : findManualRefund ask.reference db.refunds = some (id, row)) :
    createRefundReads input db = if row.paymentId = ask.paymentId ∧ row.amount = ask.amount
      then .ok (.existing id row) else .error (.refundProviderReferenceConflict ask.reference) := by
  unfold ManualRefundInput.ask at asked
  split at asked
  · cases asked
  · rename_i checks
    rw [not_or] at checks
    obtain ⟨amount, hamount, rfl⟩ := Option.map_eq_some_iff.mp asked
    dsimp only at hp found
    have read : ((db.payments.get? input.paymentId).filter fun p =>
        decide (p.orderId = input.orderId)) = some payment := by
      rw [hp]
      exact Option.filter_some_pos (decide_eq_true own)
    rw [own] at ordered
    have passed : createRefundReads input db = (do
        ensure (row.paymentId = input.paymentId ∧ row.amount = amount)
          (DomainError.refundProviderReferenceConflict (trim input.providerReference))
        return .existing id row) := by
      simp only [createRefundReads, bind, Except.bind, orThrow, ensure, hamount, ne_eq, checks.1,
        checks.2, not_false_eq_true, if_true, ordered, read, refundable.2, found]
    rw [passed]
    by_cases same : row.paymentId = input.paymentId ∧ row.amount = amount
    · rw [if_pos same]
      exact bind_eq_ok.mpr ⟨⟨⟩, ensure_eq_ok.mpr same, rfl⟩
    · rw [if_neg same]
      exact bind_eq_error.mpr (Or.inl (ensure_eq_error.mpr ⟨same, rfl⟩))

/-- A call that goes back to the row that broke its insertion. -/
theorem createRefundConflict_met {payment : Payment}
    (found : findManualRefund call.normalizedReference db.refunds = some (id, row))
    (hp : db.payments.get? call.paymentId = some payment) (order : payment.orderId = call.orderId)
    (placed : ∃ payment, db.payments.get? row.paymentId = some payment ∧
      row.orderId = payment.orderId) :
    createRefundConflict call db = if row.paymentId = call.paymentId ∧ row.amount = call.amount
      then .ok id else .error (.refundProviderReferenceConflict call.normalizedReference) := by
  unfold createRefundConflict
  rw [found]
  refine if_congr ⟨And.right, fun same => ⟨?_, same⟩⟩ rfl rfl
  obtain ⟨payment', hp', order'⟩ := placed
  rw [same.1, hp] at hp'
  obtain rfl := Option.some.inj hp'
  exact order'.trans order

/-- Every call is honoured unless its own duplicate has overtaken it. -/
theorem BooksInv.honours_iff (inv : BooksInv s) (op : DeskOp) : op.Honours s ↔ ¬ op.Overtaken s := by
  constructor
  · intro honours overtaken
    cases op with
    | claim callId => ?_
    | _ => exact overtaken
    obtain ⟨call, hcall, payment, hp, ⟨id, row⟩, found, refundable, same, equal, short⟩ := overtaken
    have asked : call.ask ∈ DeskOp.ask s (.claim callId) :=
      Option.map_eq_some_iff.mpr ⟨call, hcall, rfl⟩
    obtain ⟨old, hold, order, -, amount⟩ := inv.claiming callId call hcall
    obtain rfl : payment = old := Option.some.inj (hp.symm.trans hold)
    have refused := createRefundWrites_refused hp order refundable amount found
    rw [if_neg (not_le.mpr short)] at refused
    have answer : (.error (.refundAmountExceeded call.paymentId) : Result (Nat × Bool)) ∈
        DeskOp.answer s (.claim callId) := by
      simp [DeskOp.answer, Option.mem_def.mp hcall, refused]
    have kept := (honours call.ask asked payment hp refundable id row found).2 _ answer
    rw [if_pos ⟨same, equal⟩] at kept
    cases kept
  · intro clear ask asked payment hp refundable id row found
    cases op with
    | read callId =>
        refine ⟨deskStep_reads rfl, fun answer answered => ?_⟩
        obtain ⟨input, hinput, parsed⟩ := Option.bind_eq_some_iff.mp asked
        obtain ⟨old, hold, own⟩ := inv.requested callId input hinput
        obtain ⟨order, ordered⟩ := inv.orders ask.paymentId payment hp
        have same : ask.paymentId = input.paymentId := ManualRefundInput.ask_paymentId parsed
        obtain rfl : payment = old := Option.some.inj (hp.symm.trans (same ▸ hold))
        have read := createRefundReads_met parsed hp own ordered refundable found
        by_cases asks : row.paymentId = ask.paymentId ∧ row.amount = ask.amount
        · rw [if_pos asks] at read ⊢
          simp only [DeskOp.answer, hinput, Option.map_some, read, Option.mem_some] at answered
          exact answered.symm
        · rw [if_neg asks] at read ⊢
          simp only [DeskOp.answer, hinput, Option.map_some, read, Option.mem_some] at answered
          exact ⟨_, answered.symm⟩
    | claim callId =>
        obtain ⟨call, hcall, rfl⟩ := Option.map_eq_some_iff.mp asked
        obtain ⟨old, hold, order, -, amount⟩ := inv.claiming callId call hcall
        obtain rfl : payment = old := Option.some.inj (hp.symm.trans hold)
        have refused := createRefundWrites_refused hold order refundable amount found
        refine ⟨?_, fun answer answered => ?_⟩
        · change commit (onCall (s.claiming.get? callId) s.db fun call =>
            (createRefundWrites call s.db).map Prod.fst) s.db = s.db
          rw [hcall, onCall, refused]
          rfl
        · by_cases room : payment.refundedAmount + call.amount ≤ payment.amount
          · rw [if_pos room] at refused
            simp only [DeskOp.answer, hcall, Option.map_some, refused, Option.not_mem_none] at answered
          · rw [if_neg room] at refused
            simp only [DeskOp.answer, hcall, Option.map_some, refused, Option.mem_some] at answered
            have other : ¬ (row.paymentId = call.paymentId ∧ row.amount = call.amount) :=
              fun same => clear ⟨call, hcall, payment, hold, (id, row), found, refundable, same.1,
                same.2, not_le.mp room⟩
            exact (if_neg other).mpr ⟨_, answered.symm⟩
    | reread callId =>
        refine ⟨deskStep_reads rfl, fun answer answered => ?_⟩
        obtain ⟨call, hcall, rfl⟩ := Option.map_eq_some_iff.mp asked
        obtain ⟨old, hold, order, -, -⟩ := inv.conflicting callId call hcall
        obtain rfl : payment = old := Option.some.inj (hp.symm.trans hold)
        obtain ⟨hrow, provider, -⟩ := findManualRefund_eq_some found
        have met := createRefundConflict_met found hold order (inv.placed id row hrow provider)
        by_cases asks : row.paymentId = call.paymentId ∧ row.amount = call.amount
        · rw [if_pos asks] at met
          simp only [DeskOp.answer, hcall, Option.map_some, met, Option.mem_some] at answered
          exact (if_pos asks).mpr answered.symm
        · rw [if_neg asks] at met
          simp only [DeskOp.answer, hcall, Option.map_some, met, Option.mem_some] at answered
          exact (if_neg asks).mpr ⟨_, answered.symm⟩
    | _ => cases asked

end Answers

/-! ### Runs -/

theorem BooksInv.accounted {s : RefundDesk} (inv : BooksInv s) : s.Accounted := by
  intro p payment hp refundable
  have sound := inv.desk.sound p payment hp
  refine ⟨inv.sums p payment hp refundable, ?_⟩
  linarith [sound.within, sound.reserved_nonneg]

theorem BooksInv.oneEach {s : RefundDesk} (inv : BooksInv s) : s.OneEach := by
  intro reference i j r r' hr hr' manual manual' written written'
  refine inv.unique i j r r' hr hr' ?_
  simp [Refund.clash, manual, manual', written, written']

/-- No call is under way, and the refunds so far are booked. -/
structure RefundDesk.Balanced (s : RefundDesk) : Prop extends s.Opened where
  conflicting : ∀ i, s.conflicting.get? i = none
  sums : ∀ p payment, s.db.payments.get? p = some payment → payment.Refundable →
    payment.refundedAmount = refundsOf p s.db.refunds
  unique : s.db.refunds.Unique Refund.clash
  placed : ∀ i r, s.db.refunds.get? i = some r → r.provider = .manual →
    ∃ payment, s.db.payments.get? r.paymentId = some payment ∧ r.orderId = payment.orderId
  orders : ∀ p payment, s.db.payments.get? p = some payment →
    ∃ order, s.db.orders.get? payment.orderId = some order

theorem RefundDesk.Balanced.books {s : RefundDesk} (h : s.Balanced) : BooksInv s where
  desk := h.toOpened.inv
  sums := h.sums
  unique := h.unique
  placed := h.placed
  orders := h.orders
  requested := fun i input hi => by simp [h.requested i] at hi
  claiming := fun i call hi => by simp [h.claiming i] at hi
  conflicting := fun i call hi => by simp [h.conflicting i] at hi

/-- Manual refunds are booked once under every interleaving; they are answered
as promised exactly when no claim is overtaken by its own duplicate on a payment
with too little left. -/
theorem manual_refunds_kept_iff {s : RefundDesk} (balanced : s.Balanced) (ops : List DeskOp)
    (used : ∀ t ∈ transitions deskStep s ops, t.2.ForProvider t.1) :
    RefundsKept s ops ↔ ∀ t ∈ transitions deskStep s ops, ¬ t.2.Overtaken t.1 := by
  have keeps : ∀ s op, BooksInv s → op.ForProvider s → BooksInv (deskStep s op) :=
    fun _ op inv met => inv.step op met
  have before := transitions_invariant_of keeps balanced.books used
  constructor
  · intro kept t ht
    exact ((before t ht).honours_iff t.2).mp (kept.honoured t ht)
  · intro clear
    refine ⟨fun xs hxs => ?_, fun xs hxs => ?_, fun t ht => ?_⟩
    · exact (states_invariant_of keeps balanced.books used hxs).accounted
    · exact (states_invariant_of keeps balanced.books used hxs).oneEach
    · exact ((before t ht).honours_iff t.2).mpr (clear t ht)

/-! ### Two identical requests -/

theorem sampleDesk_balanced : sampleDesk.Balanced where
  toOpened := sampleDesk_opened
  conflicting := fun _ => rfl
  sums := fun p payment hp _ => by
    rw [sampleDesk, Table.get?_insert, Table.get?_insert] at hp
    split at hp
    · obtain rfl := Option.some.inj hp
      rfl
    · split at hp
      · obtain rfl := Option.some.inj hp
        rfl
      · cases hp
  unique := .empty
  placed := fun _ _ hr => nomatch hr
  orders := fun p payment hp => by
    rw [sampleDesk, Table.get?_insert, Table.get?_insert] at hp
    split at hp
    · obtain rfl := Option.some.inj hp
      exact ⟨_, rfl⟩
    · split at hp
      · obtain rfl := Option.some.inj hp
        exact ⟨_, rfl⟩
      · cases hp

/-- Two identical requests that have both read; the first one has claimed. -/
def racingRefunds (amount : ℚ) : List DeskOp :=
  [.request 2 7 ⟨2, amount, some "R-1", none, none⟩, .request 2 7 ⟨2, amount, some "R-1", none, none⟩,
    .read 1, .read 2, .claim 1]

/-- For the whole payment, the second one is refused. -/
theorem racingRefunds_not_kept : sampleDesk.Balanced ∧
    ¬ RefundsKept sampleDesk (racingRefunds 20 ++ [.claim 2]) := by
  apply And.intro sampleDesk_balanced
  intro kept
  have last : (run deskStep sampleDesk (racingRefunds 20), .claim 2) ∈
      transitions deskStep sampleDesk (racingRefunds 20 ++ [.claim 2]) :=
    mem_transitions.mpr ⟨racingRefunds 20, List.prefix_rfl, rfl⟩
  have honours := kept.honoured _ last ⟨2, 2000, "R-1"⟩ (by decide +kernel)
    { sampleManualPayment with refundedAmount := 2000 } (by decide +kernel) (by decide +kernel)
    1 ⟨2, 2, 2000, "GBP", .succeeded, .manual, .ofText "R-1", none, none, 7⟩ (by decide +kernel)
  have answer : DeskOp.answer (run deskStep sampleDesk (racingRefunds 20)) (.claim 2) =
      some (.error (.refundAmountExceeded 2)) := by decide +kernel
  cases honours.2 _ answer

/-- For a quarter of it, the second one gets the refund of the first. -/
theorem manual_refunds_kept_sample :
    RefundsKept sampleDesk (racingRefunds 5 ++ [.claim 2, .reread 1]) :=
  (manual_refunds_kept_iff sampleDesk_balanced _ (by decide +kernel)).mpr (by decide +kernel)

end ColorfulLife
