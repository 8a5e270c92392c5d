/-
What every interleaving of expiries and successes commits.

The one hypothesis about a run is that no order is claimed while an event holds
the decision that its capture was in time. The claims look at the payments
without locking them, so it is not enough to finish before the claim commits.
-/

import ColorfulLife.Checkout.ExpirySafety

namespace ColorfulLife

open Relational

/-! ### One action -/

/-- The ids of Stripe's events are Stripe's. -/
def RaceOp.Named : RaceOp → Prop
  | .beginStripe event => NamedByStripe event.id
  | _ => True

/-- The action is the claim of an expiry, and takes the order. -/
def RaceOp.Claims (s : RaceState) (o : Nat) : RaceOp → Prop
  | .advance k => ∃ asOf order, s.txs.get? k = some (.expiryLocked o asOf) ∧
      s.db.orders.get? o = some order ∧ order.isExpirable o asOf s.db
  | _ => False

/-- An order is claimed only while no event in flight has found its capture in
time. -/
def RaceOp.ClaimsUndecided (s : RaceState) (op : RaceOp) : Prop :=
  ∀ o, op.Claims s o → ∀ k event p payment read captureId now,
    s.txs.get? k = some (.eventTimed event (.succeed p payment read captureId) now) →
    payment.orderId = o → read.isExpiredAt now = true

/-- Nothing committed has both winners without an exception. -/
def RaceState.Traced (s : RaceState) : Prop :=
  ∀ p payment, s.db.payments.get? p = some payment → payment.status = .succeeded →
    orderStatus s.db payment.orderId = some .expired →
    payment.provider ≠ .manual ∧ s.Reported p

/-- A claim that meets a committed success ends its transaction without a write. -/
def RaceOp.SparesPaid (number : String → Option Nat) (s : RaceState) (op : RaceOp) : Prop :=
  ∀ k o asOf p payment, op = .advance k → s.txs.get? k = some (.expiryLocked o asOf) →
    s.db.payments.get? p = some payment → payment.orderId = o → payment.status = .succeeded →
    (raceStep number s op).db = s.db ∧ (raceStep number s op).txs.get? k = none

/-- No transaction is running. -/
structure RaceStart (s : RaceState) : Prop where
  idle : ∀ k, s.txs.get? k = none
  captures : ∀ c call, s.captures.get? c = some call →
    PaymentOf .paypal s.db.payments call.paymentId call.orderId
  traced : s.Traced
  named : ∀ p id, (p, .stripeEvent id) ∈ s.reported → NamedByStripe id

section Step

variable {number : String → Option Nat} {s s' : RaceState}

theorem RaceStart.inv (start : RaceStart s) : RaceInv s where
  exclusive := fun j k tx tx' o hj => absurd hj (by simp [start.idle])
  running := fun k tx hk => absurd hk (by simp [start.idle])
  captures := start.captures
  settled := fun p payment hp success closing => by
    refine start.traced p payment hp success (closing.resolve_right ?_)
    rintro ⟨k, hk⟩
    simp [start.idle] at hk
  named := start.named

theorem RaceInv.traced (h : RaceInv s) : s.Traced :=
  fun p payment hp success expired => h.settled p payment hp success (Or.inl expired)

/-- The clock runs on, and nothing else that the transactions look at changes. -/
theorem RaceInv.onward (h : RaceInv s) (db : s'.db = s.db) (txs : s'.txs = s.txs)
    (captures : s'.captures = s.captures) (reported : s'.reported = s.reported)
    (clock : s.clock ≤ s'.clock) : RaceInv s' := by
  obtain ⟨db', clock', txs', recoveries', captures', reported'⟩ := s'
  dsimp only at db txs captures reported clock
  subst db txs captures reported
  have later : Later s none ⟨s.db, clock', s.txs, recoveries', s.captures, s.reported⟩ :=
    ⟨clock, PaymentsKept.refl _, fun _ => Or.inl rfl, fun _ closing => closing⟩
  refine ⟨h.exclusive, fun k tx hk => ?_, h.captures, h.settled, h.named⟩
  exact (h.running k tx hk).later later fun o held => by cases held

/-- The key of a capture is no success. -/
theorem preparePayPalCapture_commits {orderId userId : Nat} {db' : Db} {call : PayPalCaptureCall}
    (h : preparePayPalCapture orderId userId s.clock s.db = .ok (db', call)) :
    Commits s none db' none ∧ PaymentOf .paypal db'.payments call.paymentId call.orderId := by
  obtain ⟨owner, payment, hp, provider, about, rfl | ⟨-, rfl⟩⟩ := preparePayPalCapture_ok h
  · exact ⟨Commits.same s none, payment, hp, provider, about.trans owner.symm⟩
  · have kept : PaymentsKept s.db.payments
        (s.db.payments.update call.paymentId (Payment.keyCapture call.requestId)) :=
      PaymentsKept.update hp rfl rfl
    refine ⟨⟨kept, fun _ => Or.inl rfl, fun p payment' hp' success => ?_,
      fun k e he error => ⟨e, he, rfl, Or.inl error⟩, fun _ _ h => by cases h⟩,
      PaymentOf.kept ⟨payment, hp, provider, about.trans owner.symm⟩ kept⟩
    rcases Table.update_cases hp hp' with ⟨rfl, rfl⟩ | ⟨-, hp'⟩
    · exact Or.inl ⟨payment, hp, success, rfl, rfl⟩
    · exact Or.inl ⟨payment', hp', success, rfl, rfl⟩

/-- A transaction takes its next statement. -/
theorem RaceInv.advance (h : RaceInv s) {k : Nat}
    (undecided : (RaceOp.advance k).ClaimsUndecided s) :
    RaceInv (raceStep number s (.advance k)) := by
  cases hk : s.txs.get? k with
  | none =>
      simp only [raceStep, hk]
      exact h
  | some tx =>
      have others : ∀ j tx₁, (s.txs.erase k).get? j = some tx₁ → s.txs.get? j = some tx₁ ∧
          ∀ o, tx.holds = some o → tx₁.holds ≠ some o := by
        intro j tx₁ hj
        rw [Table.get?_erase] at hj
        split at hj
        · cases hj
        · exact ⟨hj, fun o holds holds₁ => ‹j ≠ k› (h.exclusive j k tx₁ tx o hj hk holds₁ holds)⟩
      have calls : ∀ db' : Db, ∀ c call, s.captures.get? c = some call →
          (∃ c, s.captures.get? c = some call) ∨
            PaymentOf .paypal db'.payments call.paymentId call.orderId :=
        fun _ c call hc => Or.inl ⟨c, hc⟩
      cases hst : tx.statement number s with
      | blocked =>
          simp only [raceStep, hk, hst]
          exact h
      | next tx' =>
          simp only [raceStep, hk, hst]
          rcases Tx.statement_next h hk hst with ⟨ok, lock, unclaimed⟩ |
            ⟨o, asOf, order, rfl, found, expirable, rfl⟩
          · exact h.next hk ok lock unclaimed
          · exact h.claim hk found expirable (undecided o ⟨asOf, order, hk, found, expirable⟩)
      | ends result report =>
          cases result with
          | error e =>
              simp only [raceStep, hk, hst]
              have rolledBack := h.commit (Commits.same s tx.holds) others (calls s.db)
              simpa using rolledBack
          | ok db' =>
              simp only [raceStep, hk, hst]
              exact h.commit (Tx.statement_commits h hk hst) others (calls db')

/-- The invariant is kept by every action whose claims are undecided. -/
theorem RaceInv.step (h : RaceInv s) {op : RaceOp} (named : op.Named)
    (undecided : op.ClaimsUndecided s) : RaceInv (raceStep number s op) := by
  cases op with
  | tick elapsed => exact h.onward rfl rfl rfl rfl (Nat.le_add_right _ _)
  | beginExpiry o => exact h.begin (Nat.le_refl s.clock) rfl fun _ => by simp
  | beginManual o reference => exact h.begin trivial rfl fun _ => by simp
  | beginStripe event => exact h.begin named rfl fun _ => by simp
  | beginPayPal event => exact h.begin trivial rfl fun _ => by simp
  | readRecovery o userId =>
      simp only [raceStep]
      split
      · exact h
      · exact h.onward rfl rfl rfl rfl (Nat.le_refl _)
  | beginRecovery c intent =>
      simp only [raceStep, RaceOp.begins]
      cases s.recoveries.get? c with
      | none => exact h
      | some call => exact h.begin trivial rfl fun _ => by simp
  | prepareCapture o userId =>
      simp only [raceStep]
      split
      · exact h
      · split
        · exact h
        · rename_i db' call hprepare
          obtain ⟨commits, row⟩ := preparePayPalCapture_commits hprepare
          have calls : ∀ c call', (s.captures.insert call).get? c = some call' →
              (∃ c, s.captures.get? c = some call') ∨
                PaymentOf .paypal db'.payments call'.paymentId call'.orderId := by
            intro c call' hc
            rcases Table.insert_cases hc with ⟨-, rfl⟩ | hc
            · exact Or.inr row
            · exact Or.inl ⟨c, hc⟩
          have prepared := h.commit commits
            (fun j tx (hj : s.txs.get? j = some tx) => ⟨hj, fun _ held => by cases held⟩) calls
          simpa using prepared
  | beginCapture c response =>
      simp only [raceStep]
      cases hbegins : (RaceOp.beginCapture c response).begins s with
      | none => exact h
      | some tx =>
          simp only [RaceOp.begins, Option.bind_eq_bind, Option.bind_eq_some_iff] at hbegins
          obtain ⟨call, hc, captureId, -, hbegins⟩ := hbegins
          obtain rfl := Option.some.inj hbegins
          have ok : (Tx.captureBegun call captureId).Ok s := h.captures c call hc
          exact h.begin ok rfl fun _ => by simp
  | advance k => exact h.advance undecided

/-- What a claim does not take, it leaves alone. -/
theorem RaceOp.sparesPaid (op : RaceOp) : op.SparesPaid number s := by
  rintro k o asOf p payment rfl hk hp about success
  have unclaimed : (s.db.orders.get? o).any (decide <| ·.isExpirable o asOf s.db) = false := by
    rw [Bool.eq_false_iff]
    intro claimed
    obtain ⟨order, -, expirable⟩ := (Option.any_eq_true _ _).mp claimed
    obtain ⟨-, -, unpaid⟩ := of_decide_eq_true expirable
    have none := Table.find?_eq_none.mp
      (Option.isNone_iff_eq_none.mp (Option.isSome_eq_false_iff.mp unpaid)) p payment hp
    simp [about, success] at none
  have ends : raceStep number s (.advance k) = { s with
      txs := s.txs.erase k
      reported := s.reported ++ [] } := by
    simp [raceStep, hk, Tx.statement, unclaimed]
  rw [ends]
  exact ⟨rfl, by simp [Table.get?_erase]⟩

end Step

/-! ### Over runs -/

/-- The sample order is pending, and PayPal is about to report its capture. -/
def sampleRace : RaceState where
  db := (run (checkoutStep (fun _ => "") fun _ => none) sampleCheckout
    [.shop sampleCreate, .startPayPal 1 1 1, .finishPayPal 1 (some samplePayPalOrder)]).db
  clock := 1
  txs := .empty
  recoveries := .empty
  captures := .empty
  reported := []

/-- An expiry passes between the event's decision and its commit. -/
def claimedAfterDecision : List RaceOp :=
  [.beginPayPal sampleCompleted, .advance 1, .advance 1, .tick reservationMillis, .beginExpiry 1,
    .advance 2, .advance 2, .advance 2, .advance 1]

/-- The event takes its time after the deadline, and then an expiry passes. -/
def claimedBeforeDecision : List RaceOp :=
  [.beginPayPal sampleCompleted, .advance 1, .tick reservationMillis, .advance 1, .beginExpiry 1,
    .advance 2, .advance 2, .advance 2, .advance 1]

theorem sampleRace_start : RaceStart sampleRace where
  idle := fun _ => rfl
  captures := fun c call h => by cases h
  traced := by
    intro p payment hp success
    have only : sampleRace.db.payments.entries.map (fun e => e.2.status) = [.pending] := by decide
    have mem := List.mem_map_of_mem (f := fun e => e.2.status) (Table.mem_entries.mpr hp)
    rw [only] at mem
    simp [success] at mem
  named := fun p id h => by cases h

/-- The order is expired, its payment has succeeded, and no receipt says so. -/
theorem claimedAfterDecision_silent : RaceStart sampleRace ∧
    ¬ (run (raceStep fun _ => none) sampleRace claimedAfterDecision).Traced := by
  refine ⟨sampleRace_start, fun traced => ?_⟩
  obtain ⟨-, report, k, e, -, hget, -, error⟩ := traced 1 _ rfl rfl rfl
  have clean : (run (raceStep fun _ => none) sampleRace
      claimedAfterDecision).db.webhookEvents.entries.map (fun e => e.2.processingError) = [none] := by
    decide
  have mem := List.mem_map_of_mem (f := fun e => e.2.processingError) (Table.mem_entries.mpr hget)
  rw [clean] at mem
  exact error (List.mem_singleton.mp mem)

/-- In every run whose claims are undecided, no expiry and success both win
without an exception, and a claim spares the orders whose payment has been
committed before it. -/
theorem expiry_race_safe (number : String → Option Nat) {s : RaceState} (start : RaceStart s)
    (ops : List RaceOp) (named : ∀ op ∈ ops, op.Named)
    (undecided : ∀ t ∈ transitions (raceStep number) s ops, t.2.ClaimsUndecided t.1) :
    (∀ xs, xs <+: ops → (run (raceStep number) s xs).Traced) ∧
      ∀ t ∈ transitions (raceStep number) s ops, t.2.SparesPaid number t.1 := by
  constructor
  · intro xs hxs
    have inv : RaceInv (run (raceStep number) s xs) :=
      states_invariant_of (C := fun s op => op.Named ∧ op.ClaimsUndecided s)
        (fun _ _ h met => h.step met.1 met.2) start.inv
        (fun t ht => ⟨named t.2 (label_mem ht), undecided t ht⟩) hxs
    exact inv.traced
  · exact fun t _ => t.2.sparesPaid

theorem expiry_race_safe_sample :
    (∀ xs, xs <+: claimedBeforeDecision →
        (run (raceStep fun _ => none) sampleRace xs).Traced) ∧
      ∀ t ∈ transitions (raceStep fun _ => none) sampleRace claimedBeforeDecision,
        t.2.SparesPaid (fun _ => none) t.1 := by
  apply expiry_race_safe (fun _ => none) sampleRace_start claimedBeforeDecision
  · simp [claimedBeforeDecision, RaceOp.Named]
  · intro t ht o claims
    simp only [claimedBeforeDecision, transitions, List.mem_cons, List.not_mem_nil, or_false] at ht
    rcases ht with rfl | rfl | rfl | rfl | rfl | rfl | rfl | rfl | rfl
    · cases claims
    · obtain ⟨_, _, hk, -⟩ := claims
      cases hk
    · cases claims
    · obtain ⟨_, _, hk, -⟩ := claims
      cases hk
    · cases claims
    · obtain ⟨_, _, hk, -⟩ := claims
      cases hk
    · -- The one event in flight knows that it is too late.
      intro k event p payment read captureId now hk _
      have late : ∀ e ∈ (run (raceStep fun _ => none) sampleRace
          (claimedBeforeDecision.take 6)).txs.entries, ∀ event p payment read captureId now,
          e.2 = .eventTimed event (.succeed p payment read captureId) now →
          read.isExpiredAt now = true := by
        intro e he event p payment read captureId now same
        rcases List.mem_cons.mp he with rfl | he
        · cases same
          rfl
        · rcases List.mem_cons.mp he with rfl | he
          · cases same
          · cases he
      exact late _ (Table.mem_entries.mpr hk) event p payment read captureId now rfl
    · obtain ⟨_, _, hk, -⟩ := claims
      cases hk
    · obtain ⟨_, _, hk, -⟩ := claims
      cases hk

end ColorfulLife
