/-
The statements of a creation call, and what its placement books.

`CreationStatement` has one constructor for each way a statement can end, with what it
read; `next_statement` is the case analysis over the phases. A placement reserves
what the input asks for and allocates the cart it was planned on
(`Placement`), and none of its errors is a key mismatch. In a shop whose stock is
accounted for (`CreationState.Sound`), expiry does not throw.
-/

import ColorfulLife.Creation.Machine
import ColorfulLife.Creation.RequestText

namespace ColorfulLife

open Relational

/-! ### Statements -/

/-- The phases in which a call looks its key up. -/
def CreationPhase.looksUp : CreationPhase → Bool
  | .verified | .locked => true
  | _ => false

section Statements

variable (digest : CanonicalRequest → String) (call : CreationCall) (lockFree : Bool) (db : Db)

/-- One statement of a call: the database and the phase after it. -/
inductive CreationStatement : Db → CreationPhase → Prop where
  | customer {phase : CreationPhase}
      (goes : (call.phase = .started ∧ phase = .verified) ∨
        (call.phase = .expiring [] ∧ phase = .begun)) : CreationStatement db phase
  | stranger {e : DomainError} (unverified : verifiedUser call.userId db = .error e) :
      CreationStatement db (.failed e)
  | search (missed : call.phase = .missed) :
      CreationStatement db (.expiring (expiredCandidates call.input call.now db))
  | expire {orderId : Nat} {candidates : List Nat} {db' : Db}
      (expiring : call.phase = .expiring (orderId :: candidates))
      (expired : expireOrderReservation orderId call.now db = .ok db') :
      CreationStatement db' (.expiring candidates)
  | stuck {orderId : Nat} {e : DomainError}
      (unexpired : expireOrderReservation orderId call.now db = .error e) :
      CreationStatement db (.failed e)
  | lock (begun : call.phase = .begun) (free : lockFree = true) : CreationStatement db .locked
  | miss {phase : CreationPhase}
      (goes : (call.phase = .verified ∧ phase = .missed) ∨
        (call.phase = .locked ∧ phase = .cleared))
      (unused : replayedOrder digest call.userId call.input call.key db = .ok none) :
      CreationStatement db phase
  | replay {orderId : Nat} (looks : call.phase.looksUp = true)
      (used : replayedOrder digest call.userId call.input call.key db = .ok (some orderId)) :
      CreationStatement db (.returned false (db.viewOrder orderId))
  | refuse {e : DomainError} (looks : call.phase.looksUp = true)
      (other : replayedOrder digest call.userId call.input call.key db = .error e) :
      CreationStatement db (.failed e)
  | place {db' : Db} {orderId : Nat} (cleared : call.phase = .cleared)
      (placed : call.place digest db = .ok (db', orderId)) :
      CreationStatement db' (.returned true (db'.viewOrder orderId))
  | abort {e : DomainError} (cleared : call.phase = .cleared)
      (unplaced : call.place digest db = .error e) : CreationStatement db (.failed e)

variable {digest call lockFree db}

theorem lookup_statement {phase : CreationPhase} (looks : call.phase.looksUp = true)
    (goes : (call.phase = .verified ∧ phase = .missed) ∨
      (call.phase = .locked ∧ phase = .cleared)) :
    CreationStatement digest call lockFree db db (call.lookup digest db phase) := by
  rw [CreationCall.lookup]
  cases replay : replayedOrder digest call.userId call.input call.key db with
  | error e => exact .refuse looks replay
  | ok existing =>
      cases existing with
      | none => exact .miss goes replay
      | some orderId => exact .replay looks replay

theorem customer_statement {phase : CreationPhase}
    (goes : (call.phase = .started ∧ phase = .verified) ∨
      (call.phase = .expiring [] ∧ phase = .begun)) :
    CreationStatement digest call lockFree db db
      (proceed (verifiedUser call.userId db) fun _ => phase) := by
  cases verified : verifiedUser call.userId db with
  | error e => exact .stranger verified
  | ok _ => exact .customer goes

/-- Everything the next statement of a call can do. -/
theorem next_statement {db' : Db} {phase : CreationPhase}
    (next : call.next digest lockFree db = some (db', phase)) :
    CreationStatement digest call lockFree db db' phase := by
  rw [CreationCall.next] at next
  split at next <;> rename_i at_
  · cases next
    exact customer_statement (Or.inl ⟨at_, rfl⟩)
  · cases next
    exact lookup_statement (by rw [at_]; rfl) (Or.inl ⟨at_, rfl⟩)
  · cases next
    exact .search at_
  · split at next <;> cases next
    · exact .expire at_ ‹_›
    · exact .stuck ‹_›
  · cases next
    exact customer_statement (Or.inr ⟨at_, rfl⟩)
  · split at next <;> cases next
    exact .lock at_ ‹_›
  · cases next
    exact lookup_statement (by rw [at_]; rfl) (Or.inr ⟨at_, rfl⟩)
  · split at next <;> cases next
    · exact .place at_ ‹_›
    · exact .abort at_ ‹_›
  · cases next
  · cases next

/-- A call that is over has no statement left. -/
theorem CreationStatement.running {db' : Db} {phase : CreationPhase}
    (next : call.next digest lockFree db = some (db', phase)) : call.phase.isOver = false := by
  cases ended : call.phase <;> first | rfl | simp [CreationCall.next, ended] at next

/-- Only waiting for the lock gets it. -/
theorem CreationStatement.locks {db' : Db} {phase : CreationPhase}
    (h : CreationStatement digest call lockFree db db' phase) (locked : phase.holdsLock = true) :
    call.phase.holdsLock = true ∨ lockFree = true := by
  cases h with
  | lock begun free => exact Or.inr free
  | miss goes unused =>
      rcases goes with ⟨-, rfl⟩ | ⟨before, -⟩
      · cases locked
      · exact Or.inl (by rw [before]; rfl)
  | customer goes => rcases goes with ⟨-, rfl⟩ | ⟨-, rfl⟩ <;> cases locked
  | _ => cases locked

theorem place_eq_ok {db' : Db} {orderId : Nat} :
    call.place digest db = .ok (db', orderId) ↔
      ∃ settled, settleCartReconciliation call.userId call.now db = .ok settled ∧
        placeOrder digest call.userId call.input call.key call.now settled =
          .ok (db', orderId) := by
  rw [CreationCall.place, bind_eq_ok]

/-- Only the placement creates what a call returns. -/
theorem CreationStatement.placed {db' : Db} {view : OrderView}
    (h : CreationStatement digest call lockFree db db' (.returned true view)) :
    call.phase = .cleared ∧
      ∃ orderId, call.place digest db = .ok (db', orderId) ∧ view = db'.viewOrder orderId := by
  cases h with
  | place cleared placed => exact ⟨cleared, _, placed, rfl⟩
  | customer goes => rcases goes with ⟨-, ended⟩ | ⟨-, ended⟩ <;> cases ended
  | miss goes => rcases goes with ⟨-, ended⟩ | ⟨-, ended⟩ <;> cases ended

/-- A call that is past the lock and goes on has found the key unused. -/
theorem CreationStatement.unused {db' : Db}
    (h : CreationStatement digest call lockFree db db' .cleared) :
    replayedOrder digest call.userId call.input call.key db = .ok none := by
  cases h with
  | miss goes unused => exact unused
  | customer goes => rcases goes with ⟨-, cleared⟩ | ⟨-, cleared⟩ <;> cases cleared

/-- A call that returns without creating has found its order. -/
theorem CreationStatement.replayed {db' : Db} {view : OrderView}
    (h : CreationStatement digest call lockFree db db' (.returned false view)) :
    ∃ orderId, view = db.viewOrder orderId ∧
      replayedOrder digest call.userId call.input call.key db = .ok (some orderId) := by
  cases h with
  | replay looks used => exact ⟨_, rfl, used⟩
  | customer goes => rcases goes with ⟨-, ended⟩ | ⟨-, ended⟩ <;> cases ended
  | miss goes => rcases goes with ⟨-, ended⟩ | ⟨-, ended⟩ <;> cases ended

/-- A placement adds the terms of its order. -/
theorem place_added {db' : Db} {orderId : Nat}
    (placed : call.place digest db = .ok (db', orderId)) :
    ∃ order, order.userId = call.userId ∧ order.creationIdempotencyKey = call.key ∧
      order.creationRequestHash = call.key.map (fun _ => requestHash digest call.input) ∧
      Added orderId order db.terms db'.terms := by
  obtain ⟨settled, hsettle, hplace⟩ := place_eq_ok.mp placed
  obtain ⟨billing, added⟩ := placement_terms hsettle hplace
  exact ⟨_, rfl, rfl, rfl, added⟩

/-- Only a placement writes terms. -/
theorem CreationStatement.terms {db' : Db} {phase : CreationPhase}
    (h : CreationStatement digest call lockFree db db' phase)
    (unplaced : ∀ view, phase ≠ .returned true view) : db'.terms = db.terms := by
  cases h with
  | expire expiring expired => exact expireOrderReservation_terms expired
  | place cleared placed => exact absurd rfl (unplaced _)
  | _ => rfl

end Statements

/-! ### Bookings -/

/-- The quantity asked of a listing. -/
def CreateOrderInput.quantityOf (input : CreateOrderInput) (k : Nat) : Int :=
  (input.items.map fun line => if line.productListingId = k then line.quantity else 0).sum

/-- What a call's placement books: every listing is reserved in the quantity asked
of it, the order and its items are written from the address book and the
catalogue, and the plan for the settled cart is allocated. -/
def Placement (digest : CanonicalRequest → String) (call : CreationCall) (db db' : Db)
    (orderId : Nat) : Prop :=
  Table.Rows (fun k => Shift (call.input.quantityOf k)) db.listings db'.listings ∧
  ∃ settled billing plan,
    settleCartReconciliation call.userId call.now db = .ok settled ∧
    billingAddress call.userId db = .ok billing ∧
    orderId = db.orders.nextId ∧
    db'.orders = db.orders.insert (newOrder digest call.userId call.input call.key call.now billing
      (placedItems call.input db)) ∧
    db'.orderItems = (placedItems call.input db).foldl Table.insert db.orderItems ∧
    prepareOrderCartAllocation call.userId call.input.items settled = .ok plan ∧
    db'.cartAllocations =
      (plan.elim [] fun p => p.2.map (allocationOf orderId)).foldl Table.insert
        settled.cartAllocations

section Bookings

variable {digest : CanonicalRequest → String} {call : CreationCall} {db db' : Db} {orderId : Nat}

/-- The items are the requested lines when no listing is missing. -/
theorem placedItems_quantity {input : CreateOrderInput}
    (listed : missingListing input.items db = none) (k : Nat) : ((placedItems input db).map fun i =>
      if i.productListingId = k then i.quantity else 0).sum = input.quantityOf k := by
  unfold placedItems requestedListings CreateOrderInput.quantityOf
  rw [missingListing, List.find?_eq_none] at listed
  revert listed
  induction input.items with
  | nil => exact fun _ => rfl
  | cons line items ih =>
      intro listed
      have rest := ih fun l hl => listed l (List.mem_cons_of_mem _ hl)
      obtain ⟨l, hl⟩ : ∃ l, db.listings.get? line.productListingId = some l := by
        have there := listed line List.mem_cons_self
        rw [Option.isNone_iff_eq_none] at there
        exact Option.ne_none_iff_exists'.mp there
      simp only [List.filterMap_cons, hl, Option.map_some, List.map_cons, List.sum_cons, rest]
      rfl

theorem place_books (placed : call.place digest db = .ok (db', orderId)) :
    Placement digest call db db' orderId := by
  obtain ⟨settled, hsettle, hplace⟩ := place_eq_ok.mp placed
  obtain ⟨rfl, billing, plan, listings, hbilling, hlisted, -, hplan, hloop, halloc⟩ :=
    placeOrder_eq_ok.mp hplace
  have shift := shift_reserve (fun i hi => by
    obtain ⟨line, -, l, -, rfl⟩ := mem_placedItems hi
    exact line.positive) hloop
  simp only [placedItems_quantity hlisted] at shift
  have allocated : db'.cartAllocations =
      (plan.elim [] fun p => p.2.map (allocationOf settled.orders.nextId)).foldl Table.insert
        settled.cartAllocations := by
    cases plan with
    | none => rw [← Except.ok.inj halloc]; rfl
    | some plan =>
        simp only [allocateOrderCart, bind_eq_ok, pure_eq_ok] at halloc
        obtain ⟨provenance, -, rfl⟩ := halloc
        rfl
  have frame := (settleCartReconciliation_frame hsettle).fields
  obtain ⟨_, _, _, rfl⟩ := (allocateOrderCart_frame halloc).fields
  obtain ⟨_, _, _, rfl⟩ := frame
  exact ⟨shift, _, billing, plan, hsettle, hbilling, rfl, rfl, rfl, hplan, allocated⟩

end Bookings

/-! ### Errors -/

/-- What a placement throws, its billing address apart. -/
inductive PlacementError : DomainError → Prop where
  | listingNotFound (k : Nat) : PlacementError (.orderProductListingNotFound k)
  | listingInactive (k : Nat) : PlacementError (.orderProductListingInactive k)
  | insufficientStock (k : Nat) (n : Int) : PlacementError (.insufficientAvailableStock k n)
  | quantityAllocated (k : Nat) : PlacementError (.cartQuantityAllocated k)
  | provenanceExists : PlacementError .uniqueViolation
  | rowIdentity : PlacementError .cartRowIdentityInconsistency
  | rowQuantity : PlacementError .cartQuantityInconsistency

section Errors

variable {db : Db} {e : DomainError}

theorem consumeAllocation_error {cartId : Nat} {allocation : OrderCartAllocation}
    (thrown : consumeAllocation cartId allocation db = .error e) : PlacementError e := by
  unfold consumeAllocation at thrown
  cases hrow : allocation.cartItemId with
  | none =>
      rw [hrow] at thrown
      cases thrown
  | some rowId =>
      simp only [hrow] at thrown
      split at thrown
      · cases thrown
      · simp only [bind_eq_error, orThrow_eq_error, ensure_eq_error, pure_ne_error, and_false,
          exists_false, or_false] at thrown
        rcases thrown with ⟨-, rfl⟩ | ⟨_, -, -, rfl⟩
        · exact .rowIdentity
        · exact .rowQuantity

theorem settle_error {userId : Nat} {now : Time}
    (thrown : settleCartReconciliation userId now db = .error e) : PlacementError e := by
  obtain ⟨task, db, thrown⟩ := foldlM_error _ thrown
  simp only [settleTask, bind_eq_error, pure_ne_error, and_false, exists_false, or_false] at thrown
  unfold consumeTask at thrown
  split at thrown
  · obtain ⟨allocation, db, thrown⟩ := foldlM_error _ thrown
    exact consumeAllocation_error thrown
  · cases thrown

/-- The billing address is the only one of its errors. -/
theorem billingAddress_error {userId : Nat} (thrown : billingAddress userId db = .error e) :
    e = .noDefaultBillingAddress ∨ e = .multipleDefaultBillingAddresses := by
  unfold billingAddress at thrown
  split at thrown
  · cases thrown
    exact Or.inl rfl
  · cases thrown
  · cases thrown
    exact Or.inr rfl

theorem refusal_error {k : Nat} {l : ProductListing} (refused : l.refusal k = some e) :
    PlacementError e := by
  unfold ProductListing.refusal at refused
  split at refused
  · cases refused
    exact .listingInactive k
  · split at refused
    · cases refused
      exact .insufficientStock k _
    · cases refused

theorem plan_error {cartId : Nat} {items : List RequestLine}
    (thrown : planAllocations cartId db items = .error e) : PlacementError e := by
  induction items with
  | nil => cases thrown
  | cons line items ih =>
      rw [planAllocations] at thrown
      split at thrown
      · exact ih thrown
      · simp only [bind_eq_error, ensure_eq_error, pure_ne_error, and_false, exists_false,
          or_false] at thrown
        rcases thrown with ⟨-, rfl⟩ | ⟨-, -, thrown⟩
        · exact .quantityAllocated _
        · exact ih thrown

theorem prepare_error {userId : Nat} {items : List RequestLine}
    (thrown : prepareOrderCartAllocation userId items db = .error e) : PlacementError e := by
  unfold prepareOrderCartAllocation at thrown
  split at thrown
  · cases thrown
  · simp only [bind_eq_error, pure_ne_error, and_false, exists_false, or_false] at thrown
    exact plan_error thrown

theorem allocate_error {orderId : Nat} {plan : Option (Nat × List AllocationPlan)}
    (thrown : allocateOrderCart orderId plan db = .error e) : PlacementError e := by
  cases plan with
  | none => cases thrown
  | some plan =>
      simp only [allocateOrderCart, bind_eq_error, orThrow_eq_error, pure_ne_error, and_false,
        exists_false, or_false] at thrown
      obtain ⟨-, rfl⟩ := thrown
      exact .provenanceExists

/-- An order is not placed for want of its one billing address, or for an error
of its own. -/
theorem placeOrder_error {digest : CanonicalRequest → String} {userId : Nat}
    {input : CreateOrderInput} {key : Option String} {now : Time}
    (thrown : placeOrder digest userId input key now db = .error e) :
    billingAddress userId db = .error e ∨ PlacementError e := by
  simp only [placeOrder, bind_eq_error, orReject_eq_error, pure_ne_error, and_false, exists_false,
    or_false] at thrown
  rcases thrown with thrown | ⟨billing, -, ⟨line, -, rfl⟩ | ⟨-, -, ⟨e, refused, rfl⟩ | ⟨-, -,
    thrown | ⟨plan, -, thrown | ⟨listings, -, thrown⟩⟩⟩⟩⟩
  · exact Or.inl thrown
  · exact Or.inr (.listingNotFound _)
  · obtain ⟨e, -, refused⟩ := List.exists_of_findSome?_eq_some refused
    exact Or.inr (refusal_error refused)
  · exact Or.inr (prepare_error thrown)
  · obtain ⟨item, t, thrown⟩ := foldlM_error _ thrown
    simp only [reserveLine, orThrow_eq_error] at thrown
    obtain ⟨-, rfl⟩ := thrown
    exact Or.inr (.insufficientStock _ _)
  · exact Or.inr (allocate_error thrown)

/-- A placement fails for its own reasons. -/
theorem place_ne_mismatch (digest : CanonicalRequest → String) (call : CreationCall) :
    call.place digest db ≠ .error .orderIdempotencyMismatch := by
  intro thrown
  rcases bind_eq_error.mp thrown with thrown | ⟨settled, -, thrown⟩
  · exact nomatch settle_error thrown
  · rcases placeOrder_error thrown with billing | own
    · rcases billingAddress_error billing with none_ | many
      · cases none_
      · cases many
    · exact nomatch own

end Errors

/-! ### Soundness -/

/-- Stock is accounted for, and the calls under way ask for distinct listings. -/
structure CreationState.Sound (s : CreationState) : Prop where
  stock : s.db.StockInv
  distinct : ∀ i c, s.calls.get? i = some c → (∀ e, c.phase ≠ .failed e) → c.input.Distinct

/-- Expiry finds the reservation it releases. -/
theorem Db.StockInv.expires {db : Db} (h : db.StockInv) (orderId : Nat) (asOf : Time) :
    ∃ db', expireOrderReservation orderId asOf db = .ok db' := by
  cases found : db.orders.get? orderId with
  | none => exact ⟨db, by rw [expireOrderReservation, found]⟩
  | some order =>
      by_cases pending : order.status = .pending
      · exact h.expirable found pending asOf
      · have kept : ¬ order.isExpirable orderId asOf db := fun expirable => pending expirable.1
        exact ⟨db, by simp only [expireOrderReservation, found, if_neg kept]⟩

section Sound

variable {digest : CanonicalRequest → String} {s : CreationState}

theorem FreshCreation.sound (fresh : FreshCreation s) : s.Sound where
  stock := fresh.shop.stockInv
  distinct := fun i c found => by simp [fresh.calls i] at found

theorem checkArguments_distinct {input : CreateOrderInput} {key : Option String}
    (accepted : checkArguments input key = .ok ⟨⟩) : input.Distinct := by
  simp only [checkArguments, bind_eq_ok, orReject_eq_ok] at accepted
  obtain ⟨-, -, unique⟩ := accepted
  exact (firstDuplicate_eq_none unique).1

theorem CreationStatement.stockInv {call : CreationCall} {lockFree : Bool} {db db' : Db}
    {phase : CreationPhase} (h : CreationStatement digest call lockFree db db' phase)
    (stock : db.StockInv) (distinct : call.input.Distinct) : db'.StockInv := by
  cases h with
  | @expire orderId candidates db' expiring expired =>
      have step : (shopStep digest db (.expireOrderReservation orderId call.now)).StockInv :=
        stock.step _
      rw [shopStep, ShopOp.body, expired] at step
      exact step
  | place cleared placed =>
      obtain ⟨settled, hsettle, hplace⟩ := place_eq_ok.mp placed
      exact stock.effect (placement_effect distinct hsettle hplace)
  | _ => exact stock

theorem get?_move_of_ne {i j : Nat} (other : j ≠ i) (db : Db) (phase : CreationPhase) :
    (s.move i db phase).calls.get? j = s.calls.get? j :=
  Table.get?_update_of_ne _ _ other

/-- A call moves on; the others are where they were. -/
theorem get?_move_cases {i j : Nat} {call c : CreationCall} {db : Db} {phase : CreationPhase}
    (found : s.calls.get? i = some call) (moved : (s.move i db phase).calls.get? j = some c) :
    (j = i ∧ c = { call with phase := phase }) ∨ (j ≠ i ∧ s.calls.get? j = some c) := by
  exact Table.update_cases found moved

namespace CreationState.Sound

/-- A change of the database that accounts for its stock. -/
theorem db {db : Db} (h : s.Sound) (stock : db.StockInv) :
    ({ s with db := db } : CreationState).Sound :=
  ⟨stock, h.distinct⟩

/-- The step lemma. -/
theorem step (h : s.Sound) (op : CreationOp) : (creationStep digest s op).Sound := by
  cases op with
  | call userId input key now =>
      refine ⟨h.stock, fun i c found live => ?_⟩
      rw [creationStep, Table.get?_insert] at found
      split at found
      · obtain rfl := Option.some.inj found
        cases checked : checkArguments input key with
        | error e => exact absurd (by rw [checked]; rfl) (live e)
        | ok _ => exact checkArguments_distinct checked
      · exact h.distinct i c found live
  | advance i =>
      rcases advance_cases digest s i with same | ⟨call, db, phase, found, next, moved⟩
      · exact same.symm ▸ h
      · rw [moved]
        have running := CreationStatement.running next
        have distinct : call.input.Distinct :=
          h.distinct i call found fun e failed => by simp [failed, CreationPhase.isOver] at running
        refine ⟨(next_statement next).stockInv h.stock distinct, fun j c hc live => ?_⟩
        rcases get?_move_cases found hc with ⟨-, rfl⟩ | ⟨-, hc⟩
        · exact distinct
        · exact h.distinct j c hc live
  | shop op =>
      rw [creationStep]
      split
      · exact h
      · exact h.db (h.stock.step op)
  | price listingId originalPrice salePrice =>
      refine h.db (h.stock.listing (Table.rows_update (fun l _ => ?_) fun _ l _ => Shift.refl l))
      refine ⟨(add_zero _).symm, rfl, fun sound => ?_⟩
      exact ⟨sound.lifecycle, sound.reserved_nonneg, sound.reserved_le⟩
  | addresses addresses => exact h.db h.stock

end CreationState.Sound

end Sound

end ColorfulLife
