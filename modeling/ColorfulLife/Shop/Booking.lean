/-
Every change of stock is booked: what a request adds to or takes from a
listing's stock is the sum of the movements it appends for the listing.

`Entered P` relates two stocks when the second is the first with movements
appended, their notes in `P`, and the listings changed by exactly these.
`shopStep_entered` is the case analysis over the requests.
-/

import ColorfulLife.Shop.Effects

namespace ColorfulLife

open Relational

/-! ### Net change -/

/-- The sum of the quantity changes of a listing. -/
def netChange (k : Nat) (movements : List InventoryMovement) : Int :=
  (movements.map fun m => if m.listingId = k then m.quantityChange else 0).sum

@[simp] theorem netChange_nil (k : Nat) : netChange k [] = 0 := rfl

@[simp] theorem netChange_append (k : Nat) (ms ns : List InventoryMovement) :
    netChange k (ms ++ ns) = netChange k ms + netChange k ns := by
  simp [netChange]

@[simp] theorem netChange_cons (k : Nat) (m : InventoryMovement) (ms : List InventoryMovement) :
    netChange k (m :: ms) = (if m.listingId = k then m.quantityChange else 0) + netChange k ms := by
  simp [netChange]

/-- Movements of other listings change nothing. -/
theorem netChange_eq_zero {k : Nat} {ms : List InventoryMovement}
    (other : ∀ m ∈ ms, m.listingId ≠ k) : netChange k ms = 0 := by
  induction ms with
  | nil => rfl
  | cons m ms ih =>
      rw [netChange_cons, if_neg (other m List.mem_cons_self), zero_add]
      exact ih fun m hm => other m (List.mem_cons_of_mem _ hm)

/-! ### Booked changes -/

/-- The movements account for the change of every listing; a listing that is
added is a used offer and has them for its whole stock. -/
structure Booked (ns : List InventoryMovement) (t t' : Table ProductListing) : Prop where
  kept : ∀ k l, t.get? k = some l → ∃ l', t'.get? k = some l' ∧
    l'.condition = l.condition ∧ l'.currentStock = l.currentStock + netChange k ns
  added : ∀ k l', t.get? k = none → t'.get? k = some l' →
    l'.condition = .usedLikeNew ∧ l'.currentStock = netChange k ns
  listed : ∀ m ∈ ns, (t'.get? m.listingId).isSome

/-- A row that keeps its condition and stock. -/
def SameStock (l l' : ProductListing) : Prop :=
  l'.condition = l.condition ∧ l'.currentStock = l.currentStock

namespace Booked

variable {ns ns' : List InventoryMovement} {t t' t'' : Table ProductListing}

theorem refl (t : Table ProductListing) : Booked [] t t :=
  ⟨fun _ l hl => ⟨l, hl, rfl, (add_zero _).symm⟩, fun _ _ none hl => by simp [none] at hl, by simp⟩

/-- No listing is removed. -/
theorem there (h : Booked ns t t') {k : Nat} (hk : (t.get? k).isSome) : (t'.get? k).isSome := by
  obtain ⟨l, hl⟩ := Option.isSome_iff_exists.mp hk
  obtain ⟨l', hl', -⟩ := h.kept k l hl
  simp [hl']

theorem trans (h : Booked ns t t') (h' : Booked ns' t' t'') : Booked (ns ++ ns') t t'' where
  kept := fun k l hl => by
    obtain ⟨l', hl', condition, first⟩ := h.kept k l hl
    obtain ⟨l'', hl'', condition', second⟩ := h'.kept k l' hl'
    exact ⟨l'', hl'', condition'.trans condition, by
      rw [second, first, netChange_append, add_assoc]⟩
  added := fun k l'' none hl'' => by
    rw [netChange_append]
    cases hl' : t'.get? k with
    | none =>
        have unlisted : netChange k ns = 0 := netChange_eq_zero fun m hm same => by
          have := h.listed m hm
          rw [same, hl'] at this
          cases this
        rw [unlisted, zero_add]
        exact h'.added k l'' hl' hl''
    | some l' =>
        obtain ⟨l₂, hl₂, condition, second⟩ := h'.kept k l' hl'
        obtain rfl := Option.some.inj (hl₂.symm.trans hl'')
        obtain ⟨used, first⟩ := h.added k l' none hl'
        exact ⟨condition.trans used, by rw [second, first]⟩
  listed := fun m hm => by
    rcases List.mem_append.mp hm with hm | hm
    · exact h'.there (h.listed m hm)
    · exact h'.listed m hm

/-- Updates that leave stock alone need no movement. -/
theorem rows (same : Table.Rows (fun _ => SameStock) t t') : Booked [] t t' where
  kept := fun k l hl => by
    obtain ⟨l', hl', condition, stock⟩ := same.forward hl
    exact ⟨l', hl', condition, by rw [stock, netChange_nil, add_zero]⟩
  added := fun k l' none hl' => by
    obtain ⟨l, hl, -⟩ := same.backward hl'
    simp [none] at hl
  listed := by simp

/-- One listing moves with its movement. -/
theorem update {m : InventoryMovement} {l : ProductListing} {f : ProductListing → ProductListing}
    (hl : t.get? m.listingId = some l) (condition : (f l).condition = l.condition)
    (moved : (f l).currentStock = l.currentStock + m.quantityChange) :
    Booked [m] t (t.update m.listingId f) where
  kept := fun k r hr => by
    rw [Table.get?_update, hr, netChange_cons, netChange_nil, add_zero]
    by_cases own : m.listingId = k
    · subst own
      obtain rfl := Option.some.inj (hl.symm.trans hr)
      exact ⟨f l, by simp, condition, by rw [moved, if_pos rfl]⟩
    · exact ⟨r, by simp [Ne.symm own], rfl, by rw [if_neg own, add_zero]⟩
  added := fun k l' none hl' => by
    rw [Table.get?_update, none] at hl'
    split at hl' <;> cases hl'
  listed := fun m' hm => by
    obtain rfl := List.mem_singleton.mp hm
    simp [hl]

/-- A used offer is added, its stock booked. -/
theorem insert {m : InventoryMovement} {l : ProductListing} (own : m.listingId = t.nextId)
    (used : l.condition = .usedLikeNew) (stock : l.currentStock = m.quantityChange) :
    Booked [m] t (t.insert l) where
  kept := fun k r hr => by
    refine ⟨r, Table.get?_insert_of_some hr, rfl, ?_⟩
    have := Table.lt_nextId hr
    rw [netChange_cons, netChange_nil, if_neg (by omega), add_zero, add_zero]
  added := fun k l' none hl' => by
    rcases Table.insert_cases hl' with ⟨same, rfl⟩ | hl'
    · exact ⟨used, by rw [netChange_cons, netChange_nil, if_pos (by omega), add_zero, stock]⟩
    · simp [none] at hl'
  listed := fun m' hm => by
    obtain rfl := List.mem_singleton.mp hm
    rw [own, Table.get?_insert_self]
    rfl

end Booked

/-! ### Stock with its movements -/

/-- Movements are appended, with notes in `P`, and account for the listings. -/
def Entered (P : MovementNote → Prop) (s s' : Stock) : Prop :=
  ∃ ns, s'.movements = s.movements ++ ns ∧ (∀ m ∈ ns, P m.note) ∧ Booked ns s.listings s'.listings

namespace Entered

variable {P : MovementNote → Prop} {s s' s'' : Stock} {performedByUserId orderId : Nat}
  {items : List (Nat × OrderItem)}

theorem refl (s : Stock) : Entered P s s :=
  ⟨[], (List.append_nil _).symm, by simp, Booked.refl _⟩

theorem trans (h : Entered P s s') (h' : Entered P s' s'') : Entered P s s'' := by
  obtain ⟨ns, movements, notes, booked⟩ := h
  obtain ⟨ns', movements', notes', booked'⟩ := h'
  refine ⟨ns ++ ns', ?_, fun m hm => ?_, booked.trans booked'⟩
  · rw [movements', movements, List.append_assoc]
  · rcases List.mem_append.mp hm with hm | hm
    · exact notes m hm
    · exact notes' m hm

/-- Notes of one kind are notes of a wider one. -/
theorem mono {Q : MovementNote → Prop} (notes : ∀ n, P n → Q n) (h : Entered P s s') :
    Entered Q s s' := by
  obtain ⟨ns, movements, old, booked⟩ := h
  exact ⟨ns, movements, fun m hm => notes _ (old m hm), booked⟩

theorem rows {t : Table ProductListing}
    (same : Table.Rows (fun _ => SameStock) s.listings t) :
    Entered P s ⟨t, s.movements⟩ :=
  ⟨[], (List.append_nil _).symm, by simp, Booked.rows same⟩

theorem update {m : InventoryMovement} {l : ProductListing} {f : ProductListing → ProductListing}
    (hl : s.listings.get? m.listingId = some l) (condition : (f l).condition = l.condition)
    (moved : (f l).currentStock = l.currentStock + m.quantityChange) (note : P m.note) :
    Entered P s ⟨s.listings.update m.listingId f, s.movements ++ [m]⟩ :=
  ⟨[m], rfl, by simpa using note, Booked.update hl condition moved⟩

theorem insert {m : InventoryMovement} {l : ProductListing}
    (own : m.listingId = s.listings.nextId) (used : l.condition = .usedLikeNew)
    (stock : l.currentStock = m.quantityChange) (note : P m.note) :
    Entered P s ⟨s.listings.insert l, s.movements ++ [m]⟩ :=
  ⟨[m], rfl, by simpa using note, Booked.insert own used stock⟩

/-! ### The loops -/

/-- A loop enters what its rounds enter. -/
theorem loop {γ : Type} {f : Stock → γ → Result Stock}
    (step : ∀ s a s', f s a = .ok s' → Entered P s s') {as : List γ}
    (h : as.foldlM f s = .ok s') : Entered P s s' :=
  foldlM_effect (R := fun _ s s' => Entered P s s') refl
    (fun a _ s s₁ _ first rest => (step s a s₁ first).trans rest) as h

theorem convert (h : items.foldlM (convertReservation performedByUserId orderId) s = .ok s')
    (note : P (.orderSale orderId)) : Entered P s s' := by
  apply loop _ h
  intro s e s' hstep
  obtain ⟨l, hl, -, rfl⟩ := convertReservation_eq_ok.mp hstep
  exact update (m := saleMovement performedByUserId orderId e.2) hl rfl rfl note

theorem restock (h : items.foldlM (restockCancelled performedByUserId orderId) s = .ok s')
    (note : P (.orderCancellationReturn orderId)) : Entered P s s' := by
  apply loop _ h
  intro s e s' hstep
  obtain ⟨l, hl, ⟨-, rfl⟩ | ⟨-, rfl⟩⟩ := restockCancelled_eq_ok.mp hstep
  · exact refl s'
  · exact update (m := cancellationMovement performedByUserId orderId e.2) hl rfl rfl note

/-- A completed return enters what it restocks. -/
theorem completed {returnId : Nat} {ret : OrderReturn} {item : OrderItem} {l : ProductListing}
    (hl : s.listings.get? item.productListingId = some l)
    (note : P (.completedOrderReturn returnId)) :
    Entered P s (restockReturn performedByUserId returnId ret item s) := by
  unfold restockReturn
  split
  · exact update (m := returnMovement performedByUserId returnId ret item) hl rfl rfl note
  · exact refl s

/-- Reservations do not move stock. -/
theorem keepsStock {γ : Type} {f : Table ProductListing → γ → Result (Table ProductListing)}
    (step : ∀ t a t', f t a = .ok t' → Table.Rows (fun _ => SameStock) t t')
    {as : List γ} {t : Table ProductListing} (h : as.foldlM f s.listings = .ok t) :
    Entered P s ⟨t, s.movements⟩ := by
  apply rows
  refine foldlM_effect (R := fun _ => Table.Rows (fun _ => SameStock)) ?_ ?_ as h
  · exact Table.Rows.refl fun _ _ => ⟨rfl, rfl⟩
  · exact fun a _ t t₁ _ first rest => (step t a t₁ first).comp
      (fun _ _ _ _ h h' => ⟨h'.1.trans h.1, h'.2.trans h.2⟩) rest

theorem release {t : Table ProductListing}
    (h : items.foldlM releaseReservation s.listings = .ok t) : Entered P s ⟨t, s.movements⟩ := by
  apply keepsStock _ h
  intro t e t' hstep
  obtain ⟨l, -, -, rfl⟩ := releaseReservation_eq_ok.mp hstep
  exact Table.rows_update (fun _ _ => ⟨rfl, rfl⟩) fun _ _ _ => ⟨rfl, rfl⟩

theorem reserve {rows : List OrderItem} {t : Table ProductListing}
    (h : rows.foldlM reserveLine s.listings = .ok t) : Entered P s ⟨t, s.movements⟩ := by
  apply keepsStock _ h
  intro t item t' hstep
  obtain ⟨l, -, -, rfl⟩ := reserveLine_eq_ok.mp hstep
  exact Table.rows_update (fun _ _ => ⟨rfl, rfl⟩) fun _ _ _ => ⟨rfl, rfl⟩

end Entered

/-! ### The requests -/

/-- The order that a request moves along its status graph. -/
def ShopOp.movedOrder : ShopOp → Option Nat
  | .confirmOrder _ orderId | .cancelOrder _ orderId _ _ | .cancelOrderByAdmin orderId _ _ _
  | .expireOrderReservation orderId _ | .dispatchOrder orderId _ _ _ _
  | .completeOrder orderId _ => some orderId
  | _ => none

/-- The notes a request may write: those of an order exactly when the request
moves the order. -/
def ShopOp.mayNote (op : ShopOp) (note : MovementNote) : Prop :=
  ∀ o, note = .orderSale o ∨ note = .orderCancellationReturn o ↔ op.movedOrder = some o

/-- The requests that receive or return a purchase line. -/
def ShopOp.ofPurchase : ShopOp → Bool
  | .receivePurchaseItem .. | .returnPurchaseItem .. => true
  | _ => false

/-- The notes a request writes are those it may write, and of a purchase line
only if it receives or returns one. -/
def ShopOp.writes (op : ShopOp) (note : MovementNote) : Prop :=
  op.mayNote note ∧ (note.ofPurchase = true → op.ofPurchase = true)

/-- The tables of purchases. -/
def Db.purchasing (db : Db) : Table Purchase × Table PurchaseDocument × Table PurchaseItem :=
  (db.purchases, db.purchaseDocuments, db.purchaseItems)

section Requests

variable {db db' : Db}

/-- A placement only reserves, and purchases are left alone. -/
theorem create_entered {P : MovementNote → Prop} {digest : CanonicalRequest → String}
    {userId orderId : Nat} {input : CreateOrderInput} {key : Option String} {now : Time}
    (tx : createOrder digest userId input key now db = .ok (db', orderId)) :
    Entered P db.stock db'.stock ∧ db'.purchasing = db.purchasing := by
  rcases createOrder_cases tx with ⟨rfl, -⟩ | ⟨settled, -, hsettle, -, hplace⟩
  · exact ⟨Entered.refl _, rfl⟩
  · obtain ⟨-, billing, allocation, listings, -, -, -, -, hloop, halloc⟩ :=
      placeOrder_eq_ok.mp hplace
    obtain ⟨_, _, _, rfl⟩ := (settleCartReconciliation_frame hsettle).fields
    obtain ⟨_, _, _, rfl⟩ := (allocateOrderCart_frame halloc).fields
    exact ⟨Entered.reserve (s := db.stock) hloop, rfl⟩

/-- A cancellation enters what it restocks. -/
theorem cancel_entered {P : MovementNote → Prop} {owner : Option Nat}
    {cancelledBy : CancellationInitiator} {performedByUserId orderId : Nat}
    {reason : CancellationReason} {now : Time}
    (tx : cancelWith owner cancelledBy performedByUserId orderId reason now db = .ok db')
    (note : P (.orderCancellationReturn orderId)) :
    Entered P db.stock db'.stock ∧ db'.purchasing = db.purchasing := by
  obtain ⟨order, -, -, ⟨-, listings, hloop, rfl⟩ | ⟨-, stock, hloop, rfl⟩⟩ :=
    cancelWith_eq_ok.mp tx
  · exact ⟨Entered.release (s := db.stock) hloop, rfl⟩
  · exact ⟨Entered.restock hloop note, rfl⟩

/-- A used offer enters its unit, and the unit of the listing that it is taken from. -/
theorem usedOffer_entered {P : MovementNote → Prop} {conversion : Bool} {input : UsedOfferInput}
    {uploaded : List UploadedPhoto} {listingId : Nat}
    (tx : persistUsedOffer conversion input uploaded db = .ok (db', listingId))
    (note : ∀ n : MovementNote, n.ofPurchase = false →
      (∀ o, n ≠ .orderSale o ∧ n ≠ .orderCancellationReturn o) → P n) :
    Entered P db.stock db'.stock ∧ db'.purchasing = db.purchasing := by
  obtain ⟨listings, product, hsource, rfl, rfl⟩ := persistUsedOffer_ok tx
  refine ⟨?_, rfl⟩
  rcases takeSource_cases hsource with ⟨fresh, rfl⟩ | ⟨sourceId, l, source, hl, -, -, rfl⟩
  · simp only [Db.stock, offerMovements, fresh]
    exact Entered.insert (s := db.stock) (m := movementOf db.listings.nextId 1 _ _ _) rfl rfl rfl
      (note _ rfl (by simp [movementOf]))
  · simp only [Db.stock, offerMovements, source]
    have text : ∀ o, ((trimmedOrNone input.reasonNote).elim
        (MovementNote.conversion sourceId) .text) ≠ .orderSale o ∧
        ((trimmedOrNone input.reasonNote).elim
          (MovementNote.conversion sourceId) .text) ≠ .orderCancellationReturn o := by
      intro o
      cases trimmedOrNone input.reasonNote <;> simp
    have unpurchased : ((trimmedOrNone input.reasonNote).elim
        (MovementNote.conversion sourceId) .text).ofPurchase = false := by
      cases trimmedOrNone input.reasonNote <;> rfl
    have taken := Entered.update (P := P) (s := db.stock)
      (m := movementOf sourceId (-1) .conditionAdjustmentSource _ input.performedByUserId)
      (f := (·.restock (-1))) hl rfl rfl (note _ unpurchased text)
    have offered := Entered.insert (P := P)
      (s := ⟨db.listings.update sourceId (·.restock (-1)), db.movements ++
        [movementOf sourceId (-1) .conditionAdjustmentSource
          ((trimmedOrNone input.reasonNote).elim (.conversion sourceId) .text)
          input.performedByUserId]⟩)
      (m := movementOf _ 1 .conditionAdjustmentTarget _ input.performedByUserId)
      (l := usedListing input uploaded) rfl rfl rfl (note _ unpurchased text)
    have both := taken.trans offered
    rw [List.append_assoc] at both
    exact both

/-- Every request books what it moves, and only two concern purchases. -/
theorem shopStep_writes (digest : CanonicalRequest → String) (db : Db) (op : ShopOp) :
    Entered op.writes db.stock (shopStep digest db op).stock ∧
      (op.ofPurchase = false → (shopStep digest db op).purchasing = db.purchasing) := by
  refine commit_rel (R := fun db db' : Db => Entered op.writes db.stock db'.stock ∧
    (op.ofPurchase = false → db'.purchasing = db.purchasing)) ⟨Entered.refl _, fun _ => rfl⟩
    fun db' tx => ?_
  cases op with
  | createOrder userId input key now =>
      obtain ⟨⟨db₁, id⟩, hcreate, rfl⟩ := map_eq_ok.mp tx
      exact (create_entered hcreate).imp_right fun same _ => same
  | confirmOrder performedBy id =>
      obtain ⟨order, stock, -, -, hloop, rfl⟩ := confirmOrderInTransaction_eq_ok.mp tx
      exact ⟨Entered.convert hloop (by simp [ShopOp.writes, ShopOp.mayNote, ShopOp.movedOrder,
        MovementNote.ofPurchase]), fun _ => rfl⟩
  | cancelOrder userId id reason now =>
      exact (cancel_entered tx (by simp [ShopOp.writes, ShopOp.mayNote, ShopOp.movedOrder,
        MovementNote.ofPurchase])).imp_right fun same _ => same
  | cancelOrderByAdmin id reason admin now =>
      exact (cancel_entered tx (by simp [ShopOp.writes, ShopOp.mayNote, ShopOp.movedOrder,
        MovementNote.ofPurchase])).imp_right fun same _ => same
  | expireOrderReservation id asOf =>
      rcases expireOrderReservation_cases tx with rfl | ⟨order, listings, -, -, hloop, rfl⟩
      · exact ⟨Entered.refl _, fun _ => rfl⟩
      · exact ⟨Entered.release (s := db.stock) hloop, fun _ => rfl⟩
  | dispatchOrder id cost carrier tracking now =>
      obtain ⟨order, -, -, rfl⟩ := dispatchOrder_eq_ok.mp tx
      exact ⟨Entered.refl _, fun _ => rfl⟩
  | completeOrder id now =>
      obtain ⟨order, -, -, rfl⟩ := completeOrder_eq_ok.mp tx
      exact ⟨Entered.refl _, fun _ => rfl⟩
  | adjustInventory id quantity performedBy =>
      obtain ⟨l, hl, -, -, -, rfl⟩ := adjustInventory_eq_ok.mp tx
      exact ⟨Entered.update (s := db.stock) (m := movementOf id quantity _ _ _) hl rfl rfl
        (by simp [ShopOp.writes, ShopOp.mayNote, ShopOp.movedOrder, movementOf,
          MovementNote.ofPurchase]), fun _ => rfl⟩
  | writeOffInventory input =>
      obtain ⟨l, hl, -, -, -, rfl⟩ := writeOffInventory_eq_ok.mp tx
      exact ⟨Entered.update (s := db.stock)
        (m := movementOf input.sourceProductListingId (-input.quantity) _ _ _) hl rfl rfl
        (by simp [ShopOp.writes, ShopOp.mayNote, ShopOp.movedOrder, movementOf,
          MovementNote.ofPurchase]), fun _ => rfl⟩
  | reconcileStocktake input =>
      obtain ⟨l, hl, -, -, -, -, ⟨-, rfl⟩ | ⟨-, rfl⟩⟩ := reconcileStocktake_eq_ok.mp tx
      · exact ⟨Entered.refl _, fun _ => rfl⟩
      · refine ⟨Entered.update (s := db.stock) (m := movementOf input.productListingId
          (input.actualStock - l.currentStock) _ _ _) hl rfl ?_ ?_, fun _ => rfl⟩
        · simp [ProductListing.recount, movementOf]
        · cases hnote : trimmedOrNone input.reasonNote <;>
            simp [ShopOp.writes, ShopOp.mayNote, ShopOp.movedOrder, movementOf,
              MovementNote.ofPurchase]
  | createUsedOffer input uploaded =>
      obtain ⟨⟨db₁, id⟩, hcreate, rfl⟩ := map_eq_ok.mp tx
      exact (usedOffer_entered hcreate fun n unpurchased other =>
        ⟨fun o => by simp [ShopOp.movedOrder, other o], by simp [unpurchased]⟩).imp_right
          fun same _ => same
  | convertToUsedOffer input uploaded =>
      obtain ⟨⟨db₁, id⟩, hconvert, rfl⟩ := map_eq_ok.mp tx
      exact (usedOffer_entered hconvert fun n unpurchased other =>
        ⟨fun o => by simp [ShopOp.movedOrder, other o], by simp [unpurchased]⟩).imp_right
          fun same _ => same
  | receivePurchaseItem userId id now =>
      obtain ⟨item, listingId, l, -, -, -, -, hl, -, -, rfl⟩ := receivePurchaseItem_eq_ok.mp tx
      exact ⟨Entered.update (s := db.stock) (m := movementOf listingId item.quantity _ _ _) hl rfl
        rfl (by simp [ShopOp.writes, ShopOp.mayNote, ShopOp.movedOrder, movementOf,
          ShopOp.ofPurchase]), fun other => by cases other⟩
  | returnPurchaseItem userId id now =>
      obtain ⟨item, listingId, l, -, -, -, -, -, hl, -, rfl⟩ := returnPurchaseItem_eq_ok.mp tx
      exact ⟨Entered.update (s := db.stock) (m := movementOf listingId (-item.quantity) _ _ _) hl
        rfl rfl (by simp [ShopOp.writes, ShopOp.mayNote, ShopOp.movedOrder, movementOf,
          ShopOp.ofPurchase]), fun other => by cases other⟩
  | requestOrderReturn orderId itemId request performedBy =>
      obtain ⟨item, -, -, -, -, -, -, rfl⟩ := requestOrderReturn_eq_ok.mp tx
      exact ⟨Entered.refl _, fun _ => rfl⟩
  | cancelOrderReturn orderId ret now =>
      obtain ⟨row, item, -, -, -, rfl⟩ := cancelOrderReturn_eq_ok.mp tx
      exact ⟨Entered.refl _, fun _ => rfl⟩
  | authorizeOrderReturn orderId ret now =>
      obtain ⟨row, item, -, -, rfl⟩ := advanceReturn_eq_ok.mp tx
      exact ⟨Entered.refl _, fun _ => rfl⟩
  | receiveOrderReturn orderId ret now =>
      obtain ⟨row, item, -, -, rfl⟩ := advanceReturn_eq_ok.mp tx
      exact ⟨Entered.refl _, fun _ => rfl⟩
  | inspectOrderReturn orderId ret inspection now =>
      obtain ⟨row, item, l, -, -, -, -, -, -, rfl⟩ := inspectOrderReturn_ok tx
      exact ⟨Entered.refl _, fun _ => rfl⟩
  | completeOrderReturn orderId ret performedBy now =>
      obtain ⟨row, item, l, -, -, hl, -, -, -, rfl⟩ := completeOrderReturn_eq_ok.mp tx
      exact ⟨Entered.completed (s := db.stock) hl (by simp [ShopOp.writes, ShopOp.mayNote,
        ShopOp.movedOrder, MovementNote.ofPurchase]), fun _ => rfl⟩

/-- Every operation enters each change of a stock. -/
theorem shopStep_entered (digest : CanonicalRequest → String) (db : Db) (op : ShopOp) :
    Entered op.mayNote db.stock (shopStep digest db op).stock :=
  (shopStep_writes digest db op).1.mono fun _ => And.left

end Requests

end ColorfulLife
