/-
What one request can do to the shop.

`ShopEffect` has one constructor for each kind of committed change, with the
facts its transaction checked; `shopStep_effect` is the one case analysis over
the requests. Invariants are proved by cases on the effect.
-/

import ColorfulLife.Shop.Machine

namespace ColorfulLife

open Relational

/-! ### Corrections of the catalogue -/

/-- A catalogue after a stock correction: the old rows with their reservation
kept, and sound new rows without one. -/
structure Corrected (t t' : Table ProductListing) : Prop where
  kept : ∀ k l, t.get? k = some l → ∃ l', t'.get? k = some l' ∧ Shift 0 l l'
  added : ∀ k l', t.get? k = none → t'.get? k = some l' → l'.Sound ∧ l'.reservedStock = 0

namespace Corrected

variable {t t' t'' : Table ProductListing}

theorem refl (t : Table ProductListing) : Corrected t t where
  kept := fun _ l hl => ⟨l, hl, Shift.refl l⟩
  added := fun _ _ hnone hl => by simp [hnone] at hl

theorem trans (h : Corrected t t') (h' : Corrected t' t'') : Corrected t t'' where
  kept := fun k l hl => by
    obtain ⟨l', hl', shift⟩ := h.kept k l hl
    obtain ⟨l'', hl'', shift'⟩ := h'.kept k l' hl'
    exact ⟨l'', hl'', by simpa using shift.trans shift'⟩
  added := fun k l'' hnone hl'' => by
    cases hl' : t'.get? k with
    | none => exact h'.added k l'' hl' hl''
    | some l' =>
        obtain ⟨sound, unreserved⟩ := h.added k l' hnone hl'
        obtain ⟨l₂, hl₂, shift⟩ := h'.kept k l' hl'
        obtain rfl := Option.some.inj (hl₂.symm.trans hl'')
        exact ⟨shift.sound sound, by rw [shift.reserved, unreserved, add_zero]⟩

/-- One listing rewritten, its reservation and condition kept. -/
theorem update {k : Nat} {l : ProductListing} {g : ProductListing → ProductListing}
    (hl : t.get? k = some l) (reserved : (g l).reservedStock = l.reservedStock)
    (condition : (g l).condition = l.condition) (sound : l.Sound → (g l).Sound) :
    Corrected t (t.update k g) where
  kept := fun j r hr => by
    by_cases hj : j = k
    · subst hj
      obtain rfl : l = r := Option.some.inj (hl.symm.trans hr)
      exact ⟨g l, by simp [hl], ⟨by rw [reserved, add_zero], condition, sound⟩⟩
    · exact ⟨r, by rw [Table.get?_update_of_ne _ _ hj, hr], Shift.refl r⟩
  added := fun j r hnone hr => by
    rw [Table.get?_update, hnone] at hr
    split at hr <;> cases hr

theorem insert {l : ProductListing} (sound : l.Sound) (unreserved : l.reservedStock = 0) :
    Corrected t (t.insert l) where
  kept := fun _ r hr => ⟨r, Table.get?_insert_of_some hr, Shift.refl r⟩
  added := fun j r hnone hr => by
    rcases Table.insert_cases hr with ⟨-, rfl⟩ | hr
    · exact ⟨sound, unreserved⟩
    · rw [hnone] at hr
      cases hr

end Corrected

/-! ### Effects -/

/-- What a placed order satisfies. -/
structure Placed (orders : Table Order) (listings : Table ProductListing) (order : Order)
    (rows : List OrderItem) : Prop where
  pending : order.status = .pending
  uncancelled : order.cancelledAt = none
  deadline : order.reservationExpiresAt ≠ none
  owner : ∀ i ∈ rows, i.orderId = orders.nextId
  positive : ∀ i ∈ rows, 0 < i.quantity
  unreturned : ∀ i ∈ rows, i.returnedQuantity = 0 ∧ i.reservedReturnQuantity = 0
  listed : ∀ i ∈ rows, (listings.get? i.productListingId).isSome
  distinct : (rows.map OrderItem.productListingId).Nodup

/-- The two kinds of change that put sold units back into stock, and the rest. -/
inductive ShopEvent where
  | other
  | saleCancelled (orderId : Nat)
  | returnCompleted (orderId returnId : Nat)

/-- The kinds of change a request can cause. -/
def ShopOp.causes : ShopOp → ShopEvent → Prop
  | .cancelOrder _ orderId _ _, event | .cancelOrderByAdmin orderId _ _ _, event =>
      event = .other ∨ event = .saleCancelled orderId
  | .completeOrderReturn orderId returnId _ _, event => event = .returnCompleted orderId returnId
  | _, event => event = .other

/-- One committed request. -/
inductive ShopEffect (db : Db) : ShopEvent → Db → Prop where
  | stock {listings : Table ProductListing} {legoProducts : Table LegoProduct}
      {purchaseItems : Table PurchaseItem} {movements : List InventoryMovement}
      {audits : List InventoryAudit} (corrected : Corrected db.listings listings)
      (notes : ∀ m ∈ movements, m.note.ofOrder = false) :
      ShopEffect db .other { db with
        listings := listings
        legoProducts := legoProducts
        purchaseItems := purchaseItems
        movements := db.movements ++ movements
        audits := audits }
  | place {listings : Table ProductListing} {order : Order} {rows : List OrderItem}
      {cartItems : Table CartItem} {cartProvenance : Table OrderCartProvenance}
      {cartAllocations : Table OrderCartAllocation}
      (placed : Placed db.orders db.listings order rows)
      (reserved : rows.foldlM reserveLine db.listings = .ok listings) :
      ShopEffect db .other { db with
        listings := listings
        orders := db.orders.insert order
        orderItems := rows.foldl Table.insert db.orderItems
        cartItems := cartItems
        cartProvenance := cartProvenance
        cartAllocations := cartAllocations }
  | confirm {performedByUserId orderId : Nat} {order : Order} {stock : Stock}
      (found : db.orders.get? orderId = some order) (pending : order.status = .pending)
      (converted : (sortItems (db.itemsOf orderId)).foldlM
        (convertReservation performedByUserId orderId) db.stock = .ok stock) :
      ShopEffect db .other (queueCartReconciliation orderId true
        ((db.withStock stock).updateOrder orderId Order.confirm))
  | release {orderId : Nat} {order : Order} {f : Order → Order}
      {listings : Table ProductListing} (found : db.orders.get? orderId = some order)
      (pending : order.status = .pending)
      (closed : (f order).status = .cancelled ∨
        ((f order).status = .expired ∧ (f order).cancelledAt = order.cancelledAt))
      (deadline : (f order).reservationExpiresAt = none)
      (released : (sortItems (db.itemsOf orderId)).foldlM releaseReservation db.listings =
        .ok listings) :
      ShopEffect db .other (queueCartReconciliation orderId false
        ({ db with listings := listings }.updateOrder orderId f))
  | cancelSale {performedByUserId orderId : Nat} {order : Order} {stock : Stock}
      {cancelledBy : CancellationInitiator} {reason : CancellationReason} {now : Time}
      (found : db.orders.get? orderId = some order) (confirmed : order.status = .confirmed)
      (restocked : (sortItems (db.itemsOf orderId)).foldlM
        (restockCancelled performedByUserId orderId) db.stock = .ok stock) :
      ShopEffect db (.saleCancelled orderId)
        ((db.updateOrder orderId (Order.cancel cancelledBy reason now)).withStock stock)
  | forward {orderId : Nat} {order : Order} {f : Order → Order}
      (found : db.orders.get? orderId = some order)
      (moves : (order.status = .confirmed ∧ (f order).status = .dispatched) ∨
        (order.status = .dispatched ∧ (f order).status = .completed))
      (deadline : (f order).reservationExpiresAt = order.reservationExpiresAt)
      (cancelledAt : (f order).cancelledAt = order.cancelledAt) :
      ShopEffect db .other (db.updateOrder orderId f)
  | request {orderId orderItemId performedByUserId : Nat} {request : ReturnRequest}
      {item : OrderItem} (found : db.orderItems.get? orderItemId = some item)
      (owner : item.orderId = orderId) (positive : 0 < request.quantity)
      (room : item.reservedReturnQuantity ≤
        item.quantity - item.returnedQuantity - request.quantity) :
      ShopEffect db .other { db with
        orderItems := db.orderItems.update orderItemId (·.addReturns 0 request.quantity)
        orderReturns := db.orderReturns.insert
          (requestedReturn orderItemId performedByUserId request) }
  | advance {orderId returnId : Nat} {ret : OrderReturn} {item : OrderItem}
      {f : OrderReturn → OrderReturn} (found : ReturnOf orderId returnId db ret item)
      (moves : (ret.status = .requested ∧ (f ret).status = .authorized) ∨
        (ret.status = .authorized ∧ (f ret).status = .received) ∨
        (ret.status = .received ∧ (f ret).status = .inspected))
      (restock : ((f ret).restockQuantity = ret.restockQuantity ∧
          (f ret).condition = ret.condition) ∨
        (0 ≤ (f ret).restockQuantity ∧ (f ret).restockQuantity ≤ ret.quantity ∧
          (0 < (f ret).restockQuantity →
            (f ret).condition = some .asNew ∧
              isNewListing db.listings item.productListingId = true)))
      (quantity : (f ret).quantity = ret.quantity)
      (itemId : ∀ r, (f r).orderItemId = r.orderItemId) :
      ShopEffect db .other { db with orderReturns := db.orderReturns.update returnId f }
  | cancelReturn {orderId returnId : Nat} {ret : OrderReturn} {item : OrderItem} {now : Time}
      (found : ReturnOf orderId returnId db ret item) (requested : ret.status = .requested)
      (room : ret.quantity ≤ item.reservedReturnQuantity) :
      ShopEffect db .other { db with
        orderReturns := db.orderReturns.update returnId (OrderReturn.cancel now)
        orderItems := db.orderItems.update ret.orderItemId (·.addReturns 0 (-ret.quantity)) }
  | completeReturn {orderId returnId performedByUserId : Nat} {ret : OrderReturn}
      {item : OrderItem} {l : ProductListing} {now : Time}
      (found : ReturnOf orderId returnId db ret item) (inspected : ret.status = .inspected)
      (listing : db.listings.get? item.productListingId = some l)
      (new : 0 < ret.restockQuantity → l.condition = .new)
      (reserved : ret.quantity ≤ item.reservedReturnQuantity)
      (room : item.returnedQuantity + ret.quantity ≤ item.quantity) :
      ShopEffect db (.returnCompleted orderId returnId)
        { db.withStock (restockReturn performedByUserId returnId ret item db.stock) with
          orderItems := db.orderItems.update ret.orderItemId
            (·.addReturns ret.quantity (-ret.quantity))
          orderReturns := db.orderReturns.update returnId (OrderReturn.complete now) }

/-! ### The case analysis -/

section Cases

variable {db db' : Db}

theorem firstDuplicate_eq_none {ids seen : List Nat} (h : firstDuplicate seen ids = none) :
    ids.Nodup ∧ ∀ id ∈ ids, id ∉ seen := by
  induction ids generalizing seen with
  | nil => exact ⟨List.nodup_nil, by simp⟩
  | cons id ids ih =>
      rw [firstDuplicate] at h
      split at h
      · cases h
      · rename_i hnew
        obtain ⟨nodup, disjoint⟩ := ih h
        refine ⟨List.nodup_cons.mpr ⟨fun hid => disjoint id hid List.mem_cons_self, nodup⟩, ?_⟩
        intro id' hid'
        rcases List.mem_cons.mp hid' with rfl | hid'
        · exact hnew
        · exact fun hseen => disjoint id' hid' (List.mem_cons_of_mem _ hseen)

/-- The listings of the placed items are among the requested ones, in order. -/
theorem placedItems_listings (input : CreateOrderInput) (db : Db) :
    ((placedItems input db).map OrderItem.productListingId).Sublist
      (input.items.map RequestLine.productListingId) := by
  unfold placedItems requestedListings
  induction input.items with
  | nil => simp
  | cons line items ih =>
      cases hl : db.listings.get? line.productListingId with
      | none =>
          simp only [List.filterMap_cons, hl, Option.map_none, List.map_cons]
          exact ih.cons _
      | some l =>
          simp only [List.filterMap_cons, hl, Option.map_some, List.map_cons]
          exact ih.cons_cons _

theorem placedItems_placed (digest : CanonicalRequest → String) (userId : Nat)
    {input : CreateOrderInput} (key : Option String) (now : Time) (billing : AddressSnapshot)
    (db : Db) (unique : (input.items.map RequestLine.productListingId).Nodup) :
    Placed db.orders db.listings
      (newOrder digest userId input key now billing (placedItems input db))
      (placedItems input db) := by
  have item : ∀ i ∈ placedItems input db, i.orderId = db.orders.nextId ∧
      0 < i.quantity ∧ (i.returnedQuantity = 0 ∧ i.reservedReturnQuantity = 0) ∧
      (db.listings.get? i.productListingId).isSome := by
    intro i hi
    obtain ⟨line, -, l, hl, rfl⟩ := mem_placedItems hi
    exact ⟨rfl, line.positive, ⟨rfl, rfl⟩, Option.isSome_iff_exists.mpr ⟨l, hl⟩⟩
  exact
    { pending := rfl
      uncancelled := rfl
      deadline := by simp [newOrder]
      owner := fun i hi => (item i hi).1
      positive := fun i hi => (item i hi).2.1
      unreturned := fun i hi => (item i hi).2.2.1
      listed := fun i hi => (item i hi).2.2.2
      distinct := (placedItems_listings input db).nodup unique }

section Placement

variable {digest : CanonicalRequest → String} {userId orderId : Nat} {input : CreateOrderInput}
  {key : Option String} {now : Time}

/-- A placement after a settlement. -/
theorem placement_effect {settled : Db}
    (unique : (input.items.map RequestLine.productListingId).Nodup)
    (hsettle : settleCartReconciliation userId now db = .ok settled)
    (hplace : placeOrder digest userId input key now settled = .ok (db', orderId)) :
    ShopEffect db .other db' := by
  obtain ⟨-, billing, allocation, listings, -, -, -, -, hloop, halloc⟩ :=
    placeOrder_eq_ok.mp hplace
  have placed := placedItems_placed digest userId key now billing settled unique
  obtain ⟨_, _, _, rfl⟩ := (settleCartReconciliation_frame hsettle).fields
  obtain ⟨_, _, _, rfl⟩ := (allocateOrderCart_frame halloc).fields
  exact ShopEffect.place placed hloop

theorem create_effect
    (tx : createOrder digest userId input key now db = .ok (db', orderId)) :
    db' = db ∨ ShopEffect db .other db' := by
  rcases createOrder_cases tx with ⟨rfl, -⟩ | ⟨settled, -, hsettle, hdup, hplace⟩
  · exact Or.inl rfl
  · exact Or.inr (placement_effect (firstDuplicate_eq_none hdup).1 hsettle hplace)

end Placement

theorem cancel_effect {owner : Option Nat} {cancelledBy : CancellationInitiator}
    {performedByUserId orderId : Nat} {reason : CancellationReason} {now : Time}
    (tx : cancelWith owner cancelledBy performedByUserId orderId reason now db = .ok db') :
    ShopEffect db .other db' ∨ ShopEffect db (.saleCancelled orderId) db' := by
  obtain ⟨order, hfound, -, ⟨hstatus, listings, hloop, rfl⟩ | ⟨hstatus, stock, hloop, rfl⟩⟩ :=
    cancelWith_eq_ok.mp tx
  · have hget := (findCancelled_eq_some.mp hfound).1
    exact Or.inl (.release hget hstatus (Or.inl rfl) (by simp [Order.cancel, hstatus]) hloop)
  · have hget := (findCancelled_eq_some.mp hfound).1
    exact Or.inr (.cancelSale hget hstatus hloop)

theorem usedOffer_effect {conversion : Bool} {input : UsedOfferInput}
    {uploaded : List UploadedPhoto} {listingId : Nat}
    (tx : persistUsedOffer conversion input uploaded db = .ok (db', listingId)) :
    ShopEffect db .other db' := by
  obtain ⟨listings, product, hsource, -, rfl⟩ := persistUsedOffer_ok tx
  have source : Corrected db.listings listings := by
    rcases takeSource_cases hsource with ⟨-, rfl⟩ | ⟨sourceId, l, -, hl, hnew, hroom, rfl⟩
    · exact Corrected.refl _
    · refine Corrected.update hl rfl rfl fun sound => ⟨?_, sound.reserved_nonneg, ?_⟩
      · rcases sound.lifecycle with new | ⟨used, -⟩
        · exact Or.inl new
        · rw [hnew] at used
          cases used
      · simp [ProductListing.restock]
        omega
  refine ShopEffect.stock (source.trans (Corrected.insert ?_ rfl)) fun m hm => ?_
  · refine ⟨Or.inr ⟨rfl, Or.inl ⟨rfl, rfl, ?_, ?_⟩⟩, ?_, ?_⟩ <;> simp [usedListing]
  · unfold offerMovements at hm
    split at hm
    · cases hnote : trimmedOrNone input.reasonNote <;>
        simp [hnote, movementOf] at hm <;> rcases hm with rfl | rfl <;> rfl
    · simp [movementOf] at hm
      rw [hm]
      rfl

/-- Every request commits one of the effects or changes nothing. -/
theorem shopStep_effect (digest : CanonicalRequest → String) (db : Db) (op : ShopOp) :
    shopStep digest db op = db ∨
      ∃ event, op.causes event ∧ ShopEffect db event (shopStep digest db op) := by
  refine commit_rel
    (R := fun db db' => db' = db ∨ ∃ event, op.causes event ∧ ShopEffect db event db')
    (Or.inl rfl) fun db' tx => ?_
  cases op with
  | createOrder userId input key now =>
      obtain ⟨⟨db₁, id⟩, hcreate, rfl⟩ := map_eq_ok.mp tx
      rcases create_effect hcreate with same | happened
      · exact Or.inl same
      · exact Or.inr ⟨_, rfl, happened⟩
  | confirmOrder performedBy id =>
      obtain ⟨order, stock, hget, hstatus, hloop, rfl⟩ := confirmOrderInTransaction_eq_ok.mp tx
      exact Or.inr ⟨_, rfl, .confirm hget hstatus hloop⟩
  | cancelOrder userId id reason now =>
      rcases cancel_effect tx with released | restocked
      · exact Or.inr ⟨_, Or.inl rfl, released⟩
      · exact Or.inr ⟨_, Or.inr rfl, restocked⟩
  | cancelOrderByAdmin id reason admin now =>
      rcases cancel_effect tx with released | restocked
      · exact Or.inr ⟨_, Or.inl rfl, released⟩
      · exact Or.inr ⟨_, Or.inr rfl, restocked⟩
  | expireOrderReservation id asOf =>
      rcases expireOrderReservation_cases tx with rfl | ⟨order, listings, hget, hclaim, hloop, rfl⟩
      · exact Or.inl rfl
      · exact Or.inr ⟨_, rfl, .release hget hclaim.1 (Or.inr ⟨rfl, rfl⟩) rfl hloop⟩
  | dispatchOrder id cost carrier tracking now =>
      obtain ⟨order, hget, hstatus, rfl⟩ := dispatchOrder_eq_ok.mp tx
      exact Or.inr ⟨_, rfl, .forward hget (Or.inl ⟨hstatus, rfl⟩) rfl rfl⟩
  | completeOrder id now =>
      obtain ⟨order, hget, hstatus, rfl⟩ := completeOrder_eq_ok.mp tx
      exact Or.inr ⟨_, rfl, .forward hget (Or.inr ⟨hstatus, rfl⟩) rfl rfl⟩
  | adjustInventory id quantity performedBy =>
      obtain ⟨l, hl, hne, hused, hm, rfl⟩ := adjustInventory_eq_ok.mp tx
      refine Or.inr ⟨_, rfl, .stock (Corrected.update hl rfl rfl fun sound => ?_)
        (by simp [movementOf]; rfl)⟩
      exact sound.move (fun used => by have := (hused used).2; omega) hm
  | writeOffInventory input =>
      obtain ⟨l, hl, hpos, hused, hm, rfl⟩ := writeOffInventory_eq_ok.mp tx
      refine Or.inr ⟨_, rfl, .stock (Corrected.update hl rfl rfl fun sound => ?_)
        (by simp [movementOf]; rfl)⟩
      exact sound.move (fun _ => by omega) hm
  | reconcileStocktake input =>
      obtain ⟨l, hl, h0, -, hused, hreserved, ⟨-, rfl⟩ | ⟨hne, rfl⟩⟩ :=
        reconcileStocktake_eq_ok.mp tx
      · exact Or.inl rfl
      · refine Or.inr ⟨_, rfl, .stock (Corrected.update hl rfl rfl fun sound => ?_) ?_⟩
        · exact sound.recount hne h0 hused hreserved
        · intro m hm
          rw [List.mem_singleton.mp hm]
          cases hnote : trimmedOrNone input.reasonNote <;> rfl
  | createUsedOffer input uploaded =>
      obtain ⟨⟨db₁, id⟩, hcreate, rfl⟩ := map_eq_ok.mp tx
      exact Or.inr ⟨_, rfl, usedOffer_effect hcreate⟩
  | convertToUsedOffer input uploaded =>
      obtain ⟨⟨db₁, id⟩, hconvert, rfl⟩ := map_eq_ok.mp tx
      exact Or.inr ⟨_, rfl, usedOffer_effect hconvert⟩
  | receivePurchaseItem userId id now =>
      obtain ⟨item, listingId, l, -, -, -, -, hl, hnew, hpos, rfl⟩ :=
        receivePurchaseItem_eq_ok.mp tx
      refine Or.inr ⟨_, rfl, .stock (Corrected.update hl rfl rfl fun sound => ?_)
        (by simp [movementOf]; rfl)⟩
      exact sound.restock hpos hnew
  | returnPurchaseItem userId id now =>
      obtain ⟨item, listingId, l, -, -, -, hpos, -, hl, hm, rfl⟩ :=
        returnPurchaseItem_eq_ok.mp tx
      refine Or.inr ⟨_, rfl, .stock (Corrected.update hl rfl rfl fun sound => ?_)
        (by simp [movementOf]; rfl)⟩
      exact sound.move (fun _ => by omega) hm
  | requestOrderReturn orderId itemId request performedBy =>
      obtain ⟨item, hpos, -, -, hitem, howner, hroom, rfl⟩ := requestOrderReturn_eq_ok.mp tx
      exact Or.inr ⟨_, rfl, .request hitem howner hpos hroom⟩
  | cancelOrderReturn orderId ret now =>
      obtain ⟨row, item, hof, hstatus, hroom, rfl⟩ := cancelOrderReturn_eq_ok.mp tx
      exact Or.inr ⟨_, rfl, .cancelReturn hof hstatus hroom⟩
  | authorizeOrderReturn orderId ret now =>
      obtain ⟨row, item, hof, hstatus, rfl⟩ := advanceReturn_eq_ok.mp tx
      exact Or.inr ⟨_, rfl, .advance hof (Or.inl ⟨hstatus, rfl⟩) (Or.inl ⟨rfl, rfl⟩) rfl fun _ => rfl⟩
  | receiveOrderReturn orderId ret now =>
      obtain ⟨row, item, hof, hstatus, rfl⟩ := advanceReturn_eq_ok.mp tx
      exact Or.inr ⟨_, rfl, .advance hof (Or.inr (Or.inl ⟨hstatus, rfl⟩)) (Or.inl ⟨rfl, rfl⟩) rfl
        fun _ => rfl⟩
  | inspectOrderReturn orderId ret inspection now =>
      obtain ⟨row, item, l, hof, hstatus, hl, hnonneg, hle, hnew, rfl⟩ := inspectOrderReturn_ok tx
      refine Or.inr ⟨_, rfl, .advance hof (Or.inr (Or.inr ⟨hstatus, rfl⟩)) (Or.inr ?_) rfl
        fun _ => rfl⟩
      refine ⟨hnonneg, hle, fun hpos => ?_⟩
      obtain ⟨hasNew, hlnew⟩ := hnew hpos
      exact ⟨congrArg some hasNew, by simp [isNewListing, hl, hlnew]⟩
  | completeOrderReturn orderId ret performedBy now =>
      obtain ⟨row, item, l, hof, hstatus, hl, hnew, hreserved, hroom, rfl⟩ :=
        completeOrderReturn_eq_ok.mp tx
      exact Or.inr ⟨_, rfl, .completeReturn hof hstatus hl hnew hreserved hroom⟩

end Cases

end ColorfulLife
