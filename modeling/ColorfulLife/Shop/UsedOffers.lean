/-
Used physical offers, and the constraints the migrations declare for them.

`listingConstraints` are the checks, triggers and the partial unique index of
`20260924120000_add_physical_used_offers` and
`20260925120000_serialize_used_condition_photos`. `ShopOp.statements` lists the
writes that a request issues on product listings. In every state that a run can
reach each of them fits the constraints, so a database without the constraints
stays within them and a database that enforces them never refuses a request.
-/

import ColorfulLife.Relational.Constraints
import ColorfulLife.Shop.Effects

namespace ColorfulLife

open Relational

/-! ### The declared constraints -/

/-- SQL `btrim`, which takes off blanks only. -/
def btrim (s : String) : String :=
  String.ofList ((s.toList.dropWhile (· = ' ')).rdropWhile (· = ' '))

namespace ProductListing

/-- `"usedLifecycle" IN ('SOLD', 'RETIRED')`. -/
def isTerminal (l : ProductListing) : Bool :=
  decide (l.usedLifecycle = some .sold ∨ l.usedLifecycle = some .retired)

/-- `ProductListing_used_stock_check`. -/
def usedStockCheck (l : ProductListing) : Prop :=
  l.condition ≠ .usedLikeNew ∨ (0 ≤ l.currentStock ∧ l.currentStock ≤ 1)

/-- `ProductListing_used_damage_description_check`. -/
def usedDamageDescriptionCheck (l : ProductListing) : Prop :=
  l.condition ≠ .usedLikeNew ∨ 0 < (btrim (l.damageDescription.getD "")).length

/-- `UsedConditionPhoto_listingId_sortOrder_key`. -/
def photosOrdered (l : ProductListing) : Prop :=
  (l.usedConditionPhotos.map UsedConditionPhoto.sortOrder).Nodup

/-- `enforce_used_offer_lifecycle` on `INSERT`, and `protect_terminal_used_photos`
for the photos that come with the row. -/
def insertGuard (l : ProductListing) : Prop :=
  (l.condition = .usedLikeNew →
    l.usedLifecycle = some .available ∧ l.currentStock = 1 ∧ l.reservedStock = 0) ∧
  (l.usedConditionPhotos ≠ [] → l.isTerminal = false)

/-- `enforce_used_offer_lifecycle` on `UPDATE`, and `protect_terminal_used_photos`
for photos that change. -/
def updateGuard (old new : ProductListing) : Prop :=
  new.condition = old.condition ∧
  (new.condition = .usedLikeNew → old.isTerminal = true →
    new.usedLifecycle = old.usedLifecycle ∧ new.currentStock = 0 ∧ new.reservedStock = 0 ∧
      new.damageDescription = old.damageDescription) ∧
  (new.usedConditionPhotos ≠ old.usedConditionPhotos → old.isTerminal = false)

/-- `WHERE "condition" = 'USED_LIKE_NEW' AND "currentStock" = 1`. -/
def isOffered (l : ProductListing) : Bool :=
  decide (l.condition = .usedLikeNew ∧ l.currentStock = 1)

/-- `check_used_condition_photos`, a deferred trigger. -/
def photosRequired (l : ProductListing) : Prop :=
  l.usedLifecycle ≠ none →
    1 ≤ l.usedConditionPhotos.length ∧ l.usedConditionPhotos.length ≤ 3

instance (l : ProductListing) : Decidable l.usedStockCheck := by
  unfold usedStockCheck; infer_instance

instance (l : ProductListing) : Decidable l.usedDamageDescriptionCheck := by
  unfold usedDamageDescriptionCheck; infer_instance

instance (l : ProductListing) : Decidable l.photosOrdered := by
  unfold photosOrdered; infer_instance

instance (l : ProductListing) : Decidable l.insertGuard := by
  unfold insertGuard; infer_instance

instance (old new : ProductListing) : Decidable (old.updateGuard new) := by
  unfold updateGuard; infer_instance

instance (l : ProductListing) : Decidable l.photosRequired := by
  unfold photosRequired; infer_instance

end ProductListing

/-- `ProductListing_one_available_used_offer_per_product_key`. -/
def offerClash (l l' : ProductListing) : Bool :=
  l.isOffered && l'.isOffered && decide (l.legoProductId = l'.legoProductId)

/-- Everything the migrations declare for used offers. -/
def listingConstraints : Constraints ProductListing where
  check l := decide (l.usedStockCheck ∧ l.usedLifecycleCheck ∧ l.usedDamageDescriptionCheck ∧
    l.photosOrdered)
  onInsert l := decide l.insertGuard
  onUpdate old new := decide (old.updateGuard new)
  clash := offerClash
  deferred l := decide l.photosRequired
  clash_comm l l' := by
    unfold offerClash
    rw [Bool.and_comm l.isOffered]
    congr 1
    exact decide_eq_decide.mpr eq_comm

/-! ### The statements of a request -/

def reserveStatement (item : OrderItem) : RowStatement ProductListing :=
  .update item.productListingId (·.reservable item.quantity) (·.reserve item.quantity)

def convertStatement (item : OrderItem) : RowStatement ProductListing :=
  .update item.productListingId (·.convertible item.quantity) (·.convert item.quantity)

def releaseStatement (item : OrderItem) : RowStatement ProductListing :=
  .update item.productListingId (fun listing => decide (item.quantity ≤ listing.reservedStock))
    (·.release item.quantity)

def restockStatement (listingId : Nat) (quantity : Int) : RowStatement ProductListing :=
  .update listingId (fun _ => true) (·.restock quantity)

def moveStatement (listingId : Nat) (change : Int) : RowStatement ProductListing :=
  .update listingId (·.movable change) (·.move change)

def recountStatement (listingId : Nat) (currentStock actualStock : Int) :
    RowStatement ProductListing :=
  .update listingId
    (fun listing => decide (listing.currentStock = currentStock ∧
      listing.reservedStock ≤ actualStock))
    (·.recount actualStock)

/-- A cancelled sale skips used offers. -/
def restockStatements (listings : Table ProductListing) (item : OrderItem) :
    List (RowStatement ProductListing) :=
  if isNewListing listings item.productListingId then
    [restockStatement item.productListingId item.quantity]
  else []

def releaseStatements (orderId : Nat) (db : Db) : List (RowStatement ProductListing) :=
  (sortItems (db.itemsOf orderId)).map fun e => releaseStatement e.2

def cancelStatements (orderId : Nat) (db : Db) : List (RowStatement ProductListing) :=
  match db.orders.get? orderId with
  | some order =>
      if order.status = .pending then releaseStatements orderId db
      else (sortItems (db.itemsOf orderId)).flatMap fun e => restockStatements db.listings e.2
  | none => []

def offerStatements (input : UsedOfferInput) (uploaded : List UploadedPhoto) :
    List (RowStatement ProductListing) :=
  (match input.sourceNewListingId with
    | some sourceId =>
        [.update sourceId
          (fun listing => decide (1 ≤ listing.currentStock - listing.reservedStock))
          (·.restock (-1))]
    | none => []) ++ [.insert (usedListing input uploaded)]

/-- A stocktake that counts what is recorded writes nothing. -/
def stocktakeStatements (input : StocktakeInput) (db : Db) : List (RowStatement ProductListing) :=
  match db.listings.get? input.productListingId with
  | some l =>
      if input.actualStock = l.currentStock then []
      else [recountStatement input.productListingId l.currentStock input.actualStock]
  | none => []

def returnStatements (returnId : Nat) (db : Db) : List (RowStatement ProductListing) :=
  match db.orderReturns.get? returnId with
  | some ret =>
      match db.orderItems.get? ret.orderItemId with
      | some item =>
          if 0 < ret.restockQuantity then
            [restockStatement item.productListingId ret.restockQuantity]
          else []
      | none => []
  | none => []

/-- The write on the listing that a purchase line is for. -/
def purchaseStatements (userId purchaseItemId : Nat) (write : Nat → Int → RowStatement ProductListing)
    (db : Db) : List (RowStatement ProductListing) :=
  match ownPurchaseItem userId purchaseItemId db with
  | some item =>
      match item.productListingId with
      | some listingId => [write listingId item.quantity]
      | none => []
  | none => []

/-- The statements of a request that writes nothing when it is refused. -/
def issued {α : Type} (tx : Result α) (script : List (RowStatement ProductListing)) :
    List (RowStatement ProductListing) :=
  match tx with
  | .ok _ => script
  | .error _ => []

/-- The writes on product listings that a request issues, in order. -/
def ShopOp.statements (digest : CanonicalRequest → String) (db : Db) :
    ShopOp → List (RowStatement ProductListing)
  | .createOrder userId input key _ =>
      match replayedOrder digest userId input key db with
      | .ok none => (placedItems input db).map reserveStatement
      | _ => []
  | .confirmOrder _ id => (sortItems (db.itemsOf id)).map fun e => convertStatement e.2
  | .cancelOrder _ id _ _ => cancelStatements id db
  | .cancelOrderByAdmin id _ _ _ => cancelStatements id db
  | .expireOrderReservation id asOf =>
      match db.orders.get? id with
      | some order => if order.isExpirable id asOf db then releaseStatements id db else []
      | none => []
  | .adjustInventory id quantity performedBy =>
      issued (ColorfulLife.adjustInventory id quantity performedBy db) [moveStatement id quantity]
  | .writeOffInventory input =>
      issued (ColorfulLife.writeOffInventory input db)
        [moveStatement input.sourceProductListingId (-input.quantity)]
  | .reconcileStocktake input =>
      issued (ColorfulLife.reconcileStocktake input db) (stocktakeStatements input db)
  | .createUsedOffer input uploaded =>
      issued (ColorfulLife.createUsedOffer input uploaded db) (offerStatements input uploaded)
  | .convertToUsedOffer input uploaded =>
      issued (ColorfulLife.convertToUsedOffer input uploaded db) (offerStatements input uploaded)
  | .receivePurchaseItem userId id now =>
      issued (ColorfulLife.receivePurchaseItem userId id now db)
        (purchaseStatements userId id restockStatement db)
  | .returnPurchaseItem userId id now =>
      issued (ColorfulLife.returnPurchaseItem userId id now db)
        (purchaseStatements userId id (fun k quantity => moveStatement k (-quantity)) db)
  | .completeOrderReturn orderId returnId performedBy now =>
      issued (ColorfulLife.completeOrderReturn orderId returnId performedBy now db)
        (returnStatements returnId db)
  | _ => []

/-! ### They are what a committed request writes -/

section Writes

variable {digest : CanonicalRequest → String} {db db' : Db}

theorem execute_place {items : List OrderItem} {t t' : Table ProductListing}
    (h : items.foldlM reserveLine t = .ok t') :
    execute (items.map reserveStatement) t = .ok t' := by
  rw [List.map_eq_flatMap]
  refine execute_loop id (I := fun _ => True) (fun t item t' _ step => ?_) trivial h
  exact ⟨trivial, execute_singleton.mpr (execute_update.mpr (reserveLine_eq_ok.mp step))⟩

theorem execute_convert {performedByUserId orderId : Nat} {items : List (Nat × OrderItem)}
    {s s' : Stock} (h : items.foldlM (convertReservation performedByUserId orderId) s = .ok s') :
    execute (items.map fun e => convertStatement e.2) s.listings = .ok s'.listings := by
  rw [List.map_eq_flatMap]
  refine execute_loop Stock.listings (I := fun _ => True) (fun s e s' _ step => ?_)
    trivial h
  obtain ⟨l, hl, matched, rfl⟩ := convertReservation_eq_ok.mp step
  exact ⟨trivial, execute_singleton.mpr (execute_update.mpr ⟨l, hl, matched, rfl⟩)⟩

theorem execute_release {orderId : Nat} {t' : Table ProductListing}
    (h : (sortItems (db.itemsOf orderId)).foldlM releaseReservation db.listings = .ok t') :
    execute (releaseStatements orderId db) db.listings = .ok t' := by
  rw [releaseStatements, List.map_eq_flatMap]
  refine execute_loop id (I := fun _ => True) (fun t e t' _ step => ?_) trivial h
  obtain ⟨l, hl, matched, rfl⟩ := releaseReservation_eq_ok.mp step
  exact ⟨trivial, execute_singleton.mpr
    (execute_update.mpr ⟨l, hl, decide_eq_true matched, rfl⟩)⟩

theorem isNewListing_restock {t : Table ProductListing} {j : Nat} {quantity : Int} (k : Nat) :
    isNewListing (t.update j (·.restock quantity)) k = isNewListing t k := by
  refine isNewListing_rows ?_ k
  exact Table.rows_update (fun _ _ => rfl) fun _ _ _ => rfl

theorem execute_restock {performedByUserId orderId : Nat} {items : List (Nat × OrderItem)}
    {s s' : Stock} (h : items.foldlM (restockCancelled performedByUserId orderId) s = .ok s') :
    execute (items.flatMap fun e => restockStatements s.listings e.2) s.listings =
      .ok s'.listings := by
  refine execute_loop Stock.listings
    (I := fun r => ∀ k, isNewListing r.listings k = isNewListing s.listings k)
    (fun r e r' same step => ?_) (fun _ => rfl) h
  obtain ⟨l, hl, ⟨used, rfl⟩ | ⟨new, rfl⟩⟩ := restockCancelled_eq_ok.mp step
  · have skipped : isNewListing s.listings e.2.productListingId = false := by
      rw [← same]
      simp [isNewListing, hl, used]
    exact ⟨same, by simp [restockStatements, skipped]⟩
  · have sold : isNewListing s.listings e.2.productListingId = true := by
      rw [← same]
      simp [isNewListing, hl, new]
    refine ⟨fun k => (isNewListing_restock k).trans (same k), ?_⟩
    rw [restockStatements, if_pos sold]
    exact execute_singleton.mpr (execute_update.mpr ⟨l, hl, rfl, rfl⟩)

theorem execute_cancel {owner : Option Nat} {cancelledBy : CancellationInitiator}
    {performedByUserId orderId : Nat} {reason : CancellationReason} {now : Time}
    (tx : cancelWith owner cancelledBy performedByUserId orderId reason now db = .ok db') :
    execute (cancelStatements orderId db) db.listings = .ok db'.listings := by
  obtain ⟨order, found, -, ⟨pending, listings, loop, rfl⟩ | ⟨confirmed, stock, loop, rfl⟩⟩ :=
    cancelWith_eq_ok.mp tx
  · have found := (findCancelled_eq_some.mp found).1
    simp only [cancelStatements, found, pending, if_true]
    exact execute_release loop
  · have found := (findCancelled_eq_some.mp found).1
    have waited : order.status ≠ .pending := by simp [confirmed]
    simp only [cancelStatements, found, if_neg waited]
    exact execute_restock loop

theorem execute_offer {conversion : Bool} {input : UsedOfferInput}
    {uploaded : List UploadedPhoto} {listingId : Nat}
    (tx : persistUsedOffer conversion input uploaded db = .ok (db', listingId)) :
    execute (offerStatements input uploaded) db.listings = .ok db'.listings := by
  obtain ⟨listings, product, source, -, rfl⟩ := persistUsedOffer_ok tx
  have inserted : execute [.insert (usedListing input uploaded)] listings =
      .ok (listings.insert (usedListing input uploaded)) := rfl
  refine execute_append ?_ inserted
  rcases takeSource_cases source with ⟨none, rfl⟩ | ⟨sourceId, l, some, hl, -, room, rfl⟩
  · rw [none]
    rfl
  · rw [some]
    refine execute_singleton.mpr (execute_update.mpr ⟨l, hl, decide_eq_true ?_, rfl⟩)
    omega

theorem execute_issued {α : Type} {tx : Result α} {a : α} {script : List (RowStatement ProductListing)}
    {t : Table ProductListing} {r : Except Refusal (Table ProductListing)} (passed : tx = .ok a)
    (ran : execute script t = r) : execute (issued tx script) t = r := by
  rw [passed]
  exact ran

/-- A request that issues one update. -/
theorem execute_issued_update {tx : Result Db} {k : Nat} {guard : ProductListing → Bool}
    {set : ProductListing → ProductListing} {t : Table ProductListing} {l : ProductListing}
    (passed : tx = .ok db') (hl : t.get? k = some l) (matched : guard l = true)
    (same : db'.listings = t.update k set) :
    execute (issued tx [.update k guard set]) t = .ok db'.listings :=
  execute_issued passed (execute_singleton.mpr (execute_update.mpr ⟨l, hl, matched, same⟩))

/-- The statements of a request take the listings to what it commits. -/
theorem execute_statements {op : ShopOp} (tx : op.body digest db = .ok db') :
    execute (op.statements digest db) db.listings = .ok db'.listings := by
  cases op with
  | createOrder userId input key now =>
      obtain ⟨⟨db₁, id⟩, created, rfl⟩ := map_eq_ok.mp tx
      rcases createOrder_cases created with ⟨rfl, replayed⟩ | ⟨settled, fresh, settle, -, place⟩
      · simp only [ShopOp.statements, replayed]
        rfl
      · obtain ⟨-, billing, allocation, listings, -, -, -, -, loop, allocate⟩ :=
          placeOrder_eq_ok.mp place
        simp only [ShopOp.statements, fresh]
        obtain ⟨_, _, _, rfl⟩ := (settleCartReconciliation_frame settle).fields
        obtain ⟨_, _, _, rfl⟩ := (allocateOrderCart_frame allocate).fields
        exact execute_place loop
  | confirmOrder performedBy id =>
      obtain ⟨order, stock, -, -, loop, rfl⟩ := confirmOrderInTransaction_eq_ok.mp tx
      exact execute_convert loop
  | cancelOrder userId id reason now => exact execute_cancel tx
  | cancelOrderByAdmin id reason admin now => exact execute_cancel tx
  | expireOrderReservation id asOf =>
      have tx : ColorfulLife.expireOrderReservation id asOf db = .ok db' := tx
      unfold ColorfulLife.expireOrderReservation at tx
      cases found : db.orders.get? id with
      | none =>
          simp only [found, Except.ok.injEq] at tx
          simp only [ShopOp.statements, found, execute_nil, ← tx]
      | some order =>
          simp only [found] at tx
          simp only [ShopOp.statements, found]
          split at tx
          · rename_i claimed
            simp only [bind_eq_ok, pure_eq_ok] at tx
            obtain ⟨listings, loop, rfl⟩ := tx
            rw [if_pos claimed]
            exact execute_release loop
          · rename_i unclaimed
            rw [if_neg unclaimed, execute_nil, Except.ok.inj tx]
  | adjustInventory id quantity performedBy =>
      obtain ⟨l, hl, -, -, movable, rfl⟩ := adjustInventory_eq_ok.mp tx
      exact execute_issued_update tx hl movable rfl
  | writeOffInventory input =>
      obtain ⟨l, hl, -, -, movable, rfl⟩ := writeOffInventory_eq_ok.mp tx
      exact execute_issued_update tx hl movable rfl
  | reconcileStocktake input =>
      obtain ⟨l, hl, -, -, -, reserved, ⟨same, rfl⟩ | ⟨changed, rfl⟩⟩ :=
        reconcileStocktake_eq_ok.mp tx
      · refine execute_issued tx ?_
        simp only [stocktakeStatements, hl, if_pos same]
        rfl
      · have script : stocktakeStatements input db =
            [recountStatement input.productListingId l.currentStock input.actualStock] := by
          rw [stocktakeStatements, hl]
          exact if_neg changed
        refine execute_issued tx (script ▸ execute_singleton.mpr (execute_update.mpr ?_))
        exact ⟨l, hl, decide_eq_true ⟨rfl, reserved⟩, rfl⟩
  | createUsedOffer input uploaded =>
      obtain ⟨⟨db₁, id⟩, created, rfl⟩ := map_eq_ok.mp tx
      exact execute_issued created (execute_offer created)
  | convertToUsedOffer input uploaded =>
      obtain ⟨⟨db₁, id⟩, converted, rfl⟩ := map_eq_ok.mp tx
      exact execute_issued converted (execute_offer converted)
  | receivePurchaseItem userId id now =>
      obtain ⟨item, listingId, l, own, -, -, listed, hl, -, -, rfl⟩ :=
        receivePurchaseItem_eq_ok.mp tx
      refine execute_issued tx ?_
      simp only [purchaseStatements, own, listed]
      exact execute_singleton.mpr (execute_update.mpr ⟨l, hl, rfl, rfl⟩)
  | returnPurchaseItem userId id now =>
      obtain ⟨item, listingId, l, own, -, -, -, listed, hl, movable, rfl⟩ :=
        returnPurchaseItem_eq_ok.mp tx
      refine execute_issued tx ?_
      simp only [purchaseStatements, own, listed]
      exact execute_singleton.mpr (execute_update.mpr ⟨l, hl, movable, rfl⟩)
  | completeOrderReturn orderId returnId performedBy now =>
      obtain ⟨ret, item, l, found, -, hl, -, -, -, rfl⟩ := completeOrderReturn_eq_ok.mp tx
      refine execute_issued tx ?_
      simp only [returnStatements, found.row, found.itemRow]
      by_cases restocked : 0 < ret.restockQuantity
      · simp only [restockReturn, restocked, if_true]
        exact execute_singleton.mpr (execute_update.mpr ⟨l, hl, rfl, rfl⟩)
      · simp only [restockReturn, restocked, if_false]
        rfl
  | dispatchOrder id cost carrier tracking now =>
      obtain ⟨order, -, -, rfl⟩ := dispatchOrder_eq_ok.mp tx
      rfl
  | completeOrder id now =>
      obtain ⟨order, -, -, rfl⟩ := completeOrder_eq_ok.mp tx
      rfl
  | requestOrderReturn orderId itemId request performedBy =>
      obtain ⟨item, -, -, -, -, -, -, rfl⟩ := requestOrderReturn_eq_ok.mp tx
      rfl
  | cancelOrderReturn orderId ret now =>
      obtain ⟨row, item, -, -, -, rfl⟩ := cancelOrderReturn_eq_ok.mp tx
      rfl
  | authorizeOrderReturn orderId ret now =>
      obtain ⟨row, item, -, -, rfl⟩ := advanceReturn_eq_ok.mp tx
      rfl
  | receiveOrderReturn orderId ret now =>
      obtain ⟨row, item, -, -, rfl⟩ := advanceReturn_eq_ok.mp tx
      rfl
  | inspectOrderReturn orderId ret inspection now =>
      obtain ⟨row, item, l, -, -, -, -, -, -, rfl⟩ := inspectOrderReturn_ok tx
      rfl

end Writes

/-! ### They fit the constraints -/

/-- A rewritten listing that the constraints do not object to: a used offer is
only rewritten while it is available. -/
structure Reworks (l l' : ProductListing) : Prop where
  condition : l'.condition = l.condition
  legoProductId : l'.legoProductId = l.legoProductId
  damageDescription : l'.damageDescription = l.damageDescription
  photos : l'.usedConditionPhotos = l.usedConditionPhotos
  new : l.condition = .new → l'.usedLifecycle = l.usedLifecycle
  used : l.condition = .usedLikeNew → l.usedLifecycle = some .available ∧ l'.usedLifecycleCheck

section Fits

variable {t : Table ProductListing} {k : Nat} {l l' : ProductListing}

theorem listingConstraints_check : listingConstraints.check l = true ↔
    l.usedStockCheck ∧ l.usedLifecycleCheck ∧ l.usedDamageDescriptionCheck ∧ l.photosOrdered :=
  decide_eq_true_iff

theorem holds_lifecycle (h : listingConstraints.Holds t) (hl : t.get? k = some l) :
    l.usedLifecycleCheck :=
  (listingConstraints_check.mp (h.checked k l hl)).2.1

/-- A used offer within the lifecycle constraint is sound. -/
theorem sound_of_used (check : l.usedLifecycleCheck) (used : l.condition = .usedLikeNew) :
    l.Sound := by
  refine ⟨check, ?_, ?_⟩
  · rcases check with ⟨new, -⟩ | ⟨-, ⟨-, -, nonneg, -⟩ | ⟨-, -, zero⟩⟩
    · rw [new] at used
      cases used
    · exact nonneg
    · exact zero.ge
  · rcases check with ⟨new, -⟩ | ⟨-, ⟨-, one, -, le⟩ | ⟨-, gone, zero⟩⟩
    · rw [new] at used
      cases used
    · exact one.symm ▸ le
    · exact (zero.trans gone.symm).le

/-- What an available offer is, by the lifecycle constraint. -/
theorem stock_of_available (check : l.usedLifecycleCheck)
    (available : l.usedLifecycle = some .available) :
    l.currentStock = 1 ∧ l.isTerminal = false := by
  refine ⟨?_, by simp [ProductListing.isTerminal, available]⟩
  rcases check with ⟨-, none⟩ | ⟨-, ⟨-, one, -⟩ | ⟨terminal, -⟩⟩
  · rw [available] at none
    cases none
  · exact one
  · rw [available] at terminal
    rcases terminal with sold | retired
    · cases sold
    · cases retired

/-- An offer with a unit in stock is available. -/
theorem available_of_stock (check : l.usedLifecycleCheck) (used : l.condition = .usedLikeNew)
    (stocked : 0 < l.currentStock) : l.usedLifecycle = some .available := by
  rcases check with ⟨new, -⟩ | ⟨-, ⟨available, -⟩ | ⟨-, gone, -⟩⟩
  · rw [new] at used
    cases used
  · exact available
  · exact absurd gone stocked.ne'

theorem stock_of_check (check : l.usedLifecycleCheck) : l.usedStockCheck := by
  rcases check with ⟨new, -⟩ | ⟨-, ⟨-, one, -⟩ | ⟨-, gone, -⟩⟩
  · exact Or.inl (by simp [new])
  · exact Or.inr ⟨by omega, by omega⟩
  · exact Or.inr ⟨by omega, by omega⟩

namespace Reworks

theorem lifecycle (h : Reworks l l') (check : l.usedLifecycleCheck) : l'.usedLifecycleCheck := by
  rcases check with ⟨new, none⟩ | ⟨used, -⟩
  · exact Or.inl ⟨h.condition.trans new, (h.new new).trans none⟩
  · exact (h.used used).2

theorem updateGuard (h : Reworks l l') (check : l.usedLifecycleCheck) : l.updateGuard l' := by
  refine ⟨h.condition, fun used terminal => ?_, fun changed => absurd h.photos changed⟩
  have available := (h.used (h.condition ▸ used)).1
  rw [(stock_of_available check available).2] at terminal
  cases terminal

theorem check (h : Reworks l l') (passed : listingConstraints.check l = true) :
    listingConstraints.check l' = true := by
  obtain ⟨-, check, damage, photos⟩ := listingConstraints_check.mp passed
  refine listingConstraints_check.mpr
    ⟨stock_of_check (h.lifecycle check), h.lifecycle check, ?_, ?_⟩
  · rw [ProductListing.usedDamageDescriptionCheck, h.condition, h.damageDescription]
    exact damage
  · rw [ProductListing.photosOrdered, h.photos]
    exact photos

theorem photosRequired (h : Reworks l l') (check : l.usedLifecycleCheck)
    (required : l.photosRequired) : l'.photosRequired := by
  intro lifecycle
  rw [h.photos]
  refine required fun none => ?_
  rcases check with ⟨new, -⟩ | ⟨used, -⟩
  · exact lifecycle ((h.new new).trans none)
  · rw [(h.used used).1] at none
    cases none

/-- The rewritten offer clashes with no more rows than it did. -/
theorem clash (h : Reworks l l') (check : l.usedLifecycleCheck) {s : ProductListing}
    (clash : offerClash l' s = true) : offerClash l s = true := by
  simp only [offerClash, ProductListing.isOffered, Bool.and_eq_true, decide_eq_true_eq,
    h.condition, h.legoProductId] at clash ⊢
  obtain ⟨⟨⟨used, -⟩, offered⟩, product⟩ := clash
  exact ⟨⟨⟨used, (stock_of_available check (h.used used).1).1⟩, offered⟩, product⟩

end Reworks

theorem fits_update (h : listingConstraints.Holds t) {guard : ProductListing → Bool}
    {set : ProductListing → ProductListing}
    (reworks : ∀ l, t.get? k = some l → guard l = true → Reworks l (set l)) :
    listingConstraints.Fits (.update k guard set) t := by
  intro l hl matched
  have check := holds_lifecycle h hl
  have reworks := reworks l hl matched
  exact ⟨decide_eq_true (reworks.updateGuard check), reworks.check (h.checked k l hl),
    decide_eq_true (reworks.photosRequired check (of_decide_eq_true (h.settled k l hl))),
    fun s => reworks.clash check⟩

theorem fits_reserve (h : listingConstraints.Holds t) {item : OrderItem}
    (pos : 0 < item.quantity) : listingConstraints.Fits (reserveStatement item) t := by
  refine fits_update h fun l hl matched => ⟨rfl, rfl, rfl, rfl, fun _ => rfl, fun used => ?_⟩
  have check := holds_lifecycle h hl
  have allowed := (of_decide_eq_true matched).1
  refine ⟨?_, ((sound_of_used check used).reserve pos matched).lifecycle⟩
  rcases allowed with new | ⟨-, available⟩
  · rw [new] at used
    cases used
  · exact available

theorem fits_convert (h : listingConstraints.Holds t) {item : OrderItem}
    (pos : 0 < item.quantity) : listingConstraints.Fits (convertStatement item) t := by
  refine fits_update h fun l hl matched => ⟨rfl, rfl, rfl, rfl, fun new => ?_, fun used => ?_⟩
  · simp [ProductListing.convert, new]
  · have check := holds_lifecycle h hl
    have allowed := (of_decide_eq_true matched).1
    exact ⟨available_of_stock check used (pos.trans_le allowed),
      ((sound_of_used check used).convert pos matched).lifecycle⟩

theorem fits_release (h : listingConstraints.Holds t) {item : OrderItem}
    (pos : 0 < item.quantity) : listingConstraints.Fits (releaseStatement item) t := by
  refine fits_update h fun l hl matched => ⟨rfl, rfl, rfl, rfl, fun _ => rfl, fun used => ?_⟩
  have sound := sound_of_used (holds_lifecycle h hl) used
  have reserved := of_decide_eq_true matched
  have covered := sound.reserved_le
  exact ⟨available_of_stock sound.lifecycle used (by omega),
    (sound.release pos reserved).lifecycle⟩

/-- Only new listings are restocked. -/
theorem fits_restock (h : listingConstraints.Holds t) {quantity : Int}
    (new : ∀ l, t.get? k = some l → l.condition = .new) :
    listingConstraints.Fits (restockStatement k quantity) t := by
  refine fits_update h fun l hl _ => ⟨rfl, rfl, rfl, rfl, fun _ => rfl, fun used => ?_⟩
  rw [new l hl] at used
  cases used

/-- Used offers only lose stock. -/
theorem fits_move (h : listingConstraints.Holds t) {change : Int}
    (down : ∀ l, t.get? k = some l → l.condition = .usedLikeNew → change < 0) :
    listingConstraints.Fits (moveStatement k change) t := by
  refine fits_update h fun l hl matched => ⟨rfl, rfl, rfl, rfl, fun new => ?_, fun used => ?_⟩
  · simp [ProductListing.move, new]
  · have sound := sound_of_used (holds_lifecycle h hl) used
    have down := down l hl used
    have stays := (of_decide_eq_true matched).1
    exact ⟨available_of_stock sound.lifecycle used (by omega),
      (sound.move (fun _ => down) matched).lifecycle⟩

theorem fits_recount (h : listingConstraints.Holds t) (hl : t.get? k = some l) {actualStock : Int}
    (nonneg : 0 ≤ actualStock) (changed : actualStock ≠ l.currentStock)
    (used : l.condition = .usedLikeNew → actualStock ≤ 1 ∧
      (l.usedLifecycle = some .available ∨ actualStock = 0)) :
    listingConstraints.Fits (recountStatement k l.currentStock actualStock) t := by
  refine fits_update h fun r hr matched => ?_
  obtain rfl : l = r := Option.some.inj (hl.symm.trans hr)
  have reserved := (of_decide_eq_true matched).2
  refine ⟨rfl, rfl, rfl, rfl, fun new => ?_, fun isUsed => ?_⟩
  · simp [ProductListing.recount, new]
  · have sound := sound_of_used (holds_lifecycle h hl) isUsed
    refine ⟨?_, (sound.recount changed nonneg used reserved).lifecycle⟩
    rcases (used isUsed).2 with available | zero
    · exact available
    · have within := sound.reserved_nonneg
      have covered := sound.reserved_le
      exact available_of_stock sound.lifecycle isUsed (by omega)

end Fits

/-! ### A new offer -/

/-- A text that is not blank to `trim` is not blank to `btrim`. -/
theorem btrim_trim_pos {s : String} (given : trim s ≠ "") : 0 < (btrim (trim s)).length := by
  have written : (trim s).toList = (s.toList.dropWhile isSpace).rdropWhile isSpace := by
    rw [trim, String.toList_ofList, List.rdropWhile]
  have letter : ∃ c ∈ (trim s).toList, ¬ isSpace c = true := by
    by_contra! blank
    have nothing : (trim s).toList.rdropWhile isSpace = [] :=
      List.rdropWhile_eq_nil_iff.mpr blank
    rw [written, List.rdropWhile_idempotent, ← written] at nothing
    exact given (String.toList_eq_nil_iff.mp nothing)
  obtain ⟨c, mem, visible⟩ := letter
  rw [btrim, String.length_ofList, List.length_pos_iff]
  intro nothing
  have rest := List.rdropWhile_eq_nil_iff.mp nothing
  rw [← List.takeWhile_append_dropWhile (p := (· = ' ')) (l := (trim s).toList)] at mem
  have blank : c = ' ' := by
    rcases List.mem_append.mp mem with front | back
    · have taken := List.mem_takeWhile_imp (p := fun x => decide (x = ' ')) front
      exact of_decide_eq_true taken
    · exact of_decide_eq_true (rest c back)
  rw [blank] at visible
  exact visible rfl

section Offer

variable {db db' : Db} {conversion : Bool} {input : UsedOfferInput}
  {uploaded : List UploadedPhoto} {listingId : Nat}

/-- The guards of a new offer. -/
theorem persistUsedOffer_guards
    (tx : persistUsedOffer conversion input uploaded db = .ok (db', listingId)) :
    trim input.damageDescription ≠ "" ∧ (1 ≤ uploaded.length ∧ uploaded.length ≤ 3) ∧
      ∀ k l, db.listings.get? k = some l → l.legoProductId = input.legoProductId →
        l.isOffered = false := by
  simp only [persistUsedOffer, validateUsedOffer, bind_eq_ok, ensure_eq_ok, orThrow_eq_ok,
    orReject_eq_ok] at tx
  obtain ⟨-, ⟨-, -, -, -, -, -, -, described, photos⟩, product, -, -, free, -⟩ := tx
  refine ⟨described.1, photos, fun k l hl same => ?_⟩
  have other := Table.find?_eq_none.mp free k l hl
  simp only [same, true_and] at other
  exact other

@[simp] theorem length_conditionPhotos : (conditionPhotos uploaded).length = uploaded.length := by
  simp [conditionPhotos]

theorem nodup_conditionPhotos :
    ((conditionPhotos uploaded).map UsedConditionPhoto.sortOrder).Nodup := by
  have orders : (conditionPhotos uploaded).map UsedConditionPhoto.sortOrder =
      uploaded.zipIdx.map Prod.snd := by
    rw [conditionPhotos, List.map_map]
    rfl
  rw [orders, List.zipIdx_map_snd]
  exact List.nodup_range'

theorem fits_insert {t : Table ProductListing} (described : trim input.damageDescription ≠ "")
    (photos : 1 ≤ uploaded.length ∧ uploaded.length ≤ 3)
    (free : ∀ k l, t.get? k = some l → l.legoProductId = input.legoProductId →
      l.isOffered = false) :
    listingConstraints.Fits (.insert (usedListing input uploaded)) t := by
  have lifecycle : (usedListing input uploaded).usedLifecycleCheck :=
    Or.inr ⟨rfl, Or.inl ⟨rfl, rfl, le_rfl, zero_le_one⟩⟩
  refine ⟨decide_eq_true ⟨fun _ => ⟨rfl, rfl, rfl⟩, fun _ => rfl⟩,
    listingConstraints_check.mpr ⟨stock_of_check lifecycle, lifecycle,
      Or.inr (btrim_trim_pos described), nodup_conditionPhotos⟩,
    decide_eq_true fun _ => ?_, fun k l hl => ?_⟩
  · simpa [usedListing] using photos
  · change (_ && l.isOffered && decide (input.legoProductId = l.legoProductId)) = false
    by_cases same : l.legoProductId = input.legoProductId
    · rw [free k l hl same, Bool.and_false, Bool.false_and]
    · rw [decide_eq_false (Ne.symm same), Bool.and_false]

theorem fits_offer (h : listingConstraints.Holds db.listings)
    (tx : persistUsedOffer conversion input uploaded db = .ok (db', listingId)) :
    listingConstraints.FitsAll (offerStatements input uploaded) db.listings := by
  obtain ⟨described, photos, free⟩ := persistUsedOffer_guards tx
  obtain ⟨listings, product, source, -, -⟩ := persistUsedOffer_ok tx
  rcases takeSource_cases source with ⟨none, -⟩ | ⟨sourceId, l, some, hl, new, -, -⟩
  · rw [offerStatements, none]
    exact .single (fits_insert described photos free)
  · rw [offerStatements, some]
    have rework : ∀ r, db.listings.get? sourceId = Option.some r →
        Reworks r (r.restock (-1)) := by
      intro r hr
      obtain rfl : l = r := Option.some.inj (hl.symm.trans hr)
      refine ⟨rfl, rfl, rfl, rfl, fun _ => rfl, fun used => ?_⟩
      rw [new] at used
      cases used
    refine ⟨fits_update h fun r hr _ => rework r hr, fun t' run => ?_⟩
    obtain ⟨r, hr, -, rfl⟩ := execute_update.mp run
    refine .single (fits_insert described photos fun k r' hr' same => ?_)
    rcases Table.update_cases hr hr' with ⟨-, rfl⟩ | ⟨-, hr'⟩
    · obtain rfl : l = r := Option.some.inj (hl.symm.trans hr)
      simp [ProductListing.isOffered, ProductListing.restock, new]
    · exact free k r' hr' same

end Offer

/-! ### The invariant -/

/-- The constraints hold of the listings, and orders are for a positive quantity. -/
structure OffersInv (db : Db) : Prop where
  listings : listingConstraints.Holds db.listings
  positive : ∀ j item, db.orderItems.get? j = some item → 0 < item.quantity

section Invariant

variable {digest : CanonicalRequest → String} {db db' : Db} {op : ShopOp}

theorem OffersInv.items_positive (h : OffersInv db) (o : Nat) :
    ∀ e ∈ sortItems (db.itemsOf o), 0 < e.2.quantity := by
  intro e he
  exact h.positive e.1 e.2 (Table.mem_select.mp (mem_sortItems.mp he)).1

/-- Statements that fit wherever the constraints hold. -/
theorem fits_map {α : Type} {items : List α} {statement : α → RowStatement ProductListing}
    (h : listingConstraints.Holds db.listings)
    (fits : ∀ e ∈ items, ∀ t, listingConstraints.Holds t →
      listingConstraints.Fits (statement e) t) :
    listingConstraints.FitsAll (items.map statement) db.listings := by
  refine .of_forall (J := fun _ => True) (fun s hs t _ ht => ?_) (fun _ _ _ _ _ _ => trivial)
    trivial h
  obtain ⟨e, he, rfl⟩ := List.mem_map.mp hs
  exact fits e he t ht

theorem fits_release_all (h : OffersInv db) (o : Nat) :
    listingConstraints.FitsAll (releaseStatements o db) db.listings :=
  fits_map h.listings fun e he _ ht => fits_release ht (h.items_positive o e he)

theorem fits_cancel (h : OffersInv db) (o : Nat) :
    listingConstraints.FitsAll (cancelStatements o db) db.listings := by
  unfold cancelStatements
  split
  · split
    · exact fits_release_all h o
    · refine .of_forall
        (J := fun t => ∀ k, isNewListing t k = isNewListing db.listings k)
        (fun s hs t same ht => ?_) (fun s hs t t' same run => ?_) (fun _ => rfl) h.listings
      · obtain ⟨e, -, hs⟩ := List.mem_flatMap.mp hs
        unfold restockStatements at hs
        split at hs
        · rename_i new
          obtain rfl := List.mem_singleton.mp hs
          refine fits_restock ht fun l hl => ?_
          rw [← same, isNewListing, hl] at new
          exact of_decide_eq_true new
        · cases hs
      · obtain ⟨e, -, hs⟩ := List.mem_flatMap.mp hs
        unfold restockStatements at hs
        split at hs
        · obtain rfl := List.mem_singleton.mp hs
          obtain ⟨l, -, -, rfl⟩ := execute_update.mp run
          exact fun k => (isNewListing_restock k).trans (same k)
        · cases hs
  · trivial

theorem fits_issued {α : Type} {tx : Result α} {script : List (RowStatement ProductListing)}
    {t : Table ProductListing}
    (fits : ∀ a, tx = .ok a → listingConstraints.FitsAll script t) :
    listingConstraints.FitsAll (issued tx script) t := by
  cases tx with
  | ok a => exact fits a rfl
  | error e => trivial

/-- Every statement that a request issues fits. -/
theorem OffersInv.fits (h : OffersInv db) (op : ShopOp) :
    listingConstraints.FitsAll (op.statements digest db) db.listings := by
  cases op with
  | createOrder userId input key now =>
      simp only [ShopOp.statements]
      split
      · refine fits_map h.listings fun item hitem t ht => fits_reserve ht ?_
        obtain ⟨line, -, l, -, rfl⟩ := mem_placedItems hitem
        exact line.positive
      · trivial
  | confirmOrder performedBy id =>
      exact fits_map h.listings fun e he _ ht => fits_convert ht (h.items_positive id e he)
  | cancelOrder userId id reason now => exact fits_cancel h id
  | cancelOrderByAdmin id reason admin now => exact fits_cancel h id
  | expireOrderReservation id asOf =>
      simp only [ShopOp.statements]
      split
      · split
        · exact fits_release_all h id
        · trivial
      · trivial
  | adjustInventory id quantity performedBy =>
      refine fits_issued fun db' tx => .single (fits_move h.listings fun l hl used => ?_)
      obtain ⟨r, hr, nonzero, down, -, -⟩ := adjustInventory_eq_ok.mp tx
      obtain rfl : r = l := Option.some.inj (hr.symm.trans hl)
      have le := (down used).2
      omega
  | writeOffInventory input =>
      refine fits_issued fun db' tx => .single (fits_move h.listings fun l hl _ => ?_)
      obtain ⟨-, -, pos, -⟩ := writeOffInventory_eq_ok.mp tx
      omega
  | reconcileStocktake input =>
      refine fits_issued fun db' tx => ?_
      obtain ⟨l, hl, nonneg, -, used, -, -⟩ := reconcileStocktake_eq_ok.mp tx
      simp only [stocktakeStatements, hl]
      split
      · trivial
      · exact .single (fits_recount h.listings hl nonneg ‹_› used)
  | createUsedOffer input uploaded =>
      exact fits_issued fun a tx => fits_offer h.listings tx
  | convertToUsedOffer input uploaded =>
      exact fits_issued fun a tx => fits_offer h.listings tx
  | receivePurchaseItem userId id now =>
      refine fits_issued fun db' tx => ?_
      obtain ⟨item, listingId, l, own, -, -, listed, hl, new, -, -⟩ :=
        receivePurchaseItem_eq_ok.mp tx
      simp only [purchaseStatements, own, listed]
      refine .single (fits_restock h.listings fun r hr => ?_)
      obtain rfl : l = r := Option.some.inj (hl.symm.trans hr)
      exact new
  | returnPurchaseItem userId id now =>
      refine fits_issued fun db' tx => ?_
      obtain ⟨item, listingId, l, own, -, -, pos, listed, -, -, -⟩ :=
        returnPurchaseItem_eq_ok.mp tx
      simp only [purchaseStatements, own, listed]
      exact .single (fits_move h.listings fun _ _ _ => by omega)
  | completeOrderReturn orderId returnId performedBy now =>
      refine fits_issued fun db' tx => ?_
      obtain ⟨ret, item, l, found, -, hl, new, -, -, -⟩ := completeOrderReturn_eq_ok.mp tx
      simp only [returnStatements, found.row, found.itemRow]
      split
      · refine .single (fits_restock h.listings fun r hr => ?_)
        obtain rfl : l = r := Option.some.inj (hl.symm.trans hr)
        exact new ‹_›
      · trivial
  | dispatchOrder | completeOrder | requestOrderReturn | cancelOrderReturn
  | authorizeOrderReturn | receiveOrderReturn | inspectOrderReturn => trivial

/-- Order items keep their quantity, and new ones have a positive one. -/
theorem positive_effect {event : ShopEvent} (happened : ShopEffect db event db')
    (positive : ∀ j item, db.orderItems.get? j = some item → 0 < item.quantity) :
    ∀ j item, db'.orderItems.get? j = some item → 0 < item.quantity := by
  have counted : ∀ {k : Nat} {returned reserved : Int} {j : Nat} {item : OrderItem},
      (db.orderItems.update k (·.addReturns returned reserved)).get? j = some item →
      0 < item.quantity := by
    intro k returned reserved j item hitem
    obtain ⟨i, hi, -, -, quantity⟩ := get?_addReturns hitem
    exact quantity ▸ positive j i hi
  cases happened with
  | place placed reserved =>
      intro j item hitem
      rcases Table.mem_insertAll hitem with old | ⟨-, new⟩
      · exact positive j item old
      · exact placed.positive item new
  | request => exact fun j item => counted
  | cancelReturn => exact fun j item => counted
  | completeReturn => exact fun j item => counted
  | stock | confirm | release | cancelSale | forward | advance => exact positive

/-- What a later state has of a listing: an offer that is gone stays gone. -/
def Kept (l l' : ProductListing) : Prop :=
  l'.condition = l.condition ∧
    (l.condition = .usedLikeNew → l.isTerminal = true → l'.usedLifecycle = l.usedLifecycle)

theorem Kept.trans {l l' l'' : ProductListing} (h : Kept l l') (h' : Kept l' l'') :
    Kept l l'' := by
  refine ⟨h'.1.trans h.1, fun used terminal => ?_⟩
  have same := h.2 used terminal
  have terminal' : l'.isTerminal = true := by
    rw [ProductListing.isTerminal, same]
    exact terminal
  exact (h'.2 (h.1.trans used) terminal').trans same

theorem kept_of_updateGuard {l l' : ProductListing}
    (allowed : listingConstraints.onUpdate l l' = true) : Kept l l' := by
  obtain ⟨condition, terminal, -⟩ := of_decide_eq_true allowed
  exact ⟨condition, fun used gone => (terminal (condition.trans used) gone).1⟩

/-- Every listing is still there, and an offer that was gone is gone. -/
def OffersKept (db db' : Db) : Prop :=
  ∀ k l, db.listings.get? k = some l → ∃ l', db'.listings.get? k = some l' ∧ Kept l l'

theorem OffersKept.refl (db : Db) : OffersKept db db :=
  fun _ l hl => ⟨l, hl, rfl, fun _ _ => rfl⟩

theorem OffersKept.trans {db db' db'' : Db} (h : OffersKept db db') (h' : OffersKept db' db'') :
    OffersKept db db'' := by
  intro k l hl
  obtain ⟨l', hl', before⟩ := h k l hl
  obtain ⟨l'', hl'', after⟩ := h' k l' hl'
  exact ⟨l'', hl'', before.trans after⟩

/-- A committed request runs its statements. -/
theorem OffersInv.commit (h : OffersInv db) (tx : op.body digest db = .ok db') :
    listingConstraints.Holds db'.listings ∧ OffersKept db db' :=
  h.listings.execute (R := Kept) (fun _ => ⟨rfl, fun _ _ => rfl⟩) Kept.trans
    (fun _ _ => kept_of_updateGuard) (h.fits op) (execute_statements tx)

/-- The step lemma. -/
theorem OffersInv.step (h : OffersInv db) (op : ShopOp) : OffersInv (shopStep digest db op) := by
  constructor
  · exact commit_invariant (I := fun db => listingConstraints.Holds db.listings) h.listings
      fun db' tx => (h.commit tx).1
  · rcases shopStep_effect digest db op with same | ⟨event, -, happened⟩
    · rw [same]
      exact h.positive
    · exact positive_effect happened h.positive

theorem OffersInv.step_kept (h : OffersInv db) (op : ShopOp) :
    OffersKept db (shopStep digest db op) :=
  commit_rel (OffersKept.refl db) fun _ tx => (h.commit tx).2

/-- The run lemmas. -/
theorem OffersInv.run (h : OffersInv db) (ops : List ShopOp) :
    OffersInv (Relational.run (shopStep digest) db ops) :=
  run_invariant (I := OffersInv) (fun _ op h => h.step op) h ops

theorem OffersInv.run_kept (h : OffersInv db) (ops : List ShopOp) :
    OffersKept db (Relational.run (shopStep digest) db ops) :=
  run_rel (I := OffersInv) OffersKept.refl OffersKept.trans (fun _ op h => h.step op)
    (fun _ op h => h.step_kept op) h ops

end Invariant

/-! ### Every run -/

/-- In every run, a used offer is available with one unit, reserved or not, or
sold or retired with none, and then stays so; a product has one used offer with a
unit at most; and the declared constraints never stop a request: its statements
run under them as they run without them. -/
theorem used_offers_kept (digest : CanonicalRequest → String) {db : Db} (start : OffersInv db)
    (ops : List ShopOp) :
    (∀ k l, (run (shopStep digest) db ops).listings.get? k = some l →
      l.condition = .usedLikeNew →
      (l.usedLifecycle = some .available ∧ l.currentStock = 1 ∧
          (l.reservedStock = 0 ∨ l.reservedStock = 1)) ∨
        ((l.usedLifecycle = some .sold ∨ l.usedLifecycle = some .retired) ∧
          l.currentStock = 0 ∧ l.reservedStock = 0)) ∧
    (∀ xs, xs <+: ops → ∀ k l, (run (shopStep digest) db xs).listings.get? k = some l →
      l.condition = .usedLikeNew →
      (l.usedLifecycle = some .sold ∨ l.usedLifecycle = some .retired) →
      ∃ l', (run (shopStep digest) db ops).listings.get? k = some l' ∧
        l'.condition = .usedLikeNew ∧ l'.usedLifecycle = l.usedLifecycle) ∧
    (∀ j k l l', (run (shopStep digest) db ops).listings.get? j = some l →
      (run (shopStep digest) db ops).listings.get? k = some l' →
      l.condition = .usedLikeNew → l'.condition = .usedLikeNew →
      l.currentStock = 1 → l'.currentStock = 1 → l.legoProductId = l'.legoProductId → j = k) ∧
    ∀ op : ShopOp,
      listingConstraints.transact (op.statements digest (run (shopStep digest) db ops))
          (run (shopStep digest) db ops).listings =
        execute (op.statements digest (run (shopStep digest) db ops))
          (run (shopStep digest) db ops).listings ∧
      ∀ db', op.body digest (run (shopStep digest) db ops) = .ok db' →
        listingConstraints.transact (op.statements digest (run (shopStep digest) db ops))
          (run (shopStep digest) db ops).listings = .ok db'.listings := by
  have inv : OffersInv (run (shopStep digest) db ops) := start.run ops
  refine ⟨fun k l hl used => ?_, ?_, ?_, fun op => ?_⟩
  · rcases holds_lifecycle inv.listings hl with ⟨new, -⟩ | ⟨-, ⟨available, one, low, high⟩ | gone⟩
    · rw [new] at used
      cases used
    · exact Or.inl ⟨available, one, by omega⟩
    · exact Or.inr gone
  · rintro xs ⟨ys, rfl⟩ k l hl used gone
    rw [run_append]
    have there : OffersInv (run (shopStep digest) db xs) := start.run xs
    have kept : OffersKept _ (run (shopStep digest) _ ys) := there.run_kept ys
    obtain ⟨l', hl', condition, same⟩ := kept k l hl
    exact ⟨l', hl', condition.trans used, same used (decide_eq_true gone)⟩
  · intro j k l l' hl hl' used used' one one' product
    refine inv.listings.unique j k l l' hl hl' ?_
    simp [listingConstraints, offerClash, ProductListing.isOffered, used, used', one, one', product]
  · have fits : listingConstraints.FitsAll (op.statements digest _) _ := inv.fits op
    have unnoticed := Constraints.transact_eq inv.listings fits
    exact ⟨unnoticed, fun db' tx => unnoticed.trans (execute_statements tx)⟩

/-- The sample shop with the product of its listing. -/
def offerShop : Db :=
  { sampleShop with
    legoProducts := Table.empty.insert
      { setNumber := "10497", categoryId := none, title := "Galaxy Explorer", description := none
        theme := "Icons", ageRecommendation := "18+", pieceCount := 1254, isRetired := false
        isFeatureProduct := false } }

/-- One of the five units is found damaged, ordered, paid for, and offered again. -/
def offerRun : List ShopOp :=
  let damaged : UsedOfferInput :=
    { legoProductId := 1, originalPrice := 4, salePrice := none, damageDescription := " torn box "
      reason := none, reasonNote := none, performedByUserId := 7, sourceNewListingId := some 1 }
  [.convertToUsedOffer damaged [⟨"https://photos/1", "used-condition/1"⟩],
    .createOrder 1 (.single ⟨2, 1, Int.zero_lt_one⟩) none 0, .confirmOrder 7 1,
    .convertToUsedOffer damaged [⟨"https://photos/2", "used-condition/2"⟩]]

theorem offerShop_inv : OffersInv offerShop where
  listings := by
    have only : ∀ k l, offerShop.listings.get? k = some l → k = 1 ∧ l = sampleListing := by
      intro k l hl
      rcases Table.insert_cases hl with ⟨same, rfl⟩ | old
      · exact ⟨same, rfl⟩
      · cases old
    refine ⟨fun k l hl => ?_, fun k l hl => ?_, fun j k l l' hl hl' _ => ?_⟩
    · obtain ⟨-, rfl⟩ := only k l hl
      decide
    · obtain ⟨-, rfl⟩ := only k l hl
      decide
    · exact (only j l hl).1.trans (only k l' hl').1.symm
  positive := nofun

/-- The sold offer stays sold when another unit is offered. -/
theorem used_offers_kept_sample : ∃ l,
    (run (shopStep fun _ => "") offerShop offerRun).listings.get? 2 = some l ∧
      l.condition = .usedLikeNew ∧ l.usedLifecycle = some .sold :=
  (used_offers_kept (fun _ => "") offerShop_inv offerRun).2.1 (offerRun.take 3)
    (List.take_prefix 3 offerRun) 2 _ rfl rfl (Or.inl rfl)

end ColorfulLife
