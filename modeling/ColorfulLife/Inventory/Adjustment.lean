/-
Stock corrections outside orders: the manual adjustment
(`controllers/products.ts`), write-offs and stocktakes
(`domain/inventory/inventoryAdjustmentService.ts`), and the creation of used
offers, from nothing or by converting one new unit
(`domain/usedOffers/usedOfferService.ts`).
-/

import ColorfulLife.Inventory.Stock

namespace ColorfulLife

open Relational

/-! ### Changing a listing's stock -/

/-- `"currentStock" + change`; a used offer that reaches zero is retired. -/
def ProductListing.move (change : Int) (listing : ProductListing) : ProductListing :=
  { listing with
    currentStock := listing.currentStock + change
    usedLifecycle :=
      if listing.condition = .usedLikeNew ∧ listing.currentStock + change = 0 then some .retired
      else listing.usedLifecycle }

/-- The guard of these updates: stock stays at or above zero and above what is
reserved. -/
def ProductListing.movable (change : Int) (listing : ProductListing) : Bool :=
  decide (0 ≤ listing.currentStock + change ∧
    listing.reservedStock ≤ listing.currentStock + change)

/-- A movement row of a listing. -/
def movementOf (listingId : Nat) (quantityChange : Int) (type : InventoryMovementType)
    (note : MovementNote) (performedByUserId : Nat) : InventoryMovement where
  listingId := listingId
  quantityChange := quantityChange
  type := type
  note := note
  performedByUserId := performedByUserId

/-! ### Manual adjustment -/

def adjustInventory (listingId : Nat) (quantity : Int) (performedBy : Nat) (db : Db) :
    Result Db := do
  ensure (quantity ≠ 0) DomainError.zeroAdjustment
  let listing ← orThrow (db.listings.get? listingId) DomainError.listingNotFound
  ensure (¬ (listing.condition = .usedLikeNew ∧
      (listing.usedLifecycle ≠ some .available ∨ 0 < quantity)))
    DomainError.usedListingNotAdjustable
  let listings ← orThrow (db.listings.updateIf listingId (·.movable quantity) (·.move quantity))
    (if listing.currentStock < max 0 (-quantity) then DomainError.negativeStock
      else DomainError.insufficientUnreservedStock)
  return { db with
    listings := listings
    movements := db.movements ++ [movementOf listingId quantity .manualAdjustment
      (.manualAdjustment quantity) performedBy] }

/-! ### Write-off -/

structure WriteOffInput where
  sourceProductListingId : Nat
  quantity : Int
  reason : InventoryAdjustmentReason
  reasonNote : Option String
  performedByUserId : Nat
  deriving DecidableEq, Repr

def writeOffAudit (input : WriteOffInput) : InventoryAudit where
  sourceProductListingId := input.sourceProductListingId
  targetProductListingId := none
  action := .writeOff
  quantity := input.quantity
  reason := input.reason
  reasonNote := trimmedOrNone input.reasonNote
  performedByUserId := input.performedByUserId

def writeOffInventory (input : WriteOffInput) (db : Db) : Result Db := do
  ensure (0 < input.quantity) DomainError.invalidInventoryAdjustmentQuantity
  let source ← orThrow (db.listings.get? input.sourceProductListingId)
    (DomainError.inventoryListingNotFound input.sourceProductListingId)
  ensure (¬ (source.condition = .usedLikeNew ∧
      (source.usedLifecycle ≠ some .available ∨ input.quantity ≠ 1)))
    (DomainError.inventoryInsufficientStock input.sourceProductListingId)
  let listings ← orThrow
    (db.listings.updateIf input.sourceProductListingId (·.movable (-input.quantity))
      (·.move (-input.quantity)))
    (DomainError.inventoryInsufficientStock input.sourceProductListingId)
  return { db with
    listings := listings
    movements := db.movements ++ [movementOf input.sourceProductListingId (-input.quantity)
      .writeOff (.writeOff input.sourceProductListingId) input.performedByUserId]
    audits := db.audits ++ [writeOffAudit input] }

/-! ### Stocktake -/

structure StocktakeInput where
  productListingId : Nat
  actualStock : Int
  reasonNote : Option String
  performedByUserId : Nat
  deriving DecidableEq, Repr

/-- Set an absolute count; a used offer that is counted as zero is retired. -/
def ProductListing.recount (actualStock : Int) (listing : ProductListing) : ProductListing :=
  { listing with
    currentStock := actualStock
    usedLifecycle :=
      if listing.condition = .usedLikeNew ∧ actualStock = 0 then some .retired
      else listing.usedLifecycle }

/-- A recount is a move by the difference. -/
theorem ProductListing.recount_eq_move (actualStock : Int) (listing : ProductListing) :
    listing.recount actualStock = listing.move (actualStock - listing.currentStock) := by
  simp [recount, move]

/-- The listing is read under its row lock, so the guards of the final update
hold when it runs. -/
def reconcileStocktake (input : StocktakeInput) (db : Db) : Result Db := do
  ensure (0 ≤ input.actualStock ∧ input.actualStock ≤ 2147483647)
    DomainError.invalidStocktakeQuantity
  let listing ← orThrow (db.listings.get? input.productListingId)
    (DomainError.stocktakeListingNotFound input.productListingId)
  ensure (¬ (listing.condition = .usedLikeNew ∧
      (1 < input.actualStock ∨
        (listing.usedLifecycle ≠ some .available ∧ input.actualStock ≠ 0))))
    DomainError.invalidStocktakeQuantity
  ensure (listing.reservedStock ≤ input.actualStock) DomainError.stocktakeBelowReservedStock
  let quantityChange := input.actualStock - listing.currentStock
  if quantityChange = 0 then return db
  else
    return { db with
      listings := db.listings.update input.productListingId (·.recount input.actualStock)
      movements := db.movements ++ [movementOf input.productListingId quantityChange
        .manualAdjustment
        ((trimmedOrNone input.reasonNote).elim (.stocktake input.actualStock) .text)
        input.performedByUserId] }

/-! ### Used offers -/

/-- What the image storage returned for one uploaded photo. -/
structure UploadedPhoto where
  secureUrl : String
  publicId : String
  deriving DecidableEq, Repr

structure UsedOfferInput where
  legoProductId : Nat
  originalPrice : ℚ
  salePrice : Option ℚ
  damageDescription : String
  reason : Option InventoryAdjustmentReason
  reasonNote : Option String
  performedByUserId : Nat
  sourceNewListingId : Option Nat
  deriving DecidableEq

/-- The checks before the upload. -/
def validateUsedOffer (conversion : Bool) (input : UsedOfferInput) (photos : Nat) :
    Result PUnit := do
  ensure (conversion = input.sourceNewListingId.isSome) (DomainError.usedOfferValidation
    (if conversion then "A NEW source listing is required"
      else "A source listing is only accepted for condition conversion"))
  ensure (0 < input.originalPrice ∧ input.salePrice.all fun price => decide (0 ≤ price))
    (DomainError.usedOfferValidation "Invalid offer price")
  ensure (conversion → input.reason.all fun reason => decide (reason = .packagingDamage))
    (DomainError.usedOfferValidation
      "Used Like New conversion requires the PACKAGING_DAMAGE reason")
  ensure (trim input.damageDescription ≠ "" ∧ jsLength (trim input.damageDescription) ≤ 2000)
    (DomainError.usedOfferValidation "damageDescription must contain 1 to 2000 characters")
  ensure (1 ≤ photos ∧ photos ≤ 3)
    (DomainError.usedOfferValidation "Provide between 1 and 3 condition photos")

def hasCategoryFeatureProduct (categoryId : Nat) (products : Table LegoProduct) : Bool :=
  (products.find? fun _ p =>
    decide (p.categoryId = some categoryId ∧ p.isFeatureProduct)).isSome

/-- The first offer of a category without a feature product features its
product. -/
def featureFirstProduct (legoProductId : Nat) (product : LegoProduct)
    (products : Table LegoProduct) : Table LegoProduct :=
  match product.categoryId with
  | none => products
  | some categoryId =>
      if hasCategoryFeatureProduct categoryId products then products
      else products.update legoProductId fun p => { p with isFeatureProduct := true }

/-- `usedConditionPhotos: { create: uploaded.map((photo, sortOrder) => …) }`. -/
def conditionPhotos (uploaded : List UploadedPhoto) : List UsedConditionPhoto :=
  uploaded.zipIdx.map fun e =>
    { url := e.1.secureUrl, publicId := e.1.publicId, sortOrder := e.2 }

def usedListing (input : UsedOfferInput) (uploaded : List UploadedPhoto) : ProductListing where
  legoProductId := input.legoProductId
  condition := .usedLikeNew
  damageDescription := some (trim input.damageDescription)
  usedLifecycle := some .available
  originalPrice := toColumn input.originalPrice
  salePrice := input.salePrice.map toColumn
  currentStock := 1
  reservedStock := 0
  active := true
  usedConditionPhotos := conditionPhotos uploaded

/-- Take one unit out of the new listing a conversion starts from, if there is
one. -/
def takeSource (input : UsedOfferInput) (listings : Table ProductListing) :
    Result (Table ProductListing) :=
  match input.sourceNewListingId with
  | none => .ok listings
  | some sourceId => do
      let _ ← orThrow
        ((listings.get? sourceId).filter fun candidate =>
          decide (candidate.legoProductId = input.legoProductId ∧ candidate.condition = .new))
        (DomainError.usedOfferValidation "Source listing must be a NEW listing for this product")
      orThrow
        (listings.updateIf sourceId
          (fun listing => decide (1 ≤ listing.currentStock - listing.reservedStock))
          (·.restock (-1)))
        DomainError.usedOfferInsufficientNewStock

def conversionAudit (input : UsedOfferInput) (sourceId listingId : Nat) : InventoryAudit where
  sourceProductListingId := sourceId
  targetProductListingId := some listingId
  action := .conditionAdjustment
  quantity := 1
  reason := input.reason.getD .packagingDamage
  reasonNote := trimmedOrNone input.reasonNote
  performedByUserId := input.performedByUserId

/-- The movements of a new offer. -/
def offerMovements (input : UsedOfferInput) (listingId : Nat) : List InventoryMovement :=
  match input.sourceNewListingId with
  | some sourceId =>
      let note := (trimmedOrNone input.reasonNote).elim (.conversion sourceId) .text
      [movementOf sourceId (-1) .conditionAdjustmentSource note input.performedByUserId,
        movementOf listingId 1 .conditionAdjustmentTarget note input.performedByUserId]
  | none => [movementOf listingId 1 .manualAdjustment .usedOfferCreated input.performedByUserId]

def offerAudits (input : UsedOfferInput) (listingId : Nat) : List InventoryAudit :=
  match input.sourceNewListingId with
  | some sourceId => [conversionAudit input sourceId listingId]
  | none => []

/-- Creation and conversion of a used offer. The photos are uploaded before the
transaction; a failed transaction deletes them again. -/
def persistUsedOffer (conversion : Bool) (input : UsedOfferInput) (uploaded : List UploadedPhoto)
    (db : Db) : Result (Db × Nat) := do
  let _ ← validateUsedOffer conversion input uploaded.length
  let product ← orThrow (db.legoProducts.get? input.legoProductId)
    DomainError.usedOfferProductNotFound
  let _ ← orReject (db.listings.find? fun _ l =>
      decide (l.legoProductId = input.legoProductId ∧ l.condition = .usedLikeNew ∧
        l.currentStock = 1))
    fun _ => DomainError.usedOfferConflict
  let listings ← takeSource input db.listings
  let listingId := listings.nextId
  return ({ db with
    legoProducts := featureFirstProduct input.legoProductId product db.legoProducts
    listings := listings.insert (usedListing input uploaded)
    movements := db.movements ++ offerMovements input listingId
    audits := db.audits ++ offerAudits input listingId }, listingId)

def createUsedOffer (input : UsedOfferInput) (uploaded : List UploadedPhoto) (db : Db) :
    Result (Db × Nat) :=
  persistUsedOffer false input uploaded db

def convertToUsedOffer (input : UsedOfferInput) (uploaded : List UploadedPhoto) (db : Db) :
    Result (Db × Nat) :=
  persistUsedOffer true input uploaded db

/-! ### Inversion -/

section Inversion

variable {db db' : Db}

/-- A used offer is only ever adjusted while it is available, and downwards. -/
theorem adjustInventory_eq_ok {listingId performedBy : Nat} {quantity : Int} :
    adjustInventory listingId quantity performedBy db = .ok db' ↔
      ∃ l, db.listings.get? listingId = some l ∧ quantity ≠ 0 ∧
        (l.condition = .usedLikeNew → l.usedLifecycle = some .available ∧ quantity ≤ 0) ∧
        l.movable quantity = true ∧
        db' = { db with
          listings := db.listings.update listingId (·.move quantity)
          movements := db.movements ++ [movementOf listingId quantity .manualAdjustment
            (.manualAdjustment quantity) performedBy] } := by
  simp only [adjustInventory, bind_eq_ok, ensure_eq_ok, orThrow_eq_ok, pure_eq_ok]
  constructor
  · rintro ⟨-, hne, l, hl, -, hused, t, ht, rfl⟩
    obtain ⟨l', hl', hm, rfl⟩ := Table.updateIf_eq_some.mp ht
    obtain rfl : l = l' := Option.some.inj (hl.symm.trans hl')
    exact ⟨l, hl, hne, by grind, hm, rfl⟩
  · rintro ⟨l, hl, hne, hused, hm, rfl⟩
    exact ⟨⟨⟩, hne, l, hl, ⟨⟩, by grind, _, Table.updateIf_eq_some.mpr ⟨l, hl, hm, rfl⟩, rfl⟩

theorem writeOffInventory_eq_ok {input : WriteOffInput} :
    writeOffInventory input db = .ok db' ↔
      ∃ l, db.listings.get? input.sourceProductListingId = some l ∧ 0 < input.quantity ∧
        (l.condition = .usedLikeNew → l.usedLifecycle = some .available ∧ input.quantity = 1) ∧
        l.movable (-input.quantity) = true ∧
        db' = { db with
          listings := db.listings.update input.sourceProductListingId (·.move (-input.quantity))
          movements := db.movements ++ [movementOf input.sourceProductListingId (-input.quantity)
            .writeOff (.writeOff input.sourceProductListingId) input.performedByUserId]
          audits := db.audits ++ [writeOffAudit input] } := by
  simp only [writeOffInventory, bind_eq_ok, ensure_eq_ok, orThrow_eq_ok, pure_eq_ok]
  constructor
  · rintro ⟨-, hpos, l, hl, -, hused, t, ht, rfl⟩
    obtain ⟨l', hl', hm, rfl⟩ := Table.updateIf_eq_some.mp ht
    obtain rfl : l = l' := Option.some.inj (hl.symm.trans hl')
    exact ⟨l, hl, hpos, by grind, hm, rfl⟩
  · rintro ⟨l, hl, hpos, hused, hm, rfl⟩
    exact ⟨⟨⟩, hpos, l, hl, ⟨⟩, by grind, _, Table.updateIf_eq_some.mpr ⟨l, hl, hm, rfl⟩, rfl⟩

/-- A stocktake that counts what is recorded writes nothing. -/
theorem reconcileStocktake_eq_ok {input : StocktakeInput} :
    reconcileStocktake input db = .ok db' ↔
      ∃ l, db.listings.get? input.productListingId = some l ∧ 0 ≤ input.actualStock ∧
        input.actualStock ≤ 2147483647 ∧
        (l.condition = .usedLikeNew → input.actualStock ≤ 1 ∧
          (l.usedLifecycle = some .available ∨ input.actualStock = 0)) ∧
        l.reservedStock ≤ input.actualStock ∧
        ((input.actualStock = l.currentStock ∧ db' = db) ∨
          (input.actualStock ≠ l.currentStock ∧
            db' = { db with
              listings := db.listings.update input.productListingId (·.recount input.actualStock)
              movements := db.movements ++ [movementOf input.productListingId
                (input.actualStock - l.currentStock) .manualAdjustment
                ((trimmedOrNone input.reasonNote).elim (.stocktake input.actualStock) .text)
                input.performedByUserId] })) := by
  simp only [reconcileStocktake, bind_eq_ok, ensure_eq_ok, orThrow_eq_ok]
  constructor
  · rintro ⟨-, hrange, l, hl, -, hused, -, hreserved, h⟩
    refine ⟨l, hl, hrange.1, hrange.2, by grind, hreserved, ?_⟩
    split at h
    · exact Or.inl ⟨by omega, (pure_eq_ok.mp h).symm⟩
    · exact Or.inr ⟨by omega, (pure_eq_ok.mp h).symm⟩
  · rintro ⟨l, hl, h0, hmax, hused, hreserved, ⟨heq, rfl⟩ | ⟨hne, rfl⟩⟩
    · refine ⟨⟨⟩, ⟨h0, hmax⟩, l, hl, ⟨⟩, by grind, ⟨⟩, hreserved, ?_⟩
      rw [if_pos (by omega)]
      rfl
    · refine ⟨⟨⟩, ⟨h0, hmax⟩, l, hl, ⟨⟩, by grind, ⟨⟩, hreserved, ?_⟩
      rw [if_neg (by omega)]
      rfl

/-- The source of a conversion, if any, gives up one unreserved unit. -/
theorem takeSource_cases {input : UsedOfferInput} {t t' : Table ProductListing}
    (h : takeSource input t = .ok t') :
    (input.sourceNewListingId = none ∧ t' = t) ∨
      ∃ sourceId l, input.sourceNewListingId = some sourceId ∧ t.get? sourceId = some l ∧
        l.condition = .new ∧ l.reservedStock + 1 ≤ l.currentStock ∧
        t' = t.update sourceId (·.restock (-1)) := by
  unfold takeSource at h
  cases hs : input.sourceNewListingId with
  | none =>
      simp only [hs] at h
      exact Or.inl ⟨rfl, (Except.ok.inj h).symm⟩
  | some sourceId =>
      simp only [hs, bind_eq_ok, orThrow_eq_ok, Option.filter_eq_some_iff,
        decide_eq_true_eq] at h
      obtain ⟨l, ⟨hl, -, hnew⟩, hupdate⟩ := h
      obtain ⟨l', hl', hroom, rfl⟩ := Table.updateIf_eq_some.mp hupdate
      obtain rfl : l = l' := Option.some.inj (hl.symm.trans hl')
      exact Or.inr ⟨sourceId, l, rfl, hl, hnew, by simp at hroom; omega, rfl⟩

/-- A persisted offer is one new listing over the source's decrement. -/
theorem persistUsedOffer_ok {conversion : Bool} {input : UsedOfferInput}
    {uploaded : List UploadedPhoto} {listingId : Nat}
    (h : persistUsedOffer conversion input uploaded db = .ok (db', listingId)) :
    ∃ listings product, takeSource input db.listings = .ok listings ∧ listingId = listings.nextId ∧
      db' = { db with
        legoProducts := featureFirstProduct input.legoProductId product db.legoProducts
        listings := listings.insert (usedListing input uploaded)
        movements := db.movements ++ offerMovements input listingId
        audits := db.audits ++ offerAudits input listingId } := by
  simp only [persistUsedOffer, bind_eq_ok, orThrow_eq_ok, orReject_eq_ok, pure_eq_ok,
    Prod.mk.injEq] at h
  obtain ⟨-, -, product, -, -, -, listings, hsource, rfl, rfl⟩ := h
  exact ⟨listings, product, hsource, rfl, rfl⟩

end Inversion

/-! ### Sound listings -/

namespace ProductListing.Sound

variable {l : ProductListing} {change : Int}

/-- A guarded move keeps a listing sound; a used offer may only lose stock. -/
theorem move (h : l.Sound) (used : l.condition = .usedLikeNew → change < 0)
    (ok : l.movable change = true) : (l.move change).Sound := by
  obtain ⟨check, nonneg, le⟩ := h
  simp only [movable, decide_eq_true_eq] at ok
  refine ⟨?_, nonneg, ok.2⟩
  rcases check with new | ⟨isUsed, lifecycle⟩
  · exact Or.inl (by simpa [ProductListing.move, new.1] using new.2)
  · have down := used isUsed
    refine Or.inr ⟨isUsed, Or.inr ⟨Or.inr ?_, ?_, ?_⟩⟩ <;> simp [ProductListing.move, isUsed] <;> omega

/-- A stocktake that changes the count keeps a listing sound. -/
theorem recount {actualStock : Int} (h : l.Sound) (changed : actualStock ≠ l.currentStock)
    (nonneg : 0 ≤ actualStock)
    (used : l.condition = .usedLikeNew → actualStock ≤ 1 ∧
      (l.usedLifecycle = some .available ∨ actualStock = 0))
    (reserved : l.reservedStock ≤ actualStock) : (l.recount actualStock).Sound := by
  rw [recount_eq_move]
  refine h.move (fun isUsed => ?_) ?_
  · obtain ⟨le, available | zero⟩ := used isUsed
    · rcases h.lifecycle with ⟨new, -⟩ | ⟨-, ⟨-, one, -⟩ | ⟨terminal, -⟩⟩
      · rw [new] at isUsed
        cases isUsed
      · omega
      · rcases terminal with terminal | terminal <;> rw [available] at terminal <;> cases terminal
    · have := h.reserved_nonneg
      have := h.reserved_le
      omega
  · simp only [movable, decide_eq_true_eq]
    omega

end ProductListing.Sound

end ColorfulLife
