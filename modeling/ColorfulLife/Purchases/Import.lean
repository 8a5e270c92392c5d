/-
Persisting purchase documents (`domain/purchases/purchasePersistence.ts`,
`purchaseImportService.ts`, `manualPurchaseService.ts`) and matching their lines
to listings (`services/purchaseItemMatcher.ts`).

A document that the parser or the form produced is calculated and then stored in
one transaction, under the lock of its purchase.
-/

import ColorfulLife.Purchases.Costs
import ColorfulLife.Relational.Unique
import ColorfulLife.Schema.Database

namespace ColorfulLife

open Relational

/-! ### Columns -/

/-- What `Decimal(12, 2)` holds, in pence. -/
def fitsMoney (p : Pence) : Prop := -1000000000000 < p ∧ p < 1000000000000

instance (p : Pence) : Decidable (fitsMoney p) := by unfold fitsMoney; infer_instance

/-- The quantity is a 32-bit integer, the unit cost a `Decimal(14, 6)`. -/
def PurchaseItem.fitsColumns (item : PurchaseItem) : Prop :=
  item.quantity ≤ 2147483647 ∧ fitsMoney item.originalGrossUnitCost ∧
    fitsMoney item.originalGrossLineTotal ∧ fitsMoney item.allocatedShipping ∧
    fitsMoney item.allocatedDiscount ∧ fitsMoney item.finalLineCost ∧
    item.finalUnitCost < 100000000000000

instance (item : PurchaseItem) : Decidable item.fitsColumns := by
  unfold PurchaseItem.fitsColumns; infer_instance

/-- The line number is a 32-bit integer. -/
def PurchaseItem.fitsLineNumber (item : PurchaseItem) : Prop :=
  ∀ n ∈ item.sourceLineNumber, n ≤ 2147483647

instance (item : PurchaseItem) : Decidable item.fitsLineNumber := by
  unfold PurchaseItem.fitsLineNumber; infer_instance

def PurchaseDocument.fitsColumns (document : PurchaseDocument) : Prop :=
  fitsMoney document.originalGrossMerchandiseTotal ∧ fitsMoney document.shippingTotal ∧
    fitsMoney document.discountTotal ∧ fitsMoney document.finalTotalPaid

instance (document : PurchaseDocument) : Decidable document.fitsColumns := by
  unfold PurchaseDocument.fitsColumns; infer_instance

/-- `importHash String @unique` and `@@unique([purchaseId, partNumber])`. -/
def PurchaseDocument.clash (a b : PurchaseDocument) : Bool :=
  decide (a.importHash = b.importHash ∨
    (a.purchaseId = b.purchaseId ∧ a.partNumber = b.partNumber))

/-! ### Matching -/

/-- The listing of a set number, when exactly one matches. -/
def matchProductListingId (sourceSetNumber : Option String) (db : Db) : Option Nat := do
  let setNumber ← given sourceSetNumber
  let (productId, _) ← db.legoProducts.find? fun _ p => decide (p.setNumber = setNumber)
  match db.listings.select fun _ l => decide (l.legoProductId = productId) with
  | [(listingId, _)] => some listingId
  | _ => none

/-! ### Persistence -/

def newPurchase (header : PurchaseHeader) : Purchase where
  sourceOrderReference := header.sourceOrderReference
  sourceOrderDate := header.sourceOrderDate.join
  merchantName := header.merchantName

/-- `purchase.upsert({ where: { sourceOrderReference }, update: {} })`. -/
def upsertPurchase (header : PurchaseHeader) (purchases : Table Purchase) :
    Table Purchase × Nat :=
  match purchases.find? fun _ p =>
      decide (p.sourceOrderReference = header.sourceOrderReference) with
  | some (purchaseId, _) => (purchases, purchaseId)
  | none => (purchases.insert (newPurchase header), purchases.nextId)

/-- One more than the last part of the purchase, or one. -/
def nextPartNumber (purchaseId : Nat) (documents : Table PurchaseDocument) : Nat :=
  ((documents.select fun _ d => decide (d.purchaseId = purchaseId)).map
    fun e => e.2.partNumber).foldl max 0 + 1

def newPurchaseDocument (header : PurchaseHeader) (purchaseId partNumber userId : Nat) :
    PurchaseDocument where
  purchaseId := purchaseId
  partNumber := partNumber
  sourceInvoiceReference := header.sourceInvoiceReference
  importHash := header.importHash
  sourceDocumentDate := header.sourceDocumentDate.join
  importedByUserId := userId
  originalGrossMerchandiseTotal := header.originalGrossMerchandiseTotal
  shippingTotal := header.shippingTotal
  discountTotal := header.discountTotal
  finalTotalPaid := header.finalTotalPaid

def newPurchaseItem (purchaseDocumentId : Nat) (db : Db) (item : CalculatedPurchaseItem) :
    PurchaseItem where
  purchaseDocumentId := purchaseDocumentId
  productListingId := item.productListingId <|> matchProductListingId item.sourceSetNumber db
  inventoryDisposition := .inventory
  externalProductId := item.externalProductId
  sourceDescription := item.sourceDescription
  sourceSetNumber := item.sourceSetNumber
  sourceLineNumber := item.sourceLineNumber
  quantity := item.quantity
  originalGrossUnitCost := item.originalGrossUnitCost
  originalGrossLineTotal := item.originalGrossLineTotal
  allocatedShipping := item.allocatedShipping
  allocatedDiscount := item.allocatedDiscount
  finalLineCost := item.finalLineCost
  finalUnitCost := item.finalUnitCost
  receivedAt := none
  returnedAt := none

def persistCalculatedPurchaseDocument (doc : CalculatedPurchaseDocument) (userId : Nat) (db : Db) :
    Result Db := do
  ensure (doc.sourceOrderDate.all Option.isSome ∧ doc.sourceDocumentDate.all Option.isSome)
    DomainError.invalidDateArgument
  let (purchases, purchaseId) := upsertPurchase doc.toPurchaseHeader db.purchases
  let document := newPurchaseDocument doc.toPurchaseHeader purchaseId
    (nextPartNumber purchaseId db.purchaseDocuments) userId
  -- `importHash` is a `VarChar(64)`; it comes trimmed, so that no blanks are cut off
  ensure (document.importHash.length ≤ 64) DomainError.valueTooLong
  ensure document.fitsColumns DomainError.numericOverflow
  ensure (db.purchaseDocuments.clashes PurchaseDocument.clash db.purchaseDocuments.nextId
    document = false) (DomainError.duplicateImport doc.importHash)
  let rows := doc.items.map (newPurchaseItem db.purchaseDocuments.nextId db)
  ensure (∀ row ∈ rows, row.fitsLineNumber ∧ row.fitsColumns) DomainError.numericOverflow
  ensure (∀ row ∈ rows, row.productListingId.all fun id => (db.listings.get? id).isSome)
    DomainError.foreignKeyViolation
  return { db with
    purchases := purchases
    purchaseDocuments := db.purchaseDocuments.insert document
    purchaseItems := rows.foldl Table.insert db.purchaseItems }

/-- The import of a parsed and normalised invoice. -/
def importPurchaseInvoice (userId : Nat) (normalised : NormalizedPurchaseDocument) (db : Db) :
    Result Db := do
  let calculated ← calculatePurchaseCosts normalised
  persistCalculatedPurchaseDocument calculated userId db

/-- Listings that a form names must exist; its import hash is made up. -/
def createManualPurchase (userId : Nat) (input : NormalizedPurchaseDocument) (uuid : String)
    (db : Db) : Result Db := do
  let missing := (input.items.filterMap NormalizedPurchaseItem.productListingId).find? fun id =>
    (db.listings.get? id).isNone
  let _ ← orReject missing DomainError.manualPurchaseListingNotFound
  importPurchaseInvoice userId { input with importHash := "manual:" ++ uuid } db

/-! ### Inversion -/

section Inversion

variable {db db' : Db} {userId : Nat}

/-- The purchase that a document is filed under: the one of its reference, which stays
as it is, or a new one. -/
def FiledUnder (header : PurchaseHeader) (purchases purchases' : Table Purchase) (purchaseId : Nat) :
    Prop :=
  ∃ purchase, purchases'.get? purchaseId = some purchase ∧
    purchase.sourceOrderReference = header.sourceOrderReference ∧
    (purchases.get? purchaseId = some purchase ∨
      purchases.get? purchaseId = none ∧ purchase = newPurchase header)

/-- What an upsert leaves: the purchase is there, and the others as they were. -/
theorem upsertPurchase_spec (header : PurchaseHeader) (purchases : Table Purchase) :
    FiledUnder header purchases (upsertPurchase header purchases).1
        (upsertPurchase header purchases).2 ∧
      ∀ k p, purchases.get? k = some p → (upsertPurchase header purchases).1.get? k = some p := by
  unfold upsertPurchase
  split
  · rename_i found
    obtain ⟨row, named⟩ := Table.find?_eq_some found
    exact ⟨⟨_, row, of_decide_eq_true named, .inl row⟩, fun k p hp => hp⟩
  · exact ⟨⟨_, Table.get?_insert_self .., rfl, .inr ⟨Table.get?_nextId _, rfl⟩⟩,
      fun k p hp => Table.get?_insert_of_some hp⟩

/-- A stored document: its header, and its lines under the next keys. -/
theorem persistCalculatedPurchaseDocument_ok {doc : CalculatedPurchaseDocument}
    (h : persistCalculatedPurchaseDocument doc userId db = .ok db') :
    ∃ purchases purchaseId partNumber,
      FiledUnder doc.toPurchaseHeader db.purchases purchases purchaseId ∧
      (∀ k p, db.purchases.get? k = some p → purchases.get? k = some p) ∧
      (∀ item ∈ doc.items, ∀ id, (newPurchaseItem db.purchaseDocuments.nextId db
        item).productListingId = some id → (db.listings.get? id).isSome) ∧
      db' = { db with
        purchases := purchases
        purchaseDocuments := db.purchaseDocuments.insert
          (newPurchaseDocument doc.toPurchaseHeader purchaseId partNumber userId)
        purchaseItems := (doc.items.map
          (newPurchaseItem db.purchaseDocuments.nextId db)).foldl Table.insert
          db.purchaseItems } := by
  simp only [persistCalculatedPurchaseDocument, bind_eq_ok, ensure_eq_ok, pure_eq_ok] at h
  obtain ⟨-, -, -, -, -, -, -, -, -, -, -, linked, rfl⟩ := h
  obtain ⟨there, kept⟩ := upsertPurchase_spec doc.toPurchaseHeader db.purchases
  refine ⟨_, _, _, there, kept, fun item hitem id hid => ?_, rfl⟩
  have := linked _ (List.mem_map.mpr ⟨item, hitem, rfl⟩)
  rw [hid] at this
  exact this

/-- The dates of a stored document are valid. -/
theorem persistCalculatedPurchaseDocument_dated {doc : CalculatedPurchaseDocument}
    (h : persistCalculatedPurchaseDocument doc userId db = .ok db') :
    doc.sourceOrderDate.join.map some = doc.sourceOrderDate ∧
      doc.sourceDocumentDate.join.map some = doc.sourceDocumentDate := by
  have valid : ∀ o : Option JsDate, o.all Option.isSome → o.join.map some = o := by
    rintro (_ | _ | _) own
    · rfl
    · cases own
    · rfl
  simp only [persistCalculatedPurchaseDocument, bind_eq_ok, ensure_eq_ok] at h
  obtain ⟨-, ⟨order, document⟩, -⟩ := h
  exact ⟨valid _ order, valid _ document⟩

/-- An import stores a calculated document. -/
theorem importPurchaseInvoice_ok {normalised : NormalizedPurchaseDocument}
    (h : importPurchaseInvoice userId normalised db = .ok db') :
    ∃ calculated, calculatePurchaseCosts normalised = .ok calculated ∧
      persistCalculatedPurchaseDocument calculated userId db = .ok db' := by
  simpa [importPurchaseInvoice] using h

theorem createManualPurchase_ok {input : NormalizedPurchaseDocument} {uuid : String}
    (h : createManualPurchase userId input uuid db = .ok db') :
    importPurchaseInvoice userId { input with importHash := "manual:" ++ uuid } db = .ok db' := by
  simp only [createManualPurchase, bind_eq_ok, orReject_eq_ok] at h
  obtain ⟨-, -, stored⟩ := h
  exact stored

end Inversion

end ColorfulLife
