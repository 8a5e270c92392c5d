/-
The review of a purchase (`domain/purchases/purchaseReview.ts`): its lines,
grouped by what identifies them, are matched to listings, excluded, received and
amended.

Every change runs under the lock of the purchase and is refused when the
revision it names is not the current one. `revisionOf` stands for the SHA-256 of
the purchase as it was read.
-/

import ColorfulLife.Purchases.Import
import ColorfulLife.Purchases.Receiving

namespace ColorfulLife

open Relational

/-! ### Reading a purchase -/

/-- The columns of a line's listing that the review reads. -/
structure ListingSummary where
  id : Nat
  condition : ListingCondition
  active : Bool
  deriving DecidableEq, Repr

structure ReviewLine where
  id : Nat
  item : PurchaseItem
  productListing : Option ListingSummary
  deriving DecidableEq, Repr

structure ReviewDocument where
  id : Nat
  document : PurchaseDocument
  purchaseItems : List ReviewLine
  deriving DecidableEq, Repr

structure ReviewPurchase where
  id : Nat
  purchase : Purchase
  purchaseDocuments : List ReviewDocument
  deriving DecidableEq, Repr

/-- The rows of a document, by `id`. -/
def documentItems (documentId : Nat) (db : Db) : List (Nat × PurchaseItem) :=
  db.purchaseItems.selectByKey fun _ item => decide (item.purchaseDocumentId = documentId)

def reviewLine (db : Db) (e : Nat × PurchaseItem) : ReviewLine where
  id := e.1
  item := e.2
  productListing := do
    let listingId ← e.2.productListingId
    let listing ← db.listings.get? listingId
    return ⟨listingId, listing.condition, listing.active⟩

def reviewDocument (db : Db) (e : Nat × PurchaseDocument) : ReviewDocument where
  id := e.1
  document := e.2
  purchaseItems := (documentItems e.1 db).map (reviewLine db)

/-- The documents of a purchase that the user imported, by `partNumber`. -/
def importedDocuments (userId purchaseId : Nat) (db : Db) : List (Nat × PurchaseDocument) :=
  (db.purchaseDocuments.select fun _ d =>
    decide (d.purchaseId = purchaseId ∧ d.importedByUserId = userId)).insertionSort
      fun a b => a.2.partNumber ≤ b.2.partNumber

def readPurchase (userId purchaseId : Nat) (db : Db) : Result ReviewPurchase := do
  let purchase ← orThrow (db.purchases.get? purchaseId) (DomainError.review 404 "Purchase not found")
  ensure (importedDocuments userId purchaseId db ≠ [])
    (DomainError.review 404 "Purchase not found")
  return ⟨purchaseId, purchase, (importedDocuments userId purchaseId db).map (reviewDocument db)⟩

def ReviewPurchase.lines (purchase : ReviewPurchase) : List ReviewLine :=
  purchase.purchaseDocuments.flatMap ReviewDocument.purchaseItems

/-! ### Groups -/

/-- `"external:" + …`, `"set:" + …` or `"line:" + …`: the prefixes keep the three
kinds apart. -/
inductive LineIdentity where
  | external (externalProductId : String)
  | set (sourceSetNumber : String)
  | line (id : Nat)
  deriving DecidableEq, Repr

def identity (line : ReviewLine) : LineIdentity :=
  match trimmedOrNone line.item.externalProductId with
  | some externalProductId => .external externalProductId
  | none =>
      match trimmedOrNone line.item.sourceSetNumber with
      | some sourceSetNumber => .set sourceSetNumber
      | none => .line line.id

/-- The lines of one identity, by `id`. -/
def linesOf (purchase : ReviewPurchase) (key : LineIdentity) : List ReviewLine :=
  (purchase.lines.filter fun line => decide (identity line = key)).insertionSort
    fun a b => a.id ≤ b.id

def groups (purchase : ReviewPurchase) : List (List ReviewLine) :=
  (purchase.lines.map identity).eraseDups.map (linesOf purchase)

def findGroup (purchase : ReviewPurchase) (groupId : Nat) : Result (List ReviewLine) :=
  orThrow ((groups purchase).find? fun lines => decide (lines.head?.map ReviewLine.id = some groupId))
    (DomainError.review 404 "Review item not found")

/-! ### Changes -/

/-- `purchaseItem.updateMany` over unreceived lines, which must match all of
them. -/
def updateLines (lines : List ReviewLine) (f : PurchaseItem → PurchaseItem) (message : String)
    (db : Db) : Result Db := do
  let matching := fun (k : Nat) (item : PurchaseItem) =>
    decide (k ∈ lines.map ReviewLine.id ∧ item.receivedAt = none)
  ensure ((db.purchaseItems.select matching).length = lines.length)
    (DomainError.review 409 message)
  return { db with purchaseItems := db.purchaseItems.updateMany matching f }

def PurchaseItem.resolve (productListingId : Option Nat) (item : PurchaseItem) : PurchaseItem :=
  { item with productListingId := productListingId, inventoryDisposition := .inventory }

def PurchaseItem.dispose (inventoryDisposition : PurchaseItemDisposition) (clearListing : Bool)
    (item : PurchaseItem) : PurchaseItem :=
  { item with
    inventoryDisposition := inventoryDisposition
    productListingId := if clearListing then none else item.productListingId }

/-- `amendmentSchema`, texts as they arrive. -/
structure Amendment where
  sourceDescription : String
  sourceSetNumber : Option String
  quantity : Option Int
  originalGrossUnitCost : Option Pence
  deriving DecidableEq, Repr

def Amendment.parse (body : Amendment) : Result Amendment := do
  let sourceDescription := trim body.sourceDescription
  let sourceSetNumber := body.sourceSetNumber.map trim
  ensure (sourceDescription ≠ "" ∧ jsLength sourceDescription ≤ 2000 ∧
      (sourceSetNumber.all fun n => decide (n ≠ "" ∧ jsLength n ≤ 100)) ∧
      (body.quantity.all fun q => decide (0 < q ∧ q ≤ 1000000)) ∧
      (body.originalGrossUnitCost.all fun c => decide (0 ≤ c ∧ c ≤ 999999999999)))
    (DomainError.review 400 "Invalid purchase review input")
  return { body with sourceDescription := sourceDescription, sourceSetNumber := sourceSetNumber }

def Amendment.quantityOf (body : Amendment) (item : PurchaseItem) : Int :=
  body.quantity.getD item.quantity

def Amendment.unitCostOf (body : Amendment) (item : PurchaseItem) : Pence :=
  body.originalGrossUnitCost.getD item.originalGrossUnitCost

def Amendment.changesCost (body : Amendment) (item : PurchaseItem) : Prop :=
  body.quantityOf item ≠ item.quantity ∨ body.unitCostOf item ≠ item.originalGrossUnitCost

instance (body : Amendment) (item : PurchaseItem) : Decidable (body.changesCost item) := by
  unfold Amendment.changesCost; infer_instance

/-- A line of the recalculation: the amended one has its new quantity, unit cost
and total, the others keep theirs. -/
def amendedItem (itemId : Nat) (body : Amendment) (line : ReviewLine) : NormalizedPurchaseItem :=
  let quantity := if line.id = itemId then body.quantityOf line.item else line.item.quantity
  let unit :=
    if line.id = itemId then body.unitCostOf line.item else line.item.originalGrossUnitCost
  { sourceLineNumber := none
    externalProductId := none
    sourceDescription := line.item.sourceDescription
    sourceSetNumber := none
    productListingId := none
    quantity := quantity
    originalGrossUnitCost := unit
    originalGrossLineTotal :=
      if line.id = itemId then unit * quantity else line.item.originalGrossLineTotal }

/-- The document that the recalculation imports again. -/
def amendedDocument (purchase : ReviewPurchase) (doc : ReviewDocument) (itemId : Nat)
    (body : Amendment) : NormalizedPurchaseDocument :=
  let items := doc.purchaseItems.map (amendedItem itemId body)
  let merchandise := (lineTotals items).sum
  { importHash := doc.document.importHash
    sourceOrderReference := purchase.purchase.sourceOrderReference
    sourceOrderDate := none
    merchantName := none
    sourceInvoiceReference := none
    sourceDocumentDate := none
    originalGrossMerchandiseTotal := merchandise
    shippingTotal := doc.document.shippingTotal
    discountTotal := doc.document.discountTotal
    finalTotalPaid := merchandise + doc.document.shippingTotal - doc.document.discountTotal
    items := items }

def PurchaseItem.recost (calculated : CalculatedPurchaseItem) (item : PurchaseItem) :
    PurchaseItem :=
  { item with
    quantity := calculated.quantity
    originalGrossUnitCost := calculated.originalGrossUnitCost
    originalGrossLineTotal := calculated.originalGrossLineTotal
    allocatedShipping := calculated.allocatedShipping
    allocatedDiscount := calculated.allocatedDiscount
    finalLineCost := calculated.finalLineCost
    finalUnitCost := calculated.finalUnitCost }

def PurchaseDocument.retotal (merchandise finalTotalPaid : Pence) (document : PurchaseDocument) :
    PurchaseDocument :=
  { document with
    originalGrossMerchandiseTotal := merchandise
    finalTotalPaid := finalTotalPaid }

/-- The largest amount an amended document may come to. -/
def maxAmendedTotal : Pence := 999999999999

/-- Recalculate a document and write every line's costs. -/
def recalculate (purchase : ReviewPurchase) (doc : ReviewDocument) (itemId : Nat)
    (body : Amendment) (db : Db) : Result Db := do
  let source := amendedDocument purchase doc itemId body
  ensure (source.originalGrossMerchandiseTotal ≤ maxAmendedTotal ∧
      source.finalTotalPaid ≤ maxAmendedTotal)
    (DomainError.review 400 "Amended total exceeds the supported purchase amount")
  let calculated ← calculatePurchaseCosts source
  let written := doc.purchaseItems.zip calculated.items
  ensure (∀ e ∈ written, (e.1.item.recost e.2).fitsColumns) DomainError.numericOverflow
  return { db with
    purchaseItems := written.foldl
      (fun items e => items.update e.1.id (PurchaseItem.recost e.2)) db.purchaseItems
    purchaseDocuments := db.purchaseDocuments.update doc.id
      (PurchaseDocument.retotal source.originalGrossMerchandiseTotal calculated.finalTotalPaid) }

/-- The recalculation of an amendment that changes costs. -/
def recalculateCosts (purchase : ReviewPurchase) (doc : ReviewDocument) (line : ReviewLine)
    (body : Amendment) (db : Db) : Result Db :=
  if body.changesCost line.item then recalculate purchase doc line.id body db else .ok db

/-- A changed set number requires human resolution again. -/
def PurchaseItem.redescribe (body : Amendment) (item : PurchaseItem) : PurchaseItem :=
  { item with
    sourceDescription := body.sourceDescription
    sourceSetNumber := body.sourceSetNumber
    productListingId :=
      if body.sourceSetNumber ≠ item.sourceSetNumber then none else item.productListingId }

section

variable (revisionOf : ReviewPurchase → String)

def mutate (userId purchaseId : Nat) (revision : String)
    (action : ReviewPurchase → Db → Result Db) (db : Db) : Result Db := do
  let purchase ← readPurchase userId purchaseId db
  ensure (revisionOf purchase = revision) (DomainError.review 409
    "Purchase changed. Refresh and review it before continuing.")
  action purchase db

def resolveReviewGroup (userId purchaseId groupId : Nat) (revision : String)
    (productListingId : Option Nat) (db : Db) : Result Db :=
  mutate revisionOf userId purchaseId revision (fun purchase db => do
    let lines ← findGroup purchase groupId
    ensure (∀ l ∈ lines, l.item.receivedAt = none)
      (DomainError.review 409 "Received items cannot be reassigned")
    ensure (productListingId.all fun id => (db.listings.get? id).any ProductListing.active)
      (DomainError.review 400 "Select an existing active product listing")
    updateLines lines (PurchaseItem.resolve productListingId)
      "Purchase changed. Refresh before resolving." db) db

def setReviewGroupDisposition (userId purchaseId groupId : Nat) (revision : String)
    (inventoryDisposition : PurchaseItemDisposition) (db : Db) : Result Db :=
  mutate revisionOf userId purchaseId revision (fun purchase db => do
    let lines ← findGroup purchase groupId
    ensure (∀ l ∈ lines, l.item.receivedAt = none)
      (DomainError.review 409 "Received items cannot change inventory disposition")
    let clearListing := decide (inventoryDisposition = .nonInventory ∨
      ∃ l ∈ lines, l.item.inventoryDisposition = .nonInventory)
    updateLines lines (PurchaseItem.dispose inventoryDisposition clearListing)
      "Purchase changed. Refresh before updating disposition." db) db

/-- `UsedOfferPurchaseReceiptError` becomes a review error of its message. -/
def asReviewError : DomainError → DomainError
  | .usedOfferPurchaseReceipt => .review 409 DomainError.usedOfferPurchaseReceipt.message
  | e => e

def receiveReviewGroup (userId purchaseId groupId : Nat) (revision : String) (now : Time)
    (db : Db) : Result Db :=
  (mutate revisionOf userId purchaseId revision (fun purchase db => do
    let lines ← findGroup purchase groupId
    ensure (∀ l ∈ lines, l.item.inventoryDisposition ≠ .nonInventory)
      (DomainError.review 409 "Non-inventory purchase items cannot be received")
    let unresolved := DomainError.review 400
      "Resolve all source lines to one active listing before receiving"
    let listing ← orThrow ((lines.head?.bind ReviewLine.productListing).filter
      ListingSummary.active) unresolved
    ensure (∀ l ∈ lines, l.item.productListingId = some listing.id) unresolved
    let pending := lines.filter fun l => decide (l.item.receivedAt = none)
    ensure (pending ≠ []) (DomainError.review 409 "Purchase item already received")
    pending.foldlM (fun db line => receivePurchaseItemInTransaction userId line.id now db) db)
    db).mapError asReviewError

def amendReviewLine (userId purchaseId itemId : Nat) (revision : String) (input : Amendment)
    (db : Db) : Result Db := do
  let body ← input.parse
  mutate revisionOf userId purchaseId revision (fun purchase db => do
    let doc ← orThrow (purchase.purchaseDocuments.find? fun d =>
        decide (∃ l ∈ d.purchaseItems, l.id = itemId))
      (DomainError.review 404 "Purchase item not found")
    let line ← orThrow (doc.purchaseItems.find? fun l => decide (l.id = itemId))
      (DomainError.review 404 "Purchase item not found")
    ensure (line.item.receivedAt = none) (DomainError.review 409 "Received items cannot be amended")
    ensure (body.changesCost line.item → (∀ l ∈ doc.purchaseItems, l.item.receivedAt = none) ∧
        line.item.originalGrossUnitCost * line.item.quantity = line.item.originalGrossLineTotal)
      (DomainError.review 409
        "Cost changes require a wholly unreceived document and a line total equal to quantity × unit price")
    let db ← recalculateCosts purchase doc line body db
    updateLines [line] (PurchaseItem.redescribe body) "Purchase changed" db) db

end

end ColorfulLife
