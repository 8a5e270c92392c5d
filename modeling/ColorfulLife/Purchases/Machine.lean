/-
Purchases as a machine: one action is one request that imports, reviews,
receives or returns, run as a transaction under the lock of its purchase.

Runs start from a shop with any catalogue and stock but no purchase yet.
-/

import ColorfulLife.Purchases.Review
import ColorfulLife.Relational.Run

namespace ColorfulLife

open Relational

inductive PurchaseOp where
  | importPurchaseInvoice (userId : Nat) (normalised : NormalizedPurchaseDocument)
  | createManualPurchase (userId : Nat) (input : NormalizedPurchaseDocument) (uuid : String)
  | resolveReviewGroup (userId purchaseId groupId : Nat) (revision : String)
      (productListingId : Option Nat)
  | setReviewGroupDisposition (userId purchaseId groupId : Nat) (revision : String)
      (inventoryDisposition : PurchaseItemDisposition)
  | receiveReviewGroup (userId purchaseId groupId : Nat) (revision : String) (now : Time)
  | amendReviewLine (userId purchaseId itemId : Nat) (revision : String) (input : Amendment)
  | receivePurchaseItem (userId purchaseItemId : Nat) (now : Time)
  | returnPurchaseItem (userId purchaseItemId : Nat) (now : Time)

section

variable (revisionOf : ReviewPurchase → String)

def PurchaseOp.body : PurchaseOp → Db → Result Db
  | .importPurchaseInvoice userId normalised, db =>
      ColorfulLife.importPurchaseInvoice userId normalised db
  | .createManualPurchase userId input uuid, db =>
      ColorfulLife.createManualPurchase userId input uuid db
  | .resolveReviewGroup userId purchaseId groupId revision productListingId, db =>
      ColorfulLife.resolveReviewGroup revisionOf userId purchaseId groupId revision
        productListingId db
  | .setReviewGroupDisposition userId purchaseId groupId revision inventoryDisposition, db =>
      ColorfulLife.setReviewGroupDisposition revisionOf userId purchaseId groupId revision
        inventoryDisposition db
  | .receiveReviewGroup userId purchaseId groupId revision now, db =>
      ColorfulLife.receiveReviewGroup revisionOf userId purchaseId groupId revision now db
  | .amendReviewLine userId purchaseId itemId revision input, db =>
      ColorfulLife.amendReviewLine revisionOf userId purchaseId itemId revision input db
  | .receivePurchaseItem userId id now, db => ColorfulLife.receivePurchaseItem userId id now db
  | .returnPurchaseItem userId id now, db => ColorfulLife.returnPurchaseItem userId id now db

def purchaseStep (db : Db) (op : PurchaseOp) : Db := commit (op.body revisionOf db) db

end

/-- No purchase has been imported. -/
structure FreshPurchases (db : Db) : Prop where
  purchases : ∀ k, db.purchases.get? k = none
  purchaseDocuments : ∀ k, db.purchaseDocuments.get? k = none
  purchaseItems : ∀ k, db.purchaseItems.get? k = none
  movements : ∀ m ∈ db.movements, m.note.ofPurchase = false

/-! ### A small purchase -/

def sampleLine (productListingId : Option Nat) : NormalizedPurchaseItem where
  sourceLineNumber := none
  externalProductId := some "B0BRICK"
  sourceDescription := "Police station"
  sourceSetNumber := none
  productListingId := productListingId
  quantity := 2
  originalGrossUnitCost := 500
  originalGrossLineTotal := 1000

/-- Two lines of one product of the source, one of them linked. -/
def samplePurchase : NormalizedPurchaseDocument where
  importHash := ""
  sourceOrderReference := "206-1"
  sourceOrderDate := none
  merchantName := none
  sourceInvoiceReference := none
  sourceDocumentDate := none
  originalGrossMerchandiseTotal := 2000
  shippingTotal := 101
  discountTotal := 0
  finalTotalPaid := 2101
  items := [sampleLine (some 1), sampleLine none]

end ColorfulLife
