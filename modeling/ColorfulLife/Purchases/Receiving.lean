/-
Receiving a purchase line into stock and returning it to the supplier
(`domain/purchases/purchaseItemReceiving.ts`, `purchaseItemReturn.ts`). Both run
under the lock of the parent purchase and claim the line by a conditional
update of its own timestamp.
-/

import ColorfulLife.Inventory.Adjustment

namespace ColorfulLife

open Relational

/-- The line, when the document it belongs to was imported by the user. -/
def ownPurchaseItem (userId purchaseItemId : Nat) (db : Db) : Option PurchaseItem :=
  (db.purchaseItems.get? purchaseItemId).filter fun item =>
    (db.purchaseDocuments.get? item.purchaseDocumentId).any fun document =>
      decide (document.importedByUserId = userId)

def receivePurchaseItemInTransaction (userId purchaseItemId : Nat) (now : Time) (db : Db) :
    Result Db := do
  let item ← orThrow (ownPurchaseItem userId purchaseItemId db) DomainError.purchaseItemNotFound
  ensure (item.inventoryDisposition ≠ .nonInventory) DomainError.nonInventoryPurchaseItem
  ensure (item.receivedAt = none) DomainError.alreadyReceived
  let listingId ← orThrow item.productListingId DomainError.purchaseListingMissing
  let listing ← orThrow (db.listings.get? listingId) DomainError.purchaseListingMissing
  ensure (listing.condition ≠ .usedLikeNew) DomainError.usedOfferPurchaseReceipt
  ensure (0 < item.quantity) DomainError.invalidPurchaseQuantity
  return { db with
    purchaseItems := db.purchaseItems.update purchaseItemId fun i =>
      { i with receivedAt := some now }
    listings := db.listings.update listingId (·.restock item.quantity)
    movements := db.movements ++ [movementOf listingId item.quantity .purchaseIn
      (.purchaseItemReceived purchaseItemId) userId] }

def receivePurchaseItem (userId purchaseItemId : Nat) (now : Time) (db : Db) : Result Db :=
  receivePurchaseItemInTransaction userId purchaseItemId now db

def returnPurchaseItem (authenticatedUserId purchaseItemId : Nat) (now : Time) (db : Db) :
    Result Db := do
  let item ← orThrow (ownPurchaseItem authenticatedUserId purchaseItemId db)
    DomainError.purchaseItemNotFound
  ensure (item.receivedAt ≠ none) DomainError.purchaseItemNotReceived
  ensure (item.returnedAt = none) DomainError.purchaseItemAlreadyReturned
  ensure (0 < item.quantity) DomainError.invalidReturnedPurchaseQuantity
  let listingId ← orThrow item.productListingId DomainError.returnListingMissing
  let _ ← orThrow (db.listings.get? listingId) DomainError.returnListingMissing
  let listings ← orThrow
    (db.listings.updateIf listingId (·.movable (-item.quantity)) (·.move (-item.quantity)))
    DomainError.insufficientStockForReturn
  return { db with
    purchaseItems := db.purchaseItems.update purchaseItemId fun i =>
      { i with returnedAt := some now }
    listings := listings
    movements := db.movements ++ [movementOf listingId (-item.quantity) .purchaseReturnOut
      (.purchaseItemReturned purchaseItemId) authenticatedUserId] }

/-- The notes of goods movements of purchase lines. -/
def MovementNote.ofPurchase : MovementNote → Bool
  | .purchaseItemReceived _ | .purchaseItemReturned _ => true
  | _ => false

/-! ### Inversion -/

section Inversion

variable {db db' : Db} {userId purchaseItemId : Nat} {now : Time}

/-- A line of the user's is received once, into a listing of new sets. -/
theorem receivePurchaseItem_eq_ok :
    receivePurchaseItem userId purchaseItemId now db = .ok db' ↔
      ∃ item listingId l, ownPurchaseItem userId purchaseItemId db = some item ∧
        item.inventoryDisposition ≠ .nonInventory ∧ item.receivedAt = none ∧
        item.productListingId = some listingId ∧ db.listings.get? listingId = some l ∧
        l.condition = .new ∧ 0 < item.quantity ∧
        db' = { db with
          purchaseItems := db.purchaseItems.update purchaseItemId fun i =>
            { i with receivedAt := some now }
          listings := db.listings.update listingId (·.restock item.quantity)
          movements := db.movements ++ [movementOf listingId item.quantity .purchaseIn
            (.purchaseItemReceived purchaseItemId) userId] } := by
  simp only [receivePurchaseItem, receivePurchaseItemInTransaction, bind_eq_ok, ensure_eq_ok,
    orThrow_eq_ok, pure_eq_ok]
  constructor
  · rintro ⟨item, hown, -, hdisp, -, hrec, listingId, hid, l, hl, -, hused, -, hpos, rfl⟩
    refine ⟨item, listingId, l, hown, hdisp, hrec, hid, hl, ?_, hpos, rfl⟩
    cases hc : l.condition with
    | new => rfl
    | usedLikeNew => exact absurd hc hused
  · rintro ⟨item, listingId, l, hown, hdisp, hrec, hid, hl, hnew, hpos, rfl⟩
    exact ⟨item, hown, ⟨⟩, hdisp, ⟨⟩, hrec, listingId, hid, l, hl, ⟨⟩, by simp [hnew], ⟨⟩, hpos, rfl⟩

/-- A received line goes back once, when its listing still has the units. -/
theorem returnPurchaseItem_eq_ok :
    returnPurchaseItem userId purchaseItemId now db = .ok db' ↔
      ∃ item listingId l, ownPurchaseItem userId purchaseItemId db = some item ∧
        item.receivedAt ≠ none ∧ item.returnedAt = none ∧ 0 < item.quantity ∧
        item.productListingId = some listingId ∧ db.listings.get? listingId = some l ∧
        l.movable (-item.quantity) = true ∧
        db' = { db with
          purchaseItems := db.purchaseItems.update purchaseItemId fun i =>
            { i with returnedAt := some now }
          listings := db.listings.update listingId (·.move (-item.quantity))
          movements := db.movements ++ [movementOf listingId (-item.quantity) .purchaseReturnOut
            (.purchaseItemReturned purchaseItemId) userId] } := by
  simp only [returnPurchaseItem, bind_eq_ok, ensure_eq_ok, orThrow_eq_ok, pure_eq_ok,
    Table.updateIf_eq_some]
  constructor
  · rintro ⟨item, hown, -, hrec, -, hret, -, hpos, listingId, hid, l, hl, t,
      ⟨l', hl', hm, rfl⟩, rfl⟩
    obtain rfl : l = l' := Option.some.inj (hl.symm.trans hl')
    exact ⟨item, listingId, l, hown, hrec, hret, hpos, hid, hl, hm, rfl⟩
  · rintro ⟨item, listingId, l, hown, hrec, hret, hpos, hid, hl, hm, rfl⟩
    exact ⟨item, hown, ⟨⟩, hrec, ⟨⟩, hret, ⟨⟩, hpos, listingId, hid, l, hl, _, ⟨l, hl, hm, rfl⟩, rfl⟩

end Inversion

end ColorfulLife
