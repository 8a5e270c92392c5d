/-
The shop as a machine: one action is one request of the order, return, stock or
purchase services, run as a transaction that commits or rolls back whole.

A request that throws leaves the database as it was, so every action is total
and a run is a list of requests in any order. `FreshShop` is where runs start:
a catalogue with stock and no orders.
-/

import ColorfulLife.Orders.Creation
import ColorfulLife.Orders.Lifecycle
import ColorfulLife.Orders.Returns
import ColorfulLife.Purchases.Receiving
import ColorfulLife.Relational.Run

namespace ColorfulLife

open Relational

/-- One request. -/
inductive ShopOp where
  | createOrder (userId : Nat) (input : CreateOrderInput) (key : Option String) (now : Time)
  | confirmOrder (performedByUserId orderId : Nat)
  | cancelOrder (userId orderId : Nat) (reason : CancellationReason) (now : Time)
  | cancelOrderByAdmin (orderId : Nat) (reason : CancellationReason) (adminUserId : Nat)
      (now : Time)
  | expireOrderReservation (orderId : Nat) (asOf : Time)
  | dispatchOrder (orderId : Nat) (actualShippingCost : Pence) (shippingCarrier : String)
      (trackingNumber : Option String) (now : Time)
  | completeOrder (orderId : Nat) (now : Time)
  | adjustInventory (listingId : Nat) (quantity : Int) (performedBy : Nat)
  | writeOffInventory (input : WriteOffInput)
  | reconcileStocktake (input : StocktakeInput)
  | createUsedOffer (input : UsedOfferInput) (uploaded : List UploadedPhoto)
  | convertToUsedOffer (input : UsedOfferInput) (uploaded : List UploadedPhoto)
  | receivePurchaseItem (userId purchaseItemId : Nat) (now : Time)
  | returnPurchaseItem (userId purchaseItemId : Nat) (now : Time)
  | requestOrderReturn (orderId orderItemId : Nat) (request : ReturnRequest)
      (performedByUserId : Nat)
  | cancelOrderReturn (orderId returnId : Nat) (now : Time)
  | authorizeOrderReturn (orderId returnId : Nat) (now : Time)
  | receiveOrderReturn (orderId returnId : Nat) (now : Time)
  | inspectOrderReturn (orderId returnId : Nat) (inspection : Inspection) (now : Time)
  | completeOrderReturn (orderId returnId performedByUserId : Nat) (now : Time)

section

variable (digest : CanonicalRequest → String)

/-- The transaction body of a request. -/
def ShopOp.body : ShopOp → Db → Result Db
  | .createOrder userId input key now, db =>
      (ColorfulLife.createOrder digest userId input key now db).map Prod.fst
  | .confirmOrder performedBy id, db => confirmOrderInTransaction performedBy id db
  | .cancelOrder userId id reason now, db => ColorfulLife.cancelOrder userId id reason now db
  | .cancelOrderByAdmin id reason admin now, db =>
      ColorfulLife.cancelOrderByAdmin id reason admin now db
  | .expireOrderReservation id asOf, db => ColorfulLife.expireOrderReservation id asOf db
  | .dispatchOrder id cost carrier tracking now, db =>
      ColorfulLife.dispatchOrder id cost carrier tracking now db
  | .completeOrder id now, db => ColorfulLife.completeOrder id now db
  | .adjustInventory id quantity performedBy, db =>
      ColorfulLife.adjustInventory id quantity performedBy db
  | .writeOffInventory input, db => ColorfulLife.writeOffInventory input db
  | .reconcileStocktake input, db => ColorfulLife.reconcileStocktake input db
  | .createUsedOffer input uploaded, db =>
      (ColorfulLife.createUsedOffer input uploaded db).map Prod.fst
  | .convertToUsedOffer input uploaded, db =>
      (ColorfulLife.convertToUsedOffer input uploaded db).map Prod.fst
  | .receivePurchaseItem userId id now, db => ColorfulLife.receivePurchaseItem userId id now db
  | .returnPurchaseItem userId id now, db => ColorfulLife.returnPurchaseItem userId id now db
  | .requestOrderReturn orderId item request performedBy, db =>
      ColorfulLife.requestOrderReturn orderId item request performedBy db
  | .cancelOrderReturn orderId ret now, db => ColorfulLife.cancelOrderReturn orderId ret now db
  | .authorizeOrderReturn orderId ret now, db =>
      ColorfulLife.authorizeOrderReturn orderId ret now db
  | .receiveOrderReturn orderId ret now, db => ColorfulLife.receiveOrderReturn orderId ret now db
  | .inspectOrderReturn orderId ret inspection now, db =>
      ColorfulLife.inspectOrderReturn orderId ret inspection now db
  | .completeOrderReturn orderId ret performedBy now, db =>
      ColorfulLife.completeOrderReturn orderId ret performedBy now db

def shopStep (db : Db) (op : ShopOp) : Db := commit (op.body digest db) db

end

/-- The notes that order transitions and returns write. -/
def MovementNote.ofOrder : MovementNote → Bool
  | .orderSale _ | .orderCancellationReturn _ | .completedOrderReturn _ => true
  | _ => false

/-- A catalogue before the first order: stock on hand, nothing reserved, no
movement of an order, and every listing within the used lifecycle constraint. -/
structure FreshShop (db : Db) : Prop where
  orders : ∀ k, db.orders.get? k = none
  orderItems : ∀ k, db.orderItems.get? k = none
  orderReturns : ∀ k, db.orderReturns.get? k = none
  movements : ∀ m ∈ db.movements, m.note.ofOrder = false
  currentStock : ∀ k l, db.listings.get? k = some l → 0 ≤ l.currentStock
  reservedStock : ∀ k l, db.listings.get? k = some l → l.reservedStock = 0
  lifecycle : ∀ k l, db.listings.get? k = some l → l.usedLifecycleCheck

/-! ### A small shop -/

def sampleAddress : AddressSnapshot where
  recipientName := "Ada"
  line1 := "1 Brick Lane"
  line2 := none
  city := "London"
  county := none
  postcode := "E1 6RF"
  countryCode := "GB"
  phone := none

def sampleListing : ProductListing where
  legoProductId := 1
  condition := .new
  damageDescription := none
  usedLifecycle := none
  originalPrice := 500
  salePrice := none
  currentStock := 5
  reservedStock := 0
  active := true
  usedConditionPhotos := []

/-- One verified customer with a billing address, and one new listing. -/
def sampleShop : Db :=
  { Db.empty with
    users := Table.empty.insert { emailVerified := true }
    addresses := Table.empty.insert
      { userId := 1, snapshot := sampleAddress, isDefault := true, isDefaultBilling := true }
    listings := Table.empty.insert sampleListing }

/-- The sample shop has sold nothing. -/
theorem sampleShop_fresh : FreshShop sampleShop := by
  have only : ∀ k l, sampleShop.listings.get? k = some l → l = sampleListing := by
    intro k l hl
    rw [sampleShop, Table.get?_insert] at hl
    split at hl
    · exact (Option.some.inj hl).symm
    · cases hl
  refine ⟨fun _ => rfl, fun _ => rfl, fun _ => rfl, fun _ hm => (List.not_mem_nil hm).elim, ?_, ?_, ?_⟩
  · intro k l hl
    obtain rfl := only k l hl
    decide
  · intro k l hl
    obtain rfl := only k l hl
    rfl
  · intro k l hl
    obtain rfl := only k l hl
    decide

theorem two_units_pos : (0 : Int) < 2 := by decide

/-- Two units of the listing, no address, no key. -/
def sampleCreate : ShopOp := .createOrder 1 (.single ⟨1, 2, two_units_pos⟩) none 0

end ColorfulLife
