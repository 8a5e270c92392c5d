/-
Order returns (`domain/orders/orderReturnService.ts`): a return is requested for
units of one order item, authorized, received, inspected and completed, or
cancelled while it is still a request.

The three plain transitions and the claim of the two others are one conditional
update of the return row (`advanceReturn`).
-/

import ColorfulLife.Inventory.Stock

namespace ColorfulLife

open Relational

/-! ### Reading returns -/

/-- `orderItem.findFirst({ where: { id, orderId } })`. -/
def findOrderItem (orderId orderItemId : Nat) (db : Db) : Option OrderItem :=
  (db.orderItems.get? orderItemId).filter fun item => decide (item.orderId = orderId)

/-- `orderReturn.findFirst({ where: { id, orderItem: { orderId } } })`, with the
item it is for. -/
def findOrderReturn (orderId returnId : Nat) (db : Db) : Option (OrderReturn × OrderItem) := do
  let ret ← db.orderReturns.get? returnId
  let item ← findOrderItem orderId ret.orderItemId db
  return (ret, item)

def requireOrder (orderId : Nat) (db : Db) : Result Order :=
  orThrow (db.orders.get? orderId) (DomainError.orderNotFound orderId)

/-- The order must exist, and the return must be one of its returns. -/
def requireOrderReturn (orderId returnId : Nat) (db : Db) : Result (OrderReturn × OrderItem) := do
  let _ ← requireOrder orderId db
  orThrow (findOrderReturn orderId returnId db) (DomainError.orderReturnNotFound returnId orderId)

/-! ### Requests -/

/-- The units of an item that no return has taken or reserved yet. -/
def OrderItem.returnable (item : OrderItem) : Int :=
  item.quantity - item.returnedQuantity - item.reservedReturnQuantity

/-- Add to the two return counters of an item. -/
def OrderItem.addReturns (returned reserved : Int) (item : OrderItem) : OrderItem :=
  { item with
    returnedQuantity := item.returnedQuantity + returned
    reservedReturnQuantity := item.reservedReturnQuantity + reserved }

structure ReturnRequest where
  quantity : Int
  reason : ReturnReason
  reasonNote : Option String
  shippingPayer : ReturnShippingPayer
  returnShippingCost : Option ℚ
  deriving DecidableEq

def requestedReturn (orderItemId performedByUserId : Nat) (request : ReturnRequest) :
    OrderReturn where
  orderItemId := orderItemId
  quantity := request.quantity
  restockQuantity := 0
  reason := request.reason
  reasonNote := trimmedOrNone request.reasonNote
  status := .requested
  shippingPayer := request.shippingPayer
  returnShippingCost := request.returnShippingCost
  performedByUserId := performedByUserId
  condition := none
  inspectionNote := none
  inspectedAt := none
  inspectedByUserId := none
  authorizedAt := none
  receivedAt := none
  completedAt := none
  cancelledAt := none

/-- The order must exist; its status is not looked at. -/
def requestOrderReturn (orderId orderItemId : Nat) (request : ReturnRequest)
    (performedByUserId : Nat) (db : Db) : Result Db := do
  ensure (0 < request.quantity) DomainError.invalidReturnQuantity
  ensure (request.returnShippingCost.all fun cost => decide (0 ≤ cost))
    DomainError.invalidReturnShippingCost
  let _ ← requireOrder orderId db
  let item ← orThrow (findOrderItem orderId orderItemId db)
    (DomainError.orderItemNotFound orderItemId orderId)
  ensure (item.reservedReturnQuantity ≤ item.quantity - item.returnedQuantity - request.quantity)
    (DomainError.orderReturnQuantityExceeded orderItemId request.quantity (max 0 item.returnable))
  return { db with
    orderItems := db.orderItems.update orderItemId (·.addReturns 0 request.quantity)
    orderReturns := db.orderReturns.insert
      (requestedReturn orderItemId performedByUserId request) }

/-! ### Transitions -/

def OrderReturn.authorize (now : Time) (ret : OrderReturn) : OrderReturn :=
  { ret with status := .authorized, authorizedAt := some now }

def OrderReturn.receive (now : Time) (ret : OrderReturn) : OrderReturn :=
  { ret with status := .received, receivedAt := some now }

def OrderReturn.cancel (now : Time) (ret : OrderReturn) : OrderReturn :=
  { ret with status := .cancelled, cancelledAt := some now }

def OrderReturn.complete (now : Time) (ret : OrderReturn) : OrderReturn :=
  { ret with status := .completed, completedAt := some now }

/-- Claim a return that is in state `required` and rewrite its row. -/
def advanceReturn (required : OrderReturnStatus)
    (refused : Nat → OrderReturnStatus → DomainError) (f : OrderReturn → OrderReturn)
    (orderId returnId : Nat) (db : Db) : Result Db := do
  let (ret, _) ← requireOrderReturn orderId returnId db
  ensure (ret.status = required) (refused returnId ret.status)
  return { db with orderReturns := db.orderReturns.update returnId f }

def authorizeOrderReturn (orderId returnId : Nat) (now : Time) (db : Db) : Result Db :=
  advanceReturn .requested .orderReturnNotAuthorizable
    (OrderReturn.authorize now) orderId returnId db

def receiveOrderReturn (orderId returnId : Nat) (now : Time) (db : Db) : Result Db :=
  advanceReturn .authorized .orderReturnNotReceivable
    (OrderReturn.receive now) orderId returnId db

def cancelOrderReturn (orderId returnId : Nat) (now : Time) (db : Db) : Result Db := do
  let (ret, item) ← requireOrderReturn orderId returnId db
  let db ← advanceReturn .requested .orderReturnNotCancellable
    (OrderReturn.cancel now) orderId returnId db
  ensure (ret.quantity ≤ item.reservedReturnQuantity)
    (DomainError.orderReturnQuantityExceeded ret.orderItemId ret.quantity 0)
  return { db with
    orderItems := db.orderItems.update ret.orderItemId (·.addReturns 0 (-ret.quantity)) }

/-! ### Inspection -/

structure Inspection where
  condition : ReturnCondition
  restockQuantity : Int
  inspectionNote : Option String
  inspectedByUserId : Nat
  deriving DecidableEq

/-- `productListing.condition` of an order item. -/
def listingCondition (item : OrderItem) (db : Db) : Option ListingCondition :=
  (db.listings.get? item.productListingId).map ProductListing.condition

def OrderReturn.inspect (inspection : Inspection) (now : Time) (ret : OrderReturn) : OrderReturn :=
  { ret with
    status := .inspected
    condition := some inspection.condition
    restockQuantity := inspection.restockQuantity
    inspectionNote :=
      if (trimmedOrNone inspection.inspectionNote).isSome then
        trimmedOrNone inspection.inspectionNote
      else ret.inspectionNote
    inspectedAt := some now
    inspectedByUserId := some inspection.inspectedByUserId }

def inspectOrderReturn (orderId returnId : Nat) (inspection : Inspection) (now : Time) (db : Db) :
    Result Db := do
  ensure (0 ≤ inspection.restockQuantity) DomainError.invalidInspectionRestockQuantity
  ensure (inspection.condition = .asNew ∨ inspection.restockQuantity = 0)
    DomainError.invalidInspectionRestockCondition
  let (ret, item) ← requireOrderReturn orderId returnId db
  let condition ← orThrow (listingCondition item db)
    (DomainError.productListingNotFound item.productListingId)
  ensure (¬ (0 < inspection.restockQuantity ∧ condition = .usedLikeNew))
    DomainError.invalidInspectionRestockCondition
  ensure (inspection.restockQuantity ≤ ret.quantity) DomainError.invalidInspectionRestockQuantity
  advanceReturn .received .orderReturnNotInspectable (OrderReturn.inspect inspection now) orderId
    returnId db

/-! ### Completion -/

def returnMovement (performedByUserId returnId : Nat) (ret : OrderReturn) (item : OrderItem) :
    InventoryMovement where
  listingId := item.productListingId
  quantityChange := ret.restockQuantity
  type := .orderReturn
  note := .completedOrderReturn returnId
  performedByUserId := performedByUserId

/-- Put the inspected units back. -/
def restockReturn (performedByUserId returnId : Nat) (ret : OrderReturn) (item : OrderItem)
    (stock : Stock) : Stock :=
  if 0 < ret.restockQuantity then
    { listings := stock.listings.update item.productListingId (·.restock ret.restockQuantity)
      movements := stock.movements ++ [returnMovement performedByUserId returnId ret item] }
  else stock

def completeOrderReturn (orderId returnId performedByUserId : Nat) (now : Time) (db : Db) :
    Result Db := do
  let (ret, item) ← requireOrderReturn orderId returnId db
  ensure (ret.status = .inspected) (DomainError.orderReturnNotCompletable returnId ret.status)
  let condition ← orThrow (listingCondition item db)
    (DomainError.productListingNotFound item.productListingId)
  ensure (¬ (condition = .usedLikeNew ∧ 0 < ret.restockQuantity))
    DomainError.invalidInspectionRestockCondition
  ensure (ret.quantity ≤ item.reservedReturnQuantity ∧
      item.returnedQuantity + ret.quantity ≤ item.quantity)
    (DomainError.orderReturnQuantityExceeded ret.orderItemId ret.quantity item.returnable)
  return { db.withStock (restockReturn performedByUserId returnId ret item db.stock) with
    orderItems := db.orderItems.update ret.orderItemId (·.addReturns ret.quantity (-ret.quantity))
    orderReturns := db.orderReturns.update returnId (OrderReturn.complete now) }

/-- The counters are all that changes in an item. -/
theorem get?_addReturns {items : Table OrderItem} {j k : Nat} {returned reserved : Int}
    {i' : OrderItem} (h : (items.update j (·.addReturns returned reserved)).get? k = some i') :
    ∃ i, items.get? k = some i ∧ i'.orderId = i.orderId ∧
      i'.productListingId = i.productListingId ∧ i'.quantity = i.quantity := by
  rw [Table.get?_update] at h
  split at h
  · obtain ⟨i, hi, rfl⟩ := Option.map_eq_some_iff.mp h
    exact ⟨i, hi, rfl, rfl, rfl⟩
  · exact ⟨i', h, rfl, rfl, rfl⟩

/-! ### Inversion -/

section Inversion

variable {db db' : Db} {orderId returnId orderItemId : Nat}

/-- A return of an order, with its item. -/
structure ReturnOf (orderId returnId : Nat) (db : Db) (ret : OrderReturn) (item : OrderItem) :
    Prop where
  order : (db.orders.get? orderId).isSome
  row : db.orderReturns.get? returnId = some ret
  itemRow : db.orderItems.get? ret.orderItemId = some item
  owner : item.orderId = orderId

/-- An item is found under its own order. -/
theorem findOrderItem_eq_some {item : OrderItem} :
    findOrderItem orderId orderItemId db = some item ↔
      db.orderItems.get? orderItemId = some item ∧ item.orderId = orderId := by
  simp [findOrderItem, Option.filter_eq_some_iff]

theorem findOrderReturn_eq_some {ret : OrderReturn} {item : OrderItem} :
    findOrderReturn orderId returnId db = some (ret, item) ↔
      db.orderReturns.get? returnId = some ret ∧
        db.orderItems.get? ret.orderItemId = some item ∧ item.orderId = orderId := by
  simp only [findOrderReturn, Option.bind_eq_bind, Option.bind_eq_some_iff,
    findOrderItem_eq_some, Option.pure_def, Option.some.injEq, Prod.mk.injEq]
  constructor
  · rintro ⟨ret, hret, item, ⟨hitem, howner⟩, rfl, rfl⟩
    exact ⟨hret, hitem, howner⟩
  · rintro ⟨hret, hitem, howner⟩
    exact ⟨ret, hret, item, ⟨hitem, howner⟩, rfl, rfl⟩

/-- A return asks for units that are sold and neither returned nor in another return. -/
theorem requestOrderReturn_eq_ok {request : ReturnRequest} {performedByUserId : Nat} :
    requestOrderReturn orderId orderItemId request performedByUserId db = .ok db' ↔
      ∃ item, 0 < request.quantity ∧
        (request.returnShippingCost.all fun cost => decide (0 ≤ cost)) = true ∧
        (db.orders.get? orderId).isSome ∧ db.orderItems.get? orderItemId = some item ∧
        item.orderId = orderId ∧
        item.reservedReturnQuantity ≤ item.quantity - item.returnedQuantity - request.quantity ∧
        db' = { db with
          orderItems := db.orderItems.update orderItemId (·.addReturns 0 request.quantity)
          orderReturns := db.orderReturns.insert
            (requestedReturn orderItemId performedByUserId request) } := by
  simp only [requestOrderReturn, requireOrder, bind_eq_ok, ensure_eq_ok, orThrow_eq_ok,
    pure_eq_ok, findOrderItem_eq_some, Option.isSome_iff_exists]
  constructor
  · rintro ⟨-, hpos, -, hcost, order, horder, item, ⟨hitem, howner⟩, -, hroom, rfl⟩
    exact ⟨item, hpos, hcost, ⟨order, horder⟩, hitem, howner, hroom, rfl⟩
  · rintro ⟨item, hpos, hcost, ⟨order, horder⟩, hitem, howner, hroom, rfl⟩
    exact ⟨⟨⟩, hpos, ⟨⟩, hcost, order, horder, item, ⟨hitem, howner⟩, ⟨⟩, hroom, rfl⟩

theorem requireOrderReturn_eq_ok {e : OrderReturn × OrderItem} :
    requireOrderReturn orderId returnId db = .ok e ↔ ReturnOf orderId returnId db e.1 e.2 := by
  simp only [requireOrderReturn, requireOrder, bind_eq_ok, orThrow_eq_ok]
  constructor
  · rintro ⟨order, horder, h⟩
    obtain ⟨hret, hitem, howner⟩ := findOrderReturn_eq_some.mp h
    exact ⟨by simp [horder], hret, hitem, howner⟩
  · intro h
    obtain ⟨order, horder⟩ := Option.isSome_iff_exists.mp h.order
    exact ⟨order, horder, findOrderReturn_eq_some.mpr ⟨h.row, h.itemRow, h.owner⟩⟩

/-- A return moves on from the one status that the step asks for. -/
theorem advanceReturn_eq_ok {required : OrderReturnStatus}
    {refused : Nat → OrderReturnStatus → DomainError} {f : OrderReturn → OrderReturn} :
    advanceReturn required refused f orderId returnId db = .ok db' ↔
      ∃ ret item, ReturnOf orderId returnId db ret item ∧ ret.status = required ∧
        db' = { db with orderReturns := db.orderReturns.update returnId f } := by
  simp only [advanceReturn, bind_eq_ok, requireOrderReturn_eq_ok, Prod.exists, ensure_eq_ok,
    pure_eq_ok]
  constructor
  · rintro ⟨ret, item, hof, -, hstatus, rfl⟩
    exact ⟨ret, item, hof, hstatus, rfl⟩
  · rintro ⟨ret, item, hof, hstatus, rfl⟩
    exact ⟨ret, item, hof, ⟨⟩, hstatus, rfl⟩

/-- A cancelled return gives its units back to the item. -/
theorem cancelOrderReturn_eq_ok {now : Time} :
    cancelOrderReturn orderId returnId now db = .ok db' ↔
      ∃ ret item, ReturnOf orderId returnId db ret item ∧ ret.status = .requested ∧
        ret.quantity ≤ item.reservedReturnQuantity ∧
        db' = { db with
          orderReturns := db.orderReturns.update returnId (OrderReturn.cancel now)
          orderItems := db.orderItems.update ret.orderItemId (·.addReturns 0 (-ret.quantity)) } := by
  simp only [cancelOrderReturn, bind_eq_ok, advanceReturn_eq_ok, requireOrderReturn_eq_ok,
    ensure_eq_ok, pure_eq_ok, Prod.exists]
  constructor
  · rintro ⟨ret, item, hof, -, ⟨ret', item', hof', hstatus, rfl⟩, -, hroom, rfl⟩
    obtain rfl : ret = ret' := Option.some.inj (hof.row.symm.trans hof'.row)
    exact ⟨ret, item, hof, hstatus, hroom, rfl⟩
  · rintro ⟨ret, item, hof, hstatus, hroom, rfl⟩
    exact ⟨ret, item, hof, _, ⟨ret, item, hof, hstatus, rfl⟩, ⟨⟩, hroom, rfl⟩

/-- An inspection restocks at most what came back, and only as new to a listing of new sets.
-/
theorem inspectOrderReturn_ok {inspection : Inspection} {now : Time}
    (h : inspectOrderReturn orderId returnId inspection now db = .ok db') :
    ∃ ret item l, ReturnOf orderId returnId db ret item ∧ ret.status = .received ∧
      db.listings.get? item.productListingId = some l ∧ 0 ≤ inspection.restockQuantity ∧
      inspection.restockQuantity ≤ ret.quantity ∧
      (0 < inspection.restockQuantity → inspection.condition = .asNew ∧ l.condition = .new) ∧
      db' = { db with
        orderReturns := db.orderReturns.update returnId (OrderReturn.inspect inspection now) } := by
  simp only [inspectOrderReturn, bind_eq_ok, orThrow_eq_ok, ensure_eq_ok, listingCondition,
    Option.map_eq_some_iff, requireOrderReturn_eq_ok, advanceReturn_eq_ok, Prod.exists] at h
  obtain ⟨-, hnonneg, -, hcondition, ret, item, hof, condition, ⟨l, hl, rfl⟩, -, hused, -, hle,
    ret', item', hof', hstatus, rfl⟩ := h
  obtain rfl : ret = ret' := Option.some.inj (hof.row.symm.trans hof'.row)
  refine ⟨ret, item, l, hof, hstatus, hl, hnonneg, hle, fun hpos => ⟨?_, ?_⟩, rfl⟩
  · exact hcondition.resolve_right (by omega)
  · cases hc : l.condition with
    | new => rfl
    | usedLikeNew => exact absurd ⟨hpos, hc⟩ hused

/-- A completion books the units as returned and restocks those that passed inspection. -/
theorem completeOrderReturn_eq_ok {performedByUserId : Nat} {now : Time} :
    completeOrderReturn orderId returnId performedByUserId now db = .ok db' ↔
      ∃ ret item l, ReturnOf orderId returnId db ret item ∧ ret.status = .inspected ∧
        db.listings.get? item.productListingId = some l ∧
        (0 < ret.restockQuantity → l.condition = .new) ∧
        ret.quantity ≤ item.reservedReturnQuantity ∧
        item.returnedQuantity + ret.quantity ≤ item.quantity ∧
        db' = { db.withStock (restockReturn performedByUserId returnId ret item db.stock) with
          orderItems := db.orderItems.update ret.orderItemId (·.addReturns ret.quantity (-ret.quantity))
          orderReturns := db.orderReturns.update returnId (OrderReturn.complete now) } := by
  simp only [completeOrderReturn, requireOrderReturn_eq_ok, Prod.exists, bind_eq_ok,
    ensure_eq_ok, orThrow_eq_ok, pure_eq_ok, listingCondition, Option.map_eq_some_iff]
  constructor
  · rintro ⟨ret, item, hof, -, hstatus, condition, ⟨l, hl, rfl⟩, -, hused, -, hclaim, rfl⟩
    refine ⟨ret, item, l, hof, hstatus, hl, fun hpos => ?_, hclaim.1, hclaim.2, rfl⟩
    cases hc : l.condition with
    | new => rfl
    | usedLikeNew => exact absurd ⟨hc, hpos⟩ hused
  · rintro ⟨ret, item, l, hof, hstatus, hl, hnew, hreserved, hroom, rfl⟩
    refine ⟨ret, item, hof, ⟨⟩, hstatus, l.condition, ⟨l, hl, rfl⟩, ⟨⟩, ?_, ⟨⟩,
      ⟨hreserved, hroom⟩, rfl⟩
    rintro ⟨hused, hpos⟩
    rw [hnew hpos] at hused
    cases hused

end Inversion

end ColorfulLife
