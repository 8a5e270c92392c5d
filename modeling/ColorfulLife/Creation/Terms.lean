/-
What an order is agreed on, and that it never changes.

The terms of an order are the columns that its creation writes and that no other
request touches: customer, key and request hash, addresses, total and instant of
creation, and for every item all but the return counters. `Db.terms` projects a
database to them; `shopStep_terms` is the case analysis over the requests.
-/

import ColorfulLife.Relational.View
import ColorfulLife.Shop.Effects

namespace ColorfulLife

open Relational

/-! ### Terms -/

/-- The order columns that only a creation writes. -/
structure OrderTerms where
  userId : Nat
  creationIdempotencyKey : Option String
  creationRequestHash : Option String
  billing : AddressSnapshot
  delivery : AddressSnapshot
  totalAmount : Pence
  createdAt : Time
  deriving DecidableEq

def Order.terms (order : Order) : OrderTerms where
  userId := order.userId
  creationIdempotencyKey := order.creationIdempotencyKey
  creationRequestHash := order.creationRequestHash
  billing := order.billing
  delivery := order.delivery
  totalAmount := order.totalAmount
  createdAt := order.createdAt

/-- An item without its return counters. -/
def OrderItem.terms (item : OrderItem) : OrderItem :=
  { item with returnedQuantity := 0, reservedReturnQuantity := 0 }

/-- The customers, and the terms of every order. -/
structure DbTerms where
  users : Table User
  orders : List (Nat × OrderTerms)
  items : List (Nat × OrderItem)

def Db.terms (db : Db) : DbTerms where
  users := db.users
  orders := db.orders.view Order.terms
  items := db.orderItems.view OrderItem.terms

/-! ### Reading an order -/

/-- What a creation returns: an order with its items, as they are read. -/
structure OrderView where
  orderId : Nat
  order : Option Order
  items : List (Nat × OrderItem)
  deriving DecidableEq

def Db.viewOrder (db : Db) (orderId : Nat) : OrderView where
  orderId := orderId
  order := db.orders.get? orderId
  items := db.itemsOf orderId

/-- The terms a view shows. -/
def OrderView.terms (view : OrderView) : Nat × Option OrderTerms × List (Nat × OrderItem) :=
  (view.orderId, view.order.map Order.terms, view.items.map fun e => (e.1, e.2.terms))

/-- The terms of an order. -/
def DbTerms.order (terms : DbTerms) (orderId : Nat) :
    Nat × Option OrderTerms × List (Nat × OrderItem) :=
  (orderId, terms.orders.lookup orderId, terms.items.filter fun e => decide (e.2.orderId = orderId))

/-- The terms of the orders that a customer's key was used for. -/
def DbTerms.keyed (terms : DbTerms) (userId : Nat) (key : String) : List (Nat × OrderTerms) :=
  terms.orders.filter fun e => decide (e.2.userId = userId ∧ e.2.creationIdempotencyKey = some key)

section Reading

variable (db : Db)

theorem viewOrder_terms (orderId : Nat) :
    (db.viewOrder orderId).terms = db.terms.order orderId := by
  have row := db.orders.lookup_view (f := Order.terms) orderId
  have items := Table.filter_view (t := db.orderItems) (f := OrderItem.terms)
    (p := fun _ i => decide (i.orderId = orderId)) (q := fun _ i => decide (i.orderId = orderId))
    fun _ _ => rfl
  exact Prod.ext rfl (Prod.ext row.symm items.symm)

theorem keyed_eq (userId : Nat) (key : String) : db.terms.keyed userId key =
    (db.orders.select fun _ order =>
      decide (order.userId = userId ∧ order.creationIdempotencyKey = some key)).map
        fun e => (e.1, e.2.terms) :=
  Table.filter_view (f := Order.terms)
    (q := fun _ o => decide (o.userId = userId ∧ o.creationIdempotencyKey = some key))
    fun _ _ => rfl

theorem existingOrder_terms (userId : Nat) (key : String) :
    (existingOrder userId key db).map (fun e => (e.1, e.2.terms)) =
      (db.terms.keyed userId key).head? :=
  (Table.head?_filter_view (f := Order.terms)
    (q := fun _ o => decide (o.userId = userId ∧ o.creationIdempotencyKey = some key))
    fun _ _ => rfl).symm

/-- A lookup of the key reads terms. -/
theorem replayedOrder_keyed (digest : CanonicalRequest → String) (userId : Nat)
    (input : CreateOrderInput) (key : String) :
    replayedOrder digest userId input (some key) db =
      match (db.terms.keyed userId key).head? with
      | none => .ok none
      | some (orderId, terms) =>
          if terms.creationRequestHash = some (requestHash digest input) then .ok (some orderId)
          else .error .orderIdempotencyMismatch := by
  rw [← existingOrder_terms, replayedOrder, Option.bind_some]
  cases existingOrder userId key db with
  | none => rfl
  | some e =>
      obtain ⟨orderId, order⟩ := e
      by_cases same : order.creationRequestHash = some (requestHash digest input)
      · simp [Order.terms, ensure, same, bind, Except.bind, pure, Except.pure]
      · simp [Order.terms, ensure, same, bind, Except.bind]

end Reading

/-! ### Requests keep terms -/

section Kept

variable {db db' : Db}

theorem updateOrder_terms (db : Db) {orderId : Nat} {f : Order → Order}
    (same : ∀ o, (f o).terms = o.terms) : (db.updateOrder orderId f).terms = db.terms := by
  rw [Db.terms, Db.terms, DbTerms.mk.injEq]
  exact ⟨rfl, Table.view_update same, rfl⟩

theorem addReturns_terms {itemId : Nat} {returned reserved : Int}
    (users : db'.users = db.users) (orders : db'.orders = db.orders)
    (items : db'.orderItems = db.orderItems.update itemId (·.addReturns returned reserved)) :
    db'.terms = db.terms := by
  rw [Db.terms, Db.terms, DbTerms.mk.injEq, users, orders, items]
  exact ⟨rfl, rfl, Table.view_update fun _ => rfl⟩

theorem cancelWith_terms {owner : Option Nat} {cancelledBy : CancellationInitiator}
    {performedByUserId orderId : Nat} {reason : CancellationReason} {now : Time}
    (tx : cancelWith owner cancelledBy performedByUserId orderId reason now db = .ok db') :
    db'.terms = db.terms := by
  have cancelled :
      (db.updateOrder orderId (Order.cancel cancelledBy reason now)).terms = db.terms :=
    updateOrder_terms db fun _ => rfl
  obtain ⟨order, -, -, ⟨-, listings, -, rfl⟩ | ⟨-, stock, -, rfl⟩⟩ := cancelWith_eq_ok.mp tx
  · exact cancelled
  · exact cancelled

theorem expireOrderReservation_terms {orderId : Nat} {asOf : Time}
    (tx : expireOrderReservation orderId asOf db = .ok db') : db'.terms = db.terms := by
  rcases expireOrderReservation_cases tx with rfl | ⟨order, listings, -, -, -, rfl⟩
  · rfl
  · exact updateOrder_terms { db with listings := listings } fun _ => rfl

theorem usedOffer_terms {conversion : Bool} {input : UsedOfferInput} {uploaded : List UploadedPhoto}
    {listingId : Nat} (tx : persistUsedOffer conversion input uploaded db = .ok (db', listingId)) :
    db'.terms = db.terms := by
  obtain ⟨listings, product, -, -, rfl⟩ := persistUsedOffer_ok tx
  rfl

/-- A request that creates an order. -/
def ShopOp.creates : ShopOp → Bool
  | .createOrder .. => true
  | _ => false

/-- Only creations write terms. -/
theorem shopStep_terms (digest : CanonicalRequest → String) {op : ShopOp}
    (other : op.creates = false) (db : Db) : (shopStep digest db op).terms = db.terms := by
  refine commit_rel (R := fun db db' : Db => db'.terms = db.terms) rfl fun db' tx => ?_
  cases op with
  | createOrder => cases other
  | confirmOrder performedBy id =>
      obtain ⟨order, stock, -, -, -, rfl⟩ := confirmOrderInTransaction_eq_ok.mp tx
      exact updateOrder_terms (db.withStock stock) fun _ => rfl
  | cancelOrder => exact cancelWith_terms tx
  | cancelOrderByAdmin => exact cancelWith_terms tx
  | expireOrderReservation => exact expireOrderReservation_terms tx
  | dispatchOrder id cost carrier tracking now =>
      obtain ⟨order, -, -, rfl⟩ := dispatchOrder_eq_ok.mp tx
      exact updateOrder_terms db fun _ => rfl
  | completeOrder id now =>
      obtain ⟨order, -, -, rfl⟩ := completeOrder_eq_ok.mp tx
      exact updateOrder_terms db fun _ => rfl
  | adjustInventory id quantity performedBy =>
      obtain ⟨l, -, -, -, -, rfl⟩ := adjustInventory_eq_ok.mp tx
      rfl
  | writeOffInventory input =>
      obtain ⟨l, -, -, -, -, rfl⟩ := writeOffInventory_eq_ok.mp tx
      rfl
  | reconcileStocktake input =>
      obtain ⟨l, -, -, -, -, -, ⟨-, rfl⟩ | ⟨-, rfl⟩⟩ := reconcileStocktake_eq_ok.mp tx
      · rfl
      · rfl
  | createUsedOffer input uploaded =>
      obtain ⟨⟨db₁, id⟩, hcreate, rfl⟩ := map_eq_ok.mp tx
      exact usedOffer_terms hcreate
  | convertToUsedOffer input uploaded =>
      obtain ⟨⟨db₁, id⟩, hconvert, rfl⟩ := map_eq_ok.mp tx
      exact usedOffer_terms hconvert
  | receivePurchaseItem userId id now =>
      obtain ⟨item, listingId, l, -, -, -, -, -, -, -, rfl⟩ := receivePurchaseItem_eq_ok.mp tx
      rfl
  | returnPurchaseItem userId id now =>
      obtain ⟨item, listingId, l, -, -, -, -, -, -, -, rfl⟩ := returnPurchaseItem_eq_ok.mp tx
      rfl
  | requestOrderReturn orderId itemId request performedBy =>
      obtain ⟨item, -, -, -, -, -, -, rfl⟩ := requestOrderReturn_eq_ok.mp tx
      exact addReturns_terms rfl rfl rfl
  | cancelOrderReturn orderId ret now =>
      obtain ⟨row, item, -, -, -, rfl⟩ := cancelOrderReturn_eq_ok.mp tx
      exact addReturns_terms rfl rfl rfl
  | authorizeOrderReturn orderId ret now =>
      obtain ⟨row, item, -, -, rfl⟩ := advanceReturn_eq_ok.mp tx
      rfl
  | receiveOrderReturn orderId ret now =>
      obtain ⟨row, item, -, -, rfl⟩ := advanceReturn_eq_ok.mp tx
      rfl
  | inspectOrderReturn orderId ret inspection now =>
      obtain ⟨row, item, l, -, -, -, -, -, -, rfl⟩ := inspectOrderReturn_ok tx
      rfl
  | completeOrderReturn orderId ret performedBy now =>
      obtain ⟨row, item, l, -, -, -, -, -, -, rfl⟩ := completeOrderReturn_eq_ok.mp tx
      exact addReturns_terms rfl rfl rfl

end Kept

/-! ### Placements add terms -/

/-- The views of the orders there are stay, and one order is added. -/
structure Added (orderId : Nat) (terms : OrderTerms) (before after : DbTerms) : Prop where
  users : after.users = before.users
  orders : after.orders = before.orders ++ [(orderId, terms)]
  fresh : before.orders.lookup orderId = none
  items : ∃ added, after.items = before.items ++ added ∧ ∀ e ∈ added, e.2.orderId = orderId

theorem placement_terms {digest : CanonicalRequest → String} {userId orderId : Nat}
    {input : CreateOrderInput} {key : Option String} {now : Time} {db settled db' : Db}
    (hsettle : settleCartReconciliation userId now db = .ok settled)
    (hplace : placeOrder digest userId input key now settled = .ok (db', orderId)) :
    ∃ billing, Added orderId
      (newOrder digest userId input key now billing (placedItems input settled)).terms
      db.terms db'.terms := by
  obtain ⟨rfl, billing, allocation, listings, -, -, -, -, -, halloc⟩ := placeOrder_eq_ok.mp hplace
  obtain ⟨_, _, _, rfl⟩ := (settleCartReconciliation_frame hsettle).fields
  obtain ⟨_, _, _, rfl⟩ := (allocateOrderCart_frame halloc).fields
  obtain ⟨added, view, columns⟩ := Table.view_insertAll (f := OrderItem.terms)
    (placedItems input _) db.orderItems
  refine ⟨billing, rfl, Table.view_insert .., ?_, added, view, fun e he => ?_⟩
  · rw [Db.terms, Table.lookup_view, Table.get?_of_nextId_le _ (Nat.le_refl _)]
    rfl
  · have mem : e.2 ∈ added.map Prod.snd := List.mem_map_of_mem he
    rw [columns] at mem
    obtain ⟨item, hitem, same⟩ := List.mem_map.mp mem
    obtain ⟨line, -, l, -, rfl⟩ := mem_placedItems hitem
    rw [← same]
    rfl

namespace Added

variable {orderId : Nat} {terms : OrderTerms} {before after : DbTerms}

theorem keyed (h : Added orderId terms before after) (userId : Nat) (key : String) :
    after.keyed userId key = before.keyed userId key ++
      if terms.userId = userId ∧ terms.creationIdempotencyKey = some key then [(orderId, terms)]
      else [] := by
  rw [DbTerms.keyed, DbTerms.keyed, h.orders, List.filter_append, List.filter_singleton]
  split <;> rename_i c <;> simp [c]

/-- The orders there were keep their terms. -/
theorem order (h : Added orderId terms before after) {id : Nat}
    (found : before.orders.lookup id ≠ none) : after.order id = before.order id := by
  have other : id ≠ orderId := fun same => found (same ▸ h.fresh)
  obtain ⟨added, items, owner⟩ := h.items
  have none : added.filter (fun e => decide (e.2.orderId = id)) = [] := by
    rw [List.filter_eq_nil_iff]
    intro e he
    simp [owner e he, Ne.symm other]
  rw [DbTerms.order, DbTerms.order, h.orders, items, List.filter_append, none, List.append_nil,
    List.lookup_append, Option.or_of_isSome (Option.isSome_iff_ne_none.mpr found)]

end Added

/-- An order that a key was used for is there. -/
theorem DbTerms.keyed_lookup {terms : DbTerms} {userId orderId : Nat} {key : String}
    {order : OrderTerms} (h : (orderId, order) ∈ terms.keyed userId key) :
    terms.orders.lookup orderId ≠ none := by
  rw [ne_eq, List.lookup_eq_none_iff]
  intro absent
  have := absent _ (List.mem_of_mem_filter h)
  simp at this

end ColorfulLife
