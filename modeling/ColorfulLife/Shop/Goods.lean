/-
What left the shop for an order, and what came back.

`SalesInv` says that the movements an order has recorded for an item are
determined by its status: none before confirmation and after a release, one sale
once confirmed, and after the cancellation of a confirmed order the sale
followed by its reversal for a new listing. The units returned are the restocked
units of the completed returns.

A return can be completed whatever the state of its order, so the goods that
came back are not always bounded by the goods sold:
`returned_within_sold_iff` says in which runs they are.
-/

import ColorfulLife.Shop.ReturnAccounting

namespace ColorfulLife

open Relational

/-! ### Movements of an order item -/

/-- The movement belongs to a transition of the order, for the listing. -/
def InventoryMovement.isOf (orderId listingId : Nat) (m : InventoryMovement) : Bool :=
  decide ((m.note = .orderSale orderId ∨ m.note = .orderCancellationReturn orderId) ∧
    m.listingId = listingId)

/-- The movements that the transitions of an item's order recorded for it. -/
def orderMovements (movements : List InventoryMovement) (item : OrderItem) :
    List InventoryMovement :=
  movements.filter (InventoryMovement.isOf item.orderId item.productListingId)

/-- The quantity moved by movements of one type. -/
def movedBy (type : InventoryMovementType) (movements : List InventoryMovement) : Int :=
  (movements.map fun m => if m.type = type then m.quantityChange else 0).sum

/-- Units deducted for an item by the sale. -/
def soldUnits (db : Db) (item : OrderItem) : Int :=
  -movedBy .websiteSale (orderMovements db.movements item)

/-- Units added back for an item by the cancellation of its order. -/
def cancelledUnits (db : Db) (item : OrderItem) : Int :=
  movedBy .orderCancellationReturn (orderMovements db.movements item)

/-- The note of the completion of a return of item `j`. -/
def isReturnNote (returns : Table OrderReturn) (j : Nat) : MovementNote → Bool
  | .completedOrderReturn r => (returns.get? r).any fun ret => decide (ret.orderItemId = j)
  | _ => false

theorem isReturnNote_eq_true {returns : Table OrderReturn} {j : Nat} {note : MovementNote} :
    isReturnNote returns j note = true ↔ ∃ r ret, note = .completedOrderReturn r ∧
      returns.get? r = some ret ∧ ret.orderItemId = j := by
  cases note with
  | completedOrderReturn r => cases hr : returns.get? r <;> simp [isReturnNote, hr]
  | _ => simp [isReturnNote]

/-- Units added back for an item by its completed returns. -/
def returnedUnits (movements : List InventoryMovement) (returns : Table OrderReturn) (j : Nat) :
    Int :=
  movedBy .orderReturn (movements.filter fun m => isReturnNote returns j m.note)

/-- For every item, what came back is within what was sold. -/
def ReturnedWithinSold (db : Db) : Prop :=
  ∀ j item, db.orderItems.get? j = some item →
    cancelledUnits db item + returnedUnits db.movements db.orderReturns j ≤ soldUnits db item

section Movements

variable {ms ns : List InventoryMovement} {item : OrderItem}

theorem orderMovements_append :
    orderMovements (ms ++ ns) item = orderMovements ms item ++ orderMovements ns item :=
  List.filter_append ..

theorem movedBy_append (type : InventoryMovementType) :
    movedBy type (ms ++ ns) = movedBy type ms + movedBy type ns := by
  simp [movedBy]

theorem orderMovements_eq_nil
    (other : ∀ m ∈ ns, m.listingId = item.productListingId → m.note ≠ .orderSale item.orderId ∧
      m.note ≠ .orderCancellationReturn item.orderId) : orderMovements ns item = [] := by
  refine List.filter_eq_nil_iff.mpr fun m hm => ?_
  simp only [InventoryMovement.isOf, decide_eq_true_eq, not_and]
  rintro (hnote | hnote) hlisting
  · exact (other m hm hlisting).1 hnote
  · exact (other m hm hlisting).2 hnote

/-- Among movements made one for each item of a list with distinct listings, an
item finds exactly its own. -/
theorem orderMovements_map {items : List (Nat × OrderItem)} {g : OrderItem → InventoryMovement}
    {j : Nat} (note : ∀ i, (g i).isOf item.orderId item.productListingId = true ↔
      i.productListingId = item.productListingId)
    (distinct : (items.map fun e => e.2.productListingId).Nodup) (mem : (j, item) ∈ items) :
    orderMovements (items.map fun e => g e.2) item = [g item] := by
  induction items with
  | nil => cases mem
  | cons e items ih =>
      rw [List.map_cons, List.nodup_cons] at distinct
      rw [List.map_cons, orderMovements, List.filter_cons]
      rcases List.mem_cons.mp mem with rfl | mem
      · rw [if_pos ((note item).mpr rfl)]
        refine congrArg _ (List.filter_eq_nil_iff.mpr fun m hm hof => distinct.1 ?_)
        obtain ⟨e', he', rfl⟩ := List.mem_map.mp hm
        exact List.mem_map.mpr ⟨e', he', (note e'.2).mp hof⟩
      · have hne : ¬ e.2.productListingId = item.productListingId := fun heq =>
          distinct.1 (List.mem_map.mpr ⟨(j, item), mem, heq.symm⟩)
        rw [if_neg (fun hof => hne ((note e.2).mp hof))]
        exact ih distinct.2 mem

end Movements

/-! ### The ledger of an order -/

/-- The states between confirmation and the end of fulfilment. -/
def OrderStatus.isSold : OrderStatus → Bool
  | .confirmed | .dispatched | .completed => true
  | .pending | .expired | .cancelled | .returned => false

/-- What an order in state `status` has recorded for an item; `new` tells whether
the item's listing is new. -/
def RecordedFor (status : OrderStatus) (new : Bool) (item : OrderItem)
    (movements : List InventoryMovement) : Prop :=
  match status with
  | .pending | .expired => movements = []
  | .confirmed | .dispatched | .completed =>
      ∃ p, movements = [saleMovement p item.orderId item]
  | .cancelled => movements = [] ∨ ∃ p p', movements = saleMovement p item.orderId item ::
      if new then [cancellationMovement p' item.orderId item] else []
  | .returned => False

structure SalesInv (db : Db) : Prop where
  distinct : ∀ j j' i i', db.orderItems.get? j = some i → db.orderItems.get? j' = some i' →
    i.orderId = i'.orderId → i.productListingId = i'.productListingId → j = j'
  orderNoted : ∀ m ∈ db.movements, ∀ o,
    m.note = .orderSale o ∨ m.note = .orderCancellationReturn o → (db.orders.get? o).isSome
  returnNoted : ∀ m ∈ db.movements, ∀ r, m.note = .completedOrderReturn r →
    (db.orderReturns.get? r).isSome
  uncancelled : ∀ o order, db.orders.get? o = some order → order.status ≠ .cancelled →
    order.cancelledAt = none
  recorded : ∀ j item order, db.orderItems.get? j = some item →
    db.orders.get? item.orderId = some order →
    RecordedFor order.status (isNewListing db.listings item.productListingId) item
      (orderMovements db.movements item)
  returned : ∀ j, returnedUnits db.movements db.orderReturns j = restockedQuantity db.orderReturns j

theorem FreshShop.salesInv {db : Db} (h : FreshShop db) : SalesInv db where
  distinct := fun j j' i i' hi => by simp [h.orderItems j] at hi
  orderNoted := fun m hm o hnote => by
    have := h.movements m hm
    rcases hnote with hnote | hnote <;> rw [hnote] at this <;> cases this
  returnNoted := fun m hm r hnote => by
    have := h.movements m hm
    rw [hnote] at this
    cases this
  uncancelled := fun o order hget => by simp [h.orders o] at hget
  recorded := fun j item order hitem => by simp [h.orderItems j] at hitem
  returned := fun j => by
    have none : db.movements.filter (fun m => isReturnNote db.orderReturns j m.note) = [] := by
      refine List.filter_eq_nil_iff.mpr fun m hm hnote => ?_
      obtain ⟨r, ret, -, hret, -⟩ := isReturnNote_eq_true.mp hnote
      simp [h.orderReturns r] at hret
    rw [returnedUnits, none, restockedQuantity, Table.sum_eq_zero]
    · rfl
    · intro r ret hret
      simp [h.orderReturns r] at hret

section Appended

variable {ms ns : List InventoryMovement} {returns : Table OrderReturn} {j : Nat}

/-- Movements that are not of a return do not count as returned. -/
theorem returnedUnits_append_other (other : ∀ m ∈ ns, ∀ r, m.note ≠ .completedOrderReturn r) :
    returnedUnits (ms ++ ns) returns j = returnedUnits ms returns j := by
  have none : ns.filter (fun m => isReturnNote returns j m.note) = [] := by
    refine List.filter_eq_nil_iff.mpr fun m hm hnote => ?_
    obtain ⟨r, -, hn, -⟩ := isReturnNote_eq_true.mp hnote
    exact other m hm r hn
  rw [returnedUnits, List.filter_append, none, List.append_nil, returnedUnits]

/-- Returns that appear or keep their item do not change what old movements
count for. -/
theorem returnedUnits_congr {returns' : Table OrderReturn}
    (noted : ∀ m ∈ ms, ∀ r, m.note = .completedOrderReturn r → (returns.get? r).isSome)
    (kept : ∀ r ret, returns.get? r = some ret →
      ∃ ret', returns'.get? r = some ret' ∧ ret'.orderItemId = ret.orderItemId) :
    returnedUnits ms returns' j = returnedUnits ms returns j := by
  unfold returnedUnits
  refine congrArg _ (List.filter_congr fun m hm => ?_)
  cases hn : m.note with
  | completedOrderReturn r =>
      obtain ⟨ret, hret⟩ := Option.isSome_iff_exists.mp (noted m hm r hn)
      obtain ⟨ret', hret', hitem⟩ := kept r ret hret
      simp [isReturnNote, hret, hret', hitem]
  | _ => rfl

end Appended

namespace SalesInv

variable {db db' : Db} {event : ShopEvent}

/-- An order has at most one item of a listing. -/
theorem items_distinct (h : SalesInv db) (o : Nat) :
    ((sortItems (db.itemsOf o)).map fun e => e.2.productListingId).Nodup := by
  refine ((perm_sortItems _).map _).nodup_iff.mpr ?_
  refine List.Nodup.map_on ?_ ((List.Nodup.of_map _ db.orderItems.nodup).filter _)
  rintro ⟨j, i⟩ hi ⟨j', i'⟩ hi' hlisting
  obtain ⟨hget, ho⟩ := Table.mem_select.mp hi
  obtain ⟨hget', ho'⟩ := Table.mem_select.mp hi'
  simp only [decide_eq_true_eq] at ho ho'
  obtain rfl := h.distinct j j' i i' hget hget' (ho.trans ho'.symm) hlisting
  rw [hget] at hget'
  rw [Option.some.inj hget']

/-- The invariant under an update of one order, its listings and movements. -/
theorem transition (h : SalesInv db) (inv : db.StockInv) (happened : ShopEffect db event db')
    (ns : List InventoryMovement) {o : Nat} {order : Order} {f : Order → Order}
    (found : db.orders.get? o = some order) (items : db'.orderItems = db.orderItems)
    (returns : db'.orderReturns = db.orderReturns) (orders : db'.orders = db.orders.update o f)
    (movements : db'.movements = db.movements ++ ns)
    (cancelledAt : (f order).status ≠ .cancelled → (f order).cancelledAt = order.cancelledAt ∧
      order.status ≠ .cancelled)
    (notes : ∀ m ∈ ns, m.note = .orderSale o ∨ m.note = .orderCancellationReturn o)
    (recorded : ∀ j item, db.orderItems.get? j = some item → item.orderId = o →
      RecordedFor order.status (isNewListing db.listings item.productListingId) item
        (orderMovements db.movements item) →
      RecordedFor (f order).status (isNewListing db.listings item.productListingId) item
        (orderMovements db.movements item ++ orderMovements ns item)) : SalesInv db' where
  distinct := by
    rw [items]
    exact h.distinct
  orderNoted := by
    intro m hm o' hnote
    have there : (db.orders.get? o').isSome := by
      rw [movements] at hm
      rcases List.mem_append.mp hm with hm | hm
      · exact h.orderNoted m hm o' hnote
      · have ho : o' = o := by
          rcases notes m hm with hn | hn <;> rw [hn] at hnote <;> simpa [eq_comm] using hnote
        rw [ho, found]
        rfl
    rw [orders, Table.get?_update]
    split <;> simpa using there
  returnNoted := by
    intro m hm r hnote
    rw [returns]
    rw [movements] at hm
    rcases List.mem_append.mp hm with hm | hm
    · exact h.returnNoted m hm r hnote
    · rcases notes m hm with hn | hn <;> rw [hn] at hnote <;> cases hnote
  uncancelled := by
    intro o' order' hget hstatus
    rw [orders] at hget
    rcases Table.update_cases found hget with ⟨rfl, rfl⟩ | ⟨-, hget⟩
    · obtain ⟨same, before⟩ := cancelledAt hstatus
      rw [same]
      exact h.uncancelled _ order found before
    · exact h.uncancelled o' order' hget hstatus
  recorded := by
    intro j item order' hitem hget
    rw [items] at hitem
    rw [happened.isNewListing_eq inv (inv.listed j item hitem), movements, orderMovements_append]
    rw [orders] at hget
    rcases Table.update_cases found hget with ⟨ho, rfl⟩ | ⟨ho, hget⟩
    · exact recorded j item hitem ho (h.recorded j item order hitem (ho ▸ found))
    · have none : orderMovements ns item = [] := by
        refine orderMovements_eq_nil fun m hm _ => ?_
        rcases notes m hm with hn | hn <;> rw [hn] <;> simp [Ne.symm ho]
      rw [none, List.append_nil]
      exact h.recorded j item order' hitem hget
  returned := by
    intro j
    rw [movements, returns, ← h.returned j]
    refine returnedUnits_append_other fun m hm r => ?_
    rcases notes m hm with hn | hn <;> rw [hn] <;> simp

/-- The invariant under changes to stock and returns: orders are as they were,
and the new movements are not of an order transition. -/
theorem frame (h : SalesInv db) (inv : db.StockInv) (happened : ShopEffect db event db')
    (ns : List InventoryMovement) (orders : db'.orders = db.orders)
    (items : ∀ j i', db'.orderItems.get? j = some i' → ∃ i, db.orderItems.get? j = some i ∧
      i'.orderId = i.orderId ∧ i'.productListingId = i.productListingId ∧
      i'.quantity = i.quantity)
    (returns : ∀ r ret, db.orderReturns.get? r = some ret →
      ∃ ret', db'.orderReturns.get? r = some ret' ∧ ret'.orderItemId = ret.orderItemId)
    (movements : db'.movements = db.movements ++ ns)
    (notes : ∀ m ∈ ns, (∀ o, m.note ≠ .orderSale o ∧ m.note ≠ .orderCancellationReturn o) ∧
      ∀ r, m.note = .completedOrderReturn r → (db.orderReturns.get? r).isSome)
    (restocked : ∀ j, restockedQuantity db'.orderReturns j =
      restockedQuantity db.orderReturns j + returnedUnits ns db'.orderReturns j) :
    SalesInv db' := by
  refine ⟨?_, ?_, ?_, ?_, ?_, ?_⟩
  · intro j₁ j₂ i₁ i₂ h₁ h₂ ho hk
    obtain ⟨i₁', h₁', ho₁, hk₁, -⟩ := items j₁ i₁ h₁
    obtain ⟨i₂', h₂', ho₂, hk₂, -⟩ := items j₂ i₂ h₂
    exact h.distinct j₁ j₂ i₁' i₂' h₁' h₂' (by rw [← ho₁, ← ho₂, ho]) (by rw [← hk₁, ← hk₂, hk])
  · intro m hm o hnote
    rw [orders]
    rw [movements] at hm
    rcases List.mem_append.mp hm with hm | hm
    · exact h.orderNoted m hm o hnote
    · rcases hnote with hn | hn
      · exact absurd hn ((notes m hm).1 o).1
      · exact absurd hn ((notes m hm).1 o).2
  · intro m hm r hnote
    have there : (db.orderReturns.get? r).isSome := by
      rw [movements] at hm
      rcases List.mem_append.mp hm with hm | hm
      · exact h.returnNoted m hm r hnote
      · exact (notes m hm).2 r hnote
    obtain ⟨ret, hret⟩ := Option.isSome_iff_exists.mp there
    obtain ⟨ret', hret', -⟩ := returns r ret hret
    simp [hret']
  · rw [orders]
    exact h.uncancelled
  · intro j i' order hi' hget
    obtain ⟨i, hi, ho, hk, hq⟩ := items j i' hi'
    have none : orderMovements ns i' = [] :=
      orderMovements_eq_nil fun m hm _ => (notes m hm).1 i'.orderId
    have same : orderMovements db.movements i' = orderMovements db.movements i := by
      rw [orderMovements, ho, hk, orderMovements]
    have old := h.recorded j i order hi (by rw [← ho, ← orders]; exact hget)
    rw [movements, orderMovements_append, none, List.append_nil, same, hk,
      happened.isNewListing_eq inv (inv.listed j i hi)]
    unfold RecordedFor saleMovement cancellationMovement at old ⊢
    rw [ho, hk, hq]
    exact old
  · intro j
    rw [movements, restocked, ← h.returned j, returnedUnits, List.filter_append, movedBy_append,
      ← returnedUnits, ← returnedUnits, returnedUnits_congr h.returnNoted returns]

/-- What the completion of a return counts for. -/
theorem returnedUnits_completion {returns : Table OrderReturn} {r j p : Nat} {ret row : OrderReturn}
    {item : OrderItem} (hrow : returns.get? r = some row) :
    returnedUnits [returnMovement p r ret item] returns j =
      if row.orderItemId = j then ret.restockQuantity else 0 := by
  by_cases hj : row.orderItemId = j <;>
    simp [returnedUnits, returnMovement, isReturnNote, hrow, hj, movedBy]

/-- The invariant under an update of one return row. -/
theorem returnRow (h : SalesInv db) (inv : db.StockInv) (happened : ShopEffect db event db')
    (p : Nat) (item : OrderItem) {r j : Nat} {a b : Int} {ret : OrderReturn}
    {f : OrderReturn → OrderReturn} (hret : db.orderReturns.get? r = some ret)
    (orders : db'.orders = db.orders)
    (items : db'.orderItems = db.orderItems.update j (·.addReturns a b))
    (returns : db'.orderReturns = db.orderReturns.update r f)
    (itemId : ∀ x, (f x).orderItemId = x.orderItemId)
    (restocked : (db'.movements = db.movements ∧ ∀ i, (f ret).restockedFor i = ret.restockedFor i) ∨
      (db'.movements = db.movements ++ [returnMovement p r ret item] ∧
        ∀ i, (f ret).restockedFor i =
          ret.restockedFor i + if ret.orderItemId = i then ret.restockQuantity else 0)) :
    SalesInv db' := by
  have back : ∀ j' i', db'.orderItems.get? j' = some i' → ∃ i, db.orderItems.get? j' = some i ∧
      i'.orderId = i.orderId ∧ i'.productListingId = i.productListingId ∧
      i'.quantity = i.quantity := fun j' i' hi' => get?_addReturns (items ▸ hi')
  have row : db'.orderReturns.get? r = some (f ret) := by
    rw [returns, Table.get?_update_self, hret]
    rfl
  have kept : ∀ r' ret', db.orderReturns.get? r' = some ret' →
      ∃ ret'', db'.orderReturns.get? r' = some ret'' ∧ ret''.orderItemId = ret'.orderItemId := by
    intro r' ret' hr'
    rw [returns, Table.get?_update, hr']
    split
    · exact ⟨_, rfl, itemId ret'⟩
    · exact ⟨ret', rfl, rfl⟩
  have sum : ∀ i, restockedQuantity db'.orderReturns i =
      restockedQuantity db.orderReturns i - ret.restockedFor i + (f ret).restockedFor i := by
    intro i
    rw [restockedQuantity, returns]
    exact Table.sum_update hret f fun _ ret => ret.restockedFor i
  rcases restocked with ⟨movements, same⟩ | ⟨movements, added⟩
  · refine h.frame inv happened [] orders back kept (by rw [movements, List.append_nil])
      (by simp) fun i => ?_
    have none : returnedUnits [] db'.orderReturns i = 0 := rfl
    rw [sum, same, none]
    ring
  · refine h.frame inv happened _ orders back kept movements ?_ fun i => ?_
    · intro m hm
      obtain rfl := List.mem_singleton.mp hm
      refine ⟨fun o => ⟨by simp [returnMovement], by simp [returnMovement]⟩, fun r' hnote => ?_⟩
      rw [← MovementNote.completedOrderReturn.inj hnote, hret]
      rfl
    · rw [sum, added, returnedUnits_completion row, itemId]
      ring

/-- The invariant under a placed order. -/
theorem place (h : SalesInv db) (inv : db.StockInv)
    (happened : ShopEffect db event db') {order : Order} {rows : List OrderItem}
    (placed : Placed db.orders db.listings order rows)
    (orders : db'.orders = db.orders.insert order)
    (items : db'.orderItems = rows.foldl Table.insert db.orderItems)
    (returns : db'.orderReturns = db.orderReturns) (movements : db'.movements = db.movements) :
    SalesInv db' := by
  have old : ∀ j i, db.orderItems.get? j = some i → i.orderId < db.orders.nextId := by
    intro j i hi
    obtain ⟨o, ho⟩ := Option.isSome_iff_exists.mp (inv.ordered j i hi)
    exact Table.lt_nextId ho
  have new : ∀ j i, db'.orderItems.get? j = some i → db.orderItems.get? j = some i ∨
      (db.orderItems.nextId ≤ j ∧ rows[j - db.orderItems.nextId]? = some i ∧ i ∈ rows) := by
    intro j i hi
    rw [items, Table.get?_insertAll] at hi
    split at hi
    · exact Or.inl hi
    · exact Or.inr ⟨Nat.not_lt.mp ‹_›, hi, List.mem_of_getElem? hi⟩
  refine ⟨?_, ?_, ?_, ?_, ?_, ?_⟩
  · intro j j' i i' hi hi' ho hk
    rcases new j i hi with hold | ⟨hj, hrow, hmem⟩ <;>
      rcases new j' i' hi' with hold' | ⟨hj', hrow', hmem'⟩
    · exact h.distinct j j' i i' hold hold' ho hk
    · have := old j i hold
      rw [ho, placed.owner i' hmem'] at this
      omega
    · have := old j' i' hold'
      rw [← ho, placed.owner i hmem] at this
      omega
    · have same : (rows.map OrderItem.productListingId)[j - db.orderItems.nextId]? =
          (rows.map OrderItem.productListingId)[j' - db.orderItems.nextId]? := by
        simp [List.getElem?_map, hrow, hrow', hk]
      have bound : j - db.orderItems.nextId < (rows.map OrderItem.productListingId).length := by
        rw [List.length_map]
        exact (List.getElem?_eq_some_iff.mp hrow).1
      have := (List.getElem?_inj bound placed.distinct).mp same
      omega
  · intro m hm o hnote
    obtain ⟨r, hr⟩ := Option.isSome_iff_exists.mp (h.orderNoted m (movements ▸ hm) o hnote)
    rw [orders, Table.get?_insert_of_some hr]
    rfl
  · rw [movements, returns]
    exact h.returnNoted
  · intro o r hr hstatus
    rw [orders, Table.get?_insert] at hr
    split at hr
    · exact Option.some.inj hr ▸ placed.uncancelled
    · exact h.uncancelled o r hr hstatus
  · intro j i r hi hr
    rw [orders] at hr
    rcases new j i hi with hold | ⟨-, -, hmem⟩
    · rw [Table.get?_insert, if_neg (old j i hold).ne] at hr
      rw [happened.isNewListing_eq inv (inv.listed j i hold), movements]
      exact h.recorded j i r hold hr
    · rw [placed.owner i hmem, Table.get?_insert_self] at hr
      obtain rfl := Option.some.inj hr
      rw [movements, placed.pending]
      refine orderMovements_eq_nil fun m hm _ => ?_
      rw [placed.owner i hmem]
      constructor
      · intro hnote
        have := h.orderNoted m hm _ (Or.inl hnote)
        simp at this
      · intro hnote
        have := h.orderNoted m hm _ (Or.inr hnote)
        simp at this
  · intro j
    rw [movements, returns]
    exact h.returned j

theorem effect (h : SalesInv db) (inv : db.StockInv) (rinv : ReturnsInv db)
    (happened : ShopEffect db event db') : SalesInv db' := by
  have again := happened
  cases happened with
  | @stock listings legoProducts purchaseItems movements audits corrected notes =>
      have other : ∀ m ∈ movements, ∀ n : MovementNote, n.ofOrder = true → m.note ≠ n := by
        rintro m hm n hn rfl
        rw [notes m hm] at hn
        cases hn
      refine h.frame inv again _ rfl (fun j i hi => ⟨i, hi, rfl, rfl, rfl⟩)
        (fun r ret hret => ⟨ret, hret, rfl⟩) rfl (fun m hm => ⟨fun o => ⟨?_, ?_⟩, ?_⟩) fun j => ?_
      · exact other m hm _ rfl
      · exact other m hm _ rfl
      · intro r hnote
        exact absurd hnote (other m hm _ rfl)
      · have none := @returnedUnits_append_other [] movements db.orderReturns j
          fun m hm r => other m hm (.completedOrderReturn r) rfl
        rw [List.nil_append] at none
        rw [none]
        exact (add_zero _).symm
  | place placed reserved => exact h.place inv again placed rfl rfl rfl rfl
  | @confirm performedBy o order stock found pending converted =>
      refine h.transition inv again _ found rfl rfl rfl (convert_movements converted)
        (fun _ => ⟨rfl, by simp [pending]⟩) ?_ ?_
      · intro m hm
        obtain ⟨e, -, rfl⟩ := List.mem_map.mp hm
        exact Or.inl rfl
      · rintro j item hitem rfl hrecorded
        rw [pending] at hrecorded
        have mem : (j, item) ∈ sortItems (db.itemsOf item.orderId) :=
          mem_sortItems.mpr (Table.mem_select.mpr ⟨hitem, by simp⟩)
        have own := orderMovements_map (g := saleMovement performedBy item.orderId)
          (by simp [InventoryMovement.isOf, saleMovement]) (h.items_distinct item.orderId) mem
        refine ⟨performedBy, ?_⟩
        rw [hrecorded, own, List.nil_append]
  | @release o order f listings found pending closed deadline released =>
      refine h.transition inv again [] found rfl rfl rfl (by simp; rfl) ?_ (by simp) ?_
      · intro hstatus
        rcases closed with closed | ⟨closed, same⟩
        · exact absurd closed hstatus
        · exact ⟨same, by simp [pending]⟩
      · rintro j item hitem rfl hrecorded
        rw [pending] at hrecorded
        rcases closed with closed | ⟨closed, -⟩ <;> rw [closed, hrecorded]
        · exact Or.inl rfl
        · rfl
  | @cancelSale performedBy o order stock cancelledBy reason now found confirmed restocked =>
      refine h.transition inv again _ found rfl rfl rfl (restock_movements restocked)
        (fun hstatus => absurd rfl hstatus) ?_ ?_
      · intro m hm
        obtain ⟨e, -, rfl⟩ := List.mem_map.mp hm
        exact Or.inr rfl
      · rintro j item hitem rfl hrecorded
        rw [confirmed] at hrecorded
        obtain ⟨p, hsale⟩ := hrecorded
        refine Or.inr ⟨p, performedBy, ?_⟩
        rw [hsale, List.singleton_append]
        refine congrArg _ ?_
        have note : ∀ i, (cancellationMovement performedBy item.orderId i).isOf item.orderId
            item.productListingId = true ↔ i.productListingId = item.productListingId := by
          simp [InventoryMovement.isOf, cancellationMovement]
        split
        · rename_i hnew
          have mem : (j, item) ∈ sortItems (db.itemsOf item.orderId) :=
            mem_sortItems.mpr (Table.mem_select.mpr ⟨hitem, by simp⟩)
          refine orderMovements_map note ?_ (List.mem_filter.mpr ⟨mem, hnew⟩)
          exact (h.items_distinct item.orderId).sublist (List.filter_sublist.map _)
        · rename_i hold
          refine List.filter_eq_nil_iff.mpr fun m hm hof => hold ?_
          obtain ⟨e, he, rfl⟩ := List.mem_map.mp hm
          rw [← (note e.2).mp hof]
          exact (List.mem_filter.mp he).2
  | @forward o order f found moves deadline cancelledAt =>
      refine h.transition inv again [] found rfl rfl rfl (by simp [Db.updateOrder]) ?_
        (by simp) ?_
      · intro _
        refine ⟨cancelledAt, ?_⟩
        rcases moves with ⟨before, -⟩ | ⟨before, -⟩ <;> simp [before]
      · rintro j item hitem rfl hrecorded
        have none : orderMovements [] item = [] := rfl
        rw [none, List.append_nil]
        rcases moves with ⟨before, after⟩ | ⟨before, after⟩ <;> rw [before] at hrecorded <;>
          rw [after] <;> exact hrecorded
  | @request o itemId performedBy request item found owner positive room =>
      refine h.frame inv again [] rfl (fun j i hi => get?_addReturns hi)
        (fun r ret hret => ⟨ret, Table.get?_insert_of_some hret, rfl⟩) (List.append_nil _).symm
        (by simp) fun j => ?_
      have none : returnedUnits [] (db.orderReturns.insert
        (requestedReturn itemId performedBy request)) j = 0 := rfl
      rw [none, restockedQuantity, Table.sum_insert, restockedQuantity]
      simp [OrderReturn.restockedFor, requestedReturn]
  | @advance o r ret item f found moves restock quantity itemId =>
      have status : ret.status ≠ .completed ∧ (f ret).status ≠ .completed := by
        rcases moves with ⟨h₁, h₂⟩ | ⟨h₁, h₂⟩ | ⟨h₁, h₂⟩ <;> simp [h₁, h₂]
      have unmoved : db.orderItems.update ret.orderItemId (·.addReturns 0 0) = db.orderItems :=
        Table.update_eq_self fun i => by simp [OrderItem.addReturns]
      refine h.returnRow inv again 0 item found.row rfl unmoved.symm rfl itemId
        (Or.inl ⟨rfl, fun i => ?_⟩)
      simp [OrderReturn.restockedFor, status]
  | @cancelReturn o r ret item now found requested room =>
      refine h.returnRow inv again 0 item found.row rfl rfl rfl (fun _ => rfl)
        (Or.inl ⟨rfl, fun i => ?_⟩)
      simp [OrderReturn.restockedFor, OrderReturn.cancel, requested]
  | @completeReturn o r performedBy ret item l now found inspected listing new reserved room =>
      refine h.returnRow inv again performedBy item found.row rfl rfl rfl
        (fun _ => rfl) ?_
      by_cases hpos : 0 < ret.restockQuantity
      · refine Or.inr ⟨?_, fun i => ?_⟩
        · simp [Db.withStock, restockReturn, hpos]
        · by_cases hi : ret.orderItemId = i <;>
            simp [OrderReturn.restockedFor, OrderReturn.complete, inspected, hi]
      · refine Or.inl ⟨?_, fun i => ?_⟩
        · simp [Db.withStock, restockReturn, hpos]
        · have hzero : ret.restockQuantity = 0 := by
            have := (rinv.sound r ret found.row).nonneg
            omega
          simp [OrderReturn.restockedFor, OrderReturn.complete, inspected, hzero]

end SalesInv

/-! ### All three invariants -/

structure ShopInv (db : Db) : Prop where
  stock : db.StockInv
  returns : ReturnsInv db
  sales : SalesInv db

theorem FreshShop.shopInv {db : Db} (h : FreshShop db) : ShopInv db :=
  ⟨h.stockInv, h.returnsInv, h.salesInv⟩

namespace ShopInv

variable {db db' : Db} {event : ShopEvent}

theorem effect (h : ShopInv db) (happened : ShopEffect db event db') : ShopInv db' :=
  ⟨h.stock.effect happened, h.returns.effect h.stock happened,
    h.sales.effect h.stock h.returns happened⟩

theorem step {digest : CanonicalRequest → String} (h : ShopInv db) (op : ShopOp) :
    ShopInv (shopStep digest db op) := by
  rcases shopStep_effect digest db op with same | ⟨event, -, happened⟩
  · exact same.symm ▸ h
  · exact h.effect happened

/-! ### The bound, read off the status -/

/-- Sold and cancelled units as the status of the order determines them. -/
theorem units (h : ShopInv db) {j : Nat} {item : OrderItem} {order : Order}
    (hitem : db.orderItems.get? j = some item) (hget : db.orders.get? item.orderId = some order) :
    (order.status.isSold = true → soldUnits db item = item.quantity ∧ cancelledUnits db item = 0) ∧
      (order.status.isSold = false →
        (isNewListing db.listings item.productListingId = true →
          cancelledUnits db item = soldUnits db item) ∧
        cancelledUnits db item ≤ soldUnits db item) := by
  have positive := h.stock.positive j item hitem
  have recorded := h.sales.recorded j item order hitem hget
  unfold soldUnits cancelledUnits
  cases hs : order.status <;> rw [hs] at recorded <;> simp only [RecordedFor] at recorded
  case pending => simp [recorded, movedBy, OrderStatus.isSold]
  case expired => simp [recorded, movedBy, OrderStatus.isSold]
  case confirmed =>
    obtain ⟨p, hp⟩ := recorded
    simp [hp, movedBy, saleMovement, OrderStatus.isSold]
  case dispatched =>
    obtain ⟨p, hp⟩ := recorded
    simp [hp, movedBy, saleMovement, OrderStatus.isSold]
  case completed =>
    obtain ⟨p, hp⟩ := recorded
    simp [hp, movedBy, saleMovement, OrderStatus.isSold]
  case cancelled =>
    rcases recorded with none | ⟨p, p', hp⟩
    · simp [none, movedBy, OrderStatus.isSold]
    · by_cases hnew : isNewListing db.listings item.productListingId = true
      · simp [hp, hnew, movedBy, saleMovement, cancellationMovement, OrderStatus.isSold]
      · simp [hp, hnew, movedBy, saleMovement, OrderStatus.isSold]
        omega

theorem restocked_nonneg (h : ShopInv db) {j : Nat} : ∀ r ret,
    db.orderReturns.get? r = some ret → 0 ≤ ret.restockedFor j := by
  intro r ret hret
  have := (h.returns.sound r ret hret).nonneg
  unfold OrderReturn.restockedFor
  split <;> omega

/-- What came back through returns is within the item. -/
theorem restocked_le (h : ShopInv db) {j : Nat} {item : OrderItem}
    (hitem : db.orderItems.get? j = some item) :
    restockedQuantity db.orderReturns j ≤ item.quantity := by
  have le : restockedQuantity db.orderReturns j ≤ completedQuantity db.orderReturns j := by
    refine Table.sum_le_sum fun r ret hret => ?_
    have := (h.returns.sound r ret hret).le
    unfold OrderReturn.restockedFor OrderReturn.completedFor
    split <;> omega
  have nonneg : 0 ≤ openQuantity db.orderReturns j := by
    refine Table.sum_nonneg fun r ret hret => ?_
    have := (h.returns.sound r ret hret).positive
    unfold OrderReturn.openFor
    split <;> omega
  have := h.returns.total j item hitem
  rw [h.returns.reserved j item hitem, h.returns.returned j item hitem] at this
  omega

/-- Only new listings take returned goods back. -/
theorem restocked_eq_zero (h : ShopInv db) {j : Nat} {item : OrderItem}
    (hitem : db.orderItems.get? j = some item)
    (used : isNewListing db.listings item.productListingId = false) :
    restockedQuantity db.orderReturns j = 0 := by
  refine Table.sum_eq_zero fun r ret hret => ?_
  unfold OrderReturn.restockedFor
  split
  · rename_i both
    obtain ⟨-, nonneg, -, item', hitem', hnew⟩ := h.returns.sound r ret hret
    rw [both.1, hitem] at hitem'
    obtain rfl := Option.some.inj hitem'
    by_contra hne
    have := (hnew (by omega)).2
    rw [used] at this
    cases this
  · rfl

/-- The bound for one item: its order is sold and not cancelled, or nothing came
back through returns. -/
theorem item_within_iff (h : ShopInv db) {j : Nat} {item : OrderItem} {order : Order}
    (hitem : db.orderItems.get? j = some item) (hget : db.orders.get? item.orderId = some order) :
    cancelledUnits db item + returnedUnits db.movements db.orderReturns j ≤ soldUnits db item ↔
      order.status.isSold = true ∨ restockedQuantity db.orderReturns j = 0 := by
  obtain ⟨sold, unsold⟩ := h.units hitem hget
  have nonneg : 0 ≤ restockedQuantity db.orderReturns j := Table.sum_nonneg h.restocked_nonneg
  have le := h.restocked_le hitem
  rw [h.sales.returned j]
  cases hs : order.status.isSold with
  | true =>
      obtain ⟨hsold, hcancelled⟩ := sold hs
      simp only [true_or, iff_true]
      omega
  | false =>
      obtain ⟨hnew, hle⟩ := unsold hs
      simp only [Bool.false_eq_true, false_or]
      cases hlisting : isNewListing db.listings item.productListingId with
      | true =>
          have := hnew hlisting
          omega
      | false =>
          have := h.restocked_eq_zero hitem hlisting
          omega

/-- Where goods came back through returns, the order is sold and not cancelled. -/
def RestockedOnlySold (db : Db) : Prop :=
  ∀ j item order, db.orderItems.get? j = some item → db.orders.get? item.orderId = some order →
    order.status.isSold = true ∨ restockedQuantity db.orderReturns j = 0

/-- The bound for all items. -/
theorem within_iff (h : ShopInv db) : ReturnedWithinSold db ↔ RestockedOnlySold db := by
  constructor
  · intro within j item order hitem hget
    exact (h.item_within_iff hitem hget).mp (within j item hitem)
  · intro all j item hitem
    obtain ⟨order, hget⟩ := Option.isSome_iff_exists.mp (h.stock.ordered j item hitem)
    exact (h.item_within_iff hitem hget).mpr (all j item order hitem hget)

end ShopInv

/-! ### What each event does to the bound -/

/-- No return put goods of the order back into stock. -/
def Unreturned (db : Db) (orderId : Nat) : Prop :=
  ∀ j item, db.orderItems.get? j = some item → item.orderId = orderId →
    restockedQuantity db.orderReturns j = 0

/-- The request puts back only goods that the shop is without: a cancellation of
a confirmed order finds no returned goods of it, and a completed return with
goods to put back is of an order that is sold. -/
def ShopOp.ReturnsSoldGoods (db : Db) : ShopOp → Prop
  | .cancelOrder userId orderId _ _ => ∀ order,
      findCancelled (some userId) orderId db = some order → order.status = .confirmed →
        Unreturned db orderId
  | .cancelOrderByAdmin orderId _ _ _ => ∀ order,
      findCancelled none orderId db = some order → order.status = .confirmed →
        Unreturned db orderId
  | .completeOrderReturn orderId returnId _ _ => ∀ order ret item,
      db.orders.get? orderId = some order → ReturnOf orderId returnId db ret item →
        ret.status = .inspected → 0 < ret.restockQuantity → order.status.isSold = true
  | _ => True

namespace ShopInv

variable {db db' : Db} {event : ShopEvent}

/-- The bound carries over where returns and items are kept and no order stops
being sold. -/
theorem restockedOnlySold_kept (h : ShopInv db) (bound : RestockedOnlySold db)
    (items : ∀ j i', db'.orderItems.get? j = some i' →
      ∃ i, db.orderItems.get? j = some i ∧ i'.orderId = i.orderId)
    (returns : ∀ j, restockedQuantity db'.orderReturns j = restockedQuantity db.orderReturns j)
    (orders : ∀ o order order', db.orders.get? o = some order → db'.orders.get? o = some order' →
      order.status.isSold = true → order'.status.isSold = true) : RestockedOnlySold db' := by
  intro j i' order' hi' hget'
  obtain ⟨i, hi, owner⟩ := items j i' hi'
  rw [owner] at hget'
  obtain ⟨order, hget⟩ := Option.isSome_iff_exists.mp (h.stock.ordered j i hi)
  rcases bound j i order hi hget with sold | zero
  · exact Or.inl (orders _ order order' hget hget' sold)
  · exact Or.inr ((returns j).trans zero)

/-- An update of one return row that does not complete it. -/
theorem restockedQuantity_update {r : Nat} {ret : OrderReturn} {f : OrderReturn → OrderReturn}
    (hret : db.orderReturns.get? r = some ret) (j : Nat) :
    restockedQuantity (db.orderReturns.update r f) j =
      restockedQuantity db.orderReturns j - ret.restockedFor j + (f ret).restockedFor j :=
  Table.sum_update hret f fun _ ret => ret.restockedFor j

theorem restockedOnlySold_other (h : ShopInv db) (happened : ShopEffect db .other db')
    (bound : RestockedOnlySold db) : RestockedOnlySold db' := by
  have updated : ∀ {o : Nat} {order : Order} {f : Order → Order},
      db.orders.get? o = some order → (order.status.isSold = true → (f order).status.isSold = true) →
      ∀ o' r r', db.orders.get? o' = some r → (db.orders.update o f).get? o' = some r' →
        r.status.isSold = true → r'.status.isSold = true := by
    intro o order f found sold o' r r' hr hr'
    rw [Table.get?_update, hr] at hr'
    split at hr'
    · subst_vars
      rw [found] at hr
      obtain rfl := Option.some.inj hr
      exact Option.some.inj hr' ▸ sold
    · exact Option.some.inj hr' ▸ id
  have same : ∀ o r r', db.orders.get? o = some r → db.orders.get? o = some r' →
      r.status.isSold = true → r'.status.isSold = true := by
    intro o r r' hr hr'
    exact Option.some.inj (hr.symm.trans hr') ▸ id
  cases happened with
  | stock corrected notes =>
      exact h.restockedOnlySold_kept bound (fun j i hi => ⟨i, hi, rfl⟩) (fun _ => rfl) same
  | @place listings order rows _ _ _ placed reserved =>
      intro j i r hi hr
      have none : db.orderItems.get? j = none → restockedQuantity db.orderReturns j = 0 := by
        intro absent
        refine Table.sum_eq_zero fun k ret hret => ?_
        obtain ⟨-, -, -, item, hitem, -⟩ := h.returns.sound k ret hret
        unfold OrderReturn.restockedFor
        rw [if_neg]
        rintro ⟨rfl, -⟩
        rw [absent] at hitem
        cases hitem
      cases hj : db.orderItems.get? j with
      | none => exact Or.inr (none hj)
      | some old =>
          have : (rows.foldl Table.insert db.orderItems).get? j = some old :=
            Table.get?_insertAll_of_some hj
          obtain rfl : i = old := Option.some.inj (hi.symm.trans this)
          obtain ⟨kept, hkept⟩ := Option.isSome_iff_exists.mp (h.stock.ordered j i hj)
          obtain rfl : r = kept :=
            Option.some.inj (hr.symm.trans (Table.get?_insert_of_some hkept))
          exact bound j i r hj hkept
  | confirm found pending converted =>
      exact h.restockedOnlySold_kept bound (fun j i hi => ⟨i, hi, rfl⟩) (fun _ => rfl)
        (updated found fun _ => rfl)
  | release found pending closed deadline released =>
      refine h.restockedOnlySold_kept bound (fun j i hi => ⟨i, hi, rfl⟩) (fun _ => rfl)
        (updated found fun sold => ?_)
      rw [pending] at sold
      cases sold
  | forward found moves deadline cancelledAt =>
      refine h.restockedOnlySold_kept bound (fun j i hi => ⟨i, hi, rfl⟩) (fun _ => rfl)
        (updated found fun _ => ?_)
      rcases moves with ⟨-, after⟩ | ⟨-, after⟩ <;> rw [after] <;> rfl
  | @request o itemId performedBy request item found owner positive room =>
      refine h.restockedOnlySold_kept bound (fun j i hi => ?_) (fun j => ?_) same
      · obtain ⟨i', hi', ho, -⟩ := get?_addReturns hi
        exact ⟨i', hi', ho⟩
      · rw [restockedQuantity, Table.sum_insert, restockedQuantity]
        simp [OrderReturn.restockedFor, requestedReturn]
  | @advance o r ret item f found moves restock quantity itemId =>
      refine h.restockedOnlySold_kept bound (fun j i hi => ⟨i, hi, rfl⟩) (fun j => ?_) same
      have status : ret.status ≠ .completed ∧ (f ret).status ≠ .completed := by
        rcases moves with ⟨h₁, h₂⟩ | ⟨h₁, h₂⟩ | ⟨h₁, h₂⟩ <;> simp [h₁, h₂]
      rw [restockedQuantity_update found.row]
      simp [OrderReturn.restockedFor, status]
  | @cancelReturn o r ret item now found requested room =>
      refine h.restockedOnlySold_kept bound (fun j i hi => ?_) (fun j => ?_) same
      · obtain ⟨i', hi', ho, -⟩ := get?_addReturns hi
        exact ⟨i', hi', ho⟩
      · rw [restockedQuantity_update found.row]
        simp [OrderReturn.restockedFor, OrderReturn.cancel, requested]

/-- Cancelling a sale keeps the bound exactly when nothing came back before. -/
theorem restockedOnlySold_saleCancelled {o : Nat}
    (happened : ShopEffect db (.saleCancelled o) db') (bound : RestockedOnlySold db) :
    RestockedOnlySold db' ↔ Unreturned db o := by
  cases happened with
  | @cancelSale performedBy _ order stock cancelledBy reason now found confirmed restocked =>
      constructor
      · rintro within j item hitem rfl
        have := within j item (order.cancel cancelledBy reason now) hitem
          (by simp [Db.updateOrder, Db.withStock, found])
        simpa [Order.cancel, OrderStatus.isSold, Db.updateOrder, Db.withStock] using this
      · intro unreturned j item r hitem hr
        by_cases ho : item.orderId = o
        · exact Or.inr (unreturned j item hitem ho)
        · refine bound j item r hitem ?_
          simpa [Db.updateOrder, Db.withStock, Table.get?_update_of_ne _ _ ho] using hr

/-- Completing a return keeps the bound exactly when the order is sold or there
is nothing to put back. -/
theorem restockedOnlySold_returnCompleted (h : ShopInv db) {o r : Nat} {order : Order}
    {ret : OrderReturn} {item : OrderItem} (hget : db.orders.get? o = some order)
    (found : ReturnOf o r db ret item) (happened : ShopEffect db (.returnCompleted o r) db')
    (bound : RestockedOnlySold db) :
    RestockedOnlySold db' ↔ (0 < ret.restockQuantity → order.status.isSold = true) := by
  cases happened with
  | @completeReturn _ _ performedBy ret' item' l now found' inspected listing new reserved room =>
      obtain rfl : ret = ret' := Option.some.inj (found.row.symm.trans found'.row)
      have sum : ∀ j, restockedQuantity (db.orderReturns.update r (OrderReturn.complete now)) j =
          restockedQuantity db.orderReturns j +
            if ret.orderItemId = j then ret.restockQuantity else 0 := by
        intro j
        rw [restockedQuantity_update found.row]
        by_cases hj : ret.orderItemId = j <;>
          simp [OrderReturn.restockedFor, OrderReturn.complete, inspected, hj]
      constructor
      · intro within pos
        have there := within ret.orderItemId (item.addReturns ret.quantity (-ret.quantity)) order
          (by simp [found.itemRow])
          (by simpa [OrderItem.addReturns, found.owner, Db.withStock] using hget)
        refine there.resolve_right fun zero => ?_
        have nonneg : 0 ≤ restockedQuantity db.orderReturns ret.orderItemId :=
          Table.sum_nonneg h.restocked_nonneg
        rw [sum, if_pos rfl] at zero
        omega
      · intro sold j i' r' hi' hr'
        obtain ⟨i, hi, ho, -⟩ := get?_addReturns hi'
        rw [ho] at hr'
        rcases bound j i r' hi hr' with already | zero
        · exact Or.inl already
        · by_cases hj : ret.orderItemId = j
          · subst hj
            obtain rfl : item = i := Option.some.inj (found.itemRow.symm.trans hi)
            obtain rfl : order = r' := Option.some.inj (hget.symm.trans (found.owner ▸ hr'))
            by_cases pos : 0 < ret.restockQuantity
            · exact Or.inl (sold pos)
            · have := (h.returns.sound r ret found.row).nonneg
              refine Or.inr ?_
              rw [sum, if_pos rfl]
              omega
          · refine Or.inr ?_
            rw [sum, if_neg hj, zero, add_zero]

/-! ### One request -/

variable {digest : CanonicalRequest → String}

/-- The cancellation of a confirmed order is never refused to its owner. -/
theorem sale_cancellable (h : ShopInv db) {owner : Option Nat} {o : Nat} {order : Order}
    (hfind : findCancelled owner o db = some order) (confirmed : order.status = .confirmed)
    (cancelledBy : CancellationInitiator) (performedBy : Nat) (reason : CancellationReason)
    (now : Time) : ∃ db', cancelWith owner cancelledBy performedBy o reason now db = .ok db' := by
  have hget := (findCancelled_eq_some.mp hfind).1
  have uncancelled := h.sales.uncancelled o order hget (by simp [confirmed])
  have listed : ∀ e ∈ sortItems (db.itemsOf o),
      (db.stock.listings.get? e.2.productListingId).isSome := by
    intro e he
    obtain ⟨hitem, -⟩ := Table.mem_select.mp (mem_sortItems.mp he)
    exact h.stock.listed e.1 e.2 hitem
  obtain ⟨stock, restocked⟩ := restock_progress listed
  exact ⟨_, cancelWith_eq_ok.mpr ⟨order, hfind, uncancelled,
    Or.inr ⟨confirmed, stock, restocked, rfl⟩⟩⟩

/-- A cancellation, by its customer or the admin. -/
theorem restockedOnlySold_cancel (h : ShopInv db) (bound : RestockedOnlySold db)
    (owner : Option Nat) (cancelledBy : CancellationInitiator) (performedBy o : Nat)
    (reason : CancellationReason) (now : Time) :
    RestockedOnlySold (commit (cancelWith owner cancelledBy performedBy o reason now db) db) ↔
      ∀ order, findCancelled owner o db = some order → order.status = .confirmed →
        Unreturned db o := by
  cases tx : cancelWith owner cancelledBy performedBy o reason now db with
  | error e =>
      refine iff_of_true bound fun order hfind confirmed => ?_
      obtain ⟨db', ok⟩ := h.sale_cancellable hfind confirmed cancelledBy performedBy reason now
      rw [tx] at ok
      cases ok
  | ok db' =>
      rw [commit_ok]
      obtain ⟨order, hfind, -, ⟨pending, listings, released, rfl⟩ |
        ⟨confirmed, stock, restocked, rfl⟩⟩ := cancelWith_eq_ok.mp tx
      · have hget := (findCancelled_eq_some.mp hfind).1
        refine iff_of_true (h.restockedOnlySold_other (.release hget pending (Or.inl rfl)
          (by simp [Order.cancel, pending]) released) bound) fun order' hfind' confirmed => ?_
        obtain rfl : order = order' := Option.some.inj (hfind.symm.trans hfind')
        rw [pending] at confirmed
        cases confirmed
      · have hget := (findCancelled_eq_some.mp hfind).1
        rw [restockedOnlySold_saleCancelled (.cancelSale hget confirmed restocked) bound]
        constructor
        · intro unreturned order' _ _
          exact unreturned
        · intro all
          exact all order hfind confirmed

theorem restockedOnlySold_complete (h : ShopInv db) (bound : RestockedOnlySold db)
    (o r performedBy : Nat) (now : Time) :
    RestockedOnlySold (commit (completeOrderReturn o r performedBy now db) db) ↔
      ∀ order ret item, db.orders.get? o = some order → ReturnOf o r db ret item →
        ret.status = .inspected → 0 < ret.restockQuantity → order.status.isSold = true := by
  cases tx : completeOrderReturn o r performedBy now db with
  | error e =>
      refine iff_of_true bound fun order ret item _ found inspected _ => ?_
      obtain ⟨db', ok⟩ := h.returns.completable h.stock found inspected performedBy now
      rw [tx] at ok
      cases ok
  | ok db' =>
      rw [commit_ok]
      obtain ⟨ret, item, l, found, inspected, hl, hnew, reserved, room, rfl⟩ :=
        completeOrderReturn_eq_ok.mp tx
      obtain ⟨order, hget⟩ := Option.isSome_iff_exists.mp found.order
      rw [h.restockedOnlySold_returnCompleted hget found
        (.completeReturn found inspected hl hnew reserved room) bound]
      constructor
      · intro sold order' ret' item' hget' found' _ pos
        obtain rfl : order = order' := Option.some.inj (hget.symm.trans hget')
        obtain rfl : ret = ret' := Option.some.inj (found.row.symm.trans found'.row)
        exact sold pos
      · intro all
        exact all order ret item hget found inspected

/-- A request keeps the bound exactly when it puts back only sold goods. -/
theorem step_within_iff (digest : CanonicalRequest → String) (db : Db) (op : ShopOp)
    (h : ShopInv db) (within : ReturnedWithinSold db) :
    ReturnedWithinSold (shopStep digest db op) ↔ op.ReturnsSoldGoods db := by
  have bound := h.within_iff.mp within
  rw [(h.step op).within_iff]
  have other : (∀ event, op.causes event → event = .other) →
      RestockedOnlySold (shopStep digest db op) := by
    intro only
    rcases shopStep_effect digest db op with same | ⟨event, cause, happened⟩
    · exact same.symm ▸ bound
    · obtain rfl := only event cause
      exact h.restockedOnlySold_other happened bound
  cases op with
  | cancelOrder userId o reason now => exact h.restockedOnlySold_cancel bound ..
  | cancelOrderByAdmin o reason admin now => exact h.restockedOnlySold_cancel bound ..
  | completeOrderReturn o r performedBy now => exact h.restockedOnlySold_complete bound ..
  | _ => exact iff_of_true (other fun _ cause => cause) trivial

end ShopInv

/-! ### Over runs -/

/-- A confirmed order whose two units came back through a return and are put
back once more by the cancellation. -/
def restockedTwice : List ShopOp :=
  [sampleCreate, .confirmOrder 7 1,
    .requestOrderReturn 1 1 ⟨2, .changeOfMind, none, .customer, none⟩ 7,
    .authorizeOrderReturn 1 1 1, .receiveOrderReturn 1 1 2,
    .inspectOrderReturn 1 1 ⟨.asNew, 2, none, 7⟩ 3, .completeOrderReturn 1 1 7 4,
    .cancelOrderByAdmin 1 .other 7 5]

/-- Two units were sold and four came back. -/
theorem restockedTwice_exceeds : FreshShop sampleShop ∧
    ¬ ReturnedWithinSold (run (shopStep fun _ => "") sampleShop restockedTwice) := by
  refine ⟨sampleShop_fresh, fun within => ?_⟩
  have := within 1 _ rfl
  revert this
  decide

/-- Along a run what came back is within what was sold, after every request,
exactly when every request puts back only sold goods. -/
theorem returned_within_sold_iff (digest : CanonicalRequest → String) {db : Db}
    (fresh : FreshShop db) (ops : List ShopOp) :
    (∀ xs, xs <+: ops → ReturnedWithinSold (run (shopStep digest) db xs)) ↔
      ∀ t ∈ transitions (shopStep digest) db ops, t.2.ReturnsSoldGoods t.1 := by
  refine states_forall_iff (fun _ op inv => inv.step op)
    (fun db op inv within => inv.step_within_iff digest db op within) fresh.shopInv ?_ ops
  intro j item hitem
  simp [fresh.orderItems j] at hitem

theorem returned_within_sold_sample :
    (∀ xs, xs <+: restockedTwice →
        ReturnedWithinSold (run (shopStep fun _ => "") sampleShop xs)) ↔
      ∀ t ∈ transitions (shopStep fun _ => "") sampleShop restockedTwice,
        t.2.ReturnsSoldGoods t.1 :=
  returned_within_sold_iff (fun _ => "") sampleShop_fresh restockedTwice

end ColorfulLife
