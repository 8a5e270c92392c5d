/-
The reservation invariant.

A listing's `reservedStock` is the quantity of its items in pending orders, and
lies between zero and `currentStock`. Every effect keeps it (`StockInv.effect`,
from one lemma for each kind of change), and in a state that has it a pending
order can be confirmed, cancelled and expired.
-/

import ColorfulLife.Shop.Effects

namespace ColorfulLife

open Relational

/-! ### Pending quantities -/

/-- The order is there and pending. -/
def isPendingOrder (orders : Table Order) (orderId : Nat) : Bool :=
  (orders.get? orderId).any fun order => decide (order.status = .pending)

/-- The quantity of a listing in pending orders. -/
def pendingQuantity (orders : Table Order) (items : Table OrderItem) (k : Nat) : Int :=
  items.sum fun _ item =>
    if item.productListingId = k ∧ isPendingOrder orders item.orderId = true then item.quantity
    else 0

/-- The items of an order (`Db.itemsOf`, on the table alone). -/
def itemsIn (items : Table OrderItem) (orderId : Nat) : List (Nat × OrderItem) :=
  items.select fun _ item => decide (item.orderId = orderId)

section Pending

variable {orders : Table Order} {items : Table OrderItem} {k o : Nat} {order : Order}
  {f : Order → Order}

theorem isPendingOrder_iff : isPendingOrder orders o = true ↔
    ∃ order, orders.get? o = some order ∧ order.status = .pending := by
  unfold isPendingOrder
  cases orders.get? o <;> simp

theorem isPendingOrder_update (hget : orders.get? o = some order) (j : Nat) :
    isPendingOrder (orders.update o f) j =
      if j = o then decide ((f order).status = .pending) else isPendingOrder orders j := by
  unfold isPendingOrder
  by_cases h : j = o
  · subst h
    simp [hget]
  · rw [Table.get?_update_of_ne _ _ h, if_neg h]

theorem pendingQuantity_congr {orders' : Table Order}
    (same : ∀ j item, items.get? j = some item →
      isPendingOrder orders' item.orderId = isPendingOrder orders item.orderId) :
    pendingQuantity orders' items k = pendingQuantity orders items k := by
  refine Table.sum_congr fun j item hitem => ?_
  rw [same j item hitem]

theorem quantityOn_itemsIn : quantityOn k (itemsIn items o) = items.sum fun _ item =>
    if item.orderId = o then (if item.productListingId = k then item.quantity else 0) else 0 := by
  unfold quantityOn itemsIn
  rw [Table.sum_select items (fun _ item => decide (item.orderId = o))
    fun _ item => if item.productListingId = k then item.quantity else 0]
  simp only [decide_eq_true_eq]

/-- A pending order that stops being pending takes its items along. -/
theorem pendingQuantity_close (hget : orders.get? o = some order) (pending : order.status = .pending)
    (closed : (f order).status ≠ .pending) :
    pendingQuantity (orders.update o f) items k =
      pendingQuantity orders items k - quantityOn k (itemsIn items o) := by
  rw [quantityOn_itemsIn, pendingQuantity, pendingQuantity, ← Table.sum_sub]
  refine Table.sum_congr fun j item _ => ?_
  rw [isPendingOrder_update hget]
  by_cases h : item.orderId = o
  · have hp : isPendingOrder orders o = true := isPendingOrder_iff.mpr ⟨order, hget, pending⟩
    simp [h, hp, closed]
  · simp [h]

/-- A pending order's items are part of the pending quantity. -/
theorem quantityOn_le_pendingQuantity
    (pos : ∀ j item, items.get? j = some item → 0 < item.quantity)
    (pending : isPendingOrder orders o = true) :
    quantityOn k (itemsIn items o) ≤ pendingQuantity orders items k := by
  rw [quantityOn_itemsIn]
  refine Table.sum_le_sum fun j item hitem => ?_
  have hpos := pos j item hitem
  by_cases ho : item.orderId = o
  · by_cases hk : item.productListingId = k <;> simp [ho, hk, pending]
  · rw [if_neg ho]
    split <;> omega

end Pending

/-! ### The invariant -/

/-- The invariant, on the three tables it is about. -/
structure StockInv (listings : Table ProductListing) (orders : Table Order)
    (items : Table OrderItem) : Prop where
  positive : ∀ j item, items.get? j = some item → 0 < item.quantity
  ordered : ∀ j item, items.get? j = some item → (orders.get? item.orderId).isSome
  listed : ∀ j item, items.get? j = some item → (listings.get? item.productListingId).isSome
  uncancelled : ∀ j order, orders.get? j = some order → order.status = .pending →
    order.cancelledAt = none
  sound : ∀ k l, listings.get? k = some l → l.Sound
  reserved : ∀ k l, listings.get? k = some l → l.reservedStock = pendingQuantity orders items k

def Db.StockInv (db : Db) : Prop := ColorfulLife.StockInv db.listings db.orders db.orderItems

theorem FreshShop.stockInv {db : Db} (h : FreshShop db) : db.StockInv where
  positive := fun j item hitem => by simp [h.orderItems j] at hitem
  ordered := fun j item hitem => by simp [h.orderItems j] at hitem
  listed := fun j item hitem => by simp [h.orderItems j] at hitem
  uncancelled := fun j order hget => by simp [h.orders j] at hget
  sound := fun k l hl =>
    ⟨h.lifecycle k l hl, (h.reservedStock k l hl).ge,
      (h.reservedStock k l hl).trans_le (h.currentStock k l hl)⟩
  reserved := fun k l hl => by
    rw [h.reservedStock k l hl]
    refine (Table.sum_eq_zero fun j item hitem => ?_).symm
    simp [h.orderItems j] at hitem

namespace StockInv

variable {listings listings' : Table ProductListing} {orders : Table Order}
  {items : Table OrderItem} {o : Nat} {order : Order} {f : Order → Order}

/-! ### Changes that keep it -/

/-- Stock moves that leave reservations alone. -/
theorem listing (h : StockInv listings orders items)
    (rows : Table.Rows (fun _ => Shift 0) listings listings') : StockInv listings' orders items where
  positive := h.positive
  ordered := h.ordered
  listed := fun j item hitem => by
    obtain ⟨l, hl⟩ := Option.isSome_iff_exists.mp (h.listed j item hitem)
    obtain ⟨l', hl', -⟩ := rows.forward hl
    simp [hl']
  uncancelled := h.uncancelled
  sound := fun k l' hl' => by
    obtain ⟨l, hl, shift⟩ := rows.backward hl'
    exact shift.sound (h.sound k l hl)
  reserved := fun k l' hl' => by
    obtain ⟨l, hl, shift⟩ := rows.backward hl'
    rw [shift.reserved, h.reserved k l hl, add_zero]

/-- Stock corrections, which may add listings. -/
theorem corrected (h : StockInv listings orders items) (fixed : Corrected listings listings') :
    StockInv listings' orders items where
  positive := h.positive
  ordered := h.ordered
  listed := fun j item hitem => by
    obtain ⟨l, hl⟩ := Option.isSome_iff_exists.mp (h.listed j item hitem)
    obtain ⟨l', hl', -⟩ := fixed.kept _ l hl
    simp [hl']
  uncancelled := h.uncancelled
  sound := fun k l' hl' => by
    cases hl : listings.get? k with
    | none => exact (fixed.added k l' hl hl').1
    | some l =>
        obtain ⟨l₂, hl₂, shift⟩ := fixed.kept k l hl
        obtain rfl := Option.some.inj (hl₂.symm.trans hl')
        exact shift.sound (h.sound k l hl)
  reserved := fun k l' hl' => by
    cases hl : listings.get? k with
    | none =>
        rw [(fixed.added k l' hl hl').2]
        refine (Table.sum_eq_zero fun j item hitem => if_neg ?_).symm
        rintro ⟨rfl, -⟩
        have := h.listed j item hitem
        rw [hl] at this
        cases this
    | some l =>
        obtain ⟨l₂, hl₂, shift⟩ := fixed.kept k l hl
        obtain rfl := Option.some.inj (hl₂.symm.trans hl')
        rw [shift.reserved, h.reserved k l hl, add_zero]

/-- A pending order ends, and the listings give its reservation back. -/
theorem close (h : StockInv listings orders items) (hget : orders.get? o = some order)
    (pending : order.status = .pending) (closed : (f order).status ≠ .pending)
    (rows : Table.Rows (fun k => Shift (-1 * quantityOn k (sortItems (itemsIn items o))))
      listings listings') : StockInv listings' (orders.update o f) items where
  positive := h.positive
  ordered := fun j item hitem => by
    have := h.ordered j item hitem
    rw [Table.get?_update]
    split <;> simpa using this
  listed := fun j item hitem => by
    obtain ⟨l, hl⟩ := Option.isSome_iff_exists.mp (h.listed j item hitem)
    obtain ⟨l', hl', -⟩ := rows.forward hl
    simp [hl']
  uncancelled := fun j order' hget' hstatus => by
    rcases Table.update_cases hget hget' with ⟨-, rfl⟩ | ⟨-, hget'⟩
    · exact absurd hstatus closed
    · exact h.uncancelled j order' hget' hstatus
  sound := fun k l' hl' => by
    obtain ⟨l, hl, shift⟩ := rows.backward hl'
    exact shift.sound (h.sound k l hl)
  reserved := fun k l' hl' => by
    obtain ⟨l, hl, shift⟩ := rows.backward hl'
    rw [shift.reserved, h.reserved k l hl, pendingQuantity_close hget pending closed,
      quantityOn_sortItems]
    ring

/-- An order moves between two states that hold no reservation. -/
theorem move (h : StockInv listings orders items) (hget : orders.get? o = some order)
    (before : order.status ≠ .pending) (after : (f order).status ≠ .pending) :
    StockInv listings (orders.update o f) items where
  positive := h.positive
  ordered := fun j item hitem => by
    have := h.ordered j item hitem
    rw [Table.get?_update]
    split <;> simpa using this
  listed := h.listed
  uncancelled := fun j order' hget' hstatus => by
    rcases Table.update_cases hget hget' with ⟨-, rfl⟩ | ⟨-, hget'⟩
    · exact absurd hstatus after
    · exact h.uncancelled j order' hget' hstatus
  sound := h.sound
  reserved := fun k l hl => by
    rw [h.reserved k l hl]
    refine (pendingQuantity_congr fun j item _ => ?_).symm
    rw [isPendingOrder_update hget]
    split
    · rename_i ho
      simp [isPendingOrder, ho, hget, before, after]
    · rfl

/-- The return counters of an item are not part of the invariant. -/
theorem item_update (h : StockInv listings orders items) (j : Nat) (returned reserved : Int) :
    StockInv listings orders (items.update j (·.addReturns returned reserved)) := by
  refine ⟨?_, ?_, ?_, h.uncancelled, h.sound, ?_⟩
  · intro j' i' hi'
    obtain ⟨i, hi, -, -, hq⟩ := get?_addReturns hi'
    exact hq ▸ h.positive j' i hi
  · intro j' i' hi'
    obtain ⟨i, hi, ho, -, -⟩ := get?_addReturns hi'
    exact ho ▸ h.ordered j' i hi
  · intro j' i' hi'
    obtain ⟨i, hi, -, hk, -⟩ := get?_addReturns hi'
    exact hk ▸ h.listed j' i hi
  · intro k l hl
    rw [h.reserved k l hl, pendingQuantity, pendingQuantity, Table.update, Table.sum_modify]
    refine Table.sum_congr fun j' i _ => ?_
    by_cases hj : j' = j <;> simp [hj, OrderItem.addReturns]

/-- A pending order with its reserved items is added. -/
theorem place (h : StockInv listings orders items) {rows : List OrderItem}
    (pending : order.status = .pending) (uncancelled : order.cancelledAt = none)
    (positive : ∀ i ∈ rows, 0 < i.quantity) (owner : ∀ i ∈ rows, i.orderId = orders.nextId)
    (listed : ∀ i ∈ rows, (listings.get? i.productListingId).isSome)
    (shift : Table.Rows
      (fun k => Shift (rows.map fun i => if i.productListingId = k then i.quantity else 0).sum)
      listings listings') :
    StockInv listings' (orders.insert order) (rows.foldl Table.insert items) := by
  have there : ∀ k, (listings.get? k).isSome → (listings'.get? k).isSome := by
    intro k hk
    obtain ⟨l, hl⟩ := Option.isSome_iff_exists.mp hk
    obtain ⟨l', hl', -⟩ := shift.forward hl
    simp [hl']
  have old : ∀ j item, items.get? j = some item →
      isPendingOrder (orders.insert order) item.orderId = isPendingOrder orders item.orderId := by
    intro j item hitem
    obtain ⟨r, hr⟩ := Option.isSome_iff_exists.mp (h.ordered j item hitem)
    simp [isPendingOrder, Table.get?_insert_of_some hr, hr]
  refine ⟨?_, ?_, ?_, ?_, ?_, ?_⟩
  · intro j item hitem
    rcases Table.mem_insertAll hitem with hold | ⟨-, hnew⟩
    · exact h.positive j item hold
    · exact positive item hnew
  · intro j item hitem
    rcases Table.mem_insertAll hitem with hold | ⟨-, hnew⟩
    · obtain ⟨r, hr⟩ := Option.isSome_iff_exists.mp (h.ordered j item hold)
      simp [Table.get?_insert_of_some hr]
    · simp [owner item hnew]
  · intro j item hitem
    rcases Table.mem_insertAll hitem with hold | ⟨-, hnew⟩
    · exact there _ (h.listed j item hold)
    · exact there _ (listed item hnew)
  · intro j order' hget hstatus
    rcases Table.insert_cases hget with ⟨-, rfl⟩ | hget
    · exact uncancelled
    · exact h.uncancelled j order' hget hstatus
  · intro k l' hl'
    obtain ⟨l, hl, hshift⟩ := shift.backward hl'
    exact hshift.sound (h.sound k l hl)
  · intro k l' hl'
    obtain ⟨l, hl, hshift⟩ := shift.backward hl'
    rw [hshift.reserved, h.reserved k l hl]
    unfold pendingQuantity
    rw [Table.sum_insertAll rows (fun item =>
      if item.productListingId = k ∧
        isPendingOrder (orders.insert order) item.orderId = true then item.quantity else 0)]
    congr 1
    · exact (pendingQuantity_congr old).symm
    · refine congrArg List.sum (List.map_congr_left fun i hi => ?_)
      have hp : isPendingOrder (orders.insert order) i.orderId = true := by
        rw [owner i hi]
        exact isPendingOrder_iff.mpr ⟨order, by simp, pending⟩
      simp [hp]

end StockInv

/-! ### Every effect keeps it -/

namespace Db.StockInv

variable {db db' : Db} {o : Nat}

theorem items_positive (h : db.StockInv) (o : Nat) :
    ∀ e ∈ sortItems (db.itemsOf o), 0 < e.2.quantity := by
  intro e he
  exact h.positive e.1 e.2 (Table.mem_select.mp (mem_sortItems.mp he)).1

theorem effect (h : db.StockInv) {event : ShopEvent} (happened : ShopEffect db event db') :
    db'.StockInv := by
  cases happened with
  | stock corrected notes => exact StockInv.corrected h corrected
  | place placed reserved =>
      exact StockInv.place h placed.pending placed.uncancelled placed.positive placed.owner
        placed.listed (shift_reserve placed.positive reserved)
  | confirm found pending converted =>
      exact h.close found pending (by simp [Order.confirm])
        (shift_convert (h.items_positive _) converted)
  | release found pending closed deadline released =>
      refine h.close found pending ?_ (shift_release (h.items_positive _) released)
      rcases closed with closed | ⟨closed, -⟩ <;> simp [closed]
  | @cancelSale _ _ _ _ cancelledBy reason now found confirmed restocked =>
      have moved := h.move found (f := Order.cancel cancelledBy reason now) (by simp [confirmed])
        (by simp [Order.cancel])
      have rows := shift_restock (h.items_positive _) restocked
      simp only [zero_mul] at rows
      exact moved.listing rows
  | forward found moves =>
      rcases moves with ⟨before, after⟩ | ⟨before, after⟩
      · exact h.move found (by simp [before]) (by simp [after])
      · exact h.move found (by simp [before]) (by simp [after])
  | request => exact h.item_update _ _ _
  | advance => exact h
  | cancelReturn => exact h.item_update _ _ _
  | @completeReturn _ returnId performedBy ret item l now found inspected listing new =>
      have counted := h.item_update ret.orderItemId ret.quantity (-ret.quantity)
      by_cases hpos : 0 < ret.restockQuantity
      · have fixed : Corrected db.listings
            (db.listings.update item.productListingId (·.restock ret.restockQuantity)) :=
          Corrected.update listing rfl rfl fun sound => sound.restock hpos (new hpos)
        simpa [Db.StockInv, Db.withStock, restockReturn, hpos] using
          ColorfulLife.StockInv.corrected counted fixed
      · simpa [Db.StockInv, Db.withStock, restockReturn, hpos] using counted

/-- The step lemma. -/
theorem step {digest : CanonicalRequest → String} (h : db.StockInv) (op : ShopOp) :
    (shopStep digest db op).StockInv := by
  rcases shopStep_effect digest db op with same | ⟨event, -, happened⟩
  · exact same.symm ▸ h
  · exact h.effect happened

/-- The run lemma. -/
theorem run (digest : CanonicalRequest → String) (fresh : FreshShop db) (ops : List ShopOp) :
    (Relational.run (shopStep digest) db ops).StockInv :=
  run_invariant (I := Db.StockInv) (fun _ op h => h.step op) fresh.stockInv ops

/-! ### What a pending order can count on -/

theorem covered (h : db.StockInv) (pending : isPendingOrder db.orders o = true) :
    Covered (sortItems (db.itemsOf o)) db.listings := by
  refine ⟨fun e he => ⟨h.items_positive o e he, ?_⟩, fun k l hl => ⟨h.sound k l hl, ?_⟩⟩
  · exact h.listed e.1 e.2 (Table.mem_select.mp (mem_sortItems.mp he)).1
  · rw [quantityOn_sortItems, h.reserved k l hl]
    exact quantityOn_le_pendingQuantity h.positive pending

variable {order : Order} (h : db.StockInv) (hget : db.orders.get? o = some order)
  (pending : order.status = .pending)

include h hget pending

theorem confirmable (performedBy : Nat) :
    ∃ db', confirmOrderInTransaction performedBy o db = .ok db' := by
  have covered := h.covered (isPendingOrder_iff.mpr ⟨order, hget, pending⟩)
  obtain ⟨stock, hloop⟩ := convert_progress (s := db.stock) covered
  exact ⟨_, confirmOrderInTransaction_eq_ok.mpr ⟨order, stock, hget, pending, hloop, rfl⟩⟩

theorem cancellable {owner : Option Nat} (by_ : CancellationInitiator) (performedBy : Nat)
    (reason : CancellationReason) (now : Time)
    (owned : ∀ userId, owner = some userId → order.userId = userId) :
    ∃ db', cancelWith owner by_ performedBy o reason now db = .ok db' := by
  have covered := h.covered (isPendingOrder_iff.mpr ⟨order, hget, pending⟩)
  obtain ⟨listings, hloop⟩ := release_progress covered
  exact ⟨_, cancelWith_eq_ok.mpr ⟨order, findCancelled_eq_some.mpr ⟨hget, owned⟩,
    h.uncancelled o order hget pending, Or.inl ⟨pending, listings, hloop, rfl⟩⟩⟩

theorem expirable (asOf : Time) : ∃ db', expireOrderReservation o asOf db = .ok db' := by
  have covered := h.covered (isPendingOrder_iff.mpr ⟨order, hget, pending⟩)
  obtain ⟨listings, hloop⟩ := release_progress covered
  unfold expireOrderReservation
  simp only [hget]
  split
  · rw [hloop]
    exact ⟨_, rfl⟩
  · exact ⟨_, rfl⟩

end Db.StockInv

/-! ### The invariant over runs -/

/-- In every state a shop can reach, a listing's reservation is the quantity of
its items in pending orders and is covered by stock; so a pending order can be
confirmed, cancelled by the admin and by its customer, and expired. A
cancellation by anybody else is refused as not found. -/
theorem shop_reservation (digest : CanonicalRequest → String) {db : Db} (fresh : FreshShop db)
    (ops : List ShopOp) :
    (∀ k l, (run (shopStep digest) db ops).listings.get? k = some l →
      l.reservedStock = pendingQuantity (run (shopStep digest) db ops).orders
          (run (shopStep digest) db ops).orderItems k ∧
        0 ≤ l.reservedStock ∧ l.reservedStock ≤ l.currentStock) ∧
    ∀ o order, (run (shopStep digest) db ops).orders.get? o = some order →
      order.status = .pending →
      (∀ performedBy, ∃ db',
        confirmOrderInTransaction performedBy o (run (shopStep digest) db ops) = .ok db') ∧
      (∀ reason admin now, ∃ db',
        cancelOrderByAdmin o reason admin now (run (shopStep digest) db ops) = .ok db') ∧
      (∀ userId reason now e,
        cancelOrder userId o reason now (run (shopStep digest) db ops) = .error e →
          userId ≠ order.userId ∧ e = .orderNotFoundOrNotOwned o) ∧
      ∀ asOf, ∃ db', expireOrderReservation o asOf (run (shopStep digest) db ops) = .ok db' := by
  have inv := Db.StockInv.run digest fresh ops
  constructor
  · intro k l hl
    have sound := inv.sound k l hl
    exact ⟨inv.reserved k l hl, sound.reserved_nonneg, sound.reserved_le⟩
  · intro o order hget pending
    refine ⟨inv.confirmable hget pending, fun reason admin now => ?_, ?_, inv.expirable hget pending⟩
    · exact inv.cancellable hget pending .seller admin reason now (by simp)
    · intro userId reason now e herror
      by_cases howner : userId = order.userId
      · have owned : ∀ u, some userId = some u → order.userId = u := by
          intro u hu
          rw [← howner, Option.some.inj hu]
        obtain ⟨db', hok⟩ := inv.cancellable hget pending .customer userId reason now owned
        rw [cancelOrder, hok] at herror
        cases herror
      · refine ⟨howner, ?_⟩
        have hnone : findCancelled (some userId) o (run (shopStep digest) db ops) = none := by
          simp [findCancelled, hget, Ne.symm howner]
        rw [cancelOrder, cancelWith, hnone] at herror
        exact (Except.error.inj herror).symm

/-- The sample shop after an order for two units: the order can be confirmed. -/
theorem shop_reservation_sample : ∃ db',
    confirmOrderInTransaction 7 1 (run (shopStep fun _ => "") sampleShop [sampleCreate]) =
      .ok db' :=
  ((shop_reservation (fun _ => "") sampleShop_fresh [sampleCreate]).2 1 _ rfl rfl).1 7

end ColorfulLife
