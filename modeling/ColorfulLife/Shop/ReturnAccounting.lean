/-
The return accounting invariant.

The two counters of an order item are sums over its returns: what is reserved
is the quantity of the open returns, what is returned the quantity of the
completed ones, and together they fit into the item. Every effect keeps this
(`ReturnsInv.effect`), and with it the completion of an inspected return is
never refused.
-/

import ColorfulLife.Shop.Reservation

namespace ColorfulLife

open Relational

/-! ### Sums over returns -/

/-- The states in which a return holds a reservation on its item. -/
def OrderReturnStatus.isOpen : OrderReturnStatus → Bool
  | .requested | .authorized | .received | .inspected => true
  | .completed | .rejected | .cancelled => false

/-- What one return contributes to the sums of item `j`. -/
def OrderReturn.openFor (j : Nat) (ret : OrderReturn) : Int :=
  if ret.orderItemId = j ∧ ret.status.isOpen = true then ret.quantity else 0

def OrderReturn.completedFor (j : Nat) (ret : OrderReturn) : Int :=
  if ret.orderItemId = j ∧ ret.status = .completed then ret.quantity else 0

def OrderReturn.restockedFor (j : Nat) (ret : OrderReturn) : Int :=
  if ret.orderItemId = j ∧ ret.status = .completed then ret.restockQuantity else 0

def openQuantity (returns : Table OrderReturn) (j : Nat) : Int :=
  returns.sum fun _ ret => ret.openFor j

def completedQuantity (returns : Table OrderReturn) (j : Nat) : Int :=
  returns.sum fun _ ret => ret.completedFor j

def restockedQuantity (returns : Table OrderReturn) (j : Nat) : Int :=
  returns.sum fun _ ret => ret.restockedFor j

/-! ### The invariant -/

/-- What every return row satisfies. -/
structure SoundReturn (db : Db) (ret : OrderReturn) : Prop where
  positive : 0 < ret.quantity
  nonneg : 0 ≤ ret.restockQuantity
  le : ret.restockQuantity ≤ ret.quantity
  item : ∃ item, db.orderItems.get? ret.orderItemId = some item ∧
    (0 < ret.restockQuantity →
      ret.condition = some .asNew ∧ isNewListing db.listings item.productListingId = true)

structure ReturnsInv (db : Db) : Prop where
  reserved : ∀ j item, db.orderItems.get? j = some item →
    item.reservedReturnQuantity = openQuantity db.orderReturns j
  returned : ∀ j item, db.orderItems.get? j = some item →
    item.returnedQuantity = completedQuantity db.orderReturns j
  total : ∀ j item, db.orderItems.get? j = some item →
    item.returnedQuantity + item.reservedReturnQuantity ≤ item.quantity
  sound : ∀ r ret, db.orderReturns.get? r = some ret → SoundReturn db ret

theorem FreshShop.returnsInv {db : Db} (h : FreshShop db) : ReturnsInv db where
  reserved := fun j item hitem => by simp [h.orderItems j] at hitem
  returned := fun j item hitem => by simp [h.orderItems j] at hitem
  total := fun j item hitem => by simp [h.orderItems j] at hitem
  sound := fun r ret hret => by simp [h.orderReturns r] at hret

/-! ### Conditions never change -/

theorem Corrected.isNewListing_eq {t t' : Table ProductListing} (h : Corrected t t') {k : Nat}
    (there : (t.get? k).isSome) : isNewListing t' k = isNewListing t k := by
  obtain ⟨l, hl⟩ := Option.isSome_iff_exists.mp there
  obtain ⟨l', hl', shift⟩ := h.kept k l hl
  simp [isNewListing, hl, hl', shift.condition]

/-- A listing keeps its condition through every effect. -/
theorem ShopEffect.isNewListing_eq {db db' : Db} (inv : db.StockInv)
    {event : ShopEvent} (happened : ShopEffect db event db') {k : Nat}
    (there : (db.listings.get? k).isSome) :
    isNewListing db'.listings k = isNewListing db.listings k := by
  have shifted : ∀ {δ : Nat → Int} {t t' : Table ProductListing},
      Table.Rows (fun k => Shift (δ k)) t t' → isNewListing t' k = isNewListing t k :=
    fun rows => isNewListing_rows (rows.mono fun _ _ _ shift => shift.condition) k
  cases happened with
  | stock corrected notes => exact corrected.isNewListing_eq there
  | place placed reserved => exact shifted (shift_reserve placed.positive reserved)
  | confirm found pending converted =>
      exact shifted (shift_convert (inv.items_positive _) converted)
  | release found pending closed deadline released =>
      exact shifted (shift_release (inv.items_positive _) released)
  | cancelSale found confirmed restocked =>
      exact shifted (shift_restock (inv.items_positive _) restocked)
  | forward | request | advance | cancelReturn => rfl
  | @completeReturn _ returnId performedBy ret item =>
      by_cases hpos : 0 < ret.restockQuantity
      · have rows : Table.Rows (fun _ l l' => l'.condition = l.condition) db.listings
            (db.listings.update item.productListingId (·.restock ret.restockQuantity)) :=
          Table.rows_update (fun _ _ => rfl) fun _ _ _ => rfl
        simpa [Db.withStock, restockReturn, hpos] using isNewListing_rows rows k
      · simp [Db.withStock, restockReturn, hpos]

/-- A return row stays sound while its item and its item's listing keep what it
depends on. -/
theorem SoundReturn.transfer {db db' : Db} (inv : db.StockInv) {event : ShopEvent}
    (happened : ShopEffect db event db') {ret : OrderReturn} (h : SoundReturn db ret)
    (kept : ∀ item, db.orderItems.get? ret.orderItemId = some item →
      ∃ item', db'.orderItems.get? ret.orderItemId = some item' ∧
        item'.productListingId = item.productListingId) : SoundReturn db' ret := by
  obtain ⟨positive, nonneg, le, item, hitem, hnew⟩ := h
  obtain ⟨item', hitem', hlisting⟩ := kept item hitem
  refine ⟨positive, nonneg, le, item', hitem', fun hpos => ⟨(hnew hpos).1, ?_⟩⟩
  rw [hlisting, happened.isNewListing_eq inv (inv.listed _ item hitem)]
  exact (hnew hpos).2

namespace ReturnsInv

variable {db db' : Db} {event : ShopEvent}

/-- The invariant under a change of one return row and of its item's counters. -/
theorem move (h : ReturnsInv db) (inv : db.StockInv) (happened : ShopEffect db event db') {r : Nat}
    {ret : OrderReturn} {f : OrderReturn → OrderReturn} {item : OrderItem}
    {returned reserved : Int} (hret : db.orderReturns.get? r = some ret)
    (hitem : db.orderItems.get? ret.orderItemId = some item)
    (items : db'.orderItems =
      db.orderItems.update ret.orderItemId (·.addReturns returned reserved))
    (returns : db'.orderReturns = db.orderReturns.update r f)
    (open_ : ∀ j, (f ret).openFor j = ret.openFor j + if ret.orderItemId = j then reserved else 0)
    (completed : ∀ j,
      (f ret).completedFor j = ret.completedFor j + if ret.orderItemId = j then returned else 0)
    (room : item.returnedQuantity + returned + (item.reservedReturnQuantity + reserved) ≤
      item.quantity)
    (sound : SoundReturn db (f ret)) : ReturnsInv db' := by
  have items_kept : ∀ j i, db.orderItems.get? j = some i → ∃ i', db'.orderItems.get? j = some i' ∧
      i'.productListingId = i.productListingId := by
    intro j i hi
    rw [items, Table.get?_update, hi]
    split
    · exact ⟨_, rfl, rfl⟩
    · exact ⟨i, rfl, rfl⟩
  have opens : ∀ j, openQuantity db'.orderReturns j =
      openQuantity db.orderReturns j + if ret.orderItemId = j then reserved else 0 := by
    intro j
    rw [openQuantity, returns, Table.sum_update hret f fun _ ret => ret.openFor j, open_,
      openQuantity]
    ring
  have completes : ∀ j, completedQuantity db'.orderReturns j =
      completedQuantity db.orderReturns j + if ret.orderItemId = j then returned else 0 := by
    intro j
    rw [completedQuantity, returns, Table.sum_update hret f fun _ ret => ret.completedFor j,
      completed, completedQuantity]
    ring
  have row : ∀ j i', db'.orderItems.get? j = some i' → ∃ i, db.orderItems.get? j = some i ∧
      ((j = ret.orderItemId ∧ i = item ∧ i' = i.addReturns returned reserved) ∨
        (j ≠ ret.orderItemId ∧ i' = i)) := by
    intro j i' hi'
    rw [items] at hi'
    rcases Table.update_cases hitem hi' with ⟨rfl, rfl⟩ | ⟨other, hi'⟩
    · exact ⟨item, hitem, Or.inl ⟨rfl, rfl, rfl⟩⟩
    · exact ⟨i', hi', Or.inr ⟨other, rfl⟩⟩
  refine ⟨?_, ?_, ?_, ?_⟩
  · intro j i' hi'
    obtain ⟨i, hi, ⟨rfl, rfl, rfl⟩ | ⟨hj, rfl⟩⟩ := row j i' hi'
    · rw [opens, if_pos rfl, ← h.reserved _ _ hi]
      rfl
    · rw [opens, if_neg (Ne.symm hj), add_zero, h.reserved _ _ hi]
  · intro j i' hi'
    obtain ⟨i, hi, ⟨rfl, rfl, rfl⟩ | ⟨hj, rfl⟩⟩ := row j i' hi'
    · rw [completes, if_pos rfl, ← h.returned _ _ hi]
      rfl
    · rw [completes, if_neg (Ne.symm hj), add_zero, h.returned _ _ hi]
  · intro j i' hi'
    obtain ⟨i, hi, ⟨rfl, rfl, rfl⟩ | ⟨hj, rfl⟩⟩ := row j i' hi'
    · exact room
    · exact h.total _ _ hi
  · intro r' ret' hret'
    rw [returns] at hret'
    rcases Table.update_cases hret hret' with ⟨rfl, rfl⟩ | ⟨-, hret'⟩
    · exact sound.transfer inv happened fun i hi => items_kept _ i hi
    · exact (h.sound r' ret' hret').transfer inv happened fun i hi => items_kept _ i hi

/-- The invariant under effects that touch neither returns nor old items. -/
theorem frame (h : ReturnsInv db) (inv : db.StockInv) (happened : ShopEffect db event db')
    (items : db'.orderItems = db.orderItems) (returns : db'.orderReturns = db.orderReturns) :
    ReturnsInv db' := by
  refine ⟨?_, ?_, ?_, ?_⟩
  · rw [items, returns]
    exact h.reserved
  · rw [items, returns]
    exact h.returned
  · rw [items]
    exact h.total
  · rw [returns]
    exact fun r ret hret =>
      (h.sound r ret hret).transfer inv happened fun item hitem => ⟨item, items ▸ hitem, rfl⟩

/-- No return is for an item that does not exist. -/
theorem sums_of_absent (h : ReturnsInv db) {j : Nat} (absent : db.orderItems.get? j = none) :
    openQuantity db.orderReturns j = 0 ∧ completedQuantity db.orderReturns j = 0 := by
  have other : ∀ r ret, db.orderReturns.get? r = some ret → ret.orderItemId ≠ j := by
    rintro r ret hret rfl
    obtain ⟨item, hitem, -⟩ := (h.sound r ret hret).item
    rw [absent] at hitem
    cases hitem
  refine ⟨Table.sum_eq_zero fun r ret hret => ?_, Table.sum_eq_zero fun r ret hret => ?_⟩
  · exact if_neg fun both => other r ret hret both.1
  · exact if_neg fun both => other r ret hret both.1

theorem effect (h : ReturnsInv db) (inv : db.StockInv) (happened : ShopEffect db event db') :
    ReturnsInv db' := by
  have again := happened
  cases happened with
  | stock | confirm | release | cancelSale | forward => exact h.frame inv again rfl rfl
  | @place listings order rows cartItems cartProvenance cartAllocations placed reserved =>
      have row : ∀ j i, (rows.foldl Table.insert db.orderItems).get? j = some i →
          db.orderItems.get? j = some i ∨ (db.orderItems.get? j = none ∧
            i.returnedQuantity = 0 ∧ i.reservedReturnQuantity = 0 ∧ 0 < i.quantity) := by
        intro j i hi
        rcases Table.mem_insertAll hi with old | ⟨hj, hnew⟩
        · exact Or.inl old
        · exact Or.inr ⟨Table.get?_of_nextId_le _ hj, (placed.unreturned i hnew).1,
            (placed.unreturned i hnew).2, placed.positive i hnew⟩
      refine ⟨fun j i hi => ?_, fun j i hi => ?_, fun j i hi => ?_, fun r ret hret => ?_⟩
      · rcases row j i hi with old | ⟨absent, -, hzero, -⟩
        · exact h.reserved j i old
        · rw [hzero]
          exact (h.sums_of_absent absent).1.symm
      · rcases row j i hi with old | ⟨absent, hzero, -, -⟩
        · exact h.returned j i old
        · rw [hzero]
          exact (h.sums_of_absent absent).2.symm
      · rcases row j i hi with old | ⟨-, hreturned, hreserved, hpos⟩
        · exact h.total j i old
        · omega
      · exact (h.sound r ret hret).transfer inv again fun item hitem =>
          ⟨item, Table.get?_insertAll_of_some hitem, rfl⟩
  | @request orderId itemId performedBy request item found owner positive room =>
      have items_kept : ∀ j i, db.orderItems.get? j = some i →
          ∃ i', (db.orderItems.update itemId (·.addReturns 0 request.quantity)).get? j =
            some i' ∧ i'.productListingId = i.productListingId := by
        intro j i hi
        rw [Table.get?_update, hi]
        split
        · exact ⟨_, rfl, rfl⟩
        · exact ⟨i, rfl, rfl⟩
      have row : ∀ j i', (db.orderItems.update itemId (·.addReturns 0 request.quantity)).get? j =
          some i' → ∃ i, db.orderItems.get? j = some i ∧
            ((itemId = j ∧ i = item ∧ i' = i.addReturns 0 request.quantity) ∨
              (itemId ≠ j ∧ i' = i)) := by
        intro j i' hi'
        rw [Table.get?_update] at hi'
        split at hi'
        · subst_vars
          rw [found] at hi'
          exact ⟨item, found, Or.inl ⟨rfl, rfl, (Option.some.inj hi').symm⟩⟩
        · exact ⟨i', hi', Or.inr ⟨Ne.symm ‹_›, rfl⟩⟩
      have sum : ∀ g : OrderReturn → Int,
          ((db.orderReturns.insert (requestedReturn itemId performedBy request)).sum fun _ => g) =
            (db.orderReturns.sum fun _ => g) + g (requestedReturn itemId performedBy request) :=
        fun g => Table.sum_insert _ _ _
      refine ⟨fun j i' hi' => ?_, fun j i' hi' => ?_, fun j i' hi' => ?_, fun r ret hret => ?_⟩
      · unfold openQuantity
        obtain ⟨i, hi, ⟨rfl, rfl, rfl⟩ | ⟨hj, rfl⟩⟩ := row j i' hi'
        · rw [sum, ← openQuantity, ← h.reserved _ _ hi]
          simp [OrderReturn.openFor, requestedReturn, OrderItem.addReturns,
            OrderReturnStatus.isOpen]
        · rw [sum, ← openQuantity, ← h.reserved _ _ hi]
          simp [OrderReturn.openFor, requestedReturn, hj]
      · unfold completedQuantity
        obtain ⟨i, hi, ⟨rfl, rfl, rfl⟩ | ⟨hj, rfl⟩⟩ := row j i' hi'
        · rw [sum, ← completedQuantity, ← h.returned _ _ hi]
          simp [OrderReturn.completedFor, requestedReturn, OrderItem.addReturns]
        · rw [sum, ← completedQuantity, ← h.returned _ _ hi]
          simp [OrderReturn.completedFor, requestedReturn]
      · obtain ⟨i, hi, ⟨rfl, rfl, rfl⟩ | ⟨hj, rfl⟩⟩ := row j i' hi'
        · simp only [OrderItem.addReturns]
          omega
        · exact h.total _ _ hi
      · rcases Table.insert_cases hret with ⟨-, rfl⟩ | hret
        · refine SoundReturn.transfer inv again ⟨positive, le_rfl, positive.le, item, found, ?_⟩
            fun i hi => items_kept _ i hi
          intro hpos
          cases hpos
        · exact (h.sound r ret hret).transfer inv again fun i hi => items_kept _ i hi
  | @advance orderId returnId ret item f found moves restock quantity itemId =>
      have status : ret.status.isOpen = true ∧ (f ret).status.isOpen = true ∧
          ret.status ≠ .completed ∧ (f ret).status ≠ .completed := by
        rcases moves with ⟨h₁, h₂⟩ | ⟨h₁, h₂⟩ | ⟨h₁, h₂⟩ <;> simp [h₁, h₂, OrderReturnStatus.isOpen]
      obtain ⟨positive, nonneg, le, item', hitem', hnew⟩ := h.sound returnId ret found.row
      have unmoved : db.orderItems.update ret.orderItemId (·.addReturns 0 0) = db.orderItems :=
        Table.update_eq_self fun i => by simp [OrderItem.addReturns]
      refine h.move inv again found.row found.itemRow unmoved.symm rfl ?_ ?_ ?_ ?_
      · intro j
        simp [OrderReturn.openFor, itemId, quantity, status]
      · intro j
        simp [OrderReturn.completedFor, status]
      · simpa using h.total _ _ found.itemRow
      · rcases restock with ⟨same, condition⟩ | ⟨nonneg', le', hnew'⟩
        · refine ⟨quantity ▸ positive, same ▸ nonneg, by rw [same, quantity]; exact le, item',
            itemId ret ▸ hitem', ?_⟩
          rw [same, condition]
          exact hnew
        · refine ⟨quantity ▸ positive, nonneg', quantity ▸ le', item, itemId ret ▸ found.itemRow, hnew'⟩
  | @cancelReturn orderId returnId ret item now found requested room =>
      obtain ⟨positive, nonneg, le, item', hitem', hnew⟩ := h.sound returnId ret found.row
      have total := h.total _ _ found.itemRow
      refine h.move inv again found.row found.itemRow rfl rfl ?_ ?_ ?_ ?_
      · intro j
        by_cases hj : ret.orderItemId = j <;>
          simp [OrderReturn.openFor, OrderReturn.cancel, hj, requested, OrderReturnStatus.isOpen]
      · intro j
        simp [OrderReturn.completedFor, OrderReturn.cancel, requested]
      · omega
      · exact ⟨positive, nonneg, le, item', hitem', hnew⟩
  | @completeReturn orderId returnId performedBy ret item l now found inspected listing new
      reserved room =>
      obtain ⟨positive, nonneg, le, item', hitem', hnew⟩ := h.sound returnId ret found.row
      have total := h.total _ _ found.itemRow
      refine h.move inv again found.row found.itemRow rfl rfl ?_ ?_ ?_ ?_
      · intro j
        by_cases hj : ret.orderItemId = j <;>
          simp [OrderReturn.openFor, OrderReturn.complete, hj, inspected, OrderReturnStatus.isOpen]
      · intro j
        by_cases hj : ret.orderItemId = j <;>
          simp [OrderReturn.completedFor, OrderReturn.complete, hj, inspected]
      · omega
      · exact ⟨positive, nonneg, le, item', hitem', hnew⟩

theorem step {digest : CanonicalRequest → String} (h : ReturnsInv db) (inv : db.StockInv)
    (op : ShopOp) : ReturnsInv (shopStep digest db op) := by
  rcases shopStep_effect digest db op with same | ⟨event, -, happened⟩
  · exact same.symm ▸ h
  · exact h.effect inv happened

/-! ### What an inspected return can count on -/

/-- An inspected return has its quantity reserved and room to be counted as
returned. -/
theorem inspected_room (h : ReturnsInv db) {orderId returnId : Nat} {ret : OrderReturn}
    {item : OrderItem} (found : ReturnOf orderId returnId db ret item)
    (inspected : ret.status = .inspected) :
    ret.quantity ≤ item.reservedReturnQuantity ∧
      item.returnedQuantity + ret.quantity ≤ item.quantity := by
  have reserved : ret.quantity ≤ item.reservedReturnQuantity := by
    rw [h.reserved _ _ found.itemRow, openQuantity]
    have nonneg : ∀ r ret', db.orderReturns.get? r = some ret' →
        0 ≤ ret'.openFor ret.orderItemId := by
      intro r ret' hret'
      have := (h.sound r ret' hret').positive
      unfold OrderReturn.openFor
      split <;> omega
    have own : ret.openFor ret.orderItemId = ret.quantity := by
      simp [OrderReturn.openFor, inspected, OrderReturnStatus.isOpen]
    exact own ▸ Table.single_le_sum nonneg found.row
  have := h.total _ _ found.itemRow
  omega

/-- Completing an inspected return succeeds. -/
theorem completable (h : ReturnsInv db) (inv : db.StockInv) {orderId returnId : Nat}
    {ret : OrderReturn} {item : OrderItem} (found : ReturnOf orderId returnId db ret item)
    (inspected : ret.status = .inspected) (performedBy : Nat) (now : Time) :
    ∃ db', completeOrderReturn orderId returnId performedBy now db = .ok db' := by
  obtain ⟨l, hl⟩ := Option.isSome_iff_exists.mp (inv.listed _ _ found.itemRow)
  obtain ⟨reserved, room⟩ := h.inspected_room found inspected
  refine ⟨_, completeOrderReturn_eq_ok.mpr
    ⟨ret, item, l, found, inspected, hl, fun hpos => ?_, reserved, room, rfl⟩⟩
  obtain ⟨-, -, -, item', hitem', hnew⟩ := h.sound returnId ret found.row
  obtain rfl : item = item' := Option.some.inj (found.itemRow.symm.trans hitem')
  simpa [isNewListing, hl] using (hnew hpos).2

end ReturnsInv

end ColorfulLife
