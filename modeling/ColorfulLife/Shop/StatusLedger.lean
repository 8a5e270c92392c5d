/-
What the status of an order says about stock, over whole runs.

`order_cases` says what one committed request does to an order row, `History`
what it leaves behind. From the two, the status of an order, together with
whether it was ever confirmed, determines every movement of its items.
-/

import ColorfulLife.Shop.Booking
import ColorfulLife.Shop.Goods
import Mathlib.Data.List.Induction

namespace ColorfulLife

open Relational

/-! ### The law -/

/-- The status graph. -/
def OrderStatus.MovesTo : OrderStatus → OrderStatus → Prop
  | .pending, next => next = .confirmed ∨ next = .expired ∨ next = .cancelled
  | .confirmed, next => next = .dispatched ∨ next = .cancelled
  | .dispatched, next => next = .completed
  | _, _ => False

/-- A row that one request leaves is new and pending, the old one, or one step
along the graph. -/
def StatusStep (db db' : Db) : Prop :=
  (∀ o order', db'.orders.get? o = some order' →
    (db.orders.get? o = none ∧ order'.status = .pending) ∨
      ∃ order, db.orders.get? o = some order ∧
        (order'.status = order.status ∨ order.status.MovesTo order'.status)) ∧
    ∀ o, (db.orders.get? o).isSome → (db'.orders.get? o).isSome

/-- The movements of an item, for an order that was (`sold`) or was not confirmed
at some time; `new` tells whether the item's listing is new. -/
def RecordedExactly (status : OrderStatus) (sold : Prop) (new : Bool) (item : OrderItem)
    (movements : List InventoryMovement) : Prop :=
  match status with
  | .pending | .expired => movements = []
  | .confirmed | .dispatched | .completed =>
      ∃ p, movements = [saleMovement p item.orderId item]
  | .cancelled => (¬ sold → movements = []) ∧ (sold → ∃ p p',
      movements = saleMovement p item.orderId item ::
        if new then [cancellationMovement p' item.orderId item] else [])
  | .returned => False

/-- The movements a request appends are noted with an order exactly when they
are of a transition of that order. -/
def ShopOp.NotesMovedOrder (op : ShopOp) (db db' : Db) : Prop :=
  ∃ ns, db'.movements = db.movements ++ ns ∧ ∀ m ∈ ns, op.mayNote m.note

section

variable (digest : CanonicalRequest → String)

/-- The order was confirmed in some state of the run. -/
def WasConfirmed (db : Db) (ops : List ShopOp) (orderId : Nat) : Prop :=
  ∃ xs order, xs <+: ops ∧ (run (shopStep digest) db xs).orders.get? orderId = some order ∧
    order.status = .confirmed

end

/-! ### One committed request -/

/-- What one request did to the row of an order. -/
inductive OrderChange (db : Db) (o : Nat) (order' : Order) : Prop where
  | same (found : db.orders.get? o = some order')
  | placed (absent : db.orders.get? o = none) (pending : order'.status = .pending)
  | moved {order : Order} (found : db.orders.get? o = some order)
      (moves : order.status.MovesTo order'.status)
      (deadline : order'.reservationExpiresAt = none ∨
        order.status ≠ .pending ∧ order'.reservationExpiresAt = order.reservationExpiresAt)

/-- What every request leaves in place: movements are appended, orders stay, and
an order gets no item after it is placed. -/
structure History (db db' : Db) : Prop where
  movements : db.movements <+: db'.movements
  orders : ∀ o, (db.orders.get? o).isSome → (db'.orders.get? o).isSome
  items : ∀ j item', db'.orderItems.get? j = some item' → (db.orders.get? item'.orderId).isSome →
    ∃ item, db.orderItems.get? j = some item ∧ item'.orderId = item.orderId ∧
      item'.productListingId = item.productListingId

namespace History

variable {db db' db'' : Db}

theorem refl (db : Db) : History db db :=
  ⟨List.prefix_rfl, fun _ h => h, fun _ item hitem _ => ⟨item, hitem, rfl, rfl⟩⟩

theorem trans (h : History db db') (h' : History db' db'') : History db db'' where
  movements := h.movements.trans h'.movements
  orders := fun o there => h'.orders o (h.orders o there)
  items := fun j item'' hitem there => by
    obtain ⟨item', hitem', ho, hk⟩ := h'.items j item'' hitem (h.orders _ there)
    obtain ⟨item, hitem, ho', hk'⟩ := h.items j item' hitem' (ho ▸ there)
    exact ⟨item, hitem, ho.trans ho', hk.trans hk'⟩

/-- Items change their return counters at most. -/
theorem update {o j : Nat} {a b : Int} {f : Order → Order}
    (movements : db.movements <+: db'.movements) (orders : db'.orders = db.orders.update o f)
    (items : db'.orderItems = db.orderItems.update j (·.addReturns a b)) : History db db' where
  movements := movements
  orders := fun k there => by
    rw [orders, Table.get?_update]
    split <;> simpa using there
  items := fun k item' hitem _ => by
    obtain ⟨item, hitem, ho, hk, -⟩ := get?_addReturns (items ▸ hitem)
    exact ⟨item, hitem, ho, hk⟩

end History

namespace ShopEffect

variable {db db' : Db} {event : ShopEvent}

theorem order_cases (happened : ShopEffect db event db') {o : Nat} {order' : Order}
    (hget : db'.orders.get? o = some order') : OrderChange db o order' := by
  have updated : ∀ {k : Nat} {order : Order} {f : Order → Order},
      db.orders.get? k = some order → db'.orders = db.orders.update k f →
      order.status.MovesTo (f order).status →
      ((f order).reservationExpiresAt = none ∨ order.status ≠ .pending ∧
        (f order).reservationExpiresAt = order.reservationExpiresAt) →
      OrderChange db o order' := by
    intro k order f found same moves deadline
    rw [same] at hget
    rcases Table.update_cases found hget with ⟨rfl, rfl⟩ | ⟨-, hget⟩
    · exact .moved found moves deadline
    · exact .same hget
  cases happened with
  | place placed reserved =>
      rcases Table.insert_cases hget with ⟨rfl, rfl⟩ | hget
      · exact .placed (Table.get?_nextId _) placed.pending
      · exact .same hget
  | confirm found pending =>
      apply updated found rfl
      · rw [pending]
        exact Or.inl rfl
      · exact Or.inl rfl
  | release found pending closed deadline =>
      apply updated found rfl
      · rw [pending]
        rcases closed with closed | ⟨closed, -⟩
        · exact Or.inr (Or.inr closed)
        · exact Or.inr (Or.inl closed)
      · exact Or.inl deadline
  | cancelSale found confirmed =>
      apply updated found rfl
      · rw [confirmed]
        exact Or.inr rfl
      · exact Or.inr ⟨by simp [confirmed], by simp [Order.cancel, confirmed]⟩
  | forward found moves deadline =>
      apply updated found rfl
      · rcases moves with ⟨before, after⟩ | ⟨before, after⟩ <;> rw [before]
        · exact Or.inl after
        · exact after
      · refine Or.inr ⟨?_, deadline⟩
        rcases moves with ⟨before, -⟩ | ⟨before, -⟩ <;> simp [before]
  | _ => exact .same hget

theorem history (happened : ShopEffect db event db') : History db db' := by
  have still : db.orders.update 0 id = db.orders := Table.update_eq_self fun _ => rfl
  have unmoved : ∀ j, db.orderItems.update j (·.addReturns 0 0) = db.orderItems :=
    fun j => Table.update_eq_self fun i => by simp [OrderItem.addReturns]
  cases happened with
  | stock => exact .update (List.prefix_append ..) still.symm (unmoved 0).symm
  | place placed reserved =>
      refine ⟨List.prefix_rfl, fun o there => ?_, fun j item hitem there => ?_⟩
      · obtain ⟨order, found⟩ := Option.isSome_iff_exists.mp there
        simp [Table.get?_insert_of_some found]
      · rcases Table.mem_insertAll hitem with old | ⟨-, new⟩
        · exact ⟨item, old, rfl, rfl⟩
        · rw [placed.owner item new] at there
          simp at there
  | confirm found pending converted =>
      refine .update ?_ rfl (unmoved 0).symm
      exact ⟨_, (convert_movements converted).symm⟩
  | release => exact .update List.prefix_rfl rfl (unmoved 0).symm
  | cancelSale found confirmed restocked =>
      refine .update ?_ rfl (unmoved 0).symm
      exact ⟨_, (restock_movements restocked).symm⟩
  | forward => exact .update List.prefix_rfl rfl (unmoved 0).symm
  | request => exact .update List.prefix_rfl still.symm rfl
  | advance => exact .update List.prefix_rfl still.symm (unmoved 0).symm
  | cancelReturn => exact .update List.prefix_rfl still.symm rfl
  | completeReturn =>
      refine .update ?_ still.symm rfl
      dsimp only [Db.withStock, restockReturn]
      split
      · exact List.prefix_append ..
      · exact List.prefix_rfl

/-- A sale is noted by the confirmation of its order. -/
theorem sale_noted (happened : ShopEffect db event db') {m : InventoryMovement} {o : Nat}
    (hm : m ∈ db'.movements) (noted : m.note = .orderSale o) : m ∈ db.movements ∨
      ∃ order, db'.orders.get? o = some order ∧ order.status = .confirmed := by
  cases happened with
  | stock corrected notes =>
      rcases List.mem_append.mp hm with old | new
      · exact Or.inl old
      · have := notes m new
        rw [noted] at this
        cases this
  | @confirm performedBy k order stock found pending converted =>
      have movements : m ∈ stock.movements := hm
      rw [convert_movements converted] at movements
      rcases List.mem_append.mp movements with old | new
      · exact Or.inl old
      · obtain ⟨e, -, rfl⟩ := List.mem_map.mp new
        obtain rfl := MovementNote.orderSale.inj noted
        exact Or.inr ⟨_, (Table.get?_update_self ..).trans (congrArg _ found), rfl⟩
  | @cancelSale performedBy k order stock cancelledBy reason now found confirmed restocked =>
      have movements : m ∈ stock.movements := hm
      rw [restock_movements restocked] at movements
      rcases List.mem_append.mp movements with old | new
      · exact Or.inl old
      · obtain ⟨e, -, rfl⟩ := List.mem_map.mp new
        cases noted
  | @completeReturn k r performedBy ret item =>
      dsimp only [Db.withStock, restockReturn] at hm
      split at hm
      · rcases List.mem_append.mp hm with old | new
        · exact Or.inl old
        · rw [List.mem_singleton.mp new] at noted
          cases noted
      · exact Or.inl hm
  | _ => exact Or.inl hm

end ShopEffect

/-! ### Every reachable state -/

section Runs

variable {digest : CanonicalRequest → String} {db : Db}

theorem shopStep_status (digest : CanonicalRequest → String) (db : Db) (op : ShopOp) :
    StatusStep db (shopStep digest db op) := by
  rcases shopStep_effect digest db op with same | ⟨event, -, happened⟩
  · rw [same]
    exact ⟨fun o order hget => Or.inr ⟨order, hget, Or.inl rfl⟩, fun _ there => there⟩
  · refine ⟨fun o order' hget => ?_, happened.history.orders⟩
    cases happened.order_cases hget with
    | same found => exact Or.inr ⟨order', found, Or.inl rfl⟩
    | placed absent pending => exact Or.inl ⟨absent, pending⟩
    | moved found moves => exact Or.inr ⟨_, found, Or.inr moves⟩

/-- Only a pending order has a deadline. -/
def DeadlineInv (db : Db) : Prop :=
  ∀ o order, db.orders.get? o = some order → order.status ≠ .pending →
    order.reservationExpiresAt = none

theorem DeadlineInv.step (h : DeadlineInv db) (op : ShopOp) :
    DeadlineInv (shopStep digest db op) := by
  rcases shopStep_effect digest db op with same | ⟨event, -, happened⟩
  · exact same.symm ▸ h
  · intro o order' hget left
    cases happened.order_cases hget with
    | same found => exact h o order' found left
    | placed _ pending => exact absurd pending left
    | moved found _ deadline =>
        rcases deadline with none | ⟨before, kept⟩
        · exact none
        · exact kept.trans (h o _ found before)

theorem DeadlineInv.run (fresh : FreshShop db) (ops : List ShopOp) :
    DeadlineInv (Relational.run (shopStep digest) db ops) :=
  run_invariant (I := DeadlineInv) (fun _ op h => h.step op)
    (fun o order hget => by simp [fresh.orders o] at hget) ops

variable (digest) in
theorem ShopInv.run (fresh : FreshShop db) (ops : List ShopOp) :
    ShopInv (Relational.run (shopStep digest) db ops) :=
  run_invariant (I := ShopInv) (fun _ op h => h.step op) fresh.shopInv ops

variable (digest) in
/-- From a state on, every later state has its history. -/
theorem run_history (db : Db) (ops : List ShopOp) :
    History db (run (shopStep digest) db ops) := by
  apply run_rel_of History.refl History.trans
  intro t _
  rcases shopStep_effect digest t.1 t.2 with same | ⟨event, -, happened⟩
  · exact same.symm ▸ History.refl t.1
  · exact happened.history

/-- The sale of an order is only there if the order was confirmed. -/
theorem wasConfirmed_of_sale (fresh : FreshShop db) {ops : List ShopOp} {m : InventoryMovement}
    {o : Nat} (hm : m ∈ (run (shopStep digest) db ops).movements) (noted : m.note = .orderSale o) :
    WasConfirmed digest db ops o := by
  induction ops using List.reverseRecOn with
  | nil =>
      have := fresh.movements m hm
      rw [noted] at this
      cases this
  | append_singleton ops op ih =>
      have earlier : m ∈ (run (shopStep digest) db ops).movements →
          WasConfirmed digest db (ops ++ [op]) o := by
        intro old
        obtain ⟨xs, order, hxs, found, confirmed⟩ := ih old
        exact ⟨xs, order, hxs.trans (List.prefix_append ..), found, confirmed⟩
      rw [run_append, run_cons, run_nil] at hm
      rcases shopStep_effect digest (run (shopStep digest) db ops) op with same | ⟨_, -, happened⟩
      · exact earlier (same ▸ hm)
      · rcases happened.sale_noted hm noted with old | ⟨order, found, confirmed⟩
        · exact earlier old
        · refine ⟨ops ++ [op], order, List.prefix_rfl, ?_, confirmed⟩
          rw [run_append]
          exact found

/-- An order that was confirmed has recorded the sale of each of its items. -/
theorem recorded_of_wasConfirmed (fresh : FreshShop db) {ops : List ShopOp} {j : Nat}
    {item : OrderItem} (hitem : (run (shopStep digest) db ops).orderItems.get? j = some item)
    (sold : WasConfirmed digest db ops item.orderId) :
    orderMovements (run (shopStep digest) db ops).movements item ≠ [] := by
  obtain ⟨xs, order, ⟨ys, rfl⟩, found, confirmed⟩ := sold
  have inv := ShopInv.run digest fresh xs
  rw [run_append] at hitem ⊢
  have history := run_history digest (run (shopStep digest) db xs) ys
  obtain ⟨item', hitem', ho, hk⟩ := history.items j item hitem (by rw [found]; rfl)
  have same : ∀ ms, orderMovements ms item = orderMovements ms item' := fun ms => by
    rw [orderMovements, ho, hk, orderMovements]
  obtain ⟨p, then_⟩ : ∃ p, orderMovements (run (shopStep digest) db xs).movements item' =
      [saleMovement p item'.orderId item'] := by
    have := inv.sales.recorded j item' order hitem' (ho ▸ found)
    rwa [confirmed] at this
  have kept := history.movements.filter (InventoryMovement.isOf item.orderId item.productListingId)
  intro nothing
  have empty : orderMovements (run (shopStep digest) db xs).movements item = [] :=
    List.prefix_nil.mp (nothing ▸ kept)
  rw [same, then_] at empty
  cases empty

/-- The status of an order and its past determine what it recorded. -/
theorem recordedExactly (fresh : FreshShop db) (ops : List ShopOp) {j : Nat} {item : OrderItem}
    {order : Order} (hitem : (run (shopStep digest) db ops).orderItems.get? j = some item)
    (hget : (run (shopStep digest) db ops).orders.get? item.orderId = some order) :
    RecordedExactly order.status (WasConfirmed digest db ops item.orderId)
      (isNewListing (run (shopStep digest) db ops).listings item.productListingId) item
      (orderMovements (run (shopStep digest) db ops).movements item) := by
  have recorded := (ShopInv.run digest fresh ops).sales.recorded j item order hitem hget
  have some_sale := recorded_of_wasConfirmed fresh hitem
  cases hstatus : order.status with
  | cancelled =>
      rw [hstatus] at recorded
      rcases recorded with none | ⟨p, p', both⟩
      · exact ⟨fun _ => none, fun sold => absurd none (some_sale sold)⟩
      · refine ⟨fun unsold => absurd ?_ unsold, fun _ => ⟨p, p', both⟩⟩
        have mem : saleMovement p item.orderId item ∈
            orderMovements (run (shopStep digest) db ops).movements item := by
          rw [both]
          exact List.mem_cons_self
        exact wasConfirmed_of_sale fresh (List.mem_filter.mp mem).1 rfl
  | _ =>
      rw [hstatus] at recorded
      exact recorded

end Runs

/-- In every run from a shop without orders: each request leaves an order as it
was, places it as pending, or moves it along the status graph, and its movements
are noted with the order it moves; only pending orders have a deadline; and what
was recorded for an item is determined by the status of its order and by whether
the order was ever confirmed. -/
theorem status_determines_stock (digest : CanonicalRequest → String) {db : Db}
    (fresh : FreshShop db) (ops : List ShopOp) :
    (∀ t ∈ transitions (shopStep digest) db ops,
      StatusStep t.1 (shopStep digest t.1 t.2) ∧
        t.2.NotesMovedOrder t.1 (shopStep digest t.1 t.2)) ∧
    (∀ o order, (run (shopStep digest) db ops).orders.get? o = some order →
      order.status ≠ .pending → order.reservationExpiresAt = none) ∧
    ∀ j item, (run (shopStep digest) db ops).orderItems.get? j = some item →
      ∃ order, (run (shopStep digest) db ops).orders.get? item.orderId = some order ∧
        RecordedExactly order.status (WasConfirmed digest db ops item.orderId)
          (isNewListing (run (shopStep digest) db ops).listings item.productListingId) item
          (orderMovements (run (shopStep digest) db ops).movements item) := by
  refine ⟨fun t _ => ⟨?_, ?_⟩, DeadlineInv.run fresh ops, fun j item hitem => ?_⟩
  · exact shopStep_status digest t.1 t.2
  · obtain ⟨ns, movements, notes, -⟩ := shopStep_entered digest t.1 t.2
    exact ⟨ns, movements, notes⟩
  · have ordered := (ShopInv.run digest fresh ops).stock.ordered j item hitem
    obtain ⟨order, hget⟩ := Option.isSome_iff_exists.mp ordered
    exact ⟨order, hget, recordedExactly fresh ops hitem hget⟩

/-- An order for two units that is cancelled after its confirmation has recorded
the sale and its reversal. -/
theorem status_determines_stock_sample : ∃ p p',
    orderMovements (run (shopStep fun _ => "") sampleShop
        [sampleCreate, .confirmOrder 7 1, .cancelOrderByAdmin 1 .outOfStock 7 5]).movements
      ⟨1, 1, 2, 0, 0, 500, 1000, .new, none, none⟩ =
    [saleMovement p 1 ⟨1, 1, 2, 0, 0, 500, 1000, .new, none, none⟩,
      cancellationMovement p' 1 ⟨1, 1, 2, 0, 0, 500, 1000, .new, none, none⟩] := by
  obtain ⟨order, found, recorded⟩ := (status_determines_stock (fun _ => "") sampleShop_fresh
    [sampleCreate, .confirmOrder 7 1, .cancelOrderByAdmin 1 .outOfStock 7 5]).2.2 1 _ rfl
  obtain rfl := Option.some.inj found
  exact recorded.2 ⟨[sampleCreate, .confirmOrder 7 1], _, ⟨_, rfl⟩, rfl, rfl⟩

end ColorfulLife
