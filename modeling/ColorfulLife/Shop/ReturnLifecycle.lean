/-
The life of a return, from its request to its goods.

The counters of an item follow its returns (`ReturnsInv`). Here the other half:
the completion of a return is the one request that notes it, it puts back what
the inspection allowed, and it happens once (`ReturnChange`, `RestockInv`).
-/

import ColorfulLife.Shop.StatusLedger

namespace ColorfulLife

open Relational

/-! ### The movements of a return -/

/-- The movements that name the return. -/
def movementsOfReturn (movements : List InventoryMovement) (r : Nat) : List InventoryMovement :=
  movements.filter fun m => decide (m.note = .completedOrderReturn r)

/-- What a completed return has put back: its restock quantity, in one movement. -/
def RestockedOnce (db : Db) (r : Nat) (ret : OrderReturn) : Prop :=
  if ret.status = .completed ∧ 0 < ret.restockQuantity then
    ∃ p item, db.orderItems.get? ret.orderItemId = some item ∧
      movementsOfReturn db.movements r = [returnMovement p r ret item]
  else movementsOfReturn db.movements r = []

section Movements

variable {ms ns : List InventoryMovement} {r : Nat}

theorem movementsOfReturn_append :
    movementsOfReturn (ms ++ ns) r = movementsOfReturn ms r ++ movementsOfReturn ns r :=
  List.filter_append ..

theorem movementsOfReturn_eq_nil (other : ∀ m ∈ ns, m.note ≠ .completedOrderReturn r) :
    movementsOfReturn ns r = [] := by
  apply List.filter_eq_nil_iff.mpr
  intro m hm
  simpa using other m hm

theorem movementsOfReturn_append_other (other : ∀ m ∈ ns, m.note ≠ .completedOrderReturn r) :
    movementsOfReturn (ms ++ ns) r = movementsOfReturn ms r := by
  rw [movementsOfReturn_append, movementsOfReturn_eq_nil other, List.append_nil]

end Movements

/-! ### One committed request -/

/-- What one request did to the row of a return. -/
inductive ReturnChange (db db' : Db) (r : Nat) (ret' : OrderReturn) : Prop where
  | same (found : db.orderReturns.get? r = some ret')
      (unnoted : movementsOfReturn db'.movements r = movementsOfReturn db.movements r)
  | requested (absent : db.orderReturns.get? r = none) (status : ret'.status = .requested)
      (unnoted : movementsOfReturn db'.movements r = movementsOfReturn db.movements r)
  | moved {ret : OrderReturn} (found : db.orderReturns.get? r = some ret)
      (before : ret.status ≠ .completed) (after : ret'.status ≠ .completed)
      (unnoted : movementsOfReturn db'.movements r = movementsOfReturn db.movements r)
  | completed {orderId p : Nat} {ret : OrderReturn} {item : OrderItem} {now : Time}
      (found : ReturnOf orderId r db ret item) (inspected : ret.status = .inspected)
      (row : ret' = ret.complete now)
      (movements : db'.movements = (restockReturn p r ret item db.stock).movements)
      (listings : db'.listings = (restockReturn p r ret item db.stock).listings)

namespace ShopEffect

variable {db db' : Db} {event : ShopEvent} {r : Nat} {ret' : OrderReturn}

theorem return_cases (happened : ShopEffect db event db')
    (hret : db'.orderReturns.get? r = some ret') : ReturnChange db db' r ret' := by
  have updated : ∀ {k : Nat} {ret : OrderReturn} {f : OrderReturn → OrderReturn},
      db.orderReturns.get? k = some ret → db'.orderReturns = db.orderReturns.update k f →
      db'.movements = db.movements → ret.status ≠ .completed → (f ret).status ≠ .completed →
      ReturnChange db db' r ret' := by
    intro k ret f found returns movements before after
    rw [returns] at hret
    rcases Table.update_cases found hret with ⟨rfl, rfl⟩ | ⟨-, hret⟩
    · exact .moved found before after (by rw [movements])
    · exact .same hret (by rw [movements])
  have unmoved : ∀ {ns : List InventoryMovement}, db'.orderReturns = db.orderReturns →
      db'.movements = db.movements ++ ns → (∀ m ∈ ns, m.note ≠ .completedOrderReturn r) →
      ReturnChange db db' r ret' := by
    intro ns returns movements other
    rw [returns] at hret
    apply ReturnChange.same hret
    rw [movements, movementsOfReturn_append_other other]
  cases happened with
  | stock corrected notes =>
      apply unmoved rfl rfl
      intro m hm hnote
      have := notes m hm
      rw [hnote] at this
      cases this
  | confirm found pending converted =>
      apply unmoved rfl (convert_movements converted)
      intro m hm hnote
      obtain ⟨e, -, rfl⟩ := List.mem_map.mp hm
      cases hnote
  | cancelSale found confirmed restocked =>
      apply unmoved rfl (restock_movements restocked)
      intro m hm hnote
      obtain ⟨e, -, rfl⟩ := List.mem_map.mp hm
      cases hnote
  | request found owner positive room =>
      rcases Table.insert_cases hret with ⟨rfl, rfl⟩ | hret
      · exact .requested (Table.get?_nextId _) rfl rfl
      · exact .same hret rfl
  | advance found moves restock quantity itemId =>
      apply updated found.row rfl rfl
      · rcases moves with ⟨before, -⟩ | ⟨before, -⟩ | ⟨before, -⟩ <;> simp [before]
      · rcases moves with ⟨-, after⟩ | ⟨-, after⟩ | ⟨-, after⟩ <;> simp [after]
  | cancelReturn found requested room =>
      apply updated found.row rfl rfl
      · simp [requested]
      · simp [OrderReturn.cancel]
  | @completeReturn orderId k performedBy ret item l now found inspected listing new reserved room =>
      rcases Table.update_cases found.row hret with ⟨rfl, rfl⟩ | ⟨other, hret⟩
      · exact .completed found inspected rfl rfl rfl
      · refine ReturnChange.same hret ?_
        show movementsOfReturn (restockReturn performedBy k ret item db.stock).movements r = _
        unfold restockReturn
        split
        · apply movementsOfReturn_append_other
          intro m hm hnote
          rw [List.mem_singleton.mp hm] at hnote
          exact other (MovementNote.completedOrderReturn.inj hnote).symm
        · rfl
  | _ => exact .same hret rfl

/-- An item keeps its listing. -/
theorem item_kept (happened : ShopEffect db event db') {j : Nat} {item : OrderItem}
    (hitem : db.orderItems.get? j = some item) : ∃ item', db'.orderItems.get? j = some item' ∧
      item'.productListingId = item.productListingId := by
  have counted : ∀ {k : Nat} {a b : Int},
      db'.orderItems = db.orderItems.update k (·.addReturns a b) →
      ∃ item', db'.orderItems.get? j = some item' ∧
        item'.productListingId = item.productListingId := by
    intro k a b items
    rw [items, Table.get?_update, hitem]
    split
    · exact ⟨_, rfl, rfl⟩
    · exact ⟨item, rfl, rfl⟩
  cases happened with
  | place placed reserved => exact ⟨item, Table.get?_insertAll_of_some hitem, rfl⟩
  | request found owner positive room => exact counted rfl
  | cancelReturn found requested room => exact counted rfl
  | completeReturn found inspected listing new reserved room => exact counted rfl
  | _ => exact ⟨item, hitem, rfl⟩

end ShopEffect

/-! ### Once and no more -/

/-- The goods of every return came back as its row says. -/
def RestockInv (db : Db) : Prop :=
  ∀ r ret, db.orderReturns.get? r = some ret → RestockedOnce db r ret

section Restocked

variable {db db' : Db} {event : ShopEvent} {r : Nat} {ret ret' : OrderReturn}

theorem RestockedOnce.unnoted (h : RestockedOnce db r ret) (open_ : ret.status ≠ .completed) :
    movementsOfReturn db.movements r = [] := by
  rw [RestockedOnce, if_neg fun both => open_ both.1] at h
  exact h

theorem RestockedOnce.of_unnoted (none : movementsOfReturn db.movements r = [])
    (open_ : ret.status ≠ .completed) : RestockedOnce db r ret := by
  rw [RestockedOnce, if_neg fun both => open_ both.1]
  exact none

/-- The movement of a return depends on its row and on the listing of its item. -/
theorem RestockedOnce.kept (h : RestockedOnce db r ret)
    (unnoted : movementsOfReturn db'.movements r = movementsOfReturn db.movements r)
    (items : ∀ item, db.orderItems.get? ret.orderItemId = some item →
      ∃ item', db'.orderItems.get? ret.orderItemId = some item' ∧
        item'.productListingId = item.productListingId) : RestockedOnce db' r ret := by
  unfold RestockedOnce at h ⊢
  rw [unnoted]
  split
  · rename_i restocked
    rw [if_pos restocked] at h
    obtain ⟨p, item, hitem, once⟩ := h
    obtain ⟨item', hitem', listing⟩ := items item hitem
    refine ⟨p, item', hitem', ?_⟩
    rw [once, returnMovement, returnMovement, listing]
  · rename_i unstocked
    rwa [if_neg unstocked] at h

/-- The completion writes the one movement of its return. -/
theorem RestockedOnce.completes {p : Nat} {item : OrderItem} {now : Time}
    (h : RestockedOnce db r ret) (inspected : ret.status = .inspected)
    (movements : db'.movements = (restockReturn p r ret item db.stock).movements)
    (items : ∃ item', db'.orderItems.get? ret.orderItemId = some item' ∧
      item'.productListingId = item.productListingId) : RestockedOnce db' r (ret.complete now) := by
  have before : movementsOfReturn db.movements r = [] := h.unnoted (by simp [inspected])
  obtain ⟨item', hitem', listing⟩ := items
  unfold RestockedOnce
  rw [movements, restockReturn]
  by_cases pos : 0 < ret.restockQuantity
  · rw [if_pos pos, if_pos ⟨rfl, pos⟩]
    refine ⟨p, item', hitem', ?_⟩
    show movementsOfReturn (db.movements ++ _) r = _
    rw [movementsOfReturn_append, before, returnMovement, returnMovement, listing]
    simp [movementsOfReturn, OrderReturn.complete]
  · rw [if_neg pos, if_neg fun both => pos both.2]
    exact before

theorem RestockInv.effect (h : RestockInv db) (inv : ShopInv db)
    (happened : ShopEffect db event db') : RestockInv db' := by
  intro r ret' hret'
  cases happened.return_cases hret' with
  | same found unnoted => exact (h r ret' found).kept unnoted fun _ => happened.item_kept
  | requested absent status unnoted =>
      refine .of_unnoted (unnoted.trans (movementsOfReturn_eq_nil fun m hm hnote => ?_))
        (by simp [status])
      have := inv.sales.returnNoted m hm r hnote
      rw [absent] at this
      cases this
  | moved found before after unnoted =>
      exact .of_unnoted (unnoted.trans ((h r _ found).unnoted before)) after
  | completed found inspected row movements listings =>
      rw [row]
      exact (h r _ found.row).completes inspected movements (happened.item_kept found.itemRow)

end Restocked

/-! ### Every reachable state -/

/-- The counters of an item and its returns. -/
structure ItemAccounts (db : Db) (j : Nat) (item : OrderItem) : Prop where
  reserved : item.reservedReturnQuantity = openQuantity db.orderReturns j
  returned : item.returnedQuantity = completedQuantity db.orderReturns j
  total : item.returnedQuantity + item.reservedReturnQuantity ≤ item.quantity

/-- The goods of a return. -/
structure ReturnAccounts (db : Db) (r : Nat) (ret : OrderReturn) : Prop where
  nonneg : 0 ≤ ret.restockQuantity
  within : ret.restockQuantity ≤ ret.quantity
  asNew : 0 < ret.restockQuantity → ret.condition = some .asNew ∧
    ∃ item, db.orderItems.get? ret.orderItemId = some item ∧
      isNewListing db.listings item.productListingId = true
  restocked : RestockedOnce db r ret
  unexceeded : ret.status = .inspected → ∀ orderId performedByUserId now itemId requested remaining,
    completeOrderReturn orderId r performedByUserId now db ≠
      .error (.orderReturnQuantityExceeded itemId requested remaining)

/-- A request that leaves a return completed found it so, or completed it and
raised the stock of its listing by the restock quantity. -/
def CompletesOnce (db db' : Db) : Prop :=
  ∀ r ret', db'.orderReturns.get? r = some ret' → ret'.status = .completed →
    db.orderReturns.get? r = some ret' ∧
        movementsOfReturn db'.movements r = movementsOfReturn db.movements r ∨
      ∃ ret item, db.orderReturns.get? r = some ret ∧ ret.status = .inspected ∧
        db.orderItems.get? ret.orderItemId = some item ∧
        ret'.restockQuantity = ret.restockQuantity ∧
        ∀ k l, db.listings.get? k = some l → ∃ l', db'.listings.get? k = some l' ∧
          l'.currentStock =
            l.currentStock + if k = item.productListingId then ret'.restockQuantity else 0

section Runs

variable {digest : CanonicalRequest → String} {db db' : Db}

theorem requireOrderReturn_error {orderId returnId : Nat} {e : DomainError}
    (h : requireOrderReturn orderId returnId db = .error e) :
    e = .orderNotFound orderId ∨ e = .orderReturnNotFound returnId orderId := by
  simp only [requireOrderReturn, requireOrder, bind_eq_error, orThrow_eq_error] at h
  rcases h with ⟨-, rfl⟩ | ⟨_, -, -, rfl⟩
  · exact Or.inl rfl
  · exact Or.inr rfl

/-- An inspected return has room: its completion is refused for other reasons
only. -/
theorem inspected_unexceeded (inv : ShopInv db) {r : Nat} {ret : OrderReturn}
    (hret : db.orderReturns.get? r = some ret) (inspected : ret.status = .inspected)
    (orderId performedBy : Nat) (now : Time) (itemId : Nat) (requested remaining : Int) :
    completeOrderReturn orderId r performedBy now db ≠
      .error (.orderReturnQuantityExceeded itemId requested remaining) := by
  intro refused
  cases hfind : requireOrderReturn orderId r db with
  | error e =>
      rw [completeOrderReturn, hfind] at refused
      rcases requireOrderReturn_error hfind with rfl | rfl <;> cases refused
  | ok e =>
      have found := requireOrderReturn_eq_ok.mp hfind
      have same : ret = e.1 := Option.some.inj (hret.symm.trans found.row)
      obtain ⟨db', completed⟩ :=
        inv.returns.completable inv.stock found (same ▸ inspected) performedBy now
      rw [completed] at refused
      cases refused

theorem ShopInv.itemAccounts (inv : ShopInv db) {j : Nat} {item : OrderItem}
    (hitem : db.orderItems.get? j = some item) : ItemAccounts db j item where
  reserved := inv.returns.reserved j item hitem
  returned := inv.returns.returned j item hitem
  total := inv.returns.total j item hitem

theorem ShopInv.returnAccounts (inv : ShopInv db) (once : RestockInv db) {r : Nat}
    {ret : OrderReturn} (hret : db.orderReturns.get? r = some ret) : ReturnAccounts db r ret := by
  obtain ⟨-, nonneg, le, item, hitem, hnew⟩ := inv.returns.sound r ret hret
  refine ⟨nonneg, le, fun pos => ⟨(hnew pos).1, item, hitem, (hnew pos).2⟩, once r ret hret, ?_⟩
  exact inspected_unexceeded inv hret

theorem ShopEffect.completesOnce {event : ShopEvent} (happened : ShopEffect db event db')
    (inv : ShopInv db) : CompletesOnce db db' := by
  intro r ret' hret' completed
  cases happened.return_cases hret' with
  | same found unnoted => exact Or.inl ⟨found, unnoted⟩
  | requested absent status unnoted =>
      rw [status] at completed
      cases completed
  | moved found before after unnoted => exact absurd completed after
  | @completed orderId p ret item now found inspected row movements listings =>
      refine Or.inr ⟨ret, item, found.row, inspected, found.itemRow, by rw [row]; rfl, ?_⟩
      intro k l hl
      have restock : ret'.restockQuantity = ret.restockQuantity := by rw [row]; rfl
      have nonneg := (inv.returns.sound r ret found.row).nonneg
      rw [listings, restock, restockReturn]
      by_cases pos : 0 < ret.restockQuantity
      · rw [if_pos pos]
        show ∃ l', (db.listings.update _ _).get? k = some l' ∧ _
        rw [Table.get?_update, hl]
        split
        · exact ⟨_, rfl, rfl⟩
        · exact ⟨l, rfl, (add_zero _).symm⟩
      · rw [if_neg pos]
        refine ⟨l, hl, ?_⟩
        split <;> omega

theorem shopStep_completesOnce (digest : CanonicalRequest → String) (inv : ShopInv db)
    (op : ShopOp) : CompletesOnce db (shopStep digest db op) := by
  rcases shopStep_effect digest db op with same | ⟨event, -, happened⟩
  · rw [same]
    exact fun r ret' hret' _ => Or.inl ⟨hret', rfl⟩
  · exact happened.completesOnce inv

theorem restock_step (op : ShopOp) (h : ShopInv db ∧ RestockInv db) :
    ShopInv (shopStep digest db op) ∧ RestockInv (shopStep digest db op) := by
  refine ⟨h.1.step op, ?_⟩
  rcases shopStep_effect digest db op with same | ⟨event, -, happened⟩
  · rw [same]
    exact h.2
  · exact h.2.effect h.1 happened

end Runs

/-- In every state of every run the counters of an item are the sums over its
returns and fit into it, every return has put back what its row says, in one
movement once it is completed and none before, and an inspected return is never
refused for its quantity; and a step completes a return at most once, raising
the stock by what it restocks. -/
theorem return_lifecycle (digest : CanonicalRequest → String) {db : Db} (fresh : FreshShop db)
    (ops : List ShopOp) :
    (∀ xs, xs <+: ops →
      (∀ j item, (run (shopStep digest) db xs).orderItems.get? j = some item →
        ItemAccounts (run (shopStep digest) db xs) j item) ∧
      ∀ r ret, (run (shopStep digest) db xs).orderReturns.get? r = some ret →
        ReturnAccounts (run (shopStep digest) db xs) r ret) ∧
    ∀ t ∈ transitions (shopStep digest) db ops, CompletesOnce t.1 (shopStep digest t.1 t.2) := by
  have start : ShopInv db ∧ RestockInv db :=
    ⟨fresh.shopInv, fun r ret hret => by simp [fresh.orderReturns r] at hret⟩
  constructor
  · intro xs _
    obtain ⟨inv, once⟩ : ShopInv (run (shopStep digest) db xs) ∧
        RestockInv (run (shopStep digest) db xs) :=
      run_invariant (I := fun s => ShopInv s ∧ RestockInv s) (fun _ op => restock_step op) start xs
    exact ⟨fun j item hitem => inv.itemAccounts hitem,
      fun r ret hret => inv.returnAccounts once hret⟩
  · intro t ht
    have inv : ShopInv t.1 :=
      transitions_invariant (I := ShopInv) (fun _ op h => h.step op) fresh.shopInv ops t ht
    exact shopStep_completesOnce digest inv t.2

/-- Two units come back in two returns; one is completed twice over, the other
cancelled. -/
def sampleReturns : List ShopOp :=
  [sampleCreate, .confirmOrder 7 1,
    .requestOrderReturn 1 1 ⟨1, .changeOfMind, none, .customer, none⟩ 7,
    .requestOrderReturn 1 1 ⟨1, .other, none, .customer, none⟩ 7,
    .requestOrderReturn 1 1 ⟨1, .other, none, .customer, none⟩ 7,
    .authorizeOrderReturn 1 1 1, .cancelOrderReturn 1 1 1, .cancelOrderReturn 1 2 1,
    .receiveOrderReturn 1 1 2, .inspectOrderReturn 1 1 ⟨.asNew, 1, none, 7⟩ 3,
    .completeOrderReturn 1 1 7 4, .completeOrderReturn 1 1 7 5]

theorem return_lifecycle_sample :
    (∀ xs, xs <+: sampleReturns →
      (∀ j item, (run (shopStep fun _ => "") sampleShop xs).orderItems.get? j = some item →
        ItemAccounts (run (shopStep fun _ => "") sampleShop xs) j item) ∧
      ∀ r ret, (run (shopStep fun _ => "") sampleShop xs).orderReturns.get? r = some ret →
        ReturnAccounts (run (shopStep fun _ => "") sampleShop xs) r ret) ∧
    ∀ t ∈ transitions (shopStep fun _ => "") sampleShop sampleReturns,
      CompletesOnce t.1 (shopStep (fun _ => "") t.1 t.2) :=
  return_lifecycle (fun _ => "") sampleShop_fresh sampleReturns

end ColorfulLife
