/-
The goods of a purchase line: received once, returned at most once, and frozen
in between.

`RecordedGoods` says which movements a line has, by its two timestamps. It is an
invariant of every request that may touch a purchase (`GoodsInv`), and a
received line changes in nothing but its return (`PurchaseChange.frozen`).
-/

import ColorfulLife.Inventory.Ledger

namespace ColorfulLife

open Relational Relation

/-! ### The law -/

/-- The movements of a purchase line. -/
def lineMovements (k : Nat) (movements : List InventoryMovement) : List InventoryMovement :=
  movements.filter fun m =>
    decide (m.note = .purchaseItemReceived k ∨ m.note = .purchaseItemReturned k)

def receiptMovement (k listingId userId : Nat) (item : PurchaseItem) : InventoryMovement :=
  movementOf listingId item.quantity .purchaseIn (.purchaseItemReceived k) userId

def supplierReturnMovement (k listingId userId : Nat) (item : PurchaseItem) : InventoryMovement :=
  movementOf listingId (-item.quantity) .purchaseReturnOut (.purchaseItemReturned k) userId

/-- What was recorded for a line: nothing, its receipt, or its receipt and then
its return, for the listing and the quantity that it carries. -/
inductive RecordedGoods (k : Nat) (item : PurchaseItem) : List InventoryMovement → Prop where
  | unreceived (received : item.receivedAt = none) (returned : item.returnedAt = none) :
      RecordedGoods k item []
  | received {listingId userId : Nat} (received : item.receivedAt ≠ none)
      (returned : item.returnedAt = none) (link : item.productListingId = some listingId) :
      RecordedGoods k item [receiptMovement k listingId userId item]
  | returned {listingId userId userId' : Nat} (received : item.receivedAt ≠ none)
      (returned : item.returnedAt ≠ none) (link : item.productListingId = some listingId) :
      RecordedGoods k item [receiptMovement k listingId userId item,
        supplierReturnMovement k listingId userId' item]

/-- An excluded line is unlinked and was never received. -/
def PurchaseItem.Excluded (item : PurchaseItem) : Prop :=
  item.inventoryDisposition = .nonInventory →
    item.productListingId = none ∧ item.receivedAt = none

/-- Nothing changed but the return. -/
def Frozen (item item' : PurchaseItem) : Prop :=
  item' = { item with returnedAt := item'.returnedAt }

theorem Frozen.received {item item' : PurchaseItem} (h : Frozen item item')
    (received : item.receivedAt ≠ none) : item'.receivedAt ≠ none := by
  rw [h]
  exact received

/-- A received line stays frozen through the next request. -/
theorem Frozen.trans {item item' item'' : PurchaseItem} (h : Frozen item item')
    (h' : Frozen item' item'') : Frozen item item'' := by
  rw [Frozen, h', h]

structure GoodsInv (db : Db) : Prop where
  recorded : ∀ k item, db.purchaseItems.get? k = some item →
    RecordedGoods k item (lineMovements k db.movements)
  excluded : ∀ k item, db.purchaseItems.get? k = some item → item.Excluded
  absent : ∀ k, db.purchaseItems.get? k = none → lineMovements k db.movements = []

/-! ### Movements of a line -/

section Movements

variable {k j : Nat} {item : PurchaseItem} {ms ns : List InventoryMovement}

@[simp] theorem lineMovements_append :
    lineMovements k (ms ++ ns) = lineMovements k ms ++ lineMovements k ns :=
  List.filter_append ..

/-- Movements that are no purchase's are no line's. -/
theorem lineMovements_eq_nil (foreign : ∀ m ∈ ns, m.note.ofPurchase = false) :
    lineMovements k ns = [] := by
  apply List.filter_eq_nil_iff.mpr
  intro m hm own
  have := foreign m hm
  rcases of_decide_eq_true own with note | note
  · rw [note] at this
    cases this
  · rw [note] at this
    cases this

theorem lineMovements_singleton {m : InventoryMovement}
    (own : m.note = .purchaseItemReceived j ∨ m.note = .purchaseItemReturned j) :
    lineMovements k [m] = if j = k then [m] else [] := by
  by_cases same : j = k
  · rcases own with note | note <;> simp [lineMovements, note, same]
  · rcases own with note | note <;> simp [lineMovements, note, same]

/-- A line that is not received has no movements. -/
theorem RecordedGoods.of_unreceived (h : RecordedGoods k item ms) (before : item.receivedAt = none) :
    item.returnedAt = none ∧ ms = [] := by
  cases h with
  | unreceived _ returned => exact ⟨returned, rfl⟩
  | received received => exact absurd before received
  | returned received => exact absurd before received

end Movements

/-! ### One change -/

section Changes

variable {db db' : Db}

/-- A change without movements: rows stay, or are of unreceived lines. -/
theorem GoodsInv.quiet (h : GoodsInv db) (movements : db'.movements = db.movements)
    (rows : ∀ k item', db'.purchaseItems.get? k = some item' →
      db.purchaseItems.get? k = some item' ∨
        (item'.receivedAt = none ∧ item'.returnedAt = none ∧ item'.Excluded ∧
          ∀ item, db.purchaseItems.get? k = some item → item.receivedAt = none))
    (kept : ∀ k item, db.purchaseItems.get? k = some item → (db'.purchaseItems.get? k).isSome) :
    GoodsInv db' where
  recorded := fun k item' found => by
    rw [movements]
    rcases rows k item' found with old | ⟨received, returned, -, before⟩
    · exact h.recorded k item' old
    · have nothing : lineMovements k db.movements = [] := by
        cases old : db.purchaseItems.get? k with
        | none => exact h.absent k old
        | some item => exact ((h.recorded k item old).of_unreceived (before item old)).2
      rw [nothing]
      exact .unreceived received returned
  excluded := fun k item' found => by
    rcases rows k item' found with old | ⟨-, -, excluded, -⟩
    · exact h.excluded k item' old
    · exact excluded
  absent := fun k none => by
    rw [movements]
    apply h.absent
    cases old : db.purchaseItems.get? k with
    | none => rfl
    | some item =>
        have := kept k item old
        rw [none] at this
        cases this

/-- One line moves goods. -/
theorem GoodsInv.line (h : GoodsInv db) {j : Nat} {item : PurchaseItem}
    {f : PurchaseItem → PurchaseItem} {listings : Table ProductListing} {m : InventoryMovement}
    (found : db.purchaseItems.get? j = some item)
    (own : m.note = .purchaseItemReceived j ∨ m.note = .purchaseItemReturned j)
    (recorded : RecordedGoods j (f item) (lineMovements j db.movements ++ [m]))
    (excluded : (f item).Excluded) :
    GoodsInv { db with
      purchaseItems := db.purchaseItems.update j f
      listings := listings
      movements := db.movements ++ [m] } := by
  have movements : ∀ k, lineMovements k (db.movements ++ [m]) =
      lineMovements k db.movements ++ if j = k then [m] else [] := fun k => by
    rw [lineMovements_append, lineMovements_singleton own]
  have row : ∀ k, k ≠ j → (db.purchaseItems.update j f).get? k = db.purchaseItems.get? k :=
    fun k other => Table.get?_update_of_ne _ _ other
  have here : (db.purchaseItems.update j f).get? j = some (f item) := by
    rw [Table.get?_update_self, found]; rfl
  constructor
  · intro k item' hk
    rw [movements]
    by_cases same : k = j
    · subst same
      obtain rfl := Option.some.inj (here.symm.trans hk)
      rw [if_pos rfl]
      exact recorded
    · rw [if_neg (Ne.symm same), List.append_nil]
      exact h.recorded k item' ((row k same).symm.trans hk)
  · intro k item' hk
    by_cases same : k = j
    · subst same
      obtain rfl := Option.some.inj (here.symm.trans hk)
      exact excluded
    · exact h.excluded k item' ((row k same).symm.trans hk)
  · intro k hk
    by_cases same : k = j
    · subst same
      rw [here] at hk
      cases hk
    · rw [movements, if_neg (Ne.symm same), List.append_nil]
      exact h.absent k ((row k same).symm.trans hk)

theorem ownPurchaseItem_found {userId purchaseItemId : Nat} {item : PurchaseItem}
    (own : ownPurchaseItem userId purchaseItemId db = some item) :
    db.purchaseItems.get? purchaseItemId = some item :=
  (Option.filter_eq_some_iff.mp own).1

/-- A receipt enters the units of one line, once. -/
theorem GoodsInv.receive (h : GoodsInv db) {userId purchaseItemId : Nat} {now : Time}
    (tx : receivePurchaseItem userId purchaseItemId now db = .ok db') : GoodsInv db' := by
  obtain ⟨item, listingId, l, own, disposition, unreceived, link, -, -, -, rfl⟩ :=
    receivePurchaseItem_eq_ok.mp tx
  have found := ownPurchaseItem_found own
  obtain ⟨unreturned, nothing⟩ := (h.recorded _ item found).of_unreceived unreceived
  apply h.line found (Or.inl rfl)
  · rw [nothing]
    exact .received nofun unreturned link
  · exact fun excluded => absurd excluded disposition

/-- A return takes them out again, once. -/
theorem GoodsInv.return (h : GoodsInv db) {userId purchaseItemId : Nat} {now : Time}
    (tx : returnPurchaseItem userId purchaseItemId now db = .ok db') : GoodsInv db' := by
  obtain ⟨item, listingId, l, own, received, unreturned, -, link, -, -, rfl⟩ :=
    returnPurchaseItem_eq_ok.mp tx
  have found := ownPurchaseItem_found own
  apply h.line found (Or.inr rfl)
  · have recorded := h.recorded _ item found
    revert recorded
    generalize lineMovements purchaseItemId db.movements = ms
    intro recorded
    cases recorded with
    | unreceived before => exact absurd before received
    | received _ _ link' =>
        obtain rfl := Option.some.inj (link.symm.trans link')
        exact .returned received nofun link
    | returned _ already => exact absurd unreturned already
  · exact h.excluded _ item found

/-- Reviews and imports move no goods. -/
theorem GoodsInv.change (h : GoodsInv db) (change : PurchaseChange db db') : GoodsInv db' := by
  cases change with
  | stored =>
      refine h.quiet rfl ?_ ?_
      · intro k item' found
        rcases Table.mem_insertAll found with old | ⟨fresh, new⟩
        · exact Or.inl old
        · obtain ⟨item, -, rfl⟩ := List.mem_map.mp new
          refine Or.inr ⟨rfl, rfl, nofun, fun old hold => ?_⟩
          rw [Table.get?_of_nextId_le _ fresh] at hold
          cases hold
      · exact fun k item old => Option.isSome_of_mem (Table.get?_insertAll_of_some old)
  | @edited f rows =>
      refine h.quiet rfl ?_ ?_
      · intro k item' found
        rw [Table.get?_modify] at found
        obtain ⟨item, old, rfl⟩ := Option.map_eq_some_iff.mp found
        rcases rows k item old with same | edit
        · exact Or.inl (same.symm ▸ old)
        · have unreturned := ((h.recorded k item old).of_unreceived edit.before).1
          refine Or.inr ⟨edit.after, edit.returnedAt.trans unreturned, fun excluded => ?_, ?_⟩
          · refine ⟨?_, edit.after⟩
            rcases edit.excluded excluded with cleared | ⟨already, kept⟩
            · exact cleared
            · exact kept.trans (h.excluded k item old already).1
          · intro item' hitem'
            obtain rfl := Option.some.inj (old.symm.trans hitem')
            exact edit.before
      · intro k item old
        rw [Table.get?_modify, old]
        rfl
  | @recalculated purchase e itemId body _ found parent unreceived tx =>
      have same : db'.movements = db.movements := by
        obtain ⟨calculated, -, rfl⟩ := recalculate_ok tx
        rfl
      apply h.quiet same
      · intro k item' found
        obtain ⟨item, old, rfl | ⟨own, calculated, rfl⟩⟩ := recalculate_row tx found
        · exact Or.inl old
        · have before := unreceived _ own
          refine Or.inr ⟨before, ((h.recorded k item old).of_unreceived before).1,
            h.excluded k item old, fun item' hitem' => ?_⟩
          obtain rfl := Option.some.inj (old.symm.trans hitem')
          exact before
      · intro k item old
        obtain ⟨calculated, -, rfl⟩ := recalculate_ok tx
        rw [Table.updateAll_eq_modify (fun e : ReviewLine × CalculatedPurchaseItem => e.1.id),
          Table.get?_modify, old]
        rfl
  | received tx => exact h.receive tx
  | returned tx => exact h.return tx

/-- A received line changes in nothing but its return. -/
theorem PurchaseChange.frozen (change : PurchaseChange db db') {k : Nat} {item : PurchaseItem}
    (found : db.purchaseItems.get? k = some item) (received : item.receivedAt ≠ none) :
    ∃ item', db'.purchaseItems.get? k = some item' ∧ Frozen item item' := by
  cases change with
  | stored => exact ⟨item, Table.get?_insertAll_of_some found, rfl⟩
  | edited rows =>
      rcases rows k item found with same | edit
      · exact ⟨item, by simp [found, same], rfl⟩
      · exact absurd edit.before received
  | @recalculated purchase e itemId body _ _ _ unreceived tx =>
      have row : (db'.purchaseItems.get? k).isSome := by
        obtain ⟨calculated, -, rfl⟩ := recalculate_ok tx
        rw [Table.updateAll_eq_modify (fun e : ReviewLine × CalculatedPurchaseItem => e.1.id),
          Table.get?_modify, found]
        rfl
      obtain ⟨item', hitem'⟩ := Option.isSome_iff_exists.mp row
      obtain ⟨i, hi, same⟩ := recalculate_row tx hitem'
      obtain rfl := Option.some.inj (hi.symm.trans found)
      rcases same with rfl | ⟨own, -⟩
      · exact ⟨item', hitem', rfl⟩
      · exact absurd (unreceived _ own) received
  | @received userId purchaseItemId now _ tx =>
      obtain ⟨other, listingId, l, own, -, unreceived, -, -, -, -, rfl⟩ :=
        receivePurchaseItem_eq_ok.mp tx
      have different : k ≠ purchaseItemId := by
        rintro rfl
        obtain rfl := Option.some.inj ((ownPurchaseItem_found own).symm.trans found)
        exact received unreceived
      exact ⟨item, by rw [Table.get?_update_of_ne _ _ different, found], rfl⟩
  | @returned userId purchaseItemId now _ tx =>
      obtain ⟨other, listingId, l, own, -, -, -, -, -, -, rfl⟩ := returnPurchaseItem_eq_ok.mp tx
      rw [Table.get?_update, found]
      split
      · exact ⟨_, rfl, rfl⟩
      · exact ⟨item, rfl, rfl⟩

end Changes

/-! ### Runs -/

/-- Nothing about purchases changed, and no movement is of a purchase line. -/
def Aside (db db' : Db) : Prop :=
  db'.purchasing = db.purchasing ∧ ∃ ns, db'.movements = db.movements ++ ns ∧
    ∀ m ∈ ns, m.note.ofPurchase = false

section Aside

variable {db db' : Db}

theorem Aside.refl (db : Db) : Aside db db := ⟨rfl, [], (List.append_nil _).symm, nofun⟩

theorem Listed.aside {opening : Int} (h : Listed opening db db') : Aside db db' := by
  obtain ⟨_, _, _, _, rfl⟩ := h
  exact Aside.refl db

theorem Switched.aside (h : Switched db db') : Aside db db' := by
  obtain ⟨_, _, rfl⟩ := h
  exact Aside.refl db

theorem Aside.purchaseItems (h : Aside db db') : db'.purchaseItems = db.purchaseItems :=
  congrArg (fun purchasing => purchasing.2.2) h.1

/-- Nor do the requests of the shop, which leave purchase lines alone. -/
theorem GoodsInv.aside (h : GoodsInv db) (same : Aside db db') : GoodsInv db' := by
  have rows := same.purchaseItems
  obtain ⟨-, ns, movements, foreign⟩ := same
  have same : ∀ k, lineMovements k db'.movements = lineMovements k db.movements := fun k => by
    rw [movements, lineMovements_append, lineMovements_eq_nil foreign, List.append_nil]
  constructor
  · intro k item found
    rw [rows] at found
    exact same k ▸ h.recorded k item found
  · intro k item found
    rw [rows] at found
    exact h.excluded k item found
  · intro k none
    rw [rows] at none
    exact same k ▸ h.absent k none

end Aside

section Runs

variable (digest : CanonicalRequest → String) (revisionOf : ReviewPurchase → String)

/-- A request is a sequence of changes of purchases, or has no business with
them. -/
theorem stockStep_purchases (db : Db) (op : StockOp) :
    ReflTransGen PurchaseChange db (stockStep digest revisionOf db op) ∨
      Aside db (stockStep digest revisionOf db op) := by
  cases op with
  | shop op =>
      cases kind : op.ofPurchase with
      | false =>
          obtain ⟨⟨ns, movements, writes, -⟩, same⟩ := shopStep_writes digest db op
          refine Or.inr ⟨same kind, ns, movements, fun m hm => Bool.eq_false_iff.mpr fun note => ?_⟩
          rw [(writes m hm).2 note] at kind
          cases kind
      | true =>
          refine Or.inl (commit_rel (R := ReflTransGen PurchaseChange) .refl fun db' tx => ?_)
          cases op with
          | receivePurchaseItem => exact .single (.received tx)
          | returnPurchaseItem => exact .single (.returned tx)
          | _ => cases kind
  | purchase op => exact Or.inl (purchaseStep_changes revisionOf db op)
  | createProduct input =>
      exact Or.inr (commit_rel (R := Aside) (Aside.refl db) fun _ tx => (createProduct_ok tx).2.aside)
  | createPurchaseListing userId purchaseId body =>
      exact Or.inr (commit_rel (R := Aside) (Aside.refl db) fun _ tx =>
        (createPurchaseListing_ok tx).aside)
  | deactivateProduct id =>
      exact Or.inr (commit_rel (R := Aside) (Aside.refl db) fun _ tx =>
        (deactivateProduct_ok tx).aside)
  | reactivateProduct id =>
      exact Or.inr (commit_rel (R := Aside) (Aside.refl db) fun _ tx =>
        (reactivateProduct_ok tx).aside)

/-- Every operation keeps the books of the lines. -/
theorem GoodsInv.step {db : Db} (h : GoodsInv db) (op : StockOp) :
    GoodsInv (stockStep digest revisionOf db op) := by
  rcases stockStep_purchases digest revisionOf db op with changes | aside
  · exact changes_invariant (fun _ _ h change => h.change change) changes h
  · exact h.aside aside

/-- Every operation keeps a received line as it was received. -/
theorem stockStep_frozen (db : Db) (op : StockOp) {k : Nat} {item : PurchaseItem}
    (found : db.purchaseItems.get? k = some item) (received : item.receivedAt ≠ none) :
    ∃ item', (stockStep digest revisionOf db op).purchaseItems.get? k = some item' ∧
      Frozen item item' := by
  rcases stockStep_purchases digest revisionOf db op with changes | aside
  · refine changes_invariant
      (I := fun s : Db => ∃ item', s.purchaseItems.get? k = some item' ∧ Frozen item item') ?_ changes
      ⟨item, found, rfl⟩
    rintro s s' ⟨item₁, found₁, first⟩ change
    obtain ⟨item₂, found₂, second⟩ := change.frozen found₁ (first.received received)
    exact ⟨item₂, found₂, first.trans second⟩
  · exact ⟨item, by rw [aside.purchaseItems, found], rfl⟩

end Runs

theorem FreshPurchases.goodsInv {db : Db} (fresh : FreshPurchases db) : GoodsInv db where
  recorded := fun k item found => by
    rw [fresh.purchaseItems] at found
    cases found
  excluded := fun k item found => by
    rw [fresh.purchaseItems] at found
    cases found
  absent := fun _ _ => lineMovements_eq_nil fresh.movements

/-- In every run, a purchase line has recorded no movement, its receipt, or its
receipt and its return, for the listing and the quantity it carries; an excluded
line is unlinked and was never received; and once received a line changes in
nothing but its return. -/
theorem purchased_goods_flow (digest : CanonicalRequest → String)
    (revisionOf : ReviewPurchase → String) {db : Db} (fresh : FreshPurchases db)
    (ops : List StockOp) :
    (∀ k item, (run (stockStep digest revisionOf) db ops).purchaseItems.get? k = some item →
      RecordedGoods k item (lineMovements k (run (stockStep digest revisionOf) db ops).movements) ∧
        item.Excluded) ∧
    ∀ xs, xs <+: ops → ∀ k item,
      (run (stockStep digest revisionOf) db xs).purchaseItems.get? k = some item →
      item.receivedAt ≠ none →
      ∃ item', (run (stockStep digest revisionOf) db ops).purchaseItems.get? k = some item' ∧
        Frozen item item' := by
  constructor
  · have inv := run_invariant (I := GoodsInv) (fun _ op h => h.step digest revisionOf op)
      fresh.goodsInv ops
    exact fun k item found => ⟨inv.recorded k item found, inv.excluded k item found⟩
  · rintro xs ⟨ys, rfl⟩ k item found received
    rw [run_append]
    refine run_invariant
      (I := fun s : Db => ∃ item', s.purchaseItems.get? k = some item' ∧ Frozen item item') ?_
      ⟨item, found, rfl⟩ ys
    rintro s op ⟨item₁, found₁, first⟩
    obtain ⟨item₂, found₂, second⟩ :=
      stockStep_frozen digest revisionOf s op found₁ (first.received received)
    exact ⟨item₂, found₂, first.trans second⟩

theorem sampleShop_freshPurchases : FreshPurchases sampleShop :=
  ⟨fun _ => rfl, fun _ => rfl, fun _ => rfl, nofun⟩

/-- A line that is received and returned. -/
theorem purchased_goods_flow_sample :
    ∃ item, (run (stockStep (fun _ => "") fun _ => "") sampleShop
        [.purchase (.createManualPurchase 7 samplePurchase "1"),
          .purchase (.receivePurchaseItem 7 1 0), .shop (.returnPurchaseItem 7 1 3)]
        ).purchaseItems.get? 1 = some item ∧ item.returnedAt = some 3 ∧
      RecordedGoods 1 item (lineMovements 1 (run (stockStep (fun _ => "") fun _ => "") sampleShop
        [.purchase (.createManualPurchase 7 samplePurchase "1"),
          .purchase (.receivePurchaseItem 7 1 0), .shop (.returnPurchaseItem 7 1 3)]).movements) :=
  ⟨_, rfl, rfl, ((purchased_goods_flow (fun _ => "") (fun _ => "") sampleShop_freshPurchases
    [.purchase (.createManualPurchase 7 samplePurchase "1"),
      .purchase (.receivePurchaseItem 7 1 0), .shop (.returnPurchaseItem 7 1 3)]).1 1 _ rfl).1⟩

end ColorfulLife
