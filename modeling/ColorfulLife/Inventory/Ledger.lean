/-
The inventory ledger: for every listing, what the movements leave unexplained of
its stock never changes.

The machine runs every request that moves stock, the requests around purchases,
and the requests that create or switch listings. Each appends movements that
account for the listings it found; a listing it creates comes with its opening
stock.
-/

import ColorfulLife.Inventory.Listings
import ColorfulLife.Purchases.Changes
import ColorfulLife.Shop.Booking

namespace ColorfulLife

open Relational Relation

/-! ### The machine -/

inductive StockOp where
  | shop (op : ShopOp)
  | purchase (op : PurchaseOp)
  | createProduct (input : ProductInput)
  | createPurchaseListing (userId purchaseId : Nat) (body : PurchaseListingInput)
  | deactivateProduct (id : Nat)
  | reactivateProduct (id : Nat)

def stockStep (digest : CanonicalRequest → String) (revisionOf : ReviewPurchase → String)
    (db : Db) : StockOp → Db
  | .shop op => shopStep digest db op
  | .purchase op => purchaseStep revisionOf db op
  | .createProduct input => commit (createProduct input db) db
  | .createPurchaseListing userId purchaseId body =>
      commit (createPurchaseListing userId purchaseId body db) db
  | .deactivateProduct id => commit (deactivateProduct id db) db
  | .reactivateProduct id => commit (reactivateProduct id db) db

/-- The stock that a request gives a new listing. -/
def StockOp.initialStock : StockOp → Int
  | .createProduct input => input.currentStock.getD 0
  | _ => 0

/-- The part of a listing's stock that its movements do not explain. -/
def unbooked (k : Nat) (db : Db) : Option Int :=
  (db.listings.get? k).map fun l => l.currentStock - netChange k db.movements

/-- `InventoryMovement.listingId` is a foreign key. -/
def MovementsListed (db : Db) : Prop :=
  ∀ m ∈ db.movements, (db.listings.get? m.listingId).isSome

/-! ### One request -/

/-- Movements are appended and account for the listings that were there. A
listing that is added is a used offer without opening stock, or a new one with
the stock `opening` and no movement. -/
structure Accounts (opening : Int) (s s' : Stock) (ns : List InventoryMovement) : Prop where
  movements : s'.movements = s.movements ++ ns
  kept : ∀ k l, s.listings.get? k = some l → ∃ l', s'.listings.get? k = some l' ∧
    l'.currentStock = l.currentStock + netChange k ns
  added : ∀ k l', s.listings.get? k = none → s'.listings.get? k = some l' →
    (l'.condition = .usedLikeNew ∧ l'.currentStock = netChange k ns) ∨
      (l'.condition = .new ∧ l'.currentStock = opening ∧ netChange k ns = 0)
  listed : ∀ m ∈ ns, (s'.listings.get? m.listingId).isSome

section Requests

variable {db db' : Db} {P : MovementNote → Prop} {opening : Int}

theorem Entered.accounts {s s' : Stock} (h : Entered P s s') : ∃ ns, Accounts opening s s' ns := by
  obtain ⟨ns, movements, -, booked⟩ := h
  refine ⟨ns, movements, fun k l hl => ?_, fun k l' none hl' => ?_, booked.listed⟩
  · obtain ⟨l', hl', -, stock⟩ := booked.kept k l hl
    exact ⟨l', hl', stock⟩
  · exact Or.inl (booked.added k l' none hl')

/-- An elementary change of a purchase books what it moves. -/
theorem PurchaseChange.entered (change : PurchaseChange db db') :
    Entered (fun _ => True) db.stock db'.stock := by
  cases change with
  | stored => exact Entered.refl _
  | edited => exact Entered.refl _
  | recalculated _ _ _ tx =>
      simp only [recalculate, bind_eq_ok, ensure_eq_ok, pure_eq_ok] at tx
      obtain ⟨-, -, calculated, -, -, -, rfl⟩ := tx
      exact Entered.refl _
  | received tx =>
      obtain ⟨item, listingId, l, -, -, -, -, hl, -, -, rfl⟩ := receivePurchaseItem_eq_ok.mp tx
      exact Entered.update (s := db.stock) (m := movementOf listingId item.quantity _ _ _) hl rfl
        rfl trivial
  | returned tx =>
      obtain ⟨item, listingId, l, -, -, -, -, -, hl, -, rfl⟩ := returnPurchaseItem_eq_ok.mp tx
      exact Entered.update (s := db.stock) (m := movementOf listingId (-item.quantity) _ _ _) hl rfl
        rfl trivial

theorem purchaseStep_entered (revisionOf : ReviewPurchase → String) (db : Db) (op : PurchaseOp) :
    Entered (fun _ => True) db.stock (purchaseStep revisionOf db op).stock :=
  changes_invariant (I := fun s => Entered (fun _ => True) db.stock s.stock)
    (fun _ _ before change => before.trans change.entered) (purchaseStep_changes revisionOf db op)
    (Entered.refl _)

theorem Listed.accounts (h : Listed opening db db') : Accounts opening db.stock db'.stock [] := by
  obtain ⟨legoProducts, legoProductId, originalPrice, salePrice, rfl⟩ := h
  refine ⟨(List.append_nil _).symm, fun k l hl => ?_, fun k l' none hl' => ?_, nofun⟩
  · exact ⟨l, Table.get?_insert_of_some hl, (add_zero _).symm⟩
  · dsimp only [Db.stock] at none hl'
    rcases Table.insert_cases hl' with ⟨-, rfl⟩ | hl'
    · exact Or.inr ⟨rfl, rfl, rfl⟩
    · rw [none] at hl'
      cases hl'

theorem Switched.entered (h : Switched db db') : Entered P db.stock db'.stock := by
  obtain ⟨id, active, rfl⟩ := h
  exact Entered.rows (s := db.stock)
    (Table.rows_update (fun _ _ => ⟨rfl, rfl⟩) fun _ _ _ => ⟨rfl, rfl⟩)

/-- Every request accounts for the stock it leaves. -/
theorem stockStep_accounts (digest : CanonicalRequest → String)
    (revisionOf : ReviewPurchase → String) (db : Db) (op : StockOp) :
    ∃ ns, Accounts op.initialStock db.stock (stockStep digest revisionOf db op).stock ns := by
  have unchanged : ∃ ns, Accounts op.initialStock db.stock db.stock ns :=
    (Entered.refl (P := fun _ => True) _).accounts
  cases op with
  | shop op => exact (shopStep_entered digest db op).accounts
  | purchase op => exact (purchaseStep_entered revisionOf db op).accounts
  | createProduct input =>
      exact commit_rel (R := fun db db' : Db => ∃ ns, Accounts _ db.stock db'.stock ns) unchanged
        fun db' tx => ⟨[], (createProduct_ok tx).2.accounts⟩
  | createPurchaseListing userId purchaseId body =>
      exact commit_rel (R := fun db db' : Db => ∃ ns, Accounts _ db.stock db'.stock ns) unchanged
        fun db' tx => ⟨[], (createPurchaseListing_ok tx).accounts⟩
  | deactivateProduct id =>
      exact commit_rel (R := fun db db' : Db => ∃ ns, Accounts _ db.stock db'.stock ns) unchanged
        fun db' tx => ((deactivateProduct_ok tx).entered (P := fun _ => True)).accounts
  | reactivateProduct id =>
      exact commit_rel (R := fun db db' : Db => ∃ ns, Accounts _ db.stock db'.stock ns) unchanged
        fun db' tx => ((reactivateProduct_ok tx).entered (P := fun _ => True)).accounts

end Requests

/-! ### Runs -/

namespace Accounts

variable {opening : Int} {db db' : Db} {ns : List InventoryMovement} {k : Nat}

/-- What is unexplained of a listing stays as it is. -/
theorem unbooked_eq (h : Accounts opening db.stock db'.stock ns)
    (there : (unbooked k db).isSome) : unbooked k db' = unbooked k db := by
  rw [unbooked, Option.isSome_map] at there
  obtain ⟨l, hl⟩ := Option.isSome_iff_exists.mp there
  obtain ⟨l', hl', stock⟩ := h.kept k l hl
  have movements : db'.movements = db.movements ++ ns := h.movements
  dsimp only [Db.stock] at hl'
  rw [unbooked, unbooked, hl, hl', movements, Option.map_some, Option.map_some, stock,
    netChange_append]
  congr 1
  ring

theorem movementsListed (h : Accounts opening db.stock db'.stock ns)
    (listed : MovementsListed db) : MovementsListed db' := by
  intro m hm
  have movements : db'.movements = db.movements ++ ns := h.movements
  rw [movements] at hm
  rcases List.mem_append.mp hm with old | appended
  · obtain ⟨l, hl⟩ := Option.isSome_iff_exists.mp (listed m old)
    obtain ⟨l', hl', -⟩ := h.kept _ l hl
    exact Option.isSome_of_mem hl'
  · exact h.listed m appended

/-- What is unexplained of a listing at its creation. -/
theorem unbooked_created (h : Accounts opening db.stock db'.stock ns) (listed : MovementsListed db)
    {l : ProductListing} (absent : db.listings.get? k = none) (hl : db'.listings.get? k = some l) :
    unbooked k db' = some (if l.condition = .new then l.currentStock else 0) ∧
      (l.condition = .new → l.currentStock = opening) := by
  have past : netChange k db.movements = 0 := netChange_eq_zero fun m hm same => by
    have := listed m hm
    rw [same, absent] at this
    cases this
  have movements : db'.movements = db.movements ++ ns := h.movements
  rw [unbooked, hl, movements, netChange_append, past, Option.map_some]
  rcases h.added k l absent hl with ⟨used, stock⟩ | ⟨new, stock, unmoved⟩
  · rw [used, stock]
    exact ⟨by simp, nofun⟩
  · rw [new, unmoved]
    exact ⟨by simp, fun _ => stock⟩

end Accounts

/-- In every run, what the movements of a listing leave unexplained of its stock
is the same in every state from its creation on: nothing for a used offer, the
stock it was created with for a new listing. -/
theorem stock_is_booked (digest : CanonicalRequest → String)
    (revisionOf : ReviewPurchase → String) {db : Db} (listed : MovementsListed db)
    (ops : List StockOp) :
    (∀ xs, xs <+: ops → ∀ k, (unbooked k (run (stockStep digest revisionOf) db xs)).isSome →
      unbooked k (run (stockStep digest revisionOf) db ops) =
        unbooked k (run (stockStep digest revisionOf) db xs)) ∧
    ∀ t ∈ transitions (stockStep digest revisionOf) db ops, ∀ k l,
      t.1.listings.get? k = none →
      (stockStep digest revisionOf t.1 t.2).listings.get? k = some l →
      unbooked k (stockStep digest revisionOf t.1 t.2) =
          some (if l.condition = .new then l.currentStock else 0) ∧
        (l.condition = .new → l.currentStock = t.2.initialStock) := by
  constructor
  · rintro xs ⟨ys, rfl⟩ k there
    rw [run_append]
    refine run_rel_of (R := fun db db' => (unbooked k db).isSome → unbooked k db' = unbooked k db)
      (fun _ _ => rfl) (fun first second there => ?_) (fun t _ => ?_) there
    · have first := first there
      exact (second (first ▸ there)).trans first
    · obtain ⟨ns, accounts⟩ := stockStep_accounts digest revisionOf t.1 t.2
      exact accounts.unbooked_eq
  · intro t ht k l absent hl
    have listed := transitions_invariant (I := MovementsListed) (fun db op h =>
      let ⟨_, accounts⟩ := stockStep_accounts digest revisionOf db op
      accounts.movementsListed h) listed ops t ht
    obtain ⟨ns, accounts⟩ := stockStep_accounts digest revisionOf t.1 t.2
    exact accounts.unbooked_created listed absent hl

/-- An adjustment, a stocktake and a refused adjustment of a listing that was
created with five units. -/
theorem stock_is_booked_sample : unbooked 1 (run (stockStep (fun _ => "") fun _ => "") sampleShop
    [.shop (.adjustInventory 1 3 7), .shop (.reconcileStocktake ⟨1, 2, none, 7⟩),
      .shop (.adjustInventory 1 (-9) 7)]) = some 5 :=
  (stock_is_booked (fun _ => "") (fun _ => "") (nofun : MovementsListed sampleShop) _).1 []
    List.nil_prefix 1 rfl

end ColorfulLife
