/-
The cart's provenance in every reachable state.

Every action keeps `ProvenanceInv`. A cart mutation settles first, so its own
writes are on a settled cart; the order transitions only move a provenance from
one attached state to another.
-/

import ColorfulLife.Cart.Machine
import ColorfulLife.Cart.Reduction
import ColorfulLife.Cart.Settlement
import ColorfulLife.Shop.Effects

namespace ColorfulLife

open Relational

/-! ### Reading carts -/

section Reading

variable {db : Db} {userId cartId productListingId k : Nat}

theorem findCart_eq_some {cart : Cart} (h : findCart userId db = some (cartId, cart)) :
    db.carts.get? cartId = some cart ∧ cart.userId = userId := by
  obtain ⟨found, owner⟩ := Table.find?_eq_some h
  exact ⟨found, of_decide_eq_true owner⟩

theorem findCartItem_eq_some {row : CartItem}
    (h : findCartItem cartId productListingId db = some (k, row)) :
    db.cartItems.get? k = some row ∧ row.cartId = cartId ∧
      row.productListingId = productListingId := by
  obtain ⟨found, same⟩ := Table.find?_eq_some h
  exact ⟨found, of_decide_eq_true same⟩

theorem findCartItem_eq_none (h : findCartItem cartId productListingId db = none) :
    ∀ k row, db.cartItems.get? k = some row → row.cartId = cartId →
      row.productListingId ≠ productListingId := by
  intro k row found cart listing
  have none := Table.find?_eq_none.mp h k row found
  simp [cart, listing] at none

end Reading

/-! ### What each mutation does -/

section Mutations

variable {db db' : Db} {userId productListingId : Nat} {input : RequestLine} {now : Time}

theorem addCartItem_ok {itemId : Nat} (h : addCartItem userId input now db = .ok (db', itemId)) :
    ∃ settled, settleCartReconciliation userId now db = .ok settled ∧
      ((∃ row, findCartItem (upsertCart userId settled).2 input.productListingId
            (upsertCart userId settled).1 = some (itemId, row) ∧
          db' = { (upsertCart userId settled).1 with
            cartItems := (upsertCart userId settled).1.cartItems.update itemId fun r =>
              { r with quantity := row.quantity + input.quantity } }) ∨
        (findCartItem (upsertCart userId settled).2 input.productListingId
            (upsertCart userId settled).1 = none ∧
          db' = { (upsertCart userId settled).1 with
            cartItems := (upsertCart userId settled).1.cartItems.insert
              { cartId := (upsertCart userId settled).2
                productListingId := input.productListingId
                quantity := input.quantity } })) := by
  simp only [addCartItem, bind_eq_ok] at h
  obtain ⟨settled, hsettle, h⟩ := h
  refine ⟨settled, hsettle, ?_⟩
  cases hfind : findCartItem (upsertCart userId settled).2 input.productListingId
      (upsertCart userId settled).1 with
  | some e =>
      obtain ⟨id, row⟩ := e
      simp only [hfind, bind_eq_ok, pure_eq_ok, Prod.mk.injEq] at h
      obtain ⟨-, -, rfl, rfl⟩ := h
      exact Or.inl ⟨row, rfl, rfl⟩
  | none =>
      simp only [hfind, bind_eq_ok, pure_eq_ok, Prod.mk.injEq] at h
      obtain ⟨-, -, rfl, -⟩ := h
      exact Or.inr ⟨rfl, rfl⟩

theorem updateCartItem_ok (h : updateCartItem userId input now db = .ok db') :
    ∃ cartId cart settled, findCart userId db = some (cartId, cart) ∧
      settleCartReconciliation userId now db = .ok settled ∧
      ((∃ k row, findCartItem cartId input.productListingId settled = some (k, row) ∧
          db' = { reduceAllocations k input.quantity settled with
            cartItems := settled.cartItems.update k fun r =>
              { r with quantity := input.quantity } }) ∨
        (findCartItem cartId input.productListingId settled = none ∧
          db' = { settled with
            cartItems := settled.cartItems.insert
              { cartId := cartId
                productListingId := input.productListingId
                quantity := input.quantity } })) := by
  simp only [updateCartItem, bind_eq_ok, orThrow_eq_ok] at h
  obtain ⟨⟨cartId, cart⟩, hcart, -, -, settled, hsettle, h⟩ := h
  refine ⟨cartId, cart, settled, hcart, hsettle, ?_⟩
  cases hfind : findCartItem cartId input.productListingId settled with
  | some e =>
      obtain ⟨k, row⟩ := e
      simp only [hfind, bind_eq_ok, pure_eq_ok] at h
      obtain ⟨-, -, rfl⟩ := h
      exact Or.inl ⟨k, row, rfl, rfl⟩
  | none =>
      simp only [hfind, bind_eq_ok, pure_eq_ok] at h
      obtain ⟨-, -, rfl⟩ := h
      exact Or.inr ⟨rfl, rfl⟩

theorem removeCartItem_ok (h : removeCartItem userId productListingId now db = .ok db') :
    ∃ cartId cart k original settled, findCart userId db = some (cartId, cart) ∧
      findCartItem cartId productListingId db = some (k, original) ∧
      settleCartReconciliation userId now db = .ok settled ∧
      ((settled.cartItems.get? k ≠ none ∧
          db' = deleteCartItem k (reduceAllocations k 0 settled)) ∨
        (settled.cartItems.get? k = none ∧ db' = settled)) := by
  simp only [removeCartItem, bind_eq_ok, orThrow_eq_ok] at h
  obtain ⟨⟨cartId, cart⟩, hcart, ⟨k, original⟩, hrow, settled, hsettle, h⟩ := h
  refine ⟨cartId, cart, k, original, settled, hcart, hrow, hsettle, ?_⟩
  cases found : settled.cartItems.get? k with
  | some row =>
      simp only [found, pure_eq_ok] at h
      exact Or.inl ⟨by simp, h.symm⟩
  | none =>
      simp only [found, pure_eq_ok] at h
      exact Or.inr ⟨rfl, h.symm⟩

theorem clearCart_ok (h : clearCart userId now db = .ok db') :
    ∃ settled, settleCartReconciliation userId now db = .ok settled ∧
      ((∃ cartId cart, findCart userId settled = some (cartId, cart) ∧
          db' = emptyCart cartId settled) ∨
        (findCart userId settled = none ∧ db' = settled)) := by
  simp only [clearCart, bind_eq_ok] at h
  obtain ⟨settled, hsettle, h⟩ := h
  refine ⟨settled, hsettle, ?_⟩
  cases hcart : findCart userId settled with
  | some e =>
      obtain ⟨cartId, cart⟩ := e
      simp only [hcart, pure_eq_ok] at h
      exact Or.inl ⟨cartId, cart, rfl, h.symm⟩
  | none =>
      simp only [hcart, pure_eq_ok] at h
      exact Or.inr ⟨rfl, h.symm⟩

end Mutations

/-! ### Emptying a cart -/

section Empty

variable {db : Db}

/-- Release what is held of the rows. -/
def releaseRows (ids : List Nat) (db : Db) : Db :=
  ids.foldl (fun db id => reduceAllocations id 0 db) db

def deleteRows (ids : List Nat) (db : Db) : Db :=
  ids.foldl (fun db id => deleteCartItem id db) db

theorem releaseRows_frame (ids : List Nat) (db : Db) :
    releaseRows ids db = { db with cartAllocations := (releaseRows ids db).cartAllocations } := by
  induction ids generalizing db with
  | nil => rfl
  | cons id ids ih => exact ih (reduceAllocations id 0 db)

theorem deleteRows_frame (ids : List Nat) (db : Db) :
    deleteRows ids db = { db with
      cartItems := (deleteRows ids db).cartItems
      cartAllocations := (deleteRows ids db).cartAllocations } := by
  induction ids generalizing db with
  | nil => rfl
  | cons id ids ih => exact ih (deleteCartItem id db)

/-- Sums over other rows stay. -/
theorem ProvenanceInv.releaseRows (h : ProvenanceInv db) (ids : List Nat) :
    ProvenanceInv (releaseRows ids db) ∧ ∀ p : OrderCartAllocation → Bool,
      (∀ a n, p (.lower n a) = p a) →
      (∀ k ∈ ids, ∀ a : OrderCartAllocation, a.cartItemId = some k → p a = false) →
      visibleSum p (ColorfulLife.releaseRows ids db).cartAllocations =
        visibleSum p db.cartAllocations := by
  induction ids generalizing db with
  | nil => exact ⟨h, fun _ _ _ => rfl⟩
  | cons id ids ih =>
      obtain ⟨inv, others⟩ := ih (h.reduce (k := id) (le_refl 0))
      refine ⟨inv, fun p stable other => ?_⟩
      have rest := others p stable fun k hk => other k (List.mem_cons_of_mem _ hk)
      exact rest.trans (h.visibleSum_reduce_other stable (other id List.mem_cons_self) le_rfl)

/-- Nothing is held of the released rows. -/
theorem ProvenanceInv.heldOf_releaseRows (h : ProvenanceInv db) {ids : List Nat} :
    ∀ k ∈ ids, heldOf k (ColorfulLife.releaseRows ids db) = 0 := by
  induction ids generalizing db with
  | nil => intro k hk; cases hk
  | cons id ids ih =>
      intro k hk
      have reduced : ProvenanceInv (reduceAllocations id 0 db) := h.reduce le_rfl
      by_cases mem : k ∈ ids
      · exact ih reduced k mem
      · -- Released first, and not touched any more.
        obtain rfl : k = id := (List.mem_cons.mp hk).resolve_right mem
        have least := h.heldOf_nonneg (k := k)
        have stays : heldOf k (ColorfulLife.releaseRows ids (reduceAllocations k 0 db)) =
            heldOf k (reduceAllocations k 0 db) := by
          refine (reduced.releaseRows ids).2 _ (fun _ _ => rfl) fun j hj a on => ?_
          have apart : j ≠ k := fun same => mem (same ▸ hj)
          simp [on, apart]
        refine stays.trans ?_
        rw [h.heldOf_reduce le_rfl]
        omega

/-- Rows of which nothing is held are deleted. -/
theorem ProvenanceInv.deleteRows (h : ProvenanceInv db) {ids : List Nat}
    (zero : ∀ k ∈ ids, heldOf k db = 0) :
    ProvenanceInv (deleteRows ids db) ∧
      (∀ p, visibleSum p (ColorfulLife.deleteRows ids db).cartAllocations =
        visibleSum p db.cartAllocations) ∧
      ∀ k, (ColorfulLife.deleteRows ids db).cartItems.get? k =
        if k ∈ ids then none else db.cartItems.get? k := by
  induction ids generalizing db with
  | nil => exact ⟨h, fun _ => rfl, fun k => rfl⟩
  | cons id ids ih =>
      have empty : heldOf id db = 0 := zero id List.mem_cons_self
      have sums := h.visibleSum_delete empty
      obtain ⟨inv, same, rows⟩ := ih (h.deleteRow empty)
        fun k hk => (sums _).trans (zero k (List.mem_cons_of_mem _ hk))
      refine ⟨inv, fun p => (same p).trans (sums p), fun k => (rows k).trans ?_⟩
      rw [get?_deleteCartItem]
      by_cases mem : k ∈ ids
      · simp [mem]
      · by_cases own : k = id <;> simp [mem, own]

/-- The rows of a cart. -/
def rowsOf (cartId : Nat) (db : Db) : List Nat :=
  (db.cartItems.select fun _ item => decide (item.cartId = cartId)).map Prod.fst

theorem mem_rowsOf {cartId k : Nat} : k ∈ rowsOf cartId db ↔
    ∃ row, db.cartItems.get? k = some row ∧ row.cartId = cartId := by
  rw [rowsOf, List.mem_map]
  constructor
  · rintro ⟨⟨j, row⟩, hmem, rfl⟩
    obtain ⟨found, own⟩ := Table.mem_select.mp hmem
    exact ⟨row, found, of_decide_eq_true own⟩
  · rintro ⟨row, found, own⟩
    exact ⟨(k, row), Table.mem_select.mpr ⟨found, decide_eq_true own⟩, rfl⟩

theorem emptyCart_eq (cartId : Nat) :
    emptyCart cartId db = deleteRows (rowsOf cartId db) (releaseRows (rowsOf cartId db) db) := rfl

/-- The cart's rows go, and with them what orders hold of them. -/
theorem ProvenanceInv.emptyCart (h : ProvenanceInv db) (cartId : Nat) :
    ProvenanceInv (emptyCart cartId db) ∧
      (∀ k row, (ColorfulLife.emptyCart cartId db).cartItems.get? k = some row ↔
        db.cartItems.get? k = some row ∧ row.cartId ≠ cartId) ∧
      ∀ k row, db.cartItems.get? k = some row → row.cartId ≠ cartId → ∀ o,
        visibleOf o k (ColorfulLife.emptyCart cartId db) = visibleOf o k db := by
  rw [emptyCart_eq]
  obtain ⟨released, others⟩ := h.releaseRows (rowsOf cartId db)
  obtain ⟨deleted, sums, rows⟩ := released.deleteRows h.heldOf_releaseRows
  refine ⟨deleted, fun k row => ?_, fun k row found other o => (sums _).trans ?_⟩
  · rw [rows k, releaseRows_frame]
    by_cases mem : k ∈ rowsOf cartId db
    · obtain ⟨row', found, own⟩ := mem_rowsOf.mp mem
      simp only [mem, if_true, reduceCtorEq, found, Option.some.injEq, false_iff, not_and, not_not]
      rintro rfl
      exact own
    · have other : db.cartItems.get? k = some row → row.cartId ≠ cartId :=
        fun found own => mem (mem_rowsOf.mpr ⟨row, found, own⟩)
      simp only [mem, if_false]
      exact ⟨fun found => ⟨found, other found⟩, And.left⟩
  · refine others _ (fun _ _ => rfl) fun j hj a on => ?_
    obtain ⟨row', found', own⟩ := mem_rowsOf.mp hj
    have apart : j ≠ k := by
      rintro rfl
      obtain rfl := Option.some.inj (found.symm.trans found')
      exact other own
    simp [on, apart]

end Empty

/-! ### Associating an order -/

section Associate

variable {db db' : Db} {cartId orderId : Nat} {lines : List RequestLine}
  {plan : List AllocationPlan}

/-- The part of a plan that a line has, if it has a saved row. -/
def planOf (cartId : Nat) (db : Db) (line : RequestLine) : Option AllocationPlan :=
  (findCartItem cartId line.productListingId db).map fun e =>
    ⟨e.1, line.productListingId, line.quantity, line.quantity⟩

theorem planAllocations_ok (h : planAllocations cartId db lines = .ok plan) :
    plan = lines.filterMap (planOf cartId db) ∧ ∀ line ∈ lines, ∀ k row,
      findCartItem cartId line.productListingId db = some (k, row) →
        line.quantity ≤ row.quantity - allocatedQuantity k db := by
  induction lines generalizing plan with
  | nil => exact ⟨(Except.ok.inj h).symm, fun line hl => by cases hl⟩
  | cons line lines ih =>
      rw [planAllocations] at h
      cases hfind : findCartItem cartId line.productListingId db with
      | none =>
          rw [hfind] at h
          obtain ⟨rfl, enough⟩ := ih h
          refine ⟨by simp [planOf, hfind], fun l hl k row found => ?_⟩
          rcases List.mem_cons.mp hl with rfl | hl
          · rw [hfind] at found
            cases found
          · exact enough l hl k row found
      | some e =>
          rw [hfind] at h
          simp only [bind_eq_ok, ensure_eq_ok, pure_eq_ok] at h
          obtain ⟨-, fits, rest, hrest, rfl⟩ := h
          obtain ⟨rfl, enough⟩ := ih hrest
          refine ⟨by simp [planOf, hfind], fun l hl k row found => ?_⟩
          rcases List.mem_cons.mp hl with rfl | hl
          · obtain rfl := Option.some.inj (hfind.symm.trans found)
            exact Int.not_lt.mp fits
          · exact enough l hl k row found

/-- A refused plan has a line whose saved row has too little left. -/
theorem planAllocations_error {e : DomainError} (h : planAllocations cartId db lines = .error e) :
    ∃ line ∈ lines, ∃ k row, findCartItem cartId line.productListingId db = some (k, row) ∧
      row.quantity - allocatedQuantity k db < line.quantity ∧
      e = .cartQuantityAllocated line.productListingId := by
  induction lines with
  | nil => cases h
  | cons line lines ih =>
      rw [planAllocations] at h
      cases hfind : findCartItem cartId line.productListingId db with
      | none =>
          rw [hfind] at h
          obtain ⟨l, hl, rest⟩ := ih h
          exact ⟨l, List.mem_cons_of_mem _ hl, rest⟩
      | some found =>
          obtain ⟨k, row⟩ := found
          rw [hfind] at h
          simp only [bind_eq_error, ensure_eq_error, ensure_eq_ok, pure_ne_error] at h
          rcases h with ⟨short, rfl⟩ | ⟨-, -, hrest | ⟨_, _, impossible⟩⟩
          · exact ⟨line, List.mem_cons_self, k, row, hfind, not_not.mp short, rfl⟩
          · obtain ⟨l, hl, rest⟩ := ih hrest
            exact ⟨l, List.mem_cons_of_mem _ hl, rest⟩
          · cases impossible

/-- What a plan takes of a row. -/
def plannedOn (k : Nat) (plan : List AllocationPlan) : Int :=
  (plan.map fun e => if e.cartItemId = k then e.visibleQuantity else 0).sum

theorem plannedOn_eq_zero {k : Nat} (none : ∀ e ∈ plan, e.cartItemId ≠ k) :
    plannedOn k plan = 0 := by
  refine List.sum_eq_zero fun n hn => ?_
  obtain ⟨e, he, rfl⟩ := List.mem_map.mp hn
  exact if_neg (none e he)

/-- Rows that are planned once are taken from once. -/
theorem plannedOn_eq (once : (plan.map AllocationPlan.cartItemId).Nodup) {e : AllocationPlan}
    (he : e ∈ plan) : plannedOn e.cartItemId plan = e.visibleQuantity := by
  induction plan with
  | nil => cases he
  | cons first plan ih =>
      simp only [List.map_cons, List.nodup_cons, List.mem_map, not_exists, not_and] at once
      obtain ⟨fresh, once⟩ := once
      rcases List.mem_cons.mp he with rfl | he
      · have rest : plannedOn e.cartItemId plan = 0 := plannedOn_eq_zero fresh
        unfold plannedOn at rest ⊢
        simp [rest]
      · have rest := ih once he
        have other : first.cartItemId ≠ e.cartItemId := fun same => fresh e he same.symm
        unfold plannedOn at rest ⊢
        simp [other, rest]

/-- Lines for different listings have different rows. -/
theorem planOf_once (distinct : (lines.map RequestLine.productListingId).Nodup) :
    ((lines.filterMap (planOf cartId db)).map AllocationPlan.cartItemId).Nodup := by
  refine List.pairwise_map.mpr ((List.pairwise_map.mp distinct).filterMap _ ?_)
  intro a b apart x hx y hy same
  simp only [planOf, Option.map_eq_some_iff] at hx hy
  obtain ⟨⟨k, row⟩, hfind, rfl⟩ := hx
  obtain ⟨⟨j, row'⟩, hfind', rfl⟩ := hy
  obtain ⟨found, -, listing⟩ := findCartItem_eq_some hfind
  obtain ⟨found', -, listing'⟩ := findCartItem_eq_some hfind'
  dsimp only at same
  subst same
  obtain rfl := Option.some.inj (found.symm.trans found')
  exact apart (listing.symm.trans listing')

/-- What the allocations of a plan add to a sum. -/
theorem visibleSum_allocate (p : OrderCartAllocation → Bool) (t : Table OrderCartAllocation) :
    visibleSum p ((plan.map (allocationOf orderId)).foldl Table.insert t) = visibleSum p t +
      (plan.map fun e => if p (allocationOf orderId e) then e.visibleQuantity else 0).sum := by
  unfold visibleSum
  rw [Table.sum_insertAll, List.map_map]
  rfl

/-- A plan of free quantity on rows of the cart, each row once. -/
structure Fits (cartId : Nat) (plan : List AllocationPlan) (db : Db) : Prop where
  once : (plan.map AllocationPlan.cartItemId).Nodup
  rows : ∀ e ∈ plan, ∃ row, db.cartItems.get? e.cartItemId = some row ∧ row.cartId = cartId ∧
    row.productListingId = e.productListingId ∧ 0 ≤ e.visibleQuantity ∧
    e.visibleQuantity ≤ e.quantity ∧ e.visibleQuantity ≤ row.quantity - heldOf e.cartItemId db

theorem ProvenanceInv.plan_fits (h : ProvenanceInv db)
    (distinct : (lines.map RequestLine.productListingId).Nodup)
    (planned : planAllocations cartId db lines = .ok plan) : Fits cartId plan db := by
  obtain ⟨rfl, enough⟩ := planAllocations_ok planned
  refine ⟨planOf_once distinct, fun e he => ?_⟩
  obtain ⟨line, hline, he⟩ := List.mem_filterMap.mp he
  simp only [planOf, Option.map_eq_some_iff] at he
  obtain ⟨⟨k, row⟩, hfind, rfl⟩ := he
  obtain ⟨found, cart, listing⟩ := findCartItem_eq_some hfind
  have fits := enough line hline k row hfind
  rw [h.allocatedQuantity_eq] at fits
  exact ⟨row, found, cart, listing, le_of_lt line.positive, le_rfl, fits⟩

/-- The order gets the planned quantity, and the invariant holds with it. -/
theorem ProvenanceInv.allocate (h : ProvenanceInv db) (fits : Fits cartId plan db)
    (tx : allocateOrderCart orderId (some (cartId, plan)) db = .ok db') :
    ProvenanceInv db' ∧ ∀ o k,
      visibleOf o k db' = visibleOf o k db + if o = orderId then plannedOn k plan else 0 := by
  simp only [allocateOrderCart, bind_eq_ok, orThrow_eq_ok, pure_eq_ok] at tx
  obtain ⟨provenance, inserted, rfl⟩ := tx
  have recorded := Table.get?_insertAt inserted
  have new : AttachedKept db.cartProvenance provenance := by
    intro o p found attached
    obtain ⟨fresh, -⟩ := Table.insertAt_eq_some inserted
    have other : o ≠ orderId := by
      rintro rfl
      rw [fresh] at found
      cases found
    exact ⟨p, (recorded o).trans ((if_neg other).trans found), attached, rfl⟩
  have held : ∀ k, heldOf k { db with
      cartProvenance := provenance
      cartAllocations := (plan.map (allocationOf orderId)).foldl Table.insert db.cartAllocations } =
        heldOf k db + plannedOn k plan := by
    intro k
    refine (visibleSum_allocate _ _).trans ?_
    simp [heldOf, plannedOn, allocationOf]
  refine ⟨⟨fun i a ha => ?_, fun i a ha positive => ?_, fun k row found => ?_⟩, fun o k => ?_⟩
  · rcases Table.mem_insertAll ha with old | ⟨-, hmem⟩
    · exact h.bounded i a old
    · obtain ⟨e, he, rfl⟩ := List.mem_map.mp hmem
      obtain ⟨-, -, -, -, least, most, -⟩ := fits.rows e he
      exact ⟨least, most⟩
  · rcases Table.mem_insertAll ha with old | ⟨-, hmem⟩
    · exact (h.standing i a old positive).kept (RowsKept.refl _) new
    · obtain ⟨e, he, rfl⟩ := List.mem_map.mp hmem
      obtain ⟨row, found, cart, listing, -⟩ := fits.rows e he
      exact ⟨e.cartItemId, row, _, rfl, found, (recorded _).trans (if_pos rfl), rfl, cart, listing⟩
  · rw [held k]
    by_cases planned : ∃ e ∈ plan, e.cartItemId = k
    · obtain ⟨e, he, rfl⟩ := planned
      obtain ⟨row', found', -, -, -, -, enough⟩ := fits.rows e he
      obtain rfl := Option.some.inj (found.symm.trans found')
      rw [plannedOn_eq fits.once he]
      omega
    · have none : plannedOn k plan = 0 :=
        plannedOn_eq_zero fun e he same => planned ⟨e, he, same⟩
      have covered := h.covered k row found
      omega
  · refine (visibleSum_allocate _ _).trans ?_
    unfold visibleOf
    by_cases own : o = orderId
    · simp [own, plannedOn, allocationOf]
    · simp [own, allocationOf, Ne.symm own]

end Associate

/-! ### The actions -/

section Actions

variable {db db' : Db} {digest : CanonicalRequest → String}

/-- Nothing of the carts differs. -/
structure SameCart (db db' : Db) : Prop where
  carts : db'.carts = db.carts
  rows : db'.cartItems = db.cartItems
  provenance : db'.cartProvenance = db.cartProvenance
  allocations : db'.cartAllocations = db.cartAllocations

theorem ProvenanceInv.same (h : ProvenanceInv db) (same : SameCart db db') : ProvenanceInv db' :=
  h.same_allocations same.allocations (same.rows ▸ RowsKept.refl _)
    (same.provenance ▸ AttachedKept.refl _) fun k row found => h.covered k row (same.rows ▸ found)

theorem ProvenanceInv.upsertCart (h : ProvenanceInv db) (userId : Nat) :
    ProvenanceInv (upsertCart userId db).1 := by
  unfold ColorfulLife.upsertCart
  split
  · exact h
  · exact h.same_allocations rfl (RowsKept.refl _) (AttachedKept.refl _) h.covered

theorem SettledBy.inv {tasks : List CartTask} (settled : SettledBy tasks db db')
    (h : ProvenanceInv db) : ProvenanceInv db' := by
  induction settled with
  | nil db => exact h
  | cons first _ ih => exact ih first.inv

/-- What a settlement that went through did. -/
theorem ProvenanceInv.settled (h : ProvenanceInv db) {userId : Nat} {now : Time}
    (tx : settleCartReconciliation userId now db = .ok db') :
    SettledBy (pendingCartTasks userId db) db db' := by
  obtain ⟨db₁, hsettle, settled⟩ := h.settle userId now
  obtain rfl := Except.ok.inj (hsettle.symm.trans tx)
  exact settled

theorem ProvenanceInv.addCartItem (h : ProvenanceInv db) {userId itemId : Nat}
    {input : RequestLine} {now : Time}
    (tx : addCartItem userId input now db = .ok (db', itemId)) : ProvenanceInv db' := by
  obtain ⟨settled, hsettle, ⟨row, hfind, rfl⟩ | ⟨-, rfl⟩⟩ := addCartItem_ok tx
  · have inv := ((h.settled hsettle).inv h).upsertCart userId
    obtain ⟨found, -⟩ := findCartItem_eq_some hfind
    have covered := inv.covered itemId row found
    have positive := input.positive
    exact inv.setQuantity (by omega)
  · exact (((h.settled hsettle).inv h).upsertCart userId).insertRow (le_of_lt input.positive)

theorem ProvenanceInv.updateCartItem (h : ProvenanceInv db) {userId : Nat} {input : RequestLine}
    {now : Time} (tx : updateCartItem userId input now db = .ok db') : ProvenanceInv db' := by
  obtain ⟨cartId, cart, settled, -, hsettle, ⟨k, row, -, rfl⟩ | ⟨-, rfl⟩⟩ := updateCartItem_ok tx
  · have positive := input.positive
    have inv := ((h.settled hsettle).inv h).reduce (k := k) (le_of_lt positive)
    refine inv.setQuantity ?_
    rw [((h.settled hsettle).inv h).heldOf_reduce (le_of_lt positive)]
    exact min_le_right _ _
  · exact ((h.settled hsettle).inv h).insertRow (le_of_lt input.positive)

theorem ProvenanceInv.removeCartItem (h : ProvenanceInv db) {userId productListingId : Nat}
    {now : Time} (tx : removeCartItem userId productListingId now db = .ok db') :
    ProvenanceInv db' := by
  obtain ⟨cartId, cart, k, original, settled, -, -, hsettle, ⟨-, rfl⟩ | ⟨-, rfl⟩⟩ :=
    removeCartItem_ok tx
  · have inv := (h.settled hsettle).inv h
    refine (inv.reduce le_rfl).deleteRow ?_
    rw [inv.heldOf_reduce le_rfl]
    exact min_eq_right inv.heldOf_nonneg
  · exact (h.settled hsettle).inv h

theorem ProvenanceInv.clearCart (h : ProvenanceInv db) {userId : Nat} {now : Time}
    (tx : clearCart userId now db = .ok db') : ProvenanceInv db' := by
  obtain ⟨settled, hsettle, ⟨cartId, cart, -, rfl⟩ | ⟨-, rfl⟩⟩ := clearCart_ok tx
  · exact (((h.settled hsettle).inv h).emptyCart cartId).1
  · exact (h.settled hsettle).inv h

theorem Fits.same {cartId : Nat} {plan : List AllocationPlan} (fits : Fits cartId plan db)
    (same : SameCart db db') : Fits cartId plan db' := by
  refine ⟨fits.once, fun e he => ?_⟩
  unfold heldOf
  rw [same.rows, same.allocations]
  exact fits.rows e he

/-- The association that a placed order was given. -/
theorem placeOrder_associates {userId orderId : Nat} {input : CreateOrderInput}
    {key : Option String} {now : Time}
    (tx : placeOrder digest userId input key now db = .ok (db', orderId)) :
    ∃ db₁, SameCart db db₁ ∧ orderId = db.orders.nextId ∧
      (∃ order, order.status = .pending ∧ db₁.orders = db.orders.insert order) ∧
      ((db' = db₁ ∧ ∀ cartId cart, findCart userId db = some (cartId, cart) →
          planAllocations cartId db input.items = .ok []) ∨
        ∃ cartId cart plan, findCart userId db = some (cartId, cart) ∧
          planAllocations cartId db input.items = .ok plan ∧
          allocateOrderCart orderId (some (cartId, plan)) db₁ = .ok db') := by
  obtain ⟨howner, billing, allocation, listings, -, -, -, hprepare, -, halloc⟩ :=
    placeOrder_eq_ok.mp tx
  refine ⟨{ db with
      listings := listings
      orders := db.orders.insert
        (newOrder digest userId input key now billing (placedItems input db))
      orderItems := (placedItems input db).foldl Table.insert db.orderItems },
    ⟨rfl, rfl, rfl, rfl⟩, howner, ⟨_, rfl, rfl⟩, ?_⟩
  unfold prepareOrderCartAllocation at hprepare
  cases hcart : findCart userId db with
  | none =>
      rw [hcart] at hprepare
      obtain rfl := Except.ok.inj hprepare
      exact Or.inl ⟨(Except.ok.inj halloc).symm, fun _ _ found => by cases found⟩
  | some e =>
      obtain ⟨cartId, cart⟩ := e
      rw [hcart] at hprepare
      simp only [bind_eq_ok, pure_eq_ok] at hprepare
      obtain ⟨plan, hplan, rfl⟩ := hprepare
      by_cases none : plan = []
      · subst none
        refine Or.inl ⟨(Except.ok.inj halloc).symm, fun cartId' cart' found => ?_⟩
        cases found
        exact hplan
      · rw [if_neg none] at halloc
        exact Or.inr ⟨cartId, cart, plan, rfl, hplan, halloc⟩

theorem ProvenanceInv.createOrder (h : ProvenanceInv db) {userId orderId : Nat}
    {input : CreateOrderInput} {key : Option String} {now : Time}
    (tx : createOrder digest userId input key now db = .ok (db', orderId)) : ProvenanceInv db' := by
  rcases createOrder_cases tx with ⟨rfl, -⟩ | ⟨settled, -, hsettle, distinct, hplace⟩
  · exact h
  · have inv := (h.settled hsettle).inv h
    obtain ⟨db₁, same, -, -, ⟨rfl, -⟩ | ⟨cartId, cart, plan, -, hplan, halloc⟩⟩ :=
      placeOrder_associates hplace
    · exact inv.same same
    · have fits := inv.plan_fits (firstDuplicate_eq_none distinct).1 hplan
      exact ((inv.same same).allocate (fits.same same) halloc).1

/-- A pending order ends: its provenance is queued. -/
def Ends (o : Nat) (consume : Bool) (db db' : Db) : Prop :=
  ∃ order f db₁, db.orders.get? o = some order ∧ order.status = .pending ∧
    (∀ x : Order, (f x).status ≠ .pending) ∧ SameCart db db₁ ∧
    db₁.orders = db.orders.update o f ∧ db' = queueCartReconciliation o consume db₁

theorem ProvenanceInv.ends (h : ProvenanceInv db) {o : Nat} {consume : Bool}
    (ends : Ends o consume db db') : ProvenanceInv db' := by
  obtain ⟨order, f, db₁, -, -, -, same, -, rfl⟩ := ends
  exact (h.same same).queue o consume

theorem confirmOrder_ends {performedBy o : Nat}
    (tx : confirmOrderInTransaction performedBy o db = .ok db') : Ends o true db db' := by
  obtain ⟨order, stock, found, pending, -, rfl⟩ := confirmOrderInTransaction_eq_ok.mp tx
  exact ⟨order, Order.confirm, (db.withStock stock).updateOrder o Order.confirm, found, pending,
    fun x => by simp [Order.confirm], ⟨rfl, rfl, rfl, rfl⟩, rfl, rfl⟩

/-- The cancellation of a confirmed order leaves the cart alone. -/
theorem cancelWith_ends {owner : Option Nat} {cancelledBy : CancellationInitiator}
    {performedBy o : Nat} {reason : CancellationReason} {now : Time}
    (tx : cancelWith owner cancelledBy performedBy o reason now db = .ok db') :
    Ends o false db db' ∨ ∃ order f, db.orders.get? o = some order ∧ order.status = .confirmed ∧
      (∀ x : Order, (f x).status ≠ .pending) ∧ SameCart db db' ∧
      db'.orders = db.orders.update o f := by
  obtain ⟨order, hfind, -, ⟨pending, listings, -, rfl⟩ | ⟨confirmed, stock, -, rfl⟩⟩ :=
    cancelWith_eq_ok.mp tx
  · exact Or.inl ⟨order, Order.cancel cancelledBy reason now,
      { db.updateOrder o (Order.cancel cancelledBy reason now) with listings := listings },
      (findCancelled_eq_some.mp hfind).1, pending, fun x => by simp [Order.cancel],
      ⟨rfl, rfl, rfl, rfl⟩, rfl, rfl⟩
  · exact Or.inr ⟨order, Order.cancel cancelledBy reason now, (findCancelled_eq_some.mp hfind).1,
      confirmed, fun x => by simp [Order.cancel], ⟨rfl, rfl, rfl, rfl⟩, rfl⟩

theorem expireOrder_ends {o : Nat} {asOf : Time}
    (tx : expireOrderReservation o asOf db = .ok db') :
    db' = db ∨ Ends o false db db' := by
  rcases expireOrderReservation_cases tx with rfl | ⟨order, listings, found, expirable, -, rfl⟩
  · exact Or.inl rfl
  · exact Or.inr ⟨order, Order.expire, { db with listings := listings }.updateOrder o Order.expire,
      found, expirable.1, fun x => by simp [Order.expire], ⟨rfl, rfl, rfl, rfl⟩, rfl, rfl⟩

theorem ProvenanceInv.cancelWith (h : ProvenanceInv db) {owner : Option Nat}
    {cancelledBy : CancellationInitiator} {performedBy o : Nat} {reason : CancellationReason}
    {now : Time} (tx : cancelWith owner cancelledBy performedBy o reason now db = .ok db') :
    ProvenanceInv db' := by
  rcases cancelWith_ends tx with ends | ⟨order, f, -, -, -, same, -⟩
  · exact h.ends ends
  · exact h.same same

theorem ProvenanceInv.expireOrder (h : ProvenanceInv db) {o : Nat} {asOf : Time}
    (tx : expireOrderReservation o asOf db = .ok db') : ProvenanceInv db' := by
  rcases expireOrder_ends tx with rfl | ends
  · exact h
  · exact h.ends ends

theorem ProvenanceInv.reconcileCart (h : ProvenanceInv db) (userId : Nat) (now : Time) :
    ProvenanceInv (reconcileCart userId now db) := by
  obtain ⟨settled, hsettle, by_tasks⟩ := h.settle userId now
  unfold ColorfulLife.reconcileCart
  rw [hsettle]
  exact by_tasks.inv h

/-- Every action keeps the invariant. -/
theorem ProvenanceInv.step (h : ProvenanceInv db) (op : CartOp) :
    ProvenanceInv (cartStep digest db op) := by
  refine commit_invariant h fun db' tx => ?_
  cases op with
  | getCart userId => exact Except.ok.inj tx ▸ h.upsertCart userId
  | addCartItem userId input now =>
      obtain ⟨⟨db₁, itemId⟩, hadd, rfl⟩ := map_eq_ok.mp tx
      exact h.addCartItem hadd
  | updateCartItem userId input now => exact h.updateCartItem tx
  | removeCartItem userId listing now => exact h.removeCartItem tx
  | clearCart userId now => exact h.clearCart tx
  | createOrder userId input key now =>
      obtain ⟨⟨db₁, orderId⟩, hcreate, rfl⟩ := map_eq_ok.mp tx
      exact h.createOrder hcreate
  | confirmOrder performedBy o => exact h.ends (confirmOrder_ends tx)
  | cancelOrder userId o reason now => exact h.cancelWith tx
  | cancelOrderByAdmin o reason admin now => exact h.cancelWith tx
  | expireOrderReservation o asOf => exact h.expireOrder tx
  | reconcileCart userId now => exact Except.ok.inj tx ▸ h.reconcileCart userId now

theorem CartStart.inv (start : CartStart db) : ProvenanceInv db where
  bounded := fun i a ha => by simp [start.allocations] at ha
  standing := fun i a ha => by simp [start.allocations] at ha
  covered := fun k row found => by
    have none : heldOf k db = 0 :=
      visibleSum_eq_zero fun i a ha _ => by simp [start.allocations] at ha
    rw [none]
    exact start.quantities k row found

end Actions

/-! ### The contract -/

/-- What the services rely on about allocations. -/
structure ProvenanceContract (db : Db) : Prop where
  covered : ∀ k row, db.cartItems.get? k = some row → allocatedQuantity k db ≤ row.quantity
  bounded : ∀ i a, db.cartAllocations.get? i = some a →
    0 ≤ a.visibleQuantity ∧ a.visibleQuantity ≤ a.quantity
  attached : ∀ i a, db.cartAllocations.get? i = some a → 0 < a.visibleQuantity →
    ∃ k row p, a.cartItemId = some k ∧ db.cartItems.get? k = some row ∧
      db.cartProvenance.get? a.orderId = some p ∧ row.cartId = p.cartId ∧
      row.productListingId = a.productListingId
  done : ∀ i a p, db.cartAllocations.get? i = some a → db.cartProvenance.get? a.orderId = some p →
    p.state = .consumed ∨ p.state = .released → a.visibleQuantity = 0

theorem ProvenanceInv.contract {db : Db} (h : ProvenanceInv db) : ProvenanceContract db where
  covered := fun k row found => h.allocatedQuantity_eq ▸ h.covered k row found
  bounded := h.bounded
  attached := fun i a ha positive => by
    obtain ⟨k, row, p, on, found, hp, -, same⟩ := h.standing i a ha positive
    exact ⟨k, row, p, on, found, hp, same⟩
  done := fun i a p ha hp done => by
    rcases (h.nonneg i a ha).lt_or_eq with positive | zero
    · obtain ⟨_, _, p', -, -, hp', attached, -⟩ := h.standing i a ha positive
      obtain rfl := Option.some.inj (hp.symm.trans hp')
      rcases done with done | done <;> simp [done, CartReconciliationState.isAttached] at attached
    · exact zero.symm

/-- No item of a presented cart has a negative unallocated quantity. -/
theorem ProvenanceInv.presented {db : Db} (h : ProvenanceInv db) (userId : Nat) :
    ∀ view ∈ presentCart userId db, 0 ≤ view.unallocatedQuantity := by
  intro view hview
  unfold presentCart at hview
  split at hview
  · cases hview
  · obtain ⟨⟨k, row⟩, hmem, hview⟩ := List.mem_filterMap.mp hview
    obtain ⟨found, -⟩ := Table.mem_select.mp ((List.mem_insertionSort _).mp hmem)
    obtain ⟨listing, -, rfl⟩ := Option.map_eq_some_iff.mp hview
    have covered := h.covered k row found
    simp only [presentItem, h.allocatedQuantity_eq]
    omega

/-- In every reachable state the contract holds, no settlement fails, and no
presented cart shows a negative quantity. -/
theorem cart_provenance (digest : CanonicalRequest → String) {db : Db} (start : CartStart db)
    (ops : List CartOp) :
    ProvenanceContract (run (cartStep digest) db ops) ∧
      (∀ userId now, ∃ settled,
        settleCartReconciliation userId now (run (cartStep digest) db ops) = .ok settled) ∧
      ∀ userId, ∀ view ∈ presentCart userId (run (cartStep digest) db ops),
        0 ≤ view.unallocatedQuantity := by
  have inv : ProvenanceInv (run (cartStep digest) db ops) :=
    run_invariant (fun _ op h => h.step op) start.inv ops
  refine ⟨inv.contract, fun userId now => ?_, inv.presented⟩
  obtain ⟨settled, hsettle, -⟩ := inv.settle userId now
  exact ⟨settled, hsettle⟩

theorem cart_provenance_sample :
    ProvenanceContract (run (cartStep fun _ => "") sampleCart sampleShopping) ∧
      (∀ userId now, ∃ settled, settleCartReconciliation userId now
        (run (cartStep fun _ => "") sampleCart sampleShopping) = .ok settled) ∧
      ∀ userId, ∀ view ∈ presentCart userId
          (run (cartStep fun _ => "") sampleCart sampleShopping),
        0 ≤ view.unallocatedQuantity :=
  cart_provenance (fun _ => "") sampleCart_start sampleShopping

example : (run (cartStep fun _ => "") sampleCart sampleShopping).cartItems.get? 1 =
    some { cartId := 1, productListingId := 1, quantity := 2 } := by
  decide

end ColorfulLife
