/-
What orders hold of cart rows.

`visibleOf` sums the visible quantities of one order on one row, `heldOf` those
of all orders. `ProvenanceInv` is the invariant of the cart tables: every
positive visible quantity stands on an existing row of the provenance's cart,
and no row is held for more than its quantity. The lemmas say what each write of
the cart services does to these sums.
-/

import ColorfulLife.Cart.Service
import ColorfulLife.Labelled.Pool

namespace ColorfulLife

open Relational Labelled

/-! ### Sums of visible quantities -/

/-- The visible quantity of the allocations that satisfy `p`. -/
def visibleSum (p : OrderCartAllocation → Bool) (allocations : Table OrderCartAllocation) : Int :=
  allocations.sum fun _ a => if p a then a.visibleQuantity else 0

/-- What an order holds of a cart row. -/
def visibleOf (orderId cartItemId : Nat) (db : Db) : Int :=
  visibleSum (fun a => decide (a.orderId = orderId ∧ a.cartItemId = some cartItemId))
    db.cartAllocations

/-- What all orders hold of a cart row. -/
def heldOf (cartItemId : Nat) (db : Db) : Int :=
  visibleSum (fun a => decide (a.cartItemId = some cartItemId)) db.cartAllocations

/-- The allocation is one of an attached provenance, on a row of its cart that
is there. -/
def Stands (db : Db) (a : OrderCartAllocation) : Prop :=
  ∃ k row p, a.cartItemId = some k ∧ db.cartItems.get? k = some row ∧
    db.cartProvenance.get? a.orderId = some p ∧ p.state.isAttached = true ∧
    row.cartId = p.cartId ∧ row.productListingId = a.productListingId

structure ProvenanceInv (db : Db) : Prop where
  bounded : ∀ i a, db.cartAllocations.get? i = some a →
    0 ≤ a.visibleQuantity ∧ a.visibleQuantity ≤ a.quantity
  standing : ∀ i a, db.cartAllocations.get? i = some a → 0 < a.visibleQuantity → Stands db a
  covered : ∀ k row, db.cartItems.get? k = some row → heldOf k db ≤ row.quantity

section Sums

variable {db : Db} {k o o' : Nat} {t : Table OrderCartAllocation} {p q : OrderCartAllocation → Bool}

theorem visibleSum_eq_zero
    (zero : ∀ i a, t.get? i = some a → p a = true → a.visibleQuantity = 0) : visibleSum p t = 0 := by
  refine Table.sum_eq_zero fun i a ha => ?_
  split
  · exact zero i a ha ‹_›
  · rfl

theorem visibleSum_nonneg (nonneg : ∀ i a, t.get? i = some a → 0 ≤ a.visibleQuantity) :
    0 ≤ visibleSum p t := by
  refine Table.sum_nonneg fun i a ha => ?_
  split
  · exact nonneg i a ha
  · exact le_rfl

theorem visibleSum_mono (nonneg : ∀ i a, t.get? i = some a → 0 ≤ a.visibleQuantity)
    (imp : ∀ a, p a = true → q a = true) : visibleSum p t ≤ visibleSum q t := by
  refine Table.sum_le_sum fun i a ha => ?_
  by_cases hp : p a = true
  · simp [hp, imp a hp]
  · simp only [hp, Bool.false_eq_true, if_false]
    split
    · exact nonneg i a ha
    · exact le_rfl

/-- One allocation is at most the sum. -/
theorem le_visibleSum (nonneg : ∀ i a, t.get? i = some a → 0 ≤ a.visibleQuantity) {i : Nat}
    {a : OrderCartAllocation} (ha : t.get? i = some a) (hp : p a = true) :
    a.visibleQuantity ≤ visibleSum p t := by
  have le := Table.single_le_sum (g := fun _ a => if p a then a.visibleQuantity else 0)
    (fun i a ha => by
      split
      · exact nonneg i a ha
      · exact le_rfl) ha
  rw [if_pos hp] at le
  exact le

theorem visibleSum_add (apart : ∀ a, p a = true → q a = false) :
    visibleSum p t + visibleSum q t = visibleSum (fun a => p a || q a) t := by
  unfold visibleSum
  rw [← Table.sum_add]
  refine Table.sum_congr fun i a _ => ?_
  by_cases hp : p a = true
  · simp [hp, apart a hp]
  · simp [hp]

/-- Two orders hold no more than all. -/
theorem ProvenanceInv.two_le_held (h : ProvenanceInv db) (apart : o ≠ o') :
    visibleOf o k db + visibleOf o' k db ≤ heldOf k db := by
  unfold visibleOf heldOf
  rw [visibleSum_add (fun a => by simp; grind)]
  refine visibleSum_mono (fun i a ha => (h.bounded i a ha).1) fun a => ?_
  simp
  grind

end Sums

namespace ProvenanceInv

variable {db : Db} {k o : Nat}

theorem nonneg (h : ProvenanceInv db) :
    ∀ i a, db.cartAllocations.get? i = some a → 0 ≤ a.visibleQuantity :=
  fun i a ha => (h.bounded i a ha).1

theorem visibleOf_nonneg (h : ProvenanceInv db) : 0 ≤ visibleOf o k db := visibleSum_nonneg h.nonneg

theorem heldOf_nonneg (h : ProvenanceInv db) : 0 ≤ heldOf k db := visibleSum_nonneg h.nonneg

theorem visibleOf_le_held (h : ProvenanceInv db) : visibleOf o k db ≤ heldOf k db :=
  visibleSum_mono h.nonneg fun a => by simp

/-- What the services read as allocated is what is held. -/
theorem allocatedQuantity_eq (h : ProvenanceInv db) : allocatedQuantity k db = heldOf k db := by
  unfold allocatedQuantity heldOf visibleSum
  refine Table.sum_congr fun i a ha => ?_
  by_cases on : a.cartItemId = some k
  · rcases (h.nonneg i a ha).lt_or_eq with positive | zero
    · obtain ⟨_, _, p, -, -, hp, attached, -⟩ := h.standing i a ha positive
      simp [Db.attachedTo, Db.isAttached, on, hp, attached]
    · simp [← zero]
  · simp [Db.attachedTo, on]

/-- Nothing is held of a row that is not there. -/
theorem heldOf_missing (h : ProvenanceInv db) (missing : db.cartItems.get? k = none) :
    heldOf k db = 0 := by
  refine visibleSum_eq_zero fun i a ha on => ?_
  rcases (h.nonneg i a ha).lt_or_eq with positive | zero
  · obtain ⟨k', row, _, on', found, -⟩ := h.standing i a ha positive
    obtain rfl := Option.some.inj ((of_decide_eq_true on).symm.trans on')
    rw [missing] at found
    cases found
  · exact zero.symm

/-- The allocations of a row of which nothing is held are empty. -/
theorem empty_of_held (h : ProvenanceInv db) (zero : heldOf k db = 0) {i : Nat}
    {a : OrderCartAllocation} (ha : db.cartAllocations.get? i = some a)
    (on : a.cartItemId = some k) : a.visibleQuantity = 0 := by
  have le := le_visibleSum (p := fun a => decide (a.cartItemId = some k)) h.nonneg ha (by simp [on])
  have least := h.nonneg i a ha
  change a.visibleQuantity ≤ heldOf k db at le
  omega

end ProvenanceInv

/-! ### Writes that no allocation notices -/

/-- The rows are still there, in the same cart and for the same listing. -/
def RowsKept (items items' : Table CartItem) : Prop :=
  ∀ k row, items.get? k = some row → ∃ row', items'.get? k = some row' ∧
    row'.cartId = row.cartId ∧ row'.productListingId = row.productListingId

/-- The attached provenances are still attached. -/
def AttachedKept (provenance provenance' : Table OrderCartProvenance) : Prop :=
  ∀ o p, provenance.get? o = some p → p.state.isAttached = true →
    ∃ p', provenance'.get? o = some p' ∧ p'.state.isAttached = true ∧ p'.cartId = p.cartId

theorem RowsKept.refl (items : Table CartItem) : RowsKept items items :=
  fun _ row found => ⟨row, found, rfl, rfl⟩

theorem AttachedKept.refl (provenance : Table OrderCartProvenance) :
    AttachedKept provenance provenance :=
  fun _ p found attached => ⟨p, found, attached, rfl⟩

theorem Stands.kept {db db' : Db} {a : OrderCartAllocation} (h : Stands db a)
    (rows : RowsKept db.cartItems db'.cartItems)
    (attached : AttachedKept db.cartProvenance db'.cartProvenance) : Stands db' a := by
  obtain ⟨k, row, p, on, found, hp, attaches, cart, listing⟩ := h
  obtain ⟨row', found', cart', listing'⟩ := rows k row found
  obtain ⟨p', hp', attaches', owner⟩ := attached a.orderId p hp attaches
  exact ⟨k, row', p', on, found', hp', attaches', cart'.trans (cart.trans owner.symm),
    listing'.trans listing⟩

/-- The deletion of a row changes a sum by nothing that the row's allocations do
not hold. -/
theorem visibleSum_detached {db : Db} {k : Nat} {p : OrderCartAllocation → Bool}
    (unmoved : ∀ i a, db.cartAllocations.get? i = some a → a.cartItemId = some k →
      a.visibleQuantity = 0 ∨ (p a = false ∧ p { a with cartItemId := none } = false)) :
    visibleSum p (deleteCartItem k db).cartAllocations = visibleSum p db.cartAllocations := by
  unfold visibleSum deleteCartItem Table.updateMany
  rw [Table.sum_modify]
  refine Table.sum_congr fun i a ha => ?_
  by_cases on : a.cartItemId = some k
  · rcases unmoved i a ha on with empty | ⟨before, after⟩
    · simp [on, empty]
    · simp [on, before, after]
  · simp [on]

namespace ProvenanceInv

variable {db db' : Db} {k : Nat}

/-- What changes no allocation keeps the invariant when each row still covers
what is held of it. -/
theorem same_allocations (h : ProvenanceInv db)
    (allocations : db'.cartAllocations = db.cartAllocations)
    (rows : RowsKept db.cartItems db'.cartItems)
    (attached : AttachedKept db.cartProvenance db'.cartProvenance)
    (covered : ∀ k row, db'.cartItems.get? k = some row → heldOf k db ≤ row.quantity) :
    ProvenanceInv db' where
  bounded := allocations ▸ h.bounded
  standing := fun i a ha positive => (h.standing i a (allocations ▸ ha) positive).kept rows attached
  covered := fun k row found => by
    have held : heldOf k db' = heldOf k db := by
      unfold heldOf
      rw [allocations]
    rw [held]
    exact covered k row found

theorem queue (h : ProvenanceInv db) (o : Nat) (consume : Bool) :
    ProvenanceInv (queueCartReconciliation o consume db) := by
  refine h.same_allocations rfl (RowsKept.refl _) (fun j p found attached => ?_) h.covered
  refine ⟨_, (Table.get?_updateMany ..).trans (congrArg _ found), ?_⟩
  by_cases active : j = o ∧ p.state = .active
  · cases consume <;> simp [active, CartReconciliationState.isAttached]
  · simp [active, attached]

/-- A row gets a quantity that covers what is held of it. -/
theorem setQuantity (h : ProvenanceInv db) {q : Int} (covers : heldOf k db ≤ q) :
    ProvenanceInv { db with
      cartItems := db.cartItems.update k fun row => { row with quantity := q } } := by
  refine h.same_allocations rfl (fun j row found => ?_) (AttachedKept.refl _) (fun j row found => ?_)
  · by_cases same : j = k
    · subst same
      exact ⟨{ row with quantity := q }, by simp [found], rfl, rfl⟩
    · exact ⟨row, (Table.get?_update_of_ne _ _ same).trans found, rfl, rfl⟩
  · rw [Table.get?_update] at found
    split at found
    · subst_vars
      obtain ⟨row, -, rfl⟩ := Option.map_eq_some_iff.mp found
      exact covers
    · exact h.covered j row found

/-- Nothing is held of a new row. -/
theorem insertRow (h : ProvenanceInv db) {row : CartItem} (positive : 0 ≤ row.quantity) :
    ProvenanceInv { db with cartItems := db.cartItems.insert row } := by
  refine h.same_allocations rfl (fun j row' found => ?_) (AttachedKept.refl _)
    (fun j row' found => ?_)
  · exact ⟨row', Table.get?_insert_of_some found, rfl, rfl⟩
  · rcases Table.insert_cases found with ⟨rfl, rfl⟩ | found
    · rw [h.heldOf_missing (Table.get?_nextId _)]
      exact positive
    · exact h.covered j row' found

/-- The deletion of a row of which nothing is held changes no sum. -/
theorem visibleSum_delete (h : ProvenanceInv db) (zero : heldOf k db = 0)
    (p : OrderCartAllocation → Bool) :
    visibleSum p (deleteCartItem k db).cartAllocations = visibleSum p db.cartAllocations :=
  visibleSum_detached fun _ _ ha on => Or.inl (h.empty_of_held zero ha on)

theorem deleteRow (h : ProvenanceInv db) (zero : heldOf k db = 0) :
    ProvenanceInv (deleteCartItem k db) := by
  have old : ∀ i a', (deleteCartItem k db).cartAllocations.get? i = some a' →
      ∃ a, db.cartAllocations.get? i = some a ∧ (a' = a ∧ a.cartItemId ≠ some k ∨
        a' = { a with cartItemId := none } ∧ a.visibleQuantity = 0) := by
    intro i a' ha'
    rw [get?_deleteCartItem_allocations] at ha'
    obtain ⟨a, ha, rfl⟩ := Option.map_eq_some_iff.mp ha'
    refine ⟨a, ha, ?_⟩
    by_cases on : a.cartItemId = some k
    · exact Or.inr ⟨by simp [on], h.empty_of_held zero ha on⟩
    · exact Or.inl ⟨by simp [on], on⟩
  refine ⟨fun i a' ha' => ?_, fun i a' ha' positive => ?_, fun j row found => ?_⟩
  · obtain ⟨a, ha, ⟨same, -⟩ | ⟨same, -⟩⟩ := old i a' ha'
    · exact same ▸ h.bounded i a ha
    · exact same ▸ h.bounded i a ha
  · obtain ⟨a, ha, ⟨rfl, elsewhere⟩ | ⟨rfl, empty⟩⟩ := old i a' ha'
    · obtain ⟨j, row, p, on, found, rest⟩ := h.standing i _ ha positive
      refine ⟨j, row, p, on, ?_, rest⟩
      have other : j ≠ k := fun same => elsewhere (same ▸ on)
      rw [get?_deleteCartItem, if_neg other, found]
    · exact absurd empty (ne_of_gt positive)
  · rw [get?_deleteCartItem] at found
    split at found
    · cases found
    · unfold heldOf
      rw [h.visibleSum_delete zero]
      exact h.covered j row found

end ProvenanceInv

end ColorfulLife
