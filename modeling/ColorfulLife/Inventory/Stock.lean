/-
The statements that move stock for orders: reserve, convert, release, restock.

Each is one conditional `UPDATE` of a product listing, keyed by the listing of an
order item, with the movement row that goes with it. The order services run them
in a loop over the items of one order, sorted by listing. The loops only see the
listings and the movements (`Stock`), so every other table is out of reach.
-/

import ColorfulLife.Relational.Transaction
import ColorfulLife.Schema.Database
import ColorfulLife.Schema.Errors

namespace ColorfulLife

open Relational

/-- The two tables that stock lives in. -/
structure Stock where
  listings : Table ProductListing
  movements : List InventoryMovement

def Db.stock (db : Db) : Stock := ⟨db.listings, db.movements⟩

def Db.withStock (db : Db) (stock : Stock) : Db :=
  { db with listings := stock.listings, movements := stock.movements }

@[simp] theorem Db.stock_listings (db : Db) : db.stock.listings = db.listings := rfl
@[simp] theorem Db.stock_movements (db : Db) : db.stock.movements = db.movements := rfl

/-- `items.sort((a, b) => a.productListingId - b.productListingId)`. -/
def sortItems (items : List (Nat × OrderItem)) : List (Nat × OrderItem) :=
  items.insertionSort fun a b => a.2.productListingId ≤ b.2.productListingId

theorem perm_sortItems (items : List (Nat × OrderItem)) : (sortItems items).Perm items :=
  List.perm_insertionSort _ items

@[simp] theorem mem_sortItems {items : List (Nat × OrderItem)} {e : Nat × OrderItem} :
    e ∈ sortItems items ↔ e ∈ items :=
  (perm_sortItems items).mem_iff

/-! ### Reservation -/

/-- The guard of the reservation `UPDATE`. -/
def ProductListing.reservable (quantity : Int) (listing : ProductListing) : Bool :=
  decide ((listing.condition = .new ∨
      (listing.condition = .usedLikeNew ∧ listing.usedLifecycle = some .available)) ∧
    listing.reservedStock ≤ listing.currentStock - quantity)

def ProductListing.reserve (quantity : Int) (listing : ProductListing) : ProductListing :=
  { listing with reservedStock := listing.reservedStock + quantity }

def reserveLine (listings : Table ProductListing) (item : OrderItem) :
    Result (Table ProductListing) :=
  orThrow
    (listings.updateIf item.productListingId (·.reservable item.quantity) (·.reserve item.quantity))
    (.insufficientAvailableStock item.productListingId item.quantity)

/-! ### Conversion of a reservation into a sale -/

/-- The guard of the conversion `UPDATE`. -/
def ProductListing.convertible (quantity : Int) (listing : ProductListing) : Bool :=
  decide (quantity ≤ listing.currentStock ∧ quantity ≤ listing.reservedStock ∧
    (listing.condition = .new ∨
      (listing.condition = .usedLikeNew ∧ listing.usedLifecycle = some .available ∧ quantity = 1)))

def ProductListing.convert (quantity : Int) (listing : ProductListing) : ProductListing :=
  { listing with
    currentStock := listing.currentStock - quantity
    reservedStock := listing.reservedStock - quantity
    usedLifecycle :=
      if listing.condition = .usedLikeNew then some .sold else listing.usedLifecycle }

def saleMovement (performedByUserId orderId : Nat) (item : OrderItem) : InventoryMovement where
  listingId := item.productListingId
  quantityChange := -item.quantity
  type := .websiteSale
  note := .orderSale orderId
  performedByUserId := performedByUserId

def convertReservation (performedByUserId orderId : Nat) (stock : Stock) (e : Nat × OrderItem) :
    Result Stock :=
  match stock.listings.updateIf e.2.productListingId (·.convertible e.2.quantity)
      (·.convert e.2.quantity) with
  | some listings =>
      .ok ⟨listings, stock.movements ++ [saleMovement performedByUserId orderId e.2]⟩
  | none =>
      match stock.listings.get? e.2.productListingId with
      | none => .error (.productListingNotFound e.2.productListingId)
      | some listing =>
          .error (.insufficientStock e.2.productListingId listing.currentStock e.2.quantity)

/-! ### Release of a reservation -/

def ProductListing.release (quantity : Int) (listing : ProductListing) : ProductListing :=
  { listing with reservedStock := listing.reservedStock - quantity }

def releaseReservation (listings : Table ProductListing) (e : Nat × OrderItem) :
    Result (Table ProductListing) :=
  orThrow
    (listings.updateIf e.2.productListingId
      (fun listing => decide (e.2.quantity ≤ listing.reservedStock)) (·.release e.2.quantity))
    (.insufficientReservedStock e.2.productListingId e.2.quantity)

/-! ### Restocking a cancelled sale -/

def ProductListing.restock (quantity : Int) (listing : ProductListing) : ProductListing :=
  { listing with currentStock := listing.currentStock + quantity }

def cancellationMovement (performedByUserId orderId : Nat) (item : OrderItem) :
    InventoryMovement where
  listingId := item.productListingId
  quantityChange := item.quantity
  type := .orderCancellationReturn
  note := .orderCancellationReturn orderId
  performedByUserId := performedByUserId

/-- A confirmed used offer is terminal once consumed; a later cancellation must
not make that physical item sellable again. -/
def restockCancelled (performedByUserId orderId : Nat) (stock : Stock) (e : Nat × OrderItem) :
    Result Stock := do
  let listing ← orThrow (stock.listings.get? e.2.productListingId)
    (.productListingNotFound e.2.productListingId)
  return if listing.condition = .usedLikeNew then stock
    else
      { listings := stock.listings.update e.2.productListingId (·.restock e.2.quantity)
        movements := stock.movements ++ [cancellationMovement performedByUserId orderId e.2] }

/-! ### One statement -/

section Statements

variable {performedByUserId orderId : Nat} {e : Nat × OrderItem}

theorem reserveLine_eq_ok {t t' : Table ProductListing} {item : OrderItem} :
    reserveLine t item = .ok t' ↔ ∃ l, t.get? item.productListingId = some l ∧
      l.reservable item.quantity = true ∧
      t' = t.update item.productListingId (·.reserve item.quantity) := by
  simp [reserveLine, Table.updateIf_eq_some]

theorem convertReservation_eq_ok {s s' : Stock} :
    convertReservation performedByUserId orderId s e = .ok s' ↔
      ∃ l, s.listings.get? e.2.productListingId = some l ∧ l.convertible e.2.quantity = true ∧
        s' = ⟨s.listings.update e.2.productListingId (·.convert e.2.quantity),
          s.movements ++ [saleMovement performedByUserId orderId e.2]⟩ := by
  unfold convertReservation
  cases hu : s.listings.updateIf e.2.productListingId (·.convertible e.2.quantity)
      (·.convert e.2.quantity) with
  | some t =>
      obtain ⟨l, hl, hc, rfl⟩ := Table.updateIf_eq_some.mp hu
      constructor
      · intro h
        exact ⟨l, hl, hc, (Except.ok.inj h).symm⟩
      · rintro ⟨-, -, -, rfl⟩
        rfl
  | none =>
      have hno := Table.updateIf_eq_none.mp hu
      constructor
      · intro h
        cases hl : s.listings.get? e.2.productListingId <;> simp [hl] at h
      · rintro ⟨l, hl, hc, -⟩
        rw [hno l hl] at hc
        cases hc

theorem releaseReservation_eq_ok {t t' : Table ProductListing} :
    releaseReservation t e = .ok t' ↔ ∃ l, t.get? e.2.productListingId = some l ∧
      e.2.quantity ≤ l.reservedStock ∧
      t' = t.update e.2.productListingId (·.release e.2.quantity) := by
  simp [releaseReservation, Table.updateIf_eq_some]

theorem restockCancelled_eq_ok {s s' : Stock} :
    restockCancelled performedByUserId orderId s e = .ok s' ↔
      ∃ l, s.listings.get? e.2.productListingId = some l ∧
        ((l.condition = .usedLikeNew ∧ s' = s) ∨
          (l.condition = .new ∧
            s' = ⟨s.listings.update e.2.productListingId (·.restock e.2.quantity),
              s.movements ++ [cancellationMovement performedByUserId orderId e.2]⟩)) := by
  simp only [restockCancelled, bind_eq_ok, orThrow_eq_ok, pure_eq_ok]
  refine exists_congr fun l => and_congr_right fun _ => ?_
  cases l.condition <;> simp [eq_comm]

end Statements

/-! ### Sound listings -/

/-- Stock counters in order, and the used lifecycle constraint. -/
structure ProductListing.Sound (listing : ProductListing) : Prop where
  lifecycle : listing.usedLifecycleCheck
  reserved_nonneg : 0 ≤ listing.reservedStock
  reserved_le : listing.reservedStock ≤ listing.currentStock

namespace ProductListing.Sound

variable {l : ProductListing} {q : Int}

theorem reserve (h : l.Sound) (pos : 0 < q) (ok : l.reservable q = true) : (l.reserve q).Sound := by
  obtain ⟨check, nonneg, le⟩ := h
  simp only [reservable, decide_eq_true_eq] at ok
  refine ⟨?_, ?_, ?_⟩
  · rcases check with new | ⟨used, ⟨available, one, -, -⟩ | ⟨terminal, zero, -⟩⟩
    · exact Or.inl new
    · refine Or.inr ⟨used, Or.inl ⟨available, one, ?_, ?_⟩⟩ <;> simp [ProductListing.reserve] <;> omega
    · omega
  · simp [ProductListing.reserve]; omega
  · simp [ProductListing.reserve]; omega

theorem convert (h : l.Sound) (pos : 0 < q) (ok : l.convertible q = true) : (l.convert q).Sound := by
  obtain ⟨check, nonneg, le⟩ := h
  simp only [convertible, decide_eq_true_eq] at ok
  refine ⟨?_, ?_, ?_⟩
  · rcases check with new | ⟨used, ⟨available, one, -, -⟩ | ⟨terminal, zero, -⟩⟩
    · exact Or.inl (by simpa [ProductListing.convert, new.1] using new.2)
    · refine Or.inr ⟨used, Or.inr ⟨Or.inl ?_, ?_, ?_⟩⟩ <;> simp [ProductListing.convert, used] <;> omega
    · omega
  · simp [ProductListing.convert]; omega
  · simp [ProductListing.convert]; omega

theorem release (h : l.Sound) (pos : 0 < q) (ok : q ≤ l.reservedStock) : (l.release q).Sound := by
  obtain ⟨check, nonneg, le⟩ := h
  refine ⟨?_, ?_, ?_⟩
  · rcases check with new | ⟨used, ⟨available, one, -, -⟩ | ⟨terminal, -, zero⟩⟩
    · exact Or.inl new
    · refine Or.inr ⟨used, Or.inl ⟨available, one, ?_, ?_⟩⟩ <;> simp [ProductListing.release] <;> omega
    · omega
  · simp [ProductListing.release]; omega
  · simp [ProductListing.release]; omega

theorem restock (h : l.Sound) (pos : 0 < q) (ok : l.condition = .new) : (l.restock q).Sound := by
  obtain ⟨check, nonneg, le⟩ := h
  refine ⟨?_, nonneg, ?_⟩
  · rcases check with new | ⟨used, -⟩
    · exact Or.inl new
    · rw [ok] at used
      cases used
  · simp [ProductListing.restock]; omega

/-- A sound listing can always convert what it has reserved. -/
theorem convertible (h : l.Sound) (pos : 0 < q) (reserved : q ≤ l.reservedStock) :
    l.convertible q = true := by
  obtain ⟨check, nonneg, le⟩ := h
  simp only [ProductListing.convertible, decide_eq_true_eq]
  refine ⟨by omega, reserved, ?_⟩
  rcases check with new | ⟨used, ⟨available, one, -, at_most⟩ | ⟨-, -, zero⟩⟩
  · exact Or.inl new.1
  · exact Or.inr ⟨used, available, by omega⟩
  · omega

end ProductListing.Sound

/-! ### The loops

`quantityOn k items` is what a list of order items takes of the listing `k`. A
loop shifts the reservation of every listing by that much, up to sign. -/

def quantityOn (k : Nat) (items : List (Nat × OrderItem)) : Int :=
  (items.map fun e => if e.2.productListingId = k then e.2.quantity else 0).sum

@[simp] theorem quantityOn_nil (k : Nat) : quantityOn k [] = 0 := rfl

theorem quantityOn_cons (k : Nat) (e : Nat × OrderItem) (items : List (Nat × OrderItem)) :
    quantityOn k (e :: items) =
      (if e.2.productListingId = k then e.2.quantity else 0) + quantityOn k items := by
  simp [quantityOn]

@[simp] theorem quantityOn_sortItems (k : Nat) (items : List (Nat × OrderItem)) :
    quantityOn k (sortItems items) = quantityOn k items :=
  ((perm_sortItems items).map _).sum_eq

theorem quantityOn_nonneg {k : Nat} {items : List (Nat × OrderItem)}
    (pos : ∀ e ∈ items, 0 < e.2.quantity) : 0 ≤ quantityOn k items := by
  refine List.sum_nonneg fun x hx => ?_
  obtain ⟨e, he, rfl⟩ := List.mem_map.mp hx
  have := pos e he
  split <;> omega

/-- What a statement on a listing does to it, as far as reservations go. -/
structure Shift (δ : Int) (l l' : ProductListing) : Prop where
  reserved : l'.reservedStock = l.reservedStock + δ
  condition : l'.condition = l.condition
  sound : l.Sound → l'.Sound

namespace Shift

theorem refl (l : ProductListing) : Shift 0 l l := ⟨by simp, rfl, id⟩

theorem trans {δ δ' : Int} {l l' l'' : ProductListing} (h : Shift δ l l') (h' : Shift δ' l' l'') :
    Shift (δ + δ') l l'' :=
  ⟨by rw [h'.reserved, h.reserved]; ring, h'.condition.trans h.condition,
    fun hl => h'.sound (h.sound hl)⟩

end Shift

/-- One statement that shifts the listing of `item` by `c` times its quantity. -/
theorem shift_update {t : Table ProductListing} (item : OrderItem) {c : Int}
    {f : ProductListing → ProductListing}
    (shift : ∀ l, t.get? item.productListingId = some l → Shift (c * item.quantity) l (f l)) :
    Table.Rows
      (fun k => Shift (c * if item.productListingId = k then item.quantity else 0))
      t (t.update item.productListingId f) := by
  refine Table.rows_update (fun l hl => ?_) fun j l hj => ?_
  · rw [if_pos rfl]
    exact shift l hl
  · rw [if_neg (Ne.symm hj), mul_zero]
    exact Shift.refl l

/-- A loop of statements each of which shifts the listing of its item. -/
theorem shift_loop {τ : Type} (view : τ → Table ProductListing) {c : Int}
    {f : τ → Nat × OrderItem → Result τ}
    (step : ∀ s e s', 0 < e.2.quantity → f s e = .ok s' →
      Table.Rows (fun k => Shift (c * if e.2.productListingId = k then e.2.quantity else 0))
        (view s) (view s'))
    {items : List (Nat × OrderItem)} {s s' : τ} (pos : ∀ e ∈ items, 0 < e.2.quantity)
    (h : items.foldlM f s = .ok s') :
    Table.Rows (fun k => Shift (c * quantityOn k items)) (view s) (view s') := by
  refine foldlM_effect (R := fun items s s' => (∀ e ∈ items, 0 < e.2.quantity) →
    Table.Rows (fun k => Shift (c * quantityOn k items)) (view s) (view s')) ?_ ?_ items h pos
  · intro s _
    exact Table.Rows.refl (fun k l => by simpa using Shift.refl l) _
  · intro e items s s₁ s' hstep hrest pos
    refine Table.Rows.comp (fun k l₁ l₂ l₃ h₁ h₂ => ?_)
      (step s e s₁ (pos e List.mem_cons_self) hstep)
      (hrest fun e he => pos e (List.mem_cons_of_mem _ he))
    rw [quantityOn_cons, mul_add]
    exact h₁.trans h₂

section Loops

variable {performedByUserId orderId : Nat} {items : List (Nat × OrderItem)}
  (pos : ∀ e ∈ items, 0 < e.2.quantity)

include pos

/-- Conversion takes the reservation away. -/
theorem shift_convert {s s' : Stock}
    (h : items.foldlM (convertReservation performedByUserId orderId) s = .ok s') :
    Table.Rows (fun k => Shift (-1 * quantityOn k items)) s.listings s'.listings := by
  refine shift_loop Stock.listings (fun s e s' pos hstep => ?_) pos h
  obtain ⟨l, hl, hc, rfl⟩ := convertReservation_eq_ok.mp hstep
  refine shift_update e.2 fun l' hl' => ?_
  obtain rfl : l = l' := Option.some.inj (hl.symm.trans hl')
  exact ⟨by simp [ProductListing.convert]; ring, rfl, fun sound => sound.convert pos hc⟩

/-- Release takes the reservation away. -/
theorem shift_release {t t' : Table ProductListing}
    (h : items.foldlM releaseReservation t = .ok t') :
    Table.Rows (fun k => Shift (-1 * quantityOn k items)) t t' := by
  refine shift_loop id (fun s e s' pos hstep => ?_) pos h
  obtain ⟨l, hl, hc, rfl⟩ := releaseReservation_eq_ok.mp hstep
  refine shift_update e.2 fun l' hl' => ?_
  obtain rfl : l = l' := Option.some.inj (hl.symm.trans hl')
  exact ⟨by simp [ProductListing.release]; ring, rfl, fun sound => sound.release pos hc⟩

/-- Restocking leaves reservations alone. -/
theorem shift_restock {s s' : Stock}
    (h : items.foldlM (restockCancelled performedByUserId orderId) s = .ok s') :
    Table.Rows (fun k => Shift (0 * quantityOn k items)) s.listings s'.listings := by
  refine shift_loop Stock.listings (fun s e s' pos hstep => ?_) pos h
  obtain ⟨l, hl, ⟨used, rfl⟩ | ⟨new, rfl⟩⟩ := restockCancelled_eq_ok.mp hstep
  · exact Table.Rows.refl (fun k l => by simpa using Shift.refl l) _
  · refine shift_update e.2 fun l' hl' => ?_
    obtain rfl : l = l' := Option.some.inj (hl.symm.trans hl')
    exact ⟨by simp [ProductListing.restock], rfl, fun sound => sound.restock pos new⟩

end Loops

/-- Reservation of the lines of a new order. -/
theorem shift_reserve {items : List OrderItem} (pos : ∀ item ∈ items, 0 < item.quantity)
    {t t' : Table ProductListing} (h : items.foldlM reserveLine t = .ok t') :
    Table.Rows
      (fun k => Shift (items.map fun i => if i.productListingId = k then i.quantity else 0).sum)
      t t' := by
  refine foldlM_effect (R := fun items t t' => (∀ item ∈ items, 0 < item.quantity) →
    Table.Rows
      (fun k => Shift (items.map fun i => if i.productListingId = k then i.quantity else 0).sum)
      t t') ?_ ?_ items h pos
  · intro t _
    exact Table.Rows.refl (fun k l => Shift.refl l) t
  · intro item items t t₁ t' hstep hrest pos
    obtain ⟨l, hl, hc, rfl⟩ := reserveLine_eq_ok.mp hstep
    have first := shift_update item (t := t) (c := 1) (f := (·.reserve item.quantity))
      fun l' hl' => by
        obtain rfl : l = l' := Option.some.inj (hl.symm.trans hl')
        exact ⟨by simp [ProductListing.reserve], rfl,
          fun sound => sound.reserve (pos item List.mem_cons_self) hc⟩
    refine Table.Rows.comp (fun k l₁ l₂ l₃ h₁ h₂ => ?_) first
      (hrest fun i hi => pos i (List.mem_cons_of_mem _ hi))
    rw [List.map_cons, List.sum_cons]
    rw [one_mul] at h₁
    exact h₁.trans h₂

/-! ### The movements of a loop -/

theorem convert_movements {performedByUserId orderId : Nat} {items : List (Nat × OrderItem)}
    {s s' : Stock} (h : items.foldlM (convertReservation performedByUserId orderId) s = .ok s') :
    s'.movements = s.movements ++
      items.map fun e => saleMovement performedByUserId orderId e.2 := by
  refine foldlM_effect (R := fun items s s' => Stock.movements s' = Stock.movements s ++
    items.map fun e => saleMovement performedByUserId orderId e.2) (fun s => by simp) ?_ items h
  intro e items s s₁ s' hstep hrest
  obtain ⟨l, -, -, rfl⟩ := convertReservation_eq_ok.mp hstep
  rw [hrest]
  simp

/-- The listing is there and sold as new. -/
def isNewListing (listings : Table ProductListing) (k : Nat) : Bool :=
  (listings.get? k).any fun l => decide (l.condition = .new)

/-- Rows whose condition is kept agree on which listings are new. -/
theorem isNewListing_rows {t t' : Table ProductListing}
    (rows : Table.Rows (fun _ l l' => l'.condition = l.condition) t t') (k : Nat) :
    isNewListing t' k = isNewListing t k := by
  unfold isNewListing
  cases hl : t.get? k with
  | none =>
      cases hl' : t'.get? k with
      | none => rfl
      | some l' =>
          obtain ⟨l, hl₁, -⟩ := rows.backward hl'
          rw [hl] at hl₁
          cases hl₁
  | some l =>
      obtain ⟨l', hl', hcondition⟩ := rows.forward hl
      simp [hl', hcondition]

/-- Only new listings are restocked. -/
theorem restock_movements {performedByUserId orderId : Nat} {items : List (Nat × OrderItem)}
    {s s' : Stock} (h : items.foldlM (restockCancelled performedByUserId orderId) s = .ok s') :
    s'.movements = s.movements ++
      (items.filter fun e => isNewListing s.listings e.2.productListingId).map
        fun e => cancellationMovement performedByUserId orderId e.2 := by
  refine foldlM_effect (R := fun items s s' => Stock.movements s' = Stock.movements s ++
    (items.filter fun e => isNewListing (Stock.listings s) e.2.productListingId).map
      fun e => cancellationMovement performedByUserId orderId e.2) (fun s => by simp) ?_ items h
  intro e items s s₁ s' hstep hrest
  obtain ⟨l, hl, ⟨used, rfl⟩ | ⟨new, rfl⟩⟩ := restockCancelled_eq_ok.mp hstep
  · have hnew : isNewListing s₁.listings e.2.productListingId = false := by
      simp [isNewListing, hl, used]
    rw [hrest, List.filter_cons_of_neg (by simp [hnew])]
  · have hnew : isNewListing s.listings e.2.productListingId = true := by
      simp [isNewListing, hl, new]
    have same : ∀ k, isNewListing
        (s.listings.update e.2.productListingId (·.restock e.2.quantity)) k =
          isNewListing s.listings k :=
      isNewListing_rows (Table.rows_update (fun _ _ => rfl) fun _ _ _ => rfl)
    rw [hrest, List.filter_cons_of_pos (by simp [hnew])]
    simp [same]

/-! ### When no iteration throws -/

/-- Every listing of the items is there, sound, and has the items reserved. -/
def Covered (items : List (Nat × OrderItem)) (t : Table ProductListing) : Prop :=
  (∀ e ∈ items, 0 < e.2.quantity ∧ (t.get? e.2.productListingId).isSome) ∧
    ∀ k l, t.get? k = some l → l.Sound ∧ quantityOn k items ≤ l.reservedStock

theorem Covered.head {e : Nat × OrderItem} {items : List (Nat × OrderItem)}
    {t : Table ProductListing} (h : Covered (e :: items) t) :
    ∃ l, t.get? e.2.productListingId = some l ∧ l.Sound ∧ 0 < e.2.quantity ∧
      e.2.quantity ≤ l.reservedStock := by
  obtain ⟨pos, there⟩ := h.1 e List.mem_cons_self
  obtain ⟨l, hl⟩ := Option.isSome_iff_exists.mp there
  obtain ⟨sound, le⟩ := h.2 _ l hl
  have rest : 0 ≤ quantityOn e.2.productListingId items :=
    quantityOn_nonneg fun e he => (h.1 e (List.mem_cons_of_mem _ he)).1
  rw [quantityOn_cons, if_pos rfl] at le
  exact ⟨l, hl, sound, pos, by omega⟩

theorem Covered.tail {e : Nat × OrderItem} {items : List (Nat × OrderItem)}
    {t : Table ProductListing} {f : ProductListing → ProductListing} (h : Covered (e :: items) t)
    (shift : ∀ l, t.get? e.2.productListingId = some l → Shift (-1 * e.2.quantity) l (f l)) :
    Covered items (t.update e.2.productListingId f) := by
  have rows := shift_update e.2 shift
  refine ⟨fun e' he' => ?_, fun k l' hl' => ?_⟩
  · obtain ⟨pos, there⟩ := h.1 e' (List.mem_cons_of_mem _ he')
    obtain ⟨l, hl⟩ := Option.isSome_iff_exists.mp there
    obtain ⟨l', hl', -⟩ := rows.forward hl
    exact ⟨pos, by simp [hl']⟩
  · obtain ⟨l, hl, hshift⟩ := rows.backward hl'
    obtain ⟨sound, le⟩ := h.2 k l hl
    refine ⟨hshift.sound sound, ?_⟩
    rw [quantityOn_cons] at le
    rw [hshift.reserved]
    omega

/-- Covered items can be converted. -/
theorem convert_progress {performedByUserId orderId : Nat} {items : List (Nat × OrderItem)}
    {s : Stock} (h : Covered items s.listings) :
    ∃ s', items.foldlM (convertReservation performedByUserId orderId) s = .ok s' := by
  have step : ∀ e items (s : Stock), Covered (e :: items) s.listings →
      ∃ s', convertReservation performedByUserId orderId s e = .ok s' ∧
        Covered items s'.listings := by
    intro e items s covered
    obtain ⟨l, hl, sound, pos, le⟩ := covered.head
    have hc := sound.convertible pos le
    refine ⟨_, convertReservation_eq_ok.mpr ⟨l, hl, hc, rfl⟩, covered.tail fun l' hl' => ?_⟩
    obtain rfl : l = l' := Option.some.inj (hl.symm.trans hl')
    exact ⟨by simp [ProductListing.convert]; ring, rfl, fun sound => sound.convert pos hc⟩
  obtain ⟨s', hs', -⟩ :=
    foldlM_progress (J := fun items s => Covered items (Stock.listings s)) step items h
  exact ⟨s', hs'⟩

/-- Items whose listings exist can be restocked. -/
theorem restock_progress {performedByUserId orderId : Nat} {items : List (Nat × OrderItem)}
    {s : Stock} (listed : ∀ e ∈ items, (s.listings.get? e.2.productListingId).isSome) :
    ∃ s', items.foldlM (restockCancelled performedByUserId orderId) s = .ok s' := by
  have step : ∀ e items (s : Stock),
      (∀ e' ∈ e :: items, (s.listings.get? e'.2.productListingId).isSome) →
      ∃ s', restockCancelled performedByUserId orderId s e = .ok s' ∧
        ∀ e' ∈ items, (s'.listings.get? e'.2.productListingId).isSome := by
    intro e items s listed
    obtain ⟨l, hl⟩ := Option.isSome_iff_exists.mp (listed e List.mem_cons_self)
    cases hc : l.condition with
    | usedLikeNew =>
        refine ⟨s, restockCancelled_eq_ok.mpr ⟨l, hl, Or.inl ⟨hc, rfl⟩⟩, fun e' he' => ?_⟩
        exact listed e' (List.mem_cons_of_mem _ he')
    | new =>
        refine ⟨_, restockCancelled_eq_ok.mpr ⟨l, hl, Or.inr ⟨hc, rfl⟩⟩, fun e' he' => ?_⟩
        have := listed e' (List.mem_cons_of_mem _ he')
        rw [Table.get?_update]
        split <;> simpa using this
  obtain ⟨s', hs', -⟩ := foldlM_progress
    (J := fun items s => ∀ e ∈ items, ((Stock.listings s).get? e.2.productListingId).isSome)
    step items listed
  exact ⟨s', hs'⟩

/-- Covered items can be released. -/
theorem release_progress {items : List (Nat × OrderItem)} {t : Table ProductListing}
    (h : Covered items t) : ∃ t', items.foldlM releaseReservation t = .ok t' := by
  have step : ∀ e items t, Covered (e :: items) t →
      ∃ t', releaseReservation t e = .ok t' ∧ Covered items t' := by
    intro e items t covered
    obtain ⟨l, hl, -, pos, le⟩ := covered.head
    refine ⟨_, releaseReservation_eq_ok.mpr ⟨l, hl, le, rfl⟩, covered.tail fun l' hl' => ?_⟩
    obtain rfl : l = l' := Option.some.inj (hl.symm.trans hl')
    exact ⟨by simp [ProductListing.release]; ring, rfl, fun sound => sound.release pos le⟩
  obtain ⟨t', ht', -⟩ := foldlM_progress (J := Covered) step items h
  exact ⟨t', ht'⟩

end ColorfulLife
