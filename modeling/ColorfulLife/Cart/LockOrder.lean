/-
The order in which the cart and order transactions lock
(`domain/orders/orderService.ts`, `orderConfirmationService.ts`,
`orderCancellationService.ts`, `orderExpiryService.ts`, `domain/cart/cartService.ts`,
`cartProvenanceService.ts`).

Each request of the cart machine gets the script of its transaction: the advisory
locks (taken as distinct for distinct names), the rows it locks with `FOR UPDATE` or
by an update, and the reads that decide which. Rows that only the holder of a
customer's cart lock writes are left out, and so is the note on a failed settlement,
which is written after the settlement's locks are released. Any other check of a
transaction that throws is a rollback of the lock manager.

The listings of a creation are locked by id first and updated in the order of the
request afterwards, when all of them are held.
-/

import ColorfulLife.Cart.Machine
import ColorfulLife.Cart.Invariant
import ColorfulLife.Relational.Locks
import Mathlib.Data.Prod.Lex

namespace ColorfulLife

open Relational

/-! ### What is locked -/

inductive LockedResource where
  | orderCreate (userId : Nat) (idempotencyKey : String)
  | customerCart (userId : Nat)
  | order (orderId : Nat)
  | listing (productListingId : Nat)
  | cartProvenance (orderId : Nat)
  deriving DecidableEq, Repr

/-- Cart locks precede listing locks, and these any provenance writes. -/
def LockedResource.rank : LockedResource → ℕ ×ₗ ℕ
  | .orderCreate _ _ => toLex (0, 0)
  | .customerCart _ => toLex (1, 0)
  | .order _ => toLex (2, 0)
  | .listing productListingId => toLex (3, productListingId)
  | .cartProvenance orderId => toLex (4, orderId)

abbrev CartScript := Script LockedResource Db CartOp

/-- `SELECT … FOR UPDATE` of an order; without a row nothing is locked. -/
def lockOrder (orderId : Nat) (rest : CartScript) : CartScript :=
  .read fun db => if (db.orders.get? orderId).isSome then .lock (.order orderId) rest else rest

/-- A statement that locks a listing, and what follows when there is none. -/
def listingStatement (unmatched : CartScript → CartScript) (productListingId : Nat)
    (rest : CartScript) : CartScript :=
  .read fun db =>
    if (db.listings.get? productListingId).isSome then .lock (.listing productListingId) rest
    else unmatched rest

/-- `SELECT … FOR UPDATE` of a listing. -/
def lockListing : Nat → CartScript → CartScript :=
  listingStatement id

/-- An update of a listing; the transaction throws when it matches no row. -/
def updateListing : Nat → CartScript → CartScript :=
  listingStatement fun _ => .abort

/-- `queueCartReconciliation`. -/
def lockActiveProvenance (orderId : Nat) (rest : CartScript) : CartScript :=
  .read fun db =>
    if (db.cartProvenance.get? orderId).any fun p => decide (p.state = .active) then
      .lock (.cartProvenance orderId) rest
    else rest

/-- `settleCartReconciliation`. -/
def lockPendingTasks (userId : Nat) (rest : CartScript) : CartScript :=
  .read fun db =>
    Script.locks ((pendingCartTasks userId db).map fun task => .cartProvenance task.orderId) rest

/-! ### The scripts -/

def orderedListings (orderId : Nat) (db : Db) : List Nat :=
  (sortItems (db.itemsOf orderId)).map fun e => e.2.productListingId

/-- The listings that a cancelled sale is restocked to. -/
def restockedListings (orderId : Nat) (db : Db) : List Nat :=
  (orderedListings orderId db).filter fun id =>
    !(db.listings.get? id).any fun l => decide (l.condition = .usedLikeNew)

/-- `[...listingIdsSet].sort((a, b) => a - b)`. -/
def sortedListingIds (items : List RequestLine) : List Nat :=
  (items.map RequestLine.productListingId).insertionSort (· ≤ ·)

/-- A placement under the customer's cart lock. -/
def placementScript (op : CartOp) (userId : Nat) (items : List RequestLine) : CartScript :=
  .lock (.customerCart userId) <|
    (sortedListingIds items).foldr lockListing <|
      lockPendingTasks userId <| .read fun db =>
        if (missingListing items db).isSome then .abort
        else (items.map RequestLine.productListingId).foldr updateListing (.commit op)

def createOrderScript (op : CartOp) (userId : Nat) (items : List RequestLine)
    (key : Option String) : CartScript :=
  match key with
  | none => placementScript op userId items
  | some key =>
      .lock (.orderCreate userId key) <| .read fun db =>
        if (existingOrder userId key db).isSome then .abort else placementScript op userId items

/-- The listings of the order, then its provenance. -/
def endOrderScript (op : CartOp) (orderId : Nat) (db : Db) : CartScript :=
  (orderedListings orderId db).foldr updateListing (lockActiveProvenance orderId (.commit op))

def confirmOrderScript (op : CartOp) (orderId : Nat) : CartScript :=
  lockOrder orderId <| .read fun db =>
    if (db.orders.get? orderId).any fun order => decide (order.status = .pending) then
      endOrderScript op orderId db
    else .abort

def cancelScript (op : CartOp) (owner : Option Nat) (orderId : Nat) : CartScript :=
  lockOrder orderId <| .read fun db =>
    match findCancelled owner orderId db with
    | none => .abort
    | some order =>
        if order.status.isCancellable = true ∧ order.cancelledAt = none then
          if order.status = .pending then endOrderScript op orderId db
          else (restockedListings orderId db).foldr updateListing (.commit op)
        else .abort

def expireOrderScript (op : CartOp) (orderId : Nat) (asOf : Time) : CartScript :=
  lockOrder orderId <| .read fun db =>
    if (db.orders.get? orderId).any fun order => decide (order.isExpirable orderId asOf db) then
      endOrderScript op orderId db
    else .abort

/-- A change of the customer's cart to the line of a listing. -/
def cartLineScript (op : CartOp) (userId productListingId : Nat) : CartScript :=
  .lock (.customerCart userId) <| lockListing productListingId <|
    lockPendingTasks userId (.commit op)

def settleScript (op : CartOp) (userId : Nat) : CartScript :=
  .lock (.customerCart userId) <| lockPendingTasks userId (.commit op)

def CartOp.script (op : CartOp) : CartScript :=
  match op with
  | .getCart _ => .commit op
  | .addCartItem userId input _ => cartLineScript op userId input.productListingId
  | .updateCartItem userId input _ => cartLineScript op userId input.productListingId
  | .removeCartItem userId _ _ => settleScript op userId
  | .clearCart userId _ => settleScript op userId
  | .createOrder userId input key _ => createOrderScript op userId input.items key
  | .confirmOrder _ orderId => confirmOrderScript op orderId
  | .cancelOrder userId orderId _ _ => cancelScript op (some userId) orderId
  | .cancelOrderByAdmin orderId _ _ _ => cancelScript op none orderId
  | .expireOrderReservation orderId asOf => expireOrderScript op orderId asOf
  | .reconcileCart userId _ => settleScript op userId

/-- The same listings exist. -/
def SameListings (t t' : Table ProductListing) : Prop :=
  ∀ id, (t'.get? id).isSome = (t.get? id).isSome

namespace SameListings

variable {t t' t'' : Table ProductListing} {db db' : Db}

theorem refl (t : Table ProductListing) : SameListings t t := fun _ => rfl

theorem trans (h : SameListings t t') (h' : SameListings t' t'') : SameListings t t'' :=
  fun id => (h' id).trans (h id)

/-- An update of a row removes none. -/
theorem update (t : Table ProductListing) (k : Nat) (f : ProductListing → ProductListing) :
    SameListings t (t.update k f) := by
  intro id
  rw [Table.get?_update]
  split <;> simp

/-- The loops of the transactions only update listings. -/
theorem reserve {rows : List OrderItem} (h : rows.foldlM reserveLine t = .ok t') :
    SameListings t t' :=
  foldlM_invariant (I := SameListings t) (fun s item s' hs step => by
    obtain ⟨l, -, -, rfl⟩ := reserveLine_eq_ok.mp step
    exact hs.trans (update s _ _)) rows (refl t) h

theorem release {items : List (Nat × OrderItem)} (h : items.foldlM releaseReservation t = .ok t') :
    SameListings t t' :=
  foldlM_invariant (I := SameListings t) (fun s e s' hs step => by
    obtain ⟨l, -, -, rfl⟩ := releaseReservation_eq_ok.mp step
    exact hs.trans (update s _ _)) items (refl t) h

theorem convert {performedBy orderId : Nat} {items : List (Nat × OrderItem)} {s s' : Stock}
    (h : items.foldlM (convertReservation performedBy orderId) s = .ok s') :
    SameListings s.listings s'.listings :=
  foldlM_invariant (I := fun x => SameListings s.listings x.listings) (fun x e x' hx step => by
    obtain ⟨l, -, -, rfl⟩ := convertReservation_eq_ok.mp step
    exact hx.trans (update x.listings _ _)) items (refl _) h

theorem restock {performedBy orderId : Nat} {items : List (Nat × OrderItem)} {s s' : Stock}
    (h : items.foldlM (restockCancelled performedBy orderId) s = .ok s') :
    SameListings s.listings s'.listings :=
  foldlM_invariant (I := fun x => SameListings s.listings x.listings) (fun x e x' hx step => by
    obtain ⟨l, -, ⟨-, rfl⟩ | ⟨-, rfl⟩⟩ := restockCancelled_eq_ok.mp step
    · exact hx
    · exact hx.trans (update x.listings _ _)) items (refl _) h

/-- A change of the cart tables only. -/
theorem frame (h : CartFrame db db') : SameListings db.listings db'.listings := by
  obtain ⟨_, _, _, rfl⟩ := h.fields
  exact refl _

end SameListings

section Listings

variable {db db' : Db} {digest : CanonicalRequest → String}

end Listings

/-! ### Every script locks in order -/

section Ascending

variable {t₀ : Table ProductListing} {held : List LockedResource} {rest : CartScript} {op : CartOp}

/-- Increasing, on data with the listings of `t₀`. -/
def Ordered (t₀ : Table ProductListing) : List LockedResource → CartScript → Prop :=
  Script.Ascends LockedResource.rank fun db => SameListings t₀ db.listings

end Ascending

end ColorfulLife
