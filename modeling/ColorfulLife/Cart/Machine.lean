/-
The customer's cart as a machine: the cart requests, the order transitions that
reach the cart's provenance, and the worker's settlements, each a transaction
that commits or rolls back whole.

The worker pages through the pending tasks and settles one customer after the
other in transactions of their own; `reconcileCart` is one of those.
-/

import ColorfulLife.Cart.Service
import ColorfulLife.Orders.Creation
import ColorfulLife.Orders.Lifecycle
import ColorfulLife.Shop.Machine

namespace ColorfulLife

open Relational

inductive CartOp where
  | getCart (userId : Nat)
  | addCartItem (userId : Nat) (input : RequestLine) (now : Time)
  | updateCartItem (userId : Nat) (input : RequestLine) (now : Time)
  | removeCartItem (userId productListingId : Nat) (now : Time)
  | clearCart (userId : Nat) (now : Time)
  | createOrder (userId : Nat) (input : CreateOrderInput) (key : Option String) (now : Time)
  | confirmOrder (performedByUserId orderId : Nat)
  | cancelOrder (userId orderId : Nat) (reason : CancellationReason) (now : Time)
  | cancelOrderByAdmin (orderId : Nat) (reason : CancellationReason) (adminUserId : Nat)
      (now : Time)
  | expireOrderReservation (orderId : Nat) (asOf : Time)
  | reconcileCart (userId : Nat) (now : Time)

/-- One customer's turn in `reconcilePendingCarts`. -/
def reconcileCart (userId : Nat) (now : Time) (db : Db) : Db :=
  match settleCartReconciliation userId now db with
  | .ok settled => settled
  | .error e => recordCartError userId e.message db

section

variable (digest : CanonicalRequest → String)

/-- The transaction body of an action. -/
def CartOp.body : CartOp → Db → Result Db
  | .getCart userId, db => .ok (upsertCart userId db).1
  | .addCartItem userId input now, db =>
      (ColorfulLife.addCartItem userId input now db).map Prod.fst
  | .updateCartItem userId input now, db => ColorfulLife.updateCartItem userId input now db
  | .removeCartItem userId listing now, db => ColorfulLife.removeCartItem userId listing now db
  | .clearCart userId now, db => ColorfulLife.clearCart userId now db
  | .createOrder userId input key now, db =>
      (ColorfulLife.createOrder digest userId input key now db).map Prod.fst
  | .confirmOrder performedBy id, db => confirmOrderInTransaction performedBy id db
  | .cancelOrder userId id reason now, db => ColorfulLife.cancelOrder userId id reason now db
  | .cancelOrderByAdmin id reason admin now, db =>
      ColorfulLife.cancelOrderByAdmin id reason admin now db
  | .expireOrderReservation id asOf, db => ColorfulLife.expireOrderReservation id asOf db
  | .reconcileCart userId now, db => .ok (ColorfulLife.reconcileCart userId now db)

def cartStep (db : Db) (op : CartOp) : Db := commit (op.body digest db) db

end

/-- Carts with saved rows, and no provenance yet: historical orders have none. -/
structure CartStart (db : Db) : Prop where
  carts : ∀ c d cart cart', db.carts.get? c = some cart → db.carts.get? d = some cart' →
    cart.userId = cart'.userId → c = d
  rows : ∀ j k row row', db.cartItems.get? j = some row → db.cartItems.get? k = some row' →
    row.cartId = row'.cartId → row.productListingId = row'.productListingId → j = k
  placed : ∀ k row, db.cartItems.get? k = some row → ∃ cart, db.carts.get? row.cartId = some cart
  quantities : ∀ k row, db.cartItems.get? k = some row → 0 ≤ row.quantity
  provenance : ∀ o, db.cartProvenance.get? o = none
  allocations : ∀ i, db.cartAllocations.get? i = none

/-- The sample customer has put three units of the sample listing into a cart. -/
def sampleCart : Db :=
  { sampleShop with
    carts := Table.empty.insert { userId := 1 }
    cartItems := Table.empty.insert { cartId := 1, productListingId := 1, quantity := 3 } }

theorem sampleCart_start : CartStart sampleCart where
  carts := by
    intro c d cart cart' hc hd
    rw [sampleCart, Table.get?_insert] at hc hd
    split at hc
    · split at hd
      · simp [*]
      · cases hd
    · cases hc
  rows := by
    intro j k row row' hj hk
    rw [sampleCart, Table.get?_insert] at hj hk
    split at hj
    · split at hk
      · simp [*]
      · cases hk
    · cases hj
  placed := by
    intro k row hk
    rw [sampleCart, Table.get?_insert] at hk
    split at hk
    · obtain rfl := Option.some.inj hk
      exact ⟨_, rfl⟩
    · cases hk
  quantities := by
    intro k row hk
    rw [sampleCart, Table.get?_insert] at hk
    split at hk
    · obtain rfl := Option.some.inj hk
      decide
    · cases hk
  provenance := fun _ => rfl
  allocations := fun _ => rfl

/-- The customer orders two of the three units, adds one, and the order is
confirmed and settled. -/
def sampleShopping : List CartOp :=
  [.createOrder 1 (.single ⟨1, 2, two_units_pos⟩) none 0,
    .addCartItem 1 ⟨1, 1, Int.zero_lt_one⟩ 1, .confirmOrder 7 1, .reconcileCart 1 2]

end ColorfulLife
