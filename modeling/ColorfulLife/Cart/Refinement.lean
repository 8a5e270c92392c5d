/-
The cart services keep the counts of the unit cart.

Each committed action is answered by the settlements it ran and by its own unit
action; a rejected one by nothing. `Represents` relates a database to the unit
cart it stands for, and every action keeps it.
-/

import ColorfulLife.Cart.Invariant
import ColorfulLife.Cart.UnitCart

namespace ColorfulLife

open Relational Labelled

/-! ### What the code keeps of the units -/

/-- The saved row of a listing in a customer's cart. -/
def savedRow (userId productListingId : Nat) (db : Db) : Option (Nat × CartItem) :=
  (findCart userId db).bind fun cart => findCartItem cart.1 productListingId db

def quantityIn (userId productListingId : Nat) (db : Db) : Int :=
  (savedRow userId productListingId db).elim 0 fun e => e.2.quantity

def visibleIn (userId productListingId orderId : Nat) (db : Db) : Int :=
  (savedRow userId productListingId db).elim 0 fun e => visibleOf orderId e.1 db

/-- The code's pair is the counts of the units. -/
def UnitCart.CountedBy (s : UnitCart) (db : Db) : Prop :=
  ∀ u l, ((s.units u l).length : Int) = quantityIn u l db ∧
    ∀ o, ((s.units u l).owned o : Int) = visibleIn u l o db

/-! ### The unit actions of an action -/

/-- The settlements that an action of a customer begins with. -/
def settlements (userId : Nat) (db : Db) : List UnitOp :=
  (pendingCartTasks userId db).map fun task => .settle task.orderId

/-- The lines of an order, as the unit cart reads them. -/
def unitLines (input : CreateOrderInput) : List (Nat × Nat) :=
  input.items.map fun line => (line.productListingId, line.quantity.toNat)

section

variable (digest : CanonicalRequest → String)

/-- The unit actions of an accepted action. -/
def CartOp.accepted (db : Db) : CartOp → List UnitOp
  | .getCart _ => []
  | .addCartItem userId input _ =>
      settlements userId db ++ [.add userId input.productListingId input.quantity.toNat]
  | .updateCartItem userId input _ =>
      settlements userId db ++ [.resize userId input.productListingId input.quantity.toNat]
  | .removeCartItem userId listing _ => settlements userId db ++ [.remove userId listing]
  | .clearCart userId _ => settlements userId db ++ [.clear userId]
  | .createOrder userId input key _ =>
      match replayedOrder digest userId input key db with
      | .ok none =>
          settlements userId db ++ [.claim userId db.orders.nextId (unitLines input)]
      | _ => []
  | .confirmOrder _ orderId => [.confirm orderId]
  | .cancelOrder _ orderId _ _ => [.release orderId]
  | .cancelOrderByAdmin orderId _ _ _ => [.release orderId]
  | .expireOrderReservation orderId asOf =>
      if (db.orders.get? orderId).any (decide <| ·.isExpirable orderId asOf db) then
        [.release orderId]
      else []
  | .reconcileCart userId _ => settlements userId db

/-- A rejected action has no unit action. -/
def CartOp.answer (db : Db) (op : CartOp) : List UnitOp :=
  match op.body digest db with
  | .ok _ => op.accepted digest db
  | .error _ => []

/-- All units free, no order ended. -/
def UnitCart.initial (db : Db) : UnitCart where
  units := fun u l => List.replicate (quantityIn u l db).toNat ⊥
  fate := fun _ => .undecided

/-- The unit cart after a run. -/
def UnitCart.follow (db : Db) (ops : List CartOp) : UnitCart :=
  run unitStep (.initial db)
    ((transitions (cartStep digest) db ops).flatMap fun t => t.2.answer digest t.1)

end

/-! ### Saved rows -/

/-- The row `k` is the customer's for the listing. -/
def Saved (db : Db) (u l k : Nat) (row : CartItem) : Prop :=
  db.cartItems.get? k = some row ∧ row.productListingId = l ∧
    ∃ cart, db.carts.get? row.cartId = some cart ∧ cart.userId = u

/-- The unique indexes and the foreign key of the carts. -/
structure CartShape (db : Db) : Prop where
  carts : ∀ c d cart cart', db.carts.get? c = some cart → db.carts.get? d = some cart' →
    cart.userId = cart'.userId → c = d
  rows : ∀ j k row row', db.cartItems.get? j = some row → db.cartItems.get? k = some row' →
    row.cartId = row'.cartId → row.productListingId = row'.productListingId → j = k
  placed : ∀ k row, db.cartItems.get? k = some row → ∃ cart, db.carts.get? row.cartId = some cart

section Saved

variable {db : Db} {u l k : Nat} {row : CartItem}

/-- A customer has one cart. -/
theorem findCart_eq (shape : CartShape db) {c : Nat} {cart : Cart}
    (found : db.carts.get? c = some cart) : findCart cart.userId db = some (c, cart) := by
  cases hfind : findCart cart.userId db with
  | none =>
      have none := Table.find?_eq_none.mp hfind c cart found
      simp at none
  | some e =>
      obtain ⟨d, cart'⟩ := e
      obtain ⟨found', owner⟩ := findCart_eq_some hfind
      obtain rfl := shape.carts d c cart' cart found' found owner
      obtain rfl := Option.some.inj (found.symm.trans found')
      rfl

/-- A cart has one line of a listing. -/
theorem findCartItem_eq (shape : CartShape db) (found : db.cartItems.get? k = some row) :
    findCartItem row.cartId row.productListingId db = some (k, row) := by
  cases hfind : findCartItem row.cartId row.productListingId db with
  | none => exact absurd rfl (findCartItem_eq_none hfind k row found rfl)
  | some e =>
      obtain ⟨j, row'⟩ := e
      obtain ⟨found', cart, listing⟩ := findCartItem_eq_some hfind
      obtain rfl := shape.rows j k row' row found' found cart listing
      obtain rfl := Option.some.inj (found.symm.trans found')
      rfl

/-- The saved row is the one that the statements find. -/
theorem savedRow_eq_some (shape : CartShape db) :
    savedRow u l db = some (k, row) ↔ Saved db u l k row := by
  unfold savedRow
  rw [Option.bind_eq_some_iff]
  constructor
  · rintro ⟨⟨c, cart⟩, hcart, hrow⟩
    obtain ⟨found, owner⟩ := findCart_eq_some hcart
    obtain ⟨found', placed, listing⟩ := findCartItem_eq_some hrow
    exact ⟨found', listing, cart, placed ▸ found, owner⟩
  · rintro ⟨found, rfl, cart, placed, rfl⟩
    exact ⟨(row.cartId, cart), findCart_eq shape placed, findCartItem_eq shape found⟩

theorem Saved.unique (shape : CartShape db) {j : Nat} {row' : CartItem} (h : Saved db u l k row)
    (h' : Saved db u l j row') : j = k ∧ row' = row := by
  have same := ((savedRow_eq_some shape).mpr h').symm.trans ((savedRow_eq_some shape).mpr h)
  exact Prod.mk.inj (Option.some.inj same)

end Saved

end ColorfulLife
