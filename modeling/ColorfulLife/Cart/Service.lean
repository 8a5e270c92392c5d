/-
The customer cart (`domain/cart/cartService.ts`). Every mutation takes the
customer's cart lock, settles the queued order outcomes and only then decides
on quantities, in one transaction.
-/

import ColorfulLife.Cart.Provenance

namespace ColorfulLife

open Relational

/-! ### Presenting a cart -/

structure CartItemView where
  item : CartItem
  allocatedQuantity : Int
  unallocatedQuantity : Int
  availableStock : Int
  effectivePrice : Pence
  deriving DecidableEq, Repr

/-- The projection of one cart row with its listing. -/
def presentItem (db : Db) (cartItemId : Nat) (item : CartItem) (listing : ProductListing) :
    CartItemView where
  item := item
  allocatedQuantity := allocatedQuantity cartItemId db
  unallocatedQuantity := item.quantity - allocatedQuantity cartItemId db
  availableStock := max 0 (listing.currentStock - listing.reservedStock)
  effectivePrice := listing.salePrice.getD listing.originalPrice

/-- The items of `getCart`, by row id. -/
def presentCart (userId : Nat) (db : Db) : List CartItemView :=
  match findCart userId db with
  | none => []
  | some (cartId, _) =>
      ((db.cartItems.select fun _ item => decide (item.cartId = cartId)).insertionSort
        fun a b => a.1 ≤ b.1).filterMap fun e =>
          (db.listings.get? e.2.productListingId).map (presentItem db e.1 e.2)

/-! ### Mutations -/

def validateListing (productListingId : Nat) (quantity : Int) (db : Db) : Result PUnit := do
  let listing ← orThrow (db.listings.get? productListingId)
    (DomainError.cartProductListingNotFound productListingId)
  ensure (listing.active = true) (DomainError.cartProductListingInactive productListingId)
  ensure (¬ (listing.condition = .usedLikeNew ∧ listing.usedLifecycle ≠ some .available))
    (DomainError.cartInsufficientAvailableStock productListingId 0 quantity)
  let availableStock := listing.currentStock - listing.reservedStock
  ensure (quantity ≤ availableStock)
    (DomainError.cartInsufficientAvailableStock productListingId availableStock quantity)

/-- `cart.upsert`: the customer's cart, created on first use. -/
def upsertCart (userId : Nat) (db : Db) : Db × Nat :=
  match findCart userId db with
  | some (cartId, _) => (db, cartId)
  | none => ({ db with carts := db.carts.insert { userId } }, db.carts.nextId)

/-- Add quantity to a listing's cart row and return the row's id. -/
def addCartItem (userId : Nat) (input : RequestLine) (now : Time) (db : Db) : Result (Db × Nat) := do
  let db ← settleCartReconciliation userId now db
  let (db, cartId) := upsertCart userId db
  match findCartItem cartId input.productListingId db with
  | some (id, existing) =>
      let total := existing.quantity + input.quantity
      let _ ← validateListing input.productListingId (total - allocatedQuantity id db) db
      return ({ db with
        cartItems := db.cartItems.update id fun row => { row with quantity := total } }, id)
  | none =>
      let _ ← validateListing input.productListingId input.quantity db
      return ({ db with
        cartItems := db.cartItems.insert
          { cartId, productListingId := input.productListingId, quantity := input.quantity } },
        db.cartItems.nextId)

/-- Set the visible quantity of a row. A row that the settlement consumed gets a
fresh identity, so old provenance can never reach it. -/
def updateCartItem (userId : Nat) (input : RequestLine) (now : Time) (db : Db) : Result Db := do
  let (cartId, _) ← orThrow (findCart userId db) DomainError.cartItemNotFound
  let _ ← orThrow (findCartItem cartId input.productListingId db) DomainError.cartItemNotFound
  let db ← settleCartReconciliation userId now db
  match findCartItem cartId input.productListingId db with
  | some (id, _) =>
      let _ ← validateListing input.productListingId
        (max 0 (input.quantity - allocatedQuantity id db)) db
      let db := reduceAllocations id input.quantity db
      return { db with
        cartItems := db.cartItems.update id fun row => { row with quantity := input.quantity } }
  | none =>
      let _ ← validateListing input.productListingId (max 0 input.quantity) db
      return { db with
        cartItems := db.cartItems.insert
          { cartId, productListingId := input.productListingId, quantity := input.quantity } }

def removeCartItem (userId productListingId : Nat) (now : Time) (db : Db) : Result Db := do
  let (cartId, _) ← orThrow (findCart userId db) DomainError.cartItemNotFound
  let (originalId, _) ← orThrow (findCartItem cartId productListingId db)
    DomainError.cartItemNotFound
  let db ← settleCartReconciliation userId now db
  match db.cartItems.get? originalId with
  | some _ => return deleteCartItem originalId (reduceAllocations originalId 0 db)
  | none => return db

/-- Detach every row of a cart, then delete them. -/
def emptyCart (cartId : Nat) (db : Db) : Db :=
  let ids := (db.cartItems.select fun _ item => decide (item.cartId = cartId)).map Prod.fst
  let db := ids.foldl (fun db id => reduceAllocations id 0 db) db
  ids.foldl (fun db id => deleteCartItem id db) db

def clearCart (userId : Nat) (now : Time) (db : Db) : Result Db := do
  let db ← settleCartReconciliation userId now db
  match findCart userId db with
  | none => return db
  | some (cartId, _) => return emptyCart cartId db

end ColorfulLife
