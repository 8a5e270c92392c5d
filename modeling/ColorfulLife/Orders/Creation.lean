/-
Order creation (`domain/orders/orderService.ts`).

A creation is one transaction: it rechecks the customer and the idempotency key,
settles the customer's cart, snapshots addresses, prices and conditions, plans
the cart allocation, reserves stock line by line and writes the order. Before
it, the service expires elapsed reservations of the requested listings in
transactions of their own; those are steps of a run, not part of the body here.

The hash of a request is a parameter: `digest` stands for SHA-256 over the JSON
text of the canonical request.
-/

import ColorfulLife.Cart.Provenance
import ColorfulLife.Inventory.Stock

namespace ColorfulLife

open Relational

/-! ### Requests -/

/-- A validated order request: at least one line. -/
structure CreateOrderInput where
  items : List RequestLine
  nonempty : items ≠ []
  deliveryAddress : Option AddressSnapshot
  deriving DecidableEq

/-- One line and no address. -/
def CreateOrderInput.single (line : RequestLine) : CreateOrderInput :=
  ⟨[line], List.cons_ne_nil _ _, none⟩

/-- What the request hash is computed from: client intent, independent of prices
and saved addresses. -/
structure CanonicalRequest where
  items : List (Nat × Int)
  deliveryAddress : Option AddressSnapshot
  deriving DecidableEq, Repr

def canonicalRequest (input : CreateOrderInput) : CanonicalRequest where
  items :=
    (input.items.map fun line => (line.productListingId, line.quantity)).insertionSort
      fun a b => a.1 ≤ b.1
  deliveryAddress := input.deliveryAddress

def requestHash (digest : CanonicalRequest → String) (input : CreateOrderInput) : String :=
  digest (canonicalRequest input)

/-- `/^[\x21-\x7e]{1,128}$/`. -/
def isIdempotencyKey (key : String) : Bool :=
  decide (1 ≤ key.length ∧ key.length ≤ 128) &&
    key.toList.all fun c => decide (0x21 ≤ c.val ∧ c.val ≤ 0x7E)

/-- The first listing that occurs a second time. -/
def firstDuplicate : List Nat → List Nat → Option Nat
  | _, [] => none
  | seen, id :: ids => if id ∈ seen then some id else firstDuplicate (id :: seen) ids

/-! ### What an order is built from -/

def verifiedUser (userId : Nat) (db : Db) : Result PUnit := do
  let user ← orThrow (db.users.get? userId) DomainError.orderUserNotFound
  ensure (user.emailVerified = true) DomainError.emailVerificationRequired

def existingOrder (userId : Nat) (key : String) (db : Db) : Option (Nat × Order) :=
  db.orders.find? fun _ order =>
    decide (order.userId = userId ∧ order.creationIdempotencyKey = some key)

def billingAddress (userId : Nat) (db : Db) : Result AddressSnapshot :=
  match db.addresses.select fun _ a => decide (a.userId = userId ∧ a.isDefaultBilling) with
  | [] => .error .noDefaultBillingAddress
  | [(_, address)] => .ok address.snapshot
  | _ :: _ :: _ => .error .multipleDefaultBillingAddresses

/-- The first requested listing that does not exist. -/
def missingListing (items : List RequestLine) (db : Db) : Option RequestLine :=
  items.find? fun line => (db.listings.get? line.productListingId).isNone

/-- The requested lines with their listings. -/
def requestedListings (items : List RequestLine) (db : Db) :
    List (RequestLine × ProductListing) :=
  items.filterMap fun line => (db.listings.get? line.productListingId).map fun l => (line, l)

/-- Why a listing cannot be ordered at all, before quantities are looked at. -/
def ProductListing.refusal (productListingId : Nat) (listing : ProductListing) :
    Option DomainError :=
  if listing.active = false then some (.orderProductListingInactive productListingId)
  else if listing.condition = .usedLikeNew ∧ listing.usedLifecycle ≠ some .available then
    some (.insufficientAvailableStock productListingId 1)
  else none

def orderItemOf (orderId : Nat) (e : RequestLine × ProductListing) : OrderItem :=
  let unitPrice := e.2.salePrice.getD e.2.originalPrice
  { orderId
    productListingId := e.1.productListingId
    quantity := e.1.quantity
    returnedQuantity := 0
    reservedReturnQuantity := 0
    unitPrice
    lineTotal := unitPrice * e.1.quantity
    conditionSnapshot := e.2.condition
    damageDescriptionSnapshot :=
      if e.2.condition = .usedLikeNew then e.2.damageDescription else none
    conditionPhotoSnapshot :=
      if e.2.condition = .usedLikeNew then
        some (e.2.usedConditionPhotos.insertionSort fun a b => a.sortOrder ≤ b.sortOrder)
      else none }

/-- `30 * 60 * 1000`. -/
def reservationMillis : Nat := 30 * 60 * 1000

section

variable (digest : CanonicalRequest → String)

/-- The order row of an accepted request. -/
def newOrder (userId : Nat) (input : CreateOrderInput) (key : Option String) (now : Time)
    (billing : AddressSnapshot) (items : List OrderItem) : Order where
  userId := userId
  status := .pending
  creationIdempotencyKey := key
  creationRequestHash := key.map fun _ => requestHash digest input
  billing := billing
  delivery := input.deliveryAddress.getD billing
  totalAmount := (items.map OrderItem.lineTotal).sum
  actualShippingCost := none
  shippingCarrier := none
  trackingNumber := none
  dispatchedAt := none
  reservationExpiresAt := some (now + reservationMillis)
  createdAt := now
  cancelledAt := none
  cancelledBy := none
  cancellationReason := none
  completedAt := none

/-! ### The transaction -/

/-- The order a key was already used for; an error when it was used with a
different request. -/
def replayedOrder (userId : Nat) (input : CreateOrderInput) (key : Option String) (db : Db) :
    Result (Option Nat) :=
  match key.bind fun k => existingOrder userId k db with
  | none => .ok none
  | some (orderId, order) => do
      ensure (order.creationRequestHash = some (requestHash digest input))
        DomainError.orderIdempotencyMismatch
      return some orderId

/-- Reserve stock and write the order, after the cart was settled. -/
def placeOrder (userId : Nat) (input : CreateOrderInput) (key : Option String) (now : Time)
    (db : Db) : Result (Db × Nat) := do
  let billing ← billingAddress userId db
  let _ ← orReject (missingListing input.items db) fun line =>
    DomainError.orderProductListingNotFound line.productListingId
  let lines := requestedListings input.items db
  let _ ← orReject (lines.findSome? fun e => e.2.refusal e.1.productListingId) id
  let orderId := db.orders.nextId
  let items := lines.map (orderItemOf orderId)
  let cartAllocation ← prepareOrderCartAllocation userId input.items db
  let listings ← items.foldlM reserveLine db.listings
  let db ← allocateOrderCart orderId cartAllocation
    { db with
      listings := listings
      orders := db.orders.insert (newOrder digest userId input key now billing items)
      orderItems := items.foldl Table.insert db.orderItems }
  return (db, orderId)

/-- The body of the creation transaction: the order's id, new or replayed. -/
def createOrderTransaction (userId : Nat) (input : CreateOrderInput) (key : Option String)
    (now : Time) (db : Db) : Result (Db × Nat) := do
  let _ ← verifiedUser userId db
  match ← replayedOrder digest userId input key db with
  | some orderId => return (db, orderId)
  | none =>
      let db ← settleCartReconciliation userId now db
      placeOrder digest userId input key now db

/-- The checks on the request, then the transaction. -/
def createOrder (userId : Nat) (input : CreateOrderInput) (key : Option String) (now : Time)
    (db : Db) : Result (Db × Nat) := do
  ensure (key.all isIdempotencyKey = true) DomainError.invalidOrderIdempotencyKey
  let _ ← orReject (firstDuplicate [] (input.items.map RequestLine.productListingId))
    DomainError.duplicateProductListing
  createOrderTransaction digest userId input key now db

end

/-! ### Inversion -/

section Inversion

variable {digest : CanonicalRequest → String} {userId : Nat} {input : CreateOrderInput}
  {key : Option String} {now : Time} {db db' : Db} {orderId : Nat}

/-- The items a placed order is written with. -/
def placedItems (input : CreateOrderInput) (db : Db) : List OrderItem :=
  (requestedListings input.items db).map (orderItemOf db.orders.nextId)

/-- A replay is only refused for a different request. -/
theorem replayedOrder_error {e : DomainError}
    (refused : replayedOrder digest userId input key db = .error e) :
    e = .orderIdempotencyMismatch := by
  unfold replayedOrder at refused
  split at refused
  · cases refused
  · simp only [bind_eq_error, ensure_eq_error, pure_ne_error, and_false, exists_false,
      or_false] at refused
    exact refused.2.symm

/-- Everything a placement checked and did. -/
theorem placeOrder_eq_ok :
    placeOrder digest userId input key now db = .ok (db', orderId) ↔
      orderId = db.orders.nextId ∧
      ∃ billing cartAllocation listings,
        billingAddress userId db = .ok billing ∧
        missingListing input.items db = none ∧
        ((requestedListings input.items db).findSome? fun e =>
          e.2.refusal e.1.productListingId) = none ∧
        prepareOrderCartAllocation userId input.items db = .ok cartAllocation ∧
        (placedItems input db).foldlM reserveLine db.listings = .ok listings ∧
        allocateOrderCart orderId cartAllocation
          { db with
            listings := listings
            orders := db.orders.insert
              (newOrder digest userId input key now billing (placedItems input db))
            orderItems := (placedItems input db).foldl Table.insert db.orderItems } = .ok db' := by
  simp only [placeOrder, bind_eq_ok, orReject_eq_ok, pure_eq_ok, Prod.mk.injEq]
  constructor
  · rintro ⟨billing, hb, -, hm, -, hr, alloc, hp, listings, hl, db₁, ha, rfl, rfl⟩
    exact ⟨rfl, billing, alloc, listings, hb, hm, hr, hp, hl, ha⟩
  · rintro ⟨rfl, billing, alloc, listings, hb, hm, hr, hp, hl, ha⟩
    exact ⟨billing, hb, ⟨⟩, hm, ⟨⟩, hr, alloc, hp, listings, hl, db', ha, rfl, rfl⟩

/-- A creation replays an order or places one after a settlement. -/
theorem createOrder_cases (h : createOrder digest userId input key now db = .ok (db', orderId)) :
    (db' = db ∧ replayedOrder digest userId input key db = .ok (some orderId)) ∨
      ∃ settled, replayedOrder digest userId input key db = .ok none ∧
        settleCartReconciliation userId now db = .ok settled ∧
        firstDuplicate [] (input.items.map RequestLine.productListingId) = none ∧
        placeOrder digest userId input key now settled = .ok (db', orderId) := by
  simp only [createOrder, createOrderTransaction, bind_eq_ok, ensure_eq_ok, orReject_eq_ok] at h
  obtain ⟨-, -, -, hdup, -, -, replay, hreplay, h⟩ := h
  cases replay with
  | some id =>
      simp only [pure_eq_ok, Prod.mk.injEq] at h
      obtain ⟨rfl, rfl⟩ := h
      exact Or.inl ⟨rfl, hreplay⟩
  | none =>
      simp only [bind_eq_ok] at h
      obtain ⟨settled, hsettle, hplace⟩ := h
      exact Or.inr ⟨settled, hreplay, hsettle, hdup, hplace⟩

theorem mem_requestedListings {items : List RequestLine} {e : RequestLine × ProductListing} :
    e ∈ requestedListings items db ↔
      e.1 ∈ items ∧ db.listings.get? e.1.productListingId = some e.2 := by
  simp only [requestedListings, List.mem_filterMap, Option.map_eq_some_iff]
  constructor
  · rintro ⟨line, hline, l, hl, rfl⟩
    exact ⟨hline, hl⟩
  · rintro ⟨hline, hl⟩
    exact ⟨e.1, hline, e.2, hl, rfl⟩

theorem mem_placedItems {item : OrderItem} (h : item ∈ placedItems input db) :
    ∃ line ∈ input.items, ∃ l, db.listings.get? line.productListingId = some l ∧
      item = orderItemOf db.orders.nextId (line, l) := by
  obtain ⟨e, he, rfl⟩ := List.mem_map.mp h
  obtain ⟨hline, hl⟩ := mem_requestedListings.mp he
  exact ⟨e.1, hline, e.2, hl, rfl⟩

end Inversion

end ColorfulLife
