/-
The tables of the commerce domain (`prisma/schema.prisma`), restricted to the
columns that the order, inventory, cart, payment and refund services read or
write. A row carries no `id` column: the key is the table's.

`Db` is one database state. The predicates at the end are the constraints the
migrations put on a product listing; services never read them.
-/

import ColorfulLife.Relational.Table
import ColorfulLife.Schema.Values

namespace ColorfulLife

open Relational

/-! ### Accounts -/

structure User where
  emailVerified : Bool
  deriving DecidableEq, Repr

/-- The address columns that are copied into an order. -/
structure AddressSnapshot where
  recipientName : String
  line1 : String
  line2 : Option String
  city : String
  county : Option String
  postcode : String
  countryCode : String
  phone : Option String
  deriving DecidableEq, Repr

structure Address where
  userId : Nat
  snapshot : AddressSnapshot
  isDefault : Bool
  isDefaultBilling : Bool
  deriving DecidableEq, Repr

/-! ### Catalogue and stock -/

structure Category where
  name : String
  deriving DecidableEq, Repr

structure LegoProduct where
  setNumber : String
  categoryId : Option Nat
  title : String
  description : Option String
  theme : String
  ageRecommendation : String
  pieceCount : Int
  isRetired : Bool
  isFeatureProduct : Bool
  deriving DecidableEq, Repr

structure UsedConditionPhoto where
  url : String
  publicId : String
  sortOrder : Nat
  deriving DecidableEq, Repr

structure ProductListing where
  legoProductId : Nat
  condition : ListingCondition
  damageDescription : Option String
  usedLifecycle : Option UsedOfferLifecycle
  originalPrice : Pence
  salePrice : Option Pence
  currentStock : Int
  reservedStock : Int
  active : Bool
  usedConditionPhotos : List UsedConditionPhoto
  deriving DecidableEq, Repr

structure ProductImage where
  legoProductId : Nat
  url : String
  publicId : String
  altText : Option String
  sortOrder : Nat
  deriving DecidableEq, Repr

structure InventoryMovement where
  listingId : Nat
  quantityChange : Int
  type : InventoryMovementType
  note : MovementNote
  performedByUserId : Nat
  deriving DecidableEq, Repr

structure InventoryAudit where
  sourceProductListingId : Nat
  targetProductListingId : Option Nat
  action : InventoryAuditAction
  quantity : Int
  reason : InventoryAdjustmentReason
  reasonNote : Option String
  performedByUserId : Nat
  deriving DecidableEq, Repr

/-! ### Orders and returns -/

structure Order where
  userId : Nat
  status : OrderStatus
  creationIdempotencyKey : Option String
  creationRequestHash : Option String
  billing : AddressSnapshot
  delivery : AddressSnapshot
  totalAmount : Pence
  actualShippingCost : Option Pence
  shippingCarrier : Option String
  trackingNumber : Option String
  dispatchedAt : Option Time
  reservationExpiresAt : Option Time
  createdAt : Time
  cancelledAt : Option Time
  cancelledBy : Option CancellationInitiator
  cancellationReason : Option CancellationReason
  completedAt : Option Time
  deriving DecidableEq, Repr

structure OrderItem where
  orderId : Nat
  productListingId : Nat
  quantity : Int
  returnedQuantity : Int
  reservedReturnQuantity : Int
  unitPrice : Pence
  lineTotal : Pence
  conditionSnapshot : ListingCondition
  damageDescriptionSnapshot : Option String
  conditionPhotoSnapshot : Option (List UsedConditionPhoto)
  deriving DecidableEq, Repr

structure OrderReturn where
  orderItemId : Nat
  quantity : Int
  restockQuantity : Int
  reason : ReturnReason
  reasonNote : Option String
  status : OrderReturnStatus
  shippingPayer : ReturnShippingPayer
  returnShippingCost : Option ℚ
  performedByUserId : Nat
  condition : Option ReturnCondition
  inspectionNote : Option String
  inspectedAt : Option Time
  inspectedByUserId : Option Nat
  authorizedAt : Option Time
  receivedAt : Option Time
  completedAt : Option Time
  cancelledAt : Option Time
  deriving DecidableEq, Repr

/-! ### Purchases -/

/-- `sourceOrderDate` and `sourceDocumentDate` are instants, in milliseconds since
1970, and may lie before it. -/
structure Purchase where
  sourceOrderReference : String
  sourceOrderDate : Option Int
  merchantName : Option String
  deriving DecidableEq, Repr

structure PurchaseDocument where
  purchaseId : Nat
  partNumber : Nat
  sourceInvoiceReference : Option String
  importHash : String
  sourceDocumentDate : Option Int
  importedByUserId : Nat
  originalGrossMerchandiseTotal : Pence
  shippingTotal : Pence
  discountTotal : Pence
  finalTotalPaid : Pence
  deriving DecidableEq, Repr

/-- `finalUnitCost` has six decimal places and is held in millionths of a pound. -/
structure PurchaseItem where
  purchaseDocumentId : Nat
  productListingId : Option Nat
  inventoryDisposition : PurchaseItemDisposition
  externalProductId : Option String
  sourceDescription : String
  sourceSetNumber : Option String
  sourceLineNumber : Option Int
  quantity : Int
  originalGrossUnitCost : Pence
  originalGrossLineTotal : Pence
  allocatedShipping : Pence
  allocatedDiscount : Pence
  finalLineCost : Pence
  finalUnitCost : Int
  receivedAt : Option Time
  returnedAt : Option Time
  deriving DecidableEq, Repr

/-! ### Carts -/

structure Cart where
  userId : Nat
  deriving DecidableEq, Repr

structure CartItem where
  cartId : Nat
  productListingId : Nat
  quantity : Int
  deriving DecidableEq, Repr

/-- Keyed by the order it belongs to. -/
structure OrderCartProvenance where
  cartId : Nat
  state : CartReconciliationState
  completedAt : Option Time
  lastError : Option String
  deriving DecidableEq, Repr

structure OrderCartAllocation where
  orderId : Nat
  cartItemId : Option Nat
  productListingId : Nat
  quantity : Int
  visibleQuantity : Int
  deriving DecidableEq, Repr

/-! ### Payments and refunds -/

structure Payment where
  orderId : Nat
  amount : Pence
  currency : String
  provider : PaymentProvider
  providerReference : ProviderReference
  idempotencyKey : Option String
  providerCaptureReference : Option String
  captureIdempotencyKey : Option String
  status : PaymentStatus
  paidAt : Option Time
  refundedAmount : Pence
  reservedRefundAmount : Pence
  deriving DecidableEq, Repr

structure PaymentWebhookEvent where
  provider : PaymentProvider
  providerEventId : String
  eventType : String
  processedAt : Option Time
  processingError : Option String
  deriving DecidableEq, Repr

structure Refund where
  orderId : Nat
  paymentId : Nat
  amount : Pence
  currency : String
  status : RefundStatus
  provider : RefundProvider
  providerReference : ProviderReference
  refundIdempotencyKey : Option String
  reason : Option String
  performedByUserId : Nat
  deriving DecidableEq, Repr

/-! ### The database -/

/-- One database state. Movements and audits are only ever appended. -/
structure Db where
  users : Table User
  addresses : Table Address
  categories : Table Category
  legoProducts : Table LegoProduct
  listings : Table ProductListing
  movements : List InventoryMovement
  audits : List InventoryAudit
  orders : Table Order
  orderItems : Table OrderItem
  orderReturns : Table OrderReturn
  purchases : Table Purchase
  purchaseDocuments : Table PurchaseDocument
  purchaseItems : Table PurchaseItem
  carts : Table Cart
  cartItems : Table CartItem
  cartProvenance : Table OrderCartProvenance
  cartAllocations : Table OrderCartAllocation
  payments : Table Payment
  webhookEvents : Table PaymentWebhookEvent
  refunds : Table Refund

/-- The database right after the migrations ran. -/
def Db.empty : Db where
  users := .empty
  addresses := .empty
  categories := .empty
  legoProducts := .empty
  listings := .empty
  movements := []
  audits := []
  orders := .empty
  orderItems := .empty
  orderReturns := .empty
  purchases := .empty
  purchaseDocuments := .empty
  purchaseItems := .empty
  carts := .empty
  cartItems := .empty
  cartProvenance := .empty
  cartAllocations := .empty
  payments := .empty
  webhookEvents := .empty
  refunds := .empty

/-- The rows of `OrderItem` that belong to an order. -/
def Db.itemsOf (db : Db) (orderId : Nat) : List (Nat × OrderItem) :=
  db.orderItems.select fun _ item => decide (item.orderId = orderId)

/-! ### Constraints on listings

`20260924120000_add_physical_used_offers/migration.sql`. -/

/-- `ProductListing_used_lifecycle_check`. -/
def ProductListing.usedLifecycleCheck (listing : ProductListing) : Prop :=
  (listing.condition = .new ∧ listing.usedLifecycle = none) ∨
    (listing.condition = .usedLikeNew ∧
      ((listing.usedLifecycle = some .available ∧ listing.currentStock = 1 ∧
          0 ≤ listing.reservedStock ∧ listing.reservedStock ≤ 1) ∨
        ((listing.usedLifecycle = some .sold ∨ listing.usedLifecycle = some .retired) ∧
          listing.currentStock = 0 ∧ listing.reservedStock = 0)))

instance (listing : ProductListing) : Decidable listing.usedLifecycleCheck := by
  unfold ProductListing.usedLifecycleCheck; infer_instance

end ColorfulLife
