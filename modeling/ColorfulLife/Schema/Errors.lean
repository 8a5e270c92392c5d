/-
The errors the services throw, one constructor for each error class and, where
classes of one name differ in their message (`OrderNotFoundError` is declared in
several files), one for each message.

`uniqueViolation`, `foreignKeyViolation`, `valueTooLong`, `numericOverflow` and
`recordNotFound` are the database client's own errors for a broken unique index or
foreign key, a text or a number its column cannot hold, and an update of a row that
is not there (Prisma's `P2002`, `P2003`, `P2000`, `P2020` and `P2025`);
`invalidDateArgument` is its refusal of the invalid date, which has no code.
-/

import ColorfulLife.Schema.Values

namespace ColorfulLife

inductive DomainError where
  -- orders
  | orderIdempotencyMismatch
  | invalidOrderIdempotencyKey
  | noDefaultBillingAddress
  | multipleDefaultBillingAddresses
  | emailVerificationRequired
  | orderUserNotFound
  | orderProductListingNotFound (productListingId : Nat)
  | orderProductListingInactive (productListingId : Nat)
  | insufficientAvailableStock (productListingId : Nat) (requestedQuantity : Int)
  | duplicateProductListing (productListingId : Nat)
  | orderNotFound (orderId : Nat)
  | orderNotFoundOrNotOwned (orderId : Nat)
  | orderNotConfirmable (orderId : Nat) (status : OrderStatus)
  | orderNotCancellable (orderId : Nat) (status : OrderStatus)
  | orderNotDispatchable (orderId : Nat) (status : OrderStatus)
  | orderNotCompletable (orderId : Nat) (status : OrderStatus)
  | insufficientStock (listingId : Nat) (available required : Int)
  | insufficientReservedStock (productListingId : Nat) (quantity : Int)
  | productListingNotFound (listingId : Nat)
  -- order returns
  | invalidReturnQuantity
  | invalidReturnShippingCost
  | orderItemNotFound (orderItemId orderId : Nat)
  | orderReturnQuantityExceeded (orderItemId : Nat) (requested remaining : Int)
  | orderReturnNotFound (returnId orderId : Nat)
  | orderReturnNotAuthorizable (returnId : Nat) (status : OrderReturnStatus)
  | orderReturnNotReceivable (returnId : Nat) (status : OrderReturnStatus)
  | orderReturnNotInspectable (returnId : Nat) (status : OrderReturnStatus)
  | orderReturnNotCompletable (returnId : Nat) (status : OrderReturnStatus)
  | orderReturnNotCancellable (returnId : Nat) (status : OrderReturnStatus)
  | invalidInspectionRestockQuantity
  | invalidInspectionRestockCondition
  -- inventory
  | zeroAdjustment
  | listingNotFound
  | usedListingNotAdjustable
  | negativeStock
  | insufficientUnreservedStock
  | invalidInventoryAdjustmentQuantity
  | inventoryListingNotFound (listingId : Nat)
  | inventoryInsufficientStock (listingId : Nat)
  | invalidStocktakeQuantity
  | stocktakeListingNotFound (listingId : Nat)
  | stocktakeBelowReservedStock
  | usedOfferValidation (message : String)
  | usedOfferProductNotFound
  | usedOfferConflict
  | usedOfferInsufficientNewStock
  | listing (status : Nat) (message : String)
  | invalidListing (issues : List (String × String))
  -- purchases
  | purchaseValidation (message : String)
  | merchandiseTotalMismatch (expected actual : Int)
  | costReconciliationFailed (message : String)
  | duplicateImport (importHash : String)
  | manualPurchaseListingNotFound (productListingId : Nat)
  | foreignKeyViolation
  | invalidDateArgument
  | valueTooLong
  | numericOverflow
  | review (status : Nat) (message : String)
  | purchaseItemNotFound
  | alreadyReceived
  | invalidPurchaseQuantity
  | purchaseListingMissing
  | nonInventoryPurchaseItem
  | usedOfferPurchaseReceipt
  | purchaseItemNotReceived
  | purchaseItemAlreadyReturned
  | returnListingMissing
  | invalidReturnedPurchaseQuantity
  | insufficientStockForReturn
  -- carts
  | cartItemNotFound
  | cartProductListingNotFound (productListingId : Nat)
  | cartProductListingInactive (productListingId : Nat)
  | cartInsufficientAvailableStock (productListingId : Nat) (available requested : Int)
  | cartQuantityAllocated (productListingId : Nat)
  | cartRowIdentityInconsistency
  | cartQuantityInconsistency
  -- payments
  | uniqueViolation
  | recordNotFound
  | paymentNotFound (orderId : Nat)
  | paymentAlreadySucceeded (orderId : Nat)
  | paymentExpired (orderId : Nat)
  | paymentConflict (orderId conflictingOrderId : Nat)
  | orderTotalNotPositive
  | stripePaymentOrderNotFound
  | stripePaymentOwnership
  | stripePaymentExpired
  | stripePaymentAlreadyCompleted
  | stripePaymentNotPayable
  | stripePaymentProvider (message : String)
  | stripeRecoveryOrderNotFound
  | stripeRecoveryUnavailable
  | stripeRecoveryMismatch
  | paypalOrderNotFound
  | paypalOrderOwnership
  | paypalOrderExpired
  | paypalOrderAlreadyCompleted
  | paypalProvider (message : String)
  | paypalCaptureOrderNotFound
  | paypalCaptureOwnership
  | paypalCapturePaymentNotFound
  | paypalCaptureWrongProvider
  | paypalCaptureExpired
  | paypalCaptureAlreadyCompleted
  | paypalCaptureProvider (message : String)
  | paypalCaptureMismatch (message : String)
  -- refunds
  | refundOrderNotFound (orderId : Nat)
  | refundPaymentNotFound (paymentId orderId : Nat)
  | refundPaymentNotRefundable (paymentId : Nat)
  | refundRequest (status : Nat) (message : String)
  | refundInvalidAmount
  | refundInvalidProviderReference
  | refundInvalidReason
  | refundAmountExceeded (paymentId : Nat)
  | refundProviderReferenceConflict (providerReference : String)
  | refundCapacityInvalidAmount
  | refundCapacityExceeded
  | refundCapacityNotReserved
  | stripeRefundProvider (message : String)
  | stripeRefundValidation (message : String)
  | paypalRefundProvider (message : String)
  | paypalRefundValidation (message : String)
  deriving DecidableEq, Repr

def OrderStatus.name : OrderStatus → String
  | .pending => "PENDING"
  | .expired => "EXPIRED"
  | .confirmed => "CONFIRMED"
  | .dispatched => "DISPATCHED"
  | .completed => "COMPLETED"
  | .cancelled => "CANCELLED"
  | .returned => "RETURNED"

def OrderReturnStatus.name : OrderReturnStatus → String
  | .requested => "REQUESTED"
  | .authorized => "AUTHORIZED"
  | .received => "RECEIVED"
  | .inspected => "INSPECTED"
  | .completed => "COMPLETED"
  | .rejected => "REJECTED"
  | .cancelled => "CANCELLED"

/-- The message of an error; classes that pass none to `super` have the empty
one. -/
def DomainError.message : DomainError → String
  | .orderIdempotencyMismatch =>
      "Idempotency key was already used with a different order request"
  | .invalidOrderIdempotencyKey =>
      "Idempotency-Key must contain 1–128 printable ASCII characters without spaces"
  | .noDefaultBillingAddress => "No default billing address found for the user"
  | .multipleDefaultBillingAddresses =>
      "Multiple default billing addresses found for the user"
  | .emailVerificationRequired => "Email verification is required before creating an order"
  | .orderUserNotFound => "User not found"
  | .orderProductListingNotFound id => s!"Product listing with id {id} does not exist"
  | .orderProductListingInactive id => s!"Product listing with id {id} is inactive"
  | .insufficientAvailableStock id requested =>
      s!"Insufficient available stock for product listing {id} (requested {requested})"
  | .duplicateProductListing id => s!"Duplicate product listing id {id} in order items"
  | .orderNotFound id => s!"Order with id {id} not found"
  | .orderNotFoundOrNotOwned id => s!"Order with id {id} not found or does not belong to user"
  | .orderNotConfirmable id status =>
      s!"Order {id} cannot be confirmed in its current status: " ++ status.name
  | .orderNotCancellable id status =>
      s!"Order {id} cannot be cancelled in its current status: " ++ status.name
  | .orderNotDispatchable id status =>
      s!"Order {id} cannot be dispatched in its current status: " ++ status.name
  | .orderNotCompletable id status =>
      s!"Order {id} cannot be completed in its current status: " ++ status.name
  | .insufficientStock id available required =>
      s!"Insufficient stock for listing {id}: available {available}, required {required}"
  | .insufficientReservedStock id quantity =>
      s!"Insufficient reserved stock for product listing {id}: required {quantity}"
  | .productListingNotFound id => s!"Product listing {id} not found"
  | .invalidReturnQuantity => "Return quantity must be a positive integer"
  | .invalidReturnShippingCost => "Return shipping cost must be non-negative"
  | .orderItemNotFound item order => s!"Order item {item} not found for order {order}"
  | .orderReturnQuantityExceeded item requested remaining =>
      s!"Cannot return {requested} units for order item {item}; " ++
        s!"only {remaining} remain returnable"
  | .orderReturnNotFound ret order => s!"Order return {ret} not found for order {order}"
  | .orderReturnNotAuthorizable ret status =>
      s!"Order return {ret} cannot be authorized in its current status: " ++ status.name
  | .orderReturnNotReceivable ret status =>
      s!"Order return {ret} cannot be received in its current status: " ++ status.name
  | .orderReturnNotInspectable ret status =>
      s!"Order return {ret} cannot be inspected in its current status: " ++ status.name
  | .orderReturnNotCompletable ret status =>
      s!"Order return {ret} cannot be completed in its current status: " ++ status.name
  | .orderReturnNotCancellable ret status =>
      s!"Order return {ret} cannot be cancelled in its current status: " ++ status.name
  | .invalidInspectionRestockQuantity =>
      "Inspection restock quantity must be a non-negative integer"
  | .invalidInspectionRestockCondition =>
      "Only AS_NEW returns may have a positive restock quantity"
  | .zeroAdjustment => "quantity must not be zero"
  | .listingNotFound => "listing_not_found"
  | .usedListingNotAdjustable => "used_listing_is_not_adjustable"
  | .negativeStock => "negative_stock"
  | .insufficientUnreservedStock => "insufficient_available_stock"
  | .invalidInventoryAdjustmentQuantity =>
      "Inventory adjustment quantity must be a positive integer"
  | .inventoryListingNotFound id => s!"Product listing {id} not found"
  | .inventoryInsufficientStock id => s!"Insufficient stock for product listing {id}"
  | .invalidStocktakeQuantity => "Actual stock must be a non-negative 32-bit integer"
  | .stocktakeListingNotFound id => s!"Product listing {id} not found"
  | .stocktakeBelowReservedStock => "Actual stock cannot be less than reserved stock"
  | .usedOfferValidation message => message
  | .usedOfferProductNotFound => ""
  | .usedOfferConflict => ""
  | .usedOfferInsufficientNewStock => ""
  | .listing _ message => message
  | .invalidListing _ => ""
  | .purchaseValidation message => "ValidationError: " ++ message
  | .merchandiseTotalMismatch expected actual =>
      s!"ValidationError: Merchandise total mismatch: expected {expected} but got {actual}"
  | .costReconciliationFailed message =>
      "ValidationError: CostReconciliationFailedError: " ++ message
  | .duplicateImport importHash => "Duplicate import hash: " ++ importHash
  | .manualPurchaseListingNotFound id => s!"No ProductListing found with id {id}"
  | .foreignKeyViolation => "P2003"
  | .invalidDateArgument => "Provided Date object is invalid. Expected Date."
  | .valueTooLong => "P2000"
  | .numericOverflow => "P2020"
  | .review _ message => message
  | .purchaseItemNotFound => "Purchase item not found"
  | .alreadyReceived => "Purchase item already received"
  | .invalidPurchaseQuantity => "Purchase item quantity must be positive"
  | .purchaseListingMissing => "Purchase item has no associated product listing"
  | .nonInventoryPurchaseItem => "Non-inventory purchase items cannot be received"
  | .usedOfferPurchaseReceipt => "Used physical offers cannot receive pooled purchase stock"
  | .purchaseItemNotReceived => "Purchase item has not been received yet"
  | .purchaseItemAlreadyReturned => "Purchase item has already been returned"
  | .returnListingMissing => "Product listing missing for purchase item"
  | .invalidReturnedPurchaseQuantity => "Purchase item quantity must be > 0"
  | .insufficientStockForReturn => "Insufficient stock for return"
  | .cartItemNotFound => "Cart item not found"
  | .cartProductListingNotFound id => s!"Product listing {id} not found"
  | .cartProductListingInactive id => s!"Product listing {id} is inactive"
  | .cartInsufficientAvailableStock id _ _ =>
      s!"Insufficient available stock for product listing {id}"
  | .cartQuantityAllocated id =>
      s!"Cart quantity for listing {id} is already associated with another order or has changed"
  | .cartRowIdentityInconsistency => "Cart provenance row identity inconsistency"
  | .cartQuantityInconsistency => "Cart provenance quantity inconsistency"
  | .uniqueViolation => "P2002"
  | .recordNotFound => "P2025"
  | .paymentNotFound id => s!"Order with id {id} not found"
  | .paymentAlreadySucceeded id => s!"Payment for order {id} has already succeeded"
  | .paymentExpired id =>
      s!"Payment for order {id} cannot be created after its reservation expired"
  | .paymentConflict _ conflicting =>
      "Payment providerReference belongs to a different order. " ++
        s!"Existing order id: {conflicting}"
  | .orderTotalNotPositive => "Order total amount must be positive"
  | .stripePaymentProvider message => message
  | .paypalProvider message => message
  | .paypalCaptureProvider message => message
  | .paypalCaptureMismatch message => message
  | .refundOrderNotFound id => s!"Order with id {id} not found"
  | .refundPaymentNotFound payment order => s!"Payment {payment} not found for order {order}"
  | .refundPaymentNotRefundable id => s!"Payment {id} is not refundable"
  | .refundRequest _ message => message
  | .refundInvalidAmount => "Refund amount must be positive and use two-decimal precision"
  | .refundInvalidProviderReference => "Refund provider reference cannot be empty"
  | .refundInvalidReason => "Refund reason cannot be empty"
  | .refundAmountExceeded id =>
      s!"Refund amount exceeds the remaining refundable payment balance for payment {id}"
  | .refundProviderReferenceConflict reference =>
      "Refund provider reference " ++ reference ++ " is already used for a different refund"
  | .stripeRefundProvider message => message
  | .stripeRefundValidation message => message
  | .paypalRefundProvider message => message
  | .paypalRefundValidation message => message
  | .stripePaymentOrderNotFound | .stripePaymentOwnership | .stripePaymentExpired
  | .stripePaymentAlreadyCompleted | .stripePaymentNotPayable
  | .stripeRecoveryOrderNotFound | .stripeRecoveryUnavailable | .stripeRecoveryMismatch
  | .paypalOrderNotFound | .paypalOrderOwnership | .paypalOrderExpired
  | .paypalOrderAlreadyCompleted | .paypalCaptureOrderNotFound | .paypalCaptureOwnership
  | .paypalCapturePaymentNotFound | .paypalCaptureWrongProvider | .paypalCaptureExpired
  | .paypalCaptureAlreadyCompleted | .refundCapacityInvalidAmount
  | .refundCapacityExceeded | .refundCapacityNotReserved => ""

/-- A service body: the value it returns, or the error it throws. -/
abbrev Result (α : Type) := Except DomainError α

end ColorfulLife
