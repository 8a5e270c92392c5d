import ColorfulLife.Relational.Table
import ColorfulLife.Relational.Transaction
import ColorfulLife.Relational.Run
import ColorfulLife.Schema.Values
import ColorfulLife.Schema.Database
import ColorfulLife.Cart.Provenance
import ColorfulLife.Cart.Service
import ColorfulLife.Inventory.Stock
import ColorfulLife.Orders.Lifecycle
import ColorfulLife.Orders.Creation
import ColorfulLife.Orders.Returns
import ColorfulLife.Inventory.Adjustment
import ColorfulLife.Purchases.Receiving
import ColorfulLife.Shop.Machine
import ColorfulLife.Shop.Reservation
import ColorfulLife.Shop.Effects
import ColorfulLife.Shop.ReturnAccounting
import ColorfulLife.Shop.Goods
import ColorfulLife.Payments.Rows
import ColorfulLife.Refunds.Capacity
import ColorfulLife.Refunds.Provider
import ColorfulLife.Refunds.Ledger
import ColorfulLife.Payments.Manual
import ColorfulLife.Payments.Stripe
import ColorfulLife.Payments.PayPal
import ColorfulLife.Checkout.Machine
import ColorfulLife.Checkout.Effects
import ColorfulLife.Checkout.Convergence
import ColorfulLife.Checkout.LateCapture
import ColorfulLife.Checkout.Eligibility
import ColorfulLife.Checkout.PayPalRace
import ColorfulLife.Checkout.ExpiryRace
import ColorfulLife.Checkout.ExpirySafety
import ColorfulLife.Checkout.ExpiryOutcome
import ColorfulLife.Cart.Holdings
import ColorfulLife.Cart.Reduction
import ColorfulLife.Cart.Settlement
import ColorfulLife.Cart.Sweep
import ColorfulLife.Cart.Machine
import ColorfulLife.Cart.Invariant
import ColorfulLife.Cart.Refinement
import ColorfulLife.Cart.Simulation
import ColorfulLife.Checkout.Ownership
import ColorfulLife.Auth.EmailVerification
import ColorfulLife.Auth.TokenDelivery
import ColorfulLife.Shop.Booking
import ColorfulLife.Shop.StatusLedger
import ColorfulLife.Apportion.LargestRemainder
import ColorfulLife.Purchases.Costs
import ColorfulLife.Purchases.Import
import ColorfulLife.Purchases.Review
import ColorfulLife.Purchases.Changes
import ColorfulLife.Inventory.Listings
import ColorfulLife.Inventory.Ledger
import ColorfulLife.Purchases.Goods
import ColorfulLife.Purchases.Reconciliation
import ColorfulLife.Purchases.Progress
import ColorfulLife.Purchases.Represent
import ColorfulLife.Refunds.Manual
import ColorfulLife.Refunds.Bound
import ColorfulLife.Shop.ReturnLifecycle
import ColorfulLife.Text.Delimited
import ColorfulLife.Creation.RequestText
import ColorfulLife.Relational.View
import ColorfulLife.Creation.Machine
import ColorfulLife.Creation.Placement
import ColorfulLife.Creation.Idempotency
import ColorfulLife.Auth.RefreshSession
import ColorfulLife.Auth.SessionLineage
import ColorfulLife.Addresses.Book
import ColorfulLife.Addresses.Defaults
import ColorfulLife.Relational.Role
import ColorfulLife.Auth.Accounts
import ColorfulLife.Auth.Erasure
import ColorfulLife.Apportion.Fairness
import ColorfulLife.Purchases.Allocation
import ColorfulLife.Purchases.Amendment
import ColorfulLife.Relational.Constraints
import ColorfulLife.Relational.Paging
import ColorfulLife.Relational.Arrangement
import ColorfulLife.Relational.Grouping
import ColorfulLife.Relational.Predicate
import ColorfulLife.Storefront.Catalogue
import ColorfulLife.Storefront.Agreement
import ColorfulLife.Cart.Commutation
import ColorfulLife.Refunds.Replay
import ColorfulLife.Shop.UsedOffers
import ColorfulLife.Numeric.Binary64
import ColorfulLife.Text.Regex
import ColorfulLife.Purchases.InvoiceParser
import ColorfulLife.Purchases.PrintedInvoice
import ColorfulLife.Purchases.InvoiceLines
import ColorfulLife.Purchases.InvoiceReading
import ColorfulLife.Purchases.InvoiceRoundTrip
import ColorfulLife.Images.Upload
import ColorfulLife.Images.Gallery
import ColorfulLife.Images.CategoryArtwork
import ColorfulLife.Migrations.Presentation
import ColorfulLife.Calendar.Gregorian
import ColorfulLife.Purchases.Dates
import ColorfulLife.Text.Utf16
import ColorfulLife.Purchases.Analytics
import ColorfulLife.Purchases.SupplierNames
import ColorfulLife.Purchases.MoneyText
import ColorfulLife.Purchases.Normalizer
import ColorfulLife.Purchases.InvoiceImport
import ColorfulLife.Relational.Numbering
import ColorfulLife.Purchases.Filing
import ColorfulLife.Purchases.History
import ColorfulLife.Relational.Locks
import ColorfulLife.Cart.LockOrder
import ColorfulLife.Products.FeatureProduct
import ColorfulLife.Checkout.Charges
import ColorfulLife.Auth.PasswordReset
