/-
The storefront's read paths: `domain/products/storefrontSellability.ts`,
`productCatalogueService.ts` and `productAvailabilitySummary.ts`.

The rule which listings can be bought is written twice in the source: as a query
predicate (`ProductListing.sellable`, three-valued) and as a function on loaded
rows (`offerMatchesQuery`). Prices and bounds are exact numbers. `lower` is the
database's case folding, which depends on its collation.
-/

import ColorfulLife.Relational.Paging
import ColorfulLife.Relational.Predicate
import ColorfulLife.Schema.Database

namespace ColorfulLife

open Relational

/-! ### Queries -/

/-- `Pick<ProductCatalogueQuery, "minPrice" | "maxPrice">`. -/
structure PriceBounds where
  minPrice : Option ℚ
  maxPrice : Option ℚ
  deriving DecidableEq

/-- The argument left out. -/
def PriceBounds.none : PriceBounds := ⟨.none, .none⟩

/-- The output of `ProductCatalogueQuerySchema`: page and page size are positive. -/
structure ProductCatalogueQuery extends PriceBounds where
  q : Option String
  theme : Option String
  categoryId : Option Nat
  page : ℕ+
  pageSize : ℕ+

/-! ### Snapshots -/

/-- What a repeatable-read transaction reads: the tables and the creation times
of the products. -/
structure Shopfront where
  db : Db
  createdAt : Nat → Time
  productImages : Table ProductImage

/-! ### Query predicates -/

def priceOf (p : Pence) : ℚ := p / 100

/-- `COALESCE(pl."salePrice", pl."originalPrice")`. -/
def ProductListing.effectivePrice (pl : ProductListing) : Pence :=
  pl.salePrice.getD pl.originalPrice

/-- `pricePredicates`. -/
def ProductListing.pricePredicates (pl : ProductListing) (query : PriceBounds) : List Truth :=
  (query.minPrice.map fun bound => some (decide (priceOf pl.effectivePrice ≥ bound))).toList ++
    (query.maxPrice.map fun bound => some (decide (priceOf pl.effectivePrice ≤ bound))).toList

/-- The condition on `pl` inside the `EXISTS`. -/
def ProductListing.sellable (pl : ProductListing) (query : PriceBounds) (lpId : Option Nat) :
    Truth :=
  Truth.all <|
    [Truth.compare (· == ·) (some pl.legoProductId) lpId,
      some (pl.active == true),
      some (decide (pl.currentStock > pl.reservedStock)),
      Truth.or (some (pl.condition == .new))
        (Truth.and (some (pl.condition == .usedLikeNew))
          (Truth.compare (· == ·) pl.usedLifecycle (some UsedOfferLifecycle.available)))] ++
      pl.pricePredicates query

/-- `EXISTS (SELECT 1 FROM "ProductListing" pl WHERE ...)` for the product `lpId`. -/
def storefrontSellableListingExistsPredicate (db : Db) (query : PriceBounds)
    (lpId : Option Nat) : Truth :=
  db.listings.exists fun _ pl => pl.sellable query lpId

/-- `strpos`: the position of the first occurrence, counted from one; zero when
there is none. -/
def strpos (text part : String) : Nat :=
  match text.toList.tails.findIdx? (part.toList.isPrefixOf ·) with
  | some i => i + 1
  | none => 0

section Text

variable (lower : String → String)

/-- The text, theme and category conditions of `eligibleProductPredicate`. -/
def filterPredicates (query : ProductCatalogueQuery) (lp : LegoProduct) : List Truth :=
  ((given query.q).map fun q => Truth.or
      (some (decide (strpos (lower lp.setNumber) (lower q) > 0)))
      (some (decide (strpos (lower lp.title) (lower q) > 0)))).toList ++
    ((given query.theme).map fun theme => some (lower lp.theme == lower theme)).toList ++
    (query.categoryId.map fun categoryId =>
      Truth.compare (· == ·) lp.categoryId (some categoryId)).toList

def eligibleProductPredicate (db : Db) (query : ProductCatalogueQuery) (lpId : Nat)
    (lp : LegoProduct) : Truth :=
  Truth.all (filterPredicates lower query lp ++
    [storefrontSellableListingExistsPredicate db query.toPriceBounds (some lpId)])

/-! ### Presentation -/

/-- The rule on a loaded row. -/
def offerMatchesQuery (listing : ProductListing) (query : PriceBounds) : Bool :=
  if !listing.active || decide (listing.currentStock ≤ listing.reservedStock) then false
  else if listing.condition != .new &&
      !(listing.condition == .usedLikeNew && listing.usedLifecycle == some .available) then false
  else
    (query.minPrice.all fun minPrice => decide (priceOf listing.effectivePrice ≥ minPrice)) &&
    (query.maxPrice.all fun maxPrice => decide (priceOf listing.effectivePrice ≤ maxPrice))

/-- A presented listing; `reservedStock` is folded into `availableStock`. -/
structure Offer where
  id : Nat
  legoProductId : Nat
  active : Bool
  condition : ListingCondition
  usedLifecycle : Option UsedOfferLifecycle
  damageDescription : Option String
  originalPrice : Pence
  salePrice : Option Pence
  currentStock : Int
  usedConditionPhotos : List UsedConditionPhoto
  availableStock : Int
  effectivePrice : Pence
  deriving DecidableEq, Repr

structure CatalogueProduct where
  id : Nat
  product : LegoProduct
  createdAt : Time
  productImages : List (Nat × ProductImage)
  category : Option (Nat × Category)
  offers : List Offer

/-- The order of the enumeration's declaration. -/
def ListingCondition.rank : ListingCondition → Nat
  | .new => 0
  | .usedLikeNew => 1

/-- `productListings` of a loaded product, by condition and id. -/
def Db.productListings (db : Db) (productId : Nat) : List (Nat × ProductListing) :=
  db.listings.selectBy (fun _ listing => listing.legoProductId == productId) fun a b =>
    toLex (a.2.condition.rank, a.1) ≤ toLex (b.2.condition.rank, b.1)

def toOffer (id : Nat) (listing : ProductListing) : Offer where
  id := id
  legoProductId := listing.legoProductId
  active := listing.active
  condition := listing.condition
  usedLifecycle := listing.usedLifecycle
  damageDescription := listing.damageDescription
  originalPrice := listing.originalPrice
  salePrice := listing.salePrice
  currentStock := listing.currentStock
  usedConditionPhotos := listing.usedConditionPhotos.insertionSort (·.sortOrder ≤ ·.sortOrder)
  availableStock := max 0 (listing.currentStock - listing.reservedStock)
  effectivePrice := listing.effectivePrice

/-- A product row with the relations that are loaded with it. -/
def presentProduct (shop : Shopfront) (query : Option PriceBounds) (id : Nat)
    (product : LegoProduct) : CatalogueProduct where
  id := id
  product := product
  createdAt := shop.createdAt id
  productImages := shop.productImages.selectBy (fun _ image => image.legoProductId == id)
    fun a b => toLex (a.2.sortOrder, a.1) ≤ toLex (b.2.sortOrder, b.1)
  category := product.categoryId.bind fun categoryId =>
    (shop.db.categories.get? categoryId).map fun category => (categoryId, category)
  offers := ((shop.db.productListings id).filter fun e =>
    offerMatchesQuery e.2 (query.getD .none)).map fun e => toOffer e.1 e.2

/-! ### Catalogue pages -/

structure Pagination where
  page : ℕ+
  pageSize : ℕ+
  totalItems : Nat
  totalPages : Nat

structure CataloguePage where
  items : List CatalogueProduct
  pagination : Pagination

/-- `ORDER BY "createdAt" DESC, "id" DESC`. -/
def Shopfront.newestFirst (shop : Shopfront) (a b : Nat × LegoProduct) : Prop :=
  toLex (shop.createdAt b.1, b.1) ≤ toLex (shop.createdAt a.1, a.1)

instance (shop : Shopfront) : DecidableRel shop.newestFirst := fun a b => by
  unfold Shopfront.newestFirst; infer_instance

/-- The identifiers of one page. -/
def pageRows (shop : Shopfront) (query : ProductCatalogueQuery) : List Nat :=
  pageOf ((shop.db.legoProducts.selectBy
    (fun id lp => (eligibleProductPredicate lower shop.db query id lp).holds)
    shop.newestFirst).map Prod.fst) query.pageSize query.page

def listCatalogueProducts (shop : Shopfront) (query : ProductCatalogueQuery) : CataloguePage :=
  let totalItems := (shop.db.legoProducts.select fun id lp =>
    (eligibleProductPredicate lower shop.db query id lp).holds).length
  let productIds := pageRows lower shop query
  let products := shop.db.legoProducts.selectBy (fun id _ => decide (id ∈ productIds))
    shop.newestFirst
  { items := products.map fun e => presentProduct shop (some query.toPriceBounds) e.1 e.2
    pagination :=
      { page := query.page
        pageSize := query.pageSize
        totalItems := totalItems
        totalPages := (totalItems + query.pageSize - 1) / query.pageSize } }

end Text

def getCatalogueProductById (shop : Shopfront) (productId : Nat) : Option CatalogueProduct :=
  match shop.db.legoProducts.get? productId with
  | none => none
  | some product =>
      let presented := presentProduct shop none productId product
      if 0 < presented.offers.length then some presented else none

/-! ### Availability summary -/

structure AvailabilitySummary where
  totalProducts : Nat
  totalInventory : Int
  activeProducts : Nat
  inactiveProducts : Int
  deriving DecidableEq, Repr

/-- `listing_inventory."totalInventory"` of a product, NULL when it has no listing. -/
def listingInventory (db : Db) (lpId : Option Nat) : Option Int :=
  match db.listings.select fun _ pl => some pl.legoProductId == lpId with
  | [] => none
  | listings => some (listings.map (·.2.currentStock)).sum

/-- The `lp."id"` column of `productScope`, NULL where the outer join found no
product; `none` when the group is empty. -/
def productScope (db : Db) : Option Nat → Option (List (Option Nat))
  | none => some ((db.legoProducts.entries.map Prod.fst).map some)
  | some categoryId =>
      if (db.categories.get? categoryId).isSome then
        match db.legoProducts.select fun _ lp => lp.categoryId == some categoryId with
        | [] => some [none]
        | products => some ((products.map Prod.fst).map some)
      else none

/-- `createProductAvailabilitySummaryService`: `none` is the global summary. -/
def summarize (db : Db) (categoryId : Option Nat) : Option AvailabilitySummary :=
  match productScope db categoryId with
  | none => none
  | some rows =>
      let totalProducts := (rows.filter (·.isSome)).length
      let activeProducts := (rows.filter fun lpId =>
        lpId.isSome && (storefrontSellableListingExistsPredicate db .none lpId).holds).length
      some
        { totalProducts := totalProducts
          totalInventory := (rows.filterMap (listingInventory db)).sum
          activeProducts := activeProducts
          inactiveProducts := totalProducts - activeProducts }

end ColorfulLife
