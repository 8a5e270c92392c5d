/-
The migration that moves presentation from listings to products
(`prisma/migrations/20260925140000_move_product_presentation_to_lego_product`).

Eight queries look for legacy data that the new schema has no place for; the first
that finds any stops the migration with the ids it found. Otherwise the columns
are filled from the listings and the new constraints are set. Everything runs in
one transaction that holds the three tables.
-/

import ColorfulLife.Relational.Grouping
import ColorfulLife.Relational.Paging
import ColorfulLife.Relational.Transaction

namespace ColorfulLife

open Relational

/-! ### The two schemas -/

structure LegacyProduct where
  categoryId : Option Nat
  deriving DecidableEq, Repr

structure LegacyListing where
  legoProductId : Nat
  catalogueArtworkUrl : Option String
  catalogueArtworkPublicId : Option String
  isFeatureProduct : Bool
  deriving DecidableEq, Repr

structure ListingImage where
  listingId : Nat
  url : String
  publicId : String
  altText : Option String
  sortOrder : Int
  deriving DecidableEq, Repr

structure LegacyDb where
  products : Table LegacyProduct
  listings : Table LegacyListing
  images : Table ListingImage

/-- `ProductListing_legoProductId_fkey` and `ListingImage_listingId_fkey`. -/
structure LegacyDb.ForeignKeys (db : LegacyDb) : Prop where
  products : ∀ id listing, db.listings.get? id = some listing →
    ∃ product, db.products.get? listing.legoProductId = some product
  listings : ∀ id image, db.images.get? id = some image →
    ∃ listing, db.listings.get? image.listingId = some listing

structure PresentedProduct where
  categoryId : Option Nat
  catalogueArtworkUrl : Option String
  catalogueArtworkPublicId : Option String
  isFeatureProduct : Bool
  deriving DecidableEq, Repr

structure PresentedListing where
  legoProductId : Nat
  deriving DecidableEq, Repr

/-- `legoProductId` is nullable until the constraint is set. -/
structure PresentedImage where
  legoProductId : Option Nat
  url : String
  publicId : String
  altText : Option String
  sortOrder : Int
  deriving DecidableEq, Repr

structure PresentedDb where
  products : Table PresentedProduct
  listings : Table PresentedListing
  images : Table PresentedImage

/-- `stopped` is an exception that the migration raises, the others are those of
the constraints it sets. -/
inductive MigrationError where
  | stopped (message : String)
  | ownerNotNull
  | ownerForeignKey
  | oneFeaturePerCategory
  | featureRequiresCategory
  deriving DecidableEq, Repr

/-! ### Preflight -/

/-- `string_agg(text, ', ')`, which is null for no rows. -/
def stringAgg (texts : List String) : Option String :=
  if texts = [] then none else some (", ".intercalate texts)

/-- `string_agg(id::text, ', ' ORDER BY id)`. -/
def aggregateIds (ids : List Nat) : Option String :=
  stringAgg ((ids.insertionSort (· ≤ ·)).map toString)

/-- `string_agg(DISTINCT id::text, ', ' ORDER BY id::text)`. -/
def aggregateTexts (ids : List Nat) : Option String :=
  stringAgg ((ids.map toString).eraseDups.insertionSort (· ≤ ·))

/-- `RAISE EXCEPTION` when there are conflicts. -/
def stopFor (conflictIds : Option String) (before after : String) : Except MigrationError PUnit :=
  orReject conflictIds fun ids =>
    .stopped s!"Product presentation migration stopped: {before} {ids}{after}"

def LegacyListing.hasArtwork (listing : LegacyListing) : Bool :=
  listing.catalogueArtworkUrl.isSome || listing.catalogueArtworkPublicId.isSome

namespace LegacyDb

variable (db : LegacyDb)

/-- `"ListingImage" li JOIN "ProductListing" pl ON pl."id" = li."listingId"`. -/
def imageListings : List ((Nat × ListingImage) × LegacyListing) :=
  db.images.entries.filterMap fun e => (db.listings.get? e.2.listingId).map fun listing => (e, listing)

/-- The distinct pairs of artwork of each product. -/
def artworkVersions : List (Nat × Option String × Option String) :=
  ((db.listings.entries.filter fun e => e.2.hasArtwork).map fun e =>
    (e.2.legoProductId, e.2.catalogueArtworkUrl, e.2.catalogueArtworkPublicId)).eraseDups

def conflictingArtwork : List Nat := repeated (db.artworkVersions.map Prod.fst)

/-- Public ids of artwork that listings of several products have. -/
def sharedArtworkIds : List String :=
  ambiguous (db.listings.entries.filterMap fun e =>
    e.2.catalogueArtworkPublicId.map fun publicId => (publicId, e.2.legoProductId))

def sharedArtwork : List Nat :=
  ((db.listings.entries.filter fun e =>
    e.2.catalogueArtworkPublicId.any fun publicId => decide (publicId ∈ db.sharedArtworkIds)).map
      fun e => e.2.legoProductId).eraseDups

def siblingImages : List Nat :=
  ambiguous (db.imageListings.map fun e => (e.2.legoProductId, e.1.2.listingId))

def duplicateImages : List Nat :=
  (repeated (db.imageListings.map fun e => (e.2.legoProductId, e.1.2.publicId))).map Prod.fst

def sharedImages : List Nat :=
  (db.imageListings.filter fun e =>
    decide (e.1.2.publicId ∈ repeated (db.images.entries.map fun i => i.2.publicId))).map
      fun e => e.2.legoProductId

def duplicatePositions : List Nat :=
  (repeated (db.imageListings.map fun e => (e.2.legoProductId, e.1.2.sortOrder))).map Prod.fst

/-- `EXISTS` a featured listing of the product. -/
def hasFeaturedListing (productId : Nat) : Bool :=
  db.listings.entries.any fun e => decide (e.2.legoProductId = productId) && e.2.isFeatureProduct

def uncategorisedFeatures : List Nat :=
  (db.products.entries.filter fun e =>
    decide (e.2.categoryId = none) && db.hasFeaturedListing e.1).map Prod.fst

/-- `COUNT(DISTINCT lp."id")` over the featured listings of each category. The
aggregate leaves out the group of the products without one. -/
def conflictingFeatures : List Nat :=
  (ambiguous (db.listings.entries.filterMap fun e =>
    if e.2.isFeatureProduct then
      (db.products.get? e.2.legoProductId).map fun product =>
        (product.categoryId, e.2.legoProductId)
    else none)).filterMap id

def preflight : Except MigrationError PUnit := do
  stopFor (aggregateIds db.conflictingArtwork) "conflicting catalogue artwork on LegoProduct IDs"
    "; reconcile artwork pairs before retrying"
  stopFor (aggregateIds db.sharedArtwork)
    "catalogue artwork public IDs are shared by multiple LegoProducts including IDs"
    "; reconcile storage ownership before retrying"
  stopFor (aggregateIds db.siblingImages)
    "Product Images exist on multiple sibling listings for LegoProduct IDs"
    "; reconcile image sets and ordering before retrying"
  stopFor (aggregateIds db.duplicateImages)
    "duplicate Product Image public IDs exist for LegoProduct IDs"
    "; reconcile duplicate asset references before retrying"
  stopFor (aggregateTexts db.sharedImages)
    "Product Image public IDs are shared across LegoProducts"
    "; reconcile storage ownership before retrying"
  stopFor (aggregateIds db.duplicatePositions)
    "duplicate Product Image sort orders exist for LegoProduct IDs"
    "; reconcile ordering before retrying"
  stopFor (aggregateIds db.uncategorisedFeatures) "featured LegoProduct IDs"
    " have no Category; assign a Category or clear legacy Feature state before retrying"
  stopFor (aggregateIds db.conflictingFeatures)
    "conflicting featured products exist in Category IDs"
    "; reconcile Feature selection before retrying"

/-! ### Backfill -/

/-- The listing that the sub-selects take the artwork from:
`ORDER BY pl."id" ASC LIMIT 1`. -/
def artworkListing (productId : Nat) : Option LegacyListing :=
  (db.listings.selectByKey fun _ listing =>
    decide (listing.legoProductId = productId) && listing.hasArtwork).head?.map Prod.snd

def presentProduct (id : Nat) (product : LegacyProduct) : PresentedProduct where
  categoryId := product.categoryId
  catalogueArtworkUrl := (db.artworkListing id).bind LegacyListing.catalogueArtworkUrl
  catalogueArtworkPublicId := (db.artworkListing id).bind LegacyListing.catalogueArtworkPublicId
  isFeatureProduct := db.hasFeaturedListing id

def presentImage (image : ListingImage) : PresentedImage where
  legoProductId := (db.listings.get? image.listingId).map LegacyListing.legoProductId
  url := image.url
  publicId := image.publicId
  altText := image.altText
  sortOrder := image.sortOrder

def present : PresentedDb where
  products := db.products.mapRows db.presentProduct
  listings := db.listings.mapRows fun _ listing => ⟨listing.legoProductId⟩
  images := db.images.mapRows fun _ image => db.presentImage image

end LegacyDb

/-! ### Constraints -/

/-- The category of a featured product, which the unique index is over. -/
def PresentedProduct.featuredCategory (product : PresentedProduct) : Option Nat :=
  if product.isFeatureProduct then product.categoryId else none

/-- The whole migration. -/
def migrate (db : LegacyDb) : Except MigrationError PresentedDb := do
  db.preflight
  let presented := db.present
  ensure (∀ e ∈ presented.images.entries, e.2.legoProductId ≠ none) (MigrationError.stopped
    "Product presentation migration stopped: a ListingImage has no owning LegoProduct")
  ensure (∀ e ∈ presented.images.entries, e.2.legoProductId ≠ none) MigrationError.ownerNotNull
  ensure (∀ e ∈ presented.images.entries, ∀ owner ∈ e.2.legoProductId,
    (presented.products.get? owner).isSome) MigrationError.ownerForeignKey
  ensure (repeated (presented.products.entries.filterMap fun e => e.2.featuredCategory) = [])
    MigrationError.oneFeaturePerCategory
  ensure (∀ e ∈ presented.products.entries, e.2.isFeatureProduct = false ∨ e.2.categoryId ≠ none)
    MigrationError.featureRequiresCategory
  return presented

/-- The database before and after. -/
inductive PresentationState where
  | legacy (db : LegacyDb)
  | presented (db : PresentedDb)

/-- The transaction: rolled back on any error. -/
def applyMigration : PresentationState → PresentationState
  | .legacy db =>
      match migrate db with
      | .ok presented => .presented presented
      | .error _ => .legacy db
  | .presented db => .presented db

/-! ### What the preflight leaves -/

theorem stringAgg_eq_none {texts : List String} : stringAgg texts = none ↔ texts = [] := by
  unfold stringAgg
  split <;> simp [*]

theorem aggregateIds_eq_none {ids : List Nat} : aggregateIds ids = none ↔ ids = [] := by
  rw [aggregateIds, stringAgg_eq_none, List.map_eq_nil_iff, ← List.length_eq_zero_iff,
    List.length_insertionSort, List.length_eq_zero_iff]

/-- Legacy data that the new schema has a place for. -/
structure LegacyDb.Unambiguous (db : LegacyDb) : Prop where
  artwork : ∀ i j a b, db.listings.get? i = some a → db.listings.get? j = some b →
    a.legoProductId = b.legoProductId → a.hasArtwork = true → b.hasArtwork = true →
    a.catalogueArtworkUrl = b.catalogueArtworkUrl ∧
      a.catalogueArtworkPublicId = b.catalogueArtworkPublicId
  images : ∀ i j a b, db.images.get? i = some a → db.images.get? j = some b →
    (db.presentImage a).legoProductId = (db.presentImage b).legoProductId →
    (db.presentImage a).legoProductId ≠ none → a.publicId = b.publicId ∨ a.sortOrder = b.sortOrder →
    i = j
  categorised : ∀ id product, db.products.get? id = some product →
    db.hasFeaturedListing id = true → product.categoryId ≠ none
  features : ∀ i j a b c, db.products.get? i = some a → db.products.get? j = some b →
    db.hasFeaturedListing i = true → db.hasFeaturedListing j = true → a.categoryId = some c →
    b.categoryId = some c → i = j

section Preflight

variable {db : LegacyDb}

theorem hasFeaturedListing_iff {productId : Nat} : db.hasFeaturedListing productId = true ↔
    ∃ k listing, db.listings.get? k = some listing ∧ listing.legoProductId = productId ∧
      listing.isFeatureProduct = true := by
  simp only [LegacyDb.hasFeaturedListing, List.any_eq_true, Bool.and_eq_true, decide_eq_true_eq]
  constructor
  · rintro ⟨⟨k, listing⟩, mem, own, featured⟩
    exact ⟨k, listing, Table.mem_entries.mp mem, own, featured⟩
  · rintro ⟨k, listing, found, own, featured⟩
    exact ⟨(k, listing), Table.mem_entries.mpr found, own, featured⟩

/-- One pair of artwork for each product. -/
theorem artwork_of_preflight (passed : db.conflictingArtwork = []) {i j : Nat}
    {a b : LegacyListing} (ha : db.listings.get? i = some a) (hb : db.listings.get? j = some b)
    (same : a.legoProductId = b.legoProductId) (hasA : a.hasArtwork = true)
    (hasB : b.hasArtwork = true) : a.catalogueArtworkUrl = b.catalogueArtworkUrl ∧
      a.catalogueArtworkPublicId = b.catalogueArtworkPublicId := by
  have version : ∀ {k : Nat} {l : LegacyListing}, db.listings.get? k = some l →
      l.hasArtwork = true →
      (l.legoProductId, l.catalogueArtworkUrl, l.catalogueArtworkPublicId) ∈ db.artworkVersions := by
    intro k l found has
    refine List.mem_eraseDups.mpr (List.mem_map.mpr ⟨(k, l), ?_, rfl⟩)
    exact List.mem_filter.mpr ⟨Table.mem_entries.mpr found, has⟩
  have nodup := repeated_eq_nil_iff.mp passed
  have pair := congrArg Prod.snd
    (List.inj_on_of_nodup_map nodup (version ha hasA) (version hb hasB) same)
  exact Prod.mk.inj pair

theorem mem_imageListings {id : Nat} {image : ListingImage} {listing : LegacyListing} :
    ((id, image), listing) ∈ db.imageListings ↔
      db.images.get? id = some image ∧ db.listings.get? image.listingId = some listing := by
  simp only [LegacyDb.imageListings, List.mem_filterMap, Option.map_eq_some_iff, Prod.mk.injEq]
  constructor
  · rintro ⟨_, mem, _, found, rfl, rfl⟩
    exact ⟨Table.mem_entries.mp mem, found⟩
  · rintro ⟨mem, found⟩
    exact ⟨_, Table.mem_entries.mpr mem, listing, found, rfl, rfl⟩

/-- Images of one product that agree in a column without repetitions are one. -/
theorem image_unique {κ : Type} [DecidableEq κ] {column : ListingImage → κ}
    (passed : repeated (db.imageListings.map fun e => (e.2.legoProductId, column e.1.2)) = [])
    {i j : Nat} {a b : ListingImage} (ha : db.images.get? i = some a)
    (hb : db.images.get? j = some b)
    (owner : (db.presentImage a).legoProductId = (db.presentImage b).legoProductId)
    (owned : (db.presentImage a).legoProductId ≠ none) (same : column a = column b) : i = j := by
  obtain ⟨product, hproduct⟩ := Option.ne_none_iff_exists'.mp owned
  obtain ⟨first, hfirst, rfl⟩ := Option.map_eq_some_iff.mp hproduct
  obtain ⟨second, hsecond, products⟩ := Option.map_eq_some_iff.mp (owner.symm.trans hproduct)
  have equal := List.inj_on_of_nodup_map (repeated_eq_nil_iff.mp passed)
    (mem_imageListings.mpr ⟨ha, hfirst⟩) (mem_imageListings.mpr ⟨hb, hsecond⟩)
    (Prod.ext products.symm same)
  exact congrArg (fun e => e.1.1) equal

theorem unambiguous_of_preflight {u : PUnit} (passed : db.preflight = .ok u) :
    db.Unambiguous := by
  simp only [LegacyDb.preflight, stopFor, bind_eq_ok, orReject_eq_ok] at passed
  obtain ⟨-, artwork, -, -, -, -, -, duplicates, -, -, -, positions, -, categorised, features⟩ :=
    passed
  rw [aggregateIds_eq_none] at artwork duplicates positions categorised features
  rw [LegacyDb.duplicateImages, List.map_eq_nil_iff] at duplicates
  rw [LegacyDb.duplicatePositions, List.map_eq_nil_iff] at positions
  refine
    { artwork := fun i j a b ha hb => artwork_of_preflight artwork ha hb
      images := fun i j a b ha hb owner owned same => ?_
      categorised := fun id product found featured none_ => ?_
      features := fun i j a b c ha hb featuredA featuredB categoryA categoryB => ?_ }
  · rcases same with publicId | sortOrder
    · exact image_unique duplicates ha hb owner owned publicId
    · exact image_unique positions ha hb owner owned sortOrder
  · have mem : id ∈ db.uncategorisedFeatures := by
      refine List.mem_map.mpr ⟨(id, product), List.mem_filter.mpr ⟨Table.mem_entries.mpr found, ?_⟩,
        rfl⟩
      rw [none_, featured]
      rfl
    rw [categorised] at mem
    cases mem
  · have single : some c ∉ ambiguous (db.listings.entries.filterMap fun e =>
        if e.2.isFeatureProduct then
          (db.products.get? e.2.legoProductId).map fun product =>
            (product.categoryId, e.2.legoProductId)
        else none) := by
      intro mem
      have listed : c ∈ db.conflictingFeatures := List.mem_filterMap.mpr ⟨some c, mem, rfl⟩
      rw [features] at listed
      cases listed
    have pair : ∀ {id : Nat} {product : LegacyProduct}, db.products.get? id = some product →
        db.hasFeaturedListing id = true → product.categoryId = some c →
        (some c, id) ∈ db.listings.entries.filterMap fun e =>
          if e.2.isFeatureProduct then
            (db.products.get? e.2.legoProductId).map fun product =>
              (product.categoryId, e.2.legoProductId)
          else none := by
      intro id product found featured category
      obtain ⟨k, listing, hlisting, rfl, flag⟩ := hasFeaturedListing_iff.mp featured
      refine List.mem_filterMap.mpr ⟨(k, listing), Table.mem_entries.mpr hlisting, ?_⟩
      rw [if_pos flag, found, Option.map_some, category]
    exact value_unique single (pair ha featuredA categoryA) (pair hb featuredB categoryB)

end Preflight

/-! ### What the migration keeps -/

/-- The row of a product before and after. -/
structure PresentsProduct (db : LegacyDb) (id : Nat) (product : LegacyProduct)
    (product' : PresentedProduct) : Prop where
  category : product'.categoryId = product.categoryId
  artwork : ∀ k listing, db.listings.get? k = some listing → listing.legoProductId = id →
    listing.hasArtwork = true →
      product'.catalogueArtworkUrl = listing.catalogueArtworkUrl ∧
        product'.catalogueArtworkPublicId = listing.catalogueArtworkPublicId
  noArtwork : (∀ k listing, db.listings.get? k = some listing → listing.legoProductId = id →
    listing.hasArtwork = false) →
      product'.catalogueArtworkUrl = none ∧ product'.catalogueArtworkPublicId = none
  featured : product'.isFeatureProduct = true ↔
    ∃ k listing, db.listings.get? k = some listing ∧ listing.legoProductId = id ∧
      listing.isFeatureProduct = true

/-- The row of an image before and after: its owner is its listing's product. -/
structure PresentsImage (db : LegacyDb) (image : ListingImage) (image' : PresentedImage) : Prop where
  url : image'.url = image.url
  publicId : image'.publicId = image.publicId
  altText : image'.altText = image.altText
  sortOrder : image'.sortOrder = image.sortOrder
  owner : ∃ listing, db.listings.get? image.listingId = some listing ∧
    image'.legoProductId = some listing.legoProductId

/-- Every row keeps its id. -/
structure Presents (db : LegacyDb) (presented : PresentedDb) : Prop where
  products : ∀ id, Option.Rel (PresentsProduct db id) (db.products.get? id)
    (presented.products.get? id)
  listings : ∀ id, (presented.listings.get? id).map PresentedListing.legoProductId =
    (db.listings.get? id).map LegacyListing.legoProductId
  images : ∀ id, Option.Rel (PresentsImage db) (db.images.get? id) (presented.images.get? id)

/-- The constraints of the new schema, and the two that the application relies on
for the images of a product. -/
structure PresentedDb.Valid (db : PresentedDb) : Prop where
  owner : ∀ id image, db.images.get? id = some image →
    ∃ productId product, image.legoProductId = some productId ∧
      db.products.get? productId = some product
  oneFeature : ∀ i j a b, db.products.get? i = some a → db.products.get? j = some b →
    a.isFeatureProduct = true → b.isFeatureProduct = true → a.categoryId = b.categoryId → i = j
  categorised : ∀ id product, db.products.get? id = some product →
    product.isFeatureProduct = true → product.categoryId ≠ none
  publicIds : ∀ i j a b, db.images.get? i = some a → db.images.get? j = some b →
    a.legoProductId = b.legoProductId → a.publicId = b.publicId → i = j
  sortOrders : ∀ i j a b, db.images.get? i = some a → db.images.get? j = some b →
    a.legoProductId = b.legoProductId → a.sortOrder = b.sortOrder → i = j

section Backfill

variable {db : LegacyDb}

theorem artworkListing_of_some {id : Nat} {listing : LegacyListing}
    (chosen : db.artworkListing id = some listing) : ∃ k, db.listings.get? k = some listing ∧
      listing.legoProductId = id ∧ listing.hasArtwork = true := by
  obtain ⟨⟨k, row⟩, head, rfl⟩ := Option.map_eq_some_iff.mp chosen
  obtain ⟨found, selected⟩ := Table.mem_selectByKey.mp (List.mem_of_mem_head? head)
  rw [Bool.and_eq_true, decide_eq_true_eq] at selected
  exact ⟨k, found, selected.1, selected.2⟩

theorem artworkListing_isSome {id k : Nat} {listing : LegacyListing}
    (found : db.listings.get? k = some listing) (own : listing.legoProductId = id)
    (has : listing.hasArtwork = true) : ∃ chosen, db.artworkListing id = some chosen := by
  have selected : (k, listing) ∈ db.listings.selectByKey fun _ listing =>
      decide (listing.legoProductId = id) && listing.hasArtwork := by
    refine Table.mem_selectByKey.mpr ⟨found, ?_⟩
    rw [own, has]
    simp
  cases chosen : db.artworkListing id with
  | some row => exact ⟨row, rfl⟩
  | none =>
      rw [LegacyDb.artworkListing, Option.map_eq_none_iff, List.head?_eq_none_iff] at chosen
      rw [chosen] at selected
      cases selected

/-- The sub-selects give the one pair of artwork there is. -/
theorem presentProduct_presents (clear : db.Unambiguous) (id : Nat) (product : LegacyProduct) :
    PresentsProduct db id product (db.presentProduct id product) where
  category := rfl
  artwork := by
    intro k listing found own has
    obtain ⟨chosen, hchosen⟩ := artworkListing_isSome found own has
    obtain ⟨j, hj, ownChosen, hasChosen⟩ := artworkListing_of_some hchosen
    have pair := clear.artwork j k chosen listing hj found (ownChosen.trans own.symm) hasChosen has
    simp only [LegacyDb.presentProduct, hchosen, Option.bind_some]
    exact pair
  noArtwork := by
    intro bare
    have nothing : db.artworkListing id = none := by
      cases chosen : db.artworkListing id with
      | none => rfl
      | some row =>
          obtain ⟨k, found, own, has⟩ := artworkListing_of_some chosen
          rw [bare k row found own] at has
          cases has
    simp only [LegacyDb.presentProduct, nothing, Option.bind_none, and_self]
  featured := hasFeaturedListing_iff

theorem presentImage_presents (keys : db.ForeignKeys) {id : Nat} {image : ListingImage}
    (found : db.images.get? id = some image) : PresentsImage db image (db.presentImage image) where
  url := rfl
  publicId := rfl
  altText := rfl
  sortOrder := rfl
  owner := by
    obtain ⟨listing, hlisting⟩ := keys.listings id image found
    exact ⟨listing, hlisting, congrArg (Option.map LegacyListing.legoProductId) hlisting⟩

theorem present_presents (keys : db.ForeignKeys) (clear : db.Unambiguous) :
    Presents db db.present where
  products := by
    intro id
    rw [LegacyDb.present, Table.get?_mapRows]
    cases db.products.get? id with
    | none => exact .none
    | some product => exact .some (presentProduct_presents clear id product)
  listings := by
    intro id
    rw [LegacyDb.present, Table.get?_mapRows, Option.map_map]
    rfl
  images := by
    intro id
    rw [LegacyDb.present, Table.get?_mapRows]
    cases found : db.images.get? id with
    | none => exact .none
    | some image => exact .some (presentImage_presents keys found)

theorem present_product {id : Nat} {product' : PresentedProduct}
    (found : db.present.products.get? id = some product') :
    ∃ product, db.products.get? id = some product ∧ db.presentProduct id product = product' := by
  rw [LegacyDb.present, Table.get?_mapRows] at found
  exact Option.map_eq_some_iff.mp found

theorem present_image {id : Nat} {image' : PresentedImage}
    (found : db.present.images.get? id = some image') :
    ∃ image, db.images.get? id = some image ∧ db.presentImage image = image' := by
  rw [LegacyDb.present, Table.get?_mapRows] at found
  exact Option.map_eq_some_iff.mp found

theorem present_owner (keys : db.ForeignKeys) {id : Nat} {image' : PresentedImage}
    (found : db.present.images.get? id = some image') :
    ∃ productId product, image'.legoProductId = some productId ∧
      db.present.products.get? productId = some product := by
  obtain ⟨image, himage, rfl⟩ := present_image found
  obtain ⟨listing, hlisting, owner⟩ := (presentImage_presents keys himage).owner
  obtain ⟨product, hproduct⟩ := keys.products _ listing hlisting
  refine ⟨listing.legoProductId, db.presentProduct listing.legoProductId product, owner, ?_⟩
  rw [LegacyDb.present, Table.get?_mapRows, hproduct, Option.map_some]

/-- What the preflight looked for is what the new constraints forbid. -/
theorem present_valid (keys : db.ForeignKeys) (clear : db.Unambiguous) : db.present.Valid where
  owner := fun _ _ found => present_owner keys found
  oneFeature := by
    intro i j a b ha hb featuredA featuredB same
    obtain ⟨first, hfirst, rfl⟩ := present_product ha
    obtain ⟨second, hsecond, rfl⟩ := present_product hb
    obtain ⟨c, hc⟩ := Option.ne_none_iff_exists'.mp (clear.categorised i first hfirst featuredA)
    exact clear.features i j first second c hfirst hsecond featuredA featuredB hc
      (same.symm.trans hc)
  categorised := by
    intro id product' found featured
    obtain ⟨product, hproduct, rfl⟩ := present_product found
    exact clear.categorised id product hproduct featured
  publicIds := by
    intro i j a b ha hb owner same
    obtain ⟨productId, -, owned, -⟩ := present_owner keys ha
    obtain ⟨first, hfirst, rfl⟩ := present_image ha
    obtain ⟨second, hsecond, rfl⟩ := present_image hb
    exact clear.images i j first second hfirst hsecond owner (by simp [owned]) (.inl same)
  sortOrders := by
    intro i j a b ha hb owner same
    obtain ⟨productId, -, owned, -⟩ := present_owner keys ha
    obtain ⟨first, hfirst, rfl⟩ := present_image ha
    obtain ⟨second, hsecond, rfl⟩ := present_image hb
    exact clear.images i j first second hfirst hsecond owner (by simp [owned]) (.inr same)

end Backfill

/-! ### The constraints hold -/

/-- The rows of the partial unique index have distinct categories. -/
theorem featuredCategory_nodup {products : Table PresentedProduct}
    (oneFeature : ∀ i j a b, products.get? i = some a → products.get? j = some b →
      a.isFeatureProduct = true → b.isFeatureProduct = true → a.categoryId = b.categoryId → i = j) :
    (products.entries.filterMap fun e => e.2.featuredCategory).Nodup := by
  rw [List.Nodup, List.pairwise_filterMap]
  have distinct := List.pairwise_map.mp products.nodup
  refine distinct.imp_of_mem ?_
  rintro ⟨i, a⟩ ⟨j, b⟩ ha hb ne c hc c' hc' rfl
  obtain ⟨featuredA, categoryA⟩ := Option.ite_none_right_eq_some.mp hc
  obtain ⟨featuredB, categoryB⟩ := Option.ite_none_right_eq_some.mp hc'
  exact ne (oneFeature i j a b (Table.mem_entries.mp ha) (Table.mem_entries.mp hb) featuredA
    featuredB (categoryA.trans categoryB.symm))

/-- No step after the preflight fails. -/
theorem migrate_of_valid {db : LegacyDb} {u : PUnit} (passed : db.preflight = .ok u)
    (valid : db.present.Valid) : migrate db = .ok db.present := by
  have owned : ∀ e ∈ db.present.images.entries, e.2.legoProductId ≠ none := by
    rintro ⟨id, image⟩ mem
    obtain ⟨productId, -, owner, -⟩ := valid.owner id image (Table.mem_entries.mp mem)
    rw [owner]
    exact Option.some_ne_none productId
  have referenced : ∀ e ∈ db.present.images.entries, ∀ owner ∈ e.2.legoProductId,
      (db.present.products.get? owner).isSome := by
    rintro ⟨id, image⟩ mem owner own
    obtain ⟨productId, product, same, found⟩ := valid.owner id image (Table.mem_entries.mp mem)
    obtain rfl := Option.some.inj (same.symm.trans own)
    rw [found]
    rfl
  have categorised : ∀ e ∈ db.present.products.entries,
      e.2.isFeatureProduct = false ∨ e.2.categoryId ≠ none := by
    rintro ⟨id, product⟩ mem
    cases featured : product.isFeatureProduct with
    | false => exact .inl rfl
    | true => exact .inr (valid.categorised id product (Table.mem_entries.mp mem) featured)
  have single := repeated_eq_nil_iff.mpr (featuredCategory_nodup valid.oneFeature)
  simp only [migrate, bind_eq_ok, ensure_eq_ok]
  exact ⟨u, passed, ⟨⟩, owned, ⟨⟩, owned, ⟨⟩, referenced, ⟨⟩, single, ⟨⟩, categorised, rfl⟩

/-- A migration whose preflight passes succeeds and keeps what it moves; one whose
preflight finds a conflict fails with it, and no failure changes the database. -/
theorem migrate_faithful (db : LegacyDb) (keys : db.ForeignKeys) :
    (db.preflight = .ok ⟨⟩ → ∃ presented, migrate db = .ok presented ∧
      applyMigration (.legacy db) = .presented presented ∧ Presents db presented ∧
        presented.Valid) ∧
    (∀ error, db.preflight = .error error → migrate db = .error error) ∧
    ∀ error, migrate db = .error error → applyMigration (.legacy db) = .legacy db := by
  refine ⟨fun passed => ?_, fun error stopped => ?_, fun error failed => ?_⟩
  · have clear := unambiguous_of_preflight passed
    have valid := present_valid keys clear
    have migrated := migrate_of_valid passed valid
    refine ⟨db.present, migrated, ?_, present_presents keys clear, valid⟩
    rw [applyMigration, migrated]
  · rw [migrate, stopped]
    rfl
  · rw [applyMigration, failed]

/-- Two sets with two listings each. -/
def sampleLegacyDb : LegacyDb where
  products := (Table.empty.insert ⟨some 5⟩).insert ⟨none⟩
  listings := (((Table.empty.insert ⟨1, none, some "catalogue/1", true⟩).insert
    ⟨2, none, none, false⟩).insert ⟨1, none, some "catalogue/1", false⟩).insert
      ⟨2, none, none, false⟩
  images := (Table.empty.insert ⟨1, "a", "listing/a", none, 0⟩).insert
    ⟨1, "b", "listing/b", some "box", 1⟩

theorem sampleLegacyDb_keys : sampleLegacyDb.ForeignKeys where
  products := by
    intro id listing found
    have all : sampleLegacyDb.listings.entries.all fun e =>
        (sampleLegacyDb.products.get? e.2.legoProductId).isSome := by decide
    exact Option.isSome_iff_exists.mp (List.all_eq_true.mp all _ (Table.mem_entries.mpr found))
  listings := by
    intro id image found
    have all : sampleLegacyDb.images.entries.all fun e =>
        (sampleLegacyDb.listings.get? e.2.listingId).isSome := by decide
    exact Option.isSome_iff_exists.mp (List.all_eq_true.mp all _ (Table.mem_entries.mpr found))

theorem migrate_faithful_sample :
    ∃ presented, migrate sampleLegacyDb = .ok presented ∧ Presents sampleLegacyDb presented := by
  obtain ⟨presented, migrated, -, presents, -⟩ :=
    (migrate_faithful sampleLegacyDb sampleLegacyDb_keys).1 (by decide +kernel)
  exact ⟨presented, migrated, presents⟩

end ColorfulLife
