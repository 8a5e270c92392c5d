/-
New listings and their activation: the product form (`controllers/products.ts`),
the listing form of a purchase review (`routes/purchaseListings.ts`), and the
creation under the lock of the category
(`domain/products/productListingCreationService.ts`).

Neither form takes a used offer. A new listing starts with the stock of the
form and without a movement.
-/

import ColorfulLife.Inventory.Adjustment
import ColorfulLife.Relational.Unique

namespace ColorfulLife

open Relational

/-! ### Requests -/

structure ProductInput where
  setNumber : String
  title : String
  description : Option String
  theme : String
  categoryId : Nat
  ageRecommendation : String
  pieceCount : Int
  isRetired : Option Bool
  condition : ListingCondition
  originalPrice : ℚ
  salePrice : Option ℚ
  currentStock : Option Int
  deriving DecidableEq

/-- The issues of the schema, each with the field it is about. -/
def ProductInput.issues (input : ProductInput) : List (String × String) :=
  let checks : List (Bool × String × String) :=
    [(input.setNumber ≠ "", "setNumber", "setNumber is required"),
      (input.title ≠ "", "title", "title is required"),
      (input.theme ≠ "", "theme", "theme is required"),
      (0 < input.categoryId, "categoryId", "Number must be greater than 0"),
      (input.ageRecommendation ≠ "", "ageRecommendation", "ageRecommendation is required"),
      (0 < input.pieceCount, "pieceCount", "pieceCount must be a positive integer"),
      (0 < input.originalPrice, "originalPrice", "originalPrice must be positive"),
      (input.salePrice.all fun price => decide (0 ≤ price), "salePrice",
        "Number must be greater than or equal to 0"),
      (input.currentStock.all fun stock => decide (0 ≤ stock), "currentStock",
        "Number must be greater than or equal to 0")]
  (checks.filter fun check => !check.1).map Prod.snd

/-- A listing form that names a product of the catalogue. -/
structure ExistingProductInput where
  existingProductId : Nat
  condition : ListingCondition
  originalPrice : ℚ
  salePrice : Option ℚ
  deriving DecidableEq

/-- The two members of the union of the listing form; its `currentStock` is the
literal zero. -/
inductive PurchaseListingInput where
  | existing (input : ExistingProductInput)
  | product (input : ProductInput)
  deriving DecidableEq

/-! ### Creation -/

def usedOffersOnly : DomainError :=
  .listing 400 "Used offers must be created through the per-item Used offer operation"

/-- `setNumber String @unique`. -/
def LegoProduct.clash (a b : LegoProduct) : Bool := decide (a.setNumber = b.setNumber)

/-- Run under the lock of the category, told whether the product is to be its
feature. -/
def createForCategory {α : Type} (categoryId : Option Nat)
    (createListing : Bool → Db → Result α) (db : Db) : Result α :=
  match categoryId with
  | none => createListing false db
  | some categoryId => createListing (!hasCategoryFeatureProduct categoryId db.legoProducts) db

def newListing (legoProductId : Nat) (originalPrice : ℚ) (salePrice : Option ℚ)
    (currentStock : Int) : ProductListing where
  legoProductId := legoProductId
  condition := .new
  damageDescription := none
  usedLifecycle := none
  originalPrice := toColumn originalPrice
  salePrice := salePrice.map toColumn
  currentStock := currentStock
  reservedStock := 0
  active := true
  usedConditionPhotos := []

def newProduct (input : ProductInput) (isFeatureProduct : Bool) : LegoProduct where
  setNumber := input.setNumber
  categoryId := some input.categoryId
  title := input.title
  description := input.description
  theme := input.theme
  ageRecommendation := input.ageRecommendation
  pieceCount := input.pieceCount
  isRetired := input.isRetired.getD false
  isFeatureProduct := isFeatureProduct

def createProduct (input : ProductInput) (db : Db) : Result Db := do
  ensure (input.issues = []) (DomainError.invalidListing input.issues)
  ensure (input.condition ≠ .usedLikeNew) usedOffersOnly
  let _ ← orThrow (db.categories.get? input.categoryId)
    (DomainError.listing 400 "Category not found")
  createForCategory (some input.categoryId) (fun isFeatureProduct db => do
    let product := newProduct input isFeatureProduct
    ensure (db.legoProducts.clashes LegoProduct.clash db.legoProducts.nextId product = false)
      (DomainError.listing 409 "setNumber already exists")
    return { db with
      legoProducts := db.legoProducts.insert product
      listings := db.listings.insert (newListing db.legoProducts.nextId input.originalPrice
        input.salePrice (input.currentStock.getD 0)) }) db

/-- The texts that the listing form trims. -/
def ProductInput.trimmed (input : ProductInput) : ProductInput :=
  { input with
    setNumber := trim input.setNumber
    title := trim input.title
    theme := trim input.theme
    ageRecommendation := trim input.ageRecommendation
    isRetired := none
    currentStock := some 0 }

def invalidPurchaseListing : DomainError :=
  .listing 400 "Select a condition and valid product details. Initial stock must be zero."

/-- A listing for a product of the catalogue, which is featured if its category
has no feature yet. -/
def createExistingProductListing (input : ExistingProductInput) (db : Db) : Result Db := do
  ensure (0 < input.existingProductId ∧ 0 < input.originalPrice ∧
    input.salePrice.all fun price => decide (0 ≤ price)) invalidPurchaseListing
  ensure (input.condition ≠ .usedLikeNew) usedOffersOnly
  let product ← orThrow (db.legoProducts.get? input.existingProductId)
    (DomainError.listing 404 "Product not found")
  createForCategory product.categoryId (fun firstProductInCategory db =>
    return { db with
      legoProducts :=
        if firstProductInCategory then
          db.legoProducts.update input.existingProductId fun p => { p with isFeatureProduct := true }
        else db.legoProducts
      listings := db.listings.insert
        (newListing input.existingProductId input.originalPrice input.salePrice 0) }) db

/-- `POST /purchases/:id/review/listings`, for an admin who imported a document
of the purchase. -/
def createPurchaseListing (userId purchaseId : Nat) (body : PurchaseListingInput) (db : Db) :
    Result Db := do
  let _ ← orThrow (db.purchases.get? purchaseId) (DomainError.listing 404 "Purchase not found")
  ensure (db.purchaseDocuments.select (fun _ d =>
      decide (d.purchaseId = purchaseId ∧ d.importedByUserId = userId)) ≠ [])
    (DomainError.listing 404 "Purchase not found")
  match body with
  | .existing input => createExistingProductListing input db
  | .product input => do
      ensure (input.trimmed.issues = []) invalidPurchaseListing
      createProduct input.trimmed db

/-! ### Activation -/

def deactivateProduct (id : Nat) (db : Db) : Result Db := do
  let _ ← orThrow (db.listings.get? id) (DomainError.listing 404 "Listing not found")
  return { db with listings := db.listings.update id fun l => { l with active := false } }

def reactivateProduct (id : Nat) (db : Db) : Result Db := do
  let existing ← orThrow (db.listings.get? id) (DomainError.listing 404 "Listing not found")
  ensure (¬ (existing.condition = .usedLikeNew ∧ existing.usedLifecycle ≠ some .available))
    (DomainError.listing 409 "A terminal Used offer cannot be reactivated")
  return { db with listings := db.listings.update id fun l => { l with active := true } }

/-! ### Inversion -/

section Inversion

variable {db db' : Db}

/-- A listing was created: a new one, with the stock of the form. -/
def Listed (currentStock : Int) (db db' : Db) : Prop :=
  ∃ legoProducts legoProductId originalPrice salePrice, db' = { db with
    legoProducts := legoProducts
    listings := db.listings.insert
      (newListing legoProductId originalPrice salePrice currentStock) }

/-- The callback runs on the same data, whether its product becomes the feature or not. -/
theorem createForCategory_ok {α : Type} {categoryId : Option Nat}
    {createListing : Bool → Db → Result α} {r : α}
    (h : createForCategory categoryId createListing db = .ok r) :
    ∃ isFeatureProduct, createListing isFeatureProduct db = .ok r := by
  unfold createForCategory at h
  split at h
  · exact ⟨_, h⟩
  · exact ⟨_, h⟩

/-- A new product comes from a valid body, with one listing of it. -/
theorem createProduct_ok {input : ProductInput} (h : createProduct input db = .ok db') :
    input.issues = [] ∧ Listed (input.currentStock.getD 0) db db' := by
  simp only [createProduct, bind_eq_ok, ensure_eq_ok, orThrow_eq_ok] at h
  obtain ⟨-, valid, -, -, -, -, h⟩ := h
  obtain ⟨isFeatureProduct, h⟩ := createForCategory_ok h
  simp only [bind_eq_ok, ensure_eq_ok, pure_eq_ok] at h
  obtain ⟨-, -, rfl⟩ := h
  exact ⟨valid, _, _, _, _, rfl⟩

/-- A listing of a product of the catalogue starts without stock. -/
theorem createExistingProductListing_ok {input : ExistingProductInput}
    (h : createExistingProductListing input db = .ok db') : Listed 0 db db' := by
  simp only [createExistingProductListing, bind_eq_ok, ensure_eq_ok, orThrow_eq_ok] at h
  obtain ⟨-, -, -, -, product, -, h⟩ := h
  obtain ⟨isFeatureProduct, h⟩ := createForCategory_ok h
  obtain rfl := pure_eq_ok.mp h
  exact ⟨_, _, _, _, rfl⟩

theorem createPurchaseListing_ok {userId purchaseId : Nat} {body : PurchaseListingInput}
    (h : createPurchaseListing userId purchaseId body db = .ok db') : Listed 0 db db' := by
  simp only [createPurchaseListing, bind_eq_ok, ensure_eq_ok, orThrow_eq_ok] at h
  obtain ⟨-, -, -, -, h⟩ := h
  cases body with
  | existing input => exact createExistingProductListing_ok h
  | product input =>
      simp only [bind_eq_ok, ensure_eq_ok] at h
      obtain ⟨-, -, h⟩ := h
      exact (createProduct_ok h).2

/-- An activation changes nothing but the flag. -/
def Switched (db db' : Db) : Prop :=
  ∃ id active, db' = { db with
    listings := db.listings.update id fun l => { l with active := active } }

/-- Switching a listing off changes nothing but its switch. -/
theorem deactivateProduct_ok {id : Nat} (h : deactivateProduct id db = .ok db') :
    Switched db db' := by
  simp only [deactivateProduct, bind_eq_ok, orThrow_eq_ok, pure_eq_ok] at h
  obtain ⟨-, -, rfl⟩ := h
  exact ⟨_, _, rfl⟩

theorem reactivateProduct_ok {id : Nat} (h : reactivateProduct id db = .ok db') :
    Switched db db' := by
  simp only [reactivateProduct, bind_eq_ok, orThrow_eq_ok, ensure_eq_ok, pure_eq_ok] at h
  obtain ⟨-, -, -, -, rfl⟩ := h
  exact ⟨_, _, rfl⟩

end Inversion

end ColorfulLife
