/-
The feature product of a category (`domain/products/productFeatureService.ts`,
`productListingCreationService.ts`, `adminProductUpdateService.ts`,
`domain/usedOffers/usedOfferService.ts`, `routes/purchaseListings.ts`).

Selections, first listings and metadata updates run as scripts of the lock manager:
the category's advisory lock precedes the row locks, a row is looked at again once it
is locked, and a commit passes the constraints of the table: `setNumber` is unique, a
featured product has a category, and a category one featured product
(`LegoProduct_one_feature_per_category_idx`,
`LegoProduct_feature_requires_category_check`). A metadata update takes no advisory
lock, so that it may move a product between any two statements of the others.
-/

import ColorfulLife.Inventory.Listings
import ColorfulLife.Relational.Constraints
import ColorfulLife.Relational.Locks

namespace ColorfulLife

open Relational

/-! ### The table -/

/-- Both are featured in the same category. -/
def LegoProduct.featureClash (a b : LegoProduct) : Bool :=
  a.isFeatureProduct && b.isFeatureProduct && a.categoryId.isSome &&
    decide (a.categoryId = b.categoryId)

def productConstraints : Constraints LegoProduct where
  check p := !p.isFeatureProduct || p.categoryId.isSome
  onInsert _ := true
  onUpdate _ _ := true
  clash a b := LegoProduct.clash a b || a.featureClash b
  deferred _ := true
  clash_comm a b := by
    have names : LegoProduct.clash a b = LegoProduct.clash b a := by
      simp only [LegoProduct.clash, eq_comm]
    have features : a.featureClash b = b.featureClash a := by
      rw [Bool.eq_iff_iff]
      simp only [LegoProduct.featureClash, Bool.and_eq_true, decide_eq_true_eq]
      constructor
      · rintro ⟨⟨⟨fa, fb⟩, some_⟩, same⟩
        exact ⟨⟨⟨fb, fa⟩, same ▸ some_⟩, same.symm⟩
      · rintro ⟨⟨⟨fb, fa⟩, some_⟩, same⟩
        exact ⟨⟨⟨fa, fb⟩, same ▸ some_⟩, same.symm⟩
    rw [names, features]

/-- `ProductMetadataUpdateSchema`: every field may be left out. -/
structure ProductMetadataUpdate where
  setNumber : Option String
  title : Option String
  description : Option String
  theme : Option String
  ageRecommendation : Option String
  pieceCount : Option Int
  isRetired : Option Bool
  categoryId : Option Nat
  deriving DecidableEq, Repr

/-- The columns that `update` writes. -/
def ProductMetadataUpdate.apply (fields : ProductMetadataUpdate) (p : LegoProduct) : LegoProduct :=
  { p with
    setNumber := fields.setNumber.getD p.setNumber
    title := fields.title.getD p.title
    description := fields.description <|> p.description
    theme := fields.theme.getD p.theme
    ageRecommendation := fields.ageRecommendation.getD p.ageRecommendation
    pieceCount := fields.pieceCount.getD p.pieceCount
    isRetired := fields.isRetired.getD p.isRetired
    categoryId := fields.categoryId <|> p.categoryId }

def LegoProduct.feature (p : LegoProduct) : LegoProduct := { p with isFeatureProduct := true }

def LegoProduct.unfeature (p : LegoProduct) : LegoProduct := { p with isFeatureProduct := false }

/-! ### Commits -/

/-- What a transaction writes: `cleared` are the rows that its `updateMany` matched. -/
inductive FeatureWrite where
  | select (productId categoryId : Nat) (cleared : List Nat)
  | create (product : LegoProduct)
  | feature (productId : Nat)
  | update (productId : Nat) (fields : ProductMetadataUpdate)
  deriving DecidableEq

def rowUpdate (set : LegoProduct → LegoProduct) (productId : Nat) : RowStatement LegoProduct :=
  .update productId (fun _ => true) set

def FeatureWrite.statements : FeatureWrite → List (RowStatement LegoProduct)
  | .select productId _ cleared =>
      cleared.map (rowUpdate .unfeature) ++ [rowUpdate .feature productId]
  | .create product => [.insert product]
  | .feature productId => [rowUpdate .feature productId]
  | .update productId fields => [rowUpdate fields.apply productId]

/-- The table after a commit; an error is that of a constraint. -/
def FeatureWrite.commit (write : FeatureWrite) (products : Table LegoProduct) :
    Except Refusal (Table LegoProduct) :=
  productConstraints.transact write.statements products

def writeProducts (db : Db) (write : FeatureWrite) : Db :=
  { db with legoProducts := Relational.commit (write.commit db.legoProducts) db.legoProducts }

/-! ### Scripts -/

inductive FeatureLock where
  | category (categoryId : Nat)
  | product (productId : Nat)
  deriving DecidableEq, Repr

abbrev FeatureScript := Script FeatureLock Db FeatureWrite

/-- The ids of the rows that match, in order. -/
def matching (wanted : LegoProduct → Bool) (db : Db) : List Nat :=
  (db.legoProducts.selectByKey fun _ p => wanted p).map Prod.fst

/-- Lock the rows of a statement one after the other and keep those that still match. -/
def lockMatching (wanted : LegoProduct → Bool) (next : List Nat → FeatureScript) :
    List Nat → List Nat → FeatureScript
  | [], found => next found
  | id :: ids, found =>
      .lock (.product id) <| .read fun db =>
        if (db.legoProducts.get? id).any wanted then lockMatching wanted next ids (found ++ [id])
        else lockMatching wanted next ids found

/-- A statement on the rows that match: its snapshot, then its rows. -/
def selectMatching (wanted : LegoProduct → Bool) (next : List Nat → FeatureScript) :
    FeatureScript :=
  .read fun db => lockMatching wanted next (matching wanted db) []

def LegoProduct.inCategory (categoryId : Nat) (p : LegoProduct) : Bool :=
  decide (p.categoryId = some categoryId)

def LegoProduct.featuredIn (categoryId : Nat) (p : LegoProduct) : Bool :=
  decide (p.categoryId = some categoryId ∧ p.isFeatureProduct)

/-- `setFeature`. A product without a category is not found; one that left the category
that was locked stops the selection. -/
def setFeatureScript (productId : Nat) : FeatureScript :=
  .read fun db =>
    match (db.legoProducts.get? productId).bind LegoProduct.categoryId with
    | none => .abort
    | some categoryId =>
        .lock (.category categoryId) <|
          selectMatching (·.inCategory categoryId) fun products =>
            if productId ∈ products then
              selectMatching (·.featuredIn categoryId) fun cleared =>
                .lock (.product productId) (.commit (.select productId categoryId cleared))
            else .abort

/-- `createForCategory` with a new product. -/
def createProductScript (input : ProductInput) : FeatureScript :=
  .read fun db =>
    if (db.categories.get? input.categoryId).isNone then .abort
    else .lock (.category input.categoryId) <| .read fun db =>
      .commit (.create
        (newProduct input (!hasCategoryFeatureProduct input.categoryId db.legoProducts)))

/-- A listing or a used offer for a product of the catalogue; nothing of the products
changes unless its category has no feature yet. -/
def featureFirstScript (productId : Nat) : FeatureScript :=
  .read fun db =>
    match (db.legoProducts.get? productId).bind LegoProduct.categoryId with
    | none => .abort
    | some categoryId =>
        .lock (.category categoryId) <| .read fun db =>
          if hasCategoryFeatureProduct categoryId db.legoProducts then .abort
          else .lock (.product productId) (.commit (.feature productId))

/-- `createAdminProductUpdateService().update`. -/
def updateProductScript (productId : Nat) (fields : ProductMetadataUpdate) : FeatureScript :=
  .read fun db =>
    if (db.legoProducts.get? productId).isNone then .abort
    else .read fun db =>
      if fields.categoryId.any fun id => (db.categories.get? id).isNone then .abort
      else .lock (.product productId) (.commit (.update productId fields))

inductive FeatureCall where
  | setFeature (productId : Nat)
  | createProduct (input : ProductInput)
  | featureFirst (productId : Nat)
  | updateProduct (productId : Nat) (fields : ProductMetadataUpdate)

def FeatureCall.script : FeatureCall → FeatureScript
  | .setFeature productId => setFeatureScript productId
  | .createProduct input => createProductScript input
  | .featureFirst productId => featureFirstScript productId
  | .updateProduct productId fields => updateProductScript productId fields

/-- The call moves no product to another category. -/
def FeatureCall.KeepsCategories : FeatureCall → Prop
  | .updateProduct _ fields => fields.categoryId = none
  | _ => True

def featureCalls : LockCalls FeatureCall FeatureLock Db FeatureWrite where
  script := FeatureCall.script
  effect := writeProducts

/-! ### What a commit does to the rows -/

section Rows

variable {t t' : Table LegoProduct} {productId categoryId : Nat} {cleared : List Nat}

/-- The product is in the table, in the category and featured. -/
def FeaturedIn (t : Table LegoProduct) (categoryId productId : Nat) : Prop :=
  ∃ p, t.get? productId = some p ∧ p.featuredIn categoryId = true

theorem featuredIn_iff {p : LegoProduct} : p.featuredIn categoryId = true ↔
    p.categoryId = some categoryId ∧ p.isFeatureProduct = true := by
  rw [LegoProduct.featuredIn, decide_eq_true_eq]

theorem hasCategoryFeatureProduct_eq_false : hasCategoryFeatureProduct categoryId t = false ↔
    ∀ id, ¬ FeaturedIn t categoryId id := by
  rw [hasCategoryFeatureProduct, Option.isSome_eq_false_iff, Option.isNone_iff_eq_none,
    Table.find?_eq_none]
  constructor
  · rintro none_ id ⟨p, found, featured⟩
    have free := none_ id p found
    rw [decide_eq_false_iff_not] at free
    exact free (featuredIn_iff.mp featured)
  · intro free id p found
    rw [decide_eq_false_iff_not]
    exact fun featured => free id ⟨p, found, featuredIn_iff.mpr featured⟩

theorem mem_matching {wanted : LegoProduct → Bool} {db : Db} {id : Nat} :
    id ∈ matching wanted db ↔ ∃ p, db.legoProducts.get? id = some p ∧ wanted p = true := by
  rw [matching, List.mem_map]
  constructor
  · rintro ⟨⟨k, p⟩, mem, rfl⟩
    exact ⟨p, Table.mem_selectByKey.mp mem⟩
  · rintro ⟨p, found⟩
    exact ⟨(id, p), Table.mem_selectByKey.mpr found, rfl⟩

/-- Updates of several rows. -/
theorem get?_execute_updates {set : LegoProduct → LegoProduct} (idem : ∀ p, set (set p) = set p)
    {ids : List Nat} (run : execute (ids.map (rowUpdate set)) t = .ok t') (id : Nat) :
    t'.get? id = (t.get? id).map fun p => if id ∈ ids then set p else p := by
  induction ids generalizing t with
  | nil =>
      obtain rfl := Except.ok.inj run
      cases t.get? id <;> simp
  | cons first ids ih =>
      obtain ⟨t₁, step, rest⟩ := execute_cons.mp run
      obtain ⟨p, -, -, rfl⟩ := execute_update.mp step
      rw [ih rest, Table.get?_update]
      by_cases own : id = first
      · subst own
        cases t.get? id with
        | none => simp
        | some q => by_cases again : id ∈ ids <;> simp [again, idem]
      · simp [own]

/-- A selection clears what it matched and features its product. -/
theorem get?_commit_select
    (run : (FeatureWrite.select productId categoryId cleared).commit t = .ok t') :
    (∃ p, t.get? productId = some p ∧ t'.get? productId = some p.feature) ∧
    ∀ id, id ≠ productId →
      t'.get? id = (t.get? id).map fun p => if id ∈ cleared then p.unfeature else p := by
  have ran := Constraints.execute_of_transact run
  rw [FeatureWrite.statements, execute, List.foldlM_append, bind_eq_ok] at ran
  obtain ⟨t₁, clears, last⟩ := ran
  have rows : ∀ id, t₁.get? id = (t.get? id).map fun p => if id ∈ cleared then p.unfeature else p :=
    get?_execute_updates (fun p => (rfl : p.unfeature.unfeature = p.unfeature)) clears
  obtain ⟨p, found, -, rfl⟩ := execute_update.mp (execute_singleton.mp last)
  refine ⟨?_, fun id other => ?_⟩
  · rw [rows] at found
    obtain ⟨q, there, rfl⟩ := Option.map_eq_some_iff.mp found
    refine ⟨q, there, ?_⟩
    rw [Table.get?_update, if_pos rfl, rows, there]
    by_cases mem : productId ∈ cleared
    · simp [mem, LegoProduct.feature, LegoProduct.unfeature]
    · simp [mem]
  · rw [Table.get?_update_of_ne _ _ other, rows]

/-- The other writes: one row goes in, or one is rewritten. -/
theorem commit_create {product : LegoProduct}
    (run : (FeatureWrite.create product).commit t = .ok t') : t' = t.insert product :=
  (Except.ok.inj (execute_singleton.mp (Constraints.execute_of_transact run))).symm

theorem commit_rowUpdate {set : LegoProduct → LegoProduct}
    (run : productConstraints.transact [rowUpdate set productId] t = .ok t') :
    ∃ p, t.get? productId = some p ∧ t' = t.update productId set := by
  obtain ⟨p, found, -, rfl⟩ :=
    execute_update.mp (execute_singleton.mp (Constraints.execute_of_transact run))
  exact ⟨p, found, rfl⟩

end Rows

/-! ### What transactions learn and rely on -/

/-- What a transaction has learnt at its commit. While no product changes its category
(`still`), it knows the features of the category it has locked. -/
def Learnt (still : Prop) (held : List FeatureLock) (db : Db) : FeatureWrite → Prop
  | .select productId categoryId cleared =>
      .product productId ∈ held ∧
      (∃ p, db.legoProducts.get? productId = some p ∧ p.categoryId = some categoryId) ∧
      (∀ id ∈ cleared, .product id ∈ held ∧ FeaturedIn db.legoProducts categoryId id) ∧
      (still → .category categoryId ∈ held ∧
        ∀ id, FeaturedIn db.legoProducts categoryId id → id ∈ cleared)
  | .create product => ∃ categoryId, product.categoryId = some categoryId ∧
      (still → .category categoryId ∈ held ∧ (product.isFeatureProduct = true ↔
        ∀ id, ¬ FeaturedIn db.legoProducts categoryId id))
  | .feature productId => .product productId ∈ held ∧
      (still → ∃ categoryId p, .category categoryId ∈ held ∧
        db.legoProducts.get? productId = some p ∧ p.categoryId = some categoryId ∧
        ∀ id, ¬ FeaturedIn db.legoProducts categoryId id)
  | .update productId fields => .product productId ∈ held ∧ (still → fields.categoryId = none)

/-- The write is one that the call asks for. -/
def FeatureCall.Asks : FeatureCall → FeatureWrite → Prop
  | .setFeature productId, .select selected _ _ => selected = productId
  | .createProduct input, .create product => ∃ featured, product = newProduct input featured
  | .featureFirst productId, .feature featured => featured = productId
  | .updateProduct productId fields, .update updated fields' =>
      updated = productId ∧ fields' = fields
  | _, _ => False

/-- Why a call that began on the data `began` ends without a change. A first feature has
nothing to do once its category has one. -/
def FeatureCall.Declined (began db : Db) : FeatureCall → Prop
  | .setFeature productId => (began.legoProducts.get? productId).bind LegoProduct.categoryId = none
  | .createProduct input => began.categories.get? input.categoryId = none
  | .featureFirst productId =>
      (began.legoProducts.get? productId).bind LegoProduct.categoryId = none ∨
      ∃ categoryId id, (db.legoProducts.get? productId).bind LegoProduct.categoryId =
        some categoryId ∧ FeaturedIn db.legoProducts categoryId id
  | .updateProduct productId fields => began.legoProducts.get? productId = none ∨
      ∃ id, fields.categoryId = some id ∧ began.categories.get? id = none

/-- How a transaction ends. -/
def FeatureEnds (still : Prop) (call : FeatureCall) (began : Db) (held : List FeatureLock)
    (db : Db) : Option FeatureWrite → Prop
  | some write => call.Asks write ∧ Learnt still held db write
  | none => still → call.Declined began db

/-- What others leave alone: the category table, rows that are locked and, while no
product changes its category, the features of a category that is locked. -/
structure LeavesAlone (still : Prop) (held : List FeatureLock) (db db' : Db) : Prop where
  categoryTable : db'.categories = db.categories
  stays : ∀ id, db'.legoProducts.get? id = none → db.legoProducts.get? id = none
  rows : ∀ id p, .product id ∈ held → db.legoProducts.get? id = some p →
    db'.legoProducts.get? id = some p
  categories : still → ∀ id p, db.legoProducts.get? id = some p →
    ∃ p', db'.legoProducts.get? id = some p' ∧ p'.categoryId = p.categoryId
  features : still → ∀ categoryId, .category categoryId ∈ held → ∀ id,
    FeaturedIn db'.legoProducts categoryId id ↔ FeaturedIn db.legoProducts categoryId id

def ProductsValid (db : Db) : Prop := productConstraints.Holds db.legoProducts

section Learning

variable {still : Prop} {held held' : List FeatureLock} {db db' db'' : Db} {write : FeatureWrite}

theorem LeavesAlone.refl (held : List FeatureLock) (db : Db) : LeavesAlone still held db db where
  categoryTable := rfl
  stays := fun _ h => h
  rows := fun _ _ _ found => found
  categories := fun _ _ p found => ⟨p, found, rfl⟩
  features := fun _ _ _ _ => Iff.rfl

theorem LeavesAlone.trans (h : LeavesAlone still held db db')
    (h' : LeavesAlone still held db' db'') : LeavesAlone still held db db'' where
  categoryTable := h'.categoryTable.trans h.categoryTable
  stays := fun id absent => h.stays id (h'.stays id absent)
  rows := fun id p mem found => h'.rows id p mem (h.rows id p mem found)
  categories := by
    intro s id p found
    obtain ⟨p', found', same⟩ := h.categories s id p found
    obtain ⟨p'', found'', same'⟩ := h'.categories s id p' found'
    exact ⟨p'', found'', same'.trans same⟩
  features := fun s categoryId mem id =>
    (h'.features s categoryId mem id).trans (h.features s categoryId mem id)

/-- Fewer locks protect less. -/
theorem LeavesAlone.of_subset (h : LeavesAlone still held' db db')
    (sub : ∀ r ∈ held, r ∈ held') : LeavesAlone still held db db' where
  categoryTable := h.categoryTable
  stays := h.stays
  rows := fun id p mem => h.rows id p (sub _ mem)
  categories := h.categories
  features := fun s categoryId mem => h.features s categoryId (sub _ mem)

/-- A product that has a category keeps it. -/
theorem LeavesAlone.no_category (h : LeavesAlone still held db db') (s : still) {id : Nat}
    (none_ : (db'.legoProducts.get? id).bind LegoProduct.categoryId = none) :
    (db.legoProducts.get? id).bind LegoProduct.categoryId = none := by
  cases found : db.legoProducts.get? id with
  | none => rfl
  | some p =>
      obtain ⟨p', found', same⟩ := h.categories s id p found
      rw [found'] at none_
      exact same.symm.trans none_

/-- Rows that change keep their category and, outside the categories that others have
locked, anything else. -/
theorem LeavesAlone.of_rows (categoryTable : db'.categories = db.categories)
    (rows : ∀ id p, db.legoProducts.get? id = some p → ∃ p', db'.legoProducts.get? id = some p' ∧
      (p' = p ∨ .product id ∉ held ∧ (still → p'.categoryId = p.categoryId ∧
        (p'.isFeatureProduct = p.isFeatureProduct ∨
          ∃ categoryId, p.categoryId = some categoryId ∧ .category categoryId ∉ held))))
    (added : ∀ id p', db.legoProducts.get? id = none → db'.legoProducts.get? id = some p' →
      still → ∃ categoryId, p'.categoryId = some categoryId ∧ .category categoryId ∉ held) :
    LeavesAlone still held db db' where
  categoryTable := categoryTable
  stays := by
    intro id absent
    by_contra there
    obtain ⟨p, found⟩ := Option.ne_none_iff_exists'.mp there
    obtain ⟨p', found', -⟩ := rows id p found
    rw [absent] at found'
    cases found'
  rows := by
    intro id p mem found
    obtain ⟨p', found', rfl | ⟨free, -⟩⟩ := rows id p found
    · exact found'
    · exact absurd mem free
  categories := by
    intro s id p found
    obtain ⟨p', found', rfl | ⟨-, same⟩⟩ := rows id p found
    · exact ⟨_, found', rfl⟩
    · exact ⟨p', found', (same s).1⟩
  features := by
    intro s categoryId mem id
    constructor
    · rintro ⟨p', found', featured⟩
      obtain ⟨inCategory, flag⟩ := featuredIn_iff.mp featured
      cases found : db.legoProducts.get? id with
      | none =>
          obtain ⟨c, own, free⟩ := added id p' found found' s
          obtain rfl := Option.some.inj (own.symm.trans inCategory)
          exact absurd mem free
      | some p =>
          obtain ⟨q, foundq, change⟩ := rows id p found
          obtain rfl := Option.some.inj (foundq.symm.trans found')
          rcases change with rfl | ⟨-, same⟩
          · exact ⟨_, found, featured⟩
          · obtain ⟨sameCategory, sameFlag | ⟨c, own, free⟩⟩ := same s
            · refine ⟨p, found, featuredIn_iff.mpr ⟨sameCategory ▸ inCategory, sameFlag ▸ flag⟩⟩
            · rw [sameCategory, own] at inCategory
              obtain rfl := Option.some.inj inCategory
              exact absurd mem free
    · rintro ⟨p, found, featured⟩
      obtain ⟨inCategory, flag⟩ := featuredIn_iff.mp featured
      obtain ⟨p', found', rfl | ⟨-, same⟩⟩ := rows id p found
      · exact ⟨_, found', featured⟩
      · obtain ⟨sameCategory, sameFlag | ⟨c, own, free⟩⟩ := same s
        · exact ⟨p', found', featuredIn_iff.mpr ⟨sameCategory.trans inCategory, sameFlag.trans flag⟩⟩
        · obtain rfl := Option.some.inj (own.symm.trans inCategory)
          exact absurd mem free

/-- A commit leaves alone what others have locked. -/
theorem writeProducts_leavesAlone (learnt : Learnt still held db write)
    (disjoint : ∀ r ∈ held, r ∉ held') : LeavesAlone still held' db (writeProducts db write) := by
  rw [writeProducts]
  cases done : write.commit db.legoProducts with
  | error refusal => exact .refl held' db
  | ok products =>
      cases write with
      | select productId categoryId cleared =>
          obtain ⟨own, ⟨p, found, inCategory⟩, matched, locked⟩ := learnt
          obtain ⟨⟨q, there, after⟩, others⟩ := get?_commit_select done
          obtain rfl := Option.some.inj (there.symm.trans found)
          refine LeavesAlone.of_rows rfl (fun id r hr => ?_) fun id r hnone hr s => ?_
          · by_cases selected : id = productId
            · subst selected
              obtain rfl := Option.some.inj (there.symm.trans hr)
              refine ⟨q.feature, after, Or.inr ⟨disjoint _ own, fun s => ⟨rfl, Or.inr ?_⟩⟩⟩
              exact ⟨categoryId, inCategory, disjoint _ (locked s).1⟩
            · refine ⟨_, (others id selected).trans (congrArg _ hr), ?_⟩
              dsimp only
              by_cases mem : id ∈ cleared
              · obtain ⟨held_, r', hr', featured⟩ := matched id mem
                obtain rfl := Option.some.inj (hr.symm.trans hr')
                rw [if_pos mem]
                refine Or.inr ⟨disjoint _ held_, fun s => ⟨rfl, Or.inr ?_⟩⟩
                exact ⟨categoryId, (featuredIn_iff.mp featured).1, disjoint _ (locked s).1⟩
              · rw [if_neg mem]
                exact Or.inl rfl
          · have selected : id ≠ productId := by
              rintro rfl
              rw [hnone] at there
              cases there
            change products.get? id = some r at hr
            rw [others id selected, hnone] at hr
            cases hr
      | create product =>
          obtain ⟨categoryId, inCategory, locked⟩ := learnt
          obtain rfl := commit_create done
          refine LeavesAlone.of_rows rfl (fun id p found => ?_) fun id p hnone hr s => ?_
          · exact ⟨p, Table.get?_insert_of_some found, Or.inl rfl⟩
          · rcases Table.insert_cases hr with ⟨-, rfl⟩ | old
            · exact ⟨categoryId, inCategory, disjoint _ (locked s).1⟩
            · rw [hnone] at old
              cases old
      | feature productId =>
          obtain ⟨own, locked⟩ := learnt
          obtain ⟨p, found, rfl⟩ := commit_rowUpdate done
          refine LeavesAlone.of_rows rfl (fun id r hr => ?_) fun id r hnone hr => ?_
          · by_cases selected : id = productId
            · subst selected
              refine ⟨r.feature, by simp [hr], Or.inr ⟨disjoint _ own, fun s => ⟨rfl, Or.inr ?_⟩⟩⟩
              obtain ⟨categoryId, q, mem, hq, inCategory, -⟩ := locked s
              obtain rfl := Option.some.inj (hq.symm.trans hr)
              exact ⟨categoryId, inCategory, disjoint _ mem⟩
            · exact ⟨r, (Table.get?_update_of_ne _ _ selected).trans hr, Or.inl rfl⟩
          · change (db.legoProducts.update productId _).get? id = some r at hr
            rw [Table.get?_update, hnone] at hr
            split at hr <;> cases hr
      | update productId fields =>
          obtain ⟨own, keeps⟩ := learnt
          obtain ⟨p, found, rfl⟩ := commit_rowUpdate done
          refine LeavesAlone.of_rows rfl (fun id r hr => ?_) fun id r hnone hr => ?_
          · by_cases selected : id = productId
            · subst selected
              refine ⟨fields.apply r, by simp [hr], Or.inr ⟨disjoint _ own, fun s =>
                ⟨?_, Or.inl rfl⟩⟩⟩
              rw [ProductMetadataUpdate.apply, keeps s]
              rfl
            · exact ⟨r, (Table.get?_update_of_ne _ _ selected).trans hr, Or.inl rfl⟩
          · change (db.legoProducts.update productId _).get? id = some r at hr
            rw [Table.get?_update, hnone] at hr
            split at hr <;> cases hr

theorem writeProducts_valid (valid : ProductsValid db) (write : FeatureWrite) :
    ProductsValid (writeProducts db write) := by
  rw [ProductsValid, writeProducts]
  cases done : write.commit db.legoProducts with
  | error refusal => exact valid
  | ok products => exact Constraints.Holds.transact valid done

/-! ### Every script learns what it writes by -/

/-- The script comes to its end with what it has to know. -/
def Sure (still : Prop) (call : FeatureCall) (began : Db) (held : List FeatureLock) (db : Db)
    (script : FeatureScript) : Prop :=
  script.Valid ProductsValid (LeavesAlone still) (FeatureEnds still call began) held db

/-- The row is in the table and matches. -/
def Matching (wanted : LegoProduct → Bool) (db : Db) (id : Nat) : Prop :=
  ∃ p, db.legoProducts.get? id = some p ∧ wanted p = true

theorem LeavesAlone.matching (h : LeavesAlone still held db db') {wanted : LegoProduct → Bool}
    {id : Nat} (locked : .product id ∈ held) (matches_ : Matching wanted db id) :
    Matching wanted db' id := by
  obtain ⟨p, found, wants⟩ := matches_
  exact ⟨p, h.rows id p locked found, wants⟩

variable {call : FeatureCall} {began : Db} {wanted : LegoProduct → Bool}
  {next : List Nat → FeatureScript}

/-- What a loop over the rows of a statement finds is locked and matches, and every
row is found that matches whatever others do meanwhile. -/
theorem sure_lockMatching (ids found : List Nat)
    (kept : ∀ id ∈ found, .product id ∈ held ∧ Matching wanted db id)
    (after : ∀ held' db' found', (∀ r ∈ held, r ∈ held') → LeavesAlone still held db db' →
      (∀ id ∈ found', .product id ∈ held' ∧ Matching wanted db' id) →
      (∀ id, (id ∈ found ∨ id ∈ ids) →
        (∀ db'', LeavesAlone still held db db'' → Matching wanted db'' id) → id ∈ found') →
      Sure still call began held' db' (next found')) :
    Sure still call began held db (lockMatching wanted next ids found) := by
  induction ids generalizing held db found with
  | nil =>
      refine after held db found (fun _ mem => mem) (.refl held db) kept fun id listed _ => ?_
      exact listed.resolve_right (List.not_mem_nil)
  | cons id ids ih =>
      intro db₁ _ first db₂ _ second
      have grows : ∀ r ∈ held, r ∈ FeatureLock.product id :: held :=
        fun r mem => List.mem_cons_of_mem _ mem
      have change : LeavesAlone still held db db₂ := first.trans (second.of_subset grows)
      have kept₂ : ∀ j ∈ found, FeatureLock.product j ∈ FeatureLock.product id :: held ∧
          Matching wanted db₂ j := fun j mem =>
        ⟨grows _ (kept j mem).1, change.matching (kept j mem).1 (kept j mem).2⟩
      dsimp only
      by_cases still_ : ((db₂.legoProducts.get? id).any wanted) = true
      · rw [if_pos still_]
        have own : Matching wanted db₂ id := by
          obtain ⟨p, found_, wants⟩ := (Option.any_eq_true _ _).mp still_
          exact ⟨p, found_, wants⟩
        refine ih (found ++ [id]) (fun j mem => ?_) fun held' db' found' sub later good all => ?_
        · rcases List.mem_append.mp mem with old | new
          · exact kept₂ j old
          · obtain rfl := List.mem_singleton.mp new
            exact ⟨List.mem_cons_self, own⟩
        · refine after held' db' found' (fun r mem => sub r (grows r mem))
            (change.trans (later.of_subset grows)) good fun j listed stays => all j ?_ ?_
          · rcases listed with old | new
            · exact Or.inl (List.mem_append_left _ old)
            · rcases List.mem_cons.mp new with rfl | new
              · exact Or.inl (List.mem_append_right _ (List.mem_singleton_self _))
              · exact Or.inr new
          · exact fun db'' more => stays db'' (change.trans (more.of_subset grows))
      · rw [if_neg still_]
        refine ih found kept₂ fun held' db' found' sub later good all => ?_
        refine after held' db' found' (fun r mem => sub r (grows r mem))
          (change.trans (later.of_subset grows)) good fun j listed stays => ?_
        have free : j ≠ id := by
          rintro rfl
          obtain ⟨p, found_, wants⟩ := stays db₂ change
          exact still_ ((Option.any_eq_true _ _).mpr ⟨p, found_, wants⟩)
        refine all j (listed.imp_right fun mem => ?_) fun db'' more =>
          stays db'' (change.trans (more.of_subset grows))
        exact (List.mem_cons.mp mem).resolve_left free

theorem sure_selectMatching
    (after : ∀ held' db' found, (∀ r ∈ held, r ∈ held') → LeavesAlone still held db db' →
      (∀ id ∈ found, .product id ∈ held' ∧ Matching wanted db' id) →
      (∀ id, (∀ db'', LeavesAlone still held db db'' → Matching wanted db'' id) → id ∈ found) →
      Sure still call began held' db' (next found)) :
    Sure still call began held db (selectMatching wanted next) := by
  intro db₁ _ first
  refine sure_lockMatching (matching wanted db₁) [] (fun id mem => by cases mem)
    fun held' db' found sub later good all => ?_
  refine after held' db' found sub (first.trans later) good fun id stays => all id (Or.inr ?_) ?_
  · exact mem_matching.mpr (stays db₁ first)
  · exact fun db'' more => stays db'' (first.trans more)

theorem sure_setFeature (productId : Nat) (db : Db) :
    Sure still (.setFeature productId) db [] db (setFeatureScript productId) := by
  intro db₀ _ start
  change Sure still (.setFeature productId) db [] db₀
    (match (db₀.legoProducts.get? productId).bind LegoProduct.categoryId with
    | none => _
    | some categoryId => _)
  cases read : (db₀.legoProducts.get? productId).bind LegoProduct.categoryId with
  | none => exact fun _ _ _ s => start.no_category s read
  | some categoryId =>
      obtain ⟨p₀, found₀, own₀⟩ := Option.bind_eq_some_iff.mp read
      intro db₁ _ first
      refine sure_selectMatching fun held' db₂ products sub _ good listed => ?_
      split
      · rename_i selected
        obtain ⟨own, p, found, inCategory⟩ := good productId selected
        have category : .category categoryId ∈ held' := sub _ List.mem_cons_self
        refine sure_selectMatching fun held'' db₃ cleared sub' change matched all => ?_
        intro db₄ _ locked db₅ _ last
        have rest : LeavesAlone still held'' db₃ db₅ :=
          locked.trans (last.of_subset fun r mem => List.mem_cons_of_mem _ mem)
        have whole : LeavesAlone still held' db₂ db₅ := change.trans (rest.of_subset sub')
        refine ⟨rfl, List.mem_cons_self, ⟨p, whole.rows productId p own found, ?_⟩, fun id mem => ?_,
          fun s => ⟨List.mem_cons_of_mem _ (sub' _ category), fun id featured => ?_⟩⟩
        · exact of_decide_eq_true inCategory
        · obtain ⟨lock, matches_⟩ := matched id mem
          exact ⟨List.mem_cons_of_mem _ lock, rest.matching lock matches_⟩
        · refine all id fun db'' more => ?_
          have before := (whole.features s categoryId category id).mp featured
          exact (more.features s categoryId category id).mpr before
      · -- the product is still in the category that was locked
        rename_i missed
        refine fun _ _ _ s => absurd (listed productId fun db'' more => ?_) missed
        obtain ⟨p₁, found₁, same₁⟩ := first.categories s productId p₀ found₀
        obtain ⟨p, found, same⟩ := more.categories s productId p₁ found₁
        exact ⟨p, found, decide_eq_true (same.trans (same₁.trans own₀))⟩

theorem sure_createProduct (input : ProductInput) (db : Db) :
    Sure still (.createProduct input) db [] db (createProductScript input) := by
  intro db₀ _ start
  dsimp only
  split
  · rename_i missing
    refine fun _ _ _ _ => ?_
    rw [start.categoryTable] at missing
    exact Option.isNone_iff_eq_none.mp missing
  · intro db₁ _ _ db₂ _ _ db₃ _ last
    refine ⟨⟨_, rfl⟩, input.categoryId, rfl, fun s => ⟨List.mem_cons_self, ?_⟩⟩
    have same := fun id => last.features s input.categoryId List.mem_cons_self id
    change (!hasCategoryFeatureProduct input.categoryId db₂.legoProducts) = true ↔ _
    rw [Bool.not_eq_true', hasCategoryFeatureProduct_eq_false]
    exact forall_congr' fun id => not_congr (same id).symm

theorem sure_featureFirst (productId : Nat) (db : Db) :
    Sure still (.featureFirst productId) db [] db (featureFirstScript productId) := by
  intro db₀ _ start
  dsimp only
  cases read : (db₀.legoProducts.get? productId).bind LegoProduct.categoryId with
  | none => exact fun _ _ _ s => Or.inl (start.no_category s read)
  | some categoryId =>
      obtain ⟨p, found, inCategory⟩ := Option.bind_eq_some_iff.mp read
      intro db₁ _ first db₂ _ second
      dsimp only
      split
      · rename_i has
        intro db₃ _ third s
        have featured : ∃ id, FeaturedIn db₂.legoProducts categoryId id := by
          by_contra none_
          have free := hasCategoryFeatureProduct_eq_false.mpr (not_exists.mp none_)
          rw [free] at has
          cases has
        obtain ⟨id, featured⟩ := featured
        have change : LeavesAlone still [] db₀ db₃ :=
          first.trans ((second.trans third).of_subset fun r mem => by cases mem)
        obtain ⟨p', found', same⟩ := change.categories s productId p found
        refine Or.inr ⟨categoryId, id, ?_, ?_⟩
        · exact Option.bind_eq_some_iff.mpr ⟨p', found', same.trans inCategory⟩
        · exact (third.features s categoryId List.mem_cons_self id).mpr featured
      · rename_i free
        intro db₃ _ third db₄ _ fourth
        refine ⟨rfl, List.mem_cons_self, fun s => ?_⟩
        have later : LeavesAlone still [.category categoryId] db₂ db₄ :=
          third.trans (fourth.of_subset fun r mem => List.mem_cons_of_mem _ mem)
        have change : LeavesAlone still [] db₀ db₄ :=
          first.trans ((second.trans later).of_subset fun r mem => by cases mem)
        obtain ⟨p', found', same⟩ := change.categories s productId p found
        refine ⟨categoryId, p', List.mem_cons_of_mem _ List.mem_cons_self, found',
          same.trans inCategory, fun id featured => ?_⟩
        rw [Bool.not_eq_true, hasCategoryFeatureProduct_eq_false] at free
        exact free id ((later.features s categoryId List.mem_cons_self id).mp featured)

theorem sure_updateProduct (productId : Nat) (fields : ProductMetadataUpdate)
    (keeps : still → fields.categoryId = none) (db : Db) :
    Sure still (.updateProduct productId fields) db [] db
      (updateProductScript productId fields) := by
  intro db₀ _ start
  dsimp only
  split
  · rename_i missing
    exact fun _ _ _ _ => Or.inl (start.stays productId (Option.isNone_iff_eq_none.mp missing))
  · intro db₁ _ first
    dsimp only
    split
    · rename_i missing
      refine fun _ _ _ _ => Or.inr ?_
      obtain ⟨id, named, absent⟩ := (Option.any_eq_true ..).mp missing
      rw [first.categoryTable, start.categoryTable] at absent
      exact ⟨id, named, Option.isNone_iff_eq_none.mp absent⟩
    · intro db₂ _ _ db₃ _ _
      exact ⟨⟨rfl, rfl⟩, List.mem_cons_self, keeps⟩

variable (still) in
theorem featureCalls_guarantees : featureCalls.Guarantees
    (fun call => still → call.KeepsCategories) ProductsValid (LeavesAlone still)
    (FeatureEnds still) where
  refl := LeavesAlone.refl
  trans := fun _ _ _ _ => LeavesAlone.trans
  script := by
    intro call db keeps _
    cases call with
    | setFeature productId => exact sure_setFeature productId db
    | createProduct input => exact sure_createProduct input db
    | featureFirst productId => exact sure_featureFirst productId db
    | updateProduct productId fields => exact sure_updateProduct productId fields keeps db
  commit := fun _ _ _ _ write valid _ => writeProducts_valid valid write
  others := fun _ _ _ _ _ _ _ ends disjoint => writeProducts_leavesAlone ends.2 disjoint

end Learning

/-! ### What commits come to -/

section Outcomes

variable {db : Db} {held : List FeatureLock} {productId categoryId : Nat} {cleared : List Nat}
  {products : Table LegoProduct}

/-- The product is the only one of the category that is featured. -/
def OnlyFeature (products : Table LegoProduct) (categoryId productId : Nat) : Prop :=
  ∀ id, FeaturedIn products categoryId id ↔ id = productId

theorem featured_unique {t : Table LegoProduct} (valid : productConstraints.Holds t) {i j : Nat}
    (hi : FeaturedIn t categoryId i) (hj : FeaturedIn t categoryId j) : i = j := by
  obtain ⟨a, ha, featuredA⟩ := hi
  obtain ⟨b, hb, featuredB⟩ := hj
  obtain ⟨inA, flagA⟩ := featuredIn_iff.mp featuredA
  obtain ⟨inB, flagB⟩ := featuredIn_iff.mp featuredB
  refine valid.unique i j a b ha hb ?_
  simp [productConstraints, LegoProduct.featureClash, flagA, flagB, inA, inB]

/-- A selection that commits leaves its product as the only feature of the category
and every row outside the category as it was. -/
theorem select_outcome {still : Prop} (valid : ProductsValid db)
    (learnt : Learnt still held db (.select productId categoryId cleared))
    (done : (FeatureWrite.select productId categoryId cleared).commit db.legoProducts =
      .ok products) :
    OnlyFeature products categoryId productId ∧
      ∀ id p, db.legoProducts.get? id = some p → p.categoryId ≠ some categoryId →
        products.get? id = some p := by
  obtain ⟨-, ⟨p, found, inCategory⟩, matched, -⟩ := learnt
  obtain ⟨⟨q, there, after⟩, others⟩ := get?_commit_select done
  obtain rfl := Option.some.inj (there.symm.trans found)
  have own : FeaturedIn products categoryId productId :=
    ⟨q.feature, after, featuredIn_iff.mpr ⟨inCategory, rfl⟩⟩
  refine ⟨fun id => ⟨fun featured => ?_, fun same => same ▸ own⟩, fun id r hr outside => ?_⟩
  · exact featured_unique (Constraints.Holds.transact valid done) featured own
  · have other : id ≠ productId := by
      rintro rfl
      obtain rfl := Option.some.inj (there.symm.trans hr)
      exact outside inCategory
    have kept : id ∉ cleared := fun mem => by
      obtain ⟨-, r', hr', featured⟩ := matched id mem
      obtain rfl := Option.some.inj (hr.symm.trans hr')
      exact outside (featuredIn_iff.mp featured).1
    rw [others id other, hr, Option.map_some, if_neg kept]

theorem execute_updates_ok {t : Table LegoProduct} (set : LegoProduct → LegoProduct)
    {ids : List Nat} (there : ∀ id ∈ ids, (t.get? id).isSome) :
    ∃ t', execute (ids.map (rowUpdate set)) t = .ok t' := by
  induction ids generalizing t with
  | nil => exact ⟨t, rfl⟩
  | cons first ids ih =>
      obtain ⟨p, found⟩ := Option.isSome_iff_exists.mp (there first List.mem_cons_self)
      obtain ⟨t', rest⟩ := ih (t := t.update first set) fun id mem => by
        have before := there id (List.mem_cons_of_mem _ mem)
        rw [Table.get?_update]
        split <;> simpa using before
      exact ⟨t', execute_cons.mpr ⟨_, execute_update.mpr ⟨p, found, rfl, rfl⟩, rest⟩⟩

/-- A row that loses its feature passes every constraint that it passed. -/
theorem fits_unfeature (t : Table LegoProduct) (id : Nat) :
    productConstraints.Fits (rowUpdate .unfeature id) t := by
  intro p _ _
  refine ⟨rfl, rfl, rfl, fun q clash => ?_⟩
  simp only [productConstraints, LegoProduct.featureClash, LegoProduct.unfeature, Bool.false_and,
    Bool.or_false] at clash
  exact Bool.or_eq_true_iff.mpr (Or.inl clash)

/-- A row becomes the feature of its category when no other one is. -/
theorem enforce_feature {t : Table LegoProduct} (valid : productConstraints.Holds t)
    {p : LegoProduct} (found : t.get? productId = some p) (inCategory : p.categoryId = some categoryId)
    (free : ∀ id, FeaturedIn t categoryId id → id = productId) :
    productConstraints.enforce t (rowUpdate .feature productId) =
      .ok (t.update productId .feature) := by
  refine Constraints.enforce_eq_ok.mpr ⟨execute_update.mpr ⟨p, found, rfl, rfl⟩, ?_⟩
  have single : t.clashes productConstraints.clash productId p.feature = false := by
    refine Table.clashes_eq_false.mpr fun j q hq clash => ?_
    rcases Bool.or_eq_true_iff.mp clash with name | feature
    · exact (valid.unique productId j p q found hq (Bool.or_eq_true_iff.mpr (Or.inl name))).symm
    · simp only [LegoProduct.featureClash, Bool.and_eq_true, decide_eq_true_eq] at feature
      obtain ⟨⟨⟨-, flag⟩, -⟩, same⟩ := feature
      exact free j ⟨q, hq, featuredIn_iff.mpr ⟨same.symm.trans inCategory, flag⟩⟩
  have checked : productConstraints.check p.feature = true := by
    simp [productConstraints, LegoProduct.feature, inCategory]
  rw [rowUpdate, Constraints.admits, found]
  change (true && productConstraints.check p.feature &&
    !t.clashes productConstraints.clash productId p.feature) = true
  rw [checked, single]
  rfl

/-- While no product changes its category, a selection commits. -/
theorem select_accepted (valid : ProductsValid db)
    (learnt : Learnt True held db (.select productId categoryId cleared)) :
    ∃ products, (FeatureWrite.select productId categoryId cleared).commit db.legoProducts =
      .ok products := by
  obtain ⟨-, ⟨p, found, inCategory⟩, matched, locked⟩ := learnt
  obtain ⟨-, all⟩ := locked trivial
  obtain ⟨t₁, ran⟩ := execute_updates_ok LegoProduct.unfeature fun id mem => by
    obtain ⟨-, q, hq, -⟩ := matched id mem
    exact Option.isSome_of_eq_some hq
  have rows : ∀ id, t₁.get? id = (db.legoProducts.get? id).map fun p =>
      if id ∈ cleared then p.unfeature else p :=
    get?_execute_updates (fun p => (rfl : p.unfeature.unfeature = p.unfeature)) ran
  have fits : productConstraints.FitsAll (cleared.map (rowUpdate .unfeature)) db.legoProducts :=
    Constraints.FitsAll.of_forall (J := fun _ => True)
      (fun statement mem t _ _ => by
        obtain ⟨id, -, rfl⟩ := List.mem_map.mp mem
        exact fits_unfeature t id)
      (fun _ _ _ _ _ _ => trivial) trivial valid
  have clears := (Constraints.transact_eq valid fits).trans ran
  have valid₁ := Constraints.Holds.transact valid clears
  have found₁ : ∃ q, t₁.get? productId = some q ∧ q.categoryId = some categoryId := by
    refine ⟨_, (rows productId).trans (congrArg _ found), ?_⟩
    dsimp only
    split
    · exact inCategory
    · exact inCategory
  obtain ⟨q, found₁, inCategory₁⟩ := found₁
  have free : ∀ id, FeaturedIn t₁ categoryId id → id = productId := by
    rintro id ⟨r, hr, featured⟩
    rw [rows] at hr
    obtain ⟨r₀, hr₀, rfl⟩ := Option.map_eq_some_iff.mp hr
    by_cases mem : id ∈ cleared
    · rw [if_pos mem] at featured
      cases (featuredIn_iff.mp featured).2
    · rw [if_neg mem] at featured
      exact absurd (all id ⟨r₀, hr₀, featured⟩) mem
  refine ⟨t₁.update productId .feature, Constraints.transact_eq_ok.mpr ⟨?_, fun _ _ => rfl⟩⟩
  rw [FeatureWrite.statements, List.foldlM_append]
  refine bind_eq_ok.mpr ⟨t₁, (Constraints.transact_eq_ok.mp clears).1, ?_⟩
  rw [List.foldlM_cons]
  exact bind_eq_ok.mpr ⟨_, enforce_feature valid₁ found₁ inCategory₁ free, rfl⟩

/-- So does the feature of a category that has none. -/
theorem feature_accepted (valid : ProductsValid db)
    (learnt : Learnt True held db (.feature productId)) :
    ∃ products categoryId, (FeatureWrite.feature productId).commit db.legoProducts = .ok products ∧
      OnlyFeature products categoryId productId := by
  obtain ⟨-, locked⟩ := learnt
  obtain ⟨categoryId, p, -, found, inCategory, free⟩ := locked trivial
  have step := enforce_feature valid found inCategory fun id featured => absurd featured (free id)
  have done : (FeatureWrite.feature productId).commit db.legoProducts =
      .ok (db.legoProducts.update productId .feature) := by
    refine Constraints.transact_eq_ok.mpr ⟨?_, fun _ _ => rfl⟩
    rw [FeatureWrite.statements, List.foldlM_cons]
    exact bind_eq_ok.mpr ⟨_, step, rfl⟩
  have own : FeaturedIn (db.legoProducts.update productId .feature) categoryId productId :=
    ⟨p.feature, by simp [found], featuredIn_iff.mpr ⟨inCategory, rfl⟩⟩
  exact ⟨_, categoryId, done, fun id => ⟨fun featured =>
    featured_unique (Constraints.Holds.transact valid done) featured own, fun same => same ▸ own⟩⟩

/-- A new product commits unless its set number is taken, and its category has a
feature then. -/
theorem create_accepted (valid : ProductsValid db) {product : LegoProduct}
    (learnt : Learnt True held db (.create product)) :
    ((∃ products, (FeatureWrite.create product).commit db.legoProducts = .ok products) ↔
      ∀ id p, db.legoProducts.get? id = some p → p.setNumber ≠ product.setNumber) ∧
    ∀ products, (FeatureWrite.create product).commit db.legoProducts = .ok products →
      ∃ categoryId id, product.categoryId = some categoryId ∧ OnlyFeature products categoryId id := by
  obtain ⟨categoryId, inCategory, locked⟩ := learnt
  obtain ⟨-, first⟩ := locked trivial
  refine ⟨⟨?_, fun fresh => ?_⟩, fun products done => ?_⟩
  · rintro ⟨products, done⟩ id p found same
    have valid' := Constraints.Holds.transact valid done
    obtain rfl := commit_create done
    have new : (db.legoProducts.insert product).get? db.legoProducts.nextId = some product := by
      rw [Table.get?_insert, if_pos rfl]
    have clash : productConstraints.clash p product = true :=
      Bool.or_eq_true_iff.mpr (Or.inl (decide_eq_true same))
    have key := valid'.unique id _ p product (Table.get?_insert_of_some found) new clash
    exact absurd (Table.lt_nextId found) (key ▸ lt_irrefl _)
  · have fits : productConstraints.Fits (.insert product) db.legoProducts := by
      refine ⟨rfl, ?_, rfl, fun id p found => ?_⟩
      · simp [productConstraints, inCategory]
      · refine Bool.or_eq_false_iff.mpr ⟨decide_eq_false fun same => fresh id p found same.symm, ?_⟩
        rw [Bool.eq_false_iff]
        intro clash
        simp only [LegoProduct.featureClash, Bool.and_eq_true, decide_eq_true_eq] at clash
        obtain ⟨⟨⟨flag, flag'⟩, -⟩, same⟩ := clash
        exact first.mp flag id ⟨p, found, featuredIn_iff.mpr ⟨same.symm.trans inCategory, flag'⟩⟩
    exact ⟨_, (Constraints.transact_eq valid (.single fits)).trans rfl⟩
  · have valid' := Constraints.Holds.transact valid done
    obtain rfl := commit_create done
    have some_ : ∃ id, FeaturedIn (db.legoProducts.insert product) categoryId id := by
      by_cases flag : product.isFeatureProduct = true
      · exact ⟨db.legoProducts.nextId, product, by rw [Table.get?_insert, if_pos rfl],
          featuredIn_iff.mpr ⟨inCategory, flag⟩⟩
      · have had : ¬ ∀ id, ¬ FeaturedIn db.legoProducts categoryId id := fun none_ =>
          flag (first.mpr none_)
        obtain ⟨id, p, found, featured⟩ := not_forall_not.mp had
        exact ⟨id, p, Table.get?_insert_of_some found, featured⟩
    obtain ⟨id, own⟩ := some_
    exact ⟨categoryId, id, inCategory, fun j => ⟨fun featured =>
      featured_unique valid' featured own, fun same => same ▸ own⟩⟩

end Outcomes

/-! ### Runs -/

section Runs

variable {s : LockState FeatureCall FeatureLock Db FeatureWrite} {categoryId k : Nat}
  {t : LockTx FeatureCall FeatureLock Db FeatureWrite} {still : Prop}

/-- What every running transaction is sure of. -/
abbrev FeaturesSound (still : Prop) : LockState FeatureCall FeatureLock Db FeatureWrite → Prop :=
  Sound ProductsValid (LockTx.EndsIn ProductsValid (LeavesAlone still) (FeatureEnds still))

theorem FeaturesSound.step (h : FeaturesSound still s) {move : LockMove FeatureCall}
    (starts : ∀ call, move = .start call → still → call.KeepsCategories) :
    FeaturesSound still (lockStep featureCalls s move) :=
  Sound.step h (featureCalls_guarantees still).keeps starts

/-- A transaction at its commit writes what it was asked for and has learnt what it
writes by. -/
theorem FeaturesSound.learnt (h : FeaturesSound still s) (running : s.txs.get? k = some t)
    {write : FeatureWrite} (commits : t.script = .commit write) :
    t.call.Asks write ∧ Learnt still t.held s.data write :=
  (featureCalls_guarantees still).committed (h.scripts k t running) h.data commits

theorem FeaturesSound.setFeature (h : FeaturesSound True s) (running : s.txs.get? k = some t)
    {productId : Nat} (asked : t.call = .setFeature productId) {write : FeatureWrite}
    (commits : t.script = .commit write) : ∃ categoryId cleared products,
      write = .select productId categoryId cleared ∧
      write.commit s.data.legoProducts = .ok products ∧
      OnlyFeature products categoryId productId := by
  obtain ⟨asks, learnt⟩ := h.learnt running commits
  rw [asked] at asks
  cases write with
  | select selected categoryId cleared =>
      obtain rfl : selected = productId := asks
      obtain ⟨products, done⟩ := select_accepted h.data learnt
      exact ⟨categoryId, cleared, products, rfl, done, (select_outcome h.data learnt done).1⟩
  | create product => exact asks.elim
  | feature featured => exact asks.elim
  | update updated fields => exact asks.elim

theorem FeaturesSound.featureFirst (h : FeaturesSound True s) (running : s.txs.get? k = some t)
    {productId : Nat} (asked : t.call = .featureFirst productId) {write : FeatureWrite}
    (commits : t.script = .commit write) : ∃ categoryId products, write = .feature productId ∧
      write.commit s.data.legoProducts = .ok products ∧
      OnlyFeature products categoryId productId := by
  obtain ⟨asks, learnt⟩ := h.learnt running commits
  rw [asked] at asks
  cases write with
  | feature featured =>
      obtain rfl : featured = productId := asks
      obtain ⟨products, categoryId, done, only⟩ := feature_accepted h.data learnt
      exact ⟨categoryId, products, rfl, done, only⟩
  | select selected categoryId cleared => exact asks.elim
  | create product => exact asks.elim
  | update updated fields => exact asks.elim

theorem FeaturesSound.createProduct (h : FeaturesSound True s) (running : s.txs.get? k = some t)
    {input : ProductInput} (asked : t.call = .createProduct input) {write : FeatureWrite}
    (commits : t.script = .commit write) : ∃ featured, write = .create (newProduct input featured) ∧
      ((∃ products, write.commit s.data.legoProducts = .ok products) ↔
        ∀ id p, s.data.legoProducts.get? id = some p → p.setNumber ≠ input.setNumber) ∧
      ∀ products, write.commit s.data.legoProducts = .ok products →
        ∃ id, OnlyFeature products input.categoryId id := by
  obtain ⟨asks, learnt⟩ := h.learnt running commits
  rw [asked] at asks
  cases write with
  | create product =>
      obtain ⟨featured, rfl⟩ := asks
      obtain ⟨accepted, only⟩ := create_accepted h.data learnt
      refine ⟨featured, rfl, accepted, fun products done => ?_⟩
      obtain ⟨categoryId, id, own, feature⟩ := only products done
      obtain rfl : input.categoryId = categoryId := Option.some.inj own
      exact ⟨id, feature⟩
  | select selected categoryId cleared => exact asks.elim
  | feature featured => exact asks.elim
  | update updated fields => exact asks.elim

end Runs

end ColorfulLife
