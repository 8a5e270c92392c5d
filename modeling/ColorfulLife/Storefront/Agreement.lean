/-
The storefront's endpoints agree on what can be bought.

`Db.HasOffer` is the rule in one place. The query predicate and the function on
loaded rows both decide it, so a page lists exactly the products with an offer,
paging neither loses nor repeats one, and the count of the catalogue, the
product endpoint and the availability summary see the same set.
-/

import ColorfulLife.Storefront.Catalogue
import Mathlib.Data.List.Infix

namespace ColorfulLife

open Relational

variable {lower : String → String} {shop : Shopfront} {db : Db} {query : ProductCatalogueQuery}
  {bounds : PriceBounds} {pl : ProductListing} {lp : LegoProduct} {id : Nat}

/-! ### One rule -/

/-- Some listing of the product passes the rule. -/
def Db.HasOffer (db : Db) (bounds : PriceBounds) (id : Nat) : Prop :=
  ∃ listingId listing, db.listings.get? listingId = some listing ∧
    listing.legoProductId = id ∧ offerMatchesQuery listing bounds

/-- What a buyer asks of a product's texts and category. -/
structure ProductCatalogueQuery.Admits (lower : String → String) (query : ProductCatalogueQuery)
    (lp : LegoProduct) : Prop where
  q : ∀ q, given query.q = some q →
    (lower q).toList <:+: (lower lp.setNumber).toList ∨ (lower q).toList <:+: (lower lp.title).toList
  theme : ∀ theme, given query.theme = some theme → lower lp.theme = lower theme
  category : ∀ categoryId, query.categoryId = some categoryId → lp.categoryId = some categoryId

theorem pricePredicates_holds : (∀ a ∈ pl.pricePredicates bounds, a.holds) ↔
    (∀ bound, bounds.minPrice = some bound → bound ≤ priceOf pl.effectivePrice) ∧
      (∀ bound, bounds.maxPrice = some bound → priceOf pl.effectivePrice ≤ bound) := by
  rw [ProductListing.pricePredicates, List.forall_mem_append]
  refine and_congr ?_ ?_
  · cases bounds.minPrice <;> simp
  · cases bounds.maxPrice <;> simp

/-- The function on a loaded row, as conditions. -/
theorem offerMatchesQuery_iff : offerMatchesQuery pl bounds ↔
    pl.active ∧ pl.reservedStock < pl.currentStock ∧
      (pl.condition = .new ∨ pl.condition = .usedLikeNew ∧ pl.usedLifecycle = some .available) ∧
      (∀ bound, bounds.minPrice = some bound → bound ≤ priceOf pl.effectivePrice) ∧
      (∀ bound, bounds.maxPrice = some bound → priceOf pl.effectivePrice ≤ bound) := by
  rw [offerMatchesQuery]
  split
  · rename_i refused
    rw [Bool.or_eq_true, Bool.not_eq_true', decide_eq_true_eq] at refused
    constructor
    · intro absurd
      cases absurd
    · rintro ⟨active, stock, -⟩
      rcases refused with inactive | soldOut
      · simp [inactive] at active
      · omega
  · rename_i passed
    rw [Bool.or_eq_true, Bool.not_eq_true', decide_eq_true_eq, not_or, Bool.not_eq_false,
      not_le] at passed
    split
    · rename_i refused
      constructor
      · intro absurd
        cases absurd
      · rintro ⟨-, -, condition, -⟩
        rcases condition with new | ⟨used, available⟩
        · simp [new] at refused
        · simp [used, available] at refused
    · rename_i condition
      have sold : pl.condition = .new ∨
          pl.condition = .usedLikeNew ∧ pl.usedLifecycle = some .available := by
        by_contra other
        rw [not_or] at other
        exact condition (by simp_all)
      rw [Bool.and_eq_true, Option.all_eq_true, Option.all_eq_true]
      simp only [passed.1, passed.2, sold, true_and, decide_eq_true_eq, ge_iff_le]

/-- The query's condition on a listing is the function on the loaded row. -/
theorem sellable_holds_iff :
    (pl.sellable bounds (some id)).holds ↔ pl.legoProductId = id ∧ offerMatchesQuery pl bounds := by
  rw [ProductListing.sellable, Truth.holds_all, List.forall_mem_append, pricePredicates_holds,
    offerMatchesQuery_iff]
  simp only [List.forall_mem_cons, List.not_mem_nil, false_imp_iff, implies_true, and_true,
    Truth.holds_some, Truth.holds_or, Truth.holds_and, Truth.holds_compare, Bool.or_eq_true,
    Bool.and_eq_true, decide_eq_true_eq, beq_iff_eq, Option.some.injEq]
  constructor
  · rintro ⟨⟨⟨_, _, rfl, rfl, rfl⟩, active, stock, condition⟩, prices⟩
    refine ⟨rfl, active, stock, condition.imp_right ?_, prices⟩
    rintro ⟨used, lifecycle, _, stored, rfl, rfl⟩
    exact ⟨used, stored⟩
  · rintro ⟨rfl, active, stock, condition, prices⟩
    refine ⟨⟨⟨_, _, rfl, rfl, rfl⟩, active, stock, condition.imp_right ?_⟩, prices⟩
    rintro ⟨used, stored⟩
    exact ⟨used, _, _, stored, rfl, rfl⟩

theorem exists_holds_iff :
    (storefrontSellableListingExistsPredicate db bounds (some id)).holds ↔
      db.HasOffer bounds id := by
  rw [storefrontSellableListingExistsPredicate, Table.holds_exists]
  simp only [sellable_holds_iff, Db.HasOffer]

theorem strpos_pos {text part : String} : strpos text part > 0 ↔ part.toList <:+: text.toList := by
  rw [List.infix_iff_prefix_suffix, strpos]
  split
  · rename_i i found
    obtain ⟨valid, hit, -⟩ := List.findIdx?_eq_some_iff_getElem.mp found
    refine iff_of_true (Nat.succ_pos i) ⟨text.toList.tails[i], ?_, ?_⟩
    · exact List.isPrefixOf_iff_prefix.mp hit
    · exact (List.mem_tails _ _).mp (List.getElem_mem valid)
  · rename_i missing
    refine iff_of_false (lt_irrefl 0) ?_
    rintro ⟨rest, starts, suffix⟩
    have none := List.findIdx?_eq_none_iff.mp missing rest ((List.mem_tails _ _).mpr suffix)
    rw [List.isPrefixOf_iff_prefix.mpr starts] at none
    cases none

theorem filterPredicates_holds :
    (∀ a ∈ filterPredicates lower query lp, a.holds) ↔ query.Admits lower lp := by
  rw [filterPredicates, List.forall_mem_append, List.forall_mem_append]
  have text : (∀ a ∈ ((given query.q).map fun q => Truth.or
      (some (decide (strpos (lower lp.setNumber) (lower q) > 0)))
      (some (decide (strpos (lower lp.title) (lower q) > 0)))).toList, a.holds) ↔
      ∀ q, given query.q = some q → (lower q).toList <:+: (lower lp.setNumber).toList ∨
        (lower q).toList <:+: (lower lp.title).toList := by
    cases given query.q with
    | none => simp
    | some q => simp [strpos_pos]
  have theme : (∀ a ∈ ((given query.theme).map fun theme =>
      some (lower lp.theme == lower theme)).toList, Truth.holds a) ↔
      ∀ theme, given query.theme = some theme → lower lp.theme = lower theme := by
    cases given query.theme with
    | none => simp
    | some theme => simp
  have category : (∀ a ∈ (query.categoryId.map fun categoryId =>
      Truth.compare (· == ·) lp.categoryId (some categoryId)).toList, a.holds) ↔
      ∀ categoryId, query.categoryId = some categoryId → lp.categoryId = some categoryId := by
    cases query.categoryId with
    | none => simp
    | some categoryId => simp [Truth.holds_compare]
  rw [text, theme, category]
  constructor
  · rintro ⟨⟨q, theme⟩, category⟩
    exact ⟨q, theme, category⟩
  · rintro ⟨q, theme, category⟩
    exact ⟨⟨q, theme⟩, category⟩

theorem eligibleProductPredicate_holds :
    (eligibleProductPredicate lower db query id lp).holds ↔
      query.Admits lower lp ∧ db.HasOffer query.toPriceBounds id := by
  rw [eligibleProductPredicate, Truth.holds_all, List.forall_mem_append, filterPredicates_holds,
    List.forall_mem_singleton, exists_holds_iff]

/-! ### Presented products -/

/-- Both endpoints show the listings that pass the rule. -/
theorem offers_ne_nil_iff {query : Option PriceBounds} :
    (presentProduct shop query id lp).offers ≠ [] ↔ shop.db.HasOffer (query.getD .none) id := by
  rw [presentProduct, ne_eq, List.map_eq_nil_iff, List.filter_eq_nil_iff]
  simp only [not_forall, Db.HasOffer, Db.productListings, Prod.exists, Table.mem_selectBy,
    beq_iff_eq, exists_prop, not_not]
  constructor
  · rintro ⟨listingId, listing, ⟨stored, owned⟩, passes⟩
    exact ⟨listingId, listing, stored, owned, passes⟩
  · rintro ⟨listingId, listing, stored, owned, passes⟩
    exact ⟨listingId, listing, ⟨stored, owned⟩, passes⟩

theorem getCatalogueProductById_isSome : (getCatalogueProductById shop id).isSome ↔
    (shop.db.legoProducts.get? id).isSome ∧ shop.db.HasOffer .none id := by
  rw [getCatalogueProductById]
  cases shop.db.legoProducts.get? id with
  | none => simp
  | some lp =>
      have shown : (presentProduct shop none id lp).offers ≠ [] ↔ shop.db.HasOffer .none id :=
        offers_ne_nil_iff
      rw [← List.length_pos_iff] at shown
      by_cases offers : 0 < (presentProduct shop none id lp).offers.length
      · simpa [offers] using shown.mp offers
      · simpa [offers] using fun has => offers (shown.mpr has)

/-! ### Pages -/

/-- The product is on the page that the query asks for. -/
def Shopfront.Lists (shop : Shopfront) (lower : String → String) (query : ProductCatalogueQuery)
    (id : Nat) : Prop :=
  id ∈ (listCatalogueProducts lower shop query).items.map (·.id)

/-- The products that a query can list on some page. -/
def Shopfront.Matches (shop : Shopfront) (lower : String → String) (query : ProductCatalogueQuery)
    (id : Nat) : Prop :=
  ∃ lp, shop.db.legoProducts.get? id = some lp ∧ query.Admits lower lp ∧
    shop.db.HasOffer query.toPriceBounds id

theorem matching_rows : id ∈ (shop.db.legoProducts.selectBy
      (fun id lp => (eligibleProductPredicate lower shop.db query id lp).holds)
      shop.newestFirst).map Prod.fst ↔ shop.Matches lower query id := by
  rw [Table.mem_keys_selectBy]
  simp only [eligibleProductPredicate_holds, Shopfront.Matches]

theorem matches_of_mem_pageRows (h : id ∈ pageRows lower shop query) :
    shop.Matches lower query id :=
  matching_rows.mp ((pageOf_sublist _ _ _).subset h)

/-- The second read returns the rows of the page. -/
theorem lists_iff : shop.Lists lower query id ↔ id ∈ pageRows lower shop query := by
  have ids : (listCatalogueProducts lower shop query).items.map (·.id) =
      (shop.db.legoProducts.selectBy (fun id _ => decide (id ∈ pageRows lower shop query))
        shop.newestFirst).map Prod.fst := by
    rw [listCatalogueProducts, List.map_map]
    rfl
  rw [Shopfront.Lists, ids, Table.mem_keys_selectBy]
  constructor
  · rintro ⟨lp, -, mem⟩
    exact of_decide_eq_true mem
  · intro mem
    obtain ⟨lp, stored, -⟩ := matches_of_mem_pageRows mem
    exact ⟨lp, stored, decide_eq_true mem⟩

/-- A page shows no product without an offer. -/
theorem offers_of_mem_items {item : CatalogueProduct}
    (h : item ∈ (listCatalogueProducts lower shop query).items) : item.offers ≠ [] := by
  obtain ⟨⟨id, lp⟩, mem, rfl⟩ := List.mem_map.mp h
  have listed : id ∈ pageRows lower shop query := of_decide_eq_true (Table.mem_selectBy.mp mem).2
  obtain ⟨_, -, -, offer⟩ := matches_of_mem_pageRows listed
  exact offers_ne_nil_iff.mpr offer

theorem matches_page {page : ℕ+} :
    shop.Matches lower { query with page := page } id ↔ shop.Matches lower query id := by
  constructor <;> rintro ⟨lp, stored, ⟨q, theme, category⟩, offer⟩ <;>
    exact ⟨lp, stored, ⟨q, theme, category⟩, offer⟩

/-- Over all pages of a snapshot, a product is listed once or never. -/
theorem existsUnique_lists (h : shop.Matches lower query id) :
    ∃! page : ℕ+, shop.Lists lower { query with page := page } id := by
  simp only [lists_iff]
  exact existsUnique_page (Table.nodup_keys_selectBy _ _) query.pageSize (matching_rows.mpr h)

theorem matches_of_lists {page : ℕ+} (h : shop.Lists lower { query with page := page } id) :
    shop.Matches lower query id :=
  matches_page.mp (matches_of_mem_pageRows (lists_iff.mp h))

theorem totalItems_eq : (listCatalogueProducts lower shop query).pagination.totalItems =
    {id | shop.Matches lower query id}.ncard := by
  rw [listCatalogueProducts, Table.length_select]
  simp only [eligibleProductPredicate_holds, Shopfront.Matches]

/-! ### Without filters -/

/-- A query that names only a page. -/
def ProductCatalogueQuery.unfiltered (page pageSize : ℕ+) : ProductCatalogueQuery where
  minPrice := none
  maxPrice := none
  q := none
  theme := none
  categoryId := none
  page := page
  pageSize := pageSize

theorem matches_unfiltered {page pageSize : ℕ+} :
    shop.Matches lower (.unfiltered page pageSize) id ↔
      (getCatalogueProductById shop id).isSome := by
  rw [getCatalogueProductById_isSome, Option.isSome_iff_exists]
  constructor
  · rintro ⟨lp, stored, -, offer⟩
    exact ⟨⟨lp, stored⟩, offer⟩
  · rintro ⟨⟨lp, stored⟩, offer⟩
    exact ⟨lp, stored, ⟨nofun, nofun, nofun⟩, offer⟩

/-- The global summary counts the products with an offer. -/
theorem summarize_active : ∃ summary, summarize db none = some summary ∧
    summary.activeProducts =
      {id | (db.legoProducts.get? id).isSome ∧ db.HasOffer .none id}.ncard := by
  refine ⟨_, rfl, ?_⟩
  have counted : ((db.legoProducts.entries.map Prod.fst).map some).filter (fun lpId =>
      lpId.isSome && (storefrontSellableListingExistsPredicate db .none lpId).holds) =
      ((db.legoProducts.select fun id _ =>
        (storefrontSellableListingExistsPredicate db .none (some id)).holds).map Prod.fst).map
        some := by
    simp only [Table.select, List.filter_map, List.map_map, Function.comp_def, Option.isSome_some,
      Bool.true_and]
  have columns : {id | (db.legoProducts.get? id).isSome ∧ db.HasOffer .none id} =
      {id | ∃ lp, db.legoProducts.get? id = some lp ∧
        (storefrontSellableListingExistsPredicate db .none (some id)).holds} := by
    ext id
    simp only [exists_holds_iff, Option.isSome_iff_exists, Set.mem_ofPred_eq, exists_and_right]
  rw [counted, List.length_map, List.length_map, Table.length_select, columns]

/-- The catalogue pages, the product endpoint and the summary agree. -/
theorem storefront_paths_agree (lower : String → String) (shop : Shopfront)
    (query : ProductCatalogueQuery) :
    (∀ item ∈ (listCatalogueProducts lower shop query).items, item.offers ≠ []) ∧
    (∀ id lp, shop.db.legoProducts.get? id = some lp → query.Admits lower lp →
      ((∃! page : ℕ+, shop.Lists lower { query with page := page } id) ↔
        shop.db.HasOffer query.toPriceBounds id) ∧
      ((∃ page : ℕ+, shop.Lists lower { query with page := page } id) ↔
        shop.db.HasOffer query.toPriceBounds id)) ∧
    (listCatalogueProducts lower shop query).pagination.totalItems =
      {id | ∃ lp, shop.db.legoProducts.get? id = some lp ∧ query.Admits lower lp ∧
        shop.db.HasOffer query.toPriceBounds id}.ncard ∧
    (∀ pageSize : ℕ+,
      {id | ∃ page : ℕ+, shop.Lists lower (.unfiltered page pageSize) id} =
          {id | getCatalogueProductById shop id ≠ none} ∧
        ∃ summary, summarize shop.db none = some summary ∧
          summary.activeProducts = {id | getCatalogueProductById shop id ≠ none}.ncard) := by
  refine ⟨fun item mem => offers_of_mem_items mem, ?_, totalItems_eq, ?_⟩
  · intro id lp stored admits
    have listed : shop.db.HasOffer query.toPriceBounds id →
        ∃! page : ℕ+, shop.Lists lower { query with page := page } id := fun offer =>
      existsUnique_lists ⟨lp, stored, admits, offer⟩
    have offered : (∃ page : ℕ+, shop.Lists lower { query with page := page } id) →
        shop.db.HasOffer query.toPriceBounds id := by
      rintro ⟨page, lists⟩
      obtain ⟨_, -, -, offer⟩ := matches_of_lists lists
      exact offer
    exact ⟨⟨fun unique => offered unique.exists, listed⟩,
      ⟨offered, fun offer => (listed offer).exists⟩⟩
  · intro pageSize
    have shown : {id | getCatalogueProductById shop id ≠ none} =
        {id | (shop.db.legoProducts.get? id).isSome ∧ shop.db.HasOffer .none id} := by
      ext id
      rw [Set.mem_ofPred_eq, Set.mem_ofPred_eq, ← getCatalogueProductById_isSome,
        Option.isSome_iff_ne_none]
    constructor
    · ext id
      have found : shop.Matches lower (.unfiltered 1 pageSize) id ↔
          (getCatalogueProductById shop id).isSome := matches_unfiltered
      rw [Set.mem_ofPred_eq, Set.mem_ofPred_eq, ← Option.isSome_iff_ne_none, ← found]
      constructor
      · rintro ⟨page, lists⟩
        have onPage : shop.Lists lower
            { ProductCatalogueQuery.unfiltered 1 pageSize with page := page } id := lists
        exact matches_of_lists onPage
      · intro matched
        exact (existsUnique_lists matched).exists
    · rw [shown]
      exact summarize_active

end ColorfulLife
