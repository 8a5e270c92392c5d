/-
Stored purchase documents reconcile, and stay what the cost engine makes of
them.

The engine reads a line's quantity, costs and description and nothing else
(`calculatePurchaseCosts_congr`), so a stored document is at any time what a
fresh import of its lines would store (`AsCalculated`): an import and a recalculation
establish this, and every other change keeps it.
-/

import ColorfulLife.Purchases.Goods

namespace ColorfulLife

open Relational Relation

/-! ### What the engine reads -/

/-- Two lines that the engine treats alike. -/
structure SameCosting (i i' : NormalizedPurchaseItem) : Prop where
  quantity : i'.quantity = i.quantity
  unitCost : i'.originalGrossUnitCost = i.originalGrossUnitCost
  lineTotal : i'.originalGrossLineTotal = i.originalGrossLineTotal
  described : trim i.sourceDescription ≠ "" → trim i'.sourceDescription ≠ ""

/-- Headers of one document with the same totals. -/
structure PurchaseHeader.SameTotals (header header' : PurchaseHeader) : Prop where
  importHash : header'.importHash = header.importHash
  sourceOrderReference : header'.sourceOrderReference = header.sourceOrderReference
  merchandise : header'.originalGrossMerchandiseTotal = header.originalGrossMerchandiseTotal
  shipping : header'.shippingTotal = header.shippingTotal
  discount : header'.discountTotal = header.discountTotal
  paid : header'.finalTotalPaid = header.finalTotalPaid

/-- The calculated costs under another line. -/
def CalculatedPurchaseItem.relabel (item : NormalizedPurchaseItem)
    (calculated : CalculatedPurchaseItem) : CalculatedPurchaseItem :=
  { calculated with toNormalizedPurchaseItem := item }

section Engine

variable {doc : NormalizedPurchaseDocument} {calculated : CalculatedPurchaseDocument}
  {items items' : List NormalizedPurchaseItem}

theorem lineTotals_congr (same : List.Forall₂ SameCosting items items') :
    lineTotals items' = lineTotals items := by
  induction same with
  | nil => rfl
  | cons head _ ih => rw [lineTotals, List.map_cons, head.lineTotal, ← lineTotals, ih]; rfl

theorem allocateProportional_congr (same : List.Forall₂ SameCosting items items')
    (total amount : Pence) :
    allocateProportional total amount items' = allocateProportional total amount items := by
  have zeros : (items'.map fun _ => (0 : Pence)) = items.map fun _ => 0 := by
    rw [List.map_const', List.map_const', same.length_eq]
  unfold allocateProportional
  rw [zeros, lineTotals_congr same]

theorem validatePurchaseItem_congr {i i' : NormalizedPurchaseItem} {idx : Nat}
    (same : SameCosting i i') (h : validatePurchaseItem i idx = .ok ()) :
    validatePurchaseItem i' idx = .ok () := by
  simp only [validatePurchaseItem, bind_eq_ok, ensure_eq_ok] at h ⊢
  rw [same.quantity, same.unitCost, same.lineTotal]
  obtain ⟨-, described, rest⟩ := h
  exact ⟨⟨⟩, same.described described, rest⟩

theorem validatePurchaseItems_congr {start : Nat} (same : List.Forall₂ SameCosting items items')
    (h : ∀ e ∈ items.zipIdx start, validatePurchaseItem e.1 e.2 = .ok ()) :
    ∀ e ∈ items'.zipIdx start, validatePurchaseItem e.1 e.2 = .ok () := by
  induction same generalizing start with
  | nil => exact h
  | cons head _ ih =>
      simp only [List.zipIdx_cons, List.forall_mem_cons] at h ⊢
      exact ⟨validatePurchaseItem_congr head h.1, ih h.2⟩

theorem validatePurchaseDocument_congr (same : List.Forall₂ SameCosting doc.items items')
    (h : validatePurchaseDocument doc = .ok ()) :
    validatePurchaseDocument { doc with items := items' } = .ok () := by
  have filled : items' ≠ [] ↔ doc.items ≠ [] := by
    rw [← List.length_pos_iff, ← List.length_pos_iff, same.length_eq]
  simp only [validatePurchaseDocument, bind_eq_ok, ensure_eq_ok, forM_eq_ok,
    lineTotals_congr same, filled] at h ⊢
  obtain ⟨u, hash, u', reference, u'', some_, u''', valid, rest⟩ := h
  exact ⟨u, hash, u', reference, u'', some_, u''', validatePurchaseItems_congr same valid, rest⟩

theorem calculatePurchaseItem_congr {i i' : NormalizedPurchaseItem} {shipping discount : Pence}
    {idx : Nat} {calculated : CalculatedPurchaseItem} (same : SameCosting i i')
    (h : calculatePurchaseItem i shipping discount idx = .ok calculated) :
    calculatePurchaseItem i' shipping discount idx = .ok (calculated.relabel i') := by
  simp only [calculatePurchaseItem, bind_eq_ok, ensure_eq_ok, pure_eq_ok] at h ⊢
  rw [same.quantity, same.lineTotal]
  obtain ⟨u, nonneg, u', safe, rfl⟩ := h
  exact ⟨u, nonneg, u', safe, rfl⟩

theorem calculatedItems_congr {shares : List (Pence × Pence)} {start : Nat}
    {calculated : List CalculatedPurchaseItem} (same : List.Forall₂ SameCosting items items')
    (h : ((items.zip shares).zipIdx start).mapM
      (fun e => calculatePurchaseItem e.1.1 e.1.2.1 e.1.2.2 e.2) = .ok calculated) :
    ((items'.zip shares).zipIdx start).mapM
      (fun e => calculatePurchaseItem e.1.1 e.1.2.1 e.1.2.2 e.2) =
        .ok (List.zipWith CalculatedPurchaseItem.relabel items' calculated) := by
  induction same generalizing shares start calculated with
  | nil =>
      obtain rfl : [] = calculated := pure_eq_ok.mp h
      rfl
  | cons head _ ih =>
      cases shares with
      | nil =>
          obtain rfl : [] = calculated := pure_eq_ok.mp h
          rfl
      | cons share shares =>
          simp only [List.zip_cons_cons, List.zipIdx_cons, List.mapM_cons, bind_eq_ok,
            pure_eq_ok] at h ⊢
          obtain ⟨first, hfirst, rest, hrest, rfl⟩ := h
          exact ⟨_, calculatePurchaseItem_congr head hfirst, _, ih hrest, rfl⟩

/-- Relabelled costs are the costs, if there is a line for each. -/
theorem map_relabel {β : Type} {g : CalculatedPurchaseItem → β}
    (blind : ∀ item c, g (CalculatedPurchaseItem.relabel item c) = g c)
    {calculated : List CalculatedPurchaseItem} (length : items'.length = calculated.length) :
    (List.zipWith CalculatedPurchaseItem.relabel items' calculated).map g = calculated.map g := by
  induction items' generalizing calculated with
  | nil =>
      obtain rfl := List.length_eq_zero_iff.mp length.symm
      rfl
  | cons item items' ih =>
      obtain ⟨c, calculated, rfl⟩ := List.exists_cons_of_length_eq_add_one length.symm
      rw [List.zipWith_cons_cons, List.map_cons, List.map_cons, blind, ih (Nat.succ.inj length)]

/-- The engine does not look at the order's date and merchant and the document's own
reference and date. -/
theorem calculatePurchaseCosts_refile {header : PurchaseHeader}
    (same : doc.toPurchaseHeader.SameTotals header)
    (h : calculatePurchaseCosts doc = .ok calculated) :
    calculatePurchaseCosts { header with items := doc.items } =
      .ok { header with items := calculated.items } := by
  obtain ⟨⟨_, _, _, _, _, _, _, _, _, _⟩, items⟩ := doc
  obtain ⟨rfl, rfl, rfl, rfl, rfl, rfl⟩ := same
  simp only [calculatePurchaseCosts, bind_eq_ok, ensure_eq_ok, pure_eq_ok] at h ⊢
  obtain ⟨u, valid, shipping, hshipping, discount, hdiscount, items, hitems, u', expected, u'',
    total, rfl⟩ := h
  exact ⟨u, valid, shipping, hshipping, discount, hdiscount, items, hitems, u', expected, u'',
    total, rfl⟩

/-- The engine makes the same costs of lines that it treats alike. -/
theorem calculatePurchaseCosts_congr (same : List.Forall₂ SameCosting doc.items items')
    (h : calculatePurchaseCosts doc = .ok calculated) :
    calculatePurchaseCosts { doc with items := items' } = .ok { calculated with
      items := List.zipWith CalculatedPurchaseItem.relabel items' calculated.items } := by
  have length : items'.length = calculated.items.length := by
    rw [← same.length_eq, ← (calculatePurchaseCosts_ok h).2.1, List.length_map]
  have paid := map_relabel (g := CalculatedPurchaseItem.finalLineCost) (fun _ _ => rfl) length
  simp only [calculatePurchaseCosts, bind_eq_ok, ensure_eq_ok, pure_eq_ok] at h ⊢
  obtain ⟨u, valid, shipping, hshipping, discount, hdiscount, items, hitems, u', expected, u'',
    total, rfl⟩ := h
  refine ⟨u, validatePurchaseDocument_congr same valid, shipping, ?_, discount, ?_, _,
    calculatedItems_congr same hitems, u', ?_, u'', ?_, rfl⟩
  · rw [allocateProportional_congr same, hshipping]
  · rw [allocateProportional_congr same, hdiscount]
  · rw [paid, expected]
  · rw [paid, total]

end Engine

/-! ### Stored documents -/

def PurchaseItem.normalized (item : PurchaseItem) : NormalizedPurchaseItem where
  sourceLineNumber := item.sourceLineNumber
  externalProductId := item.externalProductId
  sourceDescription := item.sourceDescription
  sourceSetNumber := item.sourceSetNumber
  productListingId := item.productListingId
  quantity := item.quantity
  originalGrossUnitCost := item.originalGrossUnitCost
  originalGrossLineTotal := item.originalGrossLineTotal

def PurchaseItem.calculated (item : PurchaseItem) : CalculatedPurchaseItem where
  toNormalizedPurchaseItem := item.normalized
  allocatedShipping := item.allocatedShipping
  allocatedDiscount := item.allocatedDiscount
  finalLineCost := item.finalLineCost
  finalUnitCost := item.finalUnitCost

def PurchaseDocument.header (purchase : Purchase) (document : PurchaseDocument) :
    PurchaseHeader where
  importHash := document.importHash
  sourceOrderReference := purchase.sourceOrderReference
  sourceOrderDate := purchase.sourceOrderDate.map some
  merchantName := purchase.merchantName
  sourceInvoiceReference := document.sourceInvoiceReference
  sourceDocumentDate := document.sourceDocumentDate.map some
  originalGrossMerchandiseTotal := document.originalGrossMerchandiseTotal
  shippingTotal := document.shippingTotal
  discountTotal := document.discountTotal
  finalTotalPaid := document.finalTotalPaid

def storedLines (documentId : Nat) (db : Db) : List PurchaseItem :=
  (documentItems documentId db).map Prod.snd

/-- The stored costs of a document are those of a fresh import of its lines. -/
def AsCalculated (header : PurchaseHeader) (lines : List PurchaseItem) : Prop :=
  calculatePurchaseCosts { header with items := lines.map PurchaseItem.normalized } =
    .ok { header with items := lines.map PurchaseItem.calculated }

structure DocumentsInv (db : Db) : Prop where
  owned : ∀ k item, db.purchaseItems.get? k = some item →
    (db.purchaseDocuments.get? item.purchaseDocumentId).isSome
  settled : ∀ d document, db.purchaseDocuments.get? d = some document → ∃ purchase,
    db.purchases.get? document.purchaseId = some purchase ∧
      AsCalculated (document.header purchase) (storedLines d db)

/-- A stored line with the costs that the engine gave it. -/
structure Costed (line : PurchaseItem) (calculated : CalculatedPurchaseItem) : Prop where
  source : SameCosting calculated.toNormalizedPurchaseItem line.normalized
  costs : calculated.relabel line.normalized = line.calculated

section Stored

variable {db db' : Db} {lines : List PurchaseItem} {doc : NormalizedPurchaseDocument}
  {calculated : CalculatedPurchaseDocument}

/-- A settled document reconciles. -/
theorem AsCalculated.reconciled {header : PurchaseHeader} (h : AsCalculated header lines) :
    Reconciled header (lines.map PurchaseItem.calculated) :=
  (calculatePurchaseCosts_ok h).2.2.2

theorem costed_relabel {items : List CalculatedPurchaseItem}
    (rows : List.Forall₂ Costed lines items) :
    List.zipWith CalculatedPurchaseItem.relabel (lines.map PurchaseItem.normalized) items =
      lines.map PurchaseItem.calculated := by
  induction rows with
  | nil => rfl
  | cons row _ ih => rw [List.map_cons, List.map_cons, List.zipWith_cons_cons, row.costs, ih]

/-- A document whose lines carry what the engine made of it is settled. -/
theorem AsCalculated.of_costed {header : PurchaseHeader}
    (h : calculatePurchaseCosts doc = .ok calculated)
    (own : doc.toPurchaseHeader.SameTotals header)
    (rows : List.Forall₂ Costed lines calculated.items) : AsCalculated header lines := by
  obtain ⟨-, items, -⟩ := calculatePurchaseCosts_ok h
  have same : List.Forall₂ SameCosting (NormalizedPurchaseDocument.mk header doc.items).items
      (lines.map PurchaseItem.normalized) := by
    rw [← items, List.forall₂_map_left_iff, List.forall₂_map_right_iff]
    exact rows.flip.imp fun _ _ row => row.source
  have fresh := calculatePurchaseCosts_congr same (calculatePurchaseCosts_refile own h)
  rw [costed_relabel rows] at fresh
  exact fresh

/-- Rewritten lines keep a document settled when their costs stay. -/
theorem AsCalculated.rewrite {header : PurchaseHeader} {rows : List (Nat × PurchaseItem)}
    {g : Nat → PurchaseItem → PurchaseItem} (h : AsCalculated header (rows.map Prod.snd))
    (kept : ∀ e ∈ rows, e.2.sameCosts (g e.1 e.2) ∧
      (trim e.2.sourceDescription ≠ "" → trim (g e.1 e.2).sourceDescription ≠ "")) :
    AsCalculated header (rows.map fun e => g e.1 e.2) := by
  have costed : List.Forall₂ Costed (rows.map fun e => g e.1 e.2)
      ((rows.map Prod.snd).map PurchaseItem.calculated) := by
    rw [List.map_map, List.forall₂_map_left_iff, List.forall₂_map_right_iff, List.forall₂_same]
    intro e he
    obtain ⟨⟨quantity, unit, total, shipping, discount, cost, unitCost⟩, described⟩ := kept e he
    refine ⟨⟨quantity, unit, total, described⟩, ?_⟩
    simp only [CalculatedPurchaseItem.relabel, Function.comp, PurchaseItem.calculated, shipping,
      discount, cost, unitCost]
  exact AsCalculated.of_costed h ⟨rfl, rfl, rfl, rfl, rfl, rfl⟩ costed

theorem documentItems_modify {g : Nat → PurchaseItem → PurchaseItem} {d : Nat}
    (items : db'.purchaseItems = db.purchaseItems.modify g)
    (document : ∀ k i, db.purchaseItems.get? k = some i →
      (g k i).purchaseDocumentId = i.purchaseDocumentId) :
    documentItems d db' = (documentItems d db).map fun e => (e.1, g e.1 e.2) := by
  rw [documentItems, items, Table.selectByKey_modify, documentItems]
  intro k i found
  rw [document k i found]

/-- The recalculated lines of a document carry what the engine made of them. -/
theorem recalculate_costed {purchase : ReviewPurchase} {e : Nat × PurchaseDocument} {itemId : Nat}
    {body : Amendment} (costs : calculatePurchaseCosts
      (amendedDocument purchase (reviewDocument db e) itemId body) = .ok calculated) :
    List.Forall₂ Costed ((documentItems e.1 db).map fun row =>
      ((((reviewDocument db e).purchaseItems.zip calculated.items).filter fun w =>
        decide (w.1.id = row.1)).foldl (fun r w => PurchaseItem.recost w.2 r) row.2))
      calculated.items := by
  have items := (calculatePurchaseCosts_ok costs).2.1
  dsimp only [amendedDocument, reviewDocument] at items
  rw [List.map_map] at items
  have length : (documentItems e.1 db).length = calculated.items.length := by
    have := congrArg List.length items
    rwa [List.length_map, List.length_map, eq_comm] at this
  have sources : List.Forall₂ (· = ·)
      (calculated.items.map CalculatedPurchaseItem.toNormalizedPurchaseItem)
      ((documentItems e.1 db).map (amendedItem itemId body ∘ reviewLine db)) := by
    rw [items, List.forall₂_eq_eq_eq]
  rw [List.forall₂_map_left_iff, List.forall₂_map_right_iff] at sources
  have keys : (((reviewDocument db e).purchaseItems.zip calculated.items).map
      fun w => w.1.id).Nodup := by
    have first : ((reviewDocument db e).purchaseItems.zip calculated.items).map Prod.fst =
        (documentItems e.1 db).map (reviewLine db) :=
      List.map_fst_zip (by rw [reviewDocument, List.length_map, length])
    have ids : (((reviewDocument db e).purchaseItems.zip calculated.items).map Prod.fst).map
        ReviewLine.id = (documentItems e.1 db).map Prod.fst := by
      rw [first, List.map_map]; rfl
    rw [List.map_map] at ids
    exact ids ▸ Table.nodup_selectByKey _ _
  rw [List.forall₂_map_left_iff, List.forall₂_iff_zip]
  refine ⟨length, fun {row c} mem => ?_⟩
  have written : (reviewLine db row, c) ∈
      (reviewDocument db e).purchaseItems.zip calculated.items := by
    rw [reviewDocument, List.zip_map_left]
    exact List.mem_map.mpr ⟨(row, c), mem, rfl⟩
  have source : c.toNormalizedPurchaseItem = amendedItem itemId body (reviewLine db row) :=
    List.forall₂_zip sources.flip mem
  have only : ((reviewDocument db e).purchaseItems.zip calculated.items).filter
      (fun w => decide (w.1.id = row.1)) = [(reviewLine db row, c)] :=
    Table.filter_key keys written
  rw [only]
  refine ⟨⟨rfl, rfl, rfl, ?_⟩, rfl⟩
  rw [source]
  exact id

end Stored

section Changes

variable {db db' : Db}

/-- Changes that keep costs keep documents settled. -/
theorem DocumentsInv.rewrite (h : DocumentsInv db) {g : Nat → PurchaseItem → PurchaseItem}
    (purchases : db'.purchases = db.purchases)
    (documents : db'.purchaseDocuments = db.purchaseDocuments)
    (items : db'.purchaseItems = db.purchaseItems.modify g)
    (kept : ∀ k i, db.purchaseItems.get? k = some i →
      (g k i).purchaseDocumentId = i.purchaseDocumentId ∧ i.sameCosts (g k i) ∧
        (trim i.sourceDescription ≠ "" → trim (g k i).sourceDescription ≠ "")) :
    DocumentsInv db' where
  owned := fun k item found => by
    rw [items, Table.get?_modify] at found
    obtain ⟨i, hi, rfl⟩ := Option.map_eq_some_iff.mp found
    rw [documents, (kept k i hi).1]
    exact h.owned k i hi
  settled := fun d document found => by
    rw [documents] at found
    obtain ⟨purchase, parent, settled⟩ := h.settled d document found
    refine ⟨purchase, purchases ▸ parent, ?_⟩
    rw [storedLines, documentItems_modify items fun k i hi => (kept k i hi).1, List.map_map]
    exact settled.rewrite fun e he => (kept e.1 e.2 (mem_documentItems.mp he).1).2

theorem DocumentsInv.stored (h : DocumentsInv db) {purchases : Table Purchase}
    {purchaseId partNumber userId : Nat} {normalised : NormalizedPurchaseDocument}
    {calculated : CalculatedPurchaseDocument}
    (costs : calculatePurchaseCosts normalised = .ok calculated)
    (filed : FiledUnder calculated.toPurchaseHeader db.purchases purchases purchaseId)
    (kept : ∀ k p, db.purchases.get? k = some p → purchases.get? k = some p) :
    DocumentsInv { db with
      purchases := purchases
      purchaseDocuments := db.purchaseDocuments.insert
        (newPurchaseDocument calculated.toPurchaseHeader purchaseId partNumber userId)
      purchaseItems := (calculated.items.map
        (newPurchaseItem db.purchaseDocuments.nextId db)).foldl Table.insert
        db.purchaseItems } where
  owned := fun k item found => by
    rcases Table.mem_insertAll found with old | ⟨-, new⟩
    · obtain ⟨document, hd⟩ := Option.isSome_iff_exists.mp (h.owned k item old)
      exact Option.isSome_of_mem (Table.get?_insert_of_some hd)
    · obtain ⟨c, -, rfl⟩ := List.mem_map.mp new
      dsimp only [newPurchaseItem]
      rw [Table.get?_insert_self]
      rfl
  settled := fun d document found => by
    dsimp only at found
    rcases Table.insert_cases found with ⟨rfl, rfl⟩ | found
    · obtain ⟨purchase, parent, reference, -⟩ := filed
      refine ⟨purchase, parent, ?_⟩
      rw [storedLines, documentItems, Table.selectByKey_insertAll]
      · have header := (calculatePurchaseCosts_ok costs).1
        apply AsCalculated.of_costed costs (by rw [← header]; exact ⟨rfl, reference, rfl, rfl, rfl, rfl⟩)
        rw [List.forall₂_map_left_iff, List.forall₂_same]
        exact fun c _ => ⟨⟨rfl, rfl, rfl, id⟩, rfl⟩
      · intro k item old
        have owned := h.owned k item old
        refine decide_eq_false fun own => ?_
        rw [own, Table.get?_nextId] at owned
        cases owned
      · intro item new _
        obtain ⟨c, -, rfl⟩ := List.mem_map.mp new
        exact decide_eq_true rfl
    · have other := (Table.lt_nextId found).ne
      obtain ⟨purchase, hp, settled⟩ := h.settled d document found
      refine ⟨purchase, kept _ _ hp, ?_⟩
      rw [storedLines, documentItems, Table.selectByKey_insertAll_of_none]
      · exact settled
      · intro item new _
        obtain ⟨c, -, rfl⟩ := List.mem_map.mp new
        exact decide_eq_false (Ne.symm other)

theorem DocumentsInv.recalculated (h : DocumentsInv db) {purchase : ReviewPurchase}
    {e : Nat × PurchaseDocument} {itemId : Nat} {body : Amendment}
    (found : db.purchaseDocuments.get? e.1 = some e.2)
    (parent : db.purchases.get? e.2.purchaseId = some purchase.purchase)
    (tx : recalculate purchase (reviewDocument db e) itemId body db = .ok db') :
    DocumentsInv db' := by
  obtain ⟨calculated, costs, rfl⟩ := recalculate_ok tx
  have items := Table.updateAll_eq_modify (fun w : ReviewLine × CalculatedPurchaseItem => w.1.id)
    (fun w => PurchaseItem.recost w.2) ((reviewDocument db e).purchaseItems.zip calculated.items)
    db.purchaseItems
  -- what the updates make of one row
  set g := fun (k : Nat) (i : PurchaseItem) =>
    (((reviewDocument db e).purchaseItems.zip calculated.items).filter
      fun w => decide (w.1.id = k)).foldl (fun i w => PurchaseItem.recost w.2 i) i with hg
  have row : ∀ k i, db.purchaseItems.get? k = some i →
      g k i = i ∨ ((k, i) ∈ documentItems e.1 db ∧ ∃ c, g k i = i.recost c) := by
    intro k i hi
    have after : (((reviewDocument db e).purchaseItems.zip calculated.items).foldl
        (fun items w => items.update w.1.id (PurchaseItem.recost w.2)) db.purchaseItems).get? k =
        some (g k i) := by
      rw [items, Table.get?_modify, hi]
      rfl
    obtain ⟨i', hi', kept⟩ := recalculate_row tx after
    obtain rfl := Option.some.inj (hi.symm.trans hi')
    exact kept
  have document : ∀ k i, db.purchaseItems.get? k = some i →
      (g k i).purchaseDocumentId = i.purchaseDocumentId := by
    intro k i hi
    rcases row k i hi with same | ⟨-, c, recost⟩
    · rw [same]
    · rw [recost]; rfl
  constructor
  · intro k item hk
    dsimp only at hk ⊢
    rw [items, Table.get?_modify] at hk
    obtain ⟨i, hi, rfl⟩ := Option.map_eq_some_iff.mp hk
    rw [document k i hi, Table.get?_update]
    split
    · rw [Option.isSome_map]
      exact h.owned k i hi
    · exact h.owned k i hi
  · intro d row' hd
    dsimp only at hd ⊢
    rw [show (reviewDocument db e).id = e.1 from rfl] at hd
    rw [storedLines, documentItems_modify items document, List.map_map]
    by_cases here : d = e.1
    · subst here
      rw [Table.get?_update_self, found] at hd
      obtain rfl := Option.some.inj hd
      have costed : List.Forall₂ Costed ((documentItems e.1 db).map (Prod.snd ∘ fun r =>
          (r.1, g r.1 r.2))) calculated.items := recalculate_costed costs
      have paid : calculated.finalTotalPaid =
          (amendedDocument purchase (reviewDocument db e) itemId body).finalTotalPaid :=
        congrArg PurchaseHeader.finalTotalPaid (calculatePurchaseCosts_ok costs).1
      have header : (amendedDocument purchase (reviewDocument db
          e) itemId body).toPurchaseHeader.SameTotals ((e.2.retotal (amendedDocument purchase
            (reviewDocument db e) itemId body).originalGrossMerchandiseTotal
            calculated.finalTotalPaid).header purchase.purchase) :=
        ⟨rfl, rfl, rfl, rfl, rfl, paid⟩
      exact ⟨_, parent, AsCalculated.of_costed costs header costed⟩
    · rw [Table.get?_update_of_ne _ _ here] at hd
      obtain ⟨purchase', hp, settled⟩ := h.settled d row' hd
      refine ⟨purchase', hp, settled.rewrite (g := g) fun r hr => ?_⟩
      obtain ⟨hi, own⟩ := mem_documentItems.mp hr
      rcases row r.1 r.2 hi with same | ⟨other, -⟩
      · rw [same]
        exact ⟨⟨rfl, rfl, rfl, rfl, rfl, rfl, rfl⟩, id⟩
      · exact absurd (own.symm.trans (mem_documentItems.mp other).2) here

/-- A stamp on one line changes no cost. -/
theorem DocumentsInv.stamp (h : DocumentsInv db) {j : Nat} {f : PurchaseItem → PurchaseItem}
    (purchases : db'.purchases = db.purchases)
    (documents : db'.purchaseDocuments = db.purchaseDocuments)
    (items : db'.purchaseItems = db.purchaseItems.update j f)
    (kept : ∀ i, (f i).purchaseDocumentId = i.purchaseDocumentId ∧ i.sameCosts (f i) ∧
      (f i).sourceDescription = i.sourceDescription) : DocumentsInv db' := by
  refine h.rewrite purchases documents items fun k i _ => ?_
  split
  · obtain ⟨document, costs, description⟩ := kept i
    exact ⟨document, costs, description ▸ id⟩
  · exact ⟨rfl, ⟨rfl, rfl, rfl, rfl, rfl, rfl, rfl⟩, id⟩

theorem DocumentsInv.change (h : DocumentsInv db) (change : PurchaseChange db db') :
    DocumentsInv db' := by
  cases change with
  | stored costs filed kept => exact h.stored costs filed kept
  | @edited f rows =>
      refine h.rewrite rfl rfl rfl fun k i hi => ?_
      rcases rows k i hi with same | edit
      · rw [same]
        exact ⟨rfl, ⟨rfl, rfl, rfl, rfl, rfl, rfl, rfl⟩, id⟩
      · exact ⟨edit.document, edit.costs, edit.described⟩
  | recalculated found parent _ tx => exact h.recalculated found parent tx
  | @received userId purchaseItemId now _ tx =>
      obtain ⟨item, listingId, l, -, -, -, -, -, -, -, rfl⟩ := receivePurchaseItem_eq_ok.mp tx
      exact h.stamp (f := fun i => { i with receivedAt := some now }) rfl rfl rfl fun _ =>
        ⟨rfl, ⟨rfl, rfl, rfl, rfl, rfl, rfl, rfl⟩, rfl⟩
  | @returned userId purchaseItemId now _ tx =>
      obtain ⟨item, listingId, l, -, -, -, -, -, -, -, rfl⟩ := returnPurchaseItem_eq_ok.mp tx
      exact h.stamp (f := fun i => { i with returnedAt := some now }) rfl rfl rfl fun _ =>
        ⟨rfl, ⟨rfl, rfl, rfl, rfl, rfl, rfl, rfl⟩, rfl⟩

end Changes

/-! ### Runs -/

theorem DocumentsInv.step {db : Db} (digest : CanonicalRequest → String)
    (revisionOf : ReviewPurchase → String) (h : DocumentsInv db) (op : StockOp) :
    DocumentsInv (stockStep digest revisionOf db op) := by
  rcases stockStep_purchases digest revisionOf db op with changes | aside
  · exact changes_invariant (fun _ _ h change => h.change change) changes h
  · have items := aside.purchaseItems
    have documents := congrArg (fun purchasing => purchasing.2.1) aside.1
    have purchases := congrArg Prod.fst aside.1
    dsimp only [Db.purchasing] at documents purchases
    refine h.stamp (j := 0) (f := id) purchases documents ?_ fun _ =>
      ⟨rfl, ⟨rfl, rfl, rfl, rfl, rfl, rfl, rfl⟩, rfl⟩
    rw [items]
    exact (Table.update_eq_self fun _ => rfl).symm

theorem FreshPurchases.documentsInv {db : Db} (fresh : FreshPurchases db) : DocumentsInv db where
  owned := fun k item found => by
    rw [fresh.purchaseItems] at found
    cases found
  settled := fun d document found => by
    rw [fresh.purchaseDocuments] at found
    cases found

/-- In every run, a stored document reconciles: the totals of its lines and their
two allocations add up to its own, no final cost of a line is negative, and the
final costs add up to what was paid. Its stored costs are at any time those that
the engine makes of a fresh import of its lines. -/
theorem documents_reconcile (digest : CanonicalRequest → String)
    (revisionOf : ReviewPurchase → String) {db : Db} (fresh : FreshPurchases db)
    (ops : List StockOp) :
    ∀ d document,
      (run (stockStep digest revisionOf) db ops).purchaseDocuments.get? d = some document →
      ∃ purchase, (run (stockStep digest revisionOf) db ops).purchases.get? document.purchaseId =
          some purchase ∧
        Reconciled (document.header purchase)
          ((storedLines d (run (stockStep digest revisionOf) db ops)).map
            PurchaseItem.calculated) ∧
        AsCalculated (document.header purchase)
          (storedLines d (run (stockStep digest revisionOf) db ops)) := by
  intro d document found
  have inv := run_invariant (I := DocumentsInv) (fun _ op h => h.step digest revisionOf op)
    fresh.documentsInv ops
  obtain ⟨purchase, parent, calculated⟩ := inv.settled d document found
  exact ⟨purchase, parent, calculated.reconciled, calculated⟩

/-- After an amendment of the second line, shipping is split anew. -/
theorem documents_reconcile_sample :
    ((storedLines 1 (run (stockStep (fun _ => "") fun _ => "") sampleShop
        [.purchase (.createManualPurchase 7 samplePurchase "1"),
          .purchase (.amendReviewLine 7 1 2 "" ⟨"Fire station", none, some 3, none⟩)])).map
      fun line => line.allocatedShipping) = [40, 61] ∧
    ∃ purchase : Purchase, Reconciled
      ((⟨1, 1, none, "manual:1", none, 7, 2500, 101, 0, 2601⟩ : PurchaseDocument).header purchase)
      ((storedLines 1 (run (stockStep (fun _ => "") fun _ => "") sampleShop
        [.purchase (.createManualPurchase 7 samplePurchase "1"),
          .purchase (.amendReviewLine 7 1 2 "" ⟨"Fire station", none, some 3, none⟩)])).map
        PurchaseItem.calculated) := by
  constructor
  · rfl
  · obtain ⟨purchase, -, reconciled, -⟩ := documents_reconcile (fun _ => "") (fun _ => "")
      sampleShop_freshPurchases
      [.purchase (.createManualPurchase 7 samplePurchase "1"),
        .purchase (.amendReviewLine 7 1 2 "" ⟨"Fire station", none, some 3, none⟩)] 1 _ rfl
    exact ⟨purchase, reconciled⟩

end ColorfulLife
