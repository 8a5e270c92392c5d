/-
What one purchase request can do.

`PurchaseChange` has one constructor for each elementary change, with the facts
its transaction checked; a request is a sequence of them
(`purchaseStep_changes`), and so is a run. Invariants are proved by cases on the
change.
-/

import ColorfulLife.Purchases.Machine
import Mathlib.Data.List.Induction
import Mathlib.Logic.Relation

namespace ColorfulLife

open Relational Relation

/-! ### Companions -/

/-- The key that groups a line with others, when the source named a product. -/
def PurchaseItem.externalKey (item : PurchaseItem) : Option String :=
  trimmedOrNone item.externalProductId

/-- Two lines of one importer's documents of a purchase, with one external
product: they stand in one review group, whatever else changes. -/
def Companion (documents : Table PurchaseDocument) (i j : PurchaseItem) : Prop :=
  i.externalKey = j.externalKey ∧ i.externalKey.isSome ∧ ∃ d e,
    documents.get? i.purchaseDocumentId = some d ∧ documents.get? j.purchaseDocumentId = some e ∧
    d.purchaseId = e.purchaseId ∧ d.importedByUserId = e.importedByUserId

/-! ### Elementary changes -/

/-- The costs of two lines agree. -/
def PurchaseItem.sameCosts (i i' : PurchaseItem) : Prop :=
  i'.quantity = i.quantity ∧ i'.originalGrossUnitCost = i.originalGrossUnitCost ∧
    i'.originalGrossLineTotal = i.originalGrossLineTotal ∧
    i'.allocatedShipping = i.allocatedShipping ∧ i'.allocatedDiscount = i.allocatedDiscount ∧
    i'.finalLineCost = i.finalLineCost ∧ i'.finalUnitCost = i.finalUnitCost

/-- An edit of an unreceived line: its link, disposition or description. A line
is linked only while none of its companions is received. -/
structure Edited (db : Db) (i i' : PurchaseItem) : Prop where
  before : i.receivedAt = none
  after : i'.receivedAt = none
  returnedAt : i'.returnedAt = i.returnedAt
  document : i'.purchaseDocumentId = i.purchaseDocumentId
  external : i'.externalProductId = i.externalProductId
  costs : i.sameCosts i'
  described : trim i.sourceDescription ≠ "" → trim i'.sourceDescription ≠ ""
  excluded : i'.inventoryDisposition = .nonInventory →
    i'.productListingId = none ∨
      (i.inventoryDisposition = .nonInventory ∧ i'.productListingId = i.productListingId)
  linked : ∀ k, i'.productListingId = some k → i.productListingId = some k ∨
    ((db.listings.get? k).isSome ∧ ∀ j row, db.purchaseItems.get? j = some row →
      Companion db.purchaseDocuments i row → row.receivedAt = none)

/-- One elementary change. -/
inductive PurchaseChange (db : Db) : Db → Prop where
  | stored {purchases : Table Purchase} {purchaseId partNumber userId : Nat}
      {normalised : NormalizedPurchaseDocument} {calculated : CalculatedPurchaseDocument}
      (costs : calculatePurchaseCosts normalised = .ok calculated)
      (filed : FiledUnder calculated.toPurchaseHeader db.purchases purchases purchaseId)
      (kept : ∀ k p, db.purchases.get? k = some p → purchases.get? k = some p)
      (linked : ∀ item ∈ calculated.items, ∀ id, (newPurchaseItem db.purchaseDocuments.nextId db
        item).productListingId = some id → (db.listings.get? id).isSome) :
      PurchaseChange db { db with
        purchases := purchases
        purchaseDocuments := db.purchaseDocuments.insert
          (newPurchaseDocument calculated.toPurchaseHeader purchaseId partNumber userId)
        purchaseItems := (calculated.items.map
          (newPurchaseItem db.purchaseDocuments.nextId db)).foldl Table.insert
          db.purchaseItems }
  | edited {f : Nat → PurchaseItem → PurchaseItem}
      (rows : ∀ k i, db.purchaseItems.get? k = some i → f k i = i ∨ Edited db i (f k i)) :
      PurchaseChange db { db with purchaseItems := db.purchaseItems.modify f }
  | recalculated {purchase : ReviewPurchase} {e : Nat × PurchaseDocument} {itemId : Nat}
      {body : Amendment} {db' : Db}
      (found : db.purchaseDocuments.get? e.1 = some e.2)
      (parent : db.purchases.get? e.2.purchaseId = some purchase.purchase)
      (unreceived : ∀ l ∈ documentItems e.1 db, l.2.receivedAt = none)
      (tx : recalculate purchase (reviewDocument db e) itemId body db = .ok db') :
      PurchaseChange db db'
  | received {userId purchaseItemId : Nat} {now : Time} {db' : Db}
      (tx : receivePurchaseItem userId purchaseItemId now db = .ok db') : PurchaseChange db db'
  | returned {userId purchaseItemId : Nat} {now : Time} {db' : Db}
      (tx : returnPurchaseItem userId purchaseItemId now db = .ok db') : PurchaseChange db db'

/-! ### What a review reads -/

section Reading

variable {db db' : Db} {userId purchaseId groupId : Nat} {purchase : ReviewPurchase}
  {lines : List ReviewLine} {line : ReviewLine}

theorem mem_importedDocuments {e : Nat × PurchaseDocument} :
    e ∈ importedDocuments userId purchaseId db ↔ db.purchaseDocuments.get? e.1 = some e.2 ∧
      e.2.purchaseId = purchaseId ∧ e.2.importedByUserId = userId := by
  rw [importedDocuments, (List.perm_insertionSort _ _).mem_iff, Table.mem_select,
    decide_eq_true_eq]

theorem mem_documentItems {documentId : Nat} {e : Nat × PurchaseItem} :
    e ∈ documentItems documentId db ↔ db.purchaseItems.get? e.1 = some e.2 ∧
      e.2.purchaseDocumentId = documentId := by
  rw [documentItems, Table.mem_selectByKey, decide_eq_true_eq]

theorem readPurchase_eq_ok : readPurchase userId purchaseId db = .ok purchase ↔
    importedDocuments userId purchaseId db ≠ [] ∧ ∃ row,
      db.purchases.get? purchaseId = some row ∧
      purchase = ⟨purchaseId, row,
        (importedDocuments userId purchaseId db).map (reviewDocument db)⟩ := by
  simp only [readPurchase, bind_eq_ok, orThrow_eq_ok, ensure_eq_ok, pure_eq_ok]
  constructor
  · rintro ⟨row, found, -, some_, rfl⟩
    exact ⟨some_, row, found, rfl⟩
  · rintro ⟨some_, row, found, rfl⟩
    exact ⟨row, found, ⟨⟩, some_, rfl⟩

/-- A line of a purchase is a row of a document that the user imported for it. -/
theorem mem_lines (h : readPurchase userId purchaseId db = .ok purchase) :
    line ∈ purchase.lines ↔ ∃ k item d, line = reviewLine db (k, item) ∧
      db.purchaseItems.get? k = some item ∧
      db.purchaseDocuments.get? item.purchaseDocumentId = some d ∧
      d.purchaseId = purchaseId ∧ d.importedByUserId = userId := by
  obtain ⟨-, row, -, rfl⟩ := readPurchase_eq_ok.mp h
  simp only [ReviewPurchase.lines, List.mem_flatMap, List.mem_map]
  constructor
  · rintro ⟨_, ⟨e, he, rfl⟩, hline⟩
    obtain ⟨⟨k, item⟩, hitem, rfl⟩ := List.mem_map.mp hline
    obtain ⟨found, own⟩ := mem_documentItems.mp hitem
    obtain ⟨document, rest⟩ := mem_importedDocuments.mp he
    exact ⟨k, item, e.2, rfl, found, own ▸ document, rest⟩
  · rintro ⟨k, item, d, rfl, found, document, rest⟩
    exact ⟨_, ⟨(_, d), mem_importedDocuments.mpr ⟨document, rest⟩, rfl⟩,
      List.mem_map.mpr ⟨(k, item), mem_documentItems.mpr ⟨found, rfl⟩, rfl⟩⟩

theorem mem_linesOf {key : LineIdentity} :
    line ∈ linesOf purchase key ↔ line ∈ purchase.lines ∧ identity line = key := by
  rw [linesOf, (List.perm_insertionSort _ _).mem_iff, List.mem_filter, decide_eq_true_eq]

theorem findGroup_ok (h : findGroup purchase groupId = .ok lines) :
    ∃ key, lines = linesOf purchase key := by
  simp only [findGroup, orThrow_eq_ok] at h
  obtain ⟨key, -, rfl⟩ := List.mem_map.mp (List.mem_of_find?_eq_some h)
  exact ⟨key, rfl⟩

theorem mutate_ok {revisionOf : ReviewPurchase → String} {revision : String}
    {action : ReviewPurchase → Db → Result Db}
    (h : mutate revisionOf userId purchaseId revision action db = .ok db') :
    ∃ purchase, readPurchase userId purchaseId db = .ok purchase ∧ action purchase db = .ok db' := by
  simp only [mutate, bind_eq_ok, ensure_eq_ok] at h
  obtain ⟨purchase, read, -, -, tx⟩ := h
  exact ⟨purchase, read, tx⟩

/-- The rows an update of lines rewrites. -/
theorem updateLines_ok {f : PurchaseItem → PurchaseItem} {message : String}
    (h : updateLines lines f message db = .ok db') :
    db' = { db with
      purchaseItems := db.purchaseItems.updateMany
        (fun k item => decide (k ∈ lines.map ReviewLine.id ∧ item.receivedAt = none)) f } := by
  simp only [updateLines, bind_eq_ok, ensure_eq_ok, pure_eq_ok] at h
  obtain ⟨-, -, rfl⟩ := h
  rfl

end Reading

/-! ### Recalculated rows -/

section Recalculated

variable {db db' : Db} {purchase : ReviewPurchase} {e : Nat × PurchaseDocument} {itemId : Nat}
  {body : Amendment}

@[simp] theorem PurchaseItem.recost_recost (item : PurchaseItem) (c d : CalculatedPurchaseItem) :
    (item.recost c).recost d = item.recost d := rfl

theorem recalculate_ok {doc : ReviewDocument}
    (tx : recalculate purchase doc itemId body db = .ok db') :
    ∃ calculated, calculatePurchaseCosts (amendedDocument purchase doc itemId body) = .ok calculated ∧
      db' = { db with
        purchaseItems := (doc.purchaseItems.zip calculated.items).foldl
          (fun items e => items.update e.1.id (PurchaseItem.recost e.2)) db.purchaseItems
        purchaseDocuments := db.purchaseDocuments.update doc.id (PurchaseDocument.retotal
          (amendedDocument purchase doc itemId body).originalGrossMerchandiseTotal
          calculated.finalTotalPaid) } := by
  simp only [recalculate, bind_eq_ok, ensure_eq_ok, pure_eq_ok] at tx
  obtain ⟨-, -, calculated, costs, -, -, rfl⟩ := tx
  exact ⟨calculated, costs, rfl⟩

/-- Of several new costs the last stay. -/
theorem foldl_recost {α : Type} (item : PurchaseItem) (es : List (α × CalculatedPurchaseItem)) :
    es.foldl (fun r e => PurchaseItem.recost e.2 r) item = item ∨
      ∃ e ∈ es, es.foldl (fun r e => PurchaseItem.recost e.2 r) item = item.recost e.2 := by
  induction es using List.reverseRecOn with
  | nil => exact Or.inl rfl
  | append_singleton es e ih =>
      refine Or.inr ⟨e, by simp, ?_⟩
      rw [List.foldl_append]
      rcases ih with same | ⟨d, -, recost⟩
      · rw [same]; rfl
      · rw [recost]; rfl

/-- A row after a recalculation: of the document and with new costs, or as it
was. -/
theorem recalculate_row (tx : recalculate purchase (reviewDocument db e) itemId body db = .ok db')
    {k : Nat} {i' : PurchaseItem} (found : db'.purchaseItems.get? k = some i') :
    ∃ i, db.purchaseItems.get? k = some i ∧
      (i' = i ∨ (k, i) ∈ documentItems e.1 db ∧ ∃ calculated, i' = i.recost calculated) := by
  obtain ⟨calculated, -, rfl⟩ := recalculate_ok tx
  dsimp only at found
  rw [Table.updateAll_eq_modify (fun e : ReviewLine × CalculatedPurchaseItem => e.1.id),
    Table.get?_modify] at found
  obtain ⟨i, hi, rfl⟩ := Option.map_eq_some_iff.mp found
  refine ⟨i, hi, ?_⟩
  rcases foldl_recost i _ with same | ⟨w, hw, recost⟩
  · exact Or.inl same
  · refine Or.inr ⟨?_, _, recost⟩
    obtain ⟨written, own⟩ := List.mem_filter.mp hw
    obtain ⟨⟨j, row⟩, hrow, line⟩ := List.mem_map.mp (List.of_mem_zip written).1
    obtain rfl : j = k := (congrArg ReviewLine.id line).trans (of_decide_eq_true own)
    obtain rfl := Option.some.inj ((mem_documentItems.mp hrow).1.symm.trans hi)
    exact hrow

end Recalculated

/-! ### The requests -/

section Requests

variable {db db' : Db} {userId purchaseId : Nat} {purchase : ReviewPurchase}
  {lines : List ReviewLine}

/-- An update of unreceived lines that read as they are is an edit. -/
theorem updateLines_change {f : PurchaseItem → PurchaseItem} {message : String}
    (tx : updateLines lines f message db = .ok db')
    (edits : ∀ l ∈ lines, ∀ item, db.purchaseItems.get? l.id = some item →
      item.receivedAt = none → Edited db item (f item)) : PurchaseChange db db' := by
  rw [updateLines_ok tx]
  apply PurchaseChange.edited
  intro k i found
  dsimp only
  split
  · rename_i matching
    obtain ⟨mem, unreceived⟩ := of_decide_eq_true matching
    obtain ⟨l, hl, rfl⟩ := List.mem_map.mp mem
    exact Or.inr (edits l hl i found unreceived)
  · exact Or.inl rfl

/-- A line of a purchase reads as its row. -/
theorem line_item (h : readPurchase userId purchaseId db = .ok purchase) {line : ReviewLine}
    (mem : line ∈ purchase.lines) {item : PurchaseItem}
    (found : db.purchaseItems.get? line.id = some item) : line.item = item := by
  obtain ⟨k, item', d, rfl, found', -⟩ := (mem_lines h).mp mem
  exact Option.some.inj (found'.symm.trans found)

/-- Companions stand in one group. -/
theorem companion_mem (h : readPurchase userId purchaseId db = .ok purchase) {key : LineIdentity}
    {line : ReviewLine} (mem : line ∈ linesOf purchase key) {j : Nat} {row : PurchaseItem}
    (found : db.purchaseItems.get? j = some row)
    (companion : Companion db.purchaseDocuments line.item row) :
    reviewLine db (j, row) ∈ linesOf purchase key := by
  obtain ⟨own, same⟩ := mem_linesOf.mp mem
  obtain ⟨k, item, d, rfl, -, document, rest⟩ := (mem_lines h).mp own
  obtain ⟨keys, named, d', e, hd, he, purchases, users⟩ := companion
  obtain rfl := Option.some.inj (document.symm.trans hd)
  refine mem_linesOf.mpr ⟨(mem_lines h).mpr ⟨j, row, e, rfl, found, he, ?_, ?_⟩, ?_⟩
  · exact purchases.symm.trans rest.1
  · exact users.symm.trans rest.2
  · obtain ⟨s, hs⟩ := Option.isSome_iff_exists.mp named
    have hs' := keys.symm.trans hs
    dsimp only [reviewLine, PurchaseItem.externalKey] at hs hs'
    rw [← same]
    simp only [identity, reviewLine, hs, hs']

theorem resolve_change {revisionOf : ReviewPurchase → String} {groupId : Nat} {revision : String}
    {productListingId : Option Nat}
    (tx : resolveReviewGroup revisionOf userId purchaseId groupId revision productListingId db =
      .ok db') : PurchaseChange db db' := by
  obtain ⟨purchase, read, tx⟩ := mutate_ok tx
  simp only [bind_eq_ok, ensure_eq_ok] at tx
  obtain ⟨lines, hgroup, -, unreceived, -, active, tx⟩ := tx
  obtain ⟨key, rfl⟩ := findGroup_ok hgroup
  apply updateLines_change tx
  intro l hl item found before
  obtain rfl : l.item = item := line_item read (mem_linesOf.mp hl).1 found
  refine ⟨before, before, rfl, rfl, rfl, ⟨rfl, rfl, rfl, rfl, rfl, rfl, rfl⟩, id,
    fun excluded => (by cases excluded), fun k hk => Or.inr ⟨?_, fun j row hrow companion => ?_⟩⟩
  · obtain rfl : productListingId = some k := hk
    cases hl : db.listings.get? k with
    | none => simp [hl] at active
    | some l => rfl
  · exact unreceived _ (companion_mem read hl hrow companion)

theorem dispose_change {revisionOf : ReviewPurchase → String} {groupId : Nat} {revision : String}
    {inventoryDisposition : PurchaseItemDisposition}
    (tx : setReviewGroupDisposition revisionOf userId purchaseId groupId revision
      inventoryDisposition db = .ok db') : PurchaseChange db db' := by
  obtain ⟨purchase, read, tx⟩ := mutate_ok tx
  simp only [bind_eq_ok, ensure_eq_ok] at tx
  obtain ⟨lines, hgroup, -, unreceived, tx⟩ := tx
  apply updateLines_change tx
  intro l hl item found before
  refine ⟨before, before, rfl, rfl, rfl, ⟨rfl, rfl, rfl, rfl, rfl, rfl, rfl⟩, id,
    fun excluded => Or.inl ?_, fun k hk => Or.inl ?_⟩
  · obtain rfl : inventoryDisposition = .nonInventory := excluded
    simp [PurchaseItem.dispose]
  · dsimp only [PurchaseItem.dispose] at hk
    split at hk
    · cases hk
    · exact hk

/-- An amendment recalculates, if it changes costs, and then redescribes. -/
theorem amend_changes {revisionOf : ReviewPurchase → String} {itemId : Nat} {revision : String}
    {input : Amendment}
    (tx : amendReviewLine revisionOf userId purchaseId itemId revision input db = .ok db') :
    ReflTransGen PurchaseChange db db' := by
  simp only [amendReviewLine, bind_eq_ok] at tx
  obtain ⟨body, parsed, tx⟩ := tx
  simp only [Amendment.parse, bind_eq_ok, ensure_eq_ok, pure_eq_ok] at parsed
  obtain ⟨-, ⟨described, -⟩, rfl⟩ := parsed
  obtain ⟨purchase, read, tx⟩ := mutate_ok tx
  simp only [bind_eq_ok, orThrow_eq_ok, ensure_eq_ok] at tx
  obtain ⟨doc, hdoc, line, hline, -, before, -, whole, db₁, first, second⟩ := tx
  have redescribed : PurchaseChange db₁ db' := by
    apply updateLines_change second
    intro l hl item found unreceived
    refine ⟨unreceived, unreceived, rfl, rfl, rfl, ⟨rfl, rfl, rfl, rfl, rfl, rfl, rfl⟩,
      fun _ => ?_, fun excluded => ?_, fun k hk => Or.inl ?_⟩
    · dsimp only [PurchaseItem.redescribe]
      rwa [trim_trim]
    · dsimp only [PurchaseItem.redescribe] at excluded ⊢
      split
      · exact Or.inl rfl
      · exact Or.inr ⟨excluded, rfl⟩
    · dsimp only [PurchaseItem.redescribe] at hk
      split at hk
      · cases hk
      · exact hk
  unfold recalculateCosts at first
  split at first
  · rename_i changes
    obtain ⟨-, row, parent, rfl⟩ := readPurchase_eq_ok.mp read
    obtain ⟨e, he, rfl⟩ := List.mem_map.mp (List.mem_of_find?_eq_some hdoc)
    obtain ⟨document, own, -⟩ := mem_importedDocuments.mp he
    refine (ReflTransGen.single ?_).tail redescribed
    refine .recalculated document (own ▸ parent) (fun l hl => ?_) first
    exact (whole changes).1 (reviewLine db l) (List.mem_map.mpr ⟨l, hl, rfl⟩)
  · obtain rfl := Except.ok.inj first
    exact ReflTransGen.single redescribed

/-- A group is received line by line. -/
theorem receiveGroup_changes {revisionOf : ReviewPurchase → String} {groupId : Nat}
    {revision : String} {now : Time}
    (tx : receiveReviewGroup revisionOf userId purchaseId groupId revision now db = .ok db') :
    ReflTransGen PurchaseChange db db' := by
  simp only [receiveReviewGroup, mapError_eq_ok] at tx
  obtain ⟨purchase, read, tx⟩ := mutate_ok tx
  simp only [bind_eq_ok, ensure_eq_ok, orThrow_eq_ok] at tx
  obtain ⟨lines, -, -, -, listing, -, -, -, -, -, tx⟩ := tx
  refine foldlM_effect (R := fun _ => ReflTransGen PurchaseChange) (fun _ => .refl) ?_ _ tx
  intro line _ s s₁ s' first rest
  exact (ReflTransGen.single (.received first)).trans rest

theorem import_change {normalised : NormalizedPurchaseDocument}
    (tx : importPurchaseInvoice userId normalised db = .ok db') : PurchaseChange db db' := by
  obtain ⟨calculated, costs, stored⟩ := importPurchaseInvoice_ok tx
  obtain ⟨purchases, purchaseId, partNumber, filed, kept, linked, rfl⟩ :=
    persistCalculatedPurchaseDocument_ok stored
  exact .stored costs filed kept linked

end Requests

/-- A request is a sequence of elementary changes. -/
theorem purchaseStep_changes (revisionOf : ReviewPurchase → String) (db : Db) (op : PurchaseOp) :
    ReflTransGen PurchaseChange db (purchaseStep revisionOf db op) := by
  refine commit_rel (R := ReflTransGen PurchaseChange) .refl fun db' tx => ?_
  cases op with
  | importPurchaseInvoice => exact .single (import_change tx)
  | createManualPurchase => exact .single (import_change (createManualPurchase_ok tx))
  | resolveReviewGroup => exact .single (resolve_change tx)
  | setReviewGroupDisposition => exact .single (dispose_change tx)
  | receiveReviewGroup => exact receiveGroup_changes tx
  | amendReviewLine => exact amend_changes tx
  | receivePurchaseItem => exact .single (.received tx)
  | returnPurchaseItem => exact .single (.returned tx)

/-- What every elementary change keeps, a run keeps. -/
theorem changes_invariant {I : Db → Prop} (keeps : ∀ db db', I db → PurchaseChange db db' → I db')
    {db db' : Db} (changes : ReflTransGen PurchaseChange db db') (h : I db) : I db' := by
  induction changes with
  | refl => exact h
  | tail _ change ih => exact keeps _ _ ih change

end ColorfulLife
