/-
Where purchase documents are filed.

A document is filed under the purchase of its order reference, as the next part, with
a hash of its own; a review may change its totals but never its filing. So in every
run the references and the hashes stay distinct and the parts of every purchase count
up from one (`documents_filed`).
-/

import ColorfulLife.Purchases.Changes
import ColorfulLife.Purchases.InvoiceImport
import ColorfulLife.Relational.Numbering

namespace ColorfulLife

open Relational

/-! ### Filings -/

/-- What a document keeps from its import on. -/
structure Filing where
  purchaseId : Nat
  partNumber : Nat
  sourceInvoiceReference : Option String
  importHash : String
  sourceDocumentDate : Option Int
  importedByUserId : Nat
  deriving DecidableEq, Repr

def PurchaseDocument.filing (d : PurchaseDocument) : Filing :=
  ⟨d.purchaseId, d.partNumber, d.sourceInvoiceReference, d.importHash, d.sourceDocumentDate,
    d.importedByUserId⟩

/-- The part numbers of a purchase, in the order of import. -/
def partNumbers (purchaseId : Nat) (db : Db) : List Nat :=
  db.purchaseDocuments.numbers PurchaseDocument.purchaseId PurchaseDocument.partNumber purchaseId

structure Filed (db : Db) : Prop where
  hashes : ∀ j k d e, db.purchaseDocuments.get? j = some d →
    db.purchaseDocuments.get? k = some e → d.importHash = e.importHash → j = k
  references : ∀ j k p q, db.purchases.get? j = some p → db.purchases.get? k = some q →
    p.sourceOrderReference = q.sourceOrderReference → j = k
  parents : ∀ k d, db.purchaseDocuments.get? k = some d →
    (db.purchases.get? d.purchaseId).isSome
  parts : db.purchaseDocuments.Consecutive PurchaseDocument.purchaseId
    PurchaseDocument.partNumber

/-- What a request does to the filings: it leaves them, or it files one document. -/
inductive FilingStep (db db' : Db) : Prop where
  | kept (f : Nat → PurchaseDocument → PurchaseDocument) (same : ∀ k d, (f k d).filing = d.filing)
      (documents : db'.purchaseDocuments = db.purchaseDocuments.modify f)
      (purchases : db'.purchases = db.purchases)
  | filed (header : PurchaseHeader) (userId : Nat)
      (free : ∀ k d, db.purchaseDocuments.get? k = some d → d.importHash ≠ header.importHash)
      (purchases : db'.purchases = (upsertPurchase header db.purchases).1)
      (documents : db'.purchaseDocuments = db.purchaseDocuments.insert
        (newPurchaseDocument header (upsertPurchase header db.purchases).2
          (nextPartNumber (upsertPurchase header db.purchases).2 db.purchaseDocuments) userId))

/-! ### The requests -/

section Requests

variable {db db' : Db} {userId purchaseId : Nat} {revisionOf : ReviewPurchase → String}
  {revision : String}

/-- A request that touches neither documents nor purchases. -/
theorem FilingStep.same (documents : db'.purchaseDocuments = db.purchaseDocuments)
    (purchases : db'.purchases = db.purchases) : FilingStep db db' :=
  .kept (fun _ d => d) (fun _ _ => rfl) (documents.trans (Table.modify_id _).symm) purchases

/-- An import files one document, under a purchase of its reference. -/
theorem importPurchaseInvoice_filing {normalised : NormalizedPurchaseDocument}
    (tx : importPurchaseInvoice userId normalised db = .ok db') : FilingStep db db' := by
  obtain ⟨calculated, costs, stored⟩ := importPurchaseInvoice_ok tx
  simp only [persistCalculatedPurchaseDocument, bind_eq_ok, ensure_eq_ok, pure_eq_ok] at stored
  obtain ⟨-, -, -, -, -, -, -, free, -, -, -, -, rfl⟩ := stored
  refine .filed calculated.toPurchaseHeader userId (fun k d found own => ?_) rfl rfl
  have clash := clashes_of_hash (newPurchaseDocument calculated.toPurchaseHeader
    (upsertPurchase calculated.toPurchaseHeader db.purchases).2
    (nextPartNumber (upsertPurchase calculated.toPurchaseHeader db.purchases).2
      db.purchaseDocuments) userId) found own.symm
  rw [free] at clash
  cases clash

/-- An update of lines files nothing. -/
theorem updateLines_filing {lines : List ReviewLine} {f : PurchaseItem → PurchaseItem}
    {message : String} (tx : updateLines lines f message db = .ok db') :
    db'.purchaseDocuments = db.purchaseDocuments ∧ db'.purchases = db.purchases := by
  rw [updateLines_ok tx]
  exact ⟨rfl, rfl⟩

theorem resolveReviewGroup_filing {groupId : Nat} {productListingId : Option Nat}
    (tx : resolveReviewGroup revisionOf userId purchaseId groupId revision productListingId db =
      .ok db') : db'.purchaseDocuments = db.purchaseDocuments ∧ db'.purchases = db.purchases := by
  obtain ⟨_, -, tx⟩ := mutate_ok tx
  simp only [bind_eq_ok] at tx
  obtain ⟨_, -, -, -, -, -, tx⟩ := tx
  exact updateLines_filing tx

theorem setReviewGroupDisposition_filing {groupId : Nat}
    {inventoryDisposition : PurchaseItemDisposition}
    (tx : setReviewGroupDisposition revisionOf userId purchaseId groupId revision
      inventoryDisposition db = .ok db') :
    db'.purchaseDocuments = db.purchaseDocuments ∧ db'.purchases = db.purchases := by
  obtain ⟨_, -, tx⟩ := mutate_ok tx
  simp only [bind_eq_ok] at tx
  obtain ⟨_, -, -, -, tx⟩ := tx
  exact updateLines_filing tx

/-- An amendment rewrites the amounts of a document and leaves its filing. -/
theorem amendReviewLine_filing {itemId : Nat} {input : Amendment}
    (tx : amendReviewLine revisionOf userId purchaseId itemId revision input db = .ok db') :
    FilingStep db db' := by
  simp only [amendReviewLine, bind_eq_ok] at tx
  obtain ⟨body, -, tx⟩ := tx
  obtain ⟨purchase, -, tx⟩ := mutate_ok tx
  simp only [bind_eq_ok] at tx
  obtain ⟨doc, -, line, -, -, -, -, -, db₁, first, second⟩ := tx
  obtain ⟨documents, purchases⟩ := updateLines_filing second
  unfold recalculateCosts at first
  split at first
  · obtain ⟨calculated, -, rfl⟩ := recalculate_ok first
    have updated : db'.purchaseDocuments = db.purchaseDocuments.modify fun k d =>
        if k = doc.id then d.retotal (amendedDocument purchase doc line.id
          body).originalGrossMerchandiseTotal calculated.finalTotalPaid else d := documents
    refine .kept _ (fun k d => ?_) updated purchases
    split <;> rfl
  · obtain rfl := Except.ok.inj first
    exact .same documents purchases

theorem receivePurchaseItem_filing {purchaseItemId : Nat} {now : Time}
    (tx : receivePurchaseItem userId purchaseItemId now db = .ok db') :
    db'.purchaseDocuments = db.purchaseDocuments ∧ db'.purchases = db.purchases := by
  obtain ⟨_, _, _, -, -, -, -, -, -, -, rfl⟩ := receivePurchaseItem_eq_ok.mp tx
  exact ⟨rfl, rfl⟩

/-- Receiving a group files nothing. -/
theorem receiveReviewGroup_filing {groupId : Nat} {now : Time}
    (tx : receiveReviewGroup revisionOf userId purchaseId groupId revision now db = .ok db') :
    db'.purchaseDocuments = db.purchaseDocuments ∧ db'.purchases = db.purchases := by
  simp only [receiveReviewGroup, mapError_eq_ok] at tx
  obtain ⟨purchase, -, tx⟩ := mutate_ok tx
  simp only [bind_eq_ok] at tx
  obtain ⟨lines, -, -, -, listing, -, -, -, -, -, tx⟩ := tx
  refine foldlM_effect (R := fun _ (s s' : Db) => s'.purchaseDocuments = s.purchaseDocuments ∧
    s'.purchases = s.purchases) (fun _ => ⟨rfl, rfl⟩) ?_ _ tx
  intro line _ s s₁ s' first rest
  obtain ⟨documents, purchases⟩ := receivePurchaseItem_filing first
  exact ⟨rest.1.trans documents, rest.2.trans purchases⟩

end Requests

/-- What any request does to the filing. -/
theorem purchaseStep_filing (revisionOf : ReviewPurchase → String) (db : Db) (op : PurchaseOp) :
    FilingStep db (purchaseStep revisionOf db op) := by
  refine commit_rel (R := FilingStep) (.same rfl rfl) fun db' tx => ?_
  cases op with
  | importPurchaseInvoice => exact importPurchaseInvoice_filing tx
  | createManualPurchase => exact importPurchaseInvoice_filing (createManualPurchase_ok tx)
  | resolveReviewGroup =>
      obtain ⟨documents, purchases⟩ := resolveReviewGroup_filing tx
      exact .same documents purchases
  | setReviewGroupDisposition =>
      obtain ⟨documents, purchases⟩ := setReviewGroupDisposition_filing tx
      exact .same documents purchases
  | receiveReviewGroup =>
      obtain ⟨documents, purchases⟩ := receiveReviewGroup_filing tx
      exact .same documents purchases
  | amendReviewLine => exact amendReviewLine_filing tx
  | receivePurchaseItem =>
      obtain ⟨documents, purchases⟩ := receivePurchaseItem_filing tx
      exact .same documents purchases
  | returnPurchaseItem =>
      obtain ⟨_, _, _, -, -, -, -, -, -, -, rfl⟩ := returnPurchaseItem_eq_ok.mp tx
      exact .same rfl rfl

/-! ### Runs -/

section Runs

variable {db db' : Db}

/-- An upsert adds the reference at most once. -/
theorem upsertPurchase_references (header : PurchaseHeader) (purchases : Table Purchase)
    (unique : ∀ j k p q, purchases.get? j = some p → purchases.get? k = some q →
      p.sourceOrderReference = q.sourceOrderReference → j = k) :
    ∀ j k p q, (upsertPurchase header purchases).1.get? j = some p →
      (upsertPurchase header purchases).1.get? k = some q →
        p.sourceOrderReference = q.sourceOrderReference → j = k := by
  unfold upsertPurchase
  split
  · exact unique
  · rename_i fresh
    have other : ∀ {k p}, purchases.get? k = some p →
        p.sourceOrderReference ≠ header.sourceOrderReference :=
      fun found same => of_decide_eq_false (Table.find?_eq_none.mp fresh _ _ found) same
    intro j k p q hj hk same
    rcases Table.insert_cases hj with ⟨rfl, rfl⟩ | hj
    · rcases Table.insert_cases hk with ⟨rfl, rfl⟩ | hk
      · rfl
      · exact absurd same.symm (other hk)
    · rcases Table.insert_cases hk with ⟨rfl, rfl⟩ | hk
      · exact absurd same (other hj)
      · exact unique j k p q hj hk same

/-- Documents and purchases stay where they are filed. -/
structure StaysFiled (db db' : Db) : Prop where
  purchases : ∀ k p, db.purchases.get? k = some p → db'.purchases.get? k = some p
  documents : ∀ k d, db.purchaseDocuments.get? k = some d →
    ∃ d', db'.purchaseDocuments.get? k = some d' ∧ d'.filing = d.filing

/-- A document and its purchase stay as they were filed. -/
theorem FilingStep.stays (step : FilingStep db db') : StaysFiled db db' := by
  cases step with
  | kept f same documents purchases =>
      refine ⟨fun k p found => by rwa [purchases], fun k d found => ⟨f k d, ?_, same k d⟩⟩
      rw [documents, Table.get?_modify, found, Option.map_some]
  | filed header userId free purchases documents =>
      refine ⟨fun k p found => ?_, fun k d found => ⟨d, ?_, rfl⟩⟩
      · rw [purchases]
        exact (upsertPurchase_spec _ _).2 k p found
      · rw [documents]
        exact Table.get?_insert_of_some found

/-- The filing stays in order. -/
theorem Filed.step (h : Filed db) (step : FilingStep db db') : Filed db' := by
  cases step with
  | kept f same documents purchases =>
      have origin : ∀ {k d'}, db'.purchaseDocuments.get? k = some d' →
          ∃ d, db.purchaseDocuments.get? k = some d ∧ d'.filing = d.filing := by
        intro k d' found
        rw [documents, Table.get?_modify] at found
        obtain ⟨d, own, rfl⟩ := Option.map_eq_some_iff.mp found
        exact ⟨d, own, same k d⟩
      refine ⟨fun j k d e hj hk hash => ?_, ?_, fun k d hk => ?_, ?_⟩
      · obtain ⟨d₀, hj, sameD⟩ := origin hj
        obtain ⟨e₀, hk, sameE⟩ := origin hk
        exact h.hashes j k d₀ e₀ hj hk ((congrArg Filing.importHash sameD).symm.trans
          (hash.trans (congrArg Filing.importHash sameE)))
      · rw [purchases]
        exact h.references
      · obtain ⟨d₀, hk, sameD⟩ := origin hk
        have own : d.purchaseId = d₀.purchaseId := congrArg Filing.purchaseId sameD
        rw [purchases, own]
        exact h.parents k d₀ hk
      · rw [documents]
        exact h.parts.modify (fun k d => congrArg Filing.purchaseId (same k d))
          fun k d => congrArg Filing.partNumber (same k d)
  | filed header userId free purchases documents =>
      obtain ⟨⟨_, there, -⟩, kept⟩ := upsertPurchase_spec header db.purchases
      refine ⟨fun j k d e hj hk hash => ?_, ?_, fun k d hk => ?_, ?_⟩
      · rw [documents] at hj hk
        rcases Table.insert_cases hj with ⟨rfl, rfl⟩ | hj
        · rcases Table.insert_cases hk with ⟨rfl, rfl⟩ | hk
          · rfl
          · exact absurd hash.symm (free k e hk)
        · rcases Table.insert_cases hk with ⟨rfl, rfl⟩ | hk
          · exact absurd hash (free j d hj)
          · exact h.hashes j k d e hj hk hash
      · rw [purchases]
        exact upsertPurchase_references _ _ h.references
      · rw [documents] at hk
        rw [purchases]
        rcases Table.insert_cases hk with ⟨rfl, rfl⟩ | hk
        · exact Option.isSome_of_eq_some there
        · obtain ⟨p, parent⟩ := Option.isSome_iff_exists.mp (h.parents k d hk)
          exact Option.isSome_of_eq_some (kept _ p parent)
      · rw [documents]
        exact h.parts.insert rfl

theorem FreshPurchases.filed (fresh : FreshPurchases db) : Filed db where
  hashes := fun j k d e hj => by
    rw [fresh.purchaseDocuments] at hj
    cases hj
  references := fun j k p q hj => by
    rw [fresh.purchases] at hj
    cases hj
  parents := fun k d hk => by
    rw [fresh.purchaseDocuments] at hk
    cases hk
  parts := fun g => by
    have none_ : db.purchaseDocuments.numbers PurchaseDocument.purchaseId
        PurchaseDocument.partNumber g = [] := by
      rw [Table.numbers, List.map_eq_nil_iff, List.eq_nil_iff_forall_not_mem]
      rintro ⟨k, d⟩ mem
      have found := (Table.mem_select.mp mem).1
      rw [fresh.purchaseDocuments] at found
      cases found
    rw [none_]
    rfl

/-- What stays filed through one run and the next stays filed through both. -/
theorem StaysFiled.trans {db'' : Db} (first : StaysFiled db db') (second : StaysFiled db' db'') :
    StaysFiled db db'' where
  purchases := fun k p found => second.purchases k p (first.purchases k p found)
  documents := fun k d found => by
    obtain ⟨d', found', same⟩ := first.documents k d found
    obtain ⟨d'', found'', same'⟩ := second.documents k d' found'
    exact ⟨d'', found'', same'.trans same⟩

/-- In every run, no two purchases have one order reference and no two documents one
hash, and the parts of every purchase are 1, 2, and so on, in the order of import.
Whatever runs on, a document stays filed as it was, and nothing is ever imported with
its hash again. -/
theorem documents_filed (revisionOf : ReviewPurchase → String) {db : Db}
    (fresh : FreshPurchases db) (ops later : List PurchaseOp) :
    Filed (run (purchaseStep revisionOf) db ops) ∧
    ∀ k d, (run (purchaseStep revisionOf) db ops).purchaseDocuments.get? k = some d →
      (∃ d', (run (purchaseStep revisionOf) db (ops ++ later)).purchaseDocuments.get? k = some d' ∧
        d'.filing = d.filing) ∧
      (∃ p, (run (purchaseStep revisionOf) db ops).purchases.get? d.purchaseId = some p ∧
        (run (purchaseStep revisionOf) db (ops ++ later)).purchases.get? d.purchaseId = some p) ∧
      ∀ userId normalised db', normalised.importHash = d.importHash →
        importPurchaseInvoice userId normalised (run (purchaseStep revisionOf) db (ops ++ later)) ≠
          .ok db' := by
  have filed : Filed (run (purchaseStep revisionOf) db ops) :=
    run_invariant (fun _ op h => h.step (purchaseStep_filing revisionOf _ op)) fresh.filed ops
  have stays : StaysFiled (run (purchaseStep revisionOf) db ops)
      (run (purchaseStep revisionOf) db (ops ++ later)) := by
    rw [run_append]
    exact run_rel_of (fun _ => ⟨fun _ _ found => found, fun _ d found => ⟨d, found, rfl⟩⟩)
      StaysFiled.trans fun t _ => (purchaseStep_filing revisionOf t.1 t.2).stays
  refine ⟨filed, fun k d found => ?_⟩
  obtain ⟨d', found', same⟩ := stays.documents k d found
  refine ⟨⟨d', found', same⟩, ?_, fun userId normalised db' hash => ?_⟩
  · obtain ⟨p, parent⟩ := Option.isSome_iff_exists.mp (filed.parents k d found)
    exact ⟨p, parent, stays.purchases _ p parent⟩
  · exact importPurchaseInvoice_refused found'
      (hash.trans (congrArg Filing.importHash same).symm)

end Runs

theorem empty_freshPurchases : FreshPurchases Db.empty :=
  ⟨fun _ => rfl, fun _ => rfl, fun _ => rfl, fun _ mem => by cases mem⟩

/-- Two manual documents of one order and one of another. -/
def filedPurchases : List PurchaseOp :=
  [.createManualPurchase 7 { samplePurchase with items := [sampleLine none, sampleLine none] } "a",
    .createManualPurchase 7
      { samplePurchase with
        sourceOrderReference := "206-2"
        items := [sampleLine none, sampleLine none] } "b",
    .createManualPurchase 8 { samplePurchase with items := [sampleLine none, sampleLine none] } "c"]

/-- Two documents of one order, the hash of one tried again. -/
theorem documents_filed_sample :
    partNumbers 1 (run (purchaseStep fun _ => "") Db.empty filedPurchases) = [1, 2] ∧
      Filed (run (purchaseStep fun _ => "") Db.empty filedPurchases) ∧
      ∀ userId db', importPurchaseInvoice userId { samplePurchase with importHash := "manual:c" }
        (run (purchaseStep fun _ => "") Db.empty filedPurchases) ≠ .ok db' := by
  obtain ⟨filed, kept⟩ := documents_filed (fun _ => "") empty_freshPurchases filedPurchases []
  obtain ⟨-, -, refused⟩ := kept 3 ⟨1, 2, none, "manual:c", none, 8, 2000, 101, 0, 2101⟩ rfl
  exact ⟨rfl, filed, fun userId db' => refused userId _ db' rfl⟩

end ColorfulLife
