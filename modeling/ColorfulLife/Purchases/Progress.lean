/-
Which purchase lines can still be received.

A line that is linked to a new listing is received directly; otherwise its group
has to be resolved first, which needs a group without a received line. An
external product id cannot be amended, so a line that shares one with a received
line is in its group for good (`Stuck`).
-/

import ColorfulLife.Purchases.Reconciliation

namespace ColorfulLife

open Relational Relation

/-! ### The law -/

/-- The requests of the review and the receipt of one line, by one user. -/
def PurchaseOp.ofReview (userId : Nat) : PurchaseOp → Prop
  | .resolveReviewGroup u _ _ _ _ | .setReviewGroupDisposition u _ _ _ _
  | .receiveReviewGroup u _ _ _ _ | .amendReviewLine u _ _ _ _ | .receivePurchaseItem u _ _ =>
      u = userId
  | _ => False

/-- Some requests of the user, one after the other, receive the line. -/
def CanReceive (revisionOf : ReviewPurchase → String) (userId k : Nat) (db : Db) : Prop :=
  ∃ ops : List PurchaseOp, (∀ op ∈ ops, op.ofReview userId) ∧ ∃ item,
    (run (purchaseStep revisionOf) db ops).purchaseItems.get? k = some item ∧
      item.receivedAt ≠ none

def LinkedToNew (db : Db) (item : PurchaseItem) : Prop :=
  ∃ listingId l, item.productListingId = some listingId ∧ db.listings.get? listingId = some l ∧
    l.condition = .new

section Groups

variable {db : Db} {userId purchaseId k : Nat} {purchase : ReviewPurchase} {item : PurchaseItem}
  {line : ReviewLine} {lines : List ReviewLine}

/-- Lines of a purchase are told apart by their ids. -/
theorem line_ext (h : readPurchase userId purchaseId db = .ok purchase) {line' : ReviewLine}
    (mem : line ∈ purchase.lines) (mem' : line' ∈ purchase.lines) (same : line.id = line'.id) :
    line = line' := by
  obtain ⟨k, item, d, rfl, found, -⟩ := (mem_lines h).mp mem
  obtain ⟨k', item', d', rfl, found', -⟩ := (mem_lines h).mp mem'
  obtain rfl : k = k' := same
  rw [Option.some.inj (found.symm.trans found')]

end Groups

/-! ### What the user can do -/

section Steps

variable {revisionOf : ReviewPurchase → String} {db : Db} {userId purchaseId k : Nat}
  {purchase : ReviewPurchase} {item : PurchaseItem}

theorem CanReceive.after (op : PurchaseOp) (own : op.ofReview userId)
    (h : CanReceive revisionOf userId k (purchaseStep revisionOf db op)) :
    CanReceive revisionOf userId k db := by
  obtain ⟨ops, review, item, found, received⟩ := h
  exact ⟨op :: ops, List.forall_mem_cons.mpr ⟨own, review⟩, item, found, received⟩

/-- A stored line has a positive quantity. -/
theorem DocumentsInv.positive (inv : DocumentsInv db)
    (found : db.purchaseItems.get? k = some item) : 0 < item.quantity := by
  obtain ⟨d, hd⟩ := Option.isSome_iff_exists.mp (inv.owned k item found)
  obtain ⟨row, -, calculated⟩ := inv.settled _ d hd
  apply (calculatePurchaseCosts_ok calculated).2.2.1 item.normalized
  apply List.mem_map.mpr
  exact ⟨item, List.mem_map.mpr ⟨(k, item), mem_documentItems.mpr ⟨found, rfl⟩, rfl⟩, rfl⟩

variable (revisionOf) in
theorem DocumentsInv.purchaseStep (inv : DocumentsInv db) (op : PurchaseOp) :
    DocumentsInv (purchaseStep revisionOf db op) :=
  changes_invariant (fun _ _ h change => h.change change) (purchaseStep_changes revisionOf db op) inv

end Steps

/-! ### What nobody can do -/

/-- The line is not linked to a new listing, and a received line names the same
product. -/
def Stuck (k : Nat) (db : Db) : Prop :=
  ∃ item j row, db.purchaseItems.get? k = some item ∧ item.receivedAt = none ∧
    ¬ LinkedToNew db item ∧ db.purchaseItems.get? j = some row ∧ row.receivedAt ≠ none ∧
    Companion db.purchaseDocuments item row

section Blocked

variable {db db' : Db} {k : Nat} {item : PurchaseItem}

/-- No booked change makes a listing new. -/
theorem Entered.linkedToNew {P : MovementNote → Prop} (h : Entered P db.stock db'.stock)
    (linked : LinkedToNew db' item) : LinkedToNew db item := by
  obtain ⟨ns, -, -, booked⟩ := h
  obtain ⟨listingId, l', link, hl', new⟩ := linked
  cases hl : db.listings.get? listingId with
  | none =>
      have used := (booked.added listingId l' hl hl').1
      rw [new] at used
      cases used
  | some l =>
      obtain ⟨l₁, hl₁, condition, -⟩ := booked.kept listingId l hl
      obtain rfl := Option.some.inj (hl₁.symm.trans hl')
      exact ⟨listingId, l, link, hl, condition.symm.trans new⟩

/-- A document stays with its purchase and its importer. -/
theorem PurchaseChange.document (change : PurchaseChange db db') {d : Nat}
    {document : PurchaseDocument} (found : db.purchaseDocuments.get? d = some document) :
    ∃ document', db'.purchaseDocuments.get? d = some document' ∧
      document'.purchaseId = document.purchaseId ∧
      document'.importedByUserId = document.importedByUserId := by
  cases change with
  | stored => exact ⟨document, Table.get?_insert_of_some found, rfl, rfl⟩
  | edited => exact ⟨document, found, rfl, rfl⟩
  | recalculated _ _ _ tx =>
      obtain ⟨calculated, -, rfl⟩ := recalculate_ok tx
      rw [Table.get?_update, found]
      split
      · exact ⟨_, rfl, rfl, rfl⟩
      · exact ⟨document, rfl, rfl, rfl⟩
  | received tx =>
      obtain ⟨_, _, _, -, -, -, -, -, -, -, rfl⟩ := receivePurchaseItem_eq_ok.mp tx
      exact ⟨document, found, rfl, rfl⟩
  | returned tx =>
      obtain ⟨_, _, _, -, -, -, -, -, -, -, rfl⟩ := returnPurchaseItem_eq_ok.mp tx
      exact ⟨document, found, rfl, rfl⟩

theorem PurchaseChange.companion (change : PurchaseChange db db') {i j i' j' : PurchaseItem}
    (h : Companion db.purchaseDocuments i j)
    (sameI : i'.purchaseDocumentId = i.purchaseDocumentId ∧
      i'.externalProductId = i.externalProductId)
    (sameJ : j'.purchaseDocumentId = j.purchaseDocumentId ∧
      j'.externalProductId = j.externalProductId) :
    Companion db'.purchaseDocuments i' j' := by
  obtain ⟨keys, named, d, e, hd, he, purchases, users⟩ := h
  obtain ⟨d', hd', purchaseD, userD⟩ := change.document hd
  obtain ⟨e', he', purchaseE, userE⟩ := change.document he
  rw [PurchaseItem.externalKey] at keys named
  refine ⟨?_, ?_, d', e', sameI.1 ▸ hd', sameJ.1 ▸ he', ?_, ?_⟩
  · rw [PurchaseItem.externalKey, PurchaseItem.externalKey, sameI.2, sameJ.2]
    exact keys
  · rw [PurchaseItem.externalKey, sameI.2]
    exact named
  · rw [purchaseD, purchaseE, purchases]
  · rw [userD, userE, users]

/-- What a change makes of an unreceived line: it is received only when it is
linked to a new listing, and linked only while no companion is received. -/
theorem PurchaseChange.unreceived_line (change : PurchaseChange db db')
    (found : db.purchaseItems.get? k = some item) (before : item.receivedAt = none) :
    ∃ item', db'.purchaseItems.get? k = some item' ∧
      (item'.purchaseDocumentId = item.purchaseDocumentId ∧
        item'.externalProductId = item.externalProductId) ∧
      (item'.receivedAt = none ∨ LinkedToNew db item) ∧
      ∀ id, item'.productListingId = some id → item.productListingId = some id ∨
        ∀ j row, db.purchaseItems.get? j = some row → Companion db.purchaseDocuments item row →
          row.receivedAt = none := by
  have same : (item.purchaseDocumentId = item.purchaseDocumentId ∧
      item.externalProductId = item.externalProductId) ∧
      (item.receivedAt = none ∨ LinkedToNew db item) ∧
      ∀ id, item.productListingId = some id → item.productListingId = some id ∨
        ∀ j row, db.purchaseItems.get? j = some row → Companion db.purchaseDocuments item row →
          row.receivedAt = none :=
    ⟨⟨rfl, rfl⟩, Or.inl before, fun _ => Or.inl⟩
  cases change with
  | stored => exact ⟨item, Table.get?_insertAll_of_some found, same⟩
  | @edited f rows =>
      refine ⟨f k item, by rw [Table.get?_modify, found]; rfl, ?_⟩
      rcases rows k item found with kept | edit
      · rw [kept]
        exact same
      · exact ⟨⟨edit.document, edit.external⟩, Or.inl edit.after, fun id link =>
          (edit.linked id link).imp_right And.right⟩
  | recalculated _ _ _ tx =>
      obtain ⟨item', hitem'⟩ : ∃ item', db'.purchaseItems.get? k = some item' := by
        obtain ⟨calculated, -, rfl⟩ := recalculate_ok tx
        rw [Table.updateAll_eq_modify (fun e : ReviewLine × CalculatedPurchaseItem => e.1.id),
          Table.get?_modify, found]
        exact ⟨_, rfl⟩
      obtain ⟨i, hi, kept⟩ := recalculate_row tx hitem'
      obtain rfl := Option.some.inj (hi.symm.trans found)
      refine ⟨item', hitem', ?_⟩
      rcases kept with rfl | ⟨-, calculated, rfl⟩
      · exact same
      · exact same
  | @received userId purchaseItemId now _ tx =>
      obtain ⟨other, listingId, l, own, -, -, link, hl, new, -, rfl⟩ :=
        receivePurchaseItem_eq_ok.mp tx
      rw [Table.get?_update, found]
      split
      · subst k
        obtain rfl := Option.some.inj ((ownPurchaseItem_found own).symm.trans found)
        exact ⟨_, rfl, ⟨rfl, rfl⟩, Or.inr ⟨listingId, l, link, hl, new⟩, fun _ => Or.inl⟩
      · exact ⟨item, rfl, same⟩
  | @returned userId purchaseItemId now _ tx =>
      obtain ⟨other, listingId, l, own, received, -, -, -, -, -, rfl⟩ :=
        returnPurchaseItem_eq_ok.mp tx
      rw [Table.get?_update, found]
      split
      · subst k
        obtain rfl := Option.some.inj ((ownPurchaseItem_found own).symm.trans found)
        exact absurd before received
      · exact ⟨item, rfl, same⟩

/-- A stuck line stays stuck. -/
theorem Stuck.change (h : Stuck k db) (change : PurchaseChange db db') : Stuck k db' := by
  obtain ⟨item, j, row, found, before, unlinked, hrow, received, companion⟩ := h
  obtain ⟨item', found', same, after, link⟩ := change.unreceived_line found before
  obtain ⟨row', hrow', frozen⟩ := change.frozen hrow received
  refine ⟨item', j, row', found', after.resolve_right unlinked, fun linked => ?_, hrow',
    frozen.received received, change.companion companion same ?_⟩
  · obtain ⟨id, l, hid, hl, new⟩ := change.entered.linkedToNew linked
    rcases link id hid with old | alone
    · exact unlinked ⟨id, l, old, hl, new⟩
    · exact received (alone j row hrow companion)
  · rw [frozen]
    exact ⟨rfl, rfl⟩

end Blocked

/-! ### The law, and a line that is stuck -/

end ColorfulLife
