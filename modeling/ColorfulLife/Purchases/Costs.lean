/-
The cost engine of purchase documents (`domain/purchases/purchaseImport.ts`).

Amounts are whole pence. The engine checks the document, splits shipping and
discount over the lines in proportion to their totals, and reconciles the result
with what was paid. `calculatePurchaseCosts_ok` says what a calculated document
satisfies.
-/

import ColorfulLife.Apportion.LargestRemainder
import ColorfulLife.Relational.Transaction
import ColorfulLife.Schema.Errors

namespace ColorfulLife

open Relational

/-! ### Documents -/

structure NormalizedPurchaseItem where
  sourceLineNumber : Option Int
  externalProductId : Option String
  sourceDescription : String
  sourceSetNumber : Option String
  productListingId : Option Nat
  quantity : Int
  originalGrossUnitCost : Pence
  originalGrossLineTotal : Pence
  deriving DecidableEq, Repr

/-- What a document says apart from its lines. The source keeps its dates as texts, and
here they are what `new Date` makes of them. -/
structure PurchaseHeader where
  importHash : String
  sourceOrderReference : String
  sourceOrderDate : Option JsDate
  merchantName : Option String
  sourceInvoiceReference : Option String
  sourceDocumentDate : Option JsDate
  originalGrossMerchandiseTotal : Pence
  shippingTotal : Pence
  discountTotal : Pence
  finalTotalPaid : Pence
  deriving DecidableEq, Repr

structure NormalizedPurchaseDocument extends PurchaseHeader where
  items : List NormalizedPurchaseItem
  deriving DecidableEq, Repr

/-- `finalUnitCost` is in millionths of a pound. -/
structure CalculatedPurchaseItem extends NormalizedPurchaseItem where
  allocatedShipping : Pence
  allocatedDiscount : Pence
  finalLineCost : Pence
  finalUnitCost : Int
  deriving DecidableEq, Repr

structure CalculatedPurchaseDocument extends PurchaseHeader where
  items : List CalculatedPurchaseItem
  deriving DecidableEq, Repr

/-! ### Checks -/

/-- `Number.isSafeInteger(n) && n >= 0`. -/
def isSafeAmount (n : Int) : Prop := 0 ≤ n ∧ n ≤ maxSafeInteger

instance (n : Int) : Decidable (isSafeAmount n) := by unfold isSafeAmount; infer_instance

def validatePurchaseItem (item : NormalizedPurchaseItem) (idx : Nat) : Result PUnit := do
  ensure (trim item.sourceDescription ≠ "")
    (DomainError.purchaseValidation s!"Item {idx} sourceDescription is required")
  ensure (0 < item.quantity) (DomainError.purchaseValidation
    s!"Item {idx} has non‑positive integer quantity: {item.quantity}")
  ensure (isSafeAmount item.originalGrossUnitCost) (DomainError.purchaseValidation
    s!"Item {idx} has invalid unit cost: {item.originalGrossUnitCost}")
  ensure (isSafeAmount item.originalGrossLineTotal) (DomainError.purchaseValidation
    s!"Item {idx} has invalid line total: {item.originalGrossLineTotal}")

def lineTotals (items : List NormalizedPurchaseItem) : List Pence :=
  items.map NormalizedPurchaseItem.originalGrossLineTotal

def validatePurchaseDocument (doc : NormalizedPurchaseDocument) : Result PUnit := do
  ensure (trim doc.importHash ≠ "")
    (DomainError.purchaseValidation "importHash is required and cannot be empty")
  ensure (trim doc.sourceOrderReference ≠ "")
    (DomainError.purchaseValidation "sourceOrderReference is required and cannot be empty")
  ensure (doc.items ≠ []) (DomainError.purchaseValidation "Document must contain at least one item")
  forM doc.items.zipIdx fun e => validatePurchaseItem e.1 e.2
  ensure (isSafeAmount doc.originalGrossMerchandiseTotal) (DomainError.purchaseValidation
    "originalGrossMerchandiseTotal must be a non‑negative integer")
  ensure (isSafeAmount doc.shippingTotal)
    (DomainError.purchaseValidation "shippingTotal must be a non‑negative integer")
  ensure (isSafeAmount doc.discountTotal)
    (DomainError.purchaseValidation "discountTotal must be a non‑negative integer")
  ensure (isSafeAmount doc.finalTotalPaid)
    (DomainError.purchaseValidation "finalTotalPaid must be a non‑negative integer")
  ensure ((lineTotals doc.items).sum = doc.originalGrossMerchandiseTotal)
    (DomainError.merchandiseTotalMismatch doc.originalGrossMerchandiseTotal
      (lineTotals doc.items).sum)
  ensure (0 ≤ doc.originalGrossMerchandiseTotal + doc.shippingTotal - doc.discountTotal)
    (DomainError.purchaseValidation
      "Negative acquisition cost after applying shipping and discount")

/-! ### Allocation -/

/-- `Largest Remainder Method` over the line totals. -/
def allocateProportional (totalMerchandiseSum totalAmount : Pence)
    (items : List NormalizedPurchaseItem) : Result (List Pence) :=
  if totalAmount = 0 then .ok (items.map fun _ => 0)
  else if totalMerchandiseSum = 0 then
    .error (.purchaseValidation
      "Cannot allocate proportional amounts when merchandise total is zero")
  else .ok (Apportion.apportion totalMerchandiseSum totalAmount (lineTotals items))

/-- The unit cost, rounded to the nearest millionth. -/
def unitCostMillionths (finalLineCost quantity : Int) : Int :=
  (finalLineCost * 10000 + quantity / 2) / quantity

def calculatePurchaseItem (item : NormalizedPurchaseItem) (shipping discount : Pence) (idx : Nat) :
    Result CalculatedPurchaseItem := do
  let finalLineCost := item.originalGrossLineTotal + shipping - discount
  ensure (0 ≤ finalLineCost)
    (DomainError.purchaseValidation s!"Item {idx} final line cost is negative: {finalLineCost}")
  ensure (finalLineCost ≤ maxSafeInteger) (DomainError.purchaseValidation
    s!"Item {idx} final line cost exceeds Number.MAX_SAFE_INTEGER")
  return { item with
    allocatedShipping := shipping
    allocatedDiscount := discount
    finalLineCost := finalLineCost
    finalUnitCost := unitCostMillionths finalLineCost item.quantity }

def calculatePurchaseCosts (doc : NormalizedPurchaseDocument) :
    Result CalculatedPurchaseDocument := do
  let _ ← validatePurchaseDocument doc
  let shippingAllocations ←
    allocateProportional doc.originalGrossMerchandiseTotal doc.shippingTotal doc.items
  let discountAllocations ←
    allocateProportional doc.originalGrossMerchandiseTotal doc.discountTotal doc.items
  let calculatedItems ← (doc.items.zip (shippingAllocations.zip discountAllocations)).zipIdx.mapM
    fun e => calculatePurchaseItem e.1.1 e.1.2.1 e.1.2.2 e.2
  let finalLineCostSum := (calculatedItems.map CalculatedPurchaseItem.finalLineCost).sum
  let expectedSum := doc.originalGrossMerchandiseTotal + doc.shippingTotal - doc.discountTotal
  ensure (finalLineCostSum = expectedSum) (DomainError.costReconciliationFailed
    s!"Sum of final line costs ({finalLineCostSum}) does not equal expected ({expectedSum})")
  ensure (finalLineCostSum = doc.finalTotalPaid) (DomainError.costReconciliationFailed
    (s!"Sum of final line costs ({finalLineCostSum}) does not match finalTotalPaid " ++
      s!"({doc.finalTotalPaid})"))
  return { doc.toPurchaseHeader with items := calculatedItems }

/-! ### What a calculated document satisfies -/

/-- The five sums of a document, and the costs of its lines. -/
structure Reconciled (header : PurchaseHeader) (items : List CalculatedPurchaseItem) : Prop where
  merchandise : (items.map (·.originalGrossLineTotal)).sum = header.originalGrossMerchandiseTotal
  shipping : (items.map (·.allocatedShipping)).sum = header.shippingTotal
  discount : (items.map (·.allocatedDiscount)).sum = header.discountTotal
  paid : (items.map (·.finalLineCost)).sum = header.finalTotalPaid
  costs : ∀ item ∈ items, 0 ≤ item.finalLineCost ∧ item.finalLineCost =
    item.originalGrossLineTotal + item.allocatedShipping - item.allocatedDiscount

section Calculated

variable {doc : NormalizedPurchaseDocument} {calculated : CalculatedPurchaseDocument}
  {items : List NormalizedPurchaseItem} {total amount : Pence} {shares : List Pence}

theorem allocateProportional_ok (sum : (lineTotals items).sum = total) (nonneg : 0 ≤ total)
    (h : allocateProportional total amount items = .ok shares) :
    shares.length = items.length ∧ shares.sum = amount := by
  unfold allocateProportional at h
  split at h
  · obtain rfl := Except.ok.inj h
    exact ⟨List.length_map .., by simp [*]⟩
  · split at h
    · cases h
    · rename_i nonzero
      obtain rfl := Except.ok.inj h
      exact ⟨by simp [lineTotals],
        Apportion.sum_apportion (lt_of_le_of_ne nonneg (Ne.symm nonzero)) sum⟩

theorem calculatePurchaseItem_ok {item : NormalizedPurchaseItem} {shipping discount : Pence}
    {idx : Nat} {calculated : CalculatedPurchaseItem}
    (h : calculatePurchaseItem item shipping discount idx = .ok calculated) :
    0 ≤ calculated.finalLineCost ∧ calculated = { item with
      allocatedShipping := shipping
      allocatedDiscount := discount
      finalLineCost := item.originalGrossLineTotal + shipping - discount
      finalUnitCost := unitCostMillionths (item.originalGrossLineTotal + shipping - discount)
        item.quantity } := by
  simp only [calculatePurchaseItem, bind_eq_ok, ensure_eq_ok, pure_eq_ok] at h
  obtain ⟨-, nonneg, -, -, rfl⟩ := h
  exact ⟨nonneg, rfl⟩

/-- The calculated lines are the lines with their two allocations. -/
theorem calculatedItems_ok {shipping discount : List Pence} {start : Nat}
    {calculated : List CalculatedPurchaseItem} (hs : shipping.length = items.length)
    (hd : discount.length = items.length)
    (h : ((items.zip (shipping.zip discount)).zipIdx start).mapM
      (fun e => calculatePurchaseItem e.1.1 e.1.2.1 e.1.2.2 e.2) = .ok calculated) :
    calculated.map CalculatedPurchaseItem.toNormalizedPurchaseItem = items ∧
      calculated.map (·.allocatedShipping) = shipping ∧
      calculated.map (·.allocatedDiscount) = discount ∧
      ∀ item ∈ calculated, 0 ≤ item.finalLineCost ∧ item.finalLineCost =
        item.originalGrossLineTotal + item.allocatedShipping - item.allocatedDiscount := by
  induction items generalizing shipping discount start calculated with
  | nil =>
      obtain rfl := List.length_eq_zero_iff.mp hs
      obtain rfl := List.length_eq_zero_iff.mp hd
      obtain rfl : [] = calculated := pure_eq_ok.mp h
      simp
  | cons item items ih =>
      obtain ⟨s, shipping, rfl⟩ := List.exists_cons_of_length_eq_add_one hs
      obtain ⟨d, discount, rfl⟩ := List.exists_cons_of_length_eq_add_one hd
      simp only [List.zip_cons_cons, List.zipIdx_cons, List.mapM_cons, bind_eq_ok,
        pure_eq_ok] at h
      obtain ⟨first, hfirst, rest, hrest, rfl⟩ := h
      obtain ⟨source, shipped, discounted, costs⟩ :=
        ih (Nat.succ.inj hs) (Nat.succ.inj hd) hrest
      obtain ⟨nonneg, rfl⟩ := calculatePurchaseItem_ok hfirst
      refine ⟨by simp [source], by simp [shipped], by simp [discounted], ?_⟩
      intro c hc
      rcases List.mem_cons.mp hc with rfl | hc
      · exact ⟨nonneg, rfl⟩
      · exact costs c hc

/-- A calculated document is its source with allocations, and reconciles. -/
theorem calculatePurchaseCosts_ok (h : calculatePurchaseCosts doc = .ok calculated) :
    calculated.toPurchaseHeader = doc.toPurchaseHeader ∧
      calculated.items.map CalculatedPurchaseItem.toNormalizedPurchaseItem = doc.items ∧
      (∀ item ∈ doc.items, 0 < item.quantity) ∧
      Reconciled doc.toPurchaseHeader calculated.items := by
  simp only [calculatePurchaseCosts, validatePurchaseDocument, bind_eq_ok, ensure_eq_ok,
    pure_eq_ok, forM_eq_ok] at h
  obtain ⟨-, ⟨-, -, -, -, -, -, -, valid, -, gross, -, -, -, -, -, -, -, sum, -⟩, shipping,
    hshipping, discount, hdiscount, items, hitems, -, -, -, paid, rfl⟩ := h
  obtain ⟨shippingLength, shippingSum⟩ := allocateProportional_ok sum gross.1 hshipping
  obtain ⟨discountLength, discountSum⟩ := allocateProportional_ok sum gross.1 hdiscount
  obtain ⟨source, shipped, discounted, costs⟩ :=
    calculatedItems_ok shippingLength discountLength hitems
  refine ⟨rfl, source, fun item hitem => ?_, ?_⟩
  · obtain ⟨i, hi⟩ := List.mem_iff_getElem?.mp hitem
    have checked := valid (item, i) (List.mem_zipIdx_iff_getElem?.mpr hi)
    simp only [validatePurchaseItem, bind_eq_ok, ensure_eq_ok] at checked
    obtain ⟨-, -, -, positive, -⟩ := checked
    exact positive
  · refine ⟨?_, shipped ▸ shippingSum, discounted ▸ discountSum, paid, costs⟩
    rw [← sum, lineTotals, ← source, List.map_map]
    rfl

end Calculated

end ColorfulLife
