/-
What an amendment writes, against the columns it is written to.

The guards of `amendReviewLine` bound the totals of a document by what
`Decimal(12, 2)` holds, and every amount of money on a line is within one of
them. The unit cost has six decimal places and therefore two digits less before
the point: it fits exactly when no line costs £100,000,000 or more a unit.
-/

import ColorfulLife.Purchases.Allocation
import ColorfulLife.Purchases.Changes

namespace ColorfulLife

open Relational

/-! ### Columns -/

/-- What `Decimal(precision, scale)` holds without rounding. -/
def FitsDecimal (precision scale : Nat) (value : ℚ) : Prop :=
  ∃ n : Int, value * 10 ^ scale = n ∧ |n| < 10 ^ precision

theorem fitsDecimal_div {precision scale : Nat} {n : Int} :
    FitsDecimal precision scale ((n : ℚ) / 10 ^ scale) ↔ |n| < 10 ^ precision := by
  have scaled : (n : ℚ) / 10 ^ scale * 10 ^ scale = n := div_mul_cancel₀ _ (by positivity)
  constructor
  · rintro ⟨m, same, bound⟩
    rw [scaled] at same
    exact Int.cast_injective same ▸ bound
  · intro bound
    exact ⟨n, scaled, bound⟩

/-- Pence in a `Decimal(12, 2)` of pounds. -/
def FitsPounds (p : Pence) : Prop := FitsDecimal 12 2 ((p : ℚ) / 10 ^ 2)

/-- Millionths in a `Decimal(14, 6)` of pounds. -/
def FitsUnitCost (millionths : Int) : Prop := FitsDecimal 14 6 ((millionths : ℚ) / 10 ^ 6)

/-- A 32-bit `Int`. -/
def FitsInt (n : Int) : Prop := -2 ^ 31 ≤ n ∧ n < 2 ^ 31

/-- `Number.isSafeInteger(n)`. -/
def isSafeInteger (n : Int) : Prop := |n| ≤ maxSafeInteger

structure PurchaseItem.FitsSchema (item : PurchaseItem) : Prop where
  quantity : FitsInt item.quantity
  originalGrossUnitCost : FitsPounds item.originalGrossUnitCost
  originalGrossLineTotal : FitsPounds item.originalGrossLineTotal
  allocatedShipping : FitsPounds item.allocatedShipping
  allocatedDiscount : FitsPounds item.allocatedDiscount
  finalLineCost : FitsPounds item.finalLineCost
  finalUnitCost : FitsUnitCost item.finalUnitCost

structure PurchaseDocument.FitsSchema (document : PurchaseDocument) : Prop where
  originalGrossMerchandiseTotal : FitsPounds document.originalGrossMerchandiseTotal
  shippingTotal : FitsPounds document.shippingTotal
  discountTotal : FitsPounds document.discountTotal
  finalTotalPaid : FitsPounds document.finalTotalPaid

theorem fitsPounds_iff {p : Pence} : FitsPounds p ↔ |p| < 1000000000000 := fitsDecimal_div

theorem fitsUnitCost_iff {millionths : Int} :
    FitsUnitCost millionths ↔ |millionths| < 100000000000000 := fitsDecimal_div

/-- An amount from nothing to what an amended document may come to. -/
theorem fitsPounds_of_le {p : Pence} (nonneg : 0 ≤ p) (le : p ≤ maxAmendedTotal) :
    FitsPounds p := by
  rw [fitsPounds_iff, abs_of_nonneg nonneg]
  exact Int.lt_of_le_of_lt le (by decide)

/-! ### An accepted amendment -/

section Accepted

variable (revisionOf : ReviewPurchase → String)

/-- The amendment passes the schema, the guards of `amendReviewLine` and those of
`calculatePurchaseCosts`. -/
structure AmendmentAccepted (db : Db) (userId purchaseId itemId : Nat) (revision : String)
    (input body : Amendment) (purchase : ReviewPurchase) (doc : ReviewDocument)
    (line : ReviewLine) : Prop where
  parsed : input.parse = .ok body
  read : readPurchase userId purchaseId db = .ok purchase
  current : revisionOf purchase = revision
  document : (purchase.purchaseDocuments.find? fun d =>
    decide (∃ l ∈ d.purchaseItems, l.id = itemId)) = some doc
  item : (doc.purchaseItems.find? fun l => decide (l.id = itemId)) = some line
  unreceived : line.item.receivedAt = none
  whole : body.changesCost line.item → (∀ l ∈ doc.purchaseItems, l.item.receivedAt = none) ∧
    line.item.originalGrossUnitCost * line.item.quantity = line.item.originalGrossLineTotal
  total : body.changesCost line.item →
    (amendedDocument purchase doc itemId body).originalGrossMerchandiseTotal ≤ maxAmendedTotal ∧
      (amendedDocument purchase doc itemId body).finalTotalPaid ≤ maxAmendedTotal
  costs : body.changesCost line.item → ∃ calculated,
    calculatePurchaseCosts (amendedDocument purchase doc itemId body) = .ok calculated

end Accepted

/-- The rows that a recalculated document is written to. -/
def recostedItems (doc : ReviewDocument) (calculated : CalculatedPurchaseDocument) :
    List PurchaseItem :=
  (doc.purchaseItems.zip calculated.items).map fun e => e.1.item.recost e.2

def retotalledDocument (doc : ReviewDocument) (calculated : CalculatedPurchaseDocument) :
    PurchaseDocument :=
  doc.document.retotal calculated.originalGrossMerchandiseTotal calculated.finalTotalPaid

/-- What the recalculation passes through, in pence: the amounts of the lines,
the totals of the document, and everything that is added up on the way. -/
def intermediateSums (doc : NormalizedPurchaseDocument) (calculated : CalculatedPurchaseDocument) :
    List Int :=
  let floors := fun amount =>
    Apportion.floors doc.originalGrossMerchandiseTotal amount (lineTotals doc.items)
  let costs := calculated.items.map CalculatedPurchaseItem.finalLineCost
  doc.items.map NormalizedPurchaseItem.originalGrossUnitCost ++
    (lineTotals doc.items ++ (lineTotals doc.items).scanl (· + ·) 0) ++
    [doc.shippingTotal, doc.discountTotal,
      doc.originalGrossMerchandiseTotal + doc.shippingTotal,
      doc.originalGrossMerchandiseTotal + doc.shippingTotal - doc.discountTotal] ++
    (floors doc.shippingTotal).scanl (· + ·) 0 ++
    [doc.shippingTotal - (floors doc.shippingTotal).sum] ++
    (floors doc.discountTotal).scanl (· + ·) 0 ++
    [doc.discountTotal - (floors doc.discountTotal).sum] ++
    costs ++ costs.scanl (· + ·) 0

/-- Everything that an accepted amendment writes fits, and so do the sums on the
way. An amendment that keeps quantity and unit cost writes no amounts. -/
structure AmendmentFits (purchase : ReviewPurchase) (doc : ReviewDocument) (line : ReviewLine)
    (body : Amendment) : Prop where
  rows : ∀ calculated, body.changesCost line.item →
    calculatePurchaseCosts (amendedDocument purchase doc line.id body) = .ok calculated →
      ∀ row ∈ recostedItems doc calculated, row.FitsSchema
  document : ∀ calculated, body.changesCost line.item →
    calculatePurchaseCosts (amendedDocument purchase doc line.id body) = .ok calculated →
      (retotalledDocument doc calculated).FitsSchema
  sums : ∀ calculated, body.changesCost line.item →
    calculatePurchaseCosts (amendedDocument purchase doc line.id body) = .ok calculated →
      ∀ n ∈ intermediateSums (amendedDocument purchase doc line.id body) calculated, isSafeInteger n

/-! ### The bound of a unit cost -/

/-- £100,000,000: a unit cost of `Decimal(14, 6)` stays below. -/
def unitCostBound : Pence := 10000000000

/-- The line's total, with its part of shipping and discount by largest remainders. -/
def allocatedCost (doc : NormalizedPurchaseDocument) (i : Nat) (item : NormalizedPurchaseItem) :
    Pence :=
  item.originalGrossLineTotal + Apportion.shareAt (lineTotals doc.items) doc.shippingTotal i -
    Apportion.shareAt (lineTotals doc.items) doc.discountTotal i

/-- No line costs £100,000,000 or more for each of its units. -/
def UnitCostsBelow (doc : NormalizedPurchaseDocument) : Prop :=
  ∀ (i : Nat) item, doc.items[i]? = some item →
    allocatedCost doc i item < unitCostBound * item.quantity

/-- The rounding to the nearest millionth does not cross the bound: an amount
that comes so near is of many pence. -/
theorem unitCostMillionths_lt_iff {cost quantity : Int} (pos : 0 < quantity)
    (le : cost ≤ maxAmendedTotal) :
    unitCostMillionths cost quantity < 100000000000000 ↔ cost < unitCostBound * quantity := by
  rw [unitCostMillionths, Int.ediv_lt_iff_lt_mul pos, unitCostBound]
  unfold maxAmendedTotal at le
  constructor
  · intro below
    omega
  · intro below
    omega

theorem unitCostMillionths_nonneg {cost quantity : Int} (pos : 0 < quantity) (nonneg : 0 ≤ cost) :
    0 ≤ unitCostMillionths cost quantity :=
  Int.ediv_nonneg (by omega) pos.le

/-! ### Sums on the way -/

/-- The sums on the way to a sum of amounts lie between nothing and all of it. -/
theorem mem_scanl_add {amounts : List Int} {start n : Int} (nonneg : ∀ a ∈ amounts, 0 ≤ a)
    (mem : n ∈ amounts.scanl (· + ·) start) : start ≤ n ∧ n ≤ start + amounts.sum := by
  induction amounts generalizing start with
  | nil =>
      obtain rfl := List.mem_singleton.mp mem
      simp
  | cons a amounts ih =>
      have own : 0 ≤ a := nonneg a List.mem_cons_self
      have others : ∀ b ∈ amounts, 0 ≤ b := fun b hb => nonneg b (List.mem_cons_of_mem _ hb)
      have rest : 0 ≤ amounts.sum := List.sum_nonneg others
      rw [List.sum_cons]
      rw [List.scanl_cons, List.mem_cons] at mem
      rcases mem with rfl | mem
      · omega
      · obtain ⟨low, high⟩ := ih others mem
        omega

section Shares

variable {totals : List Pence} {total amount : Pence}

/-- The floors are amounts, and come to no more than what is split. -/
theorem floors_bounds (nonneg : ∀ t ∈ totals, 0 ≤ t) (sum : totals.sum = total)
    (amount_nonneg : 0 ≤ amount) :
    (∀ f ∈ Apportion.floors total amount totals, 0 ≤ f) ∧
      (Apportion.floors total amount totals).sum ≤ amount := by
  have total_nonneg : 0 ≤ total := sum ▸ List.sum_nonneg nonneg
  constructor
  · intro f mem
    obtain ⟨t, ht, rfl⟩ := List.mem_map.mp mem
    exact Int.ediv_nonneg (mul_nonneg (nonneg t ht) amount_nonneg) total_nonneg
  · rcases total_nonneg.eq_or_lt with zero | pos
    · have none_ : Apportion.floors total amount totals = totals.map fun _ => 0 := by
        simp [Apportion.floors, ← zero]
      simpa [none_] using amount_nonneg
    · have left := (Apportion.left_bounds amount pos sum).1
      omega

/-- A share is part of what is split. -/
theorem share_bounds (nonneg : ∀ t ∈ totals, 0 ≤ t) (sum : totals.sum = total)
    (amount_nonneg : 0 ≤ amount) (splits : 0 < total ∨ amount = 0) :
    ∀ share ∈ Apportion.apportion total amount totals, 0 ≤ share ∧ share ≤ amount := by
  intro share mem
  rcases splits with pos | rfl
  · subst sum
    have fair := fairShares_apportion nonneg pos amount_nonneg
    have whole := List.single_le_sum fair.nonneg share mem
    rw [fair.sum] at whole
    exact ⟨fair.nonneg share mem, whole⟩
  · rw [Apportion.apportion_zero] at mem
    obtain ⟨t, -, rfl⟩ := List.mem_map.mp mem
    exact ⟨le_rfl, le_rfl⟩

/-- An allocation that goes through is one by largest remainders. -/
theorem allocateProportional_shares {items : List NormalizedPurchaseItem} {shares : List Pence}
    (nonneg : 0 ≤ total) (h : allocateProportional total amount items = .ok shares) :
    shares = Apportion.apportion total amount (lineTotals items) ∧ (0 < total ∨ amount = 0) := by
  unfold allocateProportional at h
  by_cases none_ : amount = 0
  · rw [if_pos none_] at h
    subst none_
    refine ⟨?_, Or.inr rfl⟩
    rw [Apportion.apportion_zero, lineTotals, List.map_map]
    exact (Except.ok.inj h).symm
  · rw [if_neg none_] at h
    by_cases zero : total = 0
    · rw [if_pos zero] at h
      cases h
    · rw [if_neg zero] at h
      exact ⟨(Except.ok.inj h).symm, Or.inl (lt_of_le_of_ne nonneg (Ne.symm zero))⟩

end Shares

/-! ### A calculated document -/

section Calculated

variable {doc : NormalizedPurchaseDocument} {calculated : CalculatedPurchaseDocument}

/-- What the checks of the cost engine say of a document it calculated. -/
structure CheckedDocument (doc : NormalizedPurchaseDocument) : Prop where
  quantities : ∀ item ∈ doc.items, 0 < item.quantity
  unitCosts : ∀ item ∈ doc.items, isSafeAmount item.originalGrossUnitCost
  totals : ∀ total ∈ lineTotals doc.items, 0 ≤ total
  sum : (lineTotals doc.items).sum = doc.originalGrossMerchandiseTotal
  merchandise : 0 ≤ doc.originalGrossMerchandiseTotal
  shipping : 0 ≤ doc.shippingTotal
  discount : 0 ≤ doc.discountTotal
  paid : 0 ≤ doc.finalTotalPaid
  splitsShipping : 0 < doc.originalGrossMerchandiseTotal ∨ doc.shippingTotal = 0
  splitsDiscount : 0 < doc.originalGrossMerchandiseTotal ∨ doc.discountTotal = 0

theorem validatePurchaseItem_ok {item : NormalizedPurchaseItem} {idx : Nat} {u : PUnit}
    (h : validatePurchaseItem item idx = .ok u) : 0 < item.quantity ∧
      isSafeAmount item.originalGrossUnitCost ∧ isSafeAmount item.originalGrossLineTotal := by
  simp only [validatePurchaseItem, bind_eq_ok, ensure_eq_ok] at h
  obtain ⟨-, -, -, positive, -, unit, total⟩ := h
  exact ⟨positive, unit, total⟩

theorem checkedDocument_of_ok (h : calculatePurchaseCosts doc = .ok calculated) :
    CheckedDocument doc := by
  simp only [calculatePurchaseCosts, validatePurchaseDocument, bind_eq_ok, ensure_eq_ok,
    pure_eq_ok, forM_eq_ok] at h
  obtain ⟨-, ⟨-, -, -, -, -, -, -, valid, -, gross, -, ship, -, disc, -, paid, -, sum, -⟩,
    shipping, hshipping, discount, hdiscount, -⟩ := h
  have line : ∀ item ∈ doc.items, 0 < item.quantity ∧ isSafeAmount item.originalGrossUnitCost ∧
      isSafeAmount item.originalGrossLineTotal := by
    intro item mem
    obtain ⟨i, hi⟩ := List.mem_iff_getElem?.mp mem
    exact validatePurchaseItem_ok (valid (item, i) (List.mem_zipIdx_iff_getElem?.mpr hi))
  refine ⟨fun item mem => (line item mem).1, fun item mem => (line item mem).2.1, ?_, sum, gross.1,
    ship.1, disc.1, paid.1, (allocateProportional_shares gross.1 hshipping).2,
    (allocateProportional_shares gross.1 hdiscount).2⟩
  intro total mem
  obtain ⟨item, hitem, rfl⟩ := List.mem_map.mp mem
  exact (line item hitem).2.2.1

/-- A calculated line is a line of the document with its two shares, what it then
costs, and that cost for one unit. -/
theorem calculatedLine (h : calculatePurchaseCosts doc = .ok calculated) {i : Nat}
    {c : CalculatedPurchaseItem} (here : calculated.items[i]? = some c) :
    ∃ item, doc.items[i]? = some item ∧ c = { item with
      allocatedShipping := Apportion.shareAt (lineTotals doc.items) doc.shippingTotal i
      allocatedDiscount := Apportion.shareAt (lineTotals doc.items) doc.discountTotal i
      finalLineCost := allocatedCost doc i item
      finalUnitCost := unitCostMillionths (allocatedCost doc i item) item.quantity } := by
  have checked := checkedDocument_of_ok h
  simp only [calculatePurchaseCosts, bind_eq_ok, ensure_eq_ok, pure_eq_ok] at h
  obtain ⟨-, -, shipping, hshipping, discount, hdiscount, items, hitems, -, -, -, -, rfl⟩ := h
  obtain ⟨e, he, line⟩ := mapM_getElem? hitems here
  have zipped : (doc.items.zip (shipping.zip discount))[i]? = some e.1 ∧ e.2 = i := by
    rw [List.getElem?_zipIdx, Option.map_eq_some_iff] at he
    obtain ⟨a, ha, rfl⟩ := he
    exact ⟨ha, Nat.zero_add i⟩
  obtain ⟨hitem, shares⟩ := List.getElem?_zip_eq_some.mp zipped.1
  obtain ⟨ship, disc⟩ := List.getElem?_zip_eq_some.mp shares
  have total : (lineTotals doc.items)[i]? = some e.1.1.originalGrossLineTotal := by
    rw [lineTotals, List.getElem?_map, hitem, Option.map_some]
  rw [(allocateProportional_shares checked.merchandise hshipping).1, ← checked.sum,
    Apportion.getElem?_apportion total] at ship
  rw [(allocateProportional_shares checked.merchandise hdiscount).1, ← checked.sum,
    Apportion.getElem?_apportion total] at disc
  refine ⟨_, hitem, ?_⟩
  rw [(calculatePurchaseItem_ok line).2, ← Option.some.inj ship, ← Option.some.inj disc]
  rfl

theorem finalLineCosts_nonneg (h : calculatePurchaseCosts doc = .ok calculated) :
    ∀ cost ∈ calculated.items.map (·.finalLineCost), 0 ≤ cost := by
  obtain ⟨-, -, -, reconciled⟩ := calculatePurchaseCosts_ok h
  intro cost mem
  obtain ⟨c, hc, rfl⟩ := List.mem_map.mp mem
  exact (reconciled.costs c hc).1

/-- What a calculated line holds is within the totals of its document. -/
theorem calculatedLine_bounds (h : calculatePurchaseCosts doc = .ok calculated) {i : Nat}
    {c : CalculatedPurchaseItem} (here : calculated.items[i]? = some c) :
    (0 ≤ c.originalGrossLineTotal ∧ c.originalGrossLineTotal ≤ doc.originalGrossMerchandiseTotal) ∧
      (0 ≤ c.allocatedShipping ∧ c.allocatedShipping ≤ doc.shippingTotal) ∧
      (0 ≤ c.allocatedDiscount ∧ c.allocatedDiscount ≤ doc.discountTotal) ∧
      (0 ≤ c.finalLineCost ∧ c.finalLineCost ≤ doc.finalTotalPaid) := by
  have checked := checkedDocument_of_ok h
  obtain ⟨-, -, -, reconciled⟩ := calculatePurchaseCosts_ok h
  have costs := finalLineCosts_nonneg h
  have mem := List.mem_of_getElem? here
  have paid := List.single_le_sum costs _ (List.mem_map.mpr ⟨c, mem, rfl⟩)
  rw [reconciled.paid] at paid
  obtain ⟨item, hitem, line⟩ := calculatedLine h here
  have total : (lineTotals doc.items)[i]? = some item.originalGrossLineTotal := by
    rw [lineTotals, List.getElem?_map, hitem, Option.map_some]
  have whole := List.single_le_sum checked.totals _ (List.mem_of_getElem? total)
  rw [checked.sum] at whole
  have share : ∀ amount, 0 ≤ amount →
      (0 < doc.originalGrossMerchandiseTotal ∨ amount = 0) →
      0 ≤ Apportion.shareAt (lineTotals doc.items) amount i ∧
        Apportion.shareAt (lineTotals doc.items) amount i ≤ amount := by
    intro amount nonneg splits
    refine share_bounds checked.totals checked.sum nonneg splits _ ?_
    rw [← checked.sum]
    exact List.mem_of_getElem? (Apportion.getElem?_apportion total)
  refine ⟨?_, ?_, ?_, (reconciled.costs c mem).1, paid⟩
  · rw [line]
    exact ⟨checked.totals _ (List.mem_of_getElem? total), whole⟩
  · rw [line]
    exact share _ checked.shipping checked.splitsShipping
  · rw [line]
    exact share _ checked.discount checked.splitsDiscount

/-- The unit cost of a calculated line is below £100,000,000 when its cost is, for
each of its units. -/
theorem calculatedLine_unitCost (h : calculatePurchaseCosts doc = .ok calculated)
    (paid : doc.finalTotalPaid ≤ maxAmendedTotal) {i : Nat} {c : CalculatedPurchaseItem}
    (here : calculated.items[i]? = some c) {item : NormalizedPurchaseItem}
    (source : doc.items[i]? = some item) :
    0 ≤ c.finalUnitCost ∧ (c.finalUnitCost < 100000000000000 ↔
      allocatedCost doc i item < unitCostBound * item.quantity) := by
  obtain ⟨-, -, -, cost⟩ := calculatedLine_bounds h here
  obtain ⟨item', source', filled⟩ := calculatedLine h here
  obtain rfl := Option.some.inj (source.symm.trans source')
  have positive := (checkedDocument_of_ok h).quantities _ (List.mem_of_getElem? source)
  have unitCost : c.finalUnitCost = unitCostMillionths (allocatedCost doc i item) item.quantity := by
    rw [filled]
  have sameCost : c.finalLineCost = allocatedCost doc i item := by rw [filled]
  rw [sameCost] at cost
  rw [unitCost, unitCostMillionths_lt_iff positive (cost.2.trans paid)]
  exact ⟨unitCostMillionths_nonneg positive cost.1, Iff.rfl⟩

/-- A number between minus and plus twice what a document may come to. -/
theorem isSafeInteger_of_bounds {n : Int} (low : -maxAmendedTotal ≤ n)
    (high : n ≤ 2 * maxAmendedTotal) : isSafeInteger n := by
  have room : 2 * maxAmendedTotal ≤ maxSafeInteger := by decide
  have top : 0 ≤ maxAmendedTotal := by decide
  exact abs_le.mpr ⟨by linarith, by linarith⟩

theorem intermediateSums_safe (h : calculatePurchaseCosts doc = .ok calculated)
    (merchandise : doc.originalGrossMerchandiseTotal ≤ maxAmendedTotal)
    (paid : doc.finalTotalPaid ≤ maxAmendedTotal) (shipping : doc.shippingTotal ≤ maxAmendedTotal)
    (discount : doc.discountTotal ≤ maxAmendedTotal)
    (unitCosts : ∀ item ∈ doc.items, item.originalGrossUnitCost ≤ maxAmendedTotal) :
    ∀ n ∈ intermediateSums doc calculated, isSafeInteger n := by
  have checked := checkedDocument_of_ok h
  obtain ⟨-, -, -, reconciled⟩ := calculatePurchaseCosts_ok h
  have costs := finalLineCosts_nonneg h
  have top : 0 ≤ maxAmendedTotal := by decide
  have within : ∀ n bound : Pence, 0 ≤ n → n ≤ bound → bound ≤ maxAmendedTotal →
      isSafeInteger n := by
    intro n bound nonneg le top
    exact isSafeInteger_of_bounds (by linarith) (by linarith)
  -- the amounts of a list and the sums on the way are within their sum
  have part : ∀ (amounts : List Int) bound, (∀ a ∈ amounts, 0 ≤ a) → amounts.sum ≤ bound →
      bound ≤ maxAmendedTotal → (∀ n ∈ amounts, isSafeInteger n) ∧
        ∀ n ∈ amounts.scanl (· + ·) 0, isSafeInteger n := by
    intro amounts bound nonneg le top
    constructor
    · intro n mem
      exact within n bound (nonneg n mem) ((List.single_le_sum nonneg n mem).trans le) top
    · intro n mem
      obtain ⟨low, high⟩ := mem_scanl_add nonneg mem
      exact within n bound low (by linarith) top
  have split : ∀ amount, 0 ≤ amount → amount ≤ maxAmendedTotal →
      (∀ n ∈ (Apportion.floors doc.originalGrossMerchandiseTotal amount
        (lineTotals doc.items)).scanl (· + ·) 0, isSafeInteger n) ∧
      isSafeInteger (amount - (Apportion.floors doc.originalGrossMerchandiseTotal amount
        (lineTotals doc.items)).sum) := by
    intro amount nonneg top
    obtain ⟨floors, le⟩ := floors_bounds checked.totals checked.sum nonneg
    refine ⟨(part _ amount floors le top).2, within _ amount (sub_nonneg.mpr le) ?_ top⟩
    exact sub_le_self _ (List.sum_nonneg floors)
  obtain ⟨totals, totalSums⟩ := part _ _ checked.totals checked.sum.le merchandise
  obtain ⟨lineCosts, costSums⟩ := part _ _ costs reconciled.paid.le paid
  obtain ⟨shippingFloors, shippingLeft⟩ := split _ checked.shipping shipping
  obtain ⟨discountFloors, discountLeft⟩ := split _ checked.discount discount
  have gross := checked.merchandise
  have ship := checked.shipping
  have disc := checked.discount
  intro n mem
  simp only [intermediateSums, List.mem_append, List.mem_cons, List.not_mem_nil, or_false] at mem
  rcases mem with (((((((unit | total | total) | rfl | rfl | rfl | rfl) | floor) | rfl) | floor) |
    rfl) | cost) | cost
  · obtain ⟨item, hitem, rfl⟩ := List.mem_map.mp unit
    exact within _ _ (checked.unitCosts item hitem).1 le_rfl (unitCosts item hitem)
  · exact totals n total
  · exact totalSums n total
  · exact within _ _ ship le_rfl shipping
  · exact within _ _ disc le_rfl discount
  · exact isSafeInteger_of_bounds (by linarith) (by linarith)
  · exact isSafeInteger_of_bounds (by linarith) (by linarith)
  · exact shippingFloors n floor
  · exact shippingLeft
  · exact discountFloors n floor
  · exact discountLeft
  · exact lineCosts n cost
  · exact costSums n cost

end Calculated

/-! ### What is written -/

section Written

variable {revisionOf : ReviewPurchase → String} {db : Db} {userId purchaseId itemId : Nat}
  {revision : String} {input body : Amendment} {purchase : ReviewPurchase} {doc : ReviewDocument}
  {line : ReviewLine} {calculated : CalculatedPurchaseDocument}

theorem fitsPounds_le {p : Pence} (fits : FitsPounds p) : p ≤ maxAmendedTotal :=
  Int.le_of_lt_add_one (abs_lt.mp (fitsPounds_iff.mp fits)).2

/-- The schema bounds the quantity and the unit cost it lets through. -/
theorem Amendment.parse_ok (h : input.parse = .ok body) :
    (∀ q, body.quantity = some q → 0 < q ∧ q ≤ 1000000) ∧
      ∀ c, body.originalGrossUnitCost = some c → 0 ≤ c ∧ c ≤ maxAmendedTotal := by
  simp only [Amendment.parse, bind_eq_ok, ensure_eq_ok, pure_eq_ok] at h
  obtain ⟨-, ⟨-, -, -, quantity, cost⟩, rfl⟩ := h
  constructor
  · intro q hq
    dsimp only at hq
    rw [hq] at quantity
    exact of_decide_eq_true quantity
  · intro c hc
    dsimp only at hc
    rw [hc] at cost
    exact of_decide_eq_true cost

/-- A line of the recalculation holds the amendment's quantity and unit cost, or
what is stored. -/
theorem amendedItem_bounds (itemId : Nat) (parsed : input.parse = .ok body) {l : ReviewLine}
    (stored : l.item.FitsSchema) :
    (amendedItem itemId body l).quantity < 2 ^ 31 ∧
      (amendedItem itemId body l).originalGrossUnitCost ≤ maxAmendedTotal := by
  obtain ⟨quantity, cost⟩ := Amendment.parse_ok parsed
  dsimp only [amendedItem, Amendment.quantityOf, Amendment.unitCostOf]
  constructor
  · split
    · cases hq : body.quantity with
      | none => exact stored.quantity.2
      | some q => exact Int.lt_of_le_of_lt (quantity q hq).2 (by decide)
    · exact stored.quantity.2
  · split
    · cases hc : body.originalGrossUnitCost with
      | none => exact fitsPounds_le stored.originalGrossUnitCost
      | some c => exact (cost c hc).2
    · exact fitsPounds_le stored.originalGrossUnitCost

theorem AmendmentAccepted.own
    (accepted : AmendmentAccepted revisionOf db userId purchaseId itemId revision input body purchase
      doc line) : line.id = itemId := by
  have own := List.find?_some accepted.item
  exact of_decide_eq_true own

/-- The guards, for an amendment that changes costs. -/
theorem AmendmentAccepted.totals
    (accepted : AmendmentAccepted revisionOf db userId purchaseId itemId revision input body purchase
      doc line) (changes : body.changesCost line.item) :
    (amendedDocument purchase doc line.id body).originalGrossMerchandiseTotal ≤ maxAmendedTotal ∧
      (amendedDocument purchase doc line.id body).finalTotalPaid ≤ maxAmendedTotal := by
  rw [accepted.own]
  exact accepted.total changes

theorem amendedDocument_line {i : Nat} {l : ReviewLine} (here : doc.purchaseItems[i]? = some l) :
    (amendedDocument purchase doc itemId body).items[i]? = some (amendedItem itemId body l) := by
  rw [show (amendedDocument purchase doc itemId body).items =
    doc.purchaseItems.map (amendedItem itemId body) from rfl, List.getElem?_map, here,
    Option.map_some]

/-- Every line of the recalculation is one of the document, with its calculation. -/
theorem exists_line_of_item
    (h : calculatePurchaseCosts (amendedDocument purchase doc itemId body) = .ok calculated) {i : Nat}
    {item : NormalizedPurchaseItem}
    (source : (amendedDocument purchase doc itemId body).items[i]? = some item) :
    ∃ l c, doc.purchaseItems[i]? = some l ∧ calculated.items[i]? = some c ∧
      item = amendedItem itemId body l := by
  obtain ⟨-, items, -⟩ := calculatePurchaseCosts_ok h
  have calculated_at := source
  rw [← items, List.getElem?_map, Option.map_eq_some_iff] at calculated_at
  obtain ⟨c, costs, -⟩ := calculated_at
  rw [show (amendedDocument purchase doc itemId body).items =
    doc.purchaseItems.map (amendedItem itemId body) from rfl, List.getElem?_map,
    Option.map_eq_some_iff] at source
  obtain ⟨l, here, rfl⟩ := source
  exact ⟨l, c, here, costs, rfl⟩

/-- Every column of a line fits, up to the unit cost, which fits below its bound. -/
theorem recost_fits_iff
    (accepted : AmendmentAccepted revisionOf db userId purchaseId itemId revision input body purchase
      doc line) (storedDocument : doc.document.FitsSchema)
    (storedLines : ∀ l ∈ doc.purchaseItems, l.item.FitsSchema)
    (changes : body.changesCost line.item)
    (h : calculatePurchaseCosts (amendedDocument purchase doc line.id body) = .ok calculated)
    {i : Nat} {l : ReviewLine} {c : CalculatedPurchaseItem} (here : doc.purchaseItems[i]? = some l)
    (costs : calculated.items[i]? = some c) :
    (l.item.recost c).FitsSchema ↔
      allocatedCost (amendedDocument purchase doc line.id body) i (amendedItem line.id body l) <
        unitCostBound * (amendedItem line.id body l).quantity := by
  obtain ⟨merchandise, paid⟩ := accepted.totals changes
  have checked := checkedDocument_of_ok h
  obtain ⟨total, shipping, discount, cost⟩ := calculatedLine_bounds h costs
  have source : (amendedDocument purchase doc line.id body).items[i]? =
      some (amendedItem line.id body l) := amendedDocument_line here
  obtain ⟨item, hitem, filled⟩ := calculatedLine h costs
  obtain rfl := Option.some.inj (source.symm.trans hitem)
  have mem := List.mem_of_getElem? source
  obtain ⟨quantity, unit⟩ := amendedItem_bounds line.id accepted.parsed
    (storedLines l (List.mem_of_getElem? here))
  have positive := checked.quantities _ mem
  have sameQuantity : c.quantity = (amendedItem line.id body l).quantity := by rw [filled]
  have sameUnit : c.originalGrossUnitCost =
      (amendedItem line.id body l).originalGrossUnitCost := by rw [filled]
  obtain ⟨nonneg, below⟩ := calculatedLine_unitCost h paid costs source
  have fits_iff : FitsUnitCost c.finalUnitCost ↔ c.finalUnitCost < 100000000000000 := by
    rw [fitsUnitCost_iff, abs_of_nonneg nonneg]
  rw [← below, ← fits_iff]
  constructor
  · exact fun fits => fits.finalUnitCost
  · intro fits
    refine ⟨?_, ?_, fitsPounds_of_le total.1 (total.2.trans merchandise),
      fitsPounds_of_le shipping.1 (shipping.2.trans (fitsPounds_le storedDocument.shippingTotal)),
      fitsPounds_of_le discount.1 (discount.2.trans (fitsPounds_le storedDocument.discountTotal)),
      fitsPounds_of_le cost.1 (cost.2.trans paid), fits⟩
    · show FitsInt c.quantity
      rw [sameQuantity]
      exact ⟨by omega, quantity⟩
    · show FitsPounds c.originalGrossUnitCost
      rw [sameUnit]
      exact fitsPounds_of_le (checked.unitCosts _ mem).1 unit

/-- Calculated lines stand at the positions of the lines they are written to. -/
theorem mem_recostedItems {row : PurchaseItem} :
    row ∈ recostedItems doc calculated ↔ ∃ (i : Nat) (l : ReviewLine) (c : CalculatedPurchaseItem),
      doc.purchaseItems[i]? = some l ∧ calculated.items[i]? = some c ∧ l.item.recost c = row := by
  rw [recostedItems, List.mem_map]
  constructor
  · rintro ⟨⟨l, c⟩, mem, rfl⟩
    obtain ⟨i, at_⟩ := List.mem_iff_getElem?.mp mem
    obtain ⟨here, costs⟩ := List.getElem?_zip_eq_some.mp at_
    exact ⟨i, l, c, here, costs, rfl⟩
  · rintro ⟨i, l, c, here, costs, rfl⟩
    exact ⟨(l, c), List.mem_iff_getElem?.mpr ⟨i, List.getElem?_zip_eq_some.mpr ⟨here, costs⟩⟩, rfl⟩

/-- All rows fit exactly when all unit costs are below the bound. -/
theorem recostedItems_fit_iff
    (accepted : AmendmentAccepted revisionOf db userId purchaseId itemId revision input body purchase
      doc line) (storedDocument : doc.document.FitsSchema)
    (storedLines : ∀ l ∈ doc.purchaseItems, l.item.FitsSchema)
    (changes : body.changesCost line.item)
    (h : calculatePurchaseCosts (amendedDocument purchase doc line.id body) = .ok calculated) :
    (∀ row ∈ recostedItems doc calculated, row.FitsSchema) ↔
      UnitCostsBelow (amendedDocument purchase doc line.id body) := by
  constructor
  · intro fits i item hitem
    obtain ⟨l, c, here, costs, rfl⟩ := exists_line_of_item h hitem
    refine (recost_fits_iff accepted storedDocument storedLines changes h here costs).mp ?_
    exact fits _ (mem_recostedItems.mpr ⟨i, l, _, here, costs, rfl⟩)
  · intro below row mem
    obtain ⟨i, l, c, here, costs, rfl⟩ := mem_recostedItems.mp mem
    refine (recost_fits_iff accepted storedDocument storedLines changes h here costs).mpr ?_
    exact below i _ (amendedDocument_line here)

/-- The totals of the document fit, and so do all sums on the way. -/
theorem totals_fit
    (accepted : AmendmentAccepted revisionOf db userId purchaseId itemId revision input body purchase
      doc line) (storedDocument : doc.document.FitsSchema)
    (storedLines : ∀ l ∈ doc.purchaseItems, l.item.FitsSchema)
    (changes : body.changesCost line.item)
    (h : calculatePurchaseCosts (amendedDocument purchase doc line.id body) = .ok calculated) :
    (retotalledDocument doc calculated).FitsSchema ∧
      ∀ n ∈ intermediateSums (amendedDocument purchase doc line.id body) calculated,
        isSafeInteger n := by
  obtain ⟨merchandise, paid⟩ := accepted.totals changes
  have checked := checkedDocument_of_ok h
  obtain ⟨header, -⟩ := calculatePurchaseCosts_ok h
  constructor
  · refine ⟨?_, storedDocument.shippingTotal, storedDocument.discountTotal, ?_⟩
    · show FitsPounds calculated.originalGrossMerchandiseTotal
      rw [header]
      exact fitsPounds_of_le checked.merchandise merchandise
    · show FitsPounds calculated.finalTotalPaid
      rw [header]
      exact fitsPounds_of_le checked.paid paid
  · refine intermediateSums_safe h merchandise paid (fitsPounds_le storedDocument.shippingTotal)
      (fitsPounds_le storedDocument.discountTotal) fun item mem => ?_
    obtain ⟨l, hl, rfl⟩ := List.mem_map.mp mem
    exact (amendedItem_bounds _ accepted.parsed (storedLines l hl)).2

end Written

/-- What an accepted amendment of a document that fits writes, fits exactly when
no line of the amended document costs £100,000,000 or more a unit. -/
theorem amendmentFits_iff {revisionOf : ReviewPurchase → String} {db : Db}
    {userId purchaseId itemId : Nat} {revision : String} {input body : Amendment}
    {purchase : ReviewPurchase} {doc : ReviewDocument} {line : ReviewLine}
    (accepted : AmendmentAccepted revisionOf db userId purchaseId itemId revision input body purchase
      doc line) (storedDocument : doc.document.FitsSchema)
    (storedLines : ∀ l ∈ doc.purchaseItems, l.item.FitsSchema) :
    AmendmentFits purchase doc line body ↔ (body.changesCost line.item →
      UnitCostsBelow (amendedDocument purchase doc line.id body)) := by
  constructor
  · intro fits changes
    obtain ⟨calculated, h⟩ := accepted.costs changes
    rw [← accepted.own] at h
    exact (recostedItems_fit_iff accepted storedDocument storedLines changes h).mp
      (fits.rows calculated changes h)
  · intro below
    refine ⟨fun calculated changes h => ?_, fun calculated changes h => ?_,
      fun calculated changes h => ?_⟩
    · exact (recostedItems_fit_iff accepted storedDocument storedLines changes h).mpr (below changes)
    · exact (totals_fit accepted storedDocument storedLines changes h).1
    · exact (totals_fit accepted storedDocument storedLines changes h).2

/-- Above the bound it is the database that refuses the amendment. -/
theorem amendReviewLine_overflow {revisionOf : ReviewPurchase → String} {db : Db}
    {userId purchaseId itemId : Nat} {revision : String} {input body : Amendment}
    {purchase : ReviewPurchase} {doc : ReviewDocument} {line : ReviewLine}
    (accepted : AmendmentAccepted revisionOf db userId purchaseId itemId revision input body purchase
      doc line) (changes : body.changesCost line.item)
    (above : ¬ UnitCostsBelow (amendedDocument purchase doc line.id body)) :
    amendReviewLine revisionOf userId purchaseId itemId revision input db =
      .error .numericOverflow := by
  obtain ⟨calculated, h⟩ := accepted.costs changes
  rw [← accepted.own] at h
  have refused : ¬ ∀ e ∈ doc.purchaseItems.zip calculated.items,
      (e.1.item.recost e.2).fitsColumns := by
    intro fits
    apply above
    intro i item source
    obtain ⟨l, c, here, costs, rfl⟩ := exists_line_of_item h source
    obtain ⟨-, -, -, -, -, -, unitCost⟩ := fits (l, c)
      (List.mem_iff_getElem?.mpr ⟨i, List.getElem?_zip_eq_some.mpr ⟨here, costs⟩⟩)
    exact (calculatedLine_unitCost h (accepted.totals changes).2 costs source).2.mp unitCost
  have overflows : recalculateCosts purchase doc line body db = .error .numericOverflow := by
    rw [recalculateCosts, if_pos changes, recalculate, ensure_of (accepted.totals changes), ok_bind,
      h, ok_bind]
    simp only [bind_eq_error, ensure_eq_error]
    exact Or.inl ⟨refused, trivial⟩
  rw [amendReviewLine, accepted.parsed, ok_bind, mutate, accepted.read, ok_bind,
    ensure_of accepted.current, ok_bind]
  simp only [accepted.document, accepted.item, orThrow, ok_bind, ensure_of accepted.unreceived,
    ensure_of accepted.whole, overflows]
  rfl

/-- One unit of £10,000.00, in a document of its own. -/
def costlyLine : ReviewLine where
  id := 1
  item := ⟨1, none, .inventory, none, "Line", none, none, 1, 1000000, 1000000, 0, 0, 1000000,
    10000000000, none, none⟩
  productListing := none

def costlyDocument : ReviewDocument where
  id := 1
  document := ⟨1, 1, none, "a", none, 7, 1000000, 0, 0, 1000000⟩
  purchaseItems := [costlyLine]

def costlyPurchase : ReviewPurchase where
  id := 1
  purchase := ⟨"206-1", none, none⟩
  purchaseDocuments := [costlyDocument]

def costlyShop : Db :=
  { Db.empty with
    purchases := Table.empty.insert costlyPurchase.purchase
    purchaseDocuments := Table.empty.insert costlyDocument.document
    purchaseItems := Table.empty.insert costlyLine.item }

theorem costlyDocument_fits : costlyDocument.document.FitsSchema ∧
    ∀ l ∈ costlyDocument.purchaseItems, l.item.FitsSchema := by
  constructor
  · constructor <;> exact fitsPounds_iff.mpr (by decide)
  · intro l mem
    obtain rfl := List.mem_singleton.mp mem
    refine ⟨⟨by decide, by decide⟩, ?_, ?_, ?_, ?_, ?_, fitsUnitCost_iff.mpr (by decide)⟩ <;>
      exact fitsPounds_iff.mpr (by decide)

/-- A new unit cost for a line. -/
def costAmendment (originalGrossUnitCost : Pence) : Amendment :=
  ⟨"Line", none, none, some originalGrossUnitCost⟩

/-- £99,999,999.99 for the one unit is written. -/
theorem amendmentFits_iff_costly :
    (costAmendment 9999999999).changesCost costlyLine.item ∧
      AmendmentFits costlyPurchase costlyDocument costlyLine (costAmendment 9999999999) := by
  have accepted : AmendmentAccepted (fun _ => "r") costlyShop 7 1 1 "r" (costAmendment 9999999999)
      (costAmendment 9999999999) costlyPurchase costlyDocument costlyLine :=
    ⟨by decide, by decide, rfl, by decide, by decide, rfl, fun _ => by decide, fun _ => by decide,
      fun _ => ⟨_, rfl⟩⟩
  refine ⟨by decide, (amendmentFits_iff accepted costlyDocument_fits.1 costlyDocument_fits.2).mpr
    fun _ i item source => ?_⟩
  cases i with
  | zero =>
      obtain rfl := Option.some.inj source
      decide
  | succ i => cases source

/-- A penny more passes every guard too, and does not fit its column. -/
theorem costlyLine_overflows :
    AmendmentAccepted (fun _ => "r") costlyShop 7 1 1 "r" (costAmendment 10000000000)
      (costAmendment 10000000000) costlyPurchase costlyDocument costlyLine ∧
    costlyDocument.document.FitsSchema ∧
    (∀ l ∈ costlyDocument.purchaseItems, l.item.FitsSchema) ∧
    ¬ AmendmentFits costlyPurchase costlyDocument costlyLine (costAmendment 10000000000) ∧
    amendReviewLine (fun _ => "r") 7 1 1 "r" (costAmendment 10000000000) costlyShop =
      .error .numericOverflow := by
  have accepted : AmendmentAccepted (fun _ => "r") costlyShop 7 1 1 "r" (costAmendment 10000000000)
      (costAmendment 10000000000) costlyPurchase costlyDocument costlyLine :=
    ⟨by decide, by decide, rfl, by decide, by decide, rfl, fun _ => by decide,
      fun _ => by decide, fun _ => ⟨_, rfl⟩⟩
  refine ⟨accepted, costlyDocument_fits.1, costlyDocument_fits.2, ?_,
    amendReviewLine_overflow accepted (by decide) fun below => absurd (below 0 _ rfl) (by decide)⟩
  intro fits
  have row := (fits.rows _ (by decide) rfl _ List.mem_cons_self).finalUnitCost
  rw [fitsUnitCost_iff] at row
  revert row
  decide

end ColorfulLife
