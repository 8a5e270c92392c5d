/-
Which documents the cost engine accepts.

Shipping and discount are split over the lines by two independent roundings. A
line can lose a penny of shipping to one and gain a penny of discount from the
other, which is more than a line of a penny or two can bear; with a discount
within the merchandise total it cannot happen.
-/

import ColorfulLife.Apportion.Fairness
import ColorfulLife.Purchases.Costs

namespace ColorfulLife

open Relational

/-! ### One allocation -/

/-- The shares of `amount` by largest remainders. -/
structure FairShares (totals : List Pence) (amount : Pence) (shares : List Pence) : Prop where
  length : shares.length = totals.length
  sum : shares.sum = amount
  nonneg : ∀ share ∈ shares, 0 ≤ share
  close : ∀ (i : Nat) share total, shares[i]? = some share → totals[i]? = some total →
    |share * totals.sum - total * amount| < totals.sum
  zero : ∀ (i : Nat) share, shares[i]? = some share → totals[i]? = some 0 → share = 0
  mono : ∀ (i j : Nat) a b s t, shares[i]? = some a → shares[j]? = some b → totals[i]? = some s →
    totals[j]? = some t → t < s → b ≤ a
  tie : ∀ (i j : Nat) a b t, shares[i]? = some a → shares[j]? = some b → totals[i]? = some t →
    totals[j]? = some t → i < j → b ≤ a
  within : amount ≤ totals.sum → ∀ (i : Nat) share total, shares[i]? = some share →
    totals[i]? = some total → share ≤ total

/-- The position that the penny with this number goes to. -/
def pennyIndex (totals : List Pence) (amount : Pence) (penny : Nat) : Option Nat :=
  (Apportion.byRemainder (Apportion.remainders totals.sum amount totals))[penny]?

/-- The pennies that the floors leave. -/
def penniesLeft (totals : List Pence) (amount : Pence) : Int :=
  amount - (Apportion.floors totals.sum amount totals).sum

section Allocation

variable {items : List NormalizedPurchaseItem} {amount : Pence}

theorem allocateProportional_eq (pos : 0 < (lineTotals items).sum) :
    allocateProportional (lineTotals items).sum amount items =
      .ok (Apportion.apportion (lineTotals items).sum amount (lineTotals items)) := by
  unfold allocateProportional
  split
  · rename_i zero
    rw [zero, Apportion.apportion_zero, lineTotals, List.map_map]
    rfl
  · rw [if_neg pos.ne']

/-- What the engine allocates of an amount is fair. -/
theorem fairShares_apportion {totals : List Pence} (nonneg : ∀ total ∈ totals, 0 ≤ total)
    (pos : 0 < totals.sum) (amount_nonneg : 0 ≤ amount) :
    FairShares totals amount (Apportion.apportion totals.sum amount totals) where
  length := Apportion.length_apportion
  sum := Apportion.sum_apportion pos rfl
  nonneg := by
    intro share mem
    obtain ⟨i, hshare⟩ := List.mem_iff_getElem?.mp mem
    have valid := (List.getElem?_eq_some_iff.mp hshare).1
    rw [Apportion.length_apportion] at valid
    have htotal := List.getElem?_eq_getElem valid
    exact Apportion.share_nonneg pos amount_nonneg htotal (nonneg _ (List.getElem_mem valid)) hshare
  close := fun _ _ _ share total => Apportion.share_close pos rfl share total
  zero := fun _ _ share total => Apportion.share_zero pos rfl share total
  mono := fun _ _ _ _ _ _ ha hb hs ht larger =>
    Apportion.share_mono pos rfl amount_nonneg ha hs hb ht larger
  tie := fun _ _ _ _ _ ha hb hs ht earlier => Apportion.share_mono_of_eq ha hs hb ht earlier
  within := fun le _ _ _ share total => Apportion.share_le pos rfl le total
    (nonneg _ (List.mem_of_getElem? total)) share

/-- The allocation by largest remainders: every list of lines with a positive
total gets fair shares, and every penny left has a line to go to. -/
theorem allocateProportional_fair (nonneg : ∀ item ∈ items, 0 ≤ item.originalGrossLineTotal)
    (pos : 0 < (lineTotals items).sum) (amount_nonneg : 0 ≤ amount) :
    (∃ shares, allocateProportional (lineTotals items).sum amount items = .ok shares ∧
      FairShares (lineTotals items) amount shares) ∧
    ∀ penny : Nat, (penny : Int) < penniesLeft (lineTotals items) amount →
      ∃ i, pennyIndex (lineTotals items) amount penny = some i ∧ i < items.length := by
  have totals : ∀ total ∈ lineTotals items, 0 ≤ total := by
    intro total mem
    obtain ⟨item, hitem, rfl⟩ := List.mem_map.mp mem
    exact nonneg item hitem
  refine ⟨⟨_, allocateProportional_eq pos, fairShares_apportion totals pos amount_nonneg⟩,
    fun penny left => ?_⟩
  have enough := (Apportion.left_bounds amount pos rfl).2
  have length : (Apportion.byRemainder (Apportion.remainders (lineTotals items).sum amount
      (lineTotals items))).length = items.length := by
    rw [(Apportion.perm_byRemainder _).length_eq, List.length_range, Apportion.length_remainders,
      lineTotals, List.length_map]
  have lines : (lineTotals items).length = items.length := List.length_map ..
  have valid : penny < (Apportion.byRemainder (Apportion.remainders (lineTotals items).sum amount
      (lineTotals items))).length := by
    rw [length]
    unfold penniesLeft at left
    omega
  refine ⟨_, List.getElem?_eq_getElem valid, ?_⟩
  have mem := Apportion.mem_byRemainder.mp (List.getElem_mem valid)
  rwa [Apportion.length_remainders, lines] at mem

end Allocation

/-- One piece of a set, at this price. -/
def pricedLine (total : Pence) : NormalizedPurchaseItem :=
  ⟨none, none, "LEGO set", none, none, 1, total, total⟩

/-- A pound over three equal lines: the odd penny goes to the first. -/
theorem allocateProportional_fair_thirds :
    FairShares [100, 100, 100] 100 [34, 33, 33] := by
  have totals : ∀ item ∈ List.replicate 3 (pricedLine 100), 0 ≤ item.originalGrossLineTotal := by
    decide
  obtain ⟨⟨shares, split, fair⟩, -⟩ :=
    allocateProportional_fair totals (by decide) (show (0 : Pence) ≤ 100 by decide)
  obtain rfl : [34, 33, 33] = shares := Except.ok.inj split
  exact fair

/-! ### A whole document -/

/-- A document that passes the checks on its form, with a positive merchandise
total and with what was paid equal to what its totals come to. -/
structure ConsistentDocument (doc : NormalizedPurchaseDocument) : Prop where
  importHash : trim doc.importHash ≠ ""
  sourceOrderReference : trim doc.sourceOrderReference ≠ ""
  descriptions : ∀ item ∈ doc.items, trim item.sourceDescription ≠ ""
  quantities : ∀ item ∈ doc.items, 0 < item.quantity
  unitCosts : ∀ item ∈ doc.items, isSafeAmount item.originalGrossUnitCost
  totals : ∀ item ∈ doc.items, isSafeAmount item.originalGrossLineTotal
  merchandise : isSafeAmount doc.originalGrossMerchandiseTotal
  shipping : isSafeAmount doc.shippingTotal
  discount : isSafeAmount doc.discountTotal
  paid : isSafeAmount doc.finalTotalPaid
  sum : (lineTotals doc.items).sum = doc.originalGrossMerchandiseTotal
  positive : 0 < doc.originalGrossMerchandiseTotal
  acquisition : 0 ≤ doc.shippingTotal - doc.discountTotal + doc.originalGrossMerchandiseTotal
  reconciled : doc.finalTotalPaid =
    doc.shippingTotal - doc.discountTotal + doc.originalGrossMerchandiseTotal

/-- The shares of shipping and discount that the engine gives to the lines. -/
def shippingShares (doc : NormalizedPurchaseDocument) : List Pence :=
  Apportion.apportion doc.originalGrossMerchandiseTotal doc.shippingTotal (lineTotals doc.items)

def discountShares (doc : NormalizedPurchaseDocument) : List Pence :=
  Apportion.apportion doc.originalGrossMerchandiseTotal doc.discountTotal (lineTotals doc.items)

/-- The lines with their shares, numbered. -/
def sharedLines (doc : NormalizedPurchaseDocument) :
    List ((NormalizedPurchaseItem × Pence × Pence) × Nat) :=
  (doc.items.zip ((shippingShares doc).zip (discountShares doc))).zipIdx

/-- What a line costs after its shares. -/
def sharedCost (line : NormalizedPurchaseItem × Pence × Pence) : Int :=
  line.1.originalGrossLineTotal + line.2.1 - line.2.2

namespace ConsistentDocument

variable {doc : NormalizedPurchaseDocument}

theorem items_ne_nil (h : ConsistentDocument doc) : doc.items ≠ [] := by
  intro none_
  have sum := h.sum
  rw [none_] at sum
  exact h.positive.ne sum

theorem valid (h : ConsistentDocument doc) : validatePurchaseDocument doc = .ok ⟨⟩ := by
  simp only [validatePurchaseDocument, validatePurchaseItem, bind_eq_ok, ensure_eq_ok, forM_eq_ok]
  have line : ∀ e ∈ doc.items.zipIdx, e.1 ∈ doc.items := fun e mem => List.fst_mem_of_mem_zipIdx mem
  refine ⟨⟨⟩, h.importHash, ⟨⟩, h.sourceOrderReference, ⟨⟩, h.items_ne_nil, ⟨⟩, fun e mem => ?_, ⟨⟩,
    h.merchandise, ⟨⟩, h.shipping, ⟨⟩, h.discount, ⟨⟩, h.paid, ⟨⟩, h.sum, ?_⟩
  · exact ⟨⟨⟩, h.descriptions _ (line e mem), ⟨⟩, h.quantities _ (line e mem), ⟨⟩,
      h.unitCosts _ (line e mem), h.totals _ (line e mem)⟩
  · linarith [h.acquisition]

theorem nonneg (h : ConsistentDocument doc) : ∀ total ∈ lineTotals doc.items, 0 ≤ total := by
  intro total mem
  obtain ⟨item, hitem, rfl⟩ := List.mem_map.mp mem
  exact (h.totals item hitem).1

theorem fair (h : ConsistentDocument doc) :
    FairShares (lineTotals doc.items) doc.shippingTotal (shippingShares doc) ∧
      FairShares (lineTotals doc.items) doc.discountTotal (discountShares doc) := by
  have pos : 0 < (lineTotals doc.items).sum := h.sum ▸ h.positive
  rw [shippingShares, discountShares, ← h.sum]
  exact ⟨fairShares_apportion h.nonneg pos h.shipping.1,
    fairShares_apportion h.nonneg pos h.discount.1⟩

theorem allocate (h : ConsistentDocument doc) :
    allocateProportional doc.originalGrossMerchandiseTotal doc.shippingTotal doc.items =
        .ok (shippingShares doc) ∧
      allocateProportional doc.originalGrossMerchandiseTotal doc.discountTotal doc.items =
        .ok (discountShares doc) := by
  have pos : 0 < (lineTotals doc.items).sum := h.sum ▸ h.positive
  rw [shippingShares, discountShares, ← h.sum]
  exact ⟨allocateProportional_eq pos, allocateProportional_eq pos⟩

/-- A line with its shares has them at its own position. -/
theorem line_shares {line : NormalizedPurchaseItem × Pence × Pence} {i : Nat}
    (mem : (line, i) ∈ sharedLines doc) :
    (lineTotals doc.items)[i]? = some line.1.originalGrossLineTotal ∧
      (shippingShares doc)[i]? = some line.2.1 ∧ (discountShares doc)[i]? = some line.2.2 := by
  have here := List.mem_zipIdx_iff_getElem?.mp mem
  rw [List.getElem?_zip_eq_some, List.getElem?_zip_eq_some] at here
  obtain ⟨item, shipping, discount⟩ := here
  refine ⟨?_, shipping, discount⟩
  rw [lineTotals, List.getElem?_map, item, Option.map_some]

/-- A line can fall short by one penny at most. -/
theorem cost_ge (h : ConsistentDocument doc) {line : NormalizedPurchaseItem × Pence × Pence} {i : Nat}
    (mem : (line, i) ∈ sharedLines doc) : -1 ≤ sharedCost line := by
  obtain ⟨total, shipping, discount⟩ := line_shares mem
  obtain ⟨ship, disc⟩ := h.fair
  have low := (abs_lt.mp (ship.close i _ _ shipping total)).1
  have high := (abs_lt.mp (disc.close i _ _ discount total)).2
  rw [h.sum] at low high
  have own : 0 ≤ line.1.originalGrossLineTotal := h.nonneg _ (List.mem_of_getElem? total)
  have share : 0 ≤ line.1.originalGrossLineTotal *
      (doc.shippingTotal - doc.discountTotal + doc.originalGrossMerchandiseTotal) :=
    mul_nonneg own h.acquisition
  have above : (-2) * doc.originalGrossMerchandiseTotal <
      sharedCost line * doc.originalGrossMerchandiseTotal := by
    unfold sharedCost
    linarith
  have short : -2 < sharedCost line := lt_of_mul_lt_mul_right above h.positive.le
  exact Int.add_one_le_iff.mpr short

/-- With a discount within the merchandise no line falls short. -/
theorem cost_nonneg (h : ConsistentDocument doc)
    (within : doc.discountTotal ≤ doc.originalGrossMerchandiseTotal)
    {line : NormalizedPurchaseItem × Pence × Pence} {i : Nat} (mem : (line, i) ∈ sharedLines doc) :
    0 ≤ sharedCost line := by
  obtain ⟨total, shipping, discount⟩ := line_shares mem
  obtain ⟨ship, disc⟩ := h.fair
  have low : 0 ≤ line.2.1 := ship.nonneg _ (List.mem_of_getElem? shipping)
  have high : line.2.2 ≤ line.1.originalGrossLineTotal :=
    disc.within (h.sum ▸ within) i _ _ discount total
  have paid : 0 ≤ line.1.originalGrossLineTotal - line.2.2 := sub_nonneg.mpr high
  unfold sharedCost
  linarith

/-- The costs of the lines add up to what was paid. -/
theorem sum_costs (h : ConsistentDocument doc) :
    ((sharedLines doc).map fun e => sharedCost e.1).sum = doc.finalTotalPaid := by
  obtain ⟨ship, disc⟩ := h.fair
  have lengths : (lineTotals doc.items).length = doc.items.length := List.length_map ..
  have zipped : ∀ (items : List NormalizedPurchaseItem) (s d : List Pence),
      s.length = items.length → d.length = items.length →
      ((items.zip (s.zip d)).map sharedCost).sum = (lineTotals items).sum + s.sum - d.sum := by
    intro items
    induction items with
    | nil =>
        intro s d hs hd
        rw [List.length_eq_zero_iff.mp hs, List.length_eq_zero_iff.mp hd]
        rfl
    | cons item items ih =>
        intro s d hs hd
        obtain ⟨x, s, rfl⟩ := List.exists_cons_of_length_eq_add_one hs
        obtain ⟨y, d, rfl⟩ := List.exists_cons_of_length_eq_add_one hd
        have rest := ih s d (Nat.succ.inj hs) (Nat.succ.inj hd)
        simp only [List.zip_cons_cons, List.map_cons, List.sum_cons, lineTotals] at rest ⊢
        rw [rest, sharedCost]
        ring
  have whole := zipped doc.items (shippingShares doc) (discountShares doc)
    (ship.length.trans lengths) (disc.length.trans lengths)
  have unnumbered : (sharedLines doc).map (fun e => sharedCost e.1) =
      (doc.items.zip ((shippingShares doc).zip (discountShares doc))).map sharedCost := by
    have first := congrArg (List.map sharedCost) (List.zipIdx_map_fst 0
      (doc.items.zip ((shippingShares doc).zip (discountShares doc))))
    rwa [List.map_map] at first
  rw [unnumbered, whole, ship.sum, disc.sum, h.sum, h.reconciled]
  ring

end ConsistentDocument

/-! ### The outcome -/

section Outcome

variable {doc : NormalizedPurchaseDocument}

theorem calculatePurchaseItem_eq_ok {item : NormalizedPurchaseItem} {shipping discount : Pence}
    {idx : Nat} : (∃ calculated, calculatePurchaseItem item shipping discount idx = .ok calculated) ↔
      0 ≤ sharedCost (item, shipping, discount) ∧
        sharedCost (item, shipping, discount) ≤ maxSafeInteger := by
  simp only [calculatePurchaseItem, bind_eq_ok, ensure_eq_ok, pure_eq_ok, sharedCost]
  constructor
  · rintro ⟨-, -, nonneg, -, safe, -⟩
    exact ⟨nonneg, safe⟩
  · rintro ⟨nonneg, safe⟩
    exact ⟨_, ⟨⟩, nonneg, ⟨⟩, safe, rfl⟩

/-- The error of a line, by its number: it falls short, or it costs more than a safe
integer holds. -/
def LineRefused (line : NormalizedPurchaseItem × Pence × Pence) (idx : Nat) (e : DomainError) :
    Prop :=
  (sharedCost line < 0 ∧
    e = .purchaseValidation s!"Item {idx} final line cost is negative: {sharedCost line}") ∨
  (maxSafeInteger < sharedCost line ∧
    e = .purchaseValidation s!"Item {idx} final line cost exceeds Number.MAX_SAFE_INTEGER")

theorem calculatePurchaseItem_error {item : NormalizedPurchaseItem} {shipping discount : Pence}
    {idx : Nat} {e : DomainError}
    (thrown : calculatePurchaseItem item shipping discount idx = .error e) :
    LineRefused (item, shipping, discount) idx e := by
  simp only [calculatePurchaseItem, bind_eq_error, ensure_eq_error, pure_ne_error, and_false,
    exists_false, or_false] at thrown
  rcases thrown with ⟨short, rfl⟩ | ⟨-, -, unsafe_, rfl⟩
  · exact Or.inl ⟨not_le.mp short, rfl⟩
  · exact Or.inr ⟨not_le.mp unsafe_, rfl⟩

theorem sum_lineCosts (items : List CalculatedPurchaseItem) :
    (items.map fun item =>
      item.originalGrossLineTotal + item.allocatedShipping - item.allocatedDiscount).sum =
      (items.map (·.originalGrossLineTotal)).sum + (items.map (·.allocatedShipping)).sum -
        (items.map (·.allocatedDiscount)).sum := by
  induction items with
  | nil => rfl
  | cons item items ih =>
      simp only [List.map_cons, List.sum_cons, ih]
      ring

/-- Of a consistent document only the lines are left to check. -/
theorem ConsistentDocument.calculate (h : ConsistentDocument doc) :
    (∃ calculated, calculatePurchaseCosts doc = .ok calculated) ∧
        (∀ e ∈ sharedLines doc, ∃ calculated,
          calculatePurchaseItem e.1.1 e.1.2.1 e.1.2.2 e.2 = .ok calculated) ∨
      ∃ e ∈ sharedLines doc, ∃ error, calculatePurchaseCosts doc = .error error ∧
        calculatePurchaseItem e.1.1 e.1.2.1 e.1.2.2 e.2 = .error error := by
  obtain ⟨allocatesShipping, allocatesDiscount⟩ := h.allocate
  cases lines : (sharedLines doc).mapM fun e =>
      calculatePurchaseItem e.1.1 e.1.2.1 e.1.2.2 e.2 with
  | error e =>
      obtain ⟨line, mem, thrown⟩ := mapM_error lines
      refine Or.inr ⟨line, mem, e, ?_, thrown⟩
      simp only [calculatePurchaseCosts, bind_eq_error]
      exact Or.inr ⟨_, h.valid, Or.inr ⟨_, allocatesShipping, Or.inr
        ⟨_, allocatesDiscount, Or.inl lines⟩⟩⟩
  | ok calculatedItems =>
      refine Or.inl ⟨?_, mapM_ok lines⟩
      obtain ⟨ship, disc⟩ := h.fair
      have lengths : (lineTotals doc.items).length = doc.items.length := List.length_map ..
      obtain ⟨source, shipped, discounted, costs⟩ := calculatedItems_ok
        (ship.length.trans lengths) (disc.length.trans lengths) lines
      have total : (calculatedItems.map CalculatedPurchaseItem.finalLineCost).sum =
          doc.originalGrossMerchandiseTotal + doc.shippingTotal - doc.discountTotal := by
        have each : calculatedItems.map CalculatedPurchaseItem.finalLineCost =
            calculatedItems.map fun item =>
              item.originalGrossLineTotal + item.allocatedShipping - item.allocatedDiscount :=
          List.map_congr_left fun item mem => (costs item mem).2
        have merchandise : (calculatedItems.map fun item => item.originalGrossLineTotal).sum =
            doc.originalGrossMerchandiseTotal := by
          rw [← h.sum, lineTotals, ← source, List.map_map]
          rfl
        rw [each, sum_lineCosts, merchandise, shipped, ship.sum, discounted, disc.sum]
      have paid : (calculatedItems.map CalculatedPurchaseItem.finalLineCost).sum =
          doc.finalTotalPaid := by
        rw [total, h.reconciled]
        ring
      refine ⟨{ doc.toPurchaseHeader with items := calculatedItems }, ?_⟩
      simp only [calculatePurchaseCosts, bind_eq_ok, ensure_eq_ok, pure_eq_ok]
      exact ⟨_, h.valid, _, allocatesShipping, _, allocatesDiscount, calculatedItems, lines, ⟨⟩,
        total, ⟨⟩, paid, rfl⟩

/-- A consistent document is calculated exactly when no line falls short, and by
a penny at most; a document that is not is refused with the validation error of a
line, and one whose discount is within its merchandise never is. -/
theorem calculatePurchaseCosts_consistent (h : ConsistentDocument doc) :
    ((∃ calculated, calculatePurchaseCosts doc = .ok calculated) ↔
      ∀ e ∈ sharedLines doc, 0 ≤ sharedCost e.1) ∧
    (∀ e ∈ sharedLines doc, -1 ≤ sharedCost e.1) ∧
    (∀ error, calculatePurchaseCosts doc = .error error →
      ∃ e ∈ sharedLines doc, LineRefused e.1 e.2 error) ∧
    (doc.discountTotal ≤ doc.originalGrossMerchandiseTotal →
      ∃ calculated, calculatePurchaseCosts doc = .ok calculated) := by
  have accepted : (∀ e ∈ sharedLines doc, 0 ≤ sharedCost e.1) →
      ∃ calculated, calculatePurchaseCosts doc = .ok calculated := by
    intro nonneg
    rcases h.calculate with ⟨ok, -⟩ | ⟨e, mem, error, -, thrown⟩
    · exact ok
    · have costs : ∀ c ∈ (sharedLines doc).map fun e => sharedCost e.1, 0 ≤ c := by
        intro c hc
        obtain ⟨e, mem, rfl⟩ := List.mem_map.mp hc
        exact nonneg e mem
      have within : sharedCost e.1 ≤ doc.finalTotalPaid := by
        rw [← h.sum_costs]
        exact List.single_le_sum costs _ (List.mem_map.mpr ⟨e, mem, rfl⟩)
      obtain ⟨calculated, ok⟩ := calculatePurchaseItem_eq_ok.mpr
        ⟨nonneg e mem, within.trans h.paid.2⟩
      exact nomatch thrown.symm.trans ok
  refine ⟨⟨fun ok e mem => ?_, accepted⟩, fun e mem => h.cost_ge mem, fun error thrown => ?_,
    fun within => accepted fun e mem => h.cost_nonneg within mem⟩
  · rcases h.calculate with ⟨-, lines⟩ | ⟨-, -, error, thrown, -⟩
    · exact (calculatePurchaseItem_eq_ok.mp (lines e mem)).1
    · obtain ⟨calculated, ok⟩ := ok
      exact nomatch thrown.symm.trans ok
  · rcases h.calculate with ⟨⟨calculated, ok⟩, -⟩ | ⟨e, mem, error', thrown', refused⟩
    · exact nomatch thrown.symm.trans ok
    · obtain rfl := Except.error.inj (thrown.symm.trans thrown')
      exact ⟨e, mem, calculatePurchaseItem_error refused⟩

end Outcome

/-- Three lines of one, three and three pence, with a discount above them. -/
def thinLines : NormalizedPurchaseDocument where
  importHash := "hash"
  sourceOrderReference := "SO-001"
  sourceOrderDate := none
  merchantName := none
  sourceInvoiceReference := none
  sourceDocumentDate := none
  originalGrossMerchandiseTotal := 7
  shippingTotal := 4
  discountTotal := 10
  finalTotalPaid := 1
  items := [pricedLine 1, pricedLine 3, pricedLine 3]

/-- Shipping rounds the first line down and the discount rounds it up. -/
theorem thinLines_refused : ConsistentDocument thinLines ∧
    calculatePurchaseCosts thinLines =
      .error (.purchaseValidation "Item 0 final line cost is negative: -1") :=
  ⟨by constructor <;> decide, by decide⟩

/-- Shipping and a discount on two lines. -/
def discountedLines : NormalizedPurchaseDocument where
  importHash := "hash"
  sourceOrderReference := "SO-002"
  sourceOrderDate := none
  merchantName := none
  sourceInvoiceReference := none
  sourceDocumentDate := none
  originalGrossMerchandiseTotal := 1000
  shippingTotal := 200
  discountTotal := 50
  finalTotalPaid := 1150
  items := [pricedLine 500, pricedLine 500]

theorem calculatePurchaseCosts_consistent_discounted :
    ∃ calculated, calculatePurchaseCosts discountedLines = .ok calculated := by
  have consistent : ConsistentDocument discountedLines := by constructor <;> decide
  exact (calculatePurchaseCosts_consistent consistent).2.2.2 (by decide)

end ColorfulLife
