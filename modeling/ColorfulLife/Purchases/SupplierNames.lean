/-
The name under which a supplier is shown (`purchaseAnalytics.ts`).

Both views take the spelling with the most documents, by code units among equals.
The monthly view adds up the documents of a spelling; the summary keeps the count of
the last row instead, so that raw names which trim to one spelling overwrite each
other in whatever order the database returned them. The views name a supplier alike
exactly if one spelling wins both ways of counting (`supplierName_settled_iff`).
-/

import ColorfulLife.Purchases.Analytics
import ColorfulLife.Relational.Paging

namespace ColorfulLife.PurchaseAnalytics

open Relational

/-! ### The order of the spellings -/

theorem compareNames_nonpos {left right : String} :
    compareNames left right ≤ 0 ↔ Utf16.units left ≤ Utf16.units right := by
  unfold compareNames
  split
  · rename_i less
    exact iff_of_true (by decide) less.le
  · rename_i notLess
    split
    · rename_i more
      exact iff_of_false (by decide) (not_le.mpr more)
    · rename_i notMore
      exact iff_of_true le_rfl (not_lt.mp notMore)

theorem compareNames_neg {left right : String} :
    compareNames left right < 0 ↔ Utf16.units left < Utf16.units right := by
  unfold compareNames
  split
  · rename_i less
    exact iff_of_true (by decide) less
  · rename_i notLess
    refine iff_of_false ?_ notLess
    split <;> decide

theorem frequencyOrder_nonpos {a b : String × Nat} : frequencyOrder a b ≤ 0 ↔
    b.2 < a.2 ∨ (a.2 = b.2 ∧ Utf16.units a.1 ≤ Utf16.units b.1) := by
  rw [← compareNames_nonpos, frequencyOrder]
  split <;> omega

theorem frequencyOrder_neg {a b : String × Nat} : frequencyOrder a b < 0 ↔
    b.2 < a.2 ∨ (a.2 = b.2 ∧ Utf16.units a.1 < Utf16.units b.1) := by
  rw [← compareNames_neg, frequencyOrder]
  split <;> omega

instance : Std.Total fun a b : String × Nat => frequencyOrder a b ≤ 0 where
  total a b := by
    rw [frequencyOrder_nonpos, frequencyOrder_nonpos]
    rcases le_total (Utf16.units a.1) (Utf16.units b.1) with le | le
    · by_cases more : b.2 ≤ a.2
      · rcases more.lt_or_eq with less | same
        · exact .inl (.inl less)
        · exact .inl (.inr ⟨same.symm, le⟩)
      · exact .inr (.inl (not_le.mp more))
    · by_cases more : a.2 ≤ b.2
      · rcases more.lt_or_eq with less | same
        · exact .inr (.inl less)
        · exact .inr (.inr ⟨same.symm, le⟩)
      · exact .inl (.inl (not_le.mp more))

instance : IsTrans (String × Nat) fun a b => frequencyOrder a b ≤ 0 where
  trans a b c := by
    rw [frequencyOrder_nonpos, frequencyOrder_nonpos, frequencyOrder_nonpos]
    rintro (more | ⟨same, le⟩) (more' | ⟨same', le'⟩)
    · exact .inl (more'.trans more)
    · exact .inl (same' ▸ more)
    · exact .inl (same ▸ more')
    · exact .inr ⟨same.trans same', le.trans le'⟩

theorem frequencyOrder_of_ne {a b : String × Nat} (least : frequencyOrder a b ≤ 0)
    (differ : b.1 ≠ a.1) : frequencyOrder a b < 0 := by
  rw [frequencyOrder_neg]
  rcases frequencyOrder_nonpos.mp least with more | ⟨same, le⟩
  · exact .inl more
  · exact .inr ⟨same, le.lt_of_ne fun units => differ (Utf16.units_injective units).symm⟩

/-! ### The winner -/

section Winner

variable {counts : List (String × Nat)} {w : String} {n : Nat}

theorem exists_supplierName (nonempty : counts ≠ []) :
    ∃ w n, (w, n) ∈ counts ∧ supplierName counts = w ∧
      ∀ e ∈ counts, frequencyOrder (w, n) e ≤ 0 := by
  unfold supplierName
  cases first : (counts.insertionSort fun a b => frequencyOrder a b ≤ 0).head? with
  | none =>
      have none_ := List.head?_eq_none_iff.mp first
      have length := (List.perm_insertionSort (fun a b : String × Nat => frequencyOrder a b ≤ 0)
        counts).length_eq
      rw [none_] at length
      exact absurd (List.length_eq_zero_iff.mp length.symm) nonempty
  | some e =>
      obtain ⟨mem, least⟩ := head?_insertionSort first
      exact ⟨e.1, e.2, mem, rfl, least⟩

/-- The name shown is that of the count that comes before every other. -/
theorem supplierName_eq_iff (nodup : (counts.map Prod.fst).Nodup) (mem : (w, n) ∈ counts) :
    supplierName counts = w ↔ ∀ v k, (v, k) ∈ counts → v ≠ w → frequencyOrder (w, n) (v, k) < 0 := by
  obtain ⟨first, j, listed, name, least⟩ := exists_supplierName (List.ne_nil_of_mem mem)
  rw [name]
  constructor
  · rintro rfl v k other differ
    have same := congrArg Prod.snd (List.inj_on_of_nodup_map nodup mem listed rfl)
    exact frequencyOrder_of_ne ((show n = j from same) ▸ least (v, k) other) differ
  · intro wins
    by_contra differ
    have before := frequencyOrder_neg.mp (wins first j listed differ)
    have after := frequencyOrder_nonpos.mp (least (w, n) mem)
    rcases before with more | ⟨same, less⟩
    · rcases after with more' | ⟨same', -⟩ <;> simp only at * <;> omega
    · rcases after with more' | ⟨-, le⟩
      · simp only at *
        omega
      · exact absurd less (not_lt.mpr le)

end Winner

/-! ### Two ways of counting -/

/-- A spelling and a number of documents that a row has of it. -/
def spelling (merchantName : Option String) (documentCount : Nat) : Option (String × Nat) :=
  (trimmedOrNone merchantName).map fun name => (name, documentCount)

/-- The count of the last row of each spelling. -/
def lastCounts (spellings : List (String × Nat)) : List (String × Nat) :=
  Relational.collect Prod.fst (fun _ e => e.2) spellings

/-- The sum of the counts of each spelling. -/
def summedCounts (spellings : List (String × Nat)) : List (String × Nat) :=
  Relational.collect Prod.fst (fun count e => count.getD 0 + e.2) spellings

def total (spellings : List (String × Nat)) (w : String) : Nat :=
  ((rowsAt Prod.fst spellings w).map Prod.snd).sum

section Counting

variable {spellings : List (String × Nat)} {w : String} {n : Nat}

theorem displayNames_eq (rows : List SupplierSpendRow) (group : SupplierGroup) :
    (rows.foldl SupplierGroup.add group).displayNames =
      (rows.filterMap fun row => spelling row.merchantName row.documentCount).foldl
        (fun m e => adjust e.1 (fun _ => e.2) m) group.displayNames := by
  induction rows generalizing group with
  | nil => rfl
  | cons row rows ih =>
      rw [List.foldl_cons, ih, List.filterMap_cons]
      simp only [SupplierGroup.add, spelling]
      cases trimmedOrNone row.merchantName with
      | none => rfl
      | some name => rfl

theorem nameCounts_eq (rows : List SupplierMonthSpendRow) (months : Months) :
    (rows.foldl Months.add months).nameCounts =
      (rows.filterMap fun row => spelling row.merchantName row.documentCount).foldl
        (fun m e => adjust e.1 (fun count => count.getD 0 + e.2) m) months.nameCounts := by
  induction rows generalizing months with
  | nil => rfl
  | cons row rows ih =>
      rw [List.foldl_cons, ih, List.filterMap_cons]
      simp only [Months.add, spelling]
      cases trimmedOrNone row.merchantName with
      | none => rfl
      | some name => rfl

theorem nodup_lastCounts : ((lastCounts spellings).map Prod.fst).Nodup :=
  nodup_keys_collect Prod.fst (fun _ e => e.2) 0 spellings

theorem nodup_summedCounts : ((summedCounts spellings).map Prod.fst).Nodup :=
  nodup_keys_collect Prod.fst (fun count e => count + e.2) 0 spellings

theorem mem_lastCounts : (w, n) ∈ lastCounts spellings ↔
    (∃ e ∈ spellings, e.1 = w) ∧
      (rowsAt Prod.fst spellings w).foldl (fun _ e => e.2) 0 = n :=
  mem_collect Prod.fst (fun _ e => e.2) 0

theorem mem_summedCounts : (w, n) ∈ summedCounts spellings ↔
    (∃ e ∈ spellings, e.1 = w) ∧ total spellings w = n := by
  have folded : ∀ (l : List (String × Nat)) (start : Nat),
      l.foldl (fun count e => count + e.2) start = start + (l.map Prod.snd).sum := by
    intro l
    induction l with
    | nil => exact fun start => rfl
    | cons e l ih => exact fun start => by rw [List.foldl_cons, ih, List.map_cons, List.sum_cons,
        add_assoc]
  have counted : (w, n) ∈ summedCounts spellings ↔ _ :=
    mem_collect Prod.fst (fun count e => count + e.2) 0
  rwa [folded, zero_add] at counted

/-- A spelling with a row is counted. -/
theorem exists_lastCounts (mem : ∃ e ∈ spellings, e.1 = w) : ∃ n, (w, n) ∈ lastCounts spellings :=
  ⟨_, mem_lastCounts.mpr ⟨mem, rfl⟩⟩

/-- The count of a spelling is that of one of its rows. -/
theorem mem_of_mem_lastCounts (counted : (w, n) ∈ lastCounts spellings) : (w, n) ∈ spellings := by
  obtain ⟨⟨e, mem, own⟩, last⟩ := mem_lastCounts.mp counted
  have nonempty : rowsAt Prod.fst spellings w ≠ [] :=
    List.ne_nil_of_mem (mem_rowsAt.mpr ⟨mem, own⟩)
  obtain ⟨before, f, split⟩ := (List.eq_nil_or_concat' _).resolve_left nonempty
  have listed : f ∈ rowsAt Prod.fst spellings w := by
    rw [split]
    exact List.mem_append_right before List.mem_cons_self
  rw [split, List.foldl_append] at last
  obtain ⟨mem', rfl⟩ := mem_rowsAt.mp listed
  exact last ▸ mem'

/-- Whatever comes last is what is counted. -/
theorem mem_lastCounts_concat {v : String} {k : Nat} (before : List (String × Nat))
    (differ : v ≠ w) : (w, n) ∈ lastCounts (before ++ [(w, n), (v, k)]) ∧
      (v, k) ∈ lastCounts (before ++ [(w, n), (v, k)]) := by
  refine ⟨mem_lastCounts.mpr ⟨⟨(w, n), by simp, rfl⟩, ?_⟩,
    mem_lastCounts.mpr ⟨⟨(v, k), by simp, rfl⟩, ?_⟩⟩
  · simp [rowsAt, List.filter_append, differ]
  · simp [rowsAt, List.filter_append, differ.symm]

end Counting

/-! ### The documents of a spelling -/

section Rows

variable {α : Type} {merchantName : α → Option String} {count : α → Nat} {rows : List α}
  {w : String}

theorem exists_spelling : (∃ e ∈ rows.filterMap fun row => spelling (merchantName row) (count row),
    e.1 = w) ↔ ∃ row ∈ rows, trimmedOrNone (merchantName row) = some w := by
  simp only [List.mem_filterMap, spelling, Option.map_eq_some_iff]
  constructor
  · rintro ⟨_, ⟨row, mem, name, given, rfl⟩, rfl⟩
    exact ⟨row, mem, given⟩
  · rintro ⟨row, mem, given⟩
    exact ⟨_, ⟨row, mem, w, given, rfl⟩, rfl⟩

theorem total_spellings :
    total (rows.filterMap fun row => spelling (merchantName row) (count row)) w =
      ((rows.filter fun row => decide (trimmedOrNone (merchantName row) = some w)).map
        count).sum := by
  induction rows with
  | nil => rfl
  | cons row rows ih =>
      rw [List.filterMap_cons]
      cases given : trimmedOrNone (merchantName row) with
      | none =>
          rw [List.filter_cons_of_neg (by simp [given])]
          simp only [spelling, given, Option.map_none]
          exact ih
      | some name =>
          simp only [spelling, given, Option.map_some] at ih ⊢
          by_cases own : name = w
          · rw [List.filter_cons_of_pos (by simp [given, own]), List.map_cons, List.sum_cons, ← ih,
              total, rowsAt, List.filter_cons_of_pos (by simp [own]), List.map_cons, List.sum_cons]
            rfl
          · rw [List.filter_cons_of_neg (by simp [given, own]), ← ih, total, rowsAt,
              List.filter_cons_of_neg (by simp [own])]
            rfl

end Rows

section Documents

variable {text : TextFunctions} {db : AnalyticsDb} {canonicalName w : String}

/-- The spellings of a supplier's name with the documents of each raw name. -/
def spellingsOf (text : TextFunctions) (db : AnalyticsDb) (canonicalName : String) :
    List (String × Nat) :=
  (rowsAt text.rowName db.supplierRows canonicalName).filterMap fun row =>
    spelling row.merchantName row.documentCount

/-- The joined documents of a supplier under a spelling. -/
def spelled (text : TextFunctions) (db : AnalyticsDb) (canonicalName w : String) :
    List (PurchaseDocument × Purchase) :=
  db.joined.filter fun e => decide (trimmedOrNone e.2.merchantName = some w) &&
    decide (text.canonicalSupplierName e.2.merchantName = canonicalName)

theorem length_eq_sum {α : Type} (l : List α) : l.length = (l.map fun _ => 1).sum := by simp

/-- The rows of some merchants count their documents. -/
theorem count_supplierRows (p : Option String → Bool) :
    ((db.supplierRows.filter fun row => p row.merchantName).map
      SupplierSpendRow.documentCount).sum =
      (db.joined.filter fun e => p e.2.merchantName).length := by
  rw [AnalyticsDb.supplierRows, length_eq_sum]
  refine sum_filter_groupBy ?_ ?_ db.joined
  · exact fun _ own => length_eq_sum own
  · exact fun _ _ => rfl

theorem total_spellingsOf :
    total (spellingsOf text db canonicalName) w = (spelled text db canonicalName w).length := by
  rw [spellingsOf, total_spellings, rowsAt, List.filter_filter]
  exact count_supplierRows fun name => decide (trimmedOrNone name = some w) &&
    decide (text.canonicalSupplierName name = canonicalName)

theorem exists_spellingsOf : (∃ e ∈ spellingsOf text db canonicalName, e.1 = w) ↔
    ∃ e, e ∈ spelled text db canonicalName w := by
  rw [spellingsOf, exists_spelling]
  simp only [mem_rowsAt, spelled, List.mem_filter, Bool.and_eq_true, decide_eq_true_eq]
  constructor
  · rintro ⟨row, ⟨mem, own⟩, given⟩
    obtain ⟨_, ⟨e, joined, rfl⟩, rfl⟩ := mem_groupBy.mp mem
    exact ⟨e, joined, given, own⟩
  · rintro ⟨e, joined, given, own⟩
    exact ⟨_, ⟨mem_groupBy.mpr ⟨_, ⟨e, joined, rfl⟩, rfl⟩, own⟩, given⟩

variable {merchantNames : List String} {hasNullMerchant : Bool} {rows : List SupplierMonthSpendRow}

theorem count_monthRows (selects : Selects text db canonicalName merchantNames hasNullMerchant) :
    (((db.monthRows merchantNames hasNullMerchant).filter fun row =>
      decide (trimmedOrNone row.merchantName = some w)).map
        SupplierMonthSpendRow.documentCount).sum = (spelled text db canonicalName w).length := by
  rw [monthRows_eq selects, spelled, ← List.filter_filter, length_eq_sum]
  refine sum_filter_groupBy
    (p := fun key : Option String × Option (Int × Nat) => decide (trimmedOrNone key.1 = some w))
    ?_ ?_ _
  · exact fun _ own => length_eq_sum own
  · exact fun _ _ => rfl

/-- The months of a supplier count the same documents. -/
theorem total_monthRows
    (selects : Selects text db canonicalName merchantNames hasNullMerchant)
    (same : rows.Perm (db.monthRows merchantNames hasNullMerchant)) :
    total (rows.filterMap fun row => spelling row.merchantName row.documentCount) w =
      total (spellingsOf text db canonicalName) w := by
  rw [total_spellings, total_spellingsOf, ← count_monthRows selects]
  exact ((same.filter _).map _).sum_eq

theorem exists_monthRows
    (selects : Selects text db canonicalName merchantNames hasNullMerchant)
    (same : rows.Perm (db.monthRows merchantNames hasNullMerchant)) :
    (∃ e ∈ rows.filterMap fun row => spelling row.merchantName row.documentCount, e.1 = w) ↔
      ∃ e ∈ spellingsOf text db canonicalName, e.1 = w := by
  rw [exists_spelling, exists_spellingsOf]
  simp only [same.mem_iff, monthRows_eq selects, mem_groupBy, spelled, List.mem_filter,
    Bool.and_eq_true, decide_eq_true_eq]
  constructor
  · rintro ⟨row, ⟨_, ⟨e, ⟨joined, own⟩, rfl⟩, rfl⟩, given⟩
    exact ⟨e, joined, given, own⟩
  · rintro ⟨e, joined, given, own⟩
    exact ⟨_, ⟨_, ⟨e, ⟨joined, own⟩, rfl⟩, rfl⟩, given⟩

end Documents

/-! ### When the views agree -/

/-- A spelling that comes before every other, by its documents taken together and by
those of any of its raw names against any of another's. -/
structure Wins (spellings : List (String × Nat)) (w : String) : Prop where
  listed : ∃ e ∈ spellings, e.1 = w
  summed : ∀ v, (∃ e ∈ spellings, e.1 = v) → v ≠ w →
    frequencyOrder (w, total spellings w) (v, total spellings v) < 0
  each : ∀ n v k, (w, n) ∈ spellings → (v, k) ∈ spellings → v ≠ w →
    frequencyOrder (w, n) (v, k) < 0

/-- A supplier without a spelling, or with one that wins. -/
def Settled (spellings : List (String × Nat)) : Prop := spellings = [] ∨ ∃ w, Wins spellings w

/-- The name under which the views show the supplier with a key: one for every order
of the rows that the queries return. -/
def OneName (text : TextFunctions) (db : AnalyticsDb) (key : String) : Prop :=
  ∃ name, (∀ order, ∀ supplier ∈ (getPurchaseAnalyticsSummary text order db).suppliers,
      supplier.supplierKey = key → supplier.supplierName = name) ∧
    ∀ names months result,
      getSupplierMonthlyPurchaseAnalytics text names months key db = .ok result →
      result.supplierName = name

section Agreement

variable {text : TextFunctions} {db : AnalyticsDb} {canonicalName : String}

/-- The spellings of a supplier in the order of some rows. -/
def spellingsIn (text : TextFunctions) (rows : List SupplierSpendRow) (canonicalName : String) :
    List (String × Nat) :=
  (rowsAt text.rowName rows canonicalName).filterMap fun row =>
    spelling row.merchantName row.documentCount

theorem supplierName_supplierOf (rows : List SupplierSpendRow) :
    (supplierOf text rows canonicalName).supplierName =
      supplierName (lastCounts (spellingsIn text rows canonicalName)) := by
  rw [supplierOf, displayNames_eq]
  rfl

theorem perm_spellingsIn (order : RowOrder SupplierSpendRow) :
    (spellingsIn text (order.arrange db.supplierRows) canonicalName).Perm
      (spellingsOf text db canonicalName) :=
  ((order.perm db.supplierRows).filter _).filterMap _

theorem supplierName_congr {counts counts' : List (String × Nat)}
    (nodup : (counts.map Prod.fst).Nodup) (nodup' : (counts'.map Prod.fst).Nodup)
    (same : ∀ w n, (w, n) ∈ counts ↔ (w, n) ∈ counts') :
    supplierName counts = supplierName counts' := by
  by_cases empty : counts = []
  · have empty' : counts' = [] := List.eq_nil_iff_forall_not_mem.mpr fun e mem => by
      have listed := (same e.1 e.2).mpr mem
      rw [empty] at listed
      cases listed
    rw [empty, empty']
  · obtain ⟨w, n, mem, name, -⟩ := exists_supplierName empty
    rw [name]
    refine ((supplierName_eq_iff nodup' ((same w n).mp mem)).mpr fun v k other differ => ?_).symm
    exact (supplierName_eq_iff nodup mem).mp name v k ((same v k).mpr other) differ

/-- The months show the spelling with the most documents. -/
theorem supplierName_serializeMonths {key : String} {merchantNames : List String}
    {hasNullMerchant : Bool} {rows : List SupplierMonthSpendRow}
    (selects : Selects text db canonicalName merchantNames hasNullMerchant)
    (same : rows.Perm (db.monthRows merchantNames hasNullMerchant)) :
    (serializeMonths key rows).supplierName =
      supplierName (summedCounts (spellingsOf text db canonicalName)) := by
  rw [serializeMonths, nameCounts_eq]
  refine supplierName_congr nodup_summedCounts nodup_summedCounts fun w n => ?_
  change (w, n) ∈ summedCounts _ ↔ _
  rw [mem_summedCounts, mem_summedCounts, exists_monthRows selects same,
    total_monthRows selects same]

/-- The summary shows a winner whatever the order. -/
theorem supplierName_of_wins {spellings spellings' : List (String × Nat)} {w : String}
    (wins : Wins spellings w) (same : spellings'.Perm spellings) :
    supplierName (lastCounts spellings') = w ∧ supplierName (summedCounts spellings) = w := by
  obtain ⟨e, mem, own⟩ := wins.listed
  obtain ⟨n, counted⟩ := exists_lastCounts ⟨e, same.mem_iff.mpr mem, own⟩
  constructor
  · refine (supplierName_eq_iff nodup_lastCounts counted).mpr fun v k other differ => ?_
    exact wins.each n v k (same.mem_iff.mp (mem_of_mem_lastCounts counted))
      (same.mem_iff.mp (mem_of_mem_lastCounts other)) differ
  · have summed := mem_summedCounts.mpr ⟨⟨e, mem, own⟩, rfl⟩
    refine (supplierName_eq_iff nodup_summedCounts summed).mpr fun v k other differ => ?_
    obtain ⟨listed, rfl⟩ := mem_summedCounts.mp other
    exact wins.summed v listed differ

/-- An order of the rows in which two spellings are counted as they are. -/
theorem exists_order {w v : String} {n k : Nat}
    (mem : (w, n) ∈ spellingsOf text db canonicalName)
    (mem' : (v, k) ∈ spellingsOf text db canonicalName) (differ : v ≠ w) :
    ∃ order : RowOrder SupplierSpendRow,
      (w, n) ∈ lastCounts (spellingsIn text (order.arrange db.supplierRows) canonicalName) ∧
      (v, k) ∈ lastCounts (spellingsIn text (order.arrange db.supplierRows) canonicalName) := by
  obtain ⟨first, listed, shown⟩ := List.mem_filterMap.mp mem
  obtain ⟨second, listed', shown'⟩ := List.mem_filterMap.mp mem'
  obtain ⟨stored, own⟩ := mem_rowsAt.mp listed
  obtain ⟨stored', own'⟩ := mem_rowsAt.mp listed'
  have apart : second ≠ first := by
    rintro rfl
    exact differ (congrArg Prod.fst (Option.some.inj (shown'.symm.trans shown)))
  refine ⟨.lastTwo first second, ?_⟩
  have last : spellingsIn text ((RowOrder.lastTwo first second).arrange db.supplierRows)
      canonicalName = spellingsIn text ((db.supplierRows.erase first).erase second)
        canonicalName ++ [(w, n), (v, k)] := by
    rw [RowOrder.lastTwo_arrange stored stored' apart, spellingsIn, rowsAt, List.filter_append,
      List.filterMap_append]
    have both : [first, second].filter (fun row => decide (text.rowName row = canonicalName)) =
        [first, second] := by simp [own, own']
    have pairs : [first, second].filterMap (fun row =>
        spelling row.merchantName row.documentCount) = [(w, n), (v, k)] := by simp [shown, shown']
    rw [both, pairs]
    rfl
  rw [last]
  exact mem_lastCounts_concat _ differ

/-- The summary shows what the months do in every order exactly if a spelling wins. -/
theorem settled_iff : (∀ order : RowOrder SupplierSpendRow,
      supplierName (lastCounts (spellingsIn text (order.arrange db.supplierRows) canonicalName)) =
        supplierName (summedCounts (spellingsOf text db canonicalName))) ↔
    Settled (spellingsOf text db canonicalName) := by
  constructor
  · intro agree
    by_cases empty : spellingsOf text db canonicalName = []
    · exact .inl empty
    · obtain ⟨e, listed⟩ := List.exists_mem_of_ne_nil _ empty
      have nonempty : summedCounts (spellingsOf text db canonicalName) ≠ [] :=
        List.ne_nil_of_mem (mem_summedCounts.mpr ⟨⟨e, listed, rfl⟩, rfl⟩)
      obtain ⟨w, n, mem, name, -⟩ := exists_supplierName nonempty
      obtain ⟨own, rfl⟩ := mem_summedCounts.mp mem
      refine .inr ⟨w, own, fun v other differ => ?_, fun n v k mine other differ => ?_⟩
      · exact (supplierName_eq_iff nodup_summedCounts mem).mp name v _
          (mem_summedCounts.mpr ⟨other, rfl⟩) differ
      · obtain ⟨order, counted, counted'⟩ := exists_order mine other differ
        exact (supplierName_eq_iff nodup_lastCounts counted).mp ((agree order).trans name) v k
          counted' differ
  · rintro (empty | ⟨w, wins⟩) order
    · have none_ : (spellingsIn text (order.arrange db.supplierRows) canonicalName).Perm
          (spellingsOf text db canonicalName) := perm_spellingsIn order
      rw [empty] at none_ ⊢
      rw [none_.eq_nil]
      rfl
    · obtain ⟨shown, summed⟩ := supplierName_of_wins wins (perm_spellingsIn order)
      rw [shown, summed]

/-- A key that has months is one of a merchant with documents. -/
theorem exists_merchant {key : String} {names : RowOrder (Option String)}
    {months : RowOrder SupplierMonthSpendRow} {result : SupplierMonths}
    (found : getSupplierMonthlyPurchaseAnalytics text names months key db = .ok result) :
    ∃ name ∈ db.merchantRows, text.supplierKey (text.canonicalSupplierName name) = key := by
  simp only [getSupplierMonthlyPurchaseAnalytics, bind_eq_ok, ensure_eq_ok] at found
  obtain ⟨-, -, -, nonempty, -⟩ := found
  obtain ⟨name, mem⟩ := List.exists_mem_of_ne_nil _ nonempty
  obtain ⟨listed, own⟩ := List.mem_filter.mp mem
  exact ⟨name, (names.perm _).mem_iff.mp listed, of_decide_eq_true own⟩

/-- The suppliers that the summary lists. -/
theorem mem_suppliers {order : RowOrder SupplierSpendRow} {supplier : SupplierSummary} :
    supplier ∈ (getPurchaseAnalyticsSummary text order db).suppliers ↔
      ∃ canonicalName ∈ firstKeys text.rowName (order.arrange db.supplierRows),
        supplier = ⟨text.supplierKey canonicalName,
          supplierName (lastCounts (spellingsIn text (order.arrange db.supplierRows)
            canonicalName)),
          toFixed (supplierOf text (order.arrange db.supplierRows) canonicalName).totalAmount⟩ := by
  change supplier ∈ List.map _ _ ↔ _
  rw [List.mem_map]
  constructor
  · rintro ⟨entry, mem, rfl⟩
    rw [List.mem_insertionSort, buildSupplierGroups_eq, List.mem_map] at mem
    obtain ⟨canonicalName, first, rfl⟩ := mem
    refine ⟨canonicalName, first, ?_⟩
    rw [supplierName_supplierOf]
    rfl
  · rintro ⟨canonicalName, first, rfl⟩
    refine ⟨supplierOf text (order.arrange db.supplierRows) canonicalName, ?_, ?_⟩
    · rw [List.mem_insertionSort, buildSupplierGroups_eq]
      exact List.mem_map_of_mem first
    · rw [supplierName_supplierOf]
      rfl

theorem mem_firstKeys_of_merchant (order : RowOrder SupplierSpendRow) {name : Option String}
    (mem : name ∈ db.merchantRows) : text.canonicalSupplierName name ∈
      firstKeys text.rowName (order.arrange db.supplierRows) := by
  obtain ⟨e, joined, rfl⟩ := mem_merchantRows.mp mem
  exact mem_firstKeys.mpr ⟨_, (order.perm _).mem_iff.mpr
    (mem_groupBy.mpr ⟨_, ⟨e, joined, rfl⟩, rfl⟩), rfl⟩

theorem oneName_iff (apart : NoCollision text db) {name : Option String}
    (mem : name ∈ db.merchantRows) :
    OneName text db (text.supplierKey (text.canonicalSupplierName name)) ↔
      Settled (spellingsOf text db (text.canonicalSupplierName name)) := by
  rw [← settled_iff]
  constructor
  · rintro ⟨shown, summary, monthly⟩ order
    obtain ⟨merchantNames, hasNullMerchant, found, selects⟩ :=
      getSupplierMonthly_eq ⟨id, List.Perm.refl⟩ ⟨id, List.Perm.refl⟩ apart mem
    have months := (supplierName_serializeMonths selects (List.Perm.refl _)).symm.trans
      (monthly _ _ _ found)
    have listed := summary order _
      (mem_suppliers.mpr ⟨_, mem_firstKeys_of_merchant order mem, rfl⟩) rfl
    exact listed.trans months.symm
  · intro agree
    refine ⟨supplierName (summedCounts (spellingsOf text db (text.canonicalSupplierName name))),
      fun order supplier listed own => ?_, fun names months result found => ?_⟩
    · obtain ⟨canonicalName, first, rfl⟩ := mem_suppliers.mp listed
      obtain ⟨name', mem', rfl⟩ := mem_firstKeys_supplierRows first
      have same := supplierKey_inj apart mem' mem own
      simp only [same]
      exact agree order
    · obtain ⟨merchantNames, hasNullMerchant, found', selects⟩ :=
        getSupplierMonthly_eq names months apart mem
      rw [found'] at found
      obtain rfl := Except.ok.inj found
      exact supplierName_serializeMonths selects (months.perm _)

end Agreement

/-- The views name every supplier alike, in every order of the rows, exactly if each
has a spelling that wins both ways of counting. -/
theorem supplierName_settled_iff (text : TextFunctions) (db : AnalyticsDb)
    (apart : NoCollision text db) : (∀ key, OneName text db key) ↔
      ∀ name ∈ db.merchantRows,
        Settled (spellingsOf text db (text.canonicalSupplierName name)) := by
  constructor
  · exact fun agree name mem => (oneName_iff apart mem).mp (agree _)
  · intro settled key
    by_cases known : ∃ name ∈ db.merchantRows,
      text.supplierKey (text.canonicalSupplierName name) = key
    · obtain ⟨name, mem, rfl⟩ := known
      exact (oneName_iff apart mem).mpr (settled name mem)
    · refine ⟨"", fun order supplier listed own => ?_, fun names months result found => ?_⟩
      · obtain ⟨canonicalName, first, rfl⟩ := mem_suppliers.mp listed
        obtain ⟨name, mem, rfl⟩ := mem_firstKeys_supplierRows first
        exact absurd ⟨name, mem, own⟩ known
      · exact absurd (exists_merchant found) known

theorem supplierName_settled_iff_sample : (∀ key, OneName sampleText sampleDb key) ↔
    ∀ name ∈ sampleDb.merchantRows,
      Settled (spellingsOf sampleText sampleDb (sampleText.canonicalSupplierName name)) :=
  supplierName_settled_iff sampleText sampleDb sampleDb_apart

/-- Six purchases: three from "Acme", one from "Acme " and two from "ACME". -/
def rivalDb : AnalyticsDb where
  purchases := (((((Table.empty.insert ⟨"206-1", none, some "Acme"⟩).insert
    ⟨"206-2", none, some "Acme"⟩).insert ⟨"206-3", none, some "Acme"⟩).insert
      ⟨"206-4", none, some "Acme "⟩).insert ⟨"206-5", none, some "ACME"⟩).insert
        ⟨"206-6", none, some "ACME"⟩
  documents := (((((Table.empty.insert (sampleDocument 1 100)).insert
    (sampleDocument 2 100)).insert (sampleDocument 3 100)).insert (sampleDocument 4 100)).insert
      (sampleDocument 5 100)).insert (sampleDocument 6 100)
  items := .empty

/-- The summary shows "ACME" or "Acme", by the order of the rows. -/
theorem rivalDb_unsettled : ¬∀ key, OneName sampleText rivalDb key := by
  intro agree
  obtain ⟨name, shown, -⟩ := agree (sampleText.supplierKey "acme")
  have given : (getPurchaseAnalyticsSummary sampleText ⟨id, List.Perm.refl⟩ rivalDb).suppliers =
      [⟨sampleText.supplierKey "acme", "ACME", "6.00"⟩] := by decide +kernel
  have reversed : (getPurchaseAnalyticsSummary sampleText ⟨List.reverse, List.reverse_perm⟩
      rivalDb).suppliers = [⟨sampleText.supplierKey "acme", "Acme", "6.00"⟩] := by decide +kernel
  have first := shown ⟨id, List.Perm.refl⟩ _ (given ▸ List.mem_singleton_self _) rfl
  have second := shown ⟨List.reverse, List.reverse_perm⟩ _
    (reversed ▸ List.mem_singleton_self _) rfl
  have same : "ACME" = "Acme" := first.trans second.symm
  exact absurd same (by decide)

end ColorfulLife.PurchaseAnalytics
