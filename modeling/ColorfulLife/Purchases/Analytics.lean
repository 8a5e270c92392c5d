/-
Spend by supplier and month (`purchaseAnalytics.ts`).

The summary sums the documents of each raw merchant name and merges the names that
trim and lower to the same one. The monthly view of a supplier goes the other way:
it takes the raw names whose hashed canonical name is the key, and sums their
documents by name and month. Both see every document of a supplier once
(`spend_partition`): each query is a grouping of the same joined rows, and a
grouping loses nothing (`sum_groupBy`).

Sums are exact: `Prisma.Decimal` keeps twenty digits, which a hundred million
documents do not fill.
-/

import ColorfulLife.Calendar.Gregorian
import ColorfulLife.Numeric.Binary64
import ColorfulLife.Relational.Grouping
import ColorfulLife.Relational.Transaction
import ColorfulLife.Schema.Database
import ColorfulLife.Text.Delimited
import ColorfulLife.Text.Regex
import ColorfulLife.Text.Utf16
import Mathlib.Data.Int.Lemmas

namespace ColorfulLife.PurchaseAnalytics

open Relational

/-! ### The tables -/

structure AnalyticsDb where
  purchases : Table Purchase
  documents : Table PurchaseDocument
  items : Table PurchaseItem

/-- `PurchaseDocument_purchaseId_fkey`. -/
def AnalyticsDb.ForeignKeys (db : AnalyticsDb) : Prop :=
  ∀ id document, db.documents.get? id = some document →
    ∃ purchase, db.purchases.get? document.purchaseId = some purchase

structure SupplierSpendRow where
  merchantName : Option String
  totalAmount : Pence
  documentCount : Nat
  deriving DecidableEq, Repr

structure SupplierMonthSpendRow where
  merchantName : Option String
  month : Option String
  totalAmount : Pence
  documentCount : Nat
  deriving DecidableEq, Repr

/-! ### Queries -/

/-- `DATE_TRUNC('month', date)`: a year and a month of it. -/
def monthDate (date : Int) : Int × Nat :=
  let day := Calendar.Date.ofDay (date / 86400000)
  (day.year, day.month)

/-- `TO_CHAR(month, 'YYYY-MM')`. Years before the first are counted backwards from
one. -/
def monthText (month : Int × Nat) : String :=
  let year := (if month.1 ≤ 0 then 1 - month.1 else month.1).toNat
  let digits := if year < 10000 then Binary64.Number.padded 4 year else Nat.toDigits 10 year
  String.ofList (digits ++ '-' :: Binary64.Number.padded 2 (month.2 + 1))

namespace AnalyticsDb

variable (db : AnalyticsDb)

/-- `"PurchaseDocument" AS pd INNER JOIN "Purchase" AS p ON p."id" = pd."purchaseId"`. -/
def joined : List (PurchaseDocument × Purchase) :=
  db.documents.entries.filterMap fun e => (db.purchases.get? e.2.purchaseId).map fun p => (e.2, p)

/-- `_sum: { finalTotalPaid: true }`, null without documents. -/
def documentTotal : Option Pence :=
  if db.documents.entries = [] then none
  else some (db.documents.sum fun _ document => document.finalTotalPaid)

/-- `_sum: { quantity: true }` over the items for inventory. -/
def itemTotal : Option Int :=
  let items := db.items.select fun _ item => decide (item.inventoryDisposition = .inventory)
  if items = [] then none else some (items.map fun e => e.2.quantity).sum

/-- `GROUP BY p."merchantName"`. -/
def supplierRows : List SupplierSpendRow :=
  groupBy (fun e : PurchaseDocument × Purchase => e.2.merchantName)
    (fun name own => ⟨name, (own.map fun e => e.1.finalTotalPaid).sum, own.length⟩) db.joined

/-- `SELECT DISTINCT p."merchantName"` of the purchases with documents. -/
def merchantRows : List (Option String) :=
  ((db.purchases.entries.filter fun e => db.documents.entries.any fun d =>
    decide (d.2.purchaseId = e.1)).map fun e => e.2.merchantName).eraseDups

/-- The documents of some merchants, by name and month. -/
def monthRows (merchantNames : List String) (hasNullMerchant : Bool) :
    List SupplierMonthSpendRow :=
  let matched := db.joined.filter fun e => match e.2.merchantName with
    | some name => decide (name ∈ merchantNames)
    | none => hasNullMerchant
  groupBy (fun e : PurchaseDocument × Purchase =>
      (e.2.merchantName, e.2.sourceOrderDate.map monthDate))
    (fun key own => ⟨key.1, key.2.map monthText, (own.map fun e => e.1.finalTotalPaid).sum,
      own.length⟩) matched

end AnalyticsDb

/-! ### Suppliers -/

def hexDigit (c : Char) : Bool := "abcdef0123456789".toList.contains c

/-- What `digest("hex")` returns for SHA-256. -/
structure HexDigest where
  text : String
  wellFormed : List.Forall₂ (fun accepts c => accepts c = true) (List.replicate 64 hexDigit)
    text.toList

/-- `String.prototype.toLowerCase` and SHA-256 in hexadecimal. -/
structure TextFunctions where
  toLowerCase : String → String
  sha256 : String → HexDigest

/-- By code units. -/
def compareNames (left right : String) : Int :=
  if Utf16.units left < Utf16.units right then -1
  else if Utf16.units right < Utf16.units left then 1
  else 0

/-- The comparator of the spellings of a name: the most frequent first. -/
def frequencyOrder (left right : String × Nat) : Int :=
  if (right.2 : Int) - left.2 ≠ 0 then right.2 - left.2 else compareNames left.1 right.1

/-- The first of the sorted spellings. -/
def supplierName (counts : List (String × Nat)) : String :=
  ((counts.insertionSort fun a b => frequencyOrder a b ≤ 0).head?.map Prod.fst).getD
    "Unknown supplier"

namespace TextFunctions

variable (text : TextFunctions)

def canonicalSupplierName (name : Option String) : String :=
  (name.map fun s => text.toLowerCase (trim s)).getD ""

def supplierKey (canonicalName : String) : String :=
  if canonicalName = "" then "unknown" else "supplier-" ++ (text.sha256 canonicalName).text

end TextFunctions

/-! ### The summary -/

structure SupplierGroup where
  displayNames : List (String × Nat)
  totalAmount : Pence
  deriving DecidableEq, Repr

/-- A row sets the count of its spelling. -/
def SupplierGroup.add (group : SupplierGroup) (row : SupplierSpendRow) : SupplierGroup where
  displayNames := match trimmedOrNone row.merchantName with
    | some displayName => adjust displayName (fun _ => row.documentCount) group.displayNames
    | none => group.displayNames
  totalAmount := group.totalAmount + row.totalAmount

structure Supplier where
  supplierKey : String
  supplierName : String
  totalAmount : Pence
  deriving DecidableEq, Repr

def buildSupplierGroups (text : TextFunctions) (rows : List SupplierSpendRow) : List Supplier :=
  let groups : List (String × SupplierGroup) :=
    Relational.collect (fun row : SupplierSpendRow => text.canonicalSupplierName row.merchantName)
      (fun group row => (group.getD ⟨[], 0⟩).add row) rows
  groups.map fun e => ⟨text.supplierKey e.1, supplierName e.2.displayNames, e.2.totalAmount⟩

/-- The comparator of the suppliers: the highest total first. -/
def amountOrder (left right : Supplier) : Int :=
  if left.totalAmount < right.totalAmount then 1
  else if right.totalAmount < left.totalAmount then -1
  else compareNames left.supplierKey right.supplierKey

structure SupplierSummary where
  supplierKey : String
  supplierName : String
  totalAmount : String
  deriving DecidableEq, Repr

structure PurchaseAnalyticsSummary where
  totalQuantity : Int
  totalAmount : String
  suppliers : List SupplierSummary
  deriving DecidableEq, Repr

def amountString (value : Option Pence) : String := toFixed (value.getD 0)

def serializePurchaseAnalyticsSummary (text : TextFunctions) (totalQuantity : Option Int)
    (totalAmount : Option Pence) (supplierRows : List SupplierSpendRow) :
    PurchaseAnalyticsSummary where
  totalQuantity := totalQuantity.getD 0
  totalAmount := amountString totalAmount
  suppliers := ((buildSupplierGroups text supplierRows).insertionSort fun a b =>
    amountOrder a b ≤ 0).map fun s => ⟨s.supplierKey, s.supplierName, toFixed s.totalAmount⟩

def getPurchaseAnalyticsSummary (text : TextFunctions) (order : RowOrder SupplierSpendRow)
    (db : AnalyticsDb) : PurchaseAnalyticsSummary :=
  serializePurchaseAnalyticsSummary text db.itemTotal db.documentTotal
    (order.arrange db.supplierRows)

/-! ### The months of a supplier -/

inductive AnalyticsError where
  | invalidSupplierKey
  | supplierNotFound
  deriving DecidableEq, Repr

def AnalyticsError.message : AnalyticsError → String
  | .invalidSupplierKey => "Invalid supplier key"
  | .supplierNotFound => "Supplier not found"

/-- `/^supplier-[a-f0-9]{64}$/`. -/
def supplierKeyClasses : List (Char → Bool) :=
  ("supplier-".toList.map fun c d => decide (d = c)) ++ List.replicate 64 hexDigit

def supplierKeyPattern : Regex.Expr :=
  Regex.concat (.start :: (supplierKeyClasses.map .char ++ [.stop]))

/-- What the loop over the rows has collected. -/
structure Months where
  nameCounts : List (String × Nat)
  monthTotals : List (String × Pence)
  undatedTotal : Pence
  deriving DecidableEq, Repr

def Months.add (months : Months) (row : SupplierMonthSpendRow) : Months where
  nameCounts := match trimmedOrNone row.merchantName with
    | some trimmed => adjust trimmed (fun count => count.getD 0 + row.documentCount) months.nameCounts
    | none => months.nameCounts
  monthTotals := match row.month with
    | some month => adjust month (fun total => total.getD 0 + row.totalAmount) months.monthTotals
    | none => months.monthTotals
  undatedTotal := match row.month with
    | some _ => months.undatedTotal
    | none => months.undatedTotal + row.totalAmount

structure MonthSummary where
  month : String
  totalAmount : String
  deriving DecidableEq, Repr

structure SupplierMonths where
  supplierKey : String
  supplierName : String
  months : List MonthSummary
  undatedTotalAmount : String
  deriving DecidableEq, Repr

def serializeMonths (requestedKey : String) (rows : List SupplierMonthSpendRow) :
    SupplierMonths :=
  let collected := rows.foldl Months.add ⟨[], [], 0⟩
  { supplierKey := requestedKey
    supplierName := supplierName collected.nameCounts
    -- the latest month first
    months := (collected.monthTotals.insertionSort fun a b => compareNames b.1 a.1 ≤ 0).map
      fun e => ⟨e.1, toFixed e.2⟩
    undatedTotalAmount := toFixed collected.undatedTotal }

def getSupplierMonthlyPurchaseAnalytics (text : TextFunctions) (names : RowOrder (Option String))
    (months : RowOrder SupplierMonthSpendRow) (requestedKey : String) (db : AnalyticsDb) :
    Except AnalyticsError SupplierMonths := do
  ensure (requestedKey = "unknown" ∨ Regex.test supplierKeyPattern requestedKey.toList)
    AnalyticsError.invalidSupplierKey
  let matchingMerchants := (names.arrange db.merchantRows).filter fun name =>
    decide (text.supplierKey (text.canonicalSupplierName name) = requestedKey)
  ensure (matchingMerchants ≠ []) AnalyticsError.supplierNotFound
  let merchantNames := matchingMerchants.filterMap id
  let hasNullMerchant := matchingMerchants.contains none
  return serializeMonths requestedKey
    (months.arrange (db.monthRows merchantNames hasNullMerchant))

/-! ### Amounts as texts -/

theorem toList_toFixed (p : Pence) : (toFixed p).toList = (if p < 0 then ['-'] else []) ++
    (Text.digits (p.natAbs / 100) ++ '.' :: Binary64.Number.padded 2 (p.natAbs % 100)) := by
  have pence : ∀ r < 100, (if r < 10 then "0" else "").toList ++ Nat.toDigits 10 r =
      Binary64.Number.padded 2 r := by decide
  have digits : ∀ n : Nat, (toString n).toList = Nat.toDigits 10 n := by simp
  rw [← pence _ (Nat.mod_lt _ (by decide)), toFixed]
  simp only [String.toList_append, digits, List.append_assoc, Text.digits]
  split <;> rfl

/-- The text of an amount names it. -/
theorem toFixed_injective : Function.Injective toFixed := by
  intro (p : Int) (q : Int) same
  have chars := congrArg String.toList same
  rw [toList_toFixed, toList_toFixed] at chars
  have sizes : (p < 0 ↔ q < 0) → p.natAbs = q.natAbs := by
    intro signs
    have rest : Text.digits (p.natAbs / 100) ++ ['.'] ++
          Binary64.Number.padded 2 (p.natAbs % 100) =
        Text.digits (q.natAbs / 100) ++ ['.'] ++ Binary64.Number.padded 2 (q.natAbs % 100) := by
      simpa [signs] using chars
    obtain ⟨pounds, pence⟩ := Text.selfDelimiting_digits rfl _ _ _ _ rest
    have pence' := congrArg Binary64.Number.decimal pence
    rw [Binary64.Number.decimal_padded (show p.natAbs % 100 < 10 ^ 2 from Nat.mod_lt _ (by decide)),
      Binary64.Number.decimal_padded (show q.natAbs % 100 < 10 ^ 2 from Nat.mod_lt _ (by decide))]
      at pence'
    omega
  by_cases hp : p < 0 <;> by_cases hq : q < 0
  · exact (Int.natAbs_inj_of_nonpos_of_nonpos hp.le hq.le).mp (sizes (iff_of_true hp hq))
  · rw [if_pos hp, if_neg hq] at chars
    exact absurd chars.symm (Text.digits_ne_minus _ _ _)
  · rw [if_neg hp, if_pos hq] at chars
    exact absurd chars (Text.digits_ne_minus _ _ _)
  · exact (Int.natAbs_inj_of_nonneg_of_nonneg (not_lt.mp hp) (not_lt.mp hq)).mp
      (sizes (iff_of_false hp hq))

/-! ### What the queries sum -/

section Queries

variable {db : AnalyticsDb} {text : TextFunctions} {canonicalName : String}

theorem mem_joined {document : PurchaseDocument} {purchase : Purchase} :
    (document, purchase) ∈ db.joined ↔ ∃ id, db.documents.get? id = some document ∧
      db.purchases.get? document.purchaseId = some purchase := by
  simp only [AnalyticsDb.joined, List.mem_filterMap, Option.map_eq_some_iff, Prod.mk.injEq]
  constructor
  · rintro ⟨⟨id, _⟩, mem, _, found, rfl, rfl⟩
    exact ⟨id, Table.mem_entries.mp mem, found⟩
  · rintro ⟨id, stored, found⟩
    exact ⟨(id, document), Table.mem_entries.mpr stored, purchase, found, rfl, rfl⟩

/-- The join keeps every document. -/
theorem map_joined (keys : db.ForeignKeys) :
    db.joined.map Prod.fst = db.documents.entries.map Prod.snd := by
  have kept : ∀ e ∈ db.documents.entries, ((db.purchases.get? e.2.purchaseId).map fun p =>
      (e.2, p)).map Prod.fst = some e.2 := by
    rintro ⟨id, document⟩ mem
    obtain ⟨purchase, found⟩ := keys id document (Table.mem_entries.mp mem)
    rw [found]
    rfl
  rw [AnalyticsDb.joined, List.map_filterMap, List.filterMap_congr kept,
    List.filterMap_eq_map']

/-- The spend of the joined documents that satisfy `p`. -/
def spend (db : AnalyticsDb) (p : Option String → Bool) : Pence :=
  ((db.joined.filter fun e => p e.2.merchantName).map fun e => e.1.finalTotalPaid).sum

theorem spend_all (keys : db.ForeignKeys) :
    spend db (fun _ => true) = db.documents.sum fun _ d => d.finalTotalPaid := by
  rw [spend, List.filter_true, ← Function.comp_def, ← List.map_map, map_joined keys, List.map_map]
  rfl

theorem amountString_documentTotal (db : AnalyticsDb) :
    amountString db.documentTotal = toFixed (db.documents.sum fun _ d => d.finalTotalPaid) := by
  rw [amountString, AnalyticsDb.documentTotal]
  split
  · rename_i none_
    rw [Table.sum, none_]
    rfl
  · rfl

theorem mem_merchantRows {name : Option String} :
    name ∈ db.merchantRows ↔ ∃ e ∈ db.joined, e.2.merchantName = name := by
  simp only [AnalyticsDb.merchantRows, List.mem_eraseDups, List.mem_map, List.mem_filter,
    List.any_eq_true, decide_eq_true_eq]
  constructor
  · rintro ⟨⟨id, purchase⟩, ⟨stored, ⟨k, document⟩, mem, own⟩, rfl⟩
    refine ⟨(document, purchase), mem_joined.mpr ⟨k, Table.mem_entries.mp mem, ?_⟩, rfl⟩
    rw [own]
    exact Table.mem_entries.mp stored
  · rintro ⟨⟨document, purchase⟩, mem, rfl⟩
    obtain ⟨k, stored, found⟩ := mem_joined.mp mem
    exact ⟨(document.purchaseId, purchase), ⟨Table.mem_entries.mpr found, (k, document),
      Table.mem_entries.mpr stored, rfl⟩, rfl⟩

/-- The rows of some merchants sum up their spend. -/
theorem sum_supplierRows (p : Option String → Bool) :
    ((db.supplierRows.filter fun row => p row.merchantName).map
      SupplierSpendRow.totalAmount).sum = spend db p := by
  rw [AnalyticsDb.supplierRows, spend]
  refine sum_filter_groupBy ?_ ?_ db.joined
  · exact fun _ _ => rfl
  · exact fun _ _ => rfl

/-- The condition on the merchants selects the documents of a canonical name. -/
def Selects (text : TextFunctions) (db : AnalyticsDb) (canonicalName : String)
    (merchantNames : List String) (hasNullMerchant : Bool) : Prop :=
  ∀ e ∈ db.joined, (match e.2.merchantName with
    | some name => decide (name ∈ merchantNames)
    | none => hasNullMerchant) = decide (text.canonicalSupplierName e.2.merchantName = canonicalName)

variable {merchantNames : List String} {hasNullMerchant : Bool}

theorem monthRows_eq (selects : Selects text db canonicalName merchantNames hasNullMerchant) :
    db.monthRows merchantNames hasNullMerchant =
      groupBy (fun e : PurchaseDocument × Purchase =>
          (e.2.merchantName, e.2.sourceOrderDate.map monthDate))
        (fun key own => ⟨key.1, key.2.map monthText, (own.map fun e => e.1.finalTotalPaid).sum,
          own.length⟩)
        (db.joined.filter fun e =>
          decide (text.canonicalSupplierName e.2.merchantName = canonicalName)) := by
  rw [← List.filter_congr selects]
  rfl

theorem sum_monthRows (selects : Selects text db canonicalName merchantNames hasNullMerchant) :
    ((db.monthRows merchantNames hasNullMerchant).map SupplierMonthSpendRow.totalAmount).sum =
      spend db fun name => decide (text.canonicalSupplierName name = canonicalName) := by
  rw [spend, monthRows_eq selects]
  refine sum_groupBy ?_ _
  exact fun _ _ _ => rfl

theorem merchantName_of_mem {row : SupplierSpendRow} (mem : row ∈ db.supplierRows) :
    row.merchantName ∈ db.merchantRows := by
  obtain ⟨name, listed, rfl⟩ := mem_groupBy.mp mem
  exact mem_merchantRows.mpr listed

end Queries

/-! ### What the loops sum -/

theorem foldl_add_totalAmount (rows : List SupplierSpendRow) (group : SupplierGroup) :
    (rows.foldl SupplierGroup.add group).totalAmount =
      group.totalAmount + (rows.map SupplierSpendRow.totalAmount).sum := by
  induction rows generalizing group with
  | nil => simp
  | cons row rows ih =>
      rw [List.foldl_cons, ih, List.map_cons, List.sum_cons, ← add_assoc]
      rfl

/-- Every row adds to a month or to what is undated. -/
theorem foldl_add_months (rows : List SupplierMonthSpendRow) (months : Months) :
    ((rows.foldl Months.add months).monthTotals.map Prod.snd).sum +
        (rows.foldl Months.add months).undatedTotal =
      (months.monthTotals.map Prod.snd).sum + months.undatedTotal +
        (rows.map SupplierMonthSpendRow.totalAmount).sum := by
  induction rows generalizing months with
  | nil => simp
  | cons row rows ih =>
      have step : ((months.add row).monthTotals.map Prod.snd).sum + (months.add row).undatedTotal =
          (months.monthTotals.map Prod.snd).sum + months.undatedTotal + row.totalAmount := by
        unfold Months.add
        cases row.month with
        | some month =>
            simp only [sum_adjust]
            rw [add_right_comm]
        | none => simp only [add_assoc]
      rw [List.foldl_cons, ih, step, List.map_cons, List.sum_cons, add_assoc]

/-! ### Keys -/

section Keys

variable {text : TextFunctions} {db : AnalyticsDb}

theorem supplierKey_ne_unknown {canonicalName : String} (nonempty : canonicalName ≠ "") :
    text.supplierKey canonicalName ≠ "unknown" := by
  intro same
  rw [TextFunctions.supplierKey, if_neg nonempty] at same
  have chars := congrArg String.toList same
  simp [String.toList_append] at chars

/-- The digests of the names in the database differ where the names do. -/
def NoCollision (text : TextFunctions) (db : AnalyticsDb) : Prop :=
  ∀ name ∈ db.merchantRows, ∀ name' ∈ db.merchantRows,
    (text.sha256 (text.canonicalSupplierName name)).text =
      (text.sha256 (text.canonicalSupplierName name')).text →
    text.canonicalSupplierName name = text.canonicalSupplierName name'

theorem supplierKey_inj (apart : NoCollision text db) {name name' : Option String}
    (mem : name ∈ db.merchantRows) (mem' : name' ∈ db.merchantRows)
    (same : text.supplierKey (text.canonicalSupplierName name) =
      text.supplierKey (text.canonicalSupplierName name')) :
    text.canonicalSupplierName name = text.canonicalSupplierName name' := by
  by_cases empty : text.canonicalSupplierName name = ""
  · by_cases empty' : text.canonicalSupplierName name' = ""
    · rw [empty, empty']
    · rw [empty] at same
      exact absurd same.symm (supplierKey_ne_unknown empty')
  · by_cases empty' : text.canonicalSupplierName name' = ""
    · rw [empty'] at same
      exact absurd same (supplierKey_ne_unknown empty)
    · rw [TextFunctions.supplierKey, if_neg empty, TextFunctions.supplierKey, if_neg empty'] at same
      have chars := congrArg String.toList same
      rw [String.toList_append, String.toList_append] at chars
      exact apart name mem name' mem' (String.toList_injective (List.append_cancel_left chars))

/-- Every key of a supplier is one that may be requested. -/
theorem supplierKey_valid (canonicalName : String) :
    text.supplierKey canonicalName = "unknown" ∨
      Regex.test supplierKeyPattern (text.supplierKey canonicalName).toList = true := by
  by_cases empty : canonicalName = ""
  · exact .inl (if_pos empty)
  · refine .inr (Regex.test_classes.mpr ?_)
    rw [TextFunctions.supplierKey, if_neg empty, String.toList_append]
    refine List.rel_append ?_ (text.sha256 canonicalName).wellFormed
    exact List.forall₂_map_left_iff.mpr (List.forall₂_same.mpr fun c _ => decide_eq_true rfl)

end Keys

/-! ### The partition -/

section Partition

variable {text : TextFunctions} {db : AnalyticsDb} {order : RowOrder SupplierSpendRow}

/-- The canonical name that a row is merged under. -/
def TextFunctions.rowName (text : TextFunctions) (row : SupplierSpendRow) : String :=
  text.canonicalSupplierName row.merchantName

/-- The supplier of a canonical name. -/
def supplierOf (text : TextFunctions) (rows : List SupplierSpendRow) (canonicalName : String) :
    Supplier :=
  let group := (rowsAt text.rowName rows canonicalName).foldl SupplierGroup.add ⟨[], 0⟩
  ⟨text.supplierKey canonicalName, supplierName group.displayNames, group.totalAmount⟩

theorem buildSupplierGroups_eq (rows : List SupplierSpendRow) :
    buildSupplierGroups text rows =
      (firstKeys text.rowName rows).map (supplierOf text rows) := by
  change (Relational.collect text.rowName
    (fun group row => (group.getD ⟨[], 0⟩ : SupplierGroup).add row)
    rows).map _ = _
  rw [collect_eq text.rowName SupplierGroup.add ⟨[], 0⟩, List.map_map]
  rfl

theorem totalAmount_supplierOf (rows : List SupplierSpendRow) (canonicalName : String) :
    (supplierOf text rows canonicalName).totalAmount =
      ((rowsAt text.rowName rows canonicalName).map SupplierSpendRow.totalAmount).sum := by
  rw [supplierOf, foldl_add_totalAmount, zero_add]

/-- A supplier has what its merchants were paid. -/
theorem totalAmount_eq_spend (canonicalName : String) :
    (supplierOf text (order.arrange db.supplierRows) canonicalName).totalAmount =
      spend db fun name => decide (text.canonicalSupplierName name = canonicalName) := by
  rw [totalAmount_supplierOf, ← sum_supplierRows]
  exact (((order.perm db.supplierRows).filter _).map _).sum_eq

theorem sum_buildSupplierGroups :
    ((buildSupplierGroups text (order.arrange db.supplierRows)).map Supplier.totalAmount).sum =
      spend db fun _ => true := by
  have rows : ((order.arrange db.supplierRows).map SupplierSpendRow.totalAmount).sum =
      (db.supplierRows.map SupplierSpendRow.totalAmount).sum :=
    ((order.perm db.supplierRows).map _).sum_eq
  have groups : (fun c => (supplierOf text (order.arrange db.supplierRows) c).totalAmount) =
      fun c => ((rowsAt text.rowName (order.arrange db.supplierRows) c).map
        SupplierSpendRow.totalAmount).sum := funext (totalAmount_supplierOf _)
  rw [buildSupplierGroups_eq, List.map_map, Function.comp_def, groups, sum_groups, rows,
    ← sum_supplierRows, List.filter_true]

/-- The listed suppliers are the canonical names of the merchants with documents. -/
theorem mem_firstKeys_supplierRows {canonicalName : String}
    (mem : canonicalName ∈ firstKeys text.rowName (order.arrange db.supplierRows)) :
    ∃ name ∈ db.merchantRows, text.canonicalSupplierName name = canonicalName := by
  obtain ⟨row, listed, own⟩ := mem_firstKeys.mp mem
  exact ⟨row.merchantName, merchantName_of_mem ((order.perm _).mem_iff.mp listed), own⟩

theorem nodup_supplierKeys (apart : NoCollision text db) :
    ((buildSupplierGroups text (order.arrange db.supplierRows)).map
      Supplier.supplierKey).Nodup := by
  rw [buildSupplierGroups_eq, List.map_map]
  refine (nodup_firstKeys _ _).map_on fun c mem c' mem' same => ?_
  obtain ⟨name, listed, rfl⟩ := mem_firstKeys_supplierRows mem
  obtain ⟨name', listed', rfl⟩ := mem_firstKeys_supplierRows mem'
  exact supplierKey_inj apart listed listed' same

variable (names : RowOrder (Option String)) (months : RowOrder SupplierMonthSpendRow)
  {canonicalName : String}

/-- The merchants of a supplier. -/
theorem mem_matchingMerchants (apart : NoCollision text db) {name : Option String}
    (mem : name ∈ db.merchantRows) (name' : Option String) :
    name' ∈ (names.arrange db.merchantRows).filter (fun name' =>
        decide (text.supplierKey (text.canonicalSupplierName name') =
          text.supplierKey (text.canonicalSupplierName name))) ↔
      name' ∈ db.merchantRows ∧
        text.canonicalSupplierName name' = text.canonicalSupplierName name := by
  rw [List.mem_filter, (names.perm _).mem_iff, decide_eq_true_eq]
  constructor
  · rintro ⟨mem', same⟩
    exact ⟨mem', supplierKey_inj apart mem' mem same⟩
  · rintro ⟨mem', same⟩
    exact ⟨mem', congrArg text.supplierKey same⟩

/-- The months of a listed supplier are found, from the documents of its merchants. -/
theorem getSupplierMonthly_eq (apart : NoCollision text db) {name : Option String}
    (mem : name ∈ db.merchantRows) :
    ∃ merchantNames hasNullMerchant,
      getSupplierMonthlyPurchaseAnalytics text names months
          (text.supplierKey (text.canonicalSupplierName name)) db =
        .ok (serializeMonths (text.supplierKey (text.canonicalSupplierName name))
          (months.arrange (db.monthRows merchantNames hasNullMerchant))) ∧
      Selects text db (text.canonicalSupplierName name) merchantNames hasNullMerchant := by
  have matching := mem_matchingMerchants names apart mem
  generalize matched : (names.arrange db.merchantRows).filter (fun name' =>
    decide (text.supplierKey (text.canonicalSupplierName name') =
      text.supplierKey (text.canonicalSupplierName name))) = merchants at matching
  have nonempty : merchants ≠ [] := List.ne_nil_of_mem ((matching name).mpr ⟨mem, rfl⟩)
  refine ⟨merchants.filterMap id, merchants.contains none, ?_, ?_⟩
  · simp only [getSupplierMonthlyPurchaseAnalytics]
    rw [ensure_of (supplierKey_valid _), matched]
    change (do ensure (merchants ≠ []) _; _ : Except _ _) = _
    rw [ensure_of nonempty]
    rfl
  · rintro ⟨document, purchase⟩ joined
    have listed := mem_merchantRows.mpr ⟨_, joined, rfl⟩
    cases own : purchase.merchantName with
    | some s =>
        simp only [own] at listed ⊢
        rw [decide_eq_decide, List.mem_filterMap]
        simp only [id_eq, exists_eq_right, matching, listed, true_and]
    | none =>
        simp only [own] at listed ⊢
        rw [List.contains_eq_mem, decide_eq_decide, matching]
        simp only [listed, true_and]

/-- The months of a supplier and what is undated sum up its spend. -/
theorem sum_serializeMonths {key : String} {merchantNames : List String} {hasNullMerchant : Bool}
    (selects : Selects text db canonicalName merchantNames hasNullMerchant) :
    ∃ amounts : List Pence, ∃ undated : Pence,
      (serializeMonths key (months.arrange (db.monthRows merchantNames hasNullMerchant))).months.map
          MonthSummary.totalAmount = amounts.map toFixed ∧
      (serializeMonths key (months.arrange
          (db.monthRows merchantNames hasNullMerchant))).undatedTotalAmount = toFixed undated ∧
      amounts.sum + undated =
        spend db fun name => decide (text.canonicalSupplierName name = canonicalName) := by
  generalize rows_ : months.arrange (db.monthRows merchantNames hasNullMerchant) = rows
  have collected := foldl_add_months rows ⟨[], [], 0⟩
  have total : (rows.map SupplierMonthSpendRow.totalAmount).sum =
      spend db fun name => decide (text.canonicalSupplierName name = canonicalName) := by
    rw [← sum_monthRows selects, ← rows_]
    exact ((months.perm _).map _).sum_eq
  rw [total] at collected
  refine ⟨(((rows.foldl Months.add ⟨[], [], 0⟩).monthTotals.insertionSort fun a b =>
    compareNames b.1 a.1 ≤ 0)).map Prod.snd, (rows.foldl Months.add ⟨[], [], 0⟩).undatedTotal,
    ?_, rfl, ?_⟩
  · rw [serializeMonths, List.map_map, List.map_map]
    rfl
  · rw [((List.perm_insertionSort _ _).map Prod.snd).sum_eq, collected]
    simp

end Partition

/-- What was paid for the documents whose merchant has this canonical name. -/
def supplierSpend (text : TextFunctions) (db : AnalyticsDb) (canonicalName : String) : Pence :=
  spend db fun name => decide (text.canonicalSupplierName name = canonicalName)

/-- The suppliers of the summary are distinct, each has what was paid for its documents,
and together they have what was paid for all of them; the months of each with what is
undated sum to its own. -/
theorem spend_partition (text : TextFunctions) (db : AnalyticsDb) (keys : db.ForeignKeys)
    (apart : NoCollision text db) (order : RowOrder SupplierSpendRow)
    (names : RowOrder (Option String)) (months : RowOrder SupplierMonthSpendRow) :
    let summary := getPurchaseAnalyticsSummary text order db
    let paid := db.documents.sum fun _ document => document.finalTotalPaid
    (summary.suppliers.map SupplierSummary.supplierKey).Nodup ∧
    summary.totalAmount = toFixed paid ∧
    (∃ totals : List Pence, summary.suppliers.map SupplierSummary.totalAmount = totals.map toFixed) ∧
    (∀ totals : List Pence,
      summary.suppliers.map SupplierSummary.totalAmount = totals.map toFixed → totals.sum = paid) ∧
    ∀ supplier ∈ summary.suppliers, ∃ name ∈ db.merchantRows,
      supplier.supplierKey = text.supplierKey (text.canonicalSupplierName name) ∧
      supplier.totalAmount = toFixed (supplierSpend text db (text.canonicalSupplierName name)) ∧
      ∃ result, ∃ amounts : List Pence, ∃ undated,
        getSupplierMonthlyPurchaseAnalytics text names months supplier.supplierKey db = .ok result ∧
        result.months.map MonthSummary.totalAmount = amounts.map toFixed ∧
        result.undatedTotalAmount = toFixed undated ∧
        amounts.sum + undated = supplierSpend text db (text.canonicalSupplierName name) := by
  intro summary paid
  have sorted := List.perm_insertionSort (fun a b => amountOrder a b ≤ 0)
    (buildSupplierGroups text (order.arrange db.supplierRows))
  have shown : summary.suppliers.map SupplierSummary.totalAmount =
      (((buildSupplierGroups text (order.arrange db.supplierRows)).insertionSort
        fun a b => amountOrder a b ≤ 0).map Supplier.totalAmount).map toFixed := by
    change (List.map _ _).map _ = _
    rw [List.map_map, List.map_map]
    rfl
  refine ⟨?_, amountString_documentTotal db, ⟨_, shown⟩, fun totals same => ?_, ?_⟩
  · change ((List.map _ _).map _).Nodup
    rw [List.map_map]
    exact ((sorted.map Supplier.supplierKey).nodup_iff).mpr (nodup_supplierKeys apart)
  · rw [← toFixed_injective.list_map (shown.symm.trans same), (sorted.map Supplier.totalAmount).sum_eq,
      sum_buildSupplierGroups, spend_all keys]
  · intro supplier listed
    obtain ⟨entry, mem, rfl⟩ := List.mem_map.mp listed
    rw [sorted.mem_iff, buildSupplierGroups_eq] at mem
    obtain ⟨canonicalName, first, rfl⟩ := List.mem_map.mp mem
    obtain ⟨name, stored, rfl⟩ := mem_firstKeys_supplierRows first
    obtain ⟨merchantNames, hasNullMerchant, found, selects⟩ :=
      getSupplierMonthly_eq names months apart stored
    obtain ⟨amounts, undated, texts, undatedText, total⟩ := sum_serializeMonths months selects
    exact ⟨name, stored, rfl, congrArg toFixed (totalAmount_eq_spend _), _, amounts, undated, found,
      texts, undatedText, total⟩

/-- The digests of the names that the samples have. -/
def sampleText : TextFunctions where
  toLowerCase := toLower
  sha256 := fun name =>
    if name = "acme" then
      ⟨"822b33ad87c148a0a20a5ba7cd5ebcaa68d36a18e7aad165554903f52ca82757", by decide⟩
    else ⟨"e3b0c44298fc1c149afbf4c8996fb92427ae41e4649b934ca495991b7852b855", by decide⟩

def sampleDocument (purchaseId : Nat) (finalTotalPaid : Pence) : PurchaseDocument :=
  ⟨purchaseId, 1, none, "", none, 1, finalTotalPaid, 0, 0, finalTotalPaid⟩

/-- Two spellings of one merchant, and a purchase without one. -/
def sampleDb : AnalyticsDb where
  purchases := ((Table.empty.insert ⟨"206-1", some 1788220800000, some "Acme"⟩).insert
    ⟨"206-2", none, some " ACME"⟩).insert ⟨"206-3", none, none⟩
  documents := ((Table.empty.insert (sampleDocument 1 1010)).insert (sampleDocument 2 500)).insert
    (sampleDocument 3 400)
  items := .empty

theorem sampleDb_keys : sampleDb.ForeignKeys := by
  intro id document found
  have all : sampleDb.documents.entries.all fun e =>
      (sampleDb.purchases.get? e.2.purchaseId).isSome := by decide
  exact Option.isSome_iff_exists.mp (List.all_eq_true.mp all _ (Table.mem_entries.mpr found))

theorem sampleDb_apart : NoCollision sampleText sampleDb := by
  have all : sampleDb.merchantRows.all fun name => sampleDb.merchantRows.all fun name' =>
      !decide ((sampleText.sha256 (sampleText.canonicalSupplierName name)).text =
        (sampleText.sha256 (sampleText.canonicalSupplierName name')).text) ||
      decide (sampleText.canonicalSupplierName name =
        sampleText.canonicalSupplierName name') := by decide +kernel
  intro name mem name' mem' same
  have apart := List.all_eq_true.mp (List.all_eq_true.mp all name mem) name' mem'
  rw [decide_eq_true same, Bool.not_true, Bool.false_or] at apart
  exact of_decide_eq_true apart

/-- "15.10" for Acme and "4.00" without a merchant are the "19.10" of the documents. -/
theorem spend_partition_sample :
    let summary := getPurchaseAnalyticsSummary sampleText ⟨List.reverse, List.reverse_perm⟩ sampleDb
    summary.totalAmount = "19.10" ∧
      summary.suppliers.map SupplierSummary.totalAmount = ["15.10", "4.00"] ∧
      [1510, 400].sum = sampleDb.documents.sum fun _ document => document.finalTotalPaid := by
  obtain ⟨-, total, -, sums, -⟩ := spend_partition sampleText sampleDb sampleDb_keys sampleDb_apart
    ⟨List.reverse, List.reverse_perm⟩ ⟨id, List.Perm.refl⟩ ⟨id, List.Perm.refl⟩
  have shown : (getPurchaseAnalyticsSummary sampleText ⟨List.reverse, List.reverse_perm⟩
      sampleDb).suppliers.map SupplierSummary.totalAmount = ["15.10", "4.00"] := by decide +kernel
  exact ⟨total, shown, sums [1510, 400] shown⟩

end ColorfulLife.PurchaseAnalytics
